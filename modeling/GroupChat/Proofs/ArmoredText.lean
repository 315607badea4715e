import GroupChat.Armor
import GroupChat.Proofs.Base64Spelling

/-!
Armored texts. What stands between the marks of a text is settled by the text, and base 64 has one
text for each byte string; so an armored text is the text of one frame, and every other text is
refused. The body of an armored text is in strict form and spells the frame.
-/
namespace GroupChat.Armor

theorem toList_enclosed (text : String) (body : List Char) :
    text = opening ++ String.ofList body ++ closing ↔
      text.toList = opening.toList ++ (body ++ closing.toList) := by
  rw [← String.toList_inj]
  simp

theorem body?_eq_some_iff {text : String} {body : List Char} :
    body? text = some body ↔ text = opening ++ String.ofList body ++ closing := by
  have length_opening : opening.length = opening.toList.length := rfl
  have take_inner : ∀ inner : List Char, (inner ++ closing.toList).take
      ((inner ++ closing.toList).length - closing.length) = inner := by
    intro inner
    have length_closing : closing.length = closing.toList.length := rfl
    rw [length_closing, List.length_append, Nat.add_sub_cancel, List.take_left]
  rw [toList_enclosed]
  simp only [body?, List.isPrefixOf_iff_prefix, List.isSuffixOf_iff_suffix]
  constructor
  · intro found
    split at found
    case isFalse => cases found
    case isTrue start =>
      obtain ⟨rest, chars⟩ := start
      rw [← chars, length_opening, List.drop_left] at found
      split at found
      case isFalse => cases found
      case isTrue finish =>
        obtain ⟨inner, rfl⟩ := finish
        rw [take_inner] at found
        cases found
        exact chars.symm
  · intro chars
    rw [chars, length_opening, List.drop_left, if_pos (List.prefix_append _ _),
      if_pos (List.suffix_append _ _), take_inner]

theorem decode_eq_ok_iff {text : String} {frame : Bytes} :
    decode text = .ok frame ↔
      ∃ body, text = opening ++ String.ofList body ++ closing ∧ Base64.Spells body frame := by
  have read : decode text = .ok frame ↔ (body? text).bind Base64.decode? = some frame := by
    unfold decode
    cases (body? text).bind Base64.decode? <;> simp
  rw [read, Option.bind_eq_some_iff]
  refine exists_congr fun body => and_congr body?_eq_some_iff ?_
  rw [Base64.decode?_eq_some_iff, Base64.encode_eq_iff]

theorem decode_eq_error_iff {text : String} {error : FrameError} :
    decode text = .error error ↔ error = .notArmored ∧ ∀ frame, decode text ≠ .ok frame := by
  unfold decode
  cases (body? text).bind Base64.decode? <;> simp [eq_comm]

theorem encode_eq_iff {text : String} {frame : Bytes} :
    encode frame = text ↔
      ∃ body, text = opening ++ String.ofList body ++ closing ∧ Base64.Spells body frame := by
  simp only [← Base64.encode_eq_iff]
  constructor
  · rintro rfl
    exact ⟨Base64.encode frame, rfl, rfl⟩
  · rintro ⟨_, rfl, rfl⟩
    rfl

theorem marks_encode (frame : Bytes) :
    isMarked (encode frame) = true ∧ isFragment (encode frame) = false := by
  have chars := (toList_enclosed (encode frame) (Base64.encode frame)).mp rfl
  constructor
  · rw [isMarked, chars]
    rfl
  · rw [isFragment, chars]
    rfl

theorem one_text_for_each_frame :
    (∀ frame, decode (encode frame) = .ok frame) ∧
    (∀ text frame, decode text = .ok frame ↔
      encode frame = text ∧ isMarked text = true ∧ isFragment text = false) ∧
    (∀ text, decode text = .error .notArmored ↔ ∀ frame, encode frame ≠ text) ∧
    (∀ text frame, encode frame = text ↔
      ∃ body, text = opening ++ String.ofList body ++ closing ∧ Base64.Spells body frame) ∧
    ∀ text, (∃ frame, decode text = .ok frame) ↔
      ∃ body, text = opening ++ String.ofList body ++ closing ∧ Base64.IsStrict body := by
  have same : ∀ text frame, decode text = .ok frame ↔ encode frame = text := by
    intro text frame
    rw [decode_eq_ok_iff, encode_eq_iff]
  refine ⟨fun frame => (same _ _).mpr rfl, fun text frame => ?_, fun text => ?_,
    fun text frame => encode_eq_iff, fun text => ?_⟩
  · rw [same]
    constructor
    · rintro rfl
      exact ⟨rfl, marks_encode frame⟩
    · exact And.left
  · rw [decode_eq_error_iff]
    simp [same]
  · simp only [decode_eq_ok_iff, ← Base64.exists_spells_iff]
    exact ⟨fun ⟨frame, body, text, spells⟩ => ⟨body, text, frame, spells⟩,
      fun ⟨body, text, frame, spells⟩ => ⟨frame, body, text, spells⟩⟩

/-- Four bits of the last digit reach beyond the last byte, and one of them is set in the second text. -/
example : encode [0x00, 0x04, 0x07, 0xff] = "?OTR:AAQH/w==." ∧
    decode "?OTR:AAQH/x==." = .error .notArmored := ⟨rfl, rfl⟩

end GroupChat.Armor
