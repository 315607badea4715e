import GroupChat.Text.Quoted
import Mathlib.Data.List.Chain
import Mathlib.Data.List.TakeWhile

/-!
What quoting keeps. The ranges of hidden characters ascend and none touches the next, so a hidden
character is in one of them only. A quoted text shows throughout, and it can be read back: a text
begins with no more than one quoted text, which tells the text that was quoted.
-/
namespace GroupChat

namespace Hidden

/-- One range ends before another one begins, with characters between them. -/
def Below (first second : Nat × Nat) : Prop :=
  first.1 ≤ first.2 ∧ first.2 + 1 < second.1

instance (first second : Nat × Nat) : Decidable (Below first second) :=
  inferInstanceAs (Decidable (_ ∧ _))

def Holds (range : Nat × Nat) (number : Nat) : Prop := range.1 ≤ number ∧ number ≤ range.2

instance : Trans Below Below Below where
  trans := by
    intro a b c ab bc
    unfold Below at *
    omega

theorem ranges_ascend : ranges.Pairwise Below := by
  have chain : ranges.IsChain Below := by decide +kernel
  exact chain.pairwise

theorem eq_of_holds {ranges : List (Nat × Nat)} {range other : Nat × Nat} {number : Nat}
    (ascend : ranges.Pairwise Below) (member : range ∈ ranges) (otherMember : other ∈ ranges)
    (holds : Holds range number) (otherHolds : Holds other number) : other = range := by
  induction ascend with
  | nil => simp at member
  | cons below _ ih =>
    unfold Holds Below at *
    cases member with
    | head =>
      cases otherMember with
      | head => rfl
      | tail _ later =>
        have gap := below other later
        omega
    | tail _ later =>
      cases otherMember with
      | head =>
        have gap := below range later
        omega
      | tail _ otherLater => exact ih later otherLater

theorem isHidden_iff_mem (c : Char) :
    isHidden c = true ↔ ∃ range ∈ ranges, Holds range c.toNat := by
  simp [isHidden, Holds]

theorem isHidden_iff (c : Char) :
    isHidden c = true ↔ ∃! range, range ∈ ranges ∧ Holds range c.toNat := by
  rw [isHidden_iff_mem]
  constructor
  · rintro ⟨range, member, holds⟩
    refine ⟨range, ⟨member, holds⟩, ?_⟩
    rintro other ⟨otherMember, otherHolds⟩
    exact eq_of_holds ranges_ascend member otherMember holds otherHolds
  · rintro ⟨range, ⟨member, holds⟩, -⟩
    exact ⟨range, member, holds⟩

theorem isHidden_of_between {front back : List (Nat × Nat)} {first second : Nat × Nat} {c : Char}
    (adjacent : ranges = front ++ first :: second :: back) (after : first.2 < c.toNat)
    (before : c.toNat < second.1) : isHidden c = false := by
  have ascend := ranges_ascend
  rw [adjacent, List.pairwise_append, List.pairwise_cons, List.pairwise_cons] at ascend
  obtain ⟨-, ⟨firstBelow, secondBelow, -⟩, frontBelow⟩ := ascend
  rw [← Bool.not_eq_true, isHidden_iff_mem, adjacent]
  rintro ⟨range, member, holds⟩
  unfold Holds at holds
  simp only [List.mem_append, List.mem_cons] at member
  obtain early | rfl | rfl | late := member
  · have gap := (frontBelow range early first (by simp)).2
    have proper := (firstBelow second (by simp)).1
    omega
  · omega
  · omega
  · have gap := secondBelow range late
    unfold Below at gap
    omega

def IsPrintable (c : Char) : Prop := 0x20 ≤ c.toNat ∧ c.toNat < 0x7f

instance (c : Char) : Decidable (IsPrintable c) := inferInstanceAs (Decidable (_ ∧ _))

theorem isHidden_of_isPrintable {c : Char} (printable : IsPrintable c) : isHidden c = false := by
  have adjacent : ranges = [] ++ (0x0, 0x1f) :: (0x7f, 0xa0) :: ranges.drop 2 := rfl
  exact isHidden_of_between adjacent printable.1 printable.2

end Hidden

namespace Quoted

open Hidden

theorem exists_digit {n : Nat} {c : Char} (member : c ∈ Nat.toDigits 16 n) :
    ∃ d < 16, c = Nat.digitChar d := by
  induction n using Nat.strong_induction_on with
  | _ n ih =>
    rw [Nat.toDigits_eq_if (by decide)] at member
    split at member
    · rename_i small
      exact ⟨n, small, List.mem_singleton.mp member⟩
    · rename_i large
      cases List.mem_append.mp member with
      | inl early => exact ih (n / 16) (by omega) early
      | inr last => exact ⟨n % 16, by omega, List.mem_singleton.mp last⟩

theorem digitChar_inj {d e : Nat} (digit : d < 16) (other : e < 16)
    (same : Nat.digitChar d = Nat.digitChar e) : d = e := by
  have table : ∀ d < 16, ∀ e < 16, Nat.digitChar d = Nat.digitChar e → d = e := by decide
  exact table d digit e other same

theorem isPrintable_digitChar {d : Nat} (digit : d < 16) : IsPrintable (Nat.digitChar d) := by
  have table : ∀ d < 16, IsPrintable (Nat.digitChar d) := by decide
  exact table d digit

theorem toDigits_ne_singleton {n : Nat} (large : 16 ≤ n) (digit : Char) :
    Nat.toDigits 16 n ≠ [digit] := by
  intro same
  rw [Nat.toDigits_of_base_le (by decide) large] at same
  have length := congrArg List.length same
  have some : 0 < (Nat.toDigits 16 (n / 16)).length := Nat.length_toDigits_pos
  simp only [List.length_append, List.length_singleton] at length
  omega

theorem toDigits_inj {m n : Nat} (same : Nat.toDigits 16 m = Nat.toDigits 16 n) : m = n := by
  induction m using Nat.strong_induction_on generalizing n with
  | _ m ih =>
    by_cases small : m < 16
    · rw [Nat.toDigits_of_lt_base small] at same
      by_cases other : n < 16
      · rw [Nat.toDigits_of_lt_base other] at same
        exact digitChar_inj small other (List.cons.inj same).1
      · exact absurd same.symm (toDigits_ne_singleton (by omega) _)
    · by_cases other : n < 16
      · rw [Nat.toDigits_of_lt_base other] at same
        exact absurd same (toDigits_ne_singleton (by omega) _)
      · rw [Nat.toDigits_of_base_le (by decide) (Nat.not_lt.mp small),
          Nat.toDigits_of_base_le (by decide) (Nat.not_lt.mp other)] at same
        obtain ⟨front, last⟩ := List.append_inj' same rfl
        have quotient := ih (m / 16) (by omega) front
        have remainder := digitChar_inj (by omega) (by omega) (List.cons.inj last).1
        omega

/-- The characters that have an escape of their own, and what stands in it after the backslash. -/
def marks : List (Char × Char) :=
  [('"', '"'), ('\\', '\\'), ('\n', 'n'), ('\r', 'r'), ('\t', 't'), ('\x00', '0')]

inductive IsWritten (c : Char) : List Char → Prop
  | marked (mark : Char) (own : (c, mark) ∈ marks) : IsWritten c ['\\', mark]
  | numbered (hidden : isHidden c = true) : IsWritten c (byNumber c)
  | plain (shows : isHidden c = false) (noSlash : c ≠ '\\') (noQuote : c ≠ '"') : IsWritten c [c]

theorem isWritten_escape (c : Char) : IsWritten c (escape c) := by
  unfold escape
  split
  case h_7 noQuote noSlash _ _ _ _ =>
    by_cases hidden : isHidden c = true
    · rw [if_pos hidden]
      exact .numbered hidden
    · rw [if_neg hidden]
      exact .plain (Bool.eq_false_iff.mpr hidden) noSlash noQuote
  all_goals exact .marked _ (by decide)

theorem marks_inj {c d mark : Char} (own : (c, mark) ∈ marks) (other : (d, mark) ∈ marks) :
    c = d := by
  have table : ∀ first ∈ marks, ∀ second ∈ marks, first.2 = second.2 → first.1 = second.1 := by
    decide
  exact table _ own _ other rfl

theorem not_mem_marks_u (c : Char) : (c, 'u') ∉ marks := by
  have table : ∀ first ∈ marks, first.2 ≠ 'u' := by decide
  exact fun own => table _ own rfl

theorem isHidden_of_mem_escape {c d : Char} (member : d ∈ escape c) : isHidden d = false := by
  have written := isWritten_escape c
  generalize escape c = code at member written
  cases written with
  | marked mark own =>
    apply isHidden_of_isPrintable
    simp only [List.mem_cons, List.not_mem_nil, or_false] at member
    obtain rfl | rfl := member
    · decide
    · have table : ∀ first ∈ marks, IsPrintable first.2 := by decide
      exact table _ own
  | numbered hidden =>
    apply isHidden_of_isPrintable
    simp only [byNumber, List.mem_append, List.mem_cons, List.not_mem_nil, or_false] at member
    obtain ((rfl | rfl | rfl) | digit) | rfl := member
    · decide
    · decide
    · decide
    · obtain ⟨value, small, rfl⟩ := exists_digit digit
      exact isPrintable_digitChar small
    · decide
  | plain shows =>
    rwa [List.mem_singleton.mp member]

theorem takeWhile_digits (n : Nat) (rest : List Char) :
    (Nat.toDigits 16 n ++ '\x7d' :: rest).takeWhile (· ≠ '\x7d') = Nat.toDigits 16 n := by
  have unclosed : ∀ c ∈ Nat.toDigits 16 n, decide (c ≠ '\x7d') = true := by
    intro c member
    obtain ⟨value, small, rfl⟩ := exists_digit member
    have table : ∀ d < 16, decide (Nat.digitChar d ≠ '\x7d') = true := by decide
    exact table value small
  rw [List.takeWhile_append_of_pos unclosed]
  simp

theorem byNumber_append (c : Char) (rest : List Char) :
    byNumber c ++ rest = '\\' :: 'u' :: '\x7b' :: (Nat.toDigits 16 c.toNat ++ '\x7d' :: rest) := by
  simp [byNumber]

theorem byNumber_append_inj {c d : Char} {rest other : List Char}
    (same : byNumber c ++ rest = byNumber d ++ other) : c = d ∧ rest = other := by
  simp only [byNumber_append, List.cons.injEq, true_and] at same
  have numbers := congrArg (List.takeWhile (· ≠ '\x7d')) same
  rw [takeWhile_digits, takeWhile_digits] at numbers
  rw [numbers] at same
  have rests := List.append_cancel_left same
  exact ⟨Char.toNat_inj.mp (toDigits_inj numbers), (List.cons.inj rests).2⟩

theorem IsWritten.append_inj {c d : Char} {code otherCode rest other : List Char}
    (written : IsWritten c code) (otherWritten : IsWritten d otherCode)
    (same : code ++ rest = otherCode ++ other) : c = d ∧ rest = other := by
  cases written with
  | marked mark own =>
    cases otherWritten with
    | marked otherMark otherOwn =>
      simp only [List.cons_append, List.nil_append, List.cons.injEq, true_and] at same
      obtain ⟨rfl, rests⟩ := same
      exact ⟨marks_inj own otherOwn, rests⟩
    | numbered =>
      simp only [byNumber_append, List.cons_append, List.cons.injEq, true_and] at same
      rw [same.1] at own
      exact absurd own (not_mem_marks_u c)
    | plain _ noSlash => exact absurd (List.cons.inj same).1.symm noSlash
  | numbered =>
    cases otherWritten with
    | marked otherMark otherOwn =>
      simp only [byNumber_append, List.cons_append, List.cons.injEq, true_and] at same
      rw [← same.1] at otherOwn
      exact absurd otherOwn (not_mem_marks_u d)
    | numbered => exact byNumber_append_inj same
    | plain _ noSlash =>
      rw [byNumber_append] at same
      exact absurd (List.cons.inj same).1.symm noSlash
  | plain _ noSlash =>
    cases otherWritten with
    | marked => exact absurd (List.cons.inj same).1 noSlash
    | numbered =>
      rw [byNumber_append] at same
      exact absurd (List.cons.inj same).1 noSlash
    | plain => exact ⟨(List.cons.inj same).1, (List.cons.inj same).2⟩

theorem IsWritten.ne_quote {c : Char} {code rest other : List Char} (written : IsWritten c code) :
    code ++ rest ≠ '"' :: other := by
  intro same
  cases written with
  | marked => exact absurd (List.cons.inj same).1 (by decide)
  | numbered =>
    rw [byNumber_append] at same
    exact absurd (List.cons.inj same).1 (by decide)
  | plain _ _ noQuote => exact noQuote (List.cons.inj same).1

theorem flatMap_escape_append_inj {text other rest otherRest : List Char}
    (same : text.flatMap escape ++ '"' :: rest = other.flatMap escape ++ '"' :: otherRest) :
    text = other ∧ rest = otherRest := by
  induction text generalizing other with
  | nil =>
    cases other with
    | nil => exact ⟨rfl, (List.cons.inj same).2⟩
    | cons d other =>
      rw [List.flatMap_cons, List.append_assoc] at same
      exact absurd same.symm (isWritten_escape d).ne_quote
  | cons c text ih =>
    rw [List.flatMap_cons, List.append_assoc] at same
    cases other with
    | nil => exact absurd same (isWritten_escape c).ne_quote
    | cons d other =>
      rw [List.flatMap_cons, List.append_assoc] at same
      obtain ⟨rfl, rests⟩ := (isWritten_escape c).append_inj (isWritten_escape d) same
      obtain ⟨rfl, ends⟩ := ih rests
      exact ⟨rfl, ends⟩

theorem toList_quote (text : String) :
    (quote text).toList = '"' :: (text.toList.flatMap escape ++ ['"']) := by
  simp [quote]

theorem isHidden_of_mem_quote {text : String} {c : Char} (member : c ∈ (quote text).toList) :
    isHidden c = false := by
  have ends : isHidden '"' = false := isHidden_of_isPrintable (by decide)
  simp only [toList_quote, List.mem_cons, List.mem_append, List.mem_flatMap, List.not_mem_nil,
    or_false] at member
  obtain rfl | ⟨d, -, inside⟩ | rfl := member
  · exact ends
  · exact isHidden_of_mem_escape inside
  · exact ends

/-- Where a quoted text ends, and what was quoted, can be told from what is written. -/
theorem quote_append_inj {text other : String} {rest otherRest : List Char}
    (same : (quote text).toList ++ rest = (quote other).toList ++ otherRest) :
    text = other ∧ rest = otherRest := by
  simp only [toList_quote, List.cons_append, List.append_assoc, List.nil_append, List.cons.injEq,
    true_and] at same
  obtain ⟨texts, rests⟩ := flatMap_escape_append_inj same
  exact ⟨String.toList_inj.mp texts, rests⟩

theorem quote_injective : Function.Injective quote := by
  intro text other same
  have lists : (quote text).toList ++ [] = (quote other).toList ++ [] := by rw [same]
  exact (quote_append_inj lists).1

end Quoted

end GroupChat
