import GroupChat.Proofs.Wire.Reading

/-!
How many bytes a read needs. A read that takes some bytes does so whatever follows them, and lacks
something when they are cut short. A read that fills its buffer also finds too much when anything
follows. A program of reads takes what its reads take in turn, and it fills the buffer when the last
one of them fills what is left.
-/
namespace GroupChat

variable {ε α β : Type}

theorem prefix_append_cases {cut front back : Bytes} (start : cut <+: front ++ back) :
    (cut <+: front ∧ cut ≠ front) ∨ ∃ kept, cut = front ++ kept ∧ kept <+: back := by
  obtain ⟨lost, whole⟩ := start
  obtain ⟨missing, rfl, -⟩ | ⟨kept, rfl, rfl⟩ := List.append_eq_append_iff.mp whole
  · by_cases complete : missing = []
    · exact .inr ⟨[], by simp [complete], List.nil_prefix⟩
    · exact .inl ⟨List.prefix_append cut missing, by simpa using complete⟩
  · exact .inr ⟨kept, rfl, List.prefix_append kept lost⟩

theorem length_lt_of_prefix {cut whole : Bytes} (start : cut <+: whole) (proper : cut ≠ whole) :
    cut.length < whole.length :=
  Nat.lt_of_le_of_ne start.length_le fun same => proper (start.eq_of_length same)

namespace Reader

def Refuses (reader : Reader ε α) (reasons : ε → Prop) (buffer : Bytes) : Prop :=
  ∃ reason rest, reasons reason ∧ reader buffer = .error (.refused reason) rest

/-- The read lacks something on every start of these bytes but all of them. -/
def NeedsAll (lacks : ε → Prop) (reader : Reader ε α) (bytes : Bytes) : Prop :=
  ∀ cut, cut <+: bytes → cut ≠ bytes → reader.Refuses lacks cut

structure Takes (lacks : ε → Prop) (reader : Reader ε α) (taken : Bytes) (value : α) : Prop where
  ok : ∀ rest, reader (taken ++ rest) = .ok value rest
  needs : reader.NeedsAll lacks taken

structure Fills (lacks : ε → Prop) (exceeds : Nat → ε → Prop) (reader : Reader ε α)
    (buffer : Bytes) : Prop where
  needs : reader.NeedsAll lacks buffer
  extended : ∀ extra, extra ≠ [] → reader.Refuses (exceeds extra.length) (buffer ++ extra)

variable {lacks reasons : ε → Prop} {exceeds : Nat → ε → Prop} {reader : Reader ε α}
  {next : α → Reader ε β} {taken more buffer rest : Bytes} {value : α} {result : β}
  {needed : Nat} {reason : ε}

theorem Refuses.bind (refuses : reader.Refuses reasons buffer) :
    (reader >>= next).Refuses reasons buffer := by
  obtain ⟨reason, rest, among, failed⟩ := refuses
  exact ⟨reason, rest, among, bind_of_error failed⟩

theorem Refuses.after (refuses : (next value).Refuses reasons rest)
    (ok : reader buffer = .ok value rest) : (reader >>= next).Refuses reasons buffer := by
  obtain ⟨reason, left, among, failed⟩ := refuses
  exact ⟨reason, left, among, by rw [bind_of_ok ok, failed]⟩

theorem Refuses.eval_eq (refuses : reader.Refuses reasons buffer) :
    ∃ reason, reasons reason ∧ reader.eval buffer = .error (.refused reason) := by
  obtain ⟨reason, rest, among, failed⟩ := refuses
  exact ⟨reason, among, by rw [eval, failed]⟩

theorem Refuses.eval_refused (refuses : reader.Refuses (Eq reason) buffer) :
    reader.eval buffer = .error (.refused reason) := by
  obtain ⟨_, rfl, failed⟩ := refuses.eval_eq
  exact failed

theorem refuses_ensure (short : buffer.length < needed) (among : reasons reason) :
    (ensure needed reason).Refuses reasons buffer :=
  ⟨reason, buffer, among, if_pos short⟩

theorem NeedsAll.after (second : (next value).NeedsAll lacks more)
    (first : Takes lacks reader taken value) : (reader >>= next).NeedsAll lacks (taken ++ more) := by
  intro cut start proper
  obtain ⟨within, short⟩ | ⟨kept, rfl, beyond⟩ := prefix_append_cases start
  · exact (first.needs cut within short).bind
  · have short : kept ≠ more := fun same => proper (by rw [same])
    exact (second kept beyond short).after (first.ok kept)

theorem takes_pure : Takes lacks (pure value) [] value where
  ok _ := rfl
  needs _ start proper := absurd (List.prefix_nil.mp start) proper

theorem Takes.bind (first : Takes lacks reader taken value)
    (second : Takes lacks (next value) more result) :
    Takes lacks (reader >>= next) (taken ++ more) result where
  ok rest := by rw [List.append_assoc, bind_of_ok (first.ok _), second.ok]
  needs := second.needs.after first

theorem Takes.map (takes : Takes lacks reader taken value) (form : α → β) :
    Takes lacks (reader >>= fun value => pure (form value)) taken (form value) := by
  have both : Takes lacks (reader >>= fun value => pure (form value)) (taken ++ []) (form value) :=
    takes.bind takes_pure
  rwa [List.append_nil] at both

theorem Takes.fills (first : Takes lacks reader taken value)
    (second : Fills lacks exceeds (next value) buffer) :
    Fills lacks exceeds (reader >>= next) (taken ++ buffer) where
  needs := second.needs.after first
  extended extra present := by
    rw [List.append_assoc]
    exact (second.extended extra present).after (first.ok _)

theorem Fills.bind (fills : Fills lacks exceeds reader buffer) :
    Fills lacks exceeds (reader >>= next) buffer where
  needs cut start proper := (fills.needs cut start proper).bind
  extended extra present := (fills.extended extra present).bind

/-- A read after a check of its size needs to be told only of bytes that pass the check. -/
theorem takes_ensure (among : lacks reason) (size : needed ≤ taken.length)
    (ok : ∀ rest, reader (taken ++ rest) = .ok value rest)
    (needs : ∀ cut, cut <+: taken → cut ≠ taken → needed ≤ cut.length →
      reader.Refuses lacks cut) :
    Takes lacks (ensure needed reason >>= fun _ => reader) taken value where
  ok rest := by
    have present : needed ≤ (taken ++ rest).length := by
      rw [List.length_append]
      omega
    rw [bind_of_ok (ensure_of_le present), ok]
  needs cut start proper := by
    by_cases short : cut.length < needed
    · exact (refuses_ensure short among).bind
    · have present := Nat.not_lt.mp short
      exact (needs cut start proper present).after (ensure_of_le present)

theorem Takes.ensured (takes : Takes lacks reader taken value) (among : lacks reason)
    (size : needed ≤ taken.length) :
    Takes lacks (ensure needed reason >>= fun _ => reader) taken value :=
  takes_ensure among size takes.ok fun cut start proper _ => takes.needs cut start proper

theorem takes_sized (among : lacks reason) (size : taken.length = needed)
    (ok : ∀ rest, reader (taken ++ rest) = .ok value rest) :
    Takes lacks (ensure needed reason >>= fun _ => reader) taken value := by
  refine takes_ensure among (Nat.le_of_eq size.symm) ok fun cut start proper present => ?_
  have shorter := length_lt_of_prefix start proper
  omega

theorem takes_size {size : Nat} (among : lacks reason) (fits : (Part.count size).Fits) :
    Takes lacks (ensure Layout.lengthSize reason >>= fun _ => takeNat Layout.lengthSize)
      (Part.count size).bytes size := by
  refine takes_sized among (BigEndian.length_encode _ size) fun rest => ?_
  refine takeNat_eq_ok.mpr ⟨Block.ofValue _ size, ?_, rfl⟩
  rw [Block.value_ofValue]
  exact Nat.mod_eq_of_lt fits

theorem takes_content (among : lacks reason) (content : Bytes) :
    Takes lacks (ensure content.length reason >>= fun _ => take content.length) content content :=
  takes_sized among rfl fun _ => take_eq_ok.mpr ⟨rfl, rfl⟩

theorem Takes.toEnd (takes : Takes lacks reader taken value) (trailing : Nat → ε) :
    Fills lacks (fun count reason => reason = trailing count) (reader.toEnd trailing) taken where
  needs cut start proper := (takes.needs cut start proper).bind
  extended extra present := by
    have excess : ensureEnd trailing extra = .error (.refused (trailing extra.length)) extra := by
      cases extra with
      | nil => exact absurd rfl present
      | cons => rfl
    refine ⟨_, extra, rfl, ?_⟩
    rw [Reader.toEnd, bind_of_ok (takes.ok extra), bind_of_error excess]

end Reader

end GroupChat
