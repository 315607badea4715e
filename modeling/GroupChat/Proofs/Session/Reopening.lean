import GroupChat.Proofs.Session.Counting
import GroupChat.Proofs.Session.Findings

/-!
Encrypted chats whose attestation is taken up again. A chat turns encrypted with every position marked,
and neither starting nor receiving turns it back. But to start again puts an attestation that has
finished back to awaiting, and from then on an attestation that disagrees clears the mark of its sender
once more. In no other way does an encrypted chat come to have a position that is not marked.
-/
namespace GroupChat

def Call.Advances : Call → Prop
  | .start | .receive _ => True
  | _ => False

theorem Call.Advances.attests {call : Call} (advances : call.Advances) : call.Attests := by
  cases call with
  | start | receive => trivial
  | _ => exact advances.elim

theorem Call.Advances.lasting {call : Call} (advances : call.Advances) : ¬ call.Renews := by
  rintro (rfl | rfl) <;> exact advances

namespace Chat

variable {chat final : Chat} {calls : List Call} {call : Call} {position : Nat} {tally : Tally}

theorem Becomes.stays_encrypted (becomes : chat.Becomes call final) (advances : call.Advances)
    (encrypted : chat.phase = .encrypted) : final.phase = .encrypted := by
  cases becomes with
  | dropped => exact advances.elim
  | started started =>
    obtain ⟨_, _, _, _, rfl⟩ := Attesting.start_eq_ok.mp started
    exact encrypted
  | checked checked => exact advances.elim
  | received received =>
    obtain ⟨_, _, _, _, _, _, _, _, _, _, _, _, rfl⟩ := Attesting.receive_eq_ok.mp received
    rw [phase_settled]
    split
    · rfl
    · exact encrypted
  | _ => exact encrypted

theorem afterAll_stays_encrypted (advance : ∀ call ∈ calls, call.Advances)
    (encrypted : chat.phase = .encrypted) : (chat.afterAll calls).phase = .encrypted := by
  induction calls generalizing chat with
  | nil => exact encrypted
  | cons call calls ih =>
    obtain ⟨first, others⟩ := List.forall_mem_cons.mp advance
    exact ih others ((chat.becomes call).stays_encrypted first encrypted)

theorem afterAll_goes_on (advance : ∀ call ∈ calls, call.Advances) (held : chat.tally = some tally) :
    ∃ further, (chat.afterAll calls).tally = some further ∧ further.size = tally.size :=
  afterAll_lasts (fun call member => (advance call member).lasting) held

theorem IsCounted.afterAll (counted : chat.IsCounted) (calls : List Call) :
    (chat.afterAll calls).IsCounted := by
  induction calls generalizing chat with
  | nil => exact counted
  | cons call calls ih => exact ih (counted.becomes (chat.becomes call))

theorem exists_turning (plain : chat.phase ≠ .encrypted)
    (encrypted : (chat.afterAll calls).phase = .encrypted) :
    ∃ front call back, calls = front ++ call :: back ∧
      (chat.afterAll front).phase ≠ .encrypted ∧
      ((chat.afterAll front).after call).phase = .encrypted := by
  induction calls generalizing chat with
  | nil => exact absurd encrypted plain
  | cons call calls ih =>
    by_cases turned : (chat.after call).phase = .encrypted
    · exact ⟨[], call, calls, rfl, plain, turned⟩
    · obtain ⟨front, later, back, rfl, before, turned⟩ := ih turned encrypted
      exact ⟨call :: front, later, back, rfl, before, turned⟩

theorem stage_after_receive (finished : chat.progress.stage = .finished) (message : Message) :
    (chat.after (.receive message)).progress.stage = .finished := by
  cases result : Attesting.receive message chat with
  | ok reply final =>
    obtain ⟨_, _, _, _, _, awaiting, _⟩ := Attesting.receive_eq_ok.mp result
    rw [finished] at awaiting
    contradiction
  | error error final =>
    rw [after_receive_of_error result]
    obtain ⟨_, rfl | rfl⟩ | ⟨_, _, _, _, _, awaiting, _⟩ := Attesting.receive_eq_error result
    · exact finished
    · exact finished
    · rw [finished] at awaiting
      contradiction

theorem start_mem_of_awaiting (advance : ∀ call ∈ calls, call.Advances)
    (finished : chat.progress.stage = .finished)
    (awaiting : (chat.afterAll calls).progress.stage = .awaiting) : .start ∈ calls := by
  induction calls generalizing chat with
  | nil =>
    rw [show chat.afterAll [] = chat from rfl, finished] at awaiting
    contradiction
  | cons call calls ih =>
    obtain ⟨first, others⟩ := List.forall_mem_cons.mp advance
    cases call with
    | start => exact List.mem_cons_self
    | receive message =>
      exact List.mem_cons_of_mem _ (ih others (stage_after_receive finished message) awaiting)
    | _ => exact first.elim

theorem finding?_start_ne_false (chat : Chat) (position : Nat) :
    chat.finding? position .start ≠ some false := by
  cases result : Attesting.start chat with
  | ok reply final =>
    rw [finding?_start chat position result]
    split <;> simp
  | error error final => simp [finding?, result]

theorem finding?_receive_eq_false {message : Message} :
    chat.finding? position (.receive message) = some false ↔
      ∃ state, Attesting.receive message chat = .error (.disagrees position) state := by
  cases result : Attesting.receive message chat with
  | ok reply final =>
    rw [finding?_receive chat position result]
    split <;> simp
  | error error final => simp [finding?, result]

/-- What was found out last about a position is that it disagrees: its attestation was refused, after
the chat had turned encrypted and had been started once more. -/
def IsDisputed (chat : Chat) (calls : List Call) (position : Nat) : Prop :=
  ∃ before between message back state,
    calls = before ++ .start :: between ++ .receive message :: back ∧
    (chat.afterAll before).phase = .encrypted ∧
    Attesting.receive message (chat.afterAll (before ++ .start :: between)) =
      .error (.disagrees position) state ∧
    state.findings position back = []

theorem IsDisputed.last_finding (disputed : chat.IsDisputed calls position) :
    (chat.findings position calls).getLast? = some false := by
  obtain ⟨before, between, message, back, state, rfl, _, refused, silent⟩ := disputed
  rw [getLast?_findings_eq_some]
  refine ⟨_, .receive message, back, rfl, finding?_receive_eq_false.mpr ⟨state, refused⟩, ?_⟩
  rwa [after_receive_of_error refused]

theorem isDisputed_of_last_finding (advance : ∀ call ∈ calls, call.Advances)
    (encrypted : chat.phase = .encrypted) (finished : chat.progress.stage = .finished)
    (last : (chat.findings position calls).getLast? = some false) :
    chat.IsDisputed calls position := by
  obtain ⟨front, call, back, rfl, refused, silent⟩ := getLast?_findings_eq_some.mp last
  obtain ⟨earlier, later⟩ := List.forall_mem_append.mp advance
  cases call with
  | start => exact absurd refused (finding?_start_ne_false _ position)
  | receive message =>
    obtain ⟨state, refused⟩ := finding?_receive_eq_false.mp refused
    rw [after_receive_of_error refused] at silent
    obtain ⟨agreeing, _⟩ | ⟨_, _, _, _, _, awaiting, _⟩ := Attesting.receive_eq_error refused
    · exact absurd rfl (agreeing position)
    · have started := start_mem_of_awaiting earlier finished awaiting
      obtain ⟨before, between, rfl⟩ := List.append_of_mem started
      refine ⟨before, between, message, back, state, rfl, ?_, refused, silent⟩
      exact afterAll_stays_encrypted (List.forall_mem_append.mp earlier).1 encrypted
  | _ => exact (later _ List.mem_cons_self).elim

theorem IsDisputed.of_afterAll {front : List Call}
    (disputed : (chat.afterAll front).IsDisputed calls position) :
    chat.IsDisputed (front ++ calls) position := by
  obtain ⟨before, between, message, back, state, rfl, encrypted, refused, silent⟩ := disputed
  refine ⟨front ++ before, between, message, back, state, by simp, ?_, ?_, silent⟩
  · rwa [afterAll_append]
  · rwa [List.append_assoc, afterAll_append]

/-- In an encrypted chat the positions that are not marked are those in dispute. So every position is
marked as long as an encrypted chat is not started once more, or no attestation is refused after it. -/
theorem encrypted_unmarked_iff (idle : chat.tally = none) (plain : chat.phase = .plaintext)
    (advance : ∀ call ∈ calls, call.Advances)
    (encrypted : (chat.afterAll calls).phase = .encrypted) :
    ∃ tally, (chat.afterAll calls).tally = some tally ∧ ∀ position < tally.size,
      (tally.isMarked position = false ↔ chat.IsDisputed calls position) := by
  have attest : ∀ call ∈ calls, call.Attests := fun call member => (advance call member).attests
  have counted : chat.IsCounted := fun tally held => by simp [idle] at held
  have unencrypted : chat.phase ≠ .encrypted := by simp [plain]
  obtain ⟨front, call, back, rfl, before, turned⟩ := exists_turning unencrypted encrypted
  obtain ⟨_, _, full, _, _, held, finished, complete⟩ :=
    ((chat.afterAll front).becomes call).encrypted before turned
  -- At the turning every position is marked, and what is found out from then on is all that counts.
  let turning := (chat.afterAll front).after call
  have all := (counted.afterAll (front ++ [call]) full (by rwa [afterAll_concat])).isComplete_iff.mp
    complete
  have whole : chat.afterAll (front ++ call :: back) = turning.afterAll back := afterAll_append ..
  have late : ∀ call ∈ back, call.Advances := fun call member => advance call (by simp [member])
  obtain ⟨tally, reached, size⟩ := afterAll_goes_on late held
  have progress : (turning.afterAll back).progress = tally := by rw [Chat.progress, reached]; rfl
  refine ⟨tally, whole ▸ reached, fun position inRange => ⟨fun unmarked => ?_, fun disputed => ?_⟩⟩
  · have marked : turning.progress.isMarked position := by
      rw [Chat.progress, held]
      exact all position (size ▸ inRange)
    have record := isMarked_afterAll (fun call member => (late call member).attests) turning position
    rw [progress, unmarked, marked] at record
    have last : (turning.findings position back).getLast? = some false := by
      cases found : (turning.findings position back).getLast? <;> simp_all
    have ended : turning.progress.stage = .finished := by rw [Chat.progress, held]; exact finished
    have disputed := isDisputed_of_last_finding late turned ended last
    have split : front ++ call :: back = (front ++ [call]) ++ back := by simp
    rw [split]
    exact IsDisputed.of_afterAll (by rwa [afterAll_concat])
  · have record := isMarked_afterAll attest chat position
    rwa [whole, progress, disputed.last_finding] at record

/-- Bob has attested to the table of two. Alice, encrypted, starts once more, and hears from Bob that
his table is now one of three. -/
def secondStart : List Call :=
  [.receive (attestationOfBob [.alice, .bob]), .start,
    .receive (attestationOfBob [.alice, .bob, .carol])]

theorem advances_secondStart : ∀ call ∈ secondStart, call.Advances := by
  simp [secondStart, Call.Advances]

theorem afterAll_secondStart :
    let final := (assembled "alice" [.alice, .bob] (.zero _)).afterAll secondStart
    final.phase = .encrypted ∧ final.tally = some ⟨[true, false], 1, .awaiting⟩ := by
  decide +kernel

theorem encrypted_unmarked_iff_pair :
    let chat := assembled "alice" [.alice, .bob] (.zero _)
    chat.tally = none ∧ chat.phase = .plaintext ∧ (∀ call ∈ secondStart, call.Advances) ∧
      (chat.afterAll secondStart).phase = .encrypted ∧ chat.IsDisputed secondStart 1 ∧
      ¬ chat.IsDisputed secondStart 0 := by
  intro chat
  have idle : chat.tally = none := rfl
  have plain : chat.phase = .plaintext := rfl
  obtain ⟨encrypted, reached⟩ := afterAll_secondStart
  obtain ⟨tally, held, marks⟩ := encrypted_unmarked_iff idle plain advances_secondStart encrypted
  obtain rfl := Option.some.inj (held.symm.trans reached)
  refine ⟨idle, plain, advances_secondStart, encrypted, (marks 1 (by decide)).mp rfl, ?_⟩
  intro disputed
  exact absurd ((marks 0 (by decide)).mpr disputed) (by decide)

theorem exists_encrypted_unmarked :
    ∃ (chat : Chat) (calls : List Call) (tally : Tally) (position : Nat),
      chat.tally = none ∧ chat.phase = .plaintext ∧ (∀ call ∈ calls, call.Advances) ∧
      (chat.afterAll calls).phase = .encrypted ∧ (chat.afterAll calls).tally = some tally ∧
      position < tally.size ∧ tally.isMarked position = false := by
  obtain ⟨encrypted, reached⟩ := afterAll_secondStart
  exact ⟨assembled "alice" [.alice, .bob] (.zero _), secondStart, _, 1, rfl, rfl,
    advances_secondStart, encrypted, reached, by decide, rfl⟩

end Chat

end GroupChat
