import GroupChat.Proofs.Session.Findings

/-!
Our own mark. It stands for our attestation having been given out, and as long as it is set the
attestation is not given out again. But to take an attestation in our own name sets the mark as well.
So the mark can be trusted if and only if no such attestation is taken before ours has been given out.
-/
namespace GroupChat

theorem Roster.name_eq_of_positionOf? {roster : Roster} {name other : String} {position : Nat}
    (located : roster.positionOf? name = some position)
    (same : roster.positionOf? other = some position) : name = other := by
  obtain ⟨_, found, _⟩ := List.findIdx?_eq_some_iff_getElem.mp located
  obtain ⟨_, again, _⟩ := List.findIdx?_eq_some_iff_getElem.mp same
  exact (of_decide_eq_true found).symm.trans (of_decide_eq_true again)

def Call.Proceeds : Call → Prop
  | .restart | .start | .receive _ => True
  | _ => False

namespace Chat

variable {chat final : Chat} {calls : List Call} {call : Call} {message : Message} {ours : Nat}

/-- Our attestation has been given out in a run of calls, since the attestation last began anew. -/
def HasAttested (chat : Chat) (calls : List Call) : Prop :=
  ∃ front call back message, calls = front ++ call :: back ∧
    (chat.afterAll front).answer call = .reply (.ok (some message)) ∧
    (chat.afterAll front).attestation = .ok message ∧ .restart ∉ back

def TakesOwn (chat : Chat) (message : Message) : Prop :=
  message.sender = chat.name ∧ ∃ reply final, Attesting.receive message chat = .ok reply final

def MarksOwn (chat : Chat) (calls : List Call) : Prop :=
  ∀ tally ours, (chat.afterAll calls).tally = some tally →
    (chat.afterAll calls).ownPosition? = some ours → tally.isMarked ours → chat.HasAttested calls

theorem not_hasAttested_nil : ¬ chat.HasAttested [] := by
  rintro ⟨front, call, back, message, split, _⟩
  simp at split

theorem HasAttested.concat (attested : chat.HasAttested calls) (lasting : call ≠ .restart) :
    chat.HasAttested (calls ++ [call]) := by
  obtain ⟨front, first, back, message, rfl, answered, attests, kept⟩ := attested
  refine ⟨front, first, back ++ [call], message, by simp, answered, attests, ?_⟩
  simp [kept, lasting.symm]

theorem hasAttested_concat :
    chat.HasAttested (calls ++ [call]) ↔
      (∃ message, (chat.afterAll calls).answer call = .reply (.ok (some message)) ∧
        (chat.afterAll calls).attestation = .ok message) ∨
      (call ≠ .restart ∧ chat.HasAttested calls) := by
  refine ⟨fun attested => ?_, fun attested => ?_⟩
  · obtain ⟨front, first, back, message, split, answered, attests, kept⟩ := attested
    induction back using List.reverseRecOn with
    | nil =>
      obtain ⟨rfl, same⟩ := List.append_inj' split rfl
      obtain rfl := List.singleton_inj.mp same
      exact .inl ⟨message, answered, attests⟩
    | append_singleton back last _ =>
      rw [← List.cons_append, ← List.append_assoc] at split
      obtain ⟨rfl, same⟩ := List.append_inj' split rfl
      obtain rfl := List.singleton_inj.mp same
      rw [List.mem_append, not_or] at kept
      exact .inr ⟨by simpa [eq_comm] using kept.2, front, first, back, message, rfl, answered,
        attests, kept.1⟩
  · obtain ⟨message, answered, attests⟩ | ⟨lasting, attested⟩ := attested
    · exact ⟨calls, call, [], message, rfl, answered, attests, List.not_mem_nil⟩
    · exact attested.concat lasting

theorem table_after (proceeds : call.Proceeds) :
    (chat.after call).roster = chat.roster ∧ (chat.after call).name = chat.name := by
  cases call with
  | restart => exact ⟨rfl, rfl⟩
  | start =>
    rw [after, Attesting.leaves]
    cases result : Attesting.start chat with
    | ok reply final =>
      obtain ⟨_, _, _, _, rfl⟩ := Attesting.start_eq_ok.mp result
      exact ⟨rfl, rfl⟩
    | error error final =>
      rw [Attesting.final_of_start_eq_error result]
      exact ⟨rfl, rfl⟩
  | receive message =>
    rw [after, Attesting.leaves]
    cases result : Attesting.receive message chat with
    | ok reply final =>
      obtain ⟨_, _, _, _, _, _, rfl⟩ := Attesting.receive_eq_ok_iff_admits.mp result
      rw [finalState, settled]
      split <;> exact ⟨rfl, rfl⟩
    | error error final =>
      obtain ⟨_, rfl⟩ := Attesting.receive_eq_error_iff.mp result
      cases error <;> exact ⟨rfl, rfl⟩
  | _ => exact proceeds.elim

theorem ownPosition?_after (proceeds : call.Proceeds) :
    (chat.after call).ownPosition? = chat.ownPosition? := by
  rw [ownPosition?, (table_after proceeds).1, (table_after proceeds).2, ownPosition?]

theorem own_mark_after (proceeds : call.Proceeds) (ourPlace : chat.ownPosition? = some ours)
    (marked : (chat.after call).progress.isMarked ours) :
    call ≠ .restart ∧
      (chat.progress.isMarked ours ∨
        (∃ message, chat.answer call = .reply (.ok (some message)) ∧
          chat.attestation = .ok message) ∨
        ∃ message, call = .receive message ∧ chat.TakesOwn message) := by
  cases call with
  | restart =>
    rw [after, restart, progress_withTally, Tally.isMarked_fresh] at marked
    contradiction
  | start =>
    refine ⟨by simp, ?_⟩
    rw [isMarked_after_start] at marked
    cases result : Attesting.start chat with
    | error error final => exact .inl (by simpa [finding?, result] using marked)
    | ok reply final =>
      cases reply with
      | none => exact .inl (by simpa [finding?_start chat ours result] using marked)
      | some own =>
        refine .inr (.inl ⟨own, ?_, Emits.attestation ⟨final, .inl result⟩⟩)
        rw [answer, result, outcome]
  | receive message =>
    refine ⟨by simp, ?_⟩
    rw [isMarked_after_receive] at marked
    cases result : Attesting.receive message chat with
    | error error final =>
      refine .inl ?_
      by_cases disagrees : error = .disagrees ours
      · simp [finding?, result, disagrees] at marked
      · simpa [finding?, result, disagrees] using marked
    | ok reply final =>
      cases reply with
      | some own =>
        refine .inr (.inl ⟨own, ?_, Emits.attestation ⟨final, .inr ⟨message, result⟩⟩⟩)
        rw [answer, result, outcome]
      | none =>
        rw [finding?_receive chat ours result] at marked
        by_cases theirs : chat.roster.positionOf? message.sender = some ours
        · have sender := Roster.name_eq_of_positionOf? theirs ourPlace
          exact .inr (.inr ⟨message, rfl, sender, none, final, result⟩)
        · exact .inl (by simpa [theirs] using marked)
  | _ => exact proceeds.elim

theorem TakesOwn.received (takes : chat.TakesOwn message) :
    ∃ ours tally, chat.answer (.receive message) = .reply (.ok none) ∧
      chat.ownPosition? = some ours ∧ (chat.after (.receive message)).tally = some tally ∧
      tally.isMarked ours := by
  obtain ⟨sender, reply, final, received⟩ := takes
  obtain ⟨_, _, theirs, ours, admits, announced, rfl⟩ :=
    Attesting.receive_eq_ok_iff_admits.mp received
  obtain rfl : ours = theirs := by
    have place := admits.theirPlace
    rw [sender] at place
    exact Option.some.inj (admits.ourPlace.symm.trans place)
  have silent : reply = none := by
    rw [announcement, progress_withTally, Tally.isMarked_judge, if_pos rfl, if_pos rfl] at announced
    exact (Except.ok.inj announced).symm
  subst silent
  have left : chat.after (.receive message) = finalState (Attesting.receive message chat) := rfl
  rw [received] at left
  have held := (congrArg Chat.tally left).trans (tally_settled _)
  refine ⟨ours, _, ?_, admits.ourPlace, held, ?_⟩
  · rw [answer, received, outcome]
  · rw [Tally.isMarked_withStage, progress_withTally, Tally.isMarked_mark, if_pos rfl]

theorem TakesOwn.hasAttested (takes : (chat.afterAll calls).TakesOwn message)
    (marks : chat.MarksOwn (calls ++ [.receive message])) : chat.HasAttested calls := by
  obtain ⟨ours, tally, silent, ourPlace, held, marked⟩ := takes.received
  have proceeds : Call.Proceeds (.receive message) := trivial
  rw [← ownPosition?_after proceeds] at ourPlace
  rw [← afterAll_concat] at held ourPlace
  obtain ⟨own, answered, _⟩ | ⟨_, attested⟩ :=
    hasAttested_concat.mp (marks tally ours held ourPlace marked)
  · rw [silent] at answered
    exact nomatch answered
  · exact attested

/-- Our mark can be trusted throughout a run if and only if no attestation in our name is taken before
ours has been given out. -/
theorem marksOwn_iff (idle : chat.tally = none) (proceed : ∀ call ∈ calls, call.Proceeds) :
    (∀ front, front <+: calls → chat.MarksOwn front) ↔
      ∀ front message, front ++ [.receive message] <+: calls →
        (chat.afterAll front).TakesOwn message → chat.HasAttested front := by
  refine ⟨fun marks front message early takes => takes.hasAttested (marks _ early),
    fun attests front => ?_⟩
  -- The run is followed call by call, and our mark traced back to the call that set it.
  induction front using List.reverseRecOn with
  | nil =>
    intro _ tally _ held
    rw [show chat.afterAll [] = chat from rfl, idle] at held
    contradiction
  | append_singleton front call ih =>
    intro early tally ours held place marked
    have before : front <+: calls := (List.prefix_append front [call]).trans early
    have proceeds : call.Proceeds := proceed call (early.subset (by simp))
    rw [afterAll_concat] at held place
    rw [ownPosition?_after proceeds] at place
    have traced := own_mark_after proceeds place (isMarked_progress_iff.mpr ⟨tally, held, marked⟩)
    rw [hasAttested_concat]
    obtain ⟨lasting, stood | given | ⟨message, rfl, takes⟩⟩ := traced
    · obtain ⟨former, ongoing, stood⟩ := isMarked_progress_iff.mp stood
      exact .inr ⟨lasting, ih before former ours ongoing place stood⟩
    · exact .inl given
    · exact .inr ⟨lasting, attests front message early takes⟩

theorem marksOwn_iff_pair :
    let chat := assembled "alice" [.alice, .bob] (.zero _)
    let calls : List Call := [.receive (attestationOfBob [.alice, .bob])]
    chat.tally = none ∧ (∀ call ∈ calls, call.Proceeds) ∧
      ∀ front, front <+: calls → chat.MarksOwn front := by
  intro chat calls
  have idle : chat.tally = none := rfl
  have proceed : ∀ call ∈ calls, call.Proceeds := by simp [calls, Call.Proceeds]
  refine ⟨idle, proceed, (marksOwn_iff idle proceed).mpr fun front message early takes => ?_⟩
  obtain ⟨rest, whole⟩ := early
  rw [List.append_assoc] at whole
  obtain ⟨rfl, rfl⟩ : front = [] ∧ message = attestationOfBob [.alice, .bob] := by
    cases front <;> simp_all [calls]
  have other : (attestationOfBob [.alice, .bob]).sender ≠ chat.name := by decide +kernel
  exact absurd takes.1 other

/-- What Alice attests comes back to her before she has given it out. -/
theorem exists_own_unattested :
    ∃ (chat : Chat) (calls : List Call), chat.tally = none ∧ (∀ call ∈ calls, call.Proceeds) ∧
      ¬ chat.MarksOwn calls := by
  let chat := assembled "alice" [.alice, .bob] (.zero _)
  let fingerprint := sha512Concat (Roster.keysOn chat.roster.cards)
  let echo := chat.attesting (.zero _) fingerprint
  have place : chat.roster.positionOf? echo.sender = some 0 := by decide +kernel
  have admits := admits_of_pair (show echo.payload = _ from rfl) place (by decide)
  have takes : (chat.afterAll []).TakesOwn echo := ⟨rfl, Attesting.receive_of_admits admits⟩
  refine ⟨chat, [.receive echo], rfl, by simp [Call.Proceeds], fun marks => ?_⟩
  exact not_hasAttested_nil (takes.hasAttested marks)

end Chat

end GroupChat
