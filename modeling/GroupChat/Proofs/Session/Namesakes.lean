import GroupChat.Proofs.Session.Acceptance
import GroupChat.Proofs.Session.Completion
import GroupChat.Proofs.Session.Grounds
import GroupChat.Proofs.Session.OwnMark

/-!
Tables in which a name occurs twice. Whoever attests, ourselves included, is looked up by name, and a
name leads to its first place. So the second place is never marked, the attestation never finishes, and
the chat stays in plaintext, although there is nothing wrong with any single call.
-/
namespace GroupChat

/-- Nobody who is looked up by name is found at a position, though somebody stands there. -/
structure Roster.IsShadowed (roster : Roster) (position : Nat) : Prop where
  inRange : position < roster.size
  unreachable : ∀ name, roster.positionOf? name ≠ some position

theorem Roster.isShadowed_of_namesakes {roster : Roster} (linked : roster.participants.IsLinked)
    {first second : Nat} {one other : Participant} (earlier : first < second)
    (here : roster.get? first = some one) (there : roster.get? second = some other)
    (namesakes : one.name = other.name) : roster.IsShadowed second := by
  obtain ⟨inRange, rfl⟩ := List.getElem?_eq_some_iff.mp there
  refine ⟨inRange.trans_eq linked.size_eq.symm, fun name located => ?_⟩
  obtain ⟨_, found, before⟩ := List.findIdx?_eq_some_iff_getElem.mp located
  obtain ⟨_, rfl⟩ := List.getElem?_eq_some_iff.mp here
  have named := of_decide_eq_true found
  exact before first earlier (decide_eq_true (namesakes.trans named))

def Call.Pursues (call : Call) : Prop := call.Proceeds ∨ ∃ sessionId, call = .setSession sessionId

namespace Chat

variable {chat final : Chat} {calls : List Call} {call : Call} {position : Nat}

theorem roster_after (pursues : call.Pursues) : (chat.after call).roster = chat.roster := by
  obtain proceeds | ⟨_, rfl⟩ := pursues
  · exact (table_after proceeds).1
  · rfl

theorem finding?_of_isShadowed (shadowed : chat.roster.IsShadowed position)
    (proceeds : call.Proceeds) : chat.finding? position call ≠ some true := by
  have ours : chat.ownPosition? ≠ some position := shadowed.unreachable chat.name
  cases call with
  | restart => nofun
  | start =>
    simp only [finding?]
    split <;> simp [ours]
  | receive message =>
    have theirs := shadowed.unreachable message.sender
    simp only [finding?]
    split
    · simp [theirs, ours]
    · split <;> simp
  | _ => exact proceeds.elim

theorem isMarked_after_of_isShadowed (shadowed : chat.roster.IsShadowed position)
    (pursues : call.Pursues) (unmarked : chat.progress.isMarked position = false) :
    (chat.after call).progress.isMarked position = false := by
  obtain proceeds | ⟨_, rfl⟩ := pursues
  · have unfound := finding?_of_isShadowed shadowed proceeds
    have kept (attests : call.Attests) : (chat.after call).progress.isMarked position = false := by
      rw [isMarked_after attests, unmarked]
      cases found : chat.finding? position call with
      | none => rfl
      | some agrees =>
        cases agrees with
        | false => rfl
        | true => exact absurd found unfound
    cases call with
    | restart => exact Tally.isMarked_fresh _ position
    | start | receive => exact kept trivial
    | _ => exact proceeds.elim
  · exact unmarked

theorem Becomes.plaintext (becomes : chat.Becomes call final) (plain : chat.phase = .plaintext)
    (incomplete : ∀ tally, final.tally = some tally → ¬ tally.isComplete) :
    final.phase = .plaintext := by
  cases becomes with
  | dropped => rfl
  | started started =>
    obtain ⟨_, _, _, _, rfl⟩ := Attesting.start_eq_ok.mp started
    exact plain
  | checked checked =>
    obtain ⟨_, _, rfl⟩ := Attesting.check_eq_ok.mp checked
    exact plain
  | received received =>
    obtain ⟨_, _, _, _, _, _, rfl⟩ := Attesting.receive_eq_ok_iff_admits.mp received
    rw [phase_settled]
    split
    · rename_i complete
      have unfinished := incomplete _ (tally_settled _)
      exact absurd complete unfinished
    · exact plain
  | _ => exact plain

structure Lacks (chat : Chat) (position : Nat) : Prop where
  shadowed : chat.roster.IsShadowed position
  counted : chat.IsCounted
  size : ∀ tally, chat.tally = some tally → tally.size = chat.roster.size
  unmarked : chat.progress.isMarked position = false

namespace Lacks

theorem isMarked_eq (lacks : chat.Lacks position) {tally : Tally}
    (held : chat.tally = some tally) : tally.isMarked position = false := by
  have unmarked := lacks.unmarked
  rwa [progress, held, Option.getD_some] at unmarked

theorem lt_size (lacks : chat.Lacks position) {tally : Tally} (held : chat.tally = some tally) :
    position < tally.size := lacks.shadowed.inRange.trans_eq (lacks.size tally held).symm

theorem not_isComplete (lacks : chat.Lacks position) {tally : Tally}
    (held : chat.tally = some tally) : ¬ tally.isComplete := by
  intro complete
  have marked := (lacks.counted tally held).isComplete_iff.mp complete position (lacks.lt_size held)
  rw [lacks.isMarked_eq held] at marked
  contradiction

theorem after (lacks : chat.Lacks position) (pursues : call.Pursues) :
    (chat.after call).Lacks position := by
  have becomes := chat.becomes call
  have table : (chat.after call).roster = chat.roster := roster_after pursues
  exact {
    shadowed := by rw [table]; exact lacks.shadowed
    counted := lacks.counted.becomes becomes
    size := by
      intro tally held
      rw [table]
      obtain ⟨_, begun⟩ | ⟨_, before, ongoing, same⟩ := becomes.size_origin held
      · exact begun
      · exact same.symm.trans (lacks.size before ongoing)
    unmarked := isMarked_after_of_isShadowed lacks.shadowed pursues lacks.unmarked
  }

end Lacks

/-- A chat whose attestation has not finished and cannot finish. -/
structure Stalls (chat : Chat) (position : Nat) : Prop where
  lacks : chat.Lacks position
  conclusive : chat.IsConclusive
  plain : chat.phase = .plaintext

namespace Stalls

theorem of_idle (shadowed : chat.roster.IsShadowed position) (idle : chat.tally = none)
    (plain : chat.phase = .plaintext) : chat.Stalls position where
  lacks := {
    shadowed
    counted := by simp [IsCounted, idle]
    size := by simp [idle]
    unmarked := by rw [progress, idle, Option.getD_none, Tally.isMarked_fresh]
  }
  conclusive := by simp [IsConclusive, idle]
  plain

theorem after (stalls : chat.Stalls position) (pursues : call.Pursues) :
    (chat.after call).Stalls position := by
  have becomes := chat.becomes call
  have lacks := stalls.lacks.after pursues
  have settled : ¬ chat.Unsettles call := by
    rintro ⟨_, _, _, _, rfl, _⟩
    simp [Call.Pursues, Call.Proceeds] at pursues
  exact {
    lacks
    conclusive := stalls.conclusive.becomes stalls.lacks.counted becomes settled
    plain := becomes.plaintext stalls.plain fun _ held => lacks.not_isComplete held
  }

theorem afterAll (stalls : chat.Stalls position) (pursue : ∀ call ∈ calls, call.Pursues) :
    (chat.afterAll calls).Stalls position := by
  induction calls generalizing chat with
  | nil => exact stalls
  | cons call calls ih =>
    obtain ⟨first, others⟩ := List.forall_mem_cons.mp pursue
    exact ih (stalls.after first) others

end Stalls

/-- Where two participants have one name, the position of the later one is never marked, whatever
messages come and whatever session is joined. So the attestation goes on for ever, in plaintext. The
table is only asked to be linked, as it is in every chat that is reachable. -/
theorem namesakes_stall (linked : chat.roster.participants.IsLinked) (idle : chat.tally = none)
    (plain : chat.phase = .plaintext) {first second : Nat} {one other : Participant}
    (earlier : first < second) (here : chat.roster.get? first = some one)
    (there : chat.roster.get? second = some other) (namesakes : one.name = other.name)
    (pursue : ∀ call ∈ calls, call.Pursues) :
    let final := chat.afterAll calls
    final.phase = .plaintext ∧ ∀ tally, final.tally = some tally →
      tally.marks[second]? = some false ∧ tally.stage = .awaiting := by
  intro final
  have shadowed := Roster.isShadowed_of_namesakes linked earlier here there namesakes
  have stalls : final.Stalls second := (Stalls.of_idle shadowed idle plain).afterAll pursue
  refine ⟨stalls.plain, fun tally held => ?_⟩
  refine ⟨?_, ?_⟩
  · rw [List.getElem?_eq_getElem (stalls.lacks.lt_size held),
      ← Tally.isMarked_eq_getElem (stalls.lacks.lt_size held), stalls.lacks.isMarked_eq held]
  · cases stage : tally.stage with
    | awaiting => rfl
    | finished =>
      have complete := decide_eq_true (stalls.conclusive tally held stage)
      exact absurd complete (stalls.lacks.not_isComplete held)

theorem namesakes_stall_pair :
    let participants : List Participant := [.alice, .bob, .bob]
    let chat := assembled "alice" participants (.zero _)
    let calls : List Call := [.start, .receive (attestationOfBob participants)]
    chat.roster.get? 1 = some .bob ∧ chat.roster.get? 2 = some .bob ∧
      (∀ call ∈ calls, call.Pursues) ∧
      (chat.afterAll calls).tally = some ⟨[true, true, false], 2, .awaiting⟩ ∧
      (chat.afterAll calls).phase = .plaintext := by
  intro participants chat calls
  have pursue : ∀ call ∈ calls, call.Pursues := by simp [calls, Call.Pursues, Call.Proceeds]
  have here : chat.roster.get? 1 = some .bob := rfl
  have there : chat.roster.get? 2 = some .bob := rfl
  have reachable : chat.Reachable := reachable_assembled ..
  obtain ⟨plain, _⟩ :=
    namesakes_stall reachable.isLinked rfl rfl Nat.one_lt_two here there rfl pursue
  exact ⟨here, there, pursue, by decide +kernel, plain⟩

end Chat

end GroupChat
