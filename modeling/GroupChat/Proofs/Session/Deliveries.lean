import GroupChat.Proofs.Session.Acceptance
import GroupChat.Proofs.Session.Reception

/-!
Attestations that agree with a chat, in whatever order they come and however often. What they make of
the chat is settled by who has sent one: the positions of the senders are marked, and our own. Once all
positions are, nothing that comes later is taken.
-/
namespace GroupChat

/-- A message brings the attestation of somebody in the table of a chat, and it agrees with the chat. -/
structure Message.Supports (message : Message) (chat : Chat) : Prop where
  content : ∃ sessionId fingerprint, message.payload = .attest sessionId fingerprint ∧
    chat.sessionId = some sessionId ∧ chat.roster.fingerprint = .ok fingerprint
  known : (chat.roster.positionOf? message.sender).isSome

def setMarks (marks : List Bool) (further : Nat → Bool) : List Bool :=
  marks.mapIdx fun position mark => mark || further position

section Marks

variable {marks : List Bool} {further other : Nat → Bool}

@[simp] theorem length_setMarks : (setMarks marks further).length = marks.length :=
  List.length_mapIdx

theorem setMarks_setMarks : setMarks (setMarks marks further) other =
    setMarks marks fun position => further position || other position := by
  simp only [setMarks, List.mapIdx_mapIdx, Function.comp_def, Bool.or_assoc]

theorem setMarks_of_all (full : marks.all id) : setMarks marks further = marks := by
  refine List.ext_getElem length_setMarks fun position _ inRange => ?_
  have marked : marks[position] = true := List.all_eq_true.mp full _ (List.getElem_mem inRange)
  simp only [setMarks, List.getElem_mapIdx, marked, Bool.true_or]

theorem set_set_eq (marks : List Bool) (theirs ours : Nat) : (marks.set theirs true).set ours true =
    setMarks marks fun position => ours = position || theirs = position := by
  refine List.ext_getElem (by simp) fun position _ _ => ?_
  simp only [setMarks, List.getElem_set, List.getElem_mapIdx]
  by_cases own : ours = position <;> by_cases named : theirs = position <;> simp [own, named]

end Marks

namespace Chat

variable {chat : Chat} {message : Message} {messages : List Message} {senders others : List String}
variable {marks : List Bool}

/-- A chat waits for attestations, among as many participants as there are, and we are one of them. -/
structure IsReady (chat : Chat) : Prop where
  awaiting : chat.progress.stage = .awaiting
  size : chat.progress.size = chat.roster.size
  present : chat.ownPosition?.isSome

def withMarks (chat : Chat) (marks : List Bool) : Chat :=
  let full := marks.all id
  { chat with
    tally := some
      { marks
        count := marks.count true
        stage := if full then .finished else chat.progress.stage }
    phase := if full then .encrypted else chat.phase }

def covers (chat : Chat) (senders : List String) (position : Nat) : Bool :=
  chat.ownPosition? = some position ||
    senders.any fun name => chat.roster.positionOf? name = some position

def marksFor (chat : Chat) (senders : List String) : List Bool :=
  setMarks chat.progress.marks (chat.covers senders)

/-- The chat once the attestations of some participants have been taken. -/
def confirming (chat : Chat) (senders : List String) : Chat :=
  chat.withMarks (chat.marksFor senders)

theorem covers_append (chat : Chat) (senders others : List String) (position : Nat) :
    chat.covers (senders ++ others) position =
      (chat.covers senders position || chat.covers others position) := by
  rw [covers, covers, covers, List.any_append]
  cases decide (chat.ownPosition? = some position) <;> simp

theorem covers_congr (same : ∀ name, name ∈ senders ↔ name ∈ others) (chat : Chat) :
    chat.covers senders = chat.covers others := by
  funext position
  rw [Bool.eq_iff_iff]
  simp [covers, same]

theorem withMarks_withMarks (missing : marks.all id = false) (further : List Bool) :
    (chat.withMarks marks).withMarks further = chat.withMarks further := by
  simp [withMarks, progress, missing]

theorem stage_confirming (chat : Chat) (senders : List String) :
    (chat.confirming senders).progress.stage =
      if (chat.marksFor senders).all id then .finished else chat.progress.stage := rfl

theorem marksFor_append (chat : Chat) (senders others : List String) :
    chat.marksFor (senders ++ others) = setMarks (chat.marksFor senders) (chat.covers others) := by
  rw [marksFor, marksFor, setMarks_setMarks]
  exact congrArg _ (funext (chat.covers_append senders others))

theorem confirming_confirming (missing : (chat.marksFor senders).all id = false)
    (others : List String) :
    (chat.confirming senders).confirming others = chat.confirming (senders ++ others) := by
  have marks : (chat.confirming senders).marksFor others =
      setMarks (chat.marksFor senders) (chat.covers others) := rfl
  rw [confirming, marks, ← marksFor_append]
  exact withMarks_withMarks missing _

theorem confirming_append_of_all (full : (chat.marksFor senders).all id) (others : List String) :
    chat.confirming (senders ++ others) = chat.confirming senders := by
  rw [confirming, marksFor_append, setMarks_of_all full, confirming]

theorem receive_of_finished {sessionId : SessionId} {fingerprint : Digest}
    (payload : message.payload = .attest sessionId fingerprint)
    (finished : chat.progress.stage = .finished) :
    Attesting.receive message chat = .error .finished (chat.withTally chat.progress) :=
  Attesting.receive_eq_error_iff.mpr ⟨⟨1, .finished finished, .payload payload⟩, rfl⟩

namespace IsReady

theorem after_receive (ready : chat.IsReady) (counted : chat.progress.IsExact)
    (linked : chat.roster.participants.IsLinked) (supports : message.Supports chat) :
    chat.after (.receive message) = chat.confirming [message.sender] := by
  obtain ⟨⟨sessionId, fingerprint, payload, session, table⟩, known⟩ := supports
  obtain ⟨theirs, theirPlace⟩ := Option.isSome_iff_exists.mp known
  obtain ⟨ours, ourPlace⟩ := Option.isSome_iff_exists.mp ready.present
  have admits : chat.Admits message sessionId fingerprint theirs ours := {
    payload
    awaiting := ready.awaiting
    theirPlace
    ourPlace
    oursInRange := ready.size ▸ position_lt linked ourPlace
    theirsInRange := ready.size ▸ position_lt linked theirPlace
    session
    keyed := (Roster.fingerprint_eq_ok.mp table).1
    table
  }
  have taken : Attesting.receive message chat = .ok _ (chat.marking theirs ours) :=
    Attesting.receive_eq_ok_iff_admits.mpr ⟨sessionId, fingerprint, theirs, ours, admits,
      announcement_eq_replying admits.theirsInRange session table,
      settled_eq_marking counted admits.theirsInRange _⟩
  have marked : chat.marking theirs ours =
      chat.withMarks ((chat.progress.marks.set theirs true).set ours true) := rfl
  have covered : (fun position => ours = position || theirs = position) =
      chat.covers [message.sender] := by
    funext position
    simp [covers, theirPlace, ourPlace]
  rw [after, Attesting.leaves, taken, finalState, marked, set_set_eq, covered]
  rfl

theorem confirming (ready : chat.IsReady) (missing : (chat.marksFor senders).all id = false) :
    (chat.confirming senders).IsReady where
  awaiting := by rw [stage_confirming, missing, if_neg Bool.false_ne_true, ready.awaiting]
  size := length_setMarks.trans ready.size
  present := ready.present

theorem confirming_receive (ready : chat.IsReady) (linked : chat.roster.participants.IsLinked)
    (supports : message.Supports chat) (senders : List String) :
    (chat.confirming senders).after (.receive message) =
      chat.confirming (senders ++ [message.sender]) := by
  cases full : (chat.marksFor senders).all id with
  | false =>
    have exact : (chat.confirming senders).progress.IsExact := rfl
    rw [(ready.confirming full).after_receive exact linked ⟨supports.content, supports.known⟩,
      confirming_confirming full]
  | true =>
    obtain ⟨sessionId, fingerprint, payload, _⟩ := supports.content
    have finished : (chat.confirming senders).progress.stage = .finished := by
      rw [stage_confirming, if_pos full]
    rw [after, Attesting.leaves, receive_of_finished payload finished,
      confirming_append_of_all full]
    rfl

theorem afterAll_receive (ready : chat.IsReady) (counted : chat.progress.IsExact)
    (linked : chat.roster.participants.IsLinked)
    (support : ∀ message ∈ messages, message.Supports chat) (received : messages ≠ []) :
    chat.afterAll (messages.map .receive) = chat.confirming (messages.map Message.sender) := by
  -- The first message is apart, as the attestation may not have begun before it.
  induction messages using List.reverseRecOn with
  | nil => contradiction
  | append_singleton front message ih =>
    have supports := support message (List.mem_concat_self ..)
    rw [List.map_append, List.map_append, List.map_singleton, List.map_singleton, afterAll_concat]
    by_cases first : front = []
    · subst first
      exact ready.after_receive counted linked supports
    · rw [ih (fun other member => support other (List.mem_append_left _ member)) first]
      exact ready.confirming_receive linked supports _

end IsReady

/-- Attestations that agree with a chat lead to the same chat in any order and however often they come,
as long as the same participants have sent one. What comes once the attestation has finished is refused,
and changes nothing. -/
theorem deliveries_commute (reachable : chat.Reachable) (ready : chat.IsReady)
    {further : List Message} (support : ∀ message ∈ messages ++ further, message.Supports chat)
    (received : messages ≠ [])
    (same : ∀ name, name ∈ messages.map Message.sender ↔ name ∈ further.map Message.sender) :
    chat.afterAll (messages.map .receive) = chat.confirming (messages.map Message.sender) ∧
      chat.afterAll (further.map .receive) = chat.afterAll (messages.map .receive) ∧
      ∀ (front : List Message) (late : Message) (sessionId : SessionId) (fingerprint : Digest),
        (∀ message ∈ front, message.Supports chat) →
        late.payload = .attest sessionId fingerprint →
        let reached := chat.afterAll (front.map .receive)
        reached.progress.stage = .finished →
          Attesting.receive late reached = .error .finished reached := by
  have counted := reachable.isCounted.progress
  have linked := reachable.isLinked
  obtain ⟨first, furtherSupport⟩ := List.forall_mem_append.mp support
  have whole := ready.afterAll_receive counted linked first received
  have receivedToo : further ≠ [] := by
    rintro rfl
    obtain ⟨message, member⟩ := List.exists_mem_of_ne_nil _ received
    exact List.not_mem_nil ((same message.sender).mp (List.mem_map_of_mem member))
  refine ⟨whole, ?_, fun front late sessionId fingerprint fronts payload finished => ?_⟩
  · rw [ready.afterAll_receive counted linked furtherSupport receivedToo, whole, confirming,
      confirming, marksFor, marksFor, covers_congr same]
  · by_cases idle : front = []
    · subst idle
      rw [List.map_nil, afterAll, List.foldl_nil, ready.awaiting] at finished
      contradiction
    · rw [ready.afterAll_receive counted linked fronts idle] at finished ⊢
      exact receive_of_finished payload finished

theorem deliveries_commute_three :
    let participants : List Participant := [.alice, .bob, .carol]
    let chat := assembled "alice" participants (.zero _)
    let fromBob := attestationOfBob participants
    let fromCarol := { fromBob with sender := "carol" }
    chat.Reachable ∧ chat.IsReady ∧
      (∀ message ∈ [fromBob, fromCarol] ++ [fromCarol, fromBob, fromBob, fromCarol],
        message.Supports chat) ∧
      chat.afterAll ([fromCarol, fromBob, fromBob, fromCarol].map .receive) =
        chat.afterAll ([fromBob, fromCarol].map .receive) ∧
      let final := chat.afterAll ([fromBob, fromCarol].map .receive)
      final.phase = .encrypted ∧ Attesting.receive fromBob final = .error .finished final := by
  intro participants chat fromBob fromCarol
  have reachable : chat.Reachable := reachable_assembled ..
  have ready : chat.IsReady :=
    ⟨rfl, by decide +kernel, by decide +kernel⟩
  have table : chat.roster.fingerprint = .ok (sha512Concat (Roster.keysOn chat.roster.cards)) :=
    Roster.fingerprint_of_cards (by decide +kernel)
  have bob : fromBob.Supports chat := ⟨⟨_, _, by decide +kernel, rfl, table⟩, by decide +kernel⟩
  have carol : fromCarol.Supports chat := ⟨⟨_, _, by decide +kernel, rfl, table⟩, by decide +kernel⟩
  have support : ∀ message ∈ [fromBob, fromCarol] ++ [fromCarol, fromBob, fromBob, fromCarol],
      message.Supports chat := by simp [bob, carol]
  obtain ⟨_, same, late⟩ := deliveries_commute reachable ready support (by simp)
    (by simp [or_comm])
  refine ⟨reachable, ready, support, same, by decide +kernel, ?_⟩
  exact late [fromBob, fromCarol] fromBob _ _ (by simp [bob, carol]) rfl (by decide +kernel)

end Chat

end GroupChat
