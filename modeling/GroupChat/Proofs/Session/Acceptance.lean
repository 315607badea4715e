import GroupChat.Proofs.Fingerprint
import GroupChat.Proofs.FrameCodec
import GroupChat.Proofs.Session.Calls

/-!
What it says that a chat has taken the attestation of another one: at that time it had the session id
and the table fingerprint which the other one had when it attested. So unless the digest collides, the
two tables had the same public keys in the same places.
-/
namespace GroupChat.Chat

variable {chat final sender receiver : Chat} {call : Call} {message : Message}
variable {sessionId : SessionId} {fingerprint : Digest} {name : String} {theirs ours : Nat}

theorem Becomes.isLinked (becomes : chat.Becomes call final)
    (linked : chat.roster.participants.IsLinked) : final.roster.participants.IsLinked := by
  cases becomes with
  | arranged lasting keeps => exact keeps linked
  | started started => rwa [(Attesting.keeps_of_start started).roster]
  | checked checked => rwa [(Attesting.keeps_of_check checked).roster]
  | received received => rwa [(Attesting.keeps_of_receive received).roster]
  | _ => exact linked

theorem Reachable.isLinked (reachable : chat.Reachable) : chat.roster.participants.IsLinked :=
  reachable.induct (fun _ _ => SlotList.IsLinked.empty) fun linked becomes =>
    becomes.isLinked linked

/-- A chat can take the attestation of a participant: it has a session id, both participants have a
position, everybody has a key, and its attestation has not finished if it has begun. -/
structure Awaits (chat : Chat) (name : String) (theirs ours : Nat) : Prop where
  session : chat.sessionId.isSome
  theirPlace : chat.roster.positionOf? name = some theirs
  ourPlace : chat.ownPosition? = some ours
  keyed : chat.roster.IsKeyed
  awaiting : ∀ tally, chat.tally = some tally → tally.stage = .awaiting
  inRange : ∀ tally, chat.tally = some tally → theirs < tally.size ∧ ours < tally.size

theorem position_lt (linked : chat.roster.participants.IsLinked) {position : Nat}
    (located : chat.roster.positionOf? name = some position) : position < chat.roster.size := by
  obtain ⟨inRange, _⟩ := List.findIdx?_eq_some_iff_findIdx_eq.mp located
  rwa [Roster.size, linked.size_eq]

namespace Awaits

variable (awaits : chat.Awaits name theirs ours)
include awaits

theorem stage_progress : chat.progress.stage = .awaiting := by
  rw [progress]
  cases begun : chat.tally with
  | none => rfl
  | some tally => exact awaits.awaiting tally begun

theorem lt_size_progress (linked : chat.roster.participants.IsLinked) :
    theirs < chat.progress.size ∧ ours < chat.progress.size := by
  rw [progress]
  cases begun : chat.tally with
  | none =>
    rw [Option.getD_none, Tally.size_fresh]
    exact ⟨position_lt linked awaits.theirPlace, position_lt linked awaits.ourPlace⟩
  | some tally => exact awaits.inRange tally begun

theorem receive_eq_ok_iff (linked : chat.roster.participants.IsLinked)
    (payload : message.payload = .attest sessionId fingerprint)
    (place : chat.roster.positionOf? message.sender = some theirs) :
    (∃ reply final, Attesting.receive message chat = .ok reply final) ↔
      chat.agrees sessionId fingerprint = .ok true := by
  refine ⟨fun ⟨reply, final, received⟩ => ?_, fun agreed => ?_⟩
  · obtain ⟨_, _, _, _, same, _, _, _, agreed, _⟩ := Attesting.receive_eq_ok.mp received
    rw [payload] at same
    obtain ⟨rfl, rfl⟩ := Payload.attest.inj same
    exact agreed
  · obtain ⟨theirsInRange, oursInRange⟩ := awaits.lt_size_progress linked
    obtain ⟨reply, announced⟩ := announcement_of_agrees agreed
      (chat.progress.judge theirs theirsInRange true) ours
    exact ⟨reply, _, Attesting.receive_eq_ok.mpr ⟨_, _, theirs, ours, payload,
      awaits.stage_progress, place, awaits.ourPlace, agreed, theirsInRange, oursInRange, announced,
      rfl⟩⟩

theorem receive_eq_disagrees (linked : chat.roster.participants.IsLinked)
    (payload : message.payload = .attest sessionId fingerprint)
    (place : chat.roster.positionOf? message.sender = some theirs)
    (disagreed : chat.agrees sessionId fingerprint = .ok false) :
    ∃ final tally, Attesting.receive message chat = .error (.disagrees theirs) final ∧
      final.tally = some tally ∧ tally.marks[theirs]? = some false := by
  obtain ⟨theirsInRange, oursInRange⟩ := awaits.lt_size_progress linked
  refine ⟨_, _, Attesting.receive_of_disagreement payload awaits.stage_progress place
    awaits.ourPlace theirsInRange oursInRange disagreed, rfl, ?_⟩
  rw [Tally.marks_judge]
  exact List.getElem?_set_self theirsInRange

end Awaits

/-- Two chats have one session id, and tables of one fingerprint. -/
def Concurs (chat other : Chat) : Prop :=
  chat.sessionId = other.sessionId ∧ ∃ fingerprint, chat.roster.fingerprint = .ok fingerprint ∧
    other.roster.fingerprint = .ok fingerprint

theorem concurs_iff {other : Chat} (keyed : chat.roster.IsKeyed)
    (otherKeyed : other.roster.IsKeyed) :
    chat.Concurs other ↔ chat.sessionId = other.sessionId ∧
      sha512 chat.roster.keyData = sha512 other.roster.keyData := by
  rw [Concurs, Roster.fingerprint_eq_ok.mpr ⟨keyed, rfl⟩,
    Roster.fingerprint_eq_ok.mpr ⟨otherKeyed, rfl⟩]
  simp [eq_comm]

theorem agrees_eq_ok_iff_concurs (keyed : chat.roster.IsKeyed) (begun : chat.sessionId.isSome)
    (session : sender.sessionId = some sessionId)
    (table : sender.roster.fingerprint = .ok fingerprint) (verdict : Bool) :
    chat.agrees sessionId fingerprint = .ok verdict ↔ (verdict ↔ chat.Concurs sender) := by
  obtain ⟨ours, ourSession⟩ := Option.isSome_iff_exists.mp begun
  obtain ⟨otherKeyed, rfl⟩ := Roster.fingerprint_eq_ok.mp table
  rw [concurs_iff keyed otherKeyed, ourSession, session, Option.some.injEq,
    agrees_eq_ok ourSession (Roster.fingerprint_eq_ok.mpr ⟨keyed, rfl⟩), Except.ok.injEq]
  cases verdict <;> simp

/-- What a chat that awaits an attestation makes of it once it has come over the wire. It is taken if
and only if the chats concur, as they were when it was given out and when it came. -/
theorem receive_emitted (origin : sender.Reachable) (reachable : receiver.Reachable)
    (emits : sender.Emits message) (awaits : receiver.Awaits sender.name theirs ours) :
    ∃ frame received, message.encode = .ok frame ∧
      Message.decode frame sender.name = .ok received ∧
      ((∃ reply final, Attesting.receive received receiver = .ok reply final) ↔
        receiver.Concurs sender) ∧
      (¬ receiver.Concurs sender → ∃ final tally,
        Attesting.receive received receiver = .error (.disagrees theirs) final ∧
          final.tally = some tally ∧ tally.marks[theirs]? = some false) ∧
      (receiver.sessionId = sender.sessionId →
        ¬ Sha512.Collides receiver.roster.keyData sender.roster.keyData →
        ((∃ reply final, Attesting.receive received receiver = .ok reply final) ↔
          receiver.roster.size = sender.roster.size ∧ ∀ position,
            (receiver.roster.keyAt? position).map SigningKey.publicHalf =
              (sender.roster.keyAt? position).map SigningKey.publicHalf)) := by
  obtain ⟨sessionId, fingerprint, session, table, rfl⟩ := attestation_eq_ok.mp emits.attestation
  obtain ⟨keyed, _⟩ := Roster.fingerprint_eq_ok.mp table
  let sent := sender.attesting sessionId fingerprint
  have named : sent.sessionId.isSome := rfl
  have payload : sent.payload = .attest sessionId fingerprint := rfl
  obtain ⟨encoded, decoded⟩ := Message.decode_encode_attest named payload
  have linked := reachable.isLinked
  have agrees := agrees_eq_ok_iff_concurs awaits.keyed awaits.session session table
  have taken : (∃ reply final, Attesting.receive sent receiver = .ok reply final) ↔
      receiver.Concurs sender := by
    rw [awaits.receive_eq_ok_iff linked payload awaits.theirPlace, agrees true, eq_self, true_iff]
  refine ⟨_, sent, encoded, decoded, taken, fun apart => ?_, fun same distinct => ?_⟩
  · refine awaits.receive_eq_disagrees linked payload awaits.theirPlace ((agrees false).mpr ?_)
    exact iff_of_false Bool.false_ne_true apart
  · rw [taken, concurs_iff awaits.keyed keyed, Roster.sha512_keyData_eq_iff distinct,
      awaits.keyed.publicKeys_eq_iff keyed linked origin.isLinked]
    exact and_iff_right same

theorem receive_emitted_pair :
    let alice := assembled "alice" [.alice, .bob] (.zero _)
    let bob := assembled "bob" [.alice, .bob] (.zero _)
    let message := attestationOfBob [.alice, .bob]
    alice.Reachable ∧ bob.Reachable ∧ bob.Emits message ∧ alice.Awaits bob.name 1 0 ∧
      ∃ frame received reply final, message.encode = .ok frame ∧
        Message.decode frame bob.name = .ok received ∧
        Attesting.receive received alice = .ok reply final := by
  intro alice bob message
  have origin : bob.Reachable := ⟨_, _, _, rfl⟩
  have reachable : alice.Reachable := ⟨_, _, _, rfl⟩
  have inRange : 1 < bob.progress.size := by decide +kernel
  have announced : bob.announcement 1 = .ok (some message) := by decide +kernel
  have emits : bob.Emits message :=
    ⟨_, .inl (Attesting.start_eq_ok.mpr ⟨1, inRange, by decide +kernel, announced, rfl⟩)⟩
  have idle : alice.tally = none := rfl
  have awaits : alice.Awaits bob.name 1 0 := {
    session := rfl
    theirPlace := by decide +kernel
    ourPlace := by decide +kernel
    keyed := Roster.isKeyed_iff.mpr (by decide +kernel)
    awaiting := by simp [idle]
    inRange := by simp [idle]
  }
  obtain ⟨frame, received, encoded, decoded, taken, _⟩ :=
    receive_emitted origin reachable emits awaits
  have concurs : alice.Concurs bob :=
    (concurs_iff awaits.keyed (Roster.isKeyed_iff.mpr (by decide +kernel))).mpr (by decide +kernel)
  obtain ⟨reply, final, result⟩ := taken.mpr concurs
  exact ⟨reachable, origin, emits, awaits, frame, received, reply, final, encoded, decoded, result⟩

end GroupChat.Chat
