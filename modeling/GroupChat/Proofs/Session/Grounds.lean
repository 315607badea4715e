import GroupChat.Proofs.Session.Counting

/-!
What the marks of an attestation rest on. Each was set by a call that vouched for its position: the
call found an attestation to agree with the session id and the table as they were then, or gave out
our own. All such calls were made since the attestation began, when it got a position for every
participant that the table had. What has become of session id and table since then does not count.
-/
namespace GroupChat.Chat

variable {chat final : Chat} {call : Call} {position : Nat} {tally : Tally}
variable {sessionId : SessionId} {fingerprint : Digest}

/-- A call that sets the mark of a position, for a session id and a fingerprint. -/
inductive Vouches (chat : Chat) (sessionId : SessionId) (fingerprint : Digest) : Call → Nat → Prop
  | checked {position : Nat} {final : Chat}
      (checked : Attesting.check sessionId fingerprint position chat = .ok true final) :
      Vouches chat sessionId fingerprint (.check sessionId fingerprint position) position
  | received {message : Message} {reply : Option Message} {final : Chat} {position : Nat}
      (payload : message.payload = .attest sessionId fingerprint)
      (located : chat.roster.positionOf? message.sender = some position)
      (received : Attesting.receive message chat = .ok reply final) :
      Vouches chat sessionId fingerprint (.receive message) position
  | replied {message own : Message} {final : Chat} {position : Nat}
      (payload : own.payload = .attest sessionId fingerprint)
      (located : chat.ownPosition? = some position)
      (received : Attesting.receive message chat = .ok (some own) final) :
      Vouches chat sessionId fingerprint (.receive message) position
  | started {own : Message} {final : Chat} {position : Nat}
      (payload : own.payload = .attest sessionId fingerprint)
      (located : chat.ownPosition? = some position)
      (started : Attesting.start chat = .ok (some own) final) :
      Vouches chat sessionId fingerprint .start position

theorem current_of_attestation {own : Message} (attests : chat.attestation = .ok own)
    (payload : own.payload = .attest sessionId fingerprint) :
    chat.sessionId = some sessionId ∧ chat.roster.fingerprint = .ok fingerprint := by
  obtain ⟨_, _, session, table, rfl⟩ := attestation_eq_ok.mp attests
  obtain ⟨rfl, rfl⟩ := Payload.attest.inj payload
  exact ⟨session, table⟩

theorem Vouches.current (vouches : chat.Vouches sessionId fingerprint call position) :
    chat.sessionId = some sessionId ∧ chat.roster.fingerprint = .ok fingerprint := by
  cases vouches with
  | checked checked =>
    obtain ⟨_, agreed, _⟩ := Attesting.check_eq_ok.mp checked
    exact agrees_eq_ok_true.mp agreed
  | received payload located received =>
    obtain ⟨_, _, _, _, same, _, _, _, agreed, _⟩ := Attesting.receive_eq_ok.mp received
    rw [payload] at same
    obtain ⟨rfl, rfl⟩ := Payload.attest.inj same
    exact agrees_eq_ok_true.mp agreed
  | replied payload located received =>
    exact current_of_attestation (Emits.attestation ⟨_, .inr ⟨_, received⟩⟩) payload
  | started payload located started =>
    exact current_of_attestation (Emits.attestation ⟨_, .inl started⟩) payload

theorem exists_mark_of_progress (marked : chat.progress.isMarked position) :
    ∃ before, chat.tally = some before ∧ before.isMarked position := by
  rw [progress] at marked
  cases held : chat.tally with
  | none => simp [held, Tally.isMarked_fresh] at marked
  | some before => exact ⟨before, rfl, by simpa [held] using marked⟩

theorem payload_of_attestation {own : Message} (attests : chat.attestation = .ok own) :
    ∃ sessionId fingerprint, own.payload = .attest sessionId fingerprint := by
  obtain ⟨sessionId, fingerprint, _, _, rfl⟩ := attestation_eq_ok.mp attests
  exact ⟨sessionId, fingerprint, rfl⟩

def Accounts (chat : Chat) (call : Call) (position : Nat) : Prop :=
  (∃ sessionId fingerprint, chat.Vouches sessionId fingerprint call position) ∨
    (¬ call.Renews ∧ ∃ before, chat.tally = some before ∧ before.isMarked position)

theorem accounts_of_progress (lasting : ¬ call.Renews) (marked : chat.progress.isMarked position) :
    chat.Accounts call position :=
  .inr ⟨lasting, exists_mark_of_progress marked⟩

theorem accounts_of_start {reply : Option Message}
    (started : Attesting.start chat = .ok reply final) (held : final.tally = some tally)
    (marked : tally.isMarked position) : chat.Accounts .start position := by
  obtain ⟨ours, inRange, located, announced, rfl⟩ := Attesting.start_eq_ok.mp started
  obtain rfl := Option.some.inj held
  rw [Tally.isMarked_withStage, Tally.isMarked_mark] at marked
  split at marked
  · rename_i own
    subst own
    cases reply with
    | none => exact accounts_of_progress (by simp) (announcement_eq_none.mp announced)
    | some own =>
      obtain ⟨_, _, payload⟩ := payload_of_attestation (announcement_eq_some.mp announced).2
      exact .inl ⟨_, _, .started payload located started⟩
  · exact accounts_of_progress (by simp) marked

theorem accounts_of_check {agrees : Bool}
    (checked : Attesting.check sessionId fingerprint position chat = .ok agrees final) {other : Nat}
    (held : final.tally = some tally) (marked : tally.isMarked other) :
    chat.Accounts (.check sessionId fingerprint position) other := by
  obtain ⟨inRange, _, rfl⟩ := Attesting.check_eq_ok.mp checked
  obtain rfl := Option.some.inj held
  rw [Tally.isMarked_judge] at marked
  split at marked
  · rename_i same
    subst same marked
    exact .inl ⟨_, _, .checked checked⟩
  · exact accounts_of_progress (by simp) marked

theorem accounts_of_receive {message : Message} {reply : Option Message}
    (received : Attesting.receive message chat = .ok reply final) (held : final.tally = some tally)
    (marked : tally.isMarked position) : chat.Accounts (.receive message) position := by
  obtain ⟨_, _, theirs, ours, payload, _, theirPlace, ourPlace, _, theirsInRange, oursInRange,
    announced, rfl⟩ := Attesting.receive_eq_ok.mp received
  rw [tally_settled, Option.some.injEq] at held
  subst held
  have judged (marked : (chat.progress.judge theirs theirsInRange true).isMarked position) :
      chat.Accounts (.receive message) position := by
    rw [Tally.isMarked_judge] at marked
    split at marked
    · rename_i same
      subst same
      exact .inl ⟨_, _, .received payload theirPlace received⟩
    · exact accounts_of_progress (by simp) marked
  rw [Tally.isMarked_withStage, progress_withTally, Tally.isMarked_mark] at marked
  split at marked
  · rename_i same
    subst same
    cases reply with
    | none => exact judged (announcement_eq_none.mp announced)
    | some own =>
      obtain ⟨_, _, content⟩ := payload_of_attestation (announcement_eq_some.mp announced).2
      exact .inl ⟨_, _, .replied content ourPlace received⟩
  · exact judged marked

theorem Becomes.accounts (becomes : chat.Becomes call final) (held : final.tally = some tally)
    (marked : tally.isMarked position) : chat.Accounts call position := by
  cases becomes with
  | arranged lasting => exact .inr ⟨lasting, tally, held, marked⟩
  | joined => exact .inr ⟨by simp, tally, held, marked⟩
  | dropped => simp [reset] at held
  | renewed =>
    obtain rfl := Option.some.inj held
    rw [Tally.isMarked_fresh] at marked
    contradiction
  | kept => exact .inr ⟨by simp, tally, held, marked⟩
  | begun lasting =>
    obtain rfl := Option.some.inj held
    exact accounts_of_progress lasting marked
  | started started => exact accounts_of_start started held marked
  | checked checked => exact accounts_of_check checked held marked
  | refused _ inRange =>
    obtain rfl := Option.some.inj held
    rw [Tally.isMarked_judge] at marked
    split at marked
    · contradiction
    · exact accounts_of_progress (by simp) marked
  | received received => exact accounts_of_receive received held marked

theorem size_progress (chat : Chat) :
    (chat.tally = none ∧ chat.progress.size = chat.roster.size) ∨
      ∃ before, chat.tally = some before ∧ before.size = chat.progress.size := by
  rw [progress]
  cases chat.tally with
  | none => exact .inl ⟨rfl, Tally.size_fresh _⟩
  | some before => exact .inr ⟨before, rfl, rfl⟩

theorem Becomes.size_origin (becomes : chat.Becomes call final) (held : final.tally = some tally) :
    ((chat.tally = none ∨ call = .restart) ∧ tally.size = chat.roster.size) ∨
      (¬ call.Renews ∧ ∃ before, chat.tally = some before ∧ before.size = tally.size) := by
  have progressed (lasting : ¬ call.Renews) (same : tally.size = chat.progress.size) :
      ((chat.tally = none ∨ call = .restart) ∧ tally.size = chat.roster.size) ∨
        (¬ call.Renews ∧ ∃ before, chat.tally = some before ∧ before.size = tally.size) := by
    obtain ⟨idle, size⟩ | ⟨before, begun, size⟩ := chat.size_progress
    · exact .inl ⟨.inl idle, same.trans size⟩
    · exact .inr ⟨lasting, before, begun, size.trans same.symm⟩
  cases becomes with
  | arranged lasting => exact .inr ⟨lasting, tally, held, rfl⟩
  | joined => exact .inr ⟨by simp, tally, held, rfl⟩
  | dropped => simp [reset] at held
  | renewed =>
    obtain rfl := Option.some.inj held
    exact .inl ⟨.inr rfl, Tally.size_fresh _⟩
  | kept => exact .inr ⟨by simp, tally, held, rfl⟩
  | begun lasting =>
    obtain rfl := Option.some.inj held
    exact progressed lasting rfl
  | started started =>
    obtain ⟨ours, inRange, _, _, rfl⟩ := Attesting.start_eq_ok.mp started
    obtain rfl := Option.some.inj held
    exact progressed (by simp) (Tally.size_mark _ ours inRange)
  | checked checked =>
    obtain ⟨inRange, _, rfl⟩ := Attesting.check_eq_ok.mp checked
    obtain rfl := Option.some.inj held
    exact progressed (by simp) (Tally.size_judge ..)
  | refused =>
    obtain rfl := Option.some.inj held
    exact progressed (by simp) (Tally.size_judge ..)
  | received received =>
    obtain ⟨_, _, _, _, _, _, _, _, _, theirsInRange, _, _, rfl⟩ :=
      Attesting.receive_eq_ok.mp received
    rw [tally_settled, Option.some.injEq] at held
    subst held
    exact progressed (by simp) ((Tally.size_mark ..).trans (Tally.size_judge ..))

/-- One of the calls `back`, which came after the calls `front`, vouched for a position, and its mark
has stood ever since. -/
def VouchedSince (chat : Chat) (front back : List Call) (position : Nat) : Prop :=
  ∃ before call rest sessionId fingerprint, back = before ++ call :: rest ∧
    (chat.afterAll (front ++ before)).Vouches sessionId fingerprint call position ∧
    ∀ further, further <+: rest →
      (chat.afterAll (front ++ before ++ call :: further)).progress.isMarked position

/-- An attestation that began with the first of the calls `back`, which came after the calls `front`,
and has gone on since. -/
structure Grounds (chat : Chat) (front back : List Call) (tally : Tally) : Prop where
  begins : ∃ first rest, back = first :: rest ∧
    ((chat.afterAll front).tally = none ∨ first = .restart) ∧ ∀ call ∈ rest, ¬ call.Renews
  size : tally.size = (chat.afterAll front).roster.size
  vouched : ∀ position, tally.isMarked position → chat.VouchedSince front back position

theorem VouchedSince.concat {front back : List Call}
    (vouched : chat.VouchedSince front back position)
    (stands : (chat.afterAll (front ++ back ++ [call])).progress.isMarked position) :
    chat.VouchedSince front (back ++ [call]) position := by
  obtain ⟨before, first, rest, sessionId, fingerprint, rfl, vouches, kept⟩ := vouched
  refine ⟨before, first, rest ++ [call], sessionId, fingerprint, by simp, vouches, ?_⟩
  intro further early
  obtain rfl | early := List.prefix_concat_iff.mp early
  · simpa using stands
  · exact kept further early

theorem exists_grounds (idle : chat.tally = none) (calls : List Call) (tally : Tally)
    (held : (chat.afterAll calls).tally = some tally) :
    ∃ front back, calls = front ++ back ∧ chat.Grounds front back tally := by
  induction calls using List.reverseRecOn generalizing tally with
  | nil =>
    rw [show chat.afterAll [] = chat from rfl, idle] at held
    contradiction
  | append_singleton calls call ih =>
    have now : (chat.afterAll (calls ++ [call])).progress = tally := by
      rw [progress, held, Option.getD_some]
    rw [afterAll_concat] at held
    have becomes := (chat.afterAll calls).becomes call
    obtain ⟨begins, size⟩ | ⟨lasting, former, ongoing, same⟩ := becomes.size_origin held
    · refine ⟨calls, [call], rfl, ⟨call, [], rfl, begins, by simp⟩, size, fun position marked => ?_⟩
      obtain ⟨sessionId, fingerprint, vouches⟩ | ⟨lasting, former, ongoing, _⟩ :=
        becomes.accounts held marked
      · refine ⟨[], call, [], sessionId, fingerprint, rfl, by simpa using vouches, ?_⟩
        intro further early
        obtain rfl := List.prefix_nil.mp early
        simpa [now] using marked
      · -- What stood before does not last through a call that begins anew.
        obtain absent | restarts := begins
        · rw [absent] at ongoing
          contradiction
        · exact absurd (.inr restarts) lasting
    · obtain ⟨front, back, rfl, grounds⟩ := ih former ongoing
      refine ⟨front, back ++ [call], by simp, ?_, same.symm.trans grounds.size,
        fun position marked => ?_⟩
      · obtain ⟨first, rest, rfl, begins, kept⟩ := grounds.begins
        refine ⟨first, rest ++ [call], rfl, begins, fun other member => ?_⟩
        obtain member | member := List.mem_append.mp member
        · exact kept other member
        · exact List.mem_singleton.mp member ▸ lasting
      · obtain ⟨sessionId, fingerprint, vouches⟩ | ⟨_, before, held, stood⟩ :=
          becomes.accounts held marked
        · refine ⟨back, call, [], sessionId, fingerprint, rfl, vouches, fun further early => ?_⟩
          obtain rfl := List.prefix_nil.mp early
          rw [now]
          exact marked
        · rw [ongoing, Option.some.injEq] at held
          subst held
          exact (grounds.vouched position stood).concat (by rwa [now])

def IsSteady (chat : Chat) (calls : List Call) : Prop :=
  ∀ earlier, earlier <+: calls →
    (chat.afterAll earlier).sessionId = (chat.afterAll calls).sessionId ∧
      (chat.afterAll earlier).roster = (chat.afterAll calls).roster

theorem VouchedSince.current {front back : List Call}
    (vouched : chat.VouchedSince front back position)
    (steady : (chat.afterAll front).IsSteady back) :
    ∃ before call rest sessionId fingerprint, back = before ++ call :: rest ∧
      (chat.afterAll (front ++ before)).Vouches sessionId fingerprint call position ∧
      (chat.afterAll (front ++ back)).sessionId = some sessionId ∧
      (chat.afterAll (front ++ back)).roster.fingerprint = .ok fingerprint := by
  obtain ⟨before, call, rest, sessionId, fingerprint, rfl, vouches, _⟩ := vouched
  obtain ⟨session, table⟩ := steady before (List.prefix_append _ _)
  rw [← afterAll_append, ← afterAll_append] at session table
  have current := vouches.current
  rw [session, table] at current
  exact ⟨before, call, rest, sessionId, fingerprint, rfl, vouches, current.1, current.2⟩

/-- A chat turns encrypted when every participant has been vouched for that its table had as the
attestation began. They are the participants it has, and were vouched for with the session id and the
table it has, if neither has changed since. -/
theorem encrypted_grounds (settings : ChatSettings) (name : String) (calls : List Call)
    (call : Call) (plain : ((Chat.new settings name).afterAll calls).phase ≠ .encrypted)
    (turned : ((Chat.new settings name).afterAll (calls ++ [call])).phase = .encrypted) :
    let opened := Chat.new settings name
    let final := opened.afterAll (calls ++ [call])
    ∃ front back tally, calls ++ [call] = front ++ back ∧ final.tally = some tally ∧
      opened.Grounds front back tally ∧ (∀ position < tally.size, tally.isMarked position) ∧
      ((opened.afterAll front).IsSteady back →
        tally.size = final.roster.size ∧
        ∀ position < final.roster.size, ∃ before call rest sessionId fingerprint,
          back = before ++ call :: rest ∧
          (opened.afterAll (front ++ before)).Vouches sessionId fingerprint call position ∧
          final.sessionId = some sessionId ∧ final.roster.fingerprint = .ok fingerprint) := by
  intro opened final
  have reached : final = (opened.afterAll calls).after call := afterAll_concat ..
  obtain ⟨_, _, tally, _, _, held, _, complete⟩ :=
    ((opened.afterAll calls).becomes call).encrypted plain (reached ▸ turned)
  rw [← reached] at held
  have counted : final.IsCounted := Reachable.isCounted ⟨settings, name, _, rfl⟩
  have all := (counted tally held).isComplete_iff.mp complete
  obtain ⟨front, back, split, grounds⟩ := exists_grounds rfl (calls ++ [call]) tally held
  refine ⟨front, back, tally, split, held, grounds, all, fun steady => ?_⟩
  have whole : opened.afterAll (front ++ back) = final := by rw [← split]
  have begun : (opened.afterAll front).roster = ((opened.afterAll front).afterAll back).roster :=
    (steady [] List.nil_prefix).2
  rw [← afterAll_append, whole] at begun
  have size : tally.size = final.roster.size := grounds.size.trans (congrArg Roster.size begun)
  refine ⟨size, fun position inRange => ?_⟩
  have vouched := (grounds.vouched position (all position (size ▸ inRange))).current steady
  rwa [whole] at vouched

theorem encrypted_grounds_pair :
    let calls := assembly [.alice, .bob] (.zero _)
    let call := Call.receive (attestationOfBob [.alice, .bob])
    let opened := Chat.new .default "alice"
    (opened.afterAll calls).phase ≠ .encrypted ∧
      (opened.afterAll (calls ++ [call])).phase = .encrypted ∧
      ∃ front back tally, calls ++ [call] = front ++ back ∧ opened.Grounds front back tally ∧
        ∀ position < tally.size, tally.isMarked position := by
  intro calls call opened
  have plain : (opened.afterAll calls).phase ≠ .encrypted := by decide +kernel
  have turned : (opened.afterAll (calls ++ [call])).phase = .encrypted := by decide +kernel
  obtain ⟨front, back, tally, split, _, grounds, all, _⟩ :=
    encrypted_grounds .default "alice" calls call plain turned
  exact ⟨plain, turned, front, back, tally, split, grounds, all⟩

/-- Alice has begun to attest for a table of two when Carol joins. The attestation of Bob, for the
table of three, is then all that is waited for, and nobody has vouched for Carol. -/
theorem exists_encrypted_unattested :
    (assembled "bob" [.alice, .bob, .carol] (.zero _)).attestation =
        .ok (attestationOfBob [.alice, .bob, .carol]) ∧
      let calls := assembly [.alice, .bob] (.zero _) ++ [.start, .insert .carol]
      let chat := (Chat.new .default "alice").afterAll calls
      let final := chat.after (.receive (attestationOfBob [.alice, .bob, .carol]))
      chat.phase ≠ .encrypted ∧ final.phase = .encrypted ∧ final.roster.size = 3 ∧
        final.tally = some ⟨[true, true], 2, .finished⟩ := by
  decide +kernel

end GroupChat.Chat
