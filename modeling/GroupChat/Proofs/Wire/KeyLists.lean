import GroupChat.Proofs.Wire.PayloadShape
import GroupChat.Proofs.Wire.Refusals

/-!
Lists of keys after their count. The count is whatever the four bytes say, so it is the bytes that
end the list: each key takes at least its length. What is no list is refused for one reason, by what
stands in the place of the first key that is not whole.
-/
namespace GroupChat.Payload

open GroupChat.Part FrameReader

variable {buffer rest : Bytes} {error : ReadError FrameError}

/-- The buffer counts `declared` keys. Whole ones stand first, of these digits, and `rest` is what
follows them. -/
structure Declares (buffer : Bytes) (declared : Nat) (keys : List Bytes) (rest : Bytes) : Prop where
  counted : declared < UInt32.size
  fits : ∀ digits ∈ keys, digits.length < UInt32.size
  bytes : buffer = (count declared).bytes ++ (join (keys.map number) ++ rest)

/-- Why reading ends before a key, and where: its length is not there, or less than that length. -/
inductive Breaks (declared found : Nat) : Bytes → ReadError FrameError → Bytes → Prop
  | unsized (left : Bytes) (short : left.length < Layout.lengthSize) :
    Breaks declared found left (.refused (.keyCount declared found)) left
  | cut (size : Nat) (content : Bytes) (fits : size < UInt32.size)
    (short : content.length < size) :
    Breaks declared found ((count size).bytes ++ content) (.refused .tooShort) content

def readKey (declared found : Nat) : FrameReader Mpi := do
  Reader.ensure Layout.lengthSize (.keyCount declared found)
  mpi

theorem readKeys_succ (missing found : Nat) :
    readKeys (missing + 1) found = do
      let key ← readKey (found + (missing + 1)) found
      return key :: (← readKeys missing (found + 1)) := by
  simp only [readKeys, readKey, bind_assoc, Nat.add_assoc]

theorem readKey_eq_ok {declared found : Nat} {key : Mpi} :
    readKey declared found buffer = .ok key rest ↔ mpi buffer = .ok key rest := by
  simp only [readKey, bind_eq_ok, ensure_eq_ok]
  refine ⟨fun read => ?_, fun read => ?_⟩
  · obtain ⟨_, _, ⟨-, rfl⟩, read⟩ := read
    exact read
  · refine ⟨(), buffer, ⟨?_, rfl⟩, read⟩
    obtain ⟨digits, -, -, rfl⟩ := mpi_eq_ok.mp read
    simp [Part.bytes, sized]

theorem readKey_eq_error {declared found : Nat} :
    readKey declared found buffer = .error error rest ↔
      Breaks declared found buffer error rest := by
  simp only [readKey, bind_eq_error, ensure_eq_error, ensure_eq_ok, mpi_eq_error, field_eq_error]
  refine ⟨fun failed => ?_, fun breaks => ?_⟩
  · obtain ⟨short, rfl, rfl⟩ | ⟨_, _, ⟨present, rfl⟩, rfl, ⟨short, -⟩ | ⟨size, fits, rfl, short⟩⟩ :=
      failed
    · exact .unsized _ short
    · exact absurd present (Nat.not_le.mpr short)
    · exact .cut size _ fits short
  · cases breaks with
    | unsized _ short => exact .inl ⟨short, rfl, rfl⟩
    | cut size _ fits short =>
      exact .inr ⟨(), _, ⟨by simp [Part.bytes], rfl⟩, rfl, .inr ⟨size, fits, rfl, short⟩⟩

theorem readKeys_eq_error {missing found : Nat} :
    readKeys missing found buffer = .error error rest ↔
      ∃ (keys : List Bytes) (left : Bytes), keys.length < missing ∧
        (∀ part ∈ keys.map number, part.Fits) ∧ buffer = join (keys.map number) ++ left ∧
        Breaks (found + missing) (found + keys.length) left error rest := by
  induction missing generalizing found buffer with
  | zero => simp [readKeys, pure_ne_error]
  | succ missing ih =>
    simp only [readKeys_succ, bind_eq_error, readKey_eq_error, readKey_eq_ok, mpi_eq_ok, ih,
      pure_ne_error, and_false, exists_false, or_false]
    have declared : found + 1 + missing = found + (missing + 1) := by omega
    have counted (keys : List Bytes) : found + 1 + keys.length = found + (keys.length + 1) := by
      omega
    refine ⟨fun failed => ?_, fun broken => ?_⟩
    · obtain breaks | ⟨_, _, ⟨first, rfl, fits, rfl⟩, keys, left, fewer, keysFit, rfl, breaks⟩ :=
        failed
      · exact ⟨[], buffer, Nat.succ_pos _, by simp, rfl, breaks⟩
      · rw [declared, counted] at breaks
        refine ⟨first :: keys, left, Nat.succ_lt_succ fewer, ?_, by simp, breaks⟩
        exact List.forall_mem_cons.mpr ⟨fits, keysFit⟩
    · obtain ⟨keys, left, fewer, fits, rfl, breaks⟩ := broken
      cases keys with
      | nil => exact .inl breaks
      | cons first keys =>
        obtain ⟨firstFits, keysFit⟩ := List.forall_mem_cons.mp fits
        rw [List.length_cons, ← declared, ← counted] at breaks
        exact .inr ⟨_, _, ⟨first, rfl, firstFits, by simp⟩, keys, left,
          Nat.lt_of_succ_lt_succ fewer, keysFit, rfl, breaks⟩

theorem forall_fits_number {keys : List Bytes} :
    (∀ part ∈ keys.map number, part.Fits) ↔ ∀ digits ∈ keys, digits.length < UInt32.size :=
  List.forall_mem_map

theorem readKeyList_eq_error :
    readKeyList buffer = .error error rest ↔
      (buffer.length < Layout.lengthSize ∧ error = .refused .tooShort ∧ rest = buffer) ∨
      (∃ declared keys left, Declares buffer declared keys left ∧ keys.length < declared ∧
        Breaks declared keys.length left error rest) ∨
      ∃ keys, Declares buffer keys.length keys rest ∧ rest ≠ [] ∧
        error = .refused (.trailing rest.length) := by
  simp only [readKeyList, bind_eq_error, length_eq_error, length_eq_ok, toEnd_eq_error,
    readKeys_eq_error, readKeys_eq_ok, forall_fits_number, Nat.zero_add]
  refine or_congr_right ⟨fun failed => ?_, fun unlisted => ?_⟩
  · obtain ⟨declared, _, ⟨counted, rfl⟩, ⟨keys, left, fewer, fits, rfl, breaks⟩ |
      ⟨_, ⟨keys, rfl, rfl, fits, rfl⟩, excess, rfl⟩⟩ := failed
    · exact .inl ⟨declared, keys, left, ⟨counted, fits, rfl⟩, fewer, breaks⟩
    · exact .inr ⟨keys, ⟨counted, fits, rfl⟩, excess, rfl⟩
  · obtain ⟨declared, keys, left, ⟨counted, fits, rfl⟩, fewer, breaks⟩ |
      ⟨keys, ⟨counted, fits, rfl⟩, excess, rfl⟩ := unlisted
    · exact ⟨declared, _, ⟨counted, rfl⟩, .inl ⟨keys, left, fewer, fits, rfl, breaks⟩⟩
    · exact ⟨_, _, ⟨counted, rfl⟩, .inr ⟨_, ⟨keys, rfl, rfl, fits, rfl⟩, excess, rfl⟩⟩

structure Collection where
  unread : Bytes
  keys : List Mpi

/-- A read that keeps the keys it has read also when it fails. -/
abbrev Collector := EStateM (ReadError FrameError) Collection

def collecting {α : Type} (reader : FrameReader α) : Collector α := fun collection =>
  match reader collection.unread with
  | .ok value rest => .ok value { collection with unread := rest }
  | .error error rest => .error error { collection with unread := rest }

def collectKeys (declared : Nat) : (missing : Nat) → Collector Unit
  | 0 => return
  | missing + 1 => do
    let collection ← get
    let key ← collecting (readKey declared collection.keys.length)
    modify fun collection => { collection with keys := collection.keys ++ [key] }
    collectKeys declared missing

def collectKeyList : Collector Unit := do
  let declared ← collecting length
  collectKeys declared declared
  collecting (Reader.ensureEnd .trailing)

/-- Reading and collecting end alike and in the same place. What collecting has appended to `keys`
by then is what is read, if that is ok, and takes four bytes a key at least. -/
inductive Accords (limit : Nat) (keys : List Mpi) :
    EStateM.Result (ReadError FrameError) Bytes (List Mpi) →
      EStateM.Result (ReadError FrameError) Collection Unit → Prop
  | ok (appended : List Mpi) (rest : Bytes) (room : 4 * appended.length ≤ limit) :
    Accords limit keys (.ok appended rest) (.ok () ⟨rest, keys ++ appended⟩)
  | error (error : ReadError FrameError) (appended : List Mpi) (rest : Bytes)
    (room : 4 * appended.length ≤ limit) :
    Accords limit keys (.error error rest) (.error error ⟨rest, keys ++ appended⟩)

variable {declared missing : Nat} {keys : List Mpi} {key : Mpi}

theorem collecting_of_ok {α : Type} {reader : FrameReader α} {value : α}
    (ok : reader buffer = .ok value rest) :
    collecting reader ⟨buffer, keys⟩ = .ok value ⟨rest, keys⟩ := by
  simp only [collecting, ok]

theorem collecting_of_error {α : Type} {reader : FrameReader α}
    (failed : reader buffer = .error error rest) :
    collecting reader ⟨buffer, keys⟩ = .error error ⟨rest, keys⟩ := by
  simp only [collecting, failed]

theorem collectKeys_succ :
    collectKeys declared (missing + 1) ⟨buffer, keys⟩ =
      (collecting (readKey declared keys.length) >>= fun key => do
        modify fun collection => { collection with keys := collection.keys ++ [key] }
        collectKeys declared missing) ⟨buffer, keys⟩ := rfl

theorem collectKeys_of_ok (ok : readKey declared keys.length buffer = .ok key rest) :
    collectKeys declared (missing + 1) ⟨buffer, keys⟩ =
      collectKeys declared missing ⟨rest, keys ++ [key]⟩ := by
  rw [collectKeys_succ, bind_of_ok (collecting_of_ok ok)]
  rfl

theorem collectKeys_of_error (failed : readKey declared keys.length buffer = .error error rest) :
    collectKeys declared (missing + 1) ⟨buffer, keys⟩ = .error error ⟨rest, keys⟩ := by
  rw [collectKeys_succ, bind_of_error (collecting_of_error failed)]

variable {limit : Nat} {collected : EStateM.Result (ReadError FrameError) Collection Unit}

theorem Accords.eq_ok {read : List Mpi} (accords : Accords limit keys (.ok read rest) collected) :
    collected = .ok () ⟨rest, keys ++ read⟩ ∧ 4 * read.length ≤ limit := by
  cases accords with
  | ok _ _ room => exact ⟨rfl, room⟩

theorem Accords.eq_error (accords : Accords limit keys (.error error rest) collected) :
    ∃ appended, collected = .error error ⟨rest, keys ++ appended⟩ ∧
      4 * appended.length ≤ limit := by
  cases accords with
  | error _ appended _ room => exact ⟨appended, rfl, room⟩

theorem Accords.finished_iff {result : EStateM.Result (ReadError FrameError) Bytes (List Mpi)}
    {read : List Mpi} (accords : Accords limit [] result collected) :
    collected = .ok () ⟨rest, read⟩ ↔ result = .ok read rest := by
  cases accords <;> simp [and_comm]

theorem Accords.stopped_iff {result : EStateM.Result (ReadError FrameError) Bytes (List Mpi)}
    (accords : Accords limit [] result collected) :
    (∃ appended, collected = .error error ⟨rest, appended⟩) ↔ result = .error error rest := by
  cases accords <;> simp

theorem Accords.length_keys_le {result : EStateM.Result (ReadError FrameError) Bytes (List Mpi)}
    (accords : Accords limit [] result collected) :
    4 * (finalState collected).keys.length ≤ limit := by
  cases accords with
  | ok _ _ room => exact room
  | error _ _ _ room => exact room

theorem Accords.cons {larger : Nat} {reader : FrameReader (List Mpi)}
    (accords : Accords limit (keys ++ [key]) (reader buffer) collected)
    (room : 4 + limit ≤ larger) :
    Accords larger keys ((reader >>= fun others => pure (key :: others)) buffer) collected := by
  have appended (others : List Mpi) : keys ++ [key] ++ others = keys ++ key :: others := by simp
  have fits {others : List Mpi} (inside : 4 * others.length ≤ limit) :
      4 * (key :: others).length ≤ larger := by
    rw [List.length_cons]
    omega
  cases outcome : reader buffer with
  | ok others rest =>
    rw [outcome] at accords
    obtain ⟨rfl, inside⟩ := accords.eq_ok
    rw [bind_of_ok outcome, appended]
    exact .ok _ rest (fits inside)
  | error error rest =>
    rw [outcome] at accords
    obtain ⟨others, rfl, inside⟩ := accords.eq_error
    rw [bind_of_error outcome, appended]
    exact .error error _ rest (fits inside)

theorem accords_collectKeys (missing : Nat) (keys : List Mpi) (buffer : Bytes) :
    Accords buffer.length keys (readKeys missing keys.length buffer)
      (collectKeys (keys.length + missing) missing ⟨buffer, keys⟩) := by
  induction missing generalizing keys buffer with
  | zero =>
    have accords : Accords buffer.length keys (.ok [] buffer) (.ok () ⟨buffer, keys ++ []⟩) :=
      .ok [] buffer (Nat.zero_le _)
    rwa [List.append_nil] at accords
  | succ missing ih =>
    rw [readKeys_succ]
    cases outcome : readKey (keys.length + (missing + 1)) keys.length buffer with
    | error error rest =>
      have accords : Accords buffer.length keys (.error error rest)
          (.error error ⟨rest, keys ++ []⟩) :=
        .error error [] rest (Nat.zero_le _)
      rw [List.append_nil] at accords
      rwa [bind_of_error outcome, collectKeys_of_error outcome]
    | ok key rest =>
      obtain ⟨digits, -, -, taken⟩ := mpi_eq_ok.mp (readKey_eq_ok.mp outcome)
      have shorter : 4 + rest.length ≤ buffer.length := by
        have whole := congrArg List.length taken
        simp only [Part.bytes, sized, List.length_append, BigEndian.length_encode,
          Layout.lengthSize] at whole
        omega
      have declared : (keys ++ [key]).length + missing = keys.length + (missing + 1) := by
        rw [List.length_append, List.length_singleton]
        omega
      have accords := ih (keys ++ [key]) rest
      rw [declared, List.length_append, List.length_singleton] at accords
      rw [bind_of_ok outcome, collectKeys_of_ok outcome]
      exact accords.cons shorter

theorem accords_collectKeyList (buffer : Bytes) :
    Accords (buffer.length - Layout.lengthSize) [] (readKeyList buffer)
      (collectKeyList ⟨buffer, []⟩) := by
  cases counted : length buffer with
  | error error rest =>
    rw [readKeyList, bind_of_error counted, collectKeyList,
      bind_of_error (collecting_of_error counted)]
    exact .error error [] rest (Nat.zero_le _)
  | ok declared listed =>
    have room : listed.length = buffer.length - Layout.lengthSize := by
      obtain ⟨-, rfl⟩ := length_eq_ok.mp counted
      simp [Part.bytes]
    have accords := accords_collectKeys declared [] listed
    rw [List.length_nil, Nat.zero_add, room] at accords
    rw [readKeyList, bind_of_ok counted, collectKeyList, bind_of_ok (collecting_of_ok counted),
      Reader.toEnd]
    cases outcome : readKeys declared 0 listed with
    | error error rest =>
      rw [outcome] at accords
      obtain ⟨appended, stopped, inside⟩ := accords.eq_error
      rw [bind_of_error outcome, bind_of_error stopped]
      exact .error error appended rest inside
    | ok read rest =>
      rw [outcome] at accords
      obtain ⟨finished, inside⟩ := accords.eq_ok
      rw [bind_of_ok outcome, bind_of_ok finished]
      cases ending : Reader.ensureEnd FrameError.trailing rest with
      | error error left =>
        rw [bind_of_error ending, collecting_of_error ending]
        exact .error error read left inside
      | ok _ left =>
        rw [bind_of_ok ending, collecting_of_ok ending]
        exact .ok read left inside

theorem exists_readKeyList_keyCount {found : Nat} :
    (∃ rest, readKeyList buffer = .error (.refused (.keyCount declared found)) rest) ↔
      ∃ keys rest, Declares buffer declared keys rest ∧ keys.length = found ∧ found < declared ∧
        rest.length < Layout.lengthSize := by
  refine ⟨fun failed => ?_, fun broken => ?_⟩
  · obtain ⟨rest, failed⟩ := failed
    obtain ⟨-, other, -⟩ | ⟨_, keys, left, declares, fewer, breaks⟩ | ⟨_, -, -, other⟩ :=
      readKeyList_eq_error.mp failed
    · cases other
    · cases breaks with
      | unsized _ short => exact ⟨keys, rest, declares, rfl, fewer, short⟩
    · cases other
  · obtain ⟨keys, rest, declares, rfl, fewer, short⟩ := broken
    refine ⟨rest, readKeyList_eq_error.mpr (.inr (.inl ?_))⟩
    exact ⟨declared, keys, rest, declares, fewer, .unsized rest short⟩

theorem exists_readKeyList_trailing {excess : Nat} :
    (∃ rest, readKeyList buffer = .error (.refused (.trailing excess)) rest) ↔
      ∃ keys rest, Declares buffer keys.length keys rest ∧ rest.length = excess ∧ 1 ≤ excess := by
  refine ⟨fun failed => ?_, fun exceeded => ?_⟩
  · obtain ⟨rest, failed⟩ := failed
    obtain ⟨-, other, -⟩ | ⟨_, _, _, -, -, breaks⟩ | ⟨keys, declares, present, same⟩ :=
      readKeyList_eq_error.mp failed
    · cases other
    · cases breaks
    · cases same
      exact ⟨keys, rest, declares, rfl, List.length_pos_iff.mpr present⟩
  · obtain ⟨keys, rest, declares, rfl, present⟩ := exceeded
    refine ⟨rest, readKeyList_eq_error.mpr (.inr (.inr ?_))⟩
    exact ⟨keys, declares, List.length_pos_iff.mp present, rfl⟩

theorem exists_readKeyList_tooShort :
    (∃ rest, readKeyList buffer = .error (.refused .tooShort) rest) ↔
      buffer.length < Layout.lengthSize ∨
        ∃ declared keys size content,
          Declares buffer declared keys ((count size).bytes ++ content) ∧ keys.length < declared ∧
            size < UInt32.size ∧ content.length < size := by
  refine ⟨fun failed => ?_, fun lacking => ?_⟩
  · obtain ⟨rest, failed⟩ := failed
    obtain ⟨short, -, -⟩ | ⟨declared, keys, left, declares, fewer, breaks⟩ | ⟨_, -, -, other⟩ :=
      readKeyList_eq_error.mp failed
    · exact .inl short
    · cases breaks with
      | cut size _ fits short =>
        exact .inr ⟨declared, keys, size, rest, declares, fewer, fits, short⟩
    · cases other
  · obtain short | ⟨declared, keys, size, content, declares, fewer, fits, short⟩ := lacking
    · exact ⟨buffer, readKeyList_eq_error.mpr (.inl ⟨short, rfl, rfl⟩)⟩
    · refine ⟨content, readKeyList_eq_error.mpr (.inr (.inl ?_))⟩
      exact ⟨declared, keys, _, declares, fewer, .cut size content fits short⟩

theorem readKeyList_eq_ok_iff_declares {rest : Bytes} :
    readKeyList buffer = .ok keys rest ↔
      rest = [] ∧ ∃ digits, Declares buffer digits.length digits [] ∧
        keys = digits.map .ofBytes := by
  rw [readKeyList_eq_ok]
  refine and_congr_right fun _ => ⟨fun spelled => ?_, fun declares => ?_⟩
  · obtain ⟨digits, rfl, fits, rfl⟩ := spelled
    obtain ⟨counted, fits⟩ := List.forall_mem_cons.mp fits
    exact ⟨digits, ⟨counted, forall_fits_number.mp fits, by simp⟩, rfl⟩
  · obtain ⟨digits, ⟨counted, fits, rfl⟩, rfl⟩ := declares
    refine ⟨digits, rfl, ?_, by simp⟩
    exact List.forall_mem_cons.mpr ⟨counted, forall_fits_number.mpr fits⟩

/-- A buffer is read as a list of keys exactly when it is a count and as many whole keys, which are
the ones that come out, in order and in their normal form. Else it is refused: for the number of
whole keys if it ends before the length of the next one, for what follows the keys if they are all
there, and as too short if there is no count or a key is cut. Whatever the count says, no more keys
are appended than four bytes each allow; that is seen in the collection of them, which goes as the
reading does. -/
theorem readKeyList_classified (buffer : Bytes) :
    (∀ keys rest, readKeyList buffer = .ok keys rest ↔
      rest = [] ∧ ∃ digits, Declares buffer digits.length digits [] ∧
        keys = digits.map .ofBytes) ∧
    (∀ declared found,
      (∃ rest, readKeyList buffer = .error (.refused (.keyCount declared found)) rest) ↔
        ∃ keys rest, Declares buffer declared keys rest ∧ keys.length = found ∧
          found < declared ∧ rest.length < Layout.lengthSize) ∧
    (∀ excess, (∃ rest, readKeyList buffer = .error (.refused (.trailing excess)) rest) ↔
      ∃ keys rest, Declares buffer keys.length keys rest ∧ rest.length = excess ∧ 1 ≤ excess) ∧
    ((∃ rest, readKeyList buffer = .error (.refused .tooShort) rest) ↔
      buffer.length < Layout.lengthSize ∨
        ∃ declared keys size content,
          Declares buffer declared keys ((count size).bytes ++ content) ∧ keys.length < declared ∧
            size < UInt32.size ∧ content.length < size) ∧
    (∀ error rest, readKeyList buffer = .error error rest →
      error = .refused .tooShort ∨ (∃ excess, error = .refused (.trailing excess)) ∨
        ∃ declared found, error = .refused (.keyCount declared found)) ∧
    (∀ keys rest, collectKeyList ⟨buffer, []⟩ = .ok () ⟨rest, keys⟩ ↔
      readKeyList buffer = .ok keys rest) ∧
    (∀ error rest, (∃ keys, collectKeyList ⟨buffer, []⟩ = .error error ⟨rest, keys⟩) ↔
      readKeyList buffer = .error error rest) ∧
    (finalState (collectKeyList ⟨buffer, []⟩)).keys.length ≤
      (buffer.length - Layout.lengthSize) / 4 := by
  have accords := accords_collectKeyList buffer
  refine ⟨fun _ _ => readKeyList_eq_ok_iff_declares, fun _ _ => exists_readKeyList_keyCount,
    fun _ => exists_readKeyList_trailing, exists_readKeyList_tooShort, fun error rest failed => ?_,
    fun _ _ => accords.finished_iff, fun _ _ => accords.stopped_iff, ?_⟩
  · obtain ⟨-, rfl, -⟩ | ⟨declared, keys, left, -, -, breaks⟩ | ⟨_, -, -, rfl⟩ :=
      readKeyList_eq_error.mp failed
    · exact .inl rfl
    · cases breaks with
      | unsized => exact .inr (.inr ⟨_, _, rfl⟩)
      | cut => exact .inl rfl
    · exact .inr (.inl ⟨_, rfl⟩)
  · have room := accords.length_keys_le
    omega

example :
    readKeyList [0xff, 0xff, 0xff, 0xff, 0, 0, 0, 0, 0, 0] =
      .error (.refused (.keyCount 0xffffffff 1)) [0, 0] := by cbv

end GroupChat.Payload
