import GroupChat.Proofs.Roster.Changes
import GroupChat.Proofs.SlotList.StableOrder
import Mathlib.Data.List.InsertIdx

/-!
Where participants stand in a table. They are in the order of their names, by the bytes in UTF-8, and
those of one name in the order in which they were added. So positions can be counted: a participant
who is added stands behind all whose names are not greater, and the first of a name stands behind all
whose names are smaller.
-/
namespace GroupChat

/-! ### Beginnings of lists in order -/

section Beginnings

variable {β : Type} {list : List β} {holds : β → Bool}

theorem length_takeWhile_eq_countP (passes : list.Pairwise fun a b => holds b → holds a) :
    (list.takeWhile holds).length = list.countP holds := by
  conv => rhs; rw [← List.takeWhile_append_dropWhile (p := holds) (l := list)]
  exact (countP_append_eq_length (fun _ => List.mem_takeWhile_imp)
    fun _ => not_of_mem_dropWhile passes).symm

theorem insertIdx_length {front back : List β} {entry : β} :
    (front ++ back).insertIdx front.length entry = front ++ entry :: back :=
  List.modifyTailIdx_add (List.cons entry) 0 front back

theorem eraseIdx_length {front back : List β} {entry : β} :
    (front ++ entry :: back).eraseIdx front.length = front ++ back := by
  rw [List.eraseIdx_append_of_length_le (Nat.le_refl _), Nat.sub_self, List.eraseIdx_zero]
  rfl

end Beginnings

namespace Participant

variable {a b c : Participant}

theorem compareNames_congr_right (same : b.name = c.name) :
    compareNames a b = compareNames a c := by
  rw [compareNames, same, compareNames]

theorem compareNames_congr_left (same : a.name = b.name) :
    compareNames a c = compareNames b c := by
  rw [compareNames, same, compareNames]

end Participant

open Participant

/-! ### Those who have been added -/

/-- A participant in a table, and the number of the change that has added it. -/
structure Arrival where
  date : Nat
  participant : Participant

namespace Arrival

variable {a b c : Arrival} {arrivals : List Arrival}

def name (arrival : Arrival) : String := arrival.participant.name

/-- By their names, and those of one name by their dates. -/
def Precedes (a b : Arrival) : Prop :=
  compareNames a.participant b.participant = .lt ∨ a.name = b.name ∧ a.date < b.date

instance : DecidableRel Precedes := fun _ _ => inferInstanceAs (Decidable (_ ∨ _))

theorem Precedes.trans (first : a.Precedes b) (second : b.Precedes c) : a.Precedes c := by
  obtain before | ⟨same, older⟩ := first
  · obtain further | ⟨like, _⟩ := second
    · exact .inl (Std.TransCmp.lt_trans before further)
    · exact .inl (compareNames_congr_right like ▸ before)
  · obtain further | ⟨like, elder⟩ := second
    · exact .inl ((compareNames_congr_left same).trans further)
    · exact .inr ⟨same.trans like, older.trans elder⟩

theorem Precedes.irrefl (a : Arrival) : ¬ a.Precedes a := by
  rintro (before | ⟨_, older⟩)
  · rw [compareNames_eq_eq.mpr rfl] at before
    contradiction
  · exact Nat.lt_irrefl a.date older

theorem precedes_congr {first second : Arrival} (names : first.name = a.name ∧ second.name = b.name)
    (dates : first.date = a.date ∧ second.date = b.date) : first.Precedes second ↔ a.Precedes b := by
  rw [Precedes, Precedes, compareNames_congr_left names.1, compareNames_congr_right names.2, names.1,
    names.2, dates.1, dates.2]

def rekeyed (arrivals : List Arrival) (position : Nat) (key : Option SigningKey)
    (arrival : Arrival) : Arrival :=
  if arrivals.countP (Precedes · arrival) = position then
    { arrival with participant := { arrival.participant with key } }
  else arrival

theorem name_rekeyed (arrivals : List Arrival) (position : Nat) (key : Option SigningKey)
    (arrival : Arrival) : (rekeyed arrivals position key arrival).name = arrival.name := by
  unfold rekeyed
  split <;> rfl

theorem date_rekeyed (arrivals : List Arrival) (position : Nat) (key : Option SigningKey)
    (arrival : Arrival) : (rekeyed arrivals position key arrival).date = arrival.date := by
  unfold rekeyed
  split <;> rfl

/-- Who is there after one more change, in the order of having been added. Of a name, the first to be
added is the first to leave. -/
def after (arrivals : List Arrival) (date : Nat) : Roster.Change → List Arrival
  | .insert participant => arrivals ++ [⟨date, participant⟩]
  | .erase name => arrivals.eraseP fun arrival => arrival.name = name
  | .rekey position key => arrivals.map (rekeyed arrivals position key)

def ofChanges (changes : List Roster.Change) : List Arrival :=
  changes.zipIdx.foldl (fun arrivals (change, date) => after arrivals date change) []

theorem ofChanges_concat (changes : List Roster.Change) (change : Roster.Change) :
    ofChanges (changes ++ [change]) = after (ofChanges changes) changes.length change := by
  simp [ofChanges, List.zipIdx_append]

structure Dated (arrivals : List Arrival) (number : Nat) : Prop where
  lt : ∀ arrival ∈ arrivals, arrival.date < number
  increasing : arrivals.Pairwise fun a b => a.date < b.date

theorem dated_after {date : Nat} (dated : Dated arrivals date) (change : Roster.Change) :
    Dated (after arrivals date change) (date + 1) := by
  have later : ∀ arrival ∈ arrivals, arrival.date < date + 1 := fun arrival member =>
    Nat.lt_succ_of_lt (dated.lt arrival member)
  cases change with
  | insert participant =>
    constructor
    · simpa [after, or_imp, forall_and] using later
    · simpa [after, List.pairwise_append] using ⟨dated.increasing, dated.lt⟩
  | erase name =>
    exact ⟨fun arrival member => later arrival (List.mem_of_mem_eraseP member),
      dated.increasing.sublist List.eraseP_sublist⟩
  | rekey position key =>
    constructor
    · intro arrival member
      obtain ⟨former, present, rfl⟩ := List.mem_map.mp member
      rw [date_rekeyed]
      exact later former present
    · rw [after, List.pairwise_map]
      exact dated.increasing.imp fun older => by rwa [date_rekeyed, date_rekeyed]

theorem dated_ofChanges (changes : List Roster.Change) :
    Dated (ofChanges changes) changes.length := by
  induction changes using List.reverseRecOn with
  | nil => exact ⟨fun _ absent => absurd absent List.not_mem_nil, .nil⟩
  | append_singleton changes change ih =>
    rw [ofChanges_concat, List.length_append]
    exact dated_after ih change

end Arrival

/-! ### Tables in order -/

namespace Roster

variable {roster : Roster} {arrivals table : List Arrival} {date : Nat}

def countUpTo (roster : Roster) (name : String) : Nat :=
  roster.toList.countP fun other => compare (utf8 other.name) (utf8 name) ≠ .gt

def countBelow (roster : Roster) (name : String) : Nat :=
  roster.toList.countP fun other => compare (utf8 other.name) (utf8 name) = .lt

/-- A table lists those who have arrived, in order. -/
structure Lists (roster : Roster) (arrivals table : List Arrival) : Prop where
  toList : roster.toList = table.map Arrival.participant
  perm : table.Perm arrivals
  sorted : table.Pairwise Arrival.Precedes

theorem stays_iff {participant other : Participant} :
    stays participant other ↔ compareNames other participant ≠ .gt := by
  have flipped : compareNames other participant = .gt ↔ compareNames participant other = .lt :=
    Std.OrientedCmp.gt_iff_lt
  rw [stays, decide_eq_true_eq, Ne, flipped]

namespace Lists

theorem passes (lists : roster.Lists arrivals table) (participant : Participant) :
    table.Pairwise fun a b => stays participant b.participant → stays participant a.participant := by
  refine lists.sorted.imp fun {a b} precedes => ?_
  rw [stays, stays, decide_eq_true_eq, decide_eq_true_eq, not_imp_not]
  intro behind
  obtain before | ⟨same, _⟩ := precedes
  · exact Std.TransCmp.lt_trans behind before
  · exact compareNames_congr_right same ▸ behind

theorem length_takeWhile (lists : roster.Lists arrivals table) (participant : Participant) :
    (roster.toList.takeWhile (stays participant)).length = roster.countUpTo participant.name := by
  have passes : roster.toList.Pairwise fun a b => stays participant b → stays participant a := by
    rw [lists.toList, List.pairwise_map]
    exact lists.passes participant
  rw [length_takeWhile_eq_countP passes, countUpTo]
  refine List.countP_congr fun other _ => stays_iff.trans ?_
  rw [decide_eq_true_eq]
  rfl

theorem insert (lists : roster.Lists arrivals table) (linked : roster.participants.IsLinked)
    (dated : Arrival.Dated arrivals date) (participant : Participant) :
    ∃ extended, (roster.insert participant).2.Lists (arrivals ++ [⟨date, participant⟩]) extended := by
  have whole := List.takeWhile_append_dropWhile (p := (stays participant ·.participant)) (l := table)
  have sorted := lists.sorted
  rw [← whole, List.pairwise_append] at sorted
  obtain ⟨front, back, across⟩ := sorted
  refine ⟨table.takeWhile (stays participant ·.participant) ++
    ⟨date, participant⟩ :: table.dropWhile (stays participant ·.participant), ?_, ?_, ?_⟩
  · rw [(insert_eq linked participant).2, lists.toList, List.takeWhile_map, List.dropWhile_map,
      List.map_append, List.map_cons]
    rfl
  · refine List.perm_middle.trans ?_
    rw [whole]
    exact (lists.perm.cons _).trans (List.perm_append_singleton _ arrivals).symm
  · refine List.pairwise_append.mpr ⟨front, List.pairwise_cons.mpr ⟨fun arrival member => ?_, back⟩, ?_⟩
    · have leaves := not_of_mem_dropWhile (lists.passes participant) member
      rw [stays, decide_eq_true_eq, not_not] at leaves
      exact .inl leaves
    · intro arrival before other member
      obtain rfl | member := List.mem_cons.mp member
      · have remains : stays participant arrival.participant :=
          List.mem_takeWhile_imp (p := fun other : Arrival => stays participant other.participant) before
        rw [stays_iff] at remains
        cases order : compareNames arrival.participant participant with
        | lt => exact .inl order
        | eq =>
          have known := lists.perm.mem_iff.mp ((List.takeWhile_sublist _).subset before)
          exact .inr ⟨compareNames_eq_eq.mp order, dated.lt arrival known⟩
        | gt => contradiction
      · exact across arrival before other member

theorem filter_eq (lists : roster.Lists arrivals table) (dated : Arrival.Dated arrivals date)
    (name : String) :
    table.filter (fun arrival => arrival.name = name) =
      arrivals.filter fun arrival => arrival.name = name := by
  have older : (table.filter fun arrival => arrival.name = name).Pairwise
      fun a b => a.date < b.date := by
    refine List.pairwise_filter.mpr (lists.sorted.imp fun {a b} precedes named also => ?_)
    rw [decide_eq_true_eq] at named also
    obtain before | ⟨_, older⟩ := precedes
    · rw [compareNames_eq_eq.mpr (named.trans also.symm)] at before
      contradiction
    · exact older
  refine List.Perm.eq_of_pairwise (fun a b _ _ before after => ?_) older
    (dated.increasing.sublist List.filter_sublist) (lists.perm.filter _)
  exact absurd after (Nat.lt_asymm before)

theorem exists_earliest (lists : roster.Lists arrivals table) (dated : Arrival.Dated arrivals date)
    {name : String} {earliest : Arrival}
    (found : arrivals.find? (fun arrival => arrival.name = name) = some earliest) :
    earliest.name = name ∧ ∃ front back, table = front ++ earliest :: back ∧
      (∀ arrival ∈ front, arrival.name ≠ name) ∧ front.length = roster.countBelow name := by
  rw [← List.head?_filter, ← lists.filter_eq dated, List.head?_filter,
    List.find?_eq_some_iff_append] at found
  obtain ⟨named, front, back, split, others⟩ := found
  have named : earliest.name = name := by rwa [decide_eq_true_eq] at named
  have others : ∀ arrival ∈ front, arrival.name ≠ name := by simpa using others
  refine ⟨named, front, back, split, others, ?_⟩
  have sorted := lists.sorted
  rw [split, List.pairwise_append, List.pairwise_cons] at sorted
  obtain ⟨_, ⟨behind, _⟩, across⟩ := sorted
  subst named
  have smaller : ∀ arrival ∈ front,
      compareNames arrival.participant earliest.participant = .lt := by
    intro arrival member
    exact (across arrival member earliest List.mem_cons_self).resolve_right
      fun same => others arrival member same.1
  have notSmaller : ∀ arrival ∈ earliest :: back,
      compareNames arrival.participant earliest.participant ≠ .lt := by
    intro arrival member before
    obtain rfl | member := List.mem_cons.mp member
    · rw [compareNames_eq_eq.mpr rfl] at before
      contradiction
    · obtain after | ⟨same, _⟩ := behind arrival member
      · rw [Std.OrientedCmp.gt_of_lt after] at before
        contradiction
      · rw [compareNames_eq_eq.mpr same.symm] at before
        contradiction
  rw [countBelow, lists.toList, List.countP_map, split]
  refine (countP_append_eq_length (fun arrival member => ?_) fun arrival member => ?_).symm
  · exact decide_eq_true (smaller arrival member)
  · rw [Function.comp_apply, decide_eq_true_eq]
    exact notSmaller arrival member

theorem erase_earliest (lists : roster.Lists arrivals table)
    (linked : roster.participants.IsLinked) (dated : Arrival.Dated arrivals date) {name : String}
    {earliest : Arrival}
    (found : arrivals.find? (fun arrival => arrival.name = name) = some earliest) :
    ∃ front back, table = front ++ earliest :: back ∧ front.length = roster.countBelow name ∧
      roster.positionOf? name = some front.length ∧
      (roster.erase name).1 = some earliest.participant ∧
      (roster.erase name).2.toList = (front ++ back).map Arrival.participant := by
  obtain ⟨rfl, front, back, split, others, place⟩ := lists.exists_earliest dated found
  have participants : roster.toList = front.map Arrival.participant ++
      earliest.participant :: back.map Arrival.participant := by
    rw [lists.toList, split, List.map_append, List.map_cons]
  have first : ∀ other ∈ front.map Arrival.participant,
      other.name ≠ earliest.participant.name := by
    intro other member
    obtain ⟨arrival, present, rfl⟩ := List.mem_map.mp member
    exact others arrival present
  obtain ⟨position, taken, left⟩ := erase_eq linked participants first
  rw [List.length_map] at position
  exact ⟨front, back, split, place, position, taken, left.trans List.map_append.symm⟩

theorem erase (lists : roster.Lists arrivals table) (linked : roster.participants.IsLinked)
    (dated : Arrival.Dated arrivals date) (name : String) :
    ∃ left, (roster.erase name).2.Lists
      (arrivals.eraseP fun arrival => arrival.name = name) left := by
  cases found : arrivals.find? fun arrival => arrival.name = name with
  | none =>
    have absent := List.find?_eq_none.mp found
    refine ⟨table, ?_⟩
    rw [List.eraseP_of_forall_not absent, (erase_of_absent ?_).2]
    · exact lists
    · rw [lists.toList, List.map_map]
      intro member
      obtain ⟨arrival, member, named⟩ := List.mem_map.mp member
      exact absent arrival (lists.perm.mem_iff.mp member) (decide_eq_true named)
  | some earliest =>
    obtain ⟨front, back, split, _, _, _, left⟩ := lists.erase_earliest linked dated found
    obtain ⟨named, before, after, place, others⟩ := List.find?_eq_some_iff_append.mp found
    have remaining : (arrivals.eraseP fun arrival => arrival.name = name) = before ++ after := by
      rw [place, List.eraseP_append_right _ (by simpa using others)]
      exact congrArg (before ++ ·) (List.eraseP_cons_of_pos named)
    refine ⟨front ++ back, left, ?_, ?_⟩
    · have perm := lists.perm
      rw [split, place] at perm
      rw [remaining, ← List.perm_cons earliest]
      exact List.perm_middle.symm.trans (perm.trans List.perm_middle)
    · have sorted := lists.sorted
      rw [split] at sorted
      exact sorted.sublist (List.Sublist.append_left (List.sublist_cons_self _ _) front)

theorem countP_precedes (lists : roster.Lists arrivals table) {position : Nat} {arrival : Arrival}
    (found : table[position]? = some arrival) :
    arrivals.countP (Arrival.Precedes · arrival) = position := by
  obtain ⟨front, back, split, rfl⟩ := SlotList.getElem?_split found
  have sorted := lists.sorted
  rw [split, List.pairwise_append, List.pairwise_cons] at sorted
  obtain ⟨_, ⟨behind, _⟩, across⟩ := sorted
  rw [← lists.perm.countP_eq, split]
  refine countP_append_eq_length (fun other member => ?_) fun other member => ?_
  · exact decide_eq_true (across other member arrival List.mem_cons_self)
  · rw [decide_eq_true_eq]
    intro before
    obtain rfl | member := List.mem_cons.mp member
    · exact before.irrefl
    · exact ((behind other member).trans before).irrefl

theorem rekey (lists : roster.Lists arrivals table) (linked : roster.participants.IsLinked)
    (position : Nat) (key : Option SigningKey) :
    ∃ changed, (roster.change (.rekey position key)).Lists
      (arrivals.map (Arrival.rekeyed arrivals position key)) changed := by
  refine ⟨table.map (Arrival.rekeyed arrivals position key), ?_, lists.perm.map _, ?_⟩
  · rw [toList_rekey linked, lists.toList]
    refine List.ext_getElem? fun place => ?_
    rw [List.getElem?_modify, List.getElem?_map, List.getElem?_map, List.getElem?_map]
    cases found : table[place]? with
    | none => rfl
    | some arrival =>
      have standing := lists.countP_precedes found
      by_cases here : position = place
      · simp [Arrival.rekeyed, standing, here]
      · simp [Arrival.rekeyed, standing, here, Ne.symm here]
  · refine List.pairwise_map.mpr (lists.sorted.imp fun {a b} precedes => ?_)
    exact (Arrival.precedes_congr ⟨Arrival.name_rekeyed .., Arrival.name_rekeyed ..⟩
      ⟨Arrival.date_rekeyed .., Arrival.date_rekeyed ..⟩).mpr precedes

theorem change (lists : roster.Lists arrivals table) (linked : roster.participants.IsLinked)
    (dated : Arrival.Dated arrivals date) (change : Change) :
    ∃ changed, (roster.change change).Lists (Arrival.after arrivals date change) changed := by
  cases change with
  | insert participant => exact lists.insert linked dated participant
  | erase name => exact lists.erase linked dated name
  | rekey position key => exact lists.rekey linked position key

end Lists

theorem exists_lists (changes : List Change) :
    ∃ table, (ofChanges changes).Lists (Arrival.ofChanges changes) table := by
  induction changes using List.reverseRecOn with
  | nil => exact ⟨[], rfl, .refl [], .nil⟩
  | append_singleton changes change ih =>
    obtain ⟨table, lists⟩ := ih
    rw [ofChanges_concat, Arrival.ofChanges_concat]
    exact lists.change (isLinked_ofChanges changes) (Arrival.dated_ofChanges changes) change

/-- Whatever becomes of a table: its participants stand in the order of their names, and those of one
name in the order of having been added. Whoever is added stands behind all whose names are not
greater, and is said to. The position of a name is the number of smaller names, if anybody has it, and
the first of that name to have been added is the one to leave, so that all behind move up by one. -/
theorem standing_settled (changes : List Change) :
    let roster := ofChanges changes
    let arrivals := Arrival.ofChanges changes
    ∃ table : List Arrival, roster.toList = table.map Arrival.participant ∧ table.Perm arrivals ∧
      table.Pairwise Arrival.Precedes ∧
      (∀ participant, (roster.insert participant).1 = some (roster.countUpTo participant.name) ∧
        (roster.insert participant).2.toList =
          roster.toList.insertIdx (roster.countUpTo participant.name) participant) ∧
      (∀ name ∉ roster.toList.map Participant.name,
        roster.positionOf? name = none ∧ roster.erase name = (none, roster)) ∧
      ∀ name ∈ roster.toList.map Participant.name, ∃ earliest,
        arrivals.find? (fun arrival => arrival.name = name) = some earliest ∧
        table[roster.countBelow name]? = some earliest ∧
        roster.positionOf? name = some (roster.countBelow name) ∧
        (roster.erase name).1 = some earliest.participant ∧
        (roster.erase name).2.toList = roster.toList.eraseIdx (roster.countBelow name) := by
  intro roster arrivals
  obtain ⟨table, lists⟩ := exists_lists changes
  have linked : roster.participants.IsLinked := isLinked_ofChanges changes
  have dated := Arrival.dated_ofChanges changes
  refine ⟨table, lists.toList, lists.perm, lists.sorted, fun participant => ?_,
    fun name absent => erase_of_absent absent, fun name present => ?_⟩
  · obtain ⟨position, whole⟩ := insert_eq linked participant
    have place := lists.length_takeWhile participant
    rw [position, whole, ← place]
    refine ⟨rfl, ?_⟩
    rw [← insertIdx_length, List.takeWhile_append_dropWhile]
  · have known : (arrivals.find? fun arrival => arrival.name = name).isSome := by
      rw [lists.toList, List.map_map] at present
      obtain ⟨arrival, member, named⟩ := List.mem_map.mp present
      exact List.find?_isSome.mpr ⟨arrival, lists.perm.mem_iff.mp member, decide_eq_true named⟩
    obtain ⟨earliest, found⟩ := Option.isSome_iff_exists.mp known
    obtain ⟨front, back, split, place, position, taken, left⟩ :=
      lists.erase_earliest linked dated found
    rw [← place]
    refine ⟨earliest, found, ?_, position, taken, ?_⟩
    · rw [split, List.getElem?_append_right (Nat.le_refl _), Nat.sub_self, List.getElem?_cons_zero]
    · rw [left, lists.toList, List.eraseIdx_map, split, eraseIdx_length]

end Roster

end GroupChat
