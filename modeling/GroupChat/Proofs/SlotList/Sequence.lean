import GroupChat.Proofs.SlotList.Operations

/-!
Lists as plain sequences of elements with their handles. Whatever is done to a list is done in the same
way to the sequence, with the same answers, and every look into the list shows what stands in the
sequence. Neither the slots nor what was done before make any difference, but for the handles that are
given out.
-/
namespace GroupChat.SlotList

variable {α : Type} {collation : Collation α} {list other : SlotList collation}

/-- Elements in order, each with the handle by which it is known. -/
abbrev Sequence (α : Type) := List (Handle × α)

namespace Sequence

variable {sequence next : Sequence α} {operation : Operation α} {answer : Answer α}

/-- What operations do to a sequence. Which handles they give out is left open, as long as no two
elements have the same one. -/
inductive Step (collation : Collation α) :
    Sequence α → Operation α → Answer α → Sequence α → Prop
  | insert {front back : Sequence α} {handle : Handle} {element : α}
      (behind : ∀ entry ∈ front, collation.compare element entry.2 ≠ .lt)
      (before : ∀ entry ∈ back.head?, collation.compare element entry.2 = .lt)
      (fresh : handle ∉ (front ++ back).map Prod.fst) :
      Step collation (front ++ back) (.insert element) (.handle handle)
        (front ++ (handle, element) :: back)
  | pushBack {sequence : Sequence α} {handle : Handle} {element : α}
      (fresh : handle ∉ sequence.map Prod.fst) :
      Step collation sequence (.pushBack element) (.handle handle) (sequence ++ [(handle, element)])
  | pushFront {sequence : Sequence α} {handle : Handle} {element : α}
      (fresh : handle ∉ sequence.map Prod.fst) :
      Step collation sequence (.pushFront element) (.handle handle) ((handle, element) :: sequence)
  | pushAll {sequence added : Sequence α} (fresh : ((sequence ++ added).map Prod.fst).Nodup) :
      Step collation sequence (.pushAll (added.map Prod.snd)) .done (sequence ++ added)
  | erase {front back : Sequence α} {handle : Handle} {element : α} :
      Step collation (front ++ (handle, element) :: back) (.erase handle) (.taken (some element))
        (front ++ back)
  | erase_absent {sequence : Sequence α} {handle : Handle}
      (absent : handle ∉ sequence.map Prod.fst) :
      Step collation sequence (.erase handle) (.taken none) sequence
  | discard {front back : Sequence α} {handle : Handle} {element : α} :
      Step collation (front ++ (handle, element) :: back) (.discard handle) (.gone [element])
        (front ++ back)
  | discard_absent {sequence : Sequence α} {handle : Handle}
      (absent : handle ∉ sequence.map Prod.fst) :
      Step collation sequence (.discard handle) (.gone []) sequence
  | clear {sequence : Sequence α} :
      Step collation sequence .clear (.gone (sequence.map Prod.snd)) []
  | modify {front back : Sequence α} {handle : Handle} {element : α} {change : α → α} :
      Step collation (front ++ (handle, element) :: back) (.modify handle change) (.found true)
        (front ++ (handle, change element) :: back)
  | modify_absent {sequence : Sequence α} {handle : Handle} {change : α → α}
      (absent : handle ∉ sequence.map Prod.fst) :
      Step collation sequence (.modify handle change) (.found false) sequence
  | modifyAt {front back : Sequence α} {handle : Handle} {element : α} {change : α → α} :
      Step collation (front ++ (handle, element) :: back) (.modifyAt front.length change)
        (.found true) (front ++ (handle, change element) :: back)
  | modifyAt_outside {sequence : Sequence α} {position : Nat} {change : α → α}
      (outside : sequence.length ≤ position) :
      Step collation sequence (.modifyAt position change) (.found false) sequence
  | copy {sequence copied : Sequence α} (same : copied.map Prod.snd = sequence.map Prod.snd)
      (fresh : (copied.map Prod.fst).Nodup) : Step collation sequence .copy .done copied

inductive Run (collation : Collation α) :
    Sequence α → List (Operation α) → List (Answer α) → Sequence α → Prop
  | nil {sequence : Sequence α} : Run collation sequence [] [] sequence
  | cons {sequence middle final : Sequence α} {operation : Operation α} {answer : Answer α}
      {operations : List (Operation α)} {answers : List (Answer α)}
      (step : Step collation sequence operation answer middle)
      (run : Run collation middle operations answers final) :
      Run collation sequence (operation :: operations) (answer :: answers) final

def Affects (sequence : Sequence α) (handle : Handle) : Operation α → Prop
  | .erase other | .discard other | .modify other _ => other = handle
  | .modifyAt position _ => sequence[position]?.map Prod.fst = some handle
  | .clear | .copy => True
  | _ => False

theorem Step.keeps {handle : Handle} {element : α}
    (step : Step collation sequence operation answer next)
    (held : (handle, element) ∈ sequence) (spared : ¬ sequence.Affects handle operation) :
    (handle, element) ∈ next := by
  have stays {front back : Sequence α} {other : Handle × α} (apart : other.1 ≠ handle)
      (held : (handle, element) ∈ front ++ other :: back) : (handle, element) ∈ front ++ back := by
    rw [List.mem_append, List.mem_cons] at held
    rw [List.mem_append]
    refine held.imp_right fun further => further.resolve_left fun same => apart ?_
    exact congrArg Prod.fst same.symm
  have stands {front back : Sequence α} (changed : Handle × α)
      (held : (handle, element) ∈ front ++ back) :
      (handle, element) ∈ front ++ changed :: back := by
    rw [List.mem_append] at held
    rw [List.mem_append, List.mem_cons]
    exact held.imp_right .inr
  cases step with
  | insert => exact stands _ held
  | pushBack => exact List.mem_append_left _ held
  | pushFront => exact List.mem_cons_of_mem _ held
  | pushAll => exact List.mem_append_left _ held
  | erase =>
    refine stays ?_ held
    exact spared
  | discard =>
    refine stays ?_ held
    exact spared
  | modify =>
    refine stands _ (stays ?_ held)
    exact spared
  | modifyAt =>
    refine stands _ (stays (fun same => spared ?_) held)
    simpa [Affects] using same
  | clear => exact absurd trivial spared
  | copy => exact absurd trivial spared
  | _ => exact held

end Sequence

end GroupChat.SlotList
