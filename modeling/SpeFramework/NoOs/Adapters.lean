import Mathlib.Data.List.Sort
import SpeFramework.NoOs.ListRefinement

/-!
`no_os_set_adapter`: stacks, queues and priority lists over the list.
-/

namespace SpeFramework.NoOs

open DoublyLinked

variable {α : Type}

inductive AdapterType
  | default
  | queue
  | stack
  | priorityList
  deriving DecidableEq, Repr

/-- The functions in `struct no_os_list_desc`. -/
structure Adapter (α : Type) where
  push : Option Nat → α → ListState α → Option (Answer α × ListState α)
  pop : ListState α → Option (Answer α × ListState α)
  topNext : ListState α → Option (Answer α)
  back : ListState α → Option (Answer α)
  swap : α → ListState α → Option (Answer α × ListState α)

inductive AdapterEvent (α : Type)
  | push (calloc : Option Nat) (data : α)
  | pop
  | topNext
  | back
  | swap (newData : α)

section Code

variable (comparator : α → α → Int)

def noOsSetAdapter : AdapterType → Adapter α
  | .priorityList =>
      { push := noOsListAddFind comparator
        pop := noOsListGetFirst
        topNext := noOsListReadFirst
        back := noOsListReadLast
        swap := noOsListEditFirst }
  | .queue =>
      { push := noOsListAddLast
        pop := noOsListGetFirst
        topNext := noOsListReadFirst
        back := noOsListReadLast
        swap := noOsListEditFirst }
  | .default | .stack =>
      { push := noOsListAddLast
        pop := noOsListGetLast
        topNext := noOsListReadLast
        back := noOsListReadFirst
        swap := noOsListEditLast }

def adapterCall (adapter : Adapter α) (event : AdapterEvent α) (s : ListState α) :
    Option (Answer α × ListState α) :=
  match event with
  | .push calloc data => adapter.push calloc data s
  | .pop => adapter.pop s
  | .topNext => (adapter.topNext s).map (·, s)
  | .back => (adapter.back s).map (·, s)
  | .swap newData => adapter.swap newData s

def adapterRun (adapter : Adapter α) : List (AdapterEvent α) → ListState α →
    Option (List (Answer α) × ListState α)
  | [], s => some ([], s)
  | event :: events, s => do
      let (answer, s) ← adapterCall adapter event s
      let (answers, s) ← adapterRun adapter events s
      return (answer :: answers, s)

end Code

/-! What the types are for. -/

section Containers

variable (comparator : α → α → Int)

def AdapterType.insert (type : AdapterType) (data : α) (contents : List α) : List α :=
  match type with
  | .priorityList => contents.orderedInsert (fun one other => 0 < comparator other one) data
  | _ => contents ++ [data]

def AdapterType.next (type : AdapterType) (contents : List α) : Option α :=
  match type with
  | .priorityList | .queue => contents.head?
  | .default | .stack => contents.getLast?

def AdapterType.farthest (type : AdapterType) (contents : List α) : Option α :=
  match type with
  | .priorityList | .queue => contents.getLast?
  | .default | .stack => contents.head?

def AdapterType.rest (type : AdapterType) (contents : List α) : List α :=
  match type with
  | .priorityList | .queue => contents.tail
  | .default | .stack => contents.dropLast

def AdapterType.replace (type : AdapterType) (newData : α) (contents : List α) : List α :=
  match type with
  | .priorityList | .queue => newData :: contents.tail
  | .default | .stack => contents.dropLast ++ [newData]

def Answer.read : Option α → Answer α
  | none => .failed
  | some data => ⟨0, some data⟩

def contain (type : AdapterType) (event : AdapterEvent α) (contents : List α) : Answer α × List α :=
  match event with
  | .push none _ => (.failed, contents)
  | .push (some _) data => (.done, type.insert comparator data contents)
  | .pop => (.read (type.next contents), type.rest contents)
  | .topNext => (.read (type.next contents), contents)
  | .back => (.read (type.farthest contents), contents)
  | .swap newData => (.done, type.replace newData contents)

def containRun (type : AdapterType) : List (AdapterEvent α) → List α → List (Answer α) × List α
  | [], contents => ([], contents)
  | event :: events, contents =>
      let (answer, contents) := contain comparator type event contents
      let (answers, contents) := containRun type events contents
      (answer :: answers, contents)

end Containers

/-- A call that may be made: memory that is new, and no swap on an empty list. -/
def AdapterEvent.Allowed (event : AdapterEvent α) (s : ListState α) : Prop :=
  match event with
  | .push calloc _ => Fresh calloc s
  | .swap _ => s.list.nbElements ≠ 0
  | _ => True

instance : (event : AdapterEvent α) → (s : ListState α) → Decidable (event.Allowed s)
  | .push calloc _, s => inferInstanceAs (Decidable (Fresh calloc s))
  | .swap _, s => inferInstanceAs (Decidable (s.list.nbElements ≠ 0))
  | .pop, _ | .topNext, _ | .back, _ => isTrue trivial

def AllowedCalls (adapter : Adapter α) : List (AdapterEvent α) → ListState α → Prop
  | [], _ => True
  | event :: events, s =>
      event.Allowed s ∧ ∀ result ∈ adapterCall adapter event s, AllowedCalls adapter events result.2

instance decidableAllowedCalls (adapter : Adapter α) :
    ∀ events s, Decidable (AllowedCalls adapter events s)
  | [], _ => isTrue trivial
  | event :: events, s =>
      haveI := fun result : Answer α × ListState α => decidableAllowedCalls adapter events result.2
      inferInstanceAs (Decidable (event.Allowed s ∧
        ∀ result ∈ adapterCall adapter event s, AllowedCalls adapter events result.2))

section Refinement

variable {comparator : α → α → Int} {s : ListState α} {items : Chain Nat α}

/-- The elements hold these data, in this order. -/
def Contains (s : ListState α) (contents : List α) : Prop :=
  ∃ items, Represents s items ∧ items.map Prod.snd = contents

def Contained (result : Option (Answer α × ListState α)) (contained : Answer α × List α) : Prop :=
  ∃ after, result = some (contained.1, after) ∧ Contains after contained.2

theorem Yields.contained {result : Option (Answer α × ListState α)} {answered : Answer α × Chain Nat α}
    (yields : Yields result s answered) : Contained result (answered.1, answered.2.map Prod.snd) := by
  obtain ⟨after, returned, rep, -⟩ := yields
  exact ⟨after, returned, _, rep, rfl⟩

theorem added_contained {calloc : Option Nat} {data : α} {front back : Chain Nat α} :
    ((added calloc data front back).1, (added calloc data front back).2.map Prod.snd) =
      if calloc = none then (.failed, (front ++ back).map Prod.snd)
      else (.done, front.map Prod.snd ++ data :: back.map Prod.snd) := by
  cases calloc <;> simp [added]

theorem orderedInsert_splits (data : α) (contents : List α) :
    contents.orderedInsert (fun one other => 0 < comparator other one) data =
      contents.take (contents.findIdx fun other => decide (0 < comparator other data)) ++
        data :: contents.drop (contents.findIdx fun other => decide (0 < comparator other data)) := by
  rw [List.orderedInsert_eq_take_drop, List.takeWhile_eq_take_findIdx_not,
    List.dropWhile_eq_drop_findIdx_not]
  simp only [decide_not, Bool.not_not]

theorem push_contained (rep : Represents s items) {calloc : Option Nat} (fresh : Fresh calloc s) (data : α)
    (type : AdapterType) :
    Contained ((noOsSetAdapter comparator type).push calloc data s)
      (contain comparator type (.push calloc data) (items.map Prod.snd)) := by
  have atEnd : Contained (noOsListAddLast calloc data s)
      (contain comparator .stack (.push calloc data) (items.map Prod.snd)) := by
    have yields : Yields (noOsListAddLast calloc data s) s (added calloc data items []) :=
      addLast_yields rep fresh
    have added := yields.contained
    rw [added_contained] at added
    cases calloc with
    | none => simpa [contain] using added
    | some address => simpa [contain, AdapterType.insert] using added
  cases type with
  | priorityList =>
      have added := (addFind_yields comparator rep fresh data).contained
      rw [plainAdd, if_pos List.findIdx_le_length, added_contained, List.take_append_drop] at added
      cases calloc with
      | none => exact added
      | some address =>
          simp only [contain, AdapterType.insert, orderedInsert_splits, List.findIdx_map]
          simp only [reduceCtorEq, if_false, List.map_take, List.map_drop] at added
          exact added
  | _ => cases calloc <;> exact atEnd

theorem plainGet_contained (index : Nat) :
    ((plainGet index items).1, (plainGet index items).2.map Prod.snd) =
      (.read (items.map Prod.snd)[index]?, (items.map Prod.snd).eraseIdx index) := by
  rw [plainGet, plainRead, List.getElem?_map, ← List.eraseIdx_map]
  cases items[index]? <;> rfl

theorem get_contained (rep : Represents s items) (type : AdapterType) :
    Contained ((noOsSetAdapter comparator type).pop s)
      (contain comparator type .pop (items.map Prod.snd)) := by
  have first : Yields (getAt comparator .first s) s _ := getAt_yields comparator rep trivial
  have last : Yields (getAt comparator .last s) s _ := getAt_yields comparator rep trivial
  have atFirst := first.contained
  have atLast := last.contained
  have length : items.length - 1 = (items.map Prod.snd).length - 1 := by rw [List.length_map]
  rw [plainGet_contained, Place.index, ← List.head?_eq_getElem?, List.eraseIdx_zero] at atFirst
  rw [plainGet_contained, Place.index, length, ← List.getLast?_eq_getElem?, List.eraseIdx_length_sub_one] at atLast
  cases type with
  | priorityList => exact atFirst
  | queue => exact atFirst
  | stack => exact atLast
  | default => exact atLast

theorem plainRead_read (index : Nat) : plainRead index items = .read (items.map Prod.snd)[index]? := by
  rw [plainRead, List.getElem?_map]
  cases items[index]? <;> rfl

theorem read_contained (rep : Represents s items) :
    Contained ((noOsListReadFirst s).map (·, s)) (.read (items.map Prod.snd).head?, items.map Prod.snd) ∧
      Contained ((noOsListReadLast s).map (·, s)) (.read (items.map Prod.snd).getLast?, items.map Prod.snd) := by
  have atFirst := (readAt_yields (fun _ _ => 0) rep .first).contained
  have atLast := (readAt_yields (fun _ _ => 0) rep .last).contained
  have length : items.length - 1 = (items.map Prod.snd).length - 1 := by rw [List.length_map]
  rw [plainRead_read, Place.index, ← List.head?_eq_getElem?] at atFirst
  rw [plainRead_read, Place.index, length, ← List.getLast?_eq_getElem?] at atLast
  exact ⟨atFirst, atLast⟩

theorem edit_contained (rep : Represents s items) (present : s.list.nbElements ≠ 0) (newData : α)
    (type : AdapterType) :
    Contained ((noOsSetAdapter comparator type).swap newData s)
      (contain comparator type (.swap newData) (items.map Prod.snd)) := by
  have defined : (Place.first : Place α).Defined ∧ (Place.last : Place α).Defined := ⟨trivial, trivial⟩
  have first := editAt_yields comparator rep defined.1 (fun _ => present) newData
  have last := editAt_yields comparator rep defined.2 (fun _ => present) newData
  have nonempty : items ≠ [] := mt rep.count_eq_zero.mpr present
  have atFirst : Contained (noOsListEditFirst newData s) (.done, newData :: (items.map Prod.snd).tail) := by
    obtain ⟨item, items, rfl⟩ := List.exists_cons_of_ne_nil nonempty
    exact first.contained
  have atLast : Contained (noOsListEditLast newData s)
      (.done, (items.map Prod.snd).dropLast ++ [newData]) := by
    obtain ⟨front, item, rfl⟩ := (List.eq_nil_or_concat items).resolve_left nonempty
    simpa [editAt, plainEdit, Place.index] using last.contained
  cases type with
  | priorityList => exact atFirst
  | queue => exact atFirst
  | stack => exact atLast
  | default => exact atLast

variable (comparator) in
theorem call_contained (type : AdapterType) {contents : List α} (contains : Contains s contents)
    {event : AdapterEvent α} (allowed : event.Allowed s) :
    Contained (adapterCall (noOsSetAdapter comparator type) event s)
      (contain comparator type event contents) := by
  obtain ⟨items, rep, rfl⟩ := contains
  obtain ⟨atFirst, atLast⟩ := read_contained rep
  cases event with
  | push calloc data => exact push_contained rep allowed data type
  | pop => exact get_contained rep type
  | topNext => cases type <;> assumption
  | back => cases type <;> assumption
  | swap newData => exact edit_contained rep allowed newData type

theorem run_contained (type : AdapterType) {contents : List α} (contains : Contains s contents)
    {events : List (AdapterEvent α)}
    (allowed : AllowedCalls (noOsSetAdapter comparator type) events s) :
    ∃ after, adapterRun (noOsSetAdapter comparator type) events s =
        some ((containRun comparator type events contents).1, after) ∧
      Contains after (containRun comparator type events contents).2 := by
  induction events generalizing s contents with
  | nil => exact ⟨s, rfl, contains⟩
  | cons event events ih =>
      obtain ⟨here, later⟩ := allowed
      obtain ⟨next, called, nextContains⟩ := call_contained comparator type contains here
      obtain ⟨after, ran, afterContains⟩ := ih nextContains (later _ called)
      exact ⟨after, by simp [adapterRun, called, ran, containRun], afterContains⟩

theorem empty_contains : Contains (ListState.empty : ListState α) [] := ⟨[], empty_agrees.rep, rfl⟩

/-- A stack, a queue or a priority list is what its name says: it answers every run of calls as
the container does, and holds what it holds. -/
theorem adapterRun_refines (type : AdapterType) {events : List (AdapterEvent α)}
    (allowed : AllowedCalls (noOsSetAdapter comparator type) events ListState.empty) :
    ∃ s, adapterRun (noOsSetAdapter comparator type) events ListState.empty =
        some ((containRun comparator type events []).1, s) ∧
      Contains s (containRun comparator type events []).2 :=
  run_contained type empty_contains allowed

def pushesAndPops : List (AdapterEvent Int) :=
  [.push (some 8) 5, .push (some 16) 3, .push none 4, .push (some 24) 7, .pop, .back, .topNext]

theorem adapterRun_refines_priority :
    ∃ s, adapterRun (noOsSetAdapter (fun one other => one - other) .priorityList) pushesAndPops
        ListState.empty =
        some ((containRun (fun one other => one - other) .priorityList pushesAndPops []).1, s) ∧
      Contains s (containRun (fun one other => one - other) .priorityList pushesAndPops []).2 :=
  adapterRun_refines .priorityList (by decide)

end Refinement

/-! Nothing is lost, and what comes out comes in order. -/

def AdapterEvent.taken (event : AdapterEvent α) (answer : Answer α) : Option α :=
  match event with
  | .push _ data => if answer.ret = 0 then some data else none
  | _ => none

def AdapterEvent.given (event : AdapterEvent α) (answer : Answer α) : Option α :=
  match event with
  | .pop => answer.data
  | _ => none

/-- The data of the pushes that returned 0. -/
def accepted (events : List (AdapterEvent α)) (answers : List (Answer α)) : List α :=
  (events.zip answers).filterMap fun (event, answer) => event.taken answer

def popped (events : List (AdapterEvent α)) (answers : List (Answer α)) : List α :=
  (events.zip answers).filterMap fun (event, answer) => event.given answer

def AdapterEvent.isSwap : AdapterEvent α → Bool
  | .swap _ => true
  | _ => false

/-- What a comparator has to be for an order. -/
structure Orders (comparator : α → α → Int) : Prop where
  flip : ∀ one other, 0 < comparator one other → comparator other one ≤ 0
  trans : ∀ one other third, comparator one other ≤ 0 → comparator other third ≤ 0 →
    comparator one third ≤ 0

def Sorted (comparator : α → α → Int) (contents : List α) : Prop :=
  contents.Pairwise fun one other => comparator one other ≤ 0

section Containers

variable {comparator : α → α → Int} {event : AdapterEvent α} {events : List (AdapterEvent α)}
variable {answer : Answer α} {answers : List (Answer α)} {contents : List α}

theorem filterMap_cons_toList {β γ : Type} (f : β → Option γ) (entry : β) (entries : List β) :
    (entry :: entries).filterMap f = (f entry).toList ++ entries.filterMap f := by
  rw [List.filterMap_cons]
  cases f entry <;> rfl

theorem accepted_cons :
    accepted (event :: events) (answer :: answers) = (event.taken answer).toList ++ accepted events answers :=
  filterMap_cons_toList _ _ _

theorem popped_cons :
    popped (event :: events) (answer :: answers) = (event.given answer).toList ++ popped events answers :=
  filterMap_cons_toList _ _ _

@[simp] theorem read_data (data : Option α) : (Answer.read data).data = data := by
  cases data <;> rfl

theorem queue_step (noSwap : event.isSwap = false) :
    contents ++ (event.taken (contain comparator .queue event contents).1).toList =
      (event.given (contain comparator .queue event contents).1).toList ++
        (contain comparator .queue event contents).2 := by
  cases event with
  | push calloc data => cases calloc <;> simp [AdapterEvent.taken, AdapterEvent.given, contain,
      Answer.failed, Answer.done, AdapterType.insert]
  | pop => cases contents <;> simp [AdapterEvent.taken, AdapterEvent.given, contain, AdapterType.next,
      AdapterType.rest]
  | topNext => simp [AdapterEvent.taken, AdapterEvent.given, contain]
  | back => simp [AdapterEvent.taken, AdapterEvent.given, contain]
  | swap => cases noSwap

theorem queue_run (noSwap : ∀ event ∈ events, event.isSwap = false) (contents : List α) :
    contents ++ accepted events (containRun comparator .queue events contents).1 =
      popped events (containRun comparator .queue events contents).1 ++
        (containRun comparator .queue events contents).2 := by
  induction events generalizing contents with
  | nil => simp [accepted, popped, containRun]
  | cons event events ih =>
      obtain ⟨here, later⟩ := List.forall_mem_cons.mp noSwap
      simp only [containRun, accepted_cons, popped_cons]
      rw [← List.append_assoc, queue_step here, List.append_assoc, ih later, List.append_assoc]

theorem insert_perm (type : AdapterType) (data : α) (contents : List α) :
    (type.insert comparator data contents).Perm (data :: contents) := by
  cases type with
  | priorityList => exact List.perm_orderedInsert _ data contents
  | _ => exact List.perm_append_singleton data contents

theorem rest_perm (type : AdapterType) (contents : List α) :
    ((type.next contents).toList ++ type.rest contents).Perm contents := by
  have atFirst : contents.head?.toList ++ contents.tail = contents := by cases contents <;> rfl
  have atLast : (contents.getLast?.toList ++ contents.dropLast).Perm contents := by
    obtain rfl | ⟨front, data, rfl⟩ := List.eq_nil_or_concat contents
    · exact List.Perm.refl _
    · simpa using (List.perm_append_singleton data front).symm
  cases type with
  | priorityList => exact .of_eq atFirst
  | queue => exact .of_eq atFirst
  | stack => exact atLast
  | default => exact atLast

variable (comparator) in
theorem contain_perm (type : AdapterType) (noSwap : event.isSwap = false) (contents : List α) :
    (contents ++ (event.taken (contain comparator type event contents).1).toList).Perm
      ((event.given (contain comparator type event contents).1).toList ++
        (contain comparator type event contents).2) := by
  cases event with
  | push calloc data =>
      cases calloc with
      | none => simp [AdapterEvent.taken, AdapterEvent.given, contain, Answer.failed]
      | some address =>
          exact (List.perm_append_singleton data contents).trans (insert_perm type data contents).symm
  | pop => simpa [AdapterEvent.taken, AdapterEvent.given, contain] using (rest_perm type contents).symm
  | topNext => simp [AdapterEvent.taken, AdapterEvent.given, contain]
  | back => simp [AdapterEvent.taken, AdapterEvent.given, contain]
  | swap => cases noSwap

theorem containRun_perm (type : AdapterType) (noSwap : ∀ event ∈ events, event.isSwap = false)
    (contents : List α) :
    (contents ++ accepted events (containRun comparator type events contents).1).Perm
      (popped events (containRun comparator type events contents).1 ++
        (containRun comparator type events contents).2) := by
  induction events generalizing contents with
  | nil => simp [accepted, popped, containRun]
  | cons event events ih =>
      obtain ⟨here, later⟩ := List.forall_mem_cons.mp noSwap
      simp only [containRun, accepted_cons, popped_cons]
      have stepped := (contain_perm comparator type here contents).append_right
        (accepted events (containRun comparator type events (contain comparator type event contents).2).1)
      have rest := (ih later (contain comparator type event contents).2).append_left
        (event.given (contain comparator type event contents).1).toList
      simp only [List.append_assoc] at stepped rest ⊢
      exact stepped.trans rest

theorem insert_sorted (order : Orders comparator) (data : α) (sorted : Sorted comparator contents) :
    Sorted comparator (AdapterType.priorityList.insert comparator data contents) := by
  simp only [AdapterType.insert]
  induction contents with
  | nil => simp [Sorted]
  | cons other contents ih =>
      obtain ⟨least, tailSorted⟩ := List.pairwise_cons.mp sorted
      rw [List.orderedInsert_cons]
      by_cases before : 0 < comparator other data
      · have below := order.flip other data before
        rw [if_pos before]
        refine List.pairwise_cons.mpr ⟨fun third member => ?_, sorted⟩
        rcases List.mem_cons.mp member with rfl | later
        · exact below
        · exact order.trans _ _ _ below (least third later)
      · rw [if_neg before]
        refine List.pairwise_cons.mpr ⟨fun third member => ?_, ih tailSorted⟩
        rcases (List.mem_orderedInsert _).mp member with rfl | later
        · exact Int.not_lt.mp before
        · exact least third later

theorem contain_sorted (order : Orders comparator) (noSwap : event.isSwap = false)
    (sorted : Sorted comparator contents) :
    Sorted comparator (contain comparator .priorityList event contents).2 := by
  cases event with
  | push calloc data =>
      cases calloc with
      | none => exact sorted
      | some address => exact insert_sorted order data sorted
  | pop => exact sorted.tail
  | topNext => exact sorted
  | back => exact sorted
  | swap => cases noSwap

theorem containRun_sorted (order : Orders comparator) (noSwap : ∀ event ∈ events, event.isSwap = false)
    (sorted : Sorted comparator contents) :
    Sorted comparator (containRun comparator .priorityList events contents).2 := by
  induction events generalizing contents with
  | nil => exact sorted
  | cons event events ih =>
      obtain ⟨here, later⟩ := List.forall_mem_cons.mp noSwap
      exact ih later (contain_sorted order here sorted)

theorem head_least (order : Orders comparator) (sorted : Sorted comparator contents) {data other : α}
    (least : data ∈ contents.head?) (member : other ∈ contents) : comparator data other ≤ 0 := by
  obtain ⟨rest, rfl⟩ := List.head?_eq_some_iff.mp least
  rcases List.mem_cons.mp member with rfl | later
  · exact Int.not_lt.mp fun positive => Int.not_lt.mpr (order.flip _ _ positive) positive
  · exact (List.pairwise_cons.mp sorted).1 other later

/-- A queue gives out what it accepted, in that order; what it holds comes next. -/
theorem adapterRun_queue (noSwap : ∀ event ∈ events, event.isSwap = false)
    (allowed : AllowedCalls (noOsSetAdapter comparator .queue) events ListState.empty) :
    ∃ answers s contents,
      adapterRun (noOsSetAdapter comparator .queue) events ListState.empty = some (answers, s) ∧
      Contains s contents ∧ accepted events answers = popped events answers ++ contents := by
  obtain ⟨s, ran, contains⟩ := run_contained .queue empty_contains allowed
  exact ⟨_, s, _, ran, contains, queue_run noSwap []⟩

theorem adapterRun_queue_int :
    ∃ answers s contents,
      adapterRun (noOsSetAdapter (fun one other => one - other) .queue) pushesAndPops
        ListState.empty = some (answers, s) ∧
      Contains s contents ∧ accepted pushesAndPops answers = popped pushesAndPops answers ++ contents :=
  adapterRun_queue (by decide) (by decide)

/-- A priority list holds what it accepted and has not given out, in order, and gives out the least. -/
theorem adapterRun_least (order : Orders comparator) (noSwap : ∀ event ∈ events, event.isSwap = false)
    (allowed : AllowedCalls (noOsSetAdapter comparator .priorityList) events ListState.empty) :
    ∃ answers s contents,
      adapterRun (noOsSetAdapter comparator .priorityList) events ListState.empty = some (answers, s) ∧
      Contains s contents ∧ Sorted comparator contents ∧
      (accepted events answers).Perm (popped events answers ++ contents) ∧
      ∀ answer after, (noOsSetAdapter comparator .priorityList).pop s = some (answer, after) →
        ∀ data ∈ answer.data, ∀ other ∈ contents, comparator data other ≤ 0 := by
  obtain ⟨s, ran, contains⟩ := run_contained .priorityList empty_contains allowed
  have sorted : Sorted comparator (containRun comparator .priorityList events []).2 :=
    containRun_sorted order noSwap List.Pairwise.nil
  refine ⟨_, s, _, ran, contains, sorted, containRun_perm .priorityList noSwap [], ?_⟩
  intro answer after pops data given other member
  have allowedPop : (AdapterEvent.pop : AdapterEvent α).Allowed s := trivial
  obtain ⟨next, popsHead, -⟩ := call_contained comparator .priorityList contains allowedPop
  obtain ⟨rfl, -⟩ := Prod.mk.inj (Option.some.inj (pops.symm.trans popsHead))
  have head : data ∈ (containRun comparator .priorityList events []).2.head? := by
    simpa only [contain, read_data, AdapterType.next] using given
  exact head_least order sorted head member

theorem adapterRun_least_int :
    ∃ answers s contents,
      adapterRun (noOsSetAdapter (fun one other => one - other) .priorityList) pushesAndPops
        ListState.empty = some (answers, s) ∧
      Contains s contents ∧ Sorted (fun one other => one - other) contents ∧
      (accepted pushesAndPops answers).Perm (popped pushesAndPops answers ++ contents) ∧
      ∀ answer after,
        (noOsSetAdapter (fun one other => one - other) .priorityList).pop s = some (answer, after) →
        ∀ data ∈ answer.data, ∀ other ∈ contents, data - other ≤ 0 :=
  adapterRun_least ⟨fun _ _ => by omega, fun _ _ _ => by omega⟩ (by decide) (by decide)

end Containers

end SpeFramework.NoOs
