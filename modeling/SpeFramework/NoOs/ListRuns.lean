import SpeFramework.Lib.Runs
import SpeFramework.NoOs.ListCases

/-!
Runs of calls on one list and its iterators, beside the same calls on a plain list of items.
-/

namespace SpeFramework.NoOs

open DoublyLinked Runs

variable {α : Type}

inductive Place (β : Type)
  | first
  | last
  | idx (idx : UInt32)
  | find (cmpData : β)

inductive ListEvent (α : Type)
  | add (place : Place Unit) (calloc : Option Nat) (data : α)
  | edit (place : Place α) (newData : α)
  | read (place : Place α)
  | get (place : Place α)
  | iteratorInit (calloc : Option Nat) (start : Bool)
  | iteratorRemove (iter : Nat)
  | iteratorMove (iter : Nat) (steps : Int32)
  | iteratorMoveToIdx (iter : Nat) (idx : Int32)
  | iteratorFind (iter : Nat) (cmpData : α)
  | iteratorEdit (iter : Nat) (newData : α)
  | iteratorGet (iter : Nat)
  | iteratorRead (iter : Nat)
  | iteratorInsert (iter : Nat) (calloc : Option Nat) (data : α) (after : Bool)

/-- The iterators that `no_os_iterator_init` made, with the elements they stand at. -/
abbrev Iterators := List (Nat × Option Nat)

def Iterators.at (iter : Nat) (iters : Iterators) : Option (Option Nat) :=
  (iters.find? (·.1 = iter)).map Prod.snd

def Iterators.set (iter : Nat) (elem : Option Nat) (iters : Iterators) : Iterators :=
  iters.map fun entry => if entry.1 = iter then (iter, elem) else entry

def Iterators.delete (iter : Nat) (iters : Iterators) : Iterators := iters.eraseP (·.1 = iter)

structure Session (α : Type) where
  state : ListState α
  iters : Iterators
  answers : List (Answer α)

def Session.empty : Session α := ⟨.empty, [], []⟩

def Session.answer (result : Answer α × ListState α) (iters : Iterators) (session : Session α) : Session α :=
  ⟨result.2, iters, session.answers ++ [result.1]⟩

/-- What a move of an iterator returns. -/
def Answer.ofRet (ret : Int) : Answer α := ⟨ret, none⟩

section Code

variable (comparator : α → α → Int)

def addAt (place : Place Unit) (calloc : Option Nat) (data : α) (s : ListState α) :
    Option (Answer α × ListState α) :=
  match place with
  | .first => noOsListAddFirst calloc data s
  | .last => noOsListAddLast calloc data s
  | .idx idx => noOsListAddIdx calloc data idx s
  | .find () => noOsListAddFind comparator calloc data s

def editAt (place : Place α) (newData : α) (s : ListState α) : Option (Answer α × ListState α) :=
  match place with
  | .first => noOsListEditFirst newData s
  | .last => noOsListEditLast newData s
  | .idx idx => noOsListEditIdx newData idx s
  | .find cmpData => noOsListEditFind comparator newData cmpData s

def readAt (place : Place α) (s : ListState α) : Option (Answer α × ListState α) :=
  match place with
  | .first => (noOsListReadFirst s).map (·, s)
  | .last => (noOsListReadLast s).map (·, s)
  | .idx idx => noOsListReadIdx idx s
  | .find cmpData => noOsListReadFind comparator cmpData s

def getAt (place : Place α) (s : ListState α) : Option (Answer α × ListState α) :=
  match place with
  | .first => noOsListGetFirst s
  | .last => noOsListGetLast s
  | .idx idx => noOsListGetIdx idx s
  | .find cmpData => noOsListGetFind comparator cmpData s

/-- A call on an iterator that is live, from the element it stands at. -/
def iteratorCall (event : ListEvent α) (elem : Option Nat) (s : ListState α) :
    Option (Answer α × Option Nat × ListState α) :=
  match event with
  | .iteratorMove _ steps =>
      (noOsIteratorMove elem steps s.elems).map fun (ret, elem) => (.ofRet ret, elem, s)
  | .iteratorMoveToIdx _ idx =>
      (noOsIteratorMoveToIdx elem idx s).map fun (ret, elem) => (.ofRet ret, elem, s)
  | .iteratorFind _ cmpData =>
      (noOsIteratorFind comparator elem cmpData s).map fun (ret, elem) => (.ofRet ret, elem, s)
  | .iteratorEdit _ newData => (noOsIteratorEdit elem newData s).map fun (answer, s) => (answer, elem, s)
  | .iteratorGet _ => noOsIteratorGet elem s
  | .iteratorRead _ => (noOsIteratorRead elem s).map fun answer => (answer, elem, s)
  | .iteratorInsert _ calloc data after =>
      (noOsIteratorInsert elem calloc data after s).map fun (answer, s) => (answer, elem, s)
  | _ => none

def ListEvent.iterator : ListEvent α → Option Nat
  | .iteratorMove iter _ => some iter
  | .iteratorMoveToIdx iter _ => some iter
  | .iteratorFind iter _ => some iter
  | .iteratorEdit iter _ => some iter
  | .iteratorGet iter => some iter
  | .iteratorRead iter => some iter
  | .iteratorInsert iter _ _ _ => some iter
  | _ => none

def call (event : ListEvent α) (session : Session α) : Option (Session α) :=
  match event with
  | .add place calloc data =>
      (addAt comparator place calloc data session.state).map (session.answer · session.iters)
  | .edit place newData =>
      (editAt comparator place newData session.state).map (session.answer · session.iters)
  | .read place => (readAt comparator place session.state).map (session.answer · session.iters)
  | .get place => (getAt comparator place session.state).map (session.answer · session.iters)
  | .iteratorInit none _ => some (session.answer (.failed, session.state) session.iters)
  | .iteratorInit (some iter) start =>
      let (elem, state) := noOsIteratorInit start session.state
      some (session.answer (.done, state) ((iter, elem) :: session.iters))
  | .iteratorRemove iter =>
      some (session.answer (.done, noOsIteratorRemove session.state) (session.iters.delete iter))
  | event => do
      let iter ← event.iterator
      let elem ← session.iters.at iter
      let (answer, elem, state) ← iteratorCall comparator event elem session.state
      return session.answer (answer, state) (session.iters.set iter elem)

def listStep (session : Option (Session α)) (event : ListEvent α) : Option (Session α) :=
  session.bind (call comparator event)

end Code

/-! The same calls on a plain list. -/

structure Items (α : Type) where
  items : Chain Nat α
  iters : Iterators
  answers : List (Answer α)

def Items.empty : Items α := ⟨[], [], []⟩

def Items.answer (result : Answer α × Chain Nat α) (iters : Iterators) (plain : Items α) : Items α :=
  ⟨result.2, iters, plain.answers ++ [result.1]⟩

section Plain

variable (comparator : α → α → Int)

def Place.index (items : Chain Nat α) : Place α → Nat
  | .first => 0
  | .last => items.length - 1
  | .idx number => number.toNat
  | .find cmpData => items.findIdx fun item => comparator item.2 cmpData == 0

/-- Where a new item goes: an ordered add puts it behind all that are not greater. -/
def Place.gap (data : α) (items : Chain Nat α) : Place Unit → Nat
  | .first => 0
  | .last => items.length
  | .idx number => if items = [] then 0 else number.toNat
  | .find () => items.findIdx fun item => decide (0 < comparator item.2 data)

def plainAdd (gap : Nat) (calloc : Option Nat) (data : α) (items : Chain Nat α) :
    Answer α × Chain Nat α :=
  if gap ≤ items.length then added calloc data (items.take gap) (items.drop gap) else (.failed, items)

def plainEdit (index : Nat) (newData : α) (items : Chain Nat α) : Answer α × Chain Nat α :=
  match items[index]? with
  | none => (.failed, items)
  | some item => (.done, items.set index (item.1, newData))

def plainRead (index : Nat) (items : Chain Nat α) : Answer α :=
  match items[index]? with
  | none => .failed
  | some item => ⟨0, some item.2⟩

def plainGet (index : Nat) (items : Chain Nat α) : Answer α × Chain Nat α :=
  (plainRead index items, items.eraseIdx index)

/-- The index of the item an iterator stands at. -/
def indexOf (elem : Option Nat) (items : Chain Nat α) : Nat :=
  match elem with
  | none => items.length
  | some address => (addresses items).idxOf address

def plainIteratorCall (event : ListEvent α) (elem : Option Nat) (items : Chain Nat α) :
    Answer α × Option Nat × Chain Nat α :=
  let index := indexOf elem items
  let move := fun (target : Option Nat) =>
    let (ret, elem) := landed elem target
    (Answer.ofRet ret, elem, items)
  match event with
  | .iteratorMove _ steps => move (if elem = none then none else addressAt items (index + steps.toInt))
  | .iteratorMoveToIdx _ idx =>
      move (addressAt items (if idx.toInt < 0 then items.length - 1 + idx.toInt else idx.toInt))
  | .iteratorFind _ cmpData =>
      move (addresses items)[(Place.find cmpData).index comparator items]?
  | .iteratorEdit _ newData => ((plainEdit index newData items).1, elem, (plainEdit index newData items).2)
  | .iteratorGet _ => ((plainGet index items).1, (addresses items)[index + 1]?, (plainGet index items).2)
  | .iteratorRead _ => (plainRead index items, elem, items)
  | .iteratorInsert _ calloc data after =>
      let inserted := plainAdd (if after ∧ elem ≠ none then index + 1 else index) calloc data items
      (inserted.1, elem, inserted.2)
  | _ => (.failed, elem, items)

def plainCall (event : ListEvent α) (plain : Items α) : Items α :=
  match event with
  | .add place calloc data =>
      plain.answer (plainAdd (place.gap comparator data plain.items) calloc data plain.items) plain.iters
  | .edit place newData =>
      plain.answer (plainEdit (place.index comparator plain.items) newData plain.items) plain.iters
  | .read place =>
      plain.answer (plainRead (place.index comparator plain.items) plain.items, plain.items) plain.iters
  | .get place => plain.answer (plainGet (place.index comparator plain.items) plain.items) plain.iters
  | .iteratorInit none _ => plain.answer (.failed, plain.items) plain.iters
  | .iteratorInit (some iter) start =>
      plain.answer (.done, plain.items)
        ((iter, if start then firstOr none plain.items else lastOr none plain.items) :: plain.iters)
  | .iteratorRemove iter => plain.answer (.done, plain.items) (plain.iters.delete iter)
  | event =>
      match event.iterator with
      | none => plain
      | some iter =>
          match plain.iters.at iter with
          | none => plain
          | some elem =>
              let (answer, elem, items) := plainIteratorCall comparator event elem plain.items
              plain.answer (answer, items) (plain.iters.set iter elem)

end Plain

/-! Each call beside its plain one. -/

section Calls

variable (comparator : α → α → Int) {s : ListState α} {items : Chain Nat α} {index : Nat} {item : Nat × α}

/-- `abs` is not defined at this index, taken for an `int32_t`. -/
def Place.Defined {β : Type} : Place β → Prop
  | .idx number => number ≠ 2147483648
  | _ => True

theorem split_at (here : items[index]? = some item) :
    items.take index ++ item :: items.drop (index + 1) = items ∧
      items.drop index = item :: items.drop (index + 1) := by
  obtain ⟨inside, rfl⟩ := List.getElem?_eq_some_iff.mp here
  have split := List.drop_eq_getElem_cons inside
  exact ⟨by rw [← split, List.take_append_drop], split⟩

theorem inside_at (here : items[index]? = some item) : index < items.length :=
  (List.getElem?_eq_some_iff.mp here).1

theorem address_at : (addresses items)[index]? = (items[index]?).map Prod.fst := by
  simp [addresses]

section At

variable (rep : Represents s items) (here : items[index]? = some item)
include rep here

theorem insertBefore_at {calloc : Option Nat} {data : α} (fresh : Fresh calloc s) :
    Yields (noOsIteratorInsert (some item.1) calloc data false s) s (plainAdd index calloc data items) := by
  obtain ⟨split, drop⟩ := split_at here
  have inserted : Yields (noOsIteratorInsert (some item.1) calloc data false s) s
      (added calloc data (items.take index) (item :: items.drop (index + 1))) :=
    insertBefore_yields (split.symm ▸ rep) fresh
  rw [plainAdd, if_pos (Nat.le_of_lt (inside_at here)), drop]
  exact inserted

theorem insertAfter_at {calloc : Option Nat} {data : α} (fresh : Fresh calloc s) :
    Yields (noOsIteratorInsert (some item.1) calloc data true s) s
      (plainAdd (index + 1) calloc data items) := by
  have split := (split_at here).1
  have inserted : Yields (noOsIteratorInsert (some item.1) calloc data true s) s
      (added calloc data (items.take index ++ [item]) (items.drop (index + 1))) :=
    insertAfter_yields (split.symm ▸ rep) fresh
  obtain ⟨inside, rfl⟩ := List.getElem?_eq_some_iff.mp here
  rw [plainAdd, if_pos (Nat.succ_le_of_lt inside), List.take_succ_eq_append_getElem inside]
  exact inserted

theorem edit_at (newData : α) :
    Yields (noOsIteratorEdit (some item.1) newData s) s (plainEdit index newData items) := by
  have split := (split_at here).1
  have edited := iteratorEdit_yields (split.symm ▸ rep) newData
  rw [plainEdit, here]
  simp only [List.set_eq_take_append_cons_drop, inside_at here, if_true]
  exact edited

theorem read_at : noOsIteratorRead (some item.1) s = some (plainRead index items) := by
  have split := (split_at here).1
  have read := iteratorRead_reads (split.symm ▸ rep)
  rw [plainRead, here]
  exact read

theorem get_at :
    ∃ after, noOsIteratorGet (some item.1) s =
        some ((plainGet index items).1, (addresses items)[index + 1]?, after) ∧
      Represents after (plainGet index items).2 ∧ after.list.nbIterators = s.list.nbIterators := by
  have split := (split_at here).1
  have got := iteratorGet_removes (split.symm ▸ rep)
  rw [firstOr_drop] at got
  rw [plainGet, plainRead, here, List.eraseIdx_eq_take_drop_succ]
  exact got

theorem getAtIterator_yields :
    Yields (getAtIterator (s.setItElem (some item.1))) s (plainGet index items) := by
  obtain ⟨after, got, represents, iterators⟩ := get_at (rep.setItElem (some item.1)) here
  have returned : getAtIterator (s.setItElem (some item.1)) =
      some ((plainGet index items).1, after.setItElem (addresses items)[index + 1]?) := by
    change (noOsIteratorGet (some item.1) (s.setItElem (some item.1))).bind _ = _
    rw [got]
    rfl
  exact ⟨_, returned, represents.setItElem _, iterators⟩

end At

/-- A call that moves the list's own iterator to an index and acts there. -/
theorem moved_yields (act : ListState α → Option (Answer α × ListState α)) (rep : Represents s items)
    {move : Option (Int × Option Nat)} {elem : Option Nat}
    (moved : move = some (landed elem (addresses items)[index]?)) {answered : Answer α × Chain Nat α}
    (beyond : items[index]? = none → answered = (.failed, items))
    (there : ∀ item, items[index]? = some item →
      Yields (act (s.setItElem (some item.1))) s answered) :
    Yields (move.bind fun moved => if moved.1 ≠ 0 then some (.failed, s.setItElem moved.2)
      else act (s.setItElem moved.2)) s answered := by
  rw [moved, address_at, Option.bind_some]
  cases here : items[index]? with
  | none =>
      rw [beyond here]
      exact ⟨_, rfl, rep.setItElem elem, rfl⟩
  | some item => exact there item here

theorem addIdx_yields (rep : Represents s items) {number : UInt32} (defined : number ≠ 2147483648)
    {calloc : Option Nat} (fresh : Fresh calloc s) (data : α) :
    Yields (noOsListAddIdx calloc data number s) s
      (plainAdd (if items = [] then 0 else number.toNat) calloc data items) := by
  simp only [noOsListAddIdx, rep.count_eq_zero]
  by_cases start : items = [] ∨ number = 0
  · have gap : (if items = [] then 0 else number.toNat) = 0 := by
      rcases start with rfl | rfl <;> simp
    rw [if_pos start, gap]
    simp only [plainAdd, Nat.zero_le, if_true, List.take_zero, List.drop_zero]
    exact addFirst_yields rep fresh
  · rw [if_neg start, if_neg (not_or.mp start).1]
    have length : s.list.nbElements = number ↔ items.length = number.toNat := by
      rw [← UInt32.toNat_inj, rep.count_toNat]
    by_cases isEnd : s.list.nbElements = number
    · rw [if_pos isEnd, ← length.mp isEnd]
      simp only [plainAdd, Nat.le_refl, if_true, List.take_length, List.drop_length]
      exact addLast_yields rep fresh
    · rw [if_neg isEnd]
      refine moved_yields (fun s => noOsIteratorInsert s.list.itElem calloc data false s) rep
        (moveFromFirst_lands rep defined) (fun beyond => ?_) fun item here => ?_
      · have := List.getElem?_eq_none_iff.mp beyond
        have := mt length.mpr isEnd
        exact if_neg (by omega)
      · exact insertBefore_at (rep.setItElem _) here fresh

theorem addFind_yields (rep : Represents s items) {calloc : Option Nat} (fresh : Fresh calloc s) (data : α) :
    Yields (noOsListAddFind comparator calloc data s) s
      (plainAdd (items.findIdx fun item => decide (0 < comparator item.2 data)) calloc data items) := by
  have enough : items.length < loopFuel := by
    have := rep.length_le
    simp only [loopFuel]
    omega
  have found := rep.linked.seek (fun other => decide (0 < comparator other data)) enough
  rw [List.dropWhile_eq_drop_findIdx_not, firstOr_drop, ← rep.first] at found
  simp only [Bool.not_not] at found
  simp only [noOsListAddFind, found, Option.bind_eq_bind, Option.bind_some, address_at]
  cases here : items[items.findIdx fun item => decide (0 < comparator item.2 data)]? with
  | none =>
      have isEnd : (items.findIdx fun item => decide (0 < comparator item.2 data)) = items.length :=
        Nat.le_antisymm List.findIdx_le_length (List.getElem?_eq_none_iff.mp here)
      have atLast : noOsIteratorInsert s.list.last calloc data true (s.setItElem s.list.last) =
          noOsListAddLast calloc data (s.setItElem s.list.last) := if_pos ⟨rfl, rfl⟩
      rw [isEnd, plainAdd, if_pos (Nat.le_refl _), List.take_length, List.drop_length]
      change Yields (noOsIteratorInsert s.list.last calloc data true (s.setItElem s.list.last)) s _
      rw [atLast]
      exact addLast_yields (rep.setItElem _) fresh
  | some item => exact insertBefore_at (rep.setItElem _) here fresh

theorem addAt_yields (rep : Represents s items) {place : Place Unit} (defined : place.Defined)
    {calloc : Option Nat} (fresh : Fresh calloc s) (data : α) :
    Yields (addAt comparator place calloc data s) s
      (plainAdd (place.gap comparator data items) calloc data items) := by
  cases place with
  | first =>
      simp only [addAt, Place.gap, plainAdd, Nat.zero_le, if_true, List.take_zero, List.drop_zero]
      exact addFirst_yields rep fresh
  | last =>
      simp only [addAt, Place.gap, plainAdd, Nat.le_refl, if_true, List.take_length, List.drop_length]
      exact addLast_yields rep fresh
  | idx number => exact addIdx_yields rep defined fresh data
  | find => exact addFind_yields comparator rep fresh data

def Place.AtEnd {β : Type} : Place β → Prop
  | .first => True
  | .last => True
  | _ => False

theorem ends_at (rep : Represents s items) :
    s.list.first = (addresses items)[0]? ∧ s.list.last = (addresses items)[items.length - 1]? := by
  rw [rep.first, rep.last, ← firstOr_drop, List.drop_zero]
  refine ⟨rfl, ?_⟩
  have whole := lastOr_take (Nat.le_refl items.length)
  rw [List.take_length] at whole
  rw [whole]
  cases items with
  | nil => rfl
  | cons item items =>
      have last : ((item :: items).length : Int) - 1 = items.length := by simp
      rw [last, addressAt_of_nonneg]
      rfl

theorem editAt_yields (rep : Represents s items) {place : Place α} (defined : place.Defined)
    (present : place.AtEnd → s.list.nbElements ≠ 0) (newData : α) :
    Yields (editAt comparator place newData s) s
      (plainEdit (place.index comparator items) newData items) := by
  obtain ⟨atFirst, atLast⟩ := ends_at rep
  rw [ne_eq, rep.count_eq_zero] at present
  cases place with
  | first =>
      obtain ⟨item, rest, rfl⟩ := List.exists_cons_of_ne_nil (present trivial)
      simp only [editAt, noOsListEditFirst, atFirst, address_at]
      exact edit_at rep rfl newData
  | last =>
      have inside : items.length - 1 < items.length := by
        have := List.length_pos_iff.mpr (present trivial)
        omega
      simp only [editAt, noOsListEditLast, atLast, address_at, List.getElem?_eq_getElem inside]
      exact edit_at rep (List.getElem?_eq_getElem inside) newData
  | idx number =>
      refine moved_yields (fun s => noOsIteratorEdit s.list.itElem newData s) rep
        (moveFromFirst_lands rep defined) (fun beyond => ?_) fun item here => ?_
      · simp [plainEdit, Place.index, beyond]
      · exact edit_at (rep.setItElem _) here newData
  | find cmpData =>
      refine moved_yields (fun s => noOsIteratorEdit s.list.itElem newData s) rep
        (iteratorFind_lands comparator (rep.setItElem s.list.first) s.list.first cmpData)
        (fun beyond => ?_) fun item here => ?_
      · simp [plainEdit, Place.index, beyond]
      · exact edit_at (rep.setItElem _) here newData

theorem read_yields (rep : Represents s items) {elem : Option Nat} (stands : elem = (addresses items)[index]?) :
    Yields ((noOsIteratorRead elem s).map (·, s)) s (plainRead index items, items) := by
  rw [stands, address_at]
  cases here : items[index]? with
  | none => exact ⟨s, by simp [noOsIteratorRead, plainRead, here], rep, rfl⟩
  | some item => exact ⟨s, by simp [read_at rep here], rep, rfl⟩

theorem readAt_yields (rep : Represents s items) (place : Place α) :
    Yields (readAt comparator place s) s
      (plainRead (place.index comparator items) items, items) := by
  obtain ⟨atFirst, atLast⟩ := ends_at rep
  cases place with
  | first => exact read_yields rep atFirst
  | last => exact read_yields rep atLast
  | idx number =>
      simp only [readAt, noOsListReadIdx]
      have length : s.list.nbElements ≤ number ↔ items.length ≤ number.toNat := by
        rw [UInt32.le_iff_toNat_le, rep.count_toNat]
      by_cases beyond : s.list.nbElements ≤ number
      · have none := List.getElem?_eq_none_iff.mpr (length.mp beyond)
        rw [if_pos beyond]
        exact ⟨s, by simp [plainRead, Place.index, none], rep, rfl⟩
      · have defined : number ≠ 2147483648 := by
          rintro rfl
          have := rep.length_le
          have := mt length.mpr beyond
          simp at this
          omega
        rw [if_neg beyond]
        refine moved_yields (fun s => (noOsIteratorRead s.list.itElem s).map (·, s)) rep
          (moveFromFirst_lands rep defined) (fun beyond => ?_) fun item here => ?_
        · simp [plainRead, Place.index, beyond]
        · exact read_yields (rep.setItElem _) (by rw [address_at]; simp [ListState.setItElem, Place.index, here])
  | find cmpData =>
      refine moved_yields (fun s => (noOsIteratorRead s.list.itElem s).map (·, s)) rep
        (iteratorFind_lands comparator (rep.setItElem s.list.first) s.list.first cmpData)
        (fun beyond => ?_) fun item here => ?_
      · simp [plainRead, Place.index, beyond]
      · exact read_yields (rep.setItElem _) (by rw [address_at]; simp [ListState.setItElem, Place.index, here])

end Calls

end SpeFramework.NoOs
