import SpeFramework.Lib.DoublyLinked

/-!
`no_os_list.c`. The elements lie in a store by their addresses; a function answers `none` where it
would follow a null pointer or one to an element that was freed. What `no_os_calloc` answers is
handed to the functions that call it, and the descriptors are there.
-/

namespace SpeFramework.NoOs

open DoublyLinked

abbrev Elements (α : Type) := Nat → Option (Node Nat α)

/-- `struct _list_desc`. Of `l_it` only the element changes. -/
structure ListDesc where
  first : Option Nat
  last : Option Nat
  nbElements : UInt32
  nbIterators : UInt32
  itElem : Option Nat
  deriving DecidableEq, Repr

structure ListState (α : Type) where
  elems : Elements α
  list : ListDesc

/-- What a call returns, and what it stores through `data`. -/
structure Answer (α : Type) where
  ret : Int
  data : Option α
  deriving DecidableEq, Repr

variable {α : Type}

def Answer.failed : Answer α := ⟨-1, none⟩

def Answer.done : Answer α := ⟨0, none⟩

def ListState.empty : ListState α := ⟨fun _ => none, ⟨none, none, 0, 0, none⟩⟩

/-- A loop over the elements comes to no address twice, and pointers have 32 bits. -/
abbrev loopFuel : Nat := 1 <<< 32

def createElement (elem : Nat) (data : α) (prev next : Option Nat) (elems : Elements α) : Elements α :=
  Function.update elems elem (some ⟨data, prev, next⟩)

def noOsUpdateLinks (prev elem next : Option Nat) (elems : Elements α) : Option (Elements α) := do
  let elems ← setNext prev (elem.or next) elems
  let elems ← setPrev elem prev elems
  let elems ← setNext elem next elems
  setPrev next (elem.or prev) elems

def noOsUpdateDesc (newFirst newLast : Option Nat) (list : ListDesc) : ListDesc :=
  if newFirst = list.first then
    { list with
      last := newLast
      first := if newFirst = none ∨ newLast = none then newLast else list.first }
  else
    { list with
      first := newFirst
      last := if newLast = none ∨ newFirst = none then newFirst else list.last }

def ListState.setItElem (elem : Option Nat) (s : ListState α) : ListState α :=
  { s with list := { s.list with itElem := elem } }

def noOsListAddFirst (calloc : Option Nat) (data : α) (s : ListState α) :
    Option (Answer α × ListState α) :=
  let prev := none
  let next := s.list.first
  match calloc with
  | none => some (.failed, s)
  | some elem => do
      let elems := createElement elem data prev next s.elems
      let elems ← noOsUpdateLinks prev (some elem) next elems
      let list := noOsUpdateDesc (some elem) s.list.last s.list
      return (.done, ⟨elems, { list with nbElements := list.nbElements + 1 }⟩)

def noOsListAddLast (calloc : Option Nat) (data : α) (s : ListState α) :
    Option (Answer α × ListState α) :=
  let prev := s.list.last
  let next := none
  match calloc with
  | none => some (.failed, s)
  | some elem => do
      let elems := createElement elem data prev next s.elems
      let elems ← noOsUpdateLinks prev (some elem) next elems
      let list := noOsUpdateDesc s.list.first (some elem) s.list
      return (.done, ⟨elems, { list with nbElements := list.nbElements + 1 }⟩)

/-! The functions on iterators take the element the iterator stands at, and return it. -/

/-- `abs`, which is not defined at the least `int32_t`. -/
def abs (value : Int32) : Option Nat :=
  if value = Int32.minValue then none else some value.toInt.natAbs

/-- Where the search ended is where the iterator stands; without an element it stays. -/
def landed (elem found : Option Nat) : Int × Option Nat :=
  match found with
  | none => (-1, elem)
  | some _ => (0, found)

def noOsIteratorMove (elem : Option Nat) (steps : Int32) (elems : Elements α) :
    Option (Int × Option Nat) := do
  let count ← abs steps
  let moved ← walk elems (!decide (steps < 0)) count elem
  return landed elem moved

def noOsIteratorMoveToIdx (elem : Option Nat) (idx : Int32) (s : ListState α) :
    Option (Int × Option Nat) := do
  let count ← abs idx
  let start := if idx < 0 then s.list.last else s.list.first
  let moved ← walk s.elems (!decide (idx < 0)) count start
  return landed elem moved

section Comparator

variable (comparator : α → α → Int)

def noOsIteratorFind (elem : Option Nat) (cmpData : α) (s : ListState α) : Option (Int × Option Nat) := do
  let found ← seek s.elems (fun data => comparator data cmpData == 0) loopFuel s.list.first
  return landed elem found

end Comparator

def noOsIteratorEdit (elem : Option Nat) (newData : α) (s : ListState α) :
    Option (Answer α × ListState α) := do
  let elem ← elem
  let node ← s.elems elem
  return (.done, { s with elems := Function.update s.elems elem (some { node with data := newData }) })

/-- The element is the one the iterator stands at afterwards. -/
def noOsIteratorGet (elem : Option Nat) (s : ListState α) :
    Option (Answer α × Option Nat × ListState α) :=
  match elem with
  | none => some (.failed, none, s)
  | some elem => do
      let node ← s.elems elem
      let elems ← noOsUpdateLinks node.prev none node.next s.elems
      let node ← elems elem
      let list :=
        if some elem = s.list.first then noOsUpdateDesc node.next s.list.last s.list
        else if some elem = s.list.last then noOsUpdateDesc s.list.first node.prev s.list
        else s.list
      let list := { list with nbElements := list.nbElements - 1 }
      let next := if some elem = list.last then node.prev else node.next
      return (⟨0, some node.data⟩, next, ⟨Function.update elems elem none, list⟩)

def noOsIteratorRead (elem : Option Nat) (s : ListState α) : Option (Answer α) :=
  match elem with
  | none => some .failed
  | some elem => (s.elems elem).map fun node => ⟨0, some node.data⟩

def noOsIteratorInsert (elem calloc : Option Nat) (data : α) (after : Bool) (s : ListState α) :
    Option (Answer α × ListState α) :=
  if after ∧ elem = s.list.last then noOsListAddLast calloc data s
  else if !after ∧ elem = s.list.first then noOsListAddFirst calloc data s
  else do
    let elem ← elem
    let node ← s.elems elem
    let prev := if after then some elem else node.prev
    let next := if after then node.next else some elem
    match calloc with
    | none => return (.failed, s)
    | some new =>
        let elems := createElement new data prev next s.elems
        let elems ← noOsUpdateLinks prev (some new) next elems
        return (.done, ⟨elems, { s.list with nbElements := s.list.nbElements + 1 }⟩)

def noOsIteratorInit (start : Bool) (s : ListState α) : Option Nat × ListState α :=
  (if start then s.list.first else s.list.last,
    { s with list := { s.list with nbIterators := s.list.nbIterators + 1 } })

def noOsIteratorRemove (s : ListState α) : ListState α :=
  { s with list := { s.list with nbIterators := s.list.nbIterators - 1 } }

/-! The functions that work at a place of the list. -/

/-- An index as the `steps` of `no_os_iterator_move`. -/
def stepsOf (idx : UInt32) : Int32 := idx.toInt32

def noOsListAddIdx (calloc : Option Nat) (data : α) (idx : UInt32) (s : ListState α) :
    Option (Answer α × ListState α) :=
  if s.list.nbElements = 0 ∨ idx = 0 then noOsListAddFirst calloc data s
  else if s.list.nbElements = idx then noOsListAddLast calloc data s
  else do
    let s := s.setItElem s.list.first
    let (ret, elem) ← noOsIteratorMove s.list.itElem (stepsOf idx) s.elems
    let s := s.setItElem elem
    if ret ≠ 0 then return (.failed, s)
    else noOsIteratorInsert s.list.itElem calloc data false s

def noOsListEditFirst (newData : α) (s : ListState α) : Option (Answer α × ListState α) :=
  noOsIteratorEdit s.list.first newData s

def noOsListEditLast (newData : α) (s : ListState α) : Option (Answer α × ListState α) :=
  noOsIteratorEdit s.list.last newData s

def noOsListEditIdx (newData : α) (idx : UInt32) (s : ListState α) : Option (Answer α × ListState α) := do
  let s := s.setItElem s.list.first
  let (ret, elem) ← noOsIteratorMove s.list.itElem (stepsOf idx) s.elems
  let s := s.setItElem elem
  if ret ≠ 0 then return (.failed, s) else noOsIteratorEdit s.list.itElem newData s

def noOsListReadFirst (s : ListState α) : Option (Answer α) := noOsIteratorRead s.list.first s

def noOsListReadLast (s : ListState α) : Option (Answer α) := noOsIteratorRead s.list.last s

def noOsListReadIdx (idx : UInt32) (s : ListState α) : Option (Answer α × ListState α) :=
  if s.list.nbElements ≤ idx then some (.failed, s)
  else do
    let s := s.setItElem s.list.first
    let (ret, elem) ← noOsIteratorMove s.list.itElem (stepsOf idx) s.elems
    let s := s.setItElem elem
    if ret ≠ 0 then return (.failed, s)
    else (noOsIteratorRead s.list.itElem s).map (·, s)

def noOsListGetFirst (s : ListState α) : Option (Answer α × ListState α) :=
  if s.list.nbElements = 0 then some (.failed, s)
  else do
    let elem ← s.list.first
    let node ← s.elems elem
    let elems ← noOsUpdateLinks node.prev none node.next s.elems
    let list := noOsUpdateDesc node.next s.list.last s.list
    let node ← elems elem
    return (⟨0, some node.data⟩,
      ⟨Function.update elems elem none, { list with nbElements := list.nbElements - 1 }⟩)

def noOsListGetLast (s : ListState α) : Option (Answer α × ListState α) :=
  if s.list.nbElements = 0 then some (.failed, s)
  else do
    let elem ← s.list.last
    let node ← s.elems elem
    let elems ← noOsUpdateLinks node.prev none node.next s.elems
    let list := noOsUpdateDesc s.list.first node.prev s.list
    let node ← elems elem
    return (⟨0, some node.data⟩,
      ⟨Function.update elems elem none, { list with nbElements := list.nbElements - 1 }⟩)

/-- `no_os_iterator_get` on the list's own iterator. -/
def getAtIterator (s : ListState α) : Option (Answer α × ListState α) := do
  let (answer, elem, s) ← noOsIteratorGet s.list.itElem s
  return (answer, s.setItElem elem)

def noOsListGetIdx (idx : UInt32) (s : ListState α) : Option (Answer α × ListState α) := do
  let s := s.setItElem s.list.first
  let (ret, elem) ← noOsIteratorMove s.list.itElem (stepsOf idx) s.elems
  let s := s.setItElem elem
  if ret ≠ 0 then return (.failed, s) else getAtIterator s

section Comparator

variable (comparator : α → α → Int)

def noOsListAddFind (calloc : Option Nat) (data : α) (s : ListState α) :
    Option (Answer α × ListState α) := do
  let elem ← seek s.elems (fun other => decide (0 < comparator other data)) loopFuel s.list.first
  match elem with
  | none =>
      let s := s.setItElem s.list.last
      noOsIteratorInsert s.list.itElem calloc data true s
  | some _ =>
      let s := s.setItElem elem
      noOsIteratorInsert s.list.itElem calloc data false s

def noOsListEditFind (newData cmpData : α) (s : ListState α) : Option (Answer α × ListState α) := do
  let s := s.setItElem s.list.first
  let (ret, elem) ← noOsIteratorFind comparator s.list.itElem cmpData s
  let s := s.setItElem elem
  if ret ≠ 0 then return (.failed, s) else noOsIteratorEdit s.list.itElem newData s

def noOsListReadFind (cmpData : α) (s : ListState α) : Option (Answer α × ListState α) := do
  let s := s.setItElem s.list.first
  let (ret, elem) ← noOsIteratorFind comparator s.list.itElem cmpData s
  let s := s.setItElem elem
  if ret ≠ 0 then return (.failed, s) else (noOsIteratorRead s.list.itElem s).map (·, s)

def noOsListGetFind (cmpData : α) (s : ListState α) : Option (Answer α × ListState α) := do
  let s := s.setItElem s.list.first
  let (ret, elem) ← noOsIteratorFind comparator s.list.itElem cmpData s
  let s := s.setItElem elem
  if ret ≠ 0 then return (.failed, s) else getAtIterator s

end Comparator

/-- The `while` loop of `no_os_list_remove`. -/
def getAll : Nat → ListState α → Option (ListState α)
  | 0, _ => none
  | fuel + 1, s => do
      let (answer, s) ← noOsListGetFirst s
      if answer.ret = 0 then getAll fuel s else return s

def noOsListRemove (s : ListState α) : Option (Int × ListState α) :=
  if s.list.nbIterators ≠ 0 then some (-1, s)
  else (getAll loopFuel s).map (0, ·)

end SpeFramework.NoOs
