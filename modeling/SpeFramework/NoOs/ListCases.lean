import Mathlib.Data.List.Perm.Lattice
import Mathlib.Data.List.Perm.Subperm
import SpeFramework.NoOs.List

/-!
What the functions of the list do to the chain it holds. Every function comes down to one of four
acts at a place between or on the elements.
-/

namespace SpeFramework.NoOs

open DoublyLinked

variable {α : Type}

/-- An address that `pvPortMalloc` can return. -/
def Placeable (address : Nat) : Prop := address % 8 = 0 ∧ address < loopFuel

instance (address : Nat) : Decidable (Placeable address) := inferInstanceAs (Decidable (_ ∧ _))

/-- The list holds this chain, and no element that is not in it. -/
structure Represents (s : ListState α) (items : Chain Nat α) : Prop where
  linked : Linked s.elems none items none
  distinct : (addresses items).Nodup
  nothingElse : ∀ address, address ∉ addresses items → s.elems address = none
  first : s.list.first = firstOr none items
  last : s.list.last = lastOr none items
  count : s.list.nbElements = UInt32.ofNat items.length
  placed : ∀ address ∈ addresses items, Placeable address

theorem lastOr_of_ne_nil {items : Chain Nat α} (nonempty : items ≠ []) (before : Option Nat) :
    lastOr before items = lastOr none items := by
  cases items with
  | nil => exact absurd rfl nonempty
  | cons => rfl

theorem firstOr_of_ne_nil {items : Chain Nat α} (nonempty : items ≠ []) (after : Option Nat) :
    firstOr after items = firstOr none items := by
  cases items with
  | nil => exact absurd rfl nonempty
  | cons => rfl

theorem lastOr_eq_none {items : Chain Nat α} : lastOr none items = none ↔ items = [] := by
  rcases List.eq_nil_or_concat items with rfl | ⟨front, item, rfl⟩ <;> simp

namespace Represents

variable {s : ListState α} {items front back : Chain Nat α} {item : Nat × α}

theorem length_le (rep : Represents s items) : items.length ≤ 536870912 := by
  have distinct : ((addresses items).map (· / 8)).Nodup := by
    refine List.Nodup.map_on (fun one here other there same => ?_) rep.distinct
    have := (rep.placed one here).1
    have := (rep.placed other there).1
    omega
  have inside : (addresses items).map (· / 8) ⊆ List.range 536870912 := by
    intro place member
    obtain ⟨address, here, rfl⟩ := List.mem_map.mp member
    have below := (rep.placed address here).2
    simp only [loopFuel] at below
    exact List.mem_range.mpr (by omega)
  simpa [addresses] using (distinct.subperm inside).length_le

theorem count_toNat (rep : Represents s items) : s.list.nbElements.toNat = items.length := by
  have bound := rep.length_le
  rw [rep.count, UInt32.toNat_ofNat_of_lt']
  simp only [UInt32.size]
  omega

theorem count_eq_zero (rep : Represents s items) : s.list.nbElements = 0 ↔ items = [] := by
  rw [← UInt32.toNat_inj, rep.count_toNat]
  simp

theorem setItElem (rep : Represents s items) (elem : Option Nat) : Represents (s.setItElem elem) items :=
  ⟨rep.linked, rep.distinct, rep.nothingElse, rep.first, rep.last, rep.count, rep.placed⟩

theorem notInFront (rep : Represents s (front ++ item :: back)) : item.1 ∉ addresses front := by
  have distinct := rep.distinct
  rw [addresses_append, List.nodup_append] at distinct
  exact fun member => distinct.2.2 _ member _ (by simp) rfl

theorem notInBack (rep : Represents s (front ++ item :: back)) : item.1 ∉ addresses back := by
  have distinct := rep.distinct
  rw [addresses_append, addresses_cons, List.nodup_append, List.nodup_cons] at distinct
  exact distinct.2.1.1

theorem node (rep : Represents s (front ++ item :: back)) :
    s.elems item.1 = some ⟨item.2, lastOr none front, firstOr none back⟩ :=
  ((linked_append ..).mp rep.linked).2.1

theorem ne_first (rep : Represents s (front ++ item :: back)) (nonempty : front ≠ []) :
    some item.1 ≠ s.list.first := by
  rw [rep.first, firstOr_append]
  intro same
  cases front with
  | nil => exact nonempty rfl
  | cons head front => exact rep.notInFront (by simp_all)

theorem ne_last (rep : Represents s (front ++ item :: back)) (nonempty : back ≠ []) :
    some item.1 ≠ s.list.last := by
  rw [rep.last, lastOr_append, lastOr_cons, lastOr_of_ne_nil nonempty]
  intro same
  exact rep.notInBack (lastOr_mem same.symm)

end Represents

/-- The call returns, and the list holds this chain. -/
def Yields (result : Option (Answer α × ListState α)) (s : ListState α)
    (answered : Answer α × Chain Nat α) : Prop :=
  ∃ after, result = some (answered.1, after) ∧ Represents after answered.2 ∧
    after.list.nbIterators = s.list.nbIterators

section Descriptor

variable (newFirst newLast : Option Nat) (list : ListDesc)

@[simp] theorem updateDesc_nbElements :
    (noOsUpdateDesc newFirst newLast list).nbElements = list.nbElements := by
  rw [noOsUpdateDesc]
  split <;> rfl

@[simp] theorem updateDesc_nbIterators :
    (noOsUpdateDesc newFirst newLast list).nbIterators = list.nbIterators := by
  rw [noOsUpdateDesc]
  split <;> rfl

theorem updateDesc_newFirst (different : newFirst ≠ list.first) :
    (noOsUpdateDesc newFirst newLast list).first = newFirst ∧
      (noOsUpdateDesc newFirst newLast list).last =
        if newLast = none ∨ newFirst = none then newFirst else list.last := by
  rw [noOsUpdateDesc, if_neg different]
  exact ⟨rfl, rfl⟩

theorem updateDesc_newLast :
    (noOsUpdateDesc list.first newLast list).last = newLast ∧
      (noOsUpdateDesc list.first newLast list).first =
        if list.first = none ∨ newLast = none then newLast else list.first := by
  rw [noOsUpdateDesc, if_pos rfl]
  exact ⟨rfl, rfl⟩

end Descriptor

/-! A new element between two parts. -/

def Fresh (calloc : Option Nat) (s : ListState α) : Prop :=
  ∀ address ∈ calloc, Placeable address ∧ s.elems address = none

def added (calloc : Option Nat) (data : α) (front back : Chain Nat α) : Answer α × Chain Nat α :=
  match calloc with
  | none => (.failed, front ++ back)
  | some address => (.done, front ++ (address, data) :: back)

section Adding

variable {s : ListState α} {items front back : Chain Nat α} {calloc : Option Nat} {data : α}

theorem Represents.insert (rep : Represents s (front ++ back)) {address : Nat}
    (placeable : Placeable address) (unused : s.elems address = none) (data : α) :
    ∃ elems, noOsUpdateLinks (lastOr none front) (some address) (firstOr none back)
        (createElement address data (lastOr none front) (firstOr none back) s.elems) = some elems ∧
      ∀ list : ListDesc, list.first = firstOr none (front ++ (address, data) :: back) →
        list.last = lastOr none (front ++ (address, data) :: back) →
        list.nbElements = s.list.nbElements + 1 →
        Represents ⟨elems, list⟩ (front ++ (address, data) :: back) := by
  have fresh : address ∉ addresses (front ++ back) := fun member => by
    simpa [unused] using rep.linked.allocated member
  obtain ⟨joined, final, joins, placed, ends, linked, outside⟩ :=
    rep.linked.insert rep.distinct fresh data
  have same : Function.update joined address (some ⟨data, lastOr none front, firstOr none back⟩) =
      joined := by
    rw [← placed, Function.update_eq_self]
  have samePrev : setPrev (some address) (lastOr none front) joined = some joined := by
    simp [setPrev, placed, same]
  have sameNext : setNext (some address) (firstOr none back) joined = some joined := by
    simp [setNext, placed, same]
  have relinked : noOsUpdateLinks (lastOr none front) (some address) (firstOr none back)
      (createElement address data (lastOr none front) (firstOr none back) s.elems) = some final := by
    simp [noOsUpdateLinks, createElement, joins, samePrev, sameNext, ends]
  have mem_iff (other : Nat) : other ∈ addresses (front ++ (address, data) :: back) ↔
      other = address ∨ other ∈ addresses (front ++ back) := by
    simp only [addresses_append, addresses_cons, List.mem_append, List.mem_cons]
    tauto
  refine ⟨final, relinked, fun list first last count => ⟨linked, ?_, ?_, first, last, ?_, ?_⟩⟩
  · have distinct := rep.distinct
    simp only [addresses_append, addresses_cons, List.nodup_middle] at distinct fresh ⊢
    exact List.nodup_cons.mpr ⟨fresh, distinct⟩
  · intro other outsideAll
    refine (outside other outsideAll).trans (rep.nothingElse other fun member => ?_)
    exact outsideAll ((mem_iff other).mpr (.inr member))
  · rw [count, rep.count]
    simp [← Nat.add_assoc]
  · intro other member
    rcases (mem_iff other).mp member with rfl | inRest
    · exact placeable
    · exact rep.placed other inRest

theorem Represents.ne_unused (rep : Represents s items) {address : Nat} (unused : s.elems address = none) :
    some address ≠ s.list.first := by
  intro same
  rw [rep.first] at same
  simpa [unused] using rep.linked.allocated (firstOr_mem same.symm)

theorem addFirst_yields (rep : Represents s items) (fresh : Fresh calloc s) :
    Yields (noOsListAddFirst calloc data s) s (added calloc data [] items) := by
  cases calloc with
  | none => exact ⟨s, rfl, rep, rfl⟩
  | some address =>
      obtain ⟨placeable, unused⟩ := fresh address rfl
      have split : Represents s ([] ++ items) := rep
      obtain ⟨elems, relinked, represents⟩ := split.insert placeable unused data
      obtain ⟨first, last⟩ := updateDesc_newFirst (some address) s.list.last s.list (rep.ne_unused unused)
      rw [lastOr_nil, ← rep.first] at relinked
      let list := noOsUpdateDesc (some address) s.list.last s.list
      have returned : noOsListAddFirst (some address) data s =
          some (.done, ⟨elems, { list with nbElements := list.nbElements + 1 }⟩) := by
        simp [noOsListAddFirst, relinked, list]
      refine ⟨_, returned, represents _ first ?_ (by simp [list]), by simp [list]⟩
      refine last.trans ?_
      rw [rep.last]
      by_cases empty : items = []
      · simp [empty]
      · simp [mt lastOr_eq_none.mp empty, lastOr_of_ne_nil empty (some address)]

theorem addLast_yields (rep : Represents s items) (fresh : Fresh calloc s) :
    Yields (noOsListAddLast calloc data s) s (added calloc data items []) := by
  cases calloc with
  | none => exact ⟨s, rfl, by simpa [added] using rep, rfl⟩
  | some address =>
      obtain ⟨placeable, unused⟩ := fresh address rfl
      rw [← List.append_nil items] at rep
      obtain ⟨elems, relinked, represents⟩ := rep.insert placeable unused data
      rw [List.append_nil] at rep
      obtain ⟨last, first⟩ := updateDesc_newLast (some address) s.list
      rw [firstOr_nil, ← rep.last] at relinked
      let list := noOsUpdateDesc s.list.first (some address) s.list
      have returned : noOsListAddLast (some address) data s =
          some (.done, ⟨elems, { list with nbElements := list.nbElements + 1 }⟩) := by
        simp [noOsListAddLast, relinked, list]
      refine ⟨_, returned, represents _ ?_ ?_ (by simp [list]), by simp [list]⟩
      · refine first.trans ?_
        rw [rep.first]
        cases items <;> simp
      · rw [lastOr_snoc]
        exact last

theorem insertBefore_yields {item : Nat × α} (rep : Represents s (front ++ item :: back))
    (fresh : Fresh calloc s) :
    Yields (noOsIteratorInsert (some item.1) calloc data false s) s
      (added calloc data front (item :: back)) := by
  by_cases start : front = []
  · subst start
    have atFirst : some item.1 = s.list.first := rep.first.symm
    simp only [noOsIteratorInsert, Bool.false_eq_true, false_and, if_false, Bool.not_false, true_and,
      if_pos atFirst]
    exact addFirst_yields rep fresh
  · have notFirst := rep.ne_first start
    simp only [noOsIteratorInsert, Bool.false_eq_true, false_and, if_false, Bool.not_false, true_and,
      if_neg notFirst, Option.bind_eq_bind, Option.bind_some, rep.node]
    cases calloc with
    | none => exact ⟨s, rfl, rep, rfl⟩
    | some address =>
        obtain ⟨placeable, unused⟩ := fresh address rfl
        obtain ⟨elems, relinked, represents⟩ := rep.insert placeable unused data
        rw [firstOr_cons] at relinked
        simp only [relinked]
        refine ⟨_, rfl, represents _ ?_ ?_ rfl, rfl⟩
        · rw [rep.first, firstOr_append, firstOr_append, firstOr_of_ne_nil start]
          exact (firstOr_of_ne_nil start _).symm
        · simp [rep.last, lastOr_append]

theorem insertAfter_yields {item : Nat × α} (rep : Represents s (front ++ item :: back))
    (fresh : Fresh calloc s) :
    Yields (noOsIteratorInsert (some item.1) calloc data true s) s
      (added calloc data (front ++ [item]) back) := by
  by_cases isEnd : back = []
  · subst isEnd
    have atLast : some item.1 = s.list.last := by simp [rep.last]
    simp only [noOsIteratorInsert, true_and, if_pos atLast]
    exact addLast_yields rep fresh
  · have notLast := rep.ne_last isEnd
    simp only [noOsIteratorInsert, true_and, if_neg notLast, Bool.not_true, Bool.false_eq_true, false_and,
      if_false, if_true, Option.bind_eq_bind, Option.bind_some, rep.node]
    cases calloc with
    | none => exact ⟨s, rfl, by simpa [added] using rep, rfl⟩
    | some address =>
        obtain ⟨placeable, unused⟩ := fresh address rfl
        have split : Represents s ((front ++ [item]) ++ back) := by simpa using rep
        obtain ⟨elems, relinked, represents⟩ := split.insert placeable unused data
        rw [lastOr_snoc] at relinked
        simp only [relinked]
        refine ⟨_, rfl, represents _ ?_ ?_ rfl, rfl⟩
        · simp [rep.first, firstOr_append]
        · rw [rep.last, lastOr_append, lastOr_append, lastOr_cons, lastOr_cons, lastOr_of_ne_nil isEnd]
          exact (lastOr_of_ne_nil isEnd _).symm

end Adding

/-! An element taken out. -/

section Removing

variable {s : ListState α} {items front back : Chain Nat α} {item : Nat × α}

theorem Represents.remove (rep : Represents s (front ++ item :: back)) :
    ∃ elems, noOsUpdateLinks (lastOr none front) none (firstOr none back) s.elems = some elems ∧
      elems item.1 = some ⟨item.2, lastOr none front, firstOr none back⟩ ∧
      ∀ list : ListDesc, list.first = firstOr none (front ++ back) →
        list.last = lastOr none (front ++ back) → list.nbElements = s.list.nbElements - 1 →
        Represents ⟨Function.update elems item.1 none, list⟩ (front ++ back) := by
  obtain ⟨joined, final, joins, ends, linked, outside⟩ := rep.linked.remove rep.distinct
  have gone : item.1 ∉ addresses (front ++ back) := by
    simp [rep.notInFront, rep.notInBack]
  have mem_iff (other : Nat) : other ∈ addresses (front ++ item :: back) ↔
      other = item.1 ∨ other ∈ addresses (front ++ back) := by
    simp only [addresses_append, addresses_cons, List.mem_append, List.mem_cons]
    tauto
  refine ⟨final, ?_, (outside _ gone).trans rep.node, fun list first last count => ?_⟩
  · simp [noOsUpdateLinks, joins, ends]
  refine ⟨linked.update none gone, ?_, fun other outsideAll => ?_, first, last, ?_, fun other member => ?_⟩
  · have distinct := rep.distinct
    simp only [addresses_append, addresses_cons, List.nodup_middle, List.nodup_cons] at distinct ⊢
    exact distinct.2
  · by_cases same : other = item.1
    · simp [same]
    · refine (Function.update_of_ne same ..).trans ((outside other outsideAll).trans ?_)
      exact rep.nothingElse other fun member => ((mem_iff other).mp member).elim same outsideAll
  · rw [count, rep.count]
    simp [← Nat.add_assoc, UInt32.ofNat_add]
  · exact rep.placed other ((mem_iff other).mpr (.inr member))

/-- The descriptor that both functions of the list and those of iterators leave. -/
theorem Represents.descriptor (rep : Represents s (front ++ item :: back)) :
    let atFirst := noOsUpdateDesc (firstOr none back) s.list.last s.list
    let atLast := noOsUpdateDesc s.list.first (lastOr none front) s.list
    (front = [] → atFirst.first = firstOr none (front ++ back) ∧
      atFirst.last = lastOr none (front ++ back)) ∧
    (back = [] → atLast.first = firstOr none (front ++ back) ∧
      atLast.last = lastOr none (front ++ back)) ∧
    (front ≠ [] → back ≠ [] → s.list.first = firstOr none (front ++ back) ∧
      s.list.last = lastOr none (front ++ back)) := by
  refine ⟨?_, ?_, ?_⟩
  · rintro rfl
    have moved : firstOr none back ≠ s.list.first := by
      rw [rep.first]
      exact fun same => rep.notInBack (firstOr_mem same)
    obtain ⟨first, last⟩ := updateDesc_newFirst _ s.list.last s.list moved
    refine ⟨first, last.trans ?_⟩
    rw [rep.last]
    cases back <;> simp
  · rintro rfl
    obtain ⟨last, first⟩ := updateDesc_newLast (lastOr none front) s.list
    refine ⟨first.trans ?_, by simpa using last⟩
    rw [rep.first]
    cases front <;> simp
  · intro notFirst notLast
    rw [rep.first, rep.last, firstOr_append, firstOr_append, lastOr_append, lastOr_append, lastOr_cons]
    rw [firstOr_of_ne_nil notFirst, firstOr_of_ne_nil notFirst (firstOr none back),
      lastOr_of_ne_nil notLast, lastOr_of_ne_nil notLast (lastOr none front)]
    exact ⟨rfl, rfl⟩

end Removing

section Removing

variable {s : ListState α} {items front back : Chain Nat α} {item : Nat × α}

/-- The iterator goes on to the next element, at the end to none. -/
theorem iteratorGet_removes (rep : Represents s (front ++ item :: back)) :
    ∃ after, noOsIteratorGet (some item.1) s = some (⟨0, some item.2⟩, firstOr none back, after) ∧
      Represents after (front ++ back) ∧ after.list.nbIterators = s.list.nbIterators := by
  obtain ⟨elems, relinked, kept, represents⟩ := rep.remove
  obtain ⟨atFirst, atLast, inside⟩ := rep.descriptor
  let list :=
    if some item.1 = s.list.first then noOsUpdateDesc (firstOr none back) s.list.last s.list
    else if some item.1 = s.list.last then noOsUpdateDesc s.list.first (lastOr none front) s.list
    else s.list
  obtain ⟨first, last⟩ : list.first = firstOr none (front ++ back) ∧
      list.last = lastOr none (front ++ back) := by
    by_cases start : front = []
    · subst start
      have here : some item.1 = s.list.first := rep.first.symm
      simp only [list, if_pos here]
      exact atFirst rfl
    · by_cases isEnd : back = []
      · subst isEnd
        have here : some item.1 = s.list.last := by simp [rep.last, lastOr_append]
        simp only [list, if_neg (rep.ne_first start), if_pos here]
        exact atLast rfl
      · simp only [list, if_neg (rep.ne_first start), if_neg (rep.ne_last isEnd)]
        exact inside start isEnd
  have counted : list.nbElements = s.list.nbElements ∧ list.nbIterators = s.list.nbIterators := by
    simp only [list]
    split
    · simp
    · split <;> simp
  have notLast : some item.1 ≠ list.last := by
    rw [last]
    intro same
    have member := lastOr_mem same.symm
    simp [rep.notInFront, rep.notInBack] at member
  refine ⟨⟨Function.update elems item.1 none, { list with nbElements := list.nbElements - 1 }⟩, ?_,
    represents _ first last (by rw [counted.1]), counted.2⟩
  simp [noOsIteratorGet, rep.node, relinked, kept, list, notLast]

theorem getFirst_yields (rep : Represents s (item :: back)) :
    Yields (noOsListGetFirst s) s (⟨0, some item.2⟩, back) := by
  have split : Represents s ([] ++ item :: back) := rep
  obtain ⟨elems, relinked, kept, represents⟩ := split.remove
  obtain ⟨atFirst, -, -⟩ := split.descriptor
  obtain ⟨first, last⟩ := atFirst rfl
  let list := noOsUpdateDesc (firstOr none back) s.list.last s.list
  have notEmpty : s.list.nbElements ≠ 0 := by simp [rep.count_eq_zero]
  have here : s.list.first = some item.1 := rep.first
  have returned : noOsListGetFirst s = some (⟨0, some item.2⟩,
      ⟨Function.update elems item.1 none, { list with nbElements := list.nbElements - 1 }⟩) := by
    rw [lastOr_nil] at relinked
    simp [noOsListGetFirst, notEmpty, here, split.node, relinked, kept, list]
  exact ⟨_, returned, represents _ first last (by simp [list]), by simp [list]⟩

theorem getLast_yields (rep : Represents s (front ++ [item])) :
    Yields (noOsListGetLast s) s (⟨0, some item.2⟩, front) := by
  obtain ⟨elems, relinked, kept, represents⟩ := rep.remove
  obtain ⟨-, atLast, -⟩ := rep.descriptor
  obtain ⟨first, last⟩ := atLast rfl
  let list := noOsUpdateDesc s.list.first (lastOr none front) s.list
  have notEmpty : s.list.nbElements ≠ 0 := by simp [rep.count_eq_zero]
  have here : s.list.last = some item.1 := by simp [rep.last]
  have returned : noOsListGetLast s = some (⟨0, some item.2⟩,
      ⟨Function.update elems item.1 none, { list with nbElements := list.nbElements - 1 }⟩) := by
    rw [firstOr_nil] at relinked
    simp [noOsListGetLast, notEmpty, here, rep.node, relinked, kept, list]
  rw [List.append_nil] at represents first last
  exact ⟨_, returned, represents _ first last (by simp [list]), by simp [list]⟩

theorem get_fails (rep : Represents s []) :
    noOsListGetFirst s = some (.failed, s) ∧ noOsListGetLast s = some (.failed, s) := by
  have empty : s.list.nbElements = 0 := rep.count_eq_zero.mpr rfl
  simp [noOsListGetFirst, noOsListGetLast, empty]

end Removing

/-! An element that is only read or written. -/

section Reading

variable {s : ListState α} {items front back : Chain Nat α} {item : Nat × α}

theorem iteratorEdit_yields (rep : Represents s (front ++ item :: back)) (newData : α) :
    Yields (noOsIteratorEdit (some item.1) newData s) s (.done, front ++ (item.1, newData) :: back) := by
  obtain ⟨node, present, linked⟩ := rep.linked.edit rep.distinct newData
  have same : addresses (front ++ (item.1, newData) :: back) = addresses (front ++ item :: back) := by simp
  have returned : noOsIteratorEdit (some item.1) newData s = some (.done,
      { s with elems := Function.update s.elems item.1 (some { node with data := newData }) }) := by
    simp [noOsIteratorEdit, present]
  refine ⟨_, returned, ⟨linked, same ▸ rep.distinct, fun other outside => ?_, ?_, ?_, ?_, ?_⟩, rfl⟩
  · rw [same] at outside
    refine (Function.update_of_ne ?_ ..).trans (rep.nothingElse other outside)
    rintro rfl
    simp at outside
  · rw [rep.first, firstOr_append, firstOr_append, firstOr_cons, firstOr_cons]
  · rw [rep.last, lastOr_append, lastOr_append, lastOr_cons, lastOr_cons]
  · rw [rep.count]
    simp
  · rw [same]
    exact rep.placed

theorem iteratorRead_reads (rep : Represents s (front ++ item :: back)) :
    noOsIteratorRead (some item.1) s = some ⟨0, some item.2⟩ := by
  simp [noOsIteratorRead, rep.node]

end Reading

/-! Where the iterators go. -/

def addressAt (items : Chain Nat α) (position : Int) : Option Nat :=
  if position < 0 then none else (addresses items)[position.toNat]?

theorem addressAt_of_nonneg (items : Chain Nat α) (position : Nat) :
    addressAt items position = (addresses items)[position]? := by
  have notNegative : ¬ (position : Int) < 0 := by omega
  simp [addressAt, notNegative]

theorem firstOr_drop (items : Chain Nat α) (count : Nat) :
    firstOr none (items.drop count) = (addresses items)[count]? := by
  induction items generalizing count with
  | nil => simp
  | cons item items ih =>
      cases count with
      | zero => simp
      | succ count => simpa using ih count

theorem lastOr_take {items : Chain Nat α} {count : Nat} (inside : count ≤ items.length) :
    lastOr none (items.take count) = addressAt items (count - 1) := by
  cases count with
  | zero => simp [addressAt]
  | succ count =>
      have here := addressAt_of_nonneg items count
      have next : ((count + 1 : Nat) : Int) - 1 = count := by omega
      rw [next, here, List.take_succ_eq_append_getElem inside, lastOr_snoc]
      simp [addresses, List.getElem?_eq_getElem inside]

section Moving

variable {s : ListState α} {items front back : Chain Nat α} {item : Nat × α}

theorem abs_eq {value : Int32} (notLeast : value ≠ Int32.minValue) : abs value = some value.toInt.natAbs :=
  if_neg notLeast

theorem iteratorMove_none {steps : Int32} (notLeast : steps ≠ Int32.minValue) (elems : Elements α) :
    noOsIteratorMove none steps elems = some (-1, none) := by
  simp only [noOsIteratorMove, abs_eq notLeast, Option.bind_eq_bind, Option.bind_some]
  cases steps.toInt.natAbs <;> rfl

theorem addressAt_negative (items : Chain Nat α) {position : Int} (negative : position < 0) :
    addressAt items position = none := if_pos negative

theorem addressAt_append_left {items more : Chain Nat α} {position : Int} (inside : position < items.length) :
    addressAt (items ++ more) position = addressAt items position := by
  by_cases negative : position < 0
  · rw [addressAt_negative _ negative, addressAt_negative _ negative]
  · have inFront : position.toNat < (addresses items).length := by simp [addresses]; omega
    simp only [addressAt, if_neg negative, addresses_append, List.getElem?_append_left inFront]

/-- The iterator moves by as many places as it is told. -/
theorem iteratorMove_lands (rep : Represents s (front ++ item :: back)) {steps : Int32}
    (notLeast : steps ≠ Int32.minValue) :
    noOsIteratorMove (some item.1) steps s.elems =
      some (landed (some item.1) (addressAt (front ++ item :: back) (front.length + steps.toInt))) := by
  have sign : steps < 0 ↔ steps.toInt < 0 := Int32.lt_iff_toInt_lt
  simp only [noOsIteratorMove, abs_eq notLeast, Option.bind_eq_bind, Option.bind_some]
  by_cases backward : steps < 0
  · have negative := sign.mp backward
    have joined : (front ++ [item]) ++ back = front ++ item :: back := by simp
    have upTo := ((linked_append ..).mp (joined.symm ▸ rep.linked)).1.walk_backward steps.toInt.natAbs
    rw [lastOr_snoc, lastOr_take (Nat.sub_le ..)] at upTo
    have inFront : (front.length : Int) + steps.toInt < (front ++ [item]).length := by
      simp only [List.length_append, List.length_singleton]
      omega
    simp only [backward, decide_true, Bool.not_true, upTo, Option.bind_some]
    rw [← joined, addressAt_append_left inFront]
    simp only [List.length_append, List.length_singleton]
    by_cases reached : steps.toInt.natAbs ≤ front.length
    · have same : ((front.length + 1 - steps.toInt.natAbs : Nat) : Int) - 1 =
          front.length + steps.toInt := by omega
      rw [same]
      rfl
    · rw [addressAt_negative _ (by omega), addressAt_negative _ (by omega)]
      rfl
  · have notNegative := mt sign.mpr backward
    have ahead := ((linked_append ..).mp rep.linked).2.walk_forward steps.toInt.natAbs
    rw [firstOr_cons, firstOr_drop] at ahead
    simp only [backward, decide_false, Bool.not_false, ahead, Option.bind_some]
    have target : front.length + steps.toInt = (front.length + steps.toInt.natAbs : Nat) := by omega
    rw [target, addressAt_of_nonneg, addresses_append, List.getElem?_append_right (by simp [addresses])]
    simp [addresses]

theorem iteratorMoveToIdx_lands (rep : Represents s items) {idx : Int32} (notLeast : idx ≠ Int32.minValue)
    (elem : Option Nat) :
    noOsIteratorMoveToIdx elem idx s = some (landed elem
      (addressAt items (if idx.toInt < 0 then items.length - 1 + idx.toInt else idx.toInt))) := by
  have sign : idx < 0 ↔ idx.toInt < 0 := Int32.lt_iff_toInt_lt
  simp only [noOsIteratorMoveToIdx, abs_eq notLeast, Option.bind_eq_bind, Option.bind_some]
  by_cases backward : idx < 0
  · have negative := sign.mp backward
    have upTo := rep.linked.walk_backward idx.toInt.natAbs
    rw [lastOr_take (Nat.sub_le ..), ← rep.last] at upTo
    simp only [backward, if_true, decide_true, Bool.not_true, upTo, Option.bind_some, if_pos negative]
    by_cases reached : idx.toInt.natAbs ≤ items.length
    · have same : ((items.length - idx.toInt.natAbs : Nat) : Int) - 1 = items.length - 1 + idx.toInt := by omega
      rw [same]
      rfl
    · rw [addressAt_negative _ (by omega), addressAt_negative _ (by omega)]
      rfl
  · have notNegative := mt sign.mpr backward
    have ahead := rep.linked.walk_forward idx.toInt.natAbs
    rw [firstOr_drop, ← rep.first] at ahead
    have target : idx.toInt = (idx.toInt.natAbs : Nat) := by omega
    simp only [backward, if_false, decide_false, Bool.not_false, ahead, Option.bind_some, if_neg notNegative]
    rw [target, addressAt_of_nonneg]
    rfl

theorem stepsOf_toInt (idx : UInt32) :
    (stepsOf idx).toInt = if idx.toNat < 2147483648 then (idx.toNat : Int) else idx.toNat - 4294967296 := by
  have whole : (stepsOf idx).toInt = if 2 * idx.toNat < 4294967296 then (idx.toNat : Int)
      else idx.toNat - 4294967296 := BitVec.toInt_eq_toNat_cond idx.toBitVec
  rw [whole]
  split <;> split <;> omega

theorem stepsOf_notLeast {idx : UInt32} (notLeast : idx ≠ 2147483648) : stepsOf idx ≠ Int32.minValue := by
  intro same
  have least := congrArg Int32.toInt same
  rw [stepsOf_toInt, Int32.toInt_minValue] at least
  refine notLeast (UInt32.toNat_inj.mp ?_)
  have := idx.toNat_lt
  change idx.toNat = 2147483648
  split at least <;> omega

/-- From the first element on by an index, that of an element or of none. -/
theorem moveFromFirst_lands (rep : Represents s items) {idx : UInt32} (notLeast : idx ≠ 2147483648) :
    noOsIteratorMove s.list.first (stepsOf idx) s.elems =
      some (landed s.list.first (addresses items)[idx.toNat]?) := by
  cases items with
  | nil =>
      rw [show s.list.first = none from rep.first, iteratorMove_none (stepsOf_notLeast notLeast)]
      rfl
  | cons item items =>
      have split : Represents s ([] ++ item :: items) := rep
      have moved := iteratorMove_lands split (stepsOf_notLeast notLeast)
      have bound := rep.length_le
      rw [List.nil_append, stepsOf_toInt] at moved
      rw [show s.list.first = some item.1 from rep.first, moved]
      by_cases low : idx.toNat < 2147483648
      · rw [if_pos low, List.length_nil, Int.natCast_zero, Int.zero_add, addressAt_of_nonneg]
      · have beyond : (addresses (item :: items))[idx.toNat]? = none := by
          rw [List.getElem?_eq_none]
          simp only [addresses, List.length_map]
          omega
        have := idx.toNat_lt
        rw [if_neg low, addressAt_negative _ (by simp only [List.length_nil]; omega), beyond]

section Comparator

variable (comparator : α → α → Int)

theorem iteratorFind_lands (rep : Represents s items) (elem : Option Nat) (cmpData : α) :
    noOsIteratorFind comparator elem cmpData s = some (landed elem
      (addresses items)[items.findIdx fun item => comparator item.2 cmpData == 0]?) := by
  have enough : items.length < loopFuel := by
    have := rep.length_le
    simp only [loopFuel]
    omega
  have found := rep.linked.seek (fun data => comparator data cmpData == 0) enough
  rw [List.dropWhile_eq_drop_findIdx_not, firstOr_drop, ← rep.first] at found
  simp only [Bool.not_not] at found
  simp [noOsIteratorFind, found]

end Comparator

end Moving

end SpeFramework.NoOs
