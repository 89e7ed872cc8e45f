import Mathlib.Data.List.Nodup
import Mathlib.Logic.Function.Basic

/-!
Doubly linked chains of nodes in a store. An address of the store holds a node or nothing; the
operations answer `none` where they would touch an address that holds nothing.
-/

namespace DoublyLinked

variable {A α : Type*}

structure Node (A α : Type*) where
  data : α
  prev : Option A
  next : Option A
  deriving DecidableEq, Repr

/-- A chain as it is seen from outside: its addresses with their data, in order. -/
abbrev Chain (A α : Type*) := List (A × α)

def firstOr (after : Option A) : Chain A α → Option A
  | [] => after
  | item :: _ => some item.1

def lastOr (before : Option A) : Chain A α → Option A
  | [] => before
  | item :: items => lastOr (some item.1) items

def Linked (store : A → Option (Node A α)) : Option A → Chain A α → Option A → Prop
  | _, [], _ => True
  | before, item :: items, after =>
      store item.1 = some ⟨item.2, before, firstOr after items⟩ ∧
        Linked store (some item.1) items after

def addresses (items : Chain A α) : List A := items.map Prod.fst

@[simp] theorem firstOr_nil (after : Option A) : firstOr after ([] : Chain A α) = after := rfl

@[simp] theorem firstOr_cons (after : Option A) (item : A × α) (items : Chain A α) :
    firstOr after (item :: items) = some item.1 := rfl

@[simp] theorem lastOr_nil (before : Option A) : lastOr before ([] : Chain A α) = before := rfl

@[simp] theorem lastOr_cons (before : Option A) (item : A × α) (items : Chain A α) :
    lastOr before (item :: items) = lastOr (some item.1) items := rfl

@[simp] theorem addresses_nil : addresses ([] : Chain A α) = [] := rfl

@[simp] theorem addresses_cons (item : A × α) (items : Chain A α) :
    addresses (item :: items) = item.1 :: addresses items := rfl

@[simp] theorem addresses_append (front back : Chain A α) :
    addresses (front ++ back) = addresses front ++ addresses back := List.map_append

theorem firstOr_append (after : Option A) (front back : Chain A α) :
    firstOr after (front ++ back) = firstOr (firstOr after back) front := by
  cases front <;> rfl

theorem lastOr_append (before : Option A) (front back : Chain A α) :
    lastOr before (front ++ back) = lastOr (lastOr before front) back := by
  induction front generalizing before with
  | nil => rfl
  | cons item front ih => exact ih (some item.1)

@[simp] theorem lastOr_snoc (before : Option A) (items : Chain A α) (item : A × α) :
    lastOr before (items ++ [item]) = some item.1 := lastOr_append ..

@[simp] theorem lastOr_some_ne_none (address : A) (items : Chain A α) :
    lastOr (some address) items ≠ none := by
  induction items generalizing address with
  | nil => simp
  | cons item items ih => exact ih item.1

theorem firstOr_mem {items : Chain A α} {address : A} (here : firstOr none items = some address) :
    address ∈ addresses items := by
  cases items with
  | nil => simp at here
  | cons item items => simp_all

theorem lastOr_mem {items : Chain A α} {address : A} (here : lastOr none items = some address) :
    address ∈ addresses items := by
  rcases List.eq_nil_or_concat items with rfl | ⟨front, item, rfl⟩
  · simp at here
  · simp_all

theorem linked_append (store : A → Option (Node A α)) (before after : Option A) (front back : Chain A α) :
    Linked store before (front ++ back) after ↔
      Linked store before front (firstOr after back) ∧ Linked store (lastOr before front) back after := by
  induction front generalizing before with
  | nil => simp [Linked]
  | cons item front ih =>
      rw [List.cons_append, Linked, Linked, ih, firstOr_append, lastOr_cons, and_assoc]

theorem Linked.congr {store other : A → Option (Node A α)} {before after : Option A} {items : Chain A α}
    (linked : Linked store before items after)
    (same : ∀ address ∈ addresses items, other address = store address) :
    Linked other before items after := by
  induction items generalizing before with
  | nil => trivial
  | cons item items ih =>
      obtain ⟨here, later⟩ := linked
      obtain ⟨sameHere, sameLater⟩ := List.forall_mem_cons.mp same
      exact ⟨sameHere.trans here, ih later sameLater⟩

theorem Linked.allocated {store : A → Option (Node A α)} {before after : Option A} {items : Chain A α}
    (linked : Linked store before items after) {address : A} (member : address ∈ addresses items) :
    (store address).isSome := by
  induction items generalizing before with
  | nil => simp at member
  | cons item items ih =>
      obtain ⟨here, later⟩ := linked
      rcases List.mem_cons.mp member with rfl | inRest
      · simp [here]
      · exact ih later inRest

variable [DecidableEq A]

/-- `at->next = value`, where `at` is not null. -/
def setNext (place value : Option A) (store : A → Option (Node A α)) : Option (A → Option (Node A α)) :=
  match place with
  | none => some store
  | some address => (store address).map fun node =>
      Function.update store address (some { node with next := value })

/-- `at->prev = value`, where `at` is not null. -/
def setPrev (place value : Option A) (store : A → Option (Node A α)) : Option (A → Option (Node A α)) :=
  match place with
  | none => some store
  | some address => (store address).map fun node =>
      Function.update store address (some { node with prev := value })

@[simp] theorem setNext_none (value : Option A) (store : A → Option (Node A α)) :
    setNext none value store = some store := rfl

@[simp] theorem setPrev_none (value : Option A) (store : A → Option (Node A α)) :
    setPrev none value store = some store := rfl

section Relinking

variable {store : A → Option (Node A α)} {before after : Option A} {items : Chain A α}

theorem Linked.update (linked : Linked store before items after) {address : A} (node : Option (Node A α))
    (notHere : address ∉ addresses items) :
    Linked (Function.update store address node) before items after := by
  refine linked.congr fun other member => Function.update_of_ne ?_ ..
  rintro rfl
  exact notHere member

/-- The last node of a chain, or no node, points to another successor. -/
theorem Linked.setNext (linked : Linked store none items after) (distinct : (addresses items).Nodup)
    (value : Option A) :
    ∃ next, setNext (lastOr none items) value store = some next ∧ Linked next none items value ∧
      ∀ address, address ∉ addresses items → next address = store address := by
  rcases List.eq_nil_or_concat items with rfl | ⟨front, item, rfl⟩
  · exact ⟨store, rfl, trivial, fun _ _ => rfl⟩
  · rw [List.concat_eq_append] at *
    obtain ⟨linkedFront, here, -⟩ := (linked_append ..).mp linked
    have notInFront : item.1 ∉ addresses front := by
      simp only [addresses_append, addresses_cons, addresses_nil] at distinct
      exact fun member => (List.nodup_append.mp distinct).2.2 _ member _ (by simp) rfl
    refine ⟨_, by rw [lastOr_snoc, DoublyLinked.setNext, here, Option.map_some], ?_, ?_⟩
    · refine (linked_append ..).mpr ⟨linkedFront.update _ notInFront, ?_, trivial⟩
      exact Function.update_self ..
    · intro address outside
      refine Function.update_of_ne ?_ ..
      rintro rfl
      simp at outside

/-- The first node of a chain, or no node, points to another predecessor. -/
theorem Linked.setPrev (linked : Linked store before items none) (distinct : (addresses items).Nodup)
    (value : Option A) :
    ∃ next, setPrev (firstOr none items) value store = some next ∧ Linked next value items none ∧
      ∀ address, address ∉ addresses items → next address = store address := by
  cases items with
  | nil => exact ⟨store, rfl, trivial, fun _ _ => rfl⟩
  | cons item items =>
      obtain ⟨here, later⟩ := linked
      have notLater : item.1 ∉ addresses items := (List.nodup_cons.mp distinct).1
      refine ⟨_, by rw [firstOr_cons, DoublyLinked.setPrev, here, Option.map_some],
        ⟨Function.update_self .., later.update _ notLater⟩, ?_⟩
      intro address outside
      refine Function.update_of_ne ?_ ..
      rintro rfl
      simp at outside

/-- A node between two parts of a chain, once both parts point to it. -/
theorem Linked.insert {front back : Chain A α} (linked : Linked store none (front ++ back) none)
    (distinct : (addresses (front ++ back)).Nodup) {address : A}
    (fresh : address ∉ addresses (front ++ back)) (data : α) :
    ∃ joined final,
      DoublyLinked.setNext (lastOr none front) (some address)
          (Function.update store address (some ⟨data, lastOr none front, firstOr none back⟩)) =
        some joined ∧
      joined address = some ⟨data, lastOr none front, firstOr none back⟩ ∧
      DoublyLinked.setPrev (firstOr none back) (some address) joined = some final ∧
      Linked final none (front ++ (address, data) :: back) none ∧
      ∀ other, other ∉ addresses (front ++ (address, data) :: back) → final other = store other := by
  simp only [addresses_append, List.mem_append, not_or] at fresh
  rw [addresses_append, List.nodup_append] at distinct
  obtain ⟨distinctFront, distinctBack, apart⟩ := distinct
  obtain ⟨linkedFront, linkedBack⟩ := (linked_append ..).mp linked
  let node : Node A α := ⟨data, lastOr none front, firstOr none back⟩
  obtain ⟨joined, joins, joinedFront, outsideFront⟩ :=
    (linkedFront.update (some node) fresh.1).setNext distinctFront (some address)
  have placed : joined address = some node :=
    (outsideFront address fresh.1).trans (Function.update_self ..)
  have joinedBack : Linked joined (lastOr none front) back none := by
    refine (linkedBack.update (some node) fresh.2).congr fun other member => ?_
    exact outsideFront other fun inFront => apart other inFront other member rfl
  obtain ⟨final, ends, finalBack, outsideBack⟩ := joinedBack.setPrev distinctBack (some address)
  refine ⟨joined, final, joins, placed, ends, (linked_append ..).mpr ⟨?_, ?_, finalBack⟩, ?_⟩
  · refine joinedFront.congr fun other member => outsideBack other fun inBack => ?_
    exact apart other member other inBack rfl
  · exact (outsideBack address fresh.2).trans placed
  · intro other outside
    simp only [addresses_append, addresses_cons, List.mem_append, List.mem_cons, not_or] at outside
    rw [outsideBack other outside.2.2, outsideFront other outside.1]
    exact Function.update_of_ne outside.2.1 ..

/-- Two parts of a chain without the node between them, once they point to each other. -/
theorem Linked.remove {front back : Chain A α} {item : A × α}
    (linked : Linked store none (front ++ item :: back) none)
    (distinct : (addresses (front ++ item :: back)).Nodup) :
    ∃ joined final,
      DoublyLinked.setNext (lastOr none front) (firstOr none back) store = some joined ∧
      DoublyLinked.setPrev (firstOr none back) (lastOr none front) joined = some final ∧
      Linked final none (front ++ back) none ∧
      ∀ other, other ∉ addresses (front ++ back) → final other = store other := by
  obtain ⟨linkedFront, -, linkedBack⟩ := (linked_append ..).mp linked
  have distinctParts : (addresses (front ++ back)).Nodup :=
    distinct.sublist ((List.Sublist.append_left (List.sublist_cons_self ..) front).map Prod.fst)
  rw [addresses_append, List.nodup_append] at distinctParts
  obtain ⟨distinctFront, distinctBack, apart⟩ := distinctParts
  obtain ⟨joined, joins, joinedFront, outsideFront⟩ :=
    linkedFront.setNext distinctFront (firstOr none back)
  have joinedBack : Linked joined (some item.1) back none :=
    linkedBack.congr fun other member =>
      outsideFront other fun inFront => apart other inFront other member rfl
  obtain ⟨final, ends, finalBack, outsideBack⟩ :=
    joinedBack.setPrev distinctBack (lastOr none front)
  refine ⟨joined, final, joins, ends, (linked_append ..).mpr ⟨?_, finalBack⟩, ?_⟩
  · refine joinedFront.congr fun other member => outsideBack other fun inBack => ?_
    exact apart other member other inBack rfl
  · intro other outside
    simp only [addresses_append, List.mem_append, not_or] at outside
    rw [outsideBack other outside.2, outsideFront other outside.1]

theorem Linked.edit {front back : Chain A α} {address : A} {data : α}
    (linked : Linked store before (front ++ (address, data) :: back) after)
    (distinct : (addresses (front ++ (address, data) :: back)).Nodup) (value : α) :
    ∃ node, store address = some node ∧
      Linked (Function.update store address (some { node with data := value })) before
        (front ++ (address, value) :: back) after := by
  rw [addresses_append, addresses_cons, List.nodup_append, List.nodup_cons] at distinct
  obtain ⟨-, ⟨notInBack, -⟩, apart⟩ := distinct
  obtain ⟨linkedFront, here, linkedBack⟩ := (linked_append ..).mp linked
  have notInFront : address ∉ addresses front := fun member => apart _ member _ (by simp) rfl
  refine ⟨_, here, (linked_append ..).mpr ⟨linkedFront.update _ notInFront, ?_, linkedBack.update _ notInBack⟩⟩
  exact Function.update_self ..

end Relinking

/-! Walks along a chain. -/

/-- So many steps in one direction, or to the end. -/
def walk (store : A → Option (Node A α)) (forward : Bool) : Nat → Option A → Option (Option A)
  | 0, place => some place
  | _ + 1, none => some none
  | steps + 1, some address => (store address).bind fun node =>
      walk store forward steps (if forward then node.next else node.prev)

def seek (store : A → Option (Node A α)) (test : α → Bool) : Nat → Option A → Option (Option A)
  | 0, _ => none
  | _ + 1, none => some none
  | fuel + 1, some address => (store address).bind fun node =>
      if test node.data then some (some address) else seek store test fuel node.next

omit [DecidableEq A] in
theorem Linked.walk_forward {store : A → Option (Node A α)} {before : Option A} {items : Chain A α}
    (linked : Linked store before items none) (steps : Nat) :
    walk store true steps (firstOr none items) = some (firstOr none (items.drop steps)) := by
  induction items generalizing before steps with
  | nil => cases steps <;> rfl
  | cons item items ih =>
      obtain ⟨here, later⟩ := linked
      cases steps with
      | zero => rfl
      | succ steps => simp [walk, here, ih later]

omit [DecidableEq A] in
theorem Linked.walk_backward {store : A → Option (Node A α)} {after : Option A} {items : Chain A α}
    (linked : Linked store none items after) (steps : Nat) :
    walk store false steps (lastOr none items) =
      some (lastOr none (items.take (items.length - steps))) := by
  induction steps generalizing items after with
  | zero => simp [walk]
  | succ steps ih =>
      rcases List.eq_nil_or_concat items with rfl | ⟨front, item, rfl⟩
      · simp [walk]
      · rw [List.concat_eq_append] at *
        obtain ⟨linkedFront, here, -⟩ := (linked_append ..).mp linked
        simp only [lastOr_snoc, walk, here, Option.bind_some, Bool.false_eq_true, if_false, ih linkedFront]
        simp [List.take_append]

omit [DecidableEq A] in
theorem Linked.seek {store : A → Option (Node A α)} {before : Option A} {items : Chain A α}
    (linked : Linked store before items none) (test : α → Bool) {fuel : Nat}
    (enough : items.length < fuel) :
    seek store test fuel (firstOr none items) =
      some (firstOr none (items.dropWhile fun item => !test item.2)) := by
  induction items generalizing before fuel with
  | nil =>
      obtain ⟨fuel, rfl⟩ := Nat.exists_eq_succ_of_ne_zero (Nat.ne_of_gt enough)
      rfl
  | cons item items ih =>
      obtain ⟨here, later⟩ := linked
      obtain ⟨fuel, rfl⟩ := Nat.exists_eq_succ_of_ne_zero (Nat.ne_of_gt (Nat.zero_lt_of_lt enough))
      simp only [firstOr_cons, DoublyLinked.seek, here, Option.bind_some, List.dropWhile_cons]
      cases test item.2 with
      | true => rfl
      | false => simpa using ih later (Nat.lt_of_succ_lt_succ enough)

end DoublyLinked
