import SpeFramework.NoOs.ListRuns

/-!
Every run of calls that may be made agrees with the same calls on a plain list.
-/

namespace SpeFramework.NoOs

open DoublyLinked Runs

variable {α : Type}

section Calls

variable (comparator : α → α → Int) {s : ListState α} {items : Chain Nat α} {index : Nat} {item : Nat × α}

theorem plainGet_beyond (beyond : items[index]? = none) : plainGet index items = (.failed, items) := by
  have outside := List.getElem?_eq_none_iff.mp beyond
  rw [plainGet, plainRead, beyond, List.eraseIdx_of_length_le outside]

theorem getAt_yields (rep : Represents s items) {place : Place α} (defined : place.Defined) :
    Yields (getAt comparator place s) s (plainGet (place.index comparator items) items) := by
  cases place with
  | first =>
      cases items with
      | nil => exact ⟨s, (get_fails rep).1, rep, rfl⟩
      | cons item items => exact getFirst_yields rep
  | last =>
      rcases List.eq_nil_or_concat items with rfl | ⟨front, item, rfl⟩
      · exact ⟨s, (get_fails rep).2, rep, rfl⟩
      · rw [List.concat_eq_append] at *
        have got : plainGet (front ++ [item]).length.pred (front ++ [item]) = (⟨0, some item.2⟩, front) := by
          simp [plainGet, plainRead, List.eraseIdx_append_of_length_le]
        change Yields _ _ (plainGet (front ++ [item]).length.pred _)
        rw [got]
        exact getLast_yields rep
  | idx number =>
      refine moved_yields getAtIterator rep (moveFromFirst_lands rep defined) plainGet_beyond
        fun item here => ?_
      exact getAtIterator_yields rep here
  | find cmpData =>
      refine moved_yields getAtIterator rep
        (iteratorFind_lands comparator (rep.setItElem s.list.first) s.list.first cmpData) plainGet_beyond
        fun item here => ?_
      exact getAtIterator_yields rep here

end Calls

/-! What a call may be made with. -/

section Steps

variable (comparator : α → α → Int)

/-- The iterator stands at an element that is there, or at none. -/
def Session.AtElement (session : Session α) (elem : Option Nat) : Prop :=
  match elem with
  | none => True
  | some address => (session.state.elems address).isSome

/-- The iterator is live, and stands where `fits` holds. -/
def Session.Stands (session : Session α) (iter : Nat) (fits : Option Nat → Prop) : Prop :=
  ∃ elem ∈ session.iters.at iter, fits elem

def Session.Permits (session : Session α) : ListEvent α → Prop
  | .add place calloc _ => place.Defined ∧ Fresh calloc session.state
  | .edit place _ => place.Defined ∧ (place.AtEnd → session.state.list.nbElements ≠ 0)
  | .read _ => True
  | .get place => place.Defined
  | .iteratorInit calloc _ => ∀ iter ∈ calloc, session.iters.at iter = none
  | .iteratorRemove iter => session.Stands iter fun _ => True
  | .iteratorMove iter steps => steps ≠ Int32.minValue ∧ session.Stands iter session.AtElement
  | .iteratorMoveToIdx iter idx => idx ≠ Int32.minValue ∧ session.Stands iter fun _ => True
  | .iteratorFind iter _ => session.Stands iter fun _ => True
  | .iteratorEdit iter _ => session.Stands iter fun elem => elem ≠ none ∧ session.AtElement elem
  | .iteratorGet iter => session.Stands iter session.AtElement
  | .iteratorRead iter => session.Stands iter session.AtElement
  | .iteratorInsert iter calloc _ _ => Fresh calloc session.state ∧ session.Stands iter fun elem =>
      session.AtElement elem ∧ (elem = none → session.state.list.nbElements = 0)

instance {β : Type} : (place : Place β) → Decidable place.Defined
  | .idx number => inferInstanceAs (Decidable (number ≠ 2147483648))
  | .first => isTrue trivial
  | .last => isTrue trivial
  | .find _ => isTrue trivial

instance {β : Type} : (place : Place β) → Decidable place.AtEnd
  | .first => isTrue trivial
  | .last => isTrue trivial
  | .idx _ => isFalse id
  | .find _ => isFalse id

instance (calloc : Option Nat) (s : ListState α) : Decidable (Fresh calloc s) :=
  inferInstanceAs (Decidable (∀ address ∈ calloc, Placeable address ∧ s.elems address = none))

instance (session : Session α) : (elem : Option Nat) → Decidable (session.AtElement elem)
  | none => isTrue trivial
  | some address => inferInstanceAs (Decidable ((session.state.elems address).isSome = true))

instance (session : Session α) (iter : Nat) (fits : Option Nat → Prop) [DecidablePred fits] :
    Decidable (session.Stands iter fits) :=
  inferInstanceAs (Decidable (∃ elem ∈ session.iters.at iter, fits elem))

instance (session : Session α) : (event : ListEvent α) → Decidable (session.Permits event)
  | .add _ _ _ => inferInstanceAs (Decidable (_ ∧ _))
  | .edit _ _ => inferInstanceAs (Decidable (_ ∧ (_ → _)))
  | .read _ => isTrue trivial
  | .get place => inferInstanceAs (Decidable place.Defined)
  | .iteratorInit _ _ => inferInstanceAs (Decidable (∀ iter ∈ _, _))
  | .iteratorRemove _ => inferInstanceAs (Decidable (session.Stands _ _))
  | .iteratorMove _ _ => inferInstanceAs (Decidable (_ ∧ _))
  | .iteratorMoveToIdx _ _ => inferInstanceAs (Decidable (_ ∧ _))
  | .iteratorFind _ _ => inferInstanceAs (Decidable (session.Stands _ _))
  | .iteratorEdit _ _ => inferInstanceAs (Decidable (session.Stands _ _))
  | .iteratorGet _ => inferInstanceAs (Decidable (session.Stands _ _))
  | .iteratorRead _ => inferInstanceAs (Decidable (session.Stands _ _))
  | .iteratorInsert _ _ _ _ => inferInstanceAs (Decidable (_ ∧ _))

variable {comparator} {session : Session α} {plain : Items α}

structure Agrees (session : Session α) (plain : Items α) : Prop where
  rep : Represents session.state plain.items
  iters : session.iters = plain.iters
  answers : session.answers = plain.answers
  live : session.state.list.nbIterators = UInt32.ofNat plain.iters.length

theorem item_of_present {s : ListState α} {items : Chain Nat α} (rep : Represents s items) {address : Nat}
    (present : (s.elems address).isSome) :
    ∃ item, items[(addresses items).idxOf address]? = some item ∧ item.1 = address := by
  have member : address ∈ addresses items := by
    by_contra outside
    simp [rep.nothingElse address outside] at present
  have found : (addresses items)[(addresses items).idxOf address]? = some address :=
    List.getElem?_idxOf member
  rw [address_at] at found
  exact Option.map_eq_some_iff.mp found

theorem Session.Stands.live {iter : Nat} {fits : Option Nat → Prop} (stands : session.Stands iter fits) :
    ∃ elem, session.iters.at iter = some elem ∧ fits elem := stands

variable (comparator) in
theorem iteratorCall_yields (agrees : Agrees session plain) {event : ListEvent α} {iter : Nat}
    (isCall : event.iterator = some iter) (permits : session.Permits event) :
    ∃ elem after, session.iters.at iter = some elem ∧
      iteratorCall comparator event elem session.state =
        some ((plainIteratorCall comparator event elem plain.items).1,
          (plainIteratorCall comparator event elem plain.items).2.1, after) ∧
      Represents after (plainIteratorCall comparator event elem plain.items).2.2 ∧
      after.list.nbIterators = session.state.list.nbIterators := by
  have rep := agrees.rep
  cases event with
  | add => cases isCall
  | edit => cases isCall
  | read => cases isCall
  | get => cases isCall
  | iteratorInit => cases isCall
  | iteratorRemove => cases isCall
  | iteratorMove iter steps =>
      obtain rfl := Option.some.inj isCall
      obtain ⟨notLeast, stands⟩ := permits
      obtain ⟨elem, live, atElement⟩ := stands.live
      refine ⟨elem, session.state, live, ?_, rep, rfl⟩
      cases elem with
      | none => simp [iteratorCall, iteratorMove_none notLeast, plainIteratorCall, landed]
      | some address =>
          obtain ⟨item, here, rfl⟩ := item_of_present rep atElement
          have split := (split_at here).1
          have moved := iteratorMove_lands (split.symm ▸ rep) notLeast
          rw [split, List.length_take_of_le (Nat.le_of_lt (inside_at here))] at moved
          simp [iteratorCall, moved, plainIteratorCall, indexOf]
  | iteratorMoveToIdx iter idx =>
      obtain rfl := Option.some.inj isCall
      obtain ⟨notLeast, stands⟩ := permits
      obtain ⟨elem, live, -⟩ := stands.live
      refine ⟨elem, session.state, live, ?_, rep, rfl⟩
      simp [iteratorCall, iteratorMoveToIdx_lands rep notLeast, plainIteratorCall]
  | iteratorFind iter cmpData =>
      obtain rfl := Option.some.inj isCall
      obtain ⟨elem, live, -⟩ := Session.Stands.live permits
      refine ⟨elem, session.state, live, ?_, rep, rfl⟩
      simp [iteratorCall, iteratorFind_lands comparator rep, plainIteratorCall, Place.index]
  | iteratorEdit iter newData =>
      obtain rfl := Option.some.inj isCall
      obtain ⟨elem, live, notNull, atElement⟩ := Session.Stands.live permits
      obtain ⟨address, rfl⟩ := Option.ne_none_iff_exists'.mp notNull
      obtain ⟨item, here, rfl⟩ := item_of_present rep atElement
      obtain ⟨after, edited, kept⟩ := edit_at rep here newData
      exact ⟨_, after, live, by simp [iteratorCall, edited, plainIteratorCall, indexOf], kept⟩
  | iteratorGet iter =>
      obtain rfl := Option.some.inj isCall
      obtain ⟨elem, live, atElement⟩ := Session.Stands.live permits
      refine ⟨elem, ?_⟩
      cases elem with
      | none =>
          have beyond : plain.items[plain.items.length]? = none := by simp
          refine ⟨session.state, live, ?_, ?_, rfl⟩
          · simp [iteratorCall, noOsIteratorGet, plainIteratorCall, indexOf, plainGet_beyond beyond,
              address_at]
          · simpa [plainIteratorCall, indexOf, plainGet_beyond beyond] using rep
      | some address =>
          obtain ⟨item, here, rfl⟩ := item_of_present rep atElement
          obtain ⟨after, got, kept⟩ := get_at rep here
          exact ⟨after, live, got, kept⟩
  | iteratorRead iter =>
      obtain rfl := Option.some.inj isCall
      obtain ⟨elem, live, atElement⟩ := Session.Stands.live permits
      refine ⟨elem, session.state, live, ?_, rep, rfl⟩
      cases elem with
      | none => simp [iteratorCall, noOsIteratorRead, plainIteratorCall, indexOf, plainRead]
      | some address =>
          obtain ⟨item, here, rfl⟩ := item_of_present rep atElement
          simp [iteratorCall, read_at rep here, plainIteratorCall, indexOf]
  | iteratorInsert iter calloc data after =>
      obtain rfl := Option.some.inj isCall
      obtain ⟨fresh, stands⟩ := permits
      obtain ⟨elem, live, atElement, onEmpty⟩ := stands.live
      refine ⟨elem, ?_⟩
      cases elem with
      | none =>
          have empty : plain.items = [] := rep.count_eq_zero.mp (onEmpty rfl)
          rw [empty] at rep
          have inserted : Yields (noOsIteratorInsert none calloc data after session.state) session.state
              (added calloc data [] []) := by
            have first : none = session.state.list.first := rep.first.symm
            have last : none = session.state.list.last := rep.last.symm
            cases after with
            | true => simpa [noOsIteratorInsert, ← last] using addLast_yields rep fresh
            | false => simpa [noOsIteratorInsert, ← first] using addFirst_yields rep fresh
          obtain ⟨final, inserted, kept⟩ := inserted
          refine ⟨final, live, ?_, by simpa [plainIteratorCall, indexOf, empty, plainAdd] using kept⟩
          simp [iteratorCall, inserted, plainIteratorCall, indexOf, empty, plainAdd]
      | some address =>
          obtain ⟨item, here, rfl⟩ := item_of_present rep atElement
          have inserted : Yields (noOsIteratorInsert (some item.1) calloc data after session.state)
              session.state (plainAdd (if after then (addresses plain.items).idxOf item.1 + 1
                else (addresses plain.items).idxOf item.1) calloc data plain.items) := by
            cases after with
            | true => exact insertAfter_at rep here fresh
            | false => exact insertBefore_at rep here fresh
          obtain ⟨final, inserted, kept⟩ := inserted
          refine ⟨final, live, ?_, by simpa [plainIteratorCall, indexOf] using kept⟩
          simp [iteratorCall, inserted, plainIteratorCall, indexOf]

theorem length_delete {iters : Iterators} {iter : Nat} {elem : Option Nat} (live : iters.at iter = some elem) :
    (iters.delete iter).length + 1 = iters.length := by
  obtain ⟨entry, found, -⟩ := Option.map_eq_some_iff.mp live
  have member := List.mem_of_find?_eq_some found
  have same := List.find?_some found
  have positive := List.length_pos_of_mem member
  rw [Iterators.delete, List.length_eraseP_of_mem member same]
  omega

theorem Agrees.answered (agrees : Agrees session plain) {result : Option (Answer α × ListState α)}
    {answered : Answer α × Chain Nat α} (yields : Yields result session.state answered) :
    ∃ next, result.map (session.answer · session.iters) = some next ∧
      Agrees next (plain.answer answered plain.iters) := by
  obtain ⟨after, rfl, represents, live⟩ := yields
  exact ⟨_, rfl, represents, agrees.iters, congrArg (· ++ [answered.1]) agrees.answers,
    live.trans agrees.live⟩

theorem Agrees.iteratorStep (agrees : Agrees session plain) {event : ListEvent α} {iter : Nat}
    (isCall : event.iterator = some iter) (permits : session.Permits event)
    (code : call comparator event session = (session.iters.at iter).bind fun elem =>
      (iteratorCall comparator event elem session.state).bind fun result =>
        some (session.answer (result.1, result.2.2) (session.iters.set iter result.2.1)))
    (plainly : plainCall comparator event plain = match plain.iters.at iter with
      | none => plain
      | some elem =>
          let result := plainIteratorCall comparator event elem plain.items
          plain.answer (result.1, result.2.2) (plain.iters.set iter result.2.1)) :
    ∃ next, call comparator event session = some next ∧
      Agrees next (plainCall comparator event plain) := by
  obtain ⟨elem, after, live, returned, represents, iterators⟩ :=
    iteratorCall_yields comparator agrees isCall permits
  refine ⟨_, by rw [code, live, Option.bind_some, returned, Option.bind_some], ?_⟩
  rw [plainly, ← agrees.iters, live]
  refine ⟨represents, rfl, congrArg (· ++ [_]) agrees.answers, ?_⟩
  simp [Session.answer, Items.answer, Iterators.set, iterators, agrees.live, agrees.iters]

/-- One call: it returns, and does what its plain one does. -/
theorem Agrees.step (agrees : Agrees session plain) {event : ListEvent α}
    (permits : session.Permits event) :
    ∃ next, call comparator event session = some next ∧ Agrees next (plainCall comparator event plain) := by
  have rep := agrees.rep
  cases event with
  | add place calloc data => exact agrees.answered (addAt_yields comparator rep permits.1 permits.2 data)
  | edit place newData => exact agrees.answered (editAt_yields comparator rep permits.1 permits.2 newData)
  | read place => exact agrees.answered (readAt_yields comparator rep place)
  | get place => exact agrees.answered (getAt_yields comparator rep permits)
  | iteratorInit calloc start =>
      cases calloc with
      | none =>
          have failed : Yields (some (.failed, session.state)) session.state (.failed, plain.items) :=
            ⟨_, rfl, rep, rfl⟩
          exact agrees.answered failed
      | some iter =>
          refine ⟨_, rfl, ⟨rep.linked, rep.distinct, rep.nothingElse, rep.first, rep.last, rep.count,
            rep.placed⟩, ?_, ?_, ?_⟩
          · simp [Session.answer, plainCall, Items.answer, rep.first, rep.last, agrees.iters]
          · exact congrArg (· ++ [.done]) agrees.answers
          · simp [Session.answer, plainCall, Items.answer, agrees.live]
  | iteratorRemove iter =>
      obtain ⟨elem, live, -⟩ := Session.Stands.live permits
      have fewer := length_delete (agrees.iters ▸ live)
      refine ⟨_, rfl, ⟨rep.linked, rep.distinct, rep.nothingElse, rep.first, rep.last, rep.count,
        rep.placed⟩, ?_, ?_, ?_⟩
      · exact congrArg (Iterators.delete iter) agrees.iters
      · exact congrArg (· ++ [.done]) agrees.answers
      · simp [noOsIteratorRemove, Session.answer, plainCall, Items.answer, agrees.live, ← fewer]
  | iteratorMove => exact agrees.iteratorStep rfl permits rfl rfl
  | iteratorMoveToIdx => exact agrees.iteratorStep rfl permits rfl rfl
  | iteratorFind => exact agrees.iteratorStep rfl permits rfl rfl
  | iteratorEdit => exact agrees.iteratorStep rfl permits rfl rfl
  | iteratorGet => exact agrees.iteratorStep rfl permits rfl rfl
  | iteratorRead => exact agrees.iteratorStep rfl permits rfl rfl
  | iteratorInsert => exact agrees.iteratorStep rfl permits rfl rfl

/-- Calls that may be made; on a list that is gone, none may. -/
def Permitted (session : Option (Session α)) (event : ListEvent α) : Prop :=
  ∀ live ∈ session, live.Permits event

instance (session : Option (Session α)) (event : ListEvent α) : Decidable (Permitted session event) :=
  inferInstanceAs (Decidable (∀ live ∈ session, live.Permits event))

abbrev plainRun (comparator : α → α → Int) (events : List (ListEvent α)) : Items α :=
  events.foldl (fun plain event => plainCall comparator event plain) Items.empty

theorem Agrees.run {events : List (ListEvent α)} (agrees : Agrees session plain)
    (permitted : Throughout (listStep comparator) Permitted (some session) events) :
    ∃ final, events.foldl (listStep comparator) (some session) = some final ∧
      Agrees final (events.foldl (fun plain event => plainCall comparator event plain) plain) := by
  induction events generalizing session plain with
  | nil => exact ⟨session, rfl, agrees⟩
  | cons event events ih =>
      obtain ⟨here, later⟩ := permitted
      obtain ⟨next, returned, nextAgrees⟩ := agrees.step (here session rfl)
      have stepped : listStep comparator (some session) event = some next := returned
      rw [stepped] at later
      rw [List.foldl_cons, List.foldl_cons, stepped]
      exact ih nextAgrees later

theorem empty_agrees : Agrees (Session.empty : Session α) Items.empty where
  rep := ⟨trivial, List.nodup_nil, fun _ _ => rfl, rfl, rfl, rfl, fun _ member => by cases member⟩
  iters := rfl
  answers := rfl
  live := rfl

/-- A list and its iterators, whatever is called on them, are a plain list with places in it:
every call returns, answers as there, and the elements in the store are the list's own. -/
theorem listRun_refines {events : List (ListEvent α)}
    (permitted : Throughout (listStep comparator) Permitted (some Session.empty) events) :
    ∃ session, events.foldl (listStep comparator) (some Session.empty) = some session ∧
      Agrees session (plainRun comparator events) :=
  empty_agrees.run permitted

def priorityEvents : List (ListEvent Int) :=
  [.add (.find ()) (some 8) 5, .add (.find ()) (some 16) 3, .iteratorInit (some 64) true, .iteratorMove 64 1,
    .iteratorGet 64, .get .first]

theorem listRun_refines_priority :
    ∃ session, priorityEvents.foldl (listStep fun one other => one - other) (some Session.empty) = some session ∧
      Agrees session (plainRun (fun one other => one - other) priorityEvents) :=
  listRun_refines (by decide)

/-! The end of a list. -/

theorem getAll_frees {fuel : Nat} {s : ListState α} {items : Chain Nat α} (rep : Represents s items)
    (enough : items.length < fuel) :
    ∃ after, getAll fuel s = some after ∧ ∀ address, after.elems address = none := by
  induction items generalizing s fuel with
  | nil =>
      obtain ⟨fuel, rfl⟩ := Nat.exists_eq_succ_of_ne_zero (Nat.ne_of_gt enough)
      refine ⟨s, ?_, fun address => rep.nothingElse address (by simp)⟩
      simp [getAll, (get_fails rep).1, Answer.failed]
  | cons item items ih =>
      obtain ⟨fuel, rfl⟩ := Nat.exists_eq_succ_of_ne_zero (Nat.ne_of_gt (Nat.zero_lt_of_lt enough))
      obtain ⟨next, got, nextRep, -⟩ := getFirst_yields rep
      obtain ⟨after, drained, freed⟩ := ih nextRep (Nat.lt_of_succ_lt_succ enough)
      exact ⟨after, by simp [getAll, got, drained], freed⟩

/-- After any run the list goes with all its elements, unless an iterator is left. -/
theorem listRun_remove {events : List (ListEvent α)}
    (permitted : Throughout (listStep comparator) Permitted (some Session.empty) events) :
    ∃ session, events.foldl (listStep comparator) (some Session.empty) = some session ∧
      (session.iters = [] → ∃ after, noOsListRemove session.state = some (0, after) ∧
        ∀ address, after.elems address = none) ∧
      (session.iters ≠ [] → session.iters.length < UInt32.size →
        noOsListRemove session.state = some (-1, session.state)) := by
  obtain ⟨session, reached, agrees⟩ := empty_agrees.run permitted
  refine ⟨session, reached, fun none => ?_, fun some small => ?_⟩
  · have unused : session.state.list.nbIterators = 0 := by
      rw [agrees.live, ← agrees.iters, none]
      rfl
    have enough : (plainRun comparator events).items.length < loopFuel :=
      Nat.lt_of_le_of_lt agrees.rep.length_le (by decide)
    obtain ⟨after, drained, freed⟩ := getAll_frees agrees.rep enough
    exact ⟨after, by simp [noOsListRemove, unused, drained], freed⟩
  · have used : session.state.list.nbIterators ≠ 0 := by
      rw [agrees.live, ← agrees.iters, ne_eq, ← UInt32.toNat_inj, UInt32.toNat_ofNat_of_lt' small]
      simpa using some
    exact if_pos used

/-- Two elements are left when the list goes. -/
def crowdedEvents : List (ListEvent Int) :=
  priorityEvents ++ [.add (.find ()) (some 24) 9, .add (.find ()) (some 32) 7, .iteratorRemove 64]

theorem listRun_remove_priority :
    ∃ session, crowdedEvents.foldl (listStep fun one other => one - other) (some Session.empty) = some session ∧
      (session.iters = [] → ∃ after, noOsListRemove session.state = some (0, after) ∧
        ∀ address, after.elems address = none) ∧
      (session.iters ≠ [] → session.iters.length < UInt32.size →
        noOsListRemove session.state = some (-1, session.state)) :=
  listRun_remove (by decide)

end Steps

end SpeFramework.NoOs
