import Mathlib.Data.List.Find
import SpeFramework.NoOs.Adapters

/-!
`stm32_gpio_irq.c`, over the list that the last `stm32_gpio_irq_ctrl_init` of a new line leaves.
An action that was freed holds its last bytes until some task stores there.
-/

namespace SpeFramework.NoOs

structure IrqAction where
  irqId : UInt32
  callback : Option Nat
  ctx : Nat
  deriving DecidableEq, Repr

/-- What the list and the comparator are handed: an action from `no_os_calloc`, or a key on the
stack, of which only `irq_id` is set. -/
inductive ActionPointer
  | allocated (address : Nat)
  | key (irqId : UInt32)
  deriving DecidableEq, Repr

structure IrqState where
  actions : ListState ActionPointer
  memory : Nat → IrqAction
  allocated : Nat → Bool

def ActionPointer.irqId (memory : Nat → IrqAction) : ActionPointer → UInt32
  | .allocated address => (memory address).irqId
  | .key irqId => irqId

def irqActionCmp (memory : Nat → IrqAction) (data1 data2 : ActionPointer) : Int :=
  (data1.irqId memory - data2.irqId memory).toInt32.toInt

def findFirstSetBitFrom : Nat → UInt32 → UInt32 → UInt32
  | 0, _, _ => 32
  | fuel + 1, firstSetBit, word =>
      if word = 0 then 32
      else if word &&& 1 ≠ 0 then firstSetBit
      else findFirstSetBitFrom fuel (firstSetBit + 1) (word >>> 1)

def noOsFindFirstSetBit (word : UInt32) : UInt32 := findFirstSetBitFrom 32 0 word

namespace IrqState

def store (address : Nat) (action : IrqAction) (s : IrqState) : IrqState :=
  { s with memory := Function.update s.memory address action }

def setAllocated (address : Nat) (allocated : Bool) (s : IrqState) : IrqState :=
  { s with allocated := Function.update s.allocated address allocated }

def setActions (actions : ListState ActionPointer) (s : IrqState) : IrqState := { s with actions := actions }

variable (s : IrqState) (address : Nat) (action : IrqAction) (allocated : Bool)
variable (list : ListState ActionPointer)

@[simp] theorem store_memory : (s.store address action).memory = Function.update s.memory address action := rfl
@[simp] theorem setAllocated_memory : (s.setAllocated address allocated).memory = s.memory := rfl
@[simp] theorem setActions_memory : (s.setActions list).memory = s.memory := rfl

def readFind (irqId : UInt32) (s : IrqState) : Option (Answer ActionPointer × IrqState) :=
  (noOsListReadFind (irqActionCmp s.memory) (.key irqId) s.actions).map fun (answer, actions) =>
    (answer, s.setActions actions)

end IrqState

def einval : Int := 22
def enomem : Int := 12
def enodev : Int := 19
def efault : Int := 14

/-- The bound of `IS_EXTI_GPIO_PIN`. -/
def extiGpioPins : UInt32 := 16

/-- What an interrupt calls: the callback and its argument. -/
def stm32HandleGenericCallback (pin : UInt16) (s : IrqState) : Option (Option (Nat × Nat) × IrqState) := do
  let (answer, s) ← s.readFind (noOsFindFirstSetBit pin.toUInt32)
  if answer.ret ≠ 0 then return (none, s)
  else
    match answer.data with
    | some (.allocated address) =>
        return ((s.memory address).callback.map (·, (s.memory address).ctx), s)
    | _ => none

/-- `HAL_EXTI_SetConfigLine`, and `free_action` when it fails. -/
def configLine (setConfigLine : Bool) (address : Nat) (s : IrqState) : Int × IrqState :=
  if setConfigLine then (0, s) else (-efault, s.setAllocated address false)

def stm32GpioIrqRegisterCallback (callocAction callocElem : Option Nat) (setConfigLine : Bool)
    (action : IrqAction) (s : IrqState) : Option (Int × IrqState) :=
  if extiGpioPins ≤ action.irqId then some (-einval, s)
  else do
    let (answer, s) ← s.readFind action.irqId
    if answer.ret ≠ 0 then
      match callocAction with
      | none => return (-enomem, s)
      | some address => do
          let s := (s.setAllocated address true).store address action
          let (answer, actions) ← noOsListAddLast callocElem (.allocated address) s.actions
          let s := s.setActions actions
          if answer.ret ≠ 0 then return (answer.ret, s.setAllocated address false)
          else return configLine setConfigLine address s
    else
      match answer.data with
      | some (.allocated address) => return configLine setConfigLine address (s.store address action)
      | _ => none

def stm32GpioIrqUnregisterCallback (irqId : UInt32) (s : IrqState) : Option (Int × IrqState) :=
  if extiGpioPins ≤ irqId then some (-einval, s)
  else do
    let (answer, s) ← s.readFind irqId
    if answer.ret ≠ 0 then return (-enodev, s)
    else
      match answer.data with
      | some (.allocated address) => return (0, s.setAllocated address false)
      | _ => none

inductive IrqEvent
  | registerCallback (callocAction callocElem : Option Nat) (setConfigLine : Bool) (action : IrqAction)
  | unregisterCallback (irqId : UInt32)
  | interrupt (pin : UInt16)
  | store (address : Nat) (action : IrqAction)
  deriving Repr

inductive IrqAnswer
  | returned (ret : Int)
  | called (handler : Option (Nat × Nat))
  | stored
  deriving DecidableEq, Repr

def irqCall (event : IrqEvent) (s : IrqState) : Option (IrqAnswer × IrqState) :=
  match event with
  | .registerCallback callocAction callocElem setConfigLine action =>
      (stm32GpioIrqRegisterCallback callocAction callocElem setConfigLine action s).map
        fun (ret, s) => (.returned ret, s)
  | .unregisterCallback irqId =>
      (stm32GpioIrqUnregisterCallback irqId s).map fun (ret, s) => (.returned ret, s)
  | .interrupt pin => (stm32HandleGenericCallback pin s).map fun (handler, s) => (.called handler, s)
  | .store address action => some (.stored, s.store address action)

def irqRun : List IrqEvent → IrqState → Option (List IrqAnswer × IrqState)
  | [], s => some ([], s)
  | event :: events, s => do
      let (answer, s) ← irqCall event s
      let (answers, s) ← irqRun events s
      return (answer :: answers, s)

/-! The table the list is for. -/

abbrev HandlerTable := UInt32 → Option IrqAction

def IrqAction.handler (action : IrqAction) : Option (Nat × Nat) := action.callback.map (·, action.ctx)

def tableCall (event : IrqEvent) (table : HandlerTable) : IrqAnswer × HandlerTable :=
  match event with
  | .registerCallback callocAction callocElem _ action =>
      if extiGpioPins ≤ action.irqId then (.returned (-einval), table)
      else if (table action.irqId).isSome ∨ callocAction.isSome ∧ callocElem.isSome then
        (.returned 0, Function.update table action.irqId (some action))
      else (.returned (if callocAction = none then -enomem else -1), table)
  | .unregisterCallback irqId =>
      (.returned (if extiGpioPins ≤ irqId then -einval else -enodev), table)
  | .interrupt pin => (.called ((table (noOsFindFirstSetBit pin.toUInt32)).bind IrqAction.handler), table)
  | .store _ _ => (.stored, table)

def tableRun : List IrqEvent → HandlerTable → List IrqAnswer × HandlerTable
  | [], table => ([], table)
  | event :: events, table =>
      let (answer, table) := tableCall event table
      let (answers, table) := tableRun events table
      (answer :: answers, table)

/-- The list holds these actions, all allocated, one for each line at most. -/
structure Registered (s : IrqState) (actions : List Nat) : Prop where
  contains : Contains s.actions (actions.map .allocated)
  allocated : ∀ address ∈ actions, s.allocated address = true
  distinct : (actions.map fun address => (s.memory address).irqId).Nodup

def tableOf (memory : Nat → IrqAction) (actions : List Nat) : HandlerTable := fun irqId =>
  (actions.find? fun address => (memory address).irqId = irqId).map memory

variable {s : IrqState} {actions : List Nat} {memory : Nat → IrqAction}

theorem cmp_eq_zero (data1 data2 : ActionPointer) :
    irqActionCmp memory data1 data2 = 0 ↔ data1.irqId memory = data2.irqId memory := by
  rw [irqActionCmp, ← Int32.toInt_zero, Int32.toInt_inj]
  constructor
  · intro same
    have difference : data1.irqId memory - data2.irqId memory = 0 :=
      (UInt32.toUInt32_toInt32 _).symm.trans (congrArg Int32.toUInt32 same)
    grind
  · intro same
    rw [same, UInt32.sub_self]
    rfl

theorem cmp_finds (address : Nat) (irqId : UInt32) :
    (irqActionCmp memory (.allocated address) (.key irqId) == 0) = decide ((memory address).irqId = irqId) := by
  rw [Bool.eq_iff_iff, beq_iff_eq, decide_eq_true_iff, cmp_eq_zero]
  rfl

theorem readFind_finds (contains : Contains s.actions (actions.map .allocated)) (irqId : UInt32) :
    ∃ list, s.readFind irqId = some (.read ((actions.find? fun address =>
        (s.memory address).irqId = irqId).map .allocated), s.setActions list) ∧
      Contains list (actions.map .allocated) ∧ ∀ calloc, Fresh calloc s.actions → Fresh calloc list := by
  obtain ⟨items, rep, holds⟩ := contains
  obtain ⟨list, read, after, -⟩ := readAt_yields (irqActionCmp s.memory) rep (.find (.key irqId))
  have found : (actions.map ActionPointer.allocated).find?
      (fun pointer => irqActionCmp s.memory pointer (.key irqId) == 0) =
        (actions.find? fun address => (s.memory address).irqId = irqId).map .allocated := by
    simp only [List.find?_map, Function.comp_def, cmp_finds]
  have atFound : (actions.map ActionPointer.allocated)[(Place.find (.key irqId)).index
      (irqActionCmp s.memory) items]? = (actions.find? fun address =>
        (s.memory address).irqId = irqId).map .allocated := by
    rw [← found, List.find?_eq_getElem?_findIdx, ← holds, List.findIdx_map]
    rfl
  rw [plainRead_read, holds, atFound] at read
  refine ⟨list, ?_, ⟨items, after, holds⟩,
    fun calloc fresh address new => ⟨(fresh address new).1, after.nothingElse address fun member => ?_⟩⟩
  · change (readAt (irqActionCmp s.memory) (.find (.key irqId)) s.actions).map _ = _
    rw [read]
    rfl
  · simpa [(fresh address new).2] using rep.linked.allocated member

theorem Registered.setActions (registered : Registered s actions) {list : ListState ActionPointer}
    (contains : Contains list (actions.map .allocated)) : Registered (s.setActions list) actions :=
  ⟨contains, registered.allocated, registered.distinct⟩

theorem irqId_of_found {irqId : UInt32} {address : Nat}
    (found : (actions.find? fun address => (memory address).irqId = irqId) = some address) :
    address ∈ actions ∧ (memory address).irqId = irqId :=
  ⟨List.mem_of_find?_eq_some found, by simpa using List.find?_some found⟩

theorem irqId_update {action : IrqAction} {address : Nat} (sameId : action.irqId = (memory address).irqId)
    (other : Nat) : (Function.update memory address action other).irqId = (memory other).irqId := by
  by_cases here : other = address
  · simp [here, sameId]
  · simp [here]

theorem Registered.store_found (registered : Registered s actions) {action : IrqAction} {address : Nat}
    (found : (actions.find? fun address => (s.memory address).irqId = action.irqId) = some address) :
    Registered (s.store address action) actions ∧
      tableOf (s.store address action).memory actions =
        Function.update (tableOf s.memory actions) action.irqId (some action) := by
  obtain ⟨member, sameId⟩ := irqId_of_found found
  have irqIds := irqId_update sameId.symm
  refine ⟨⟨registered.contains, registered.allocated, by simpa [irqIds] using registered.distinct⟩, ?_⟩
  funext irqId
  simp only [tableOf, IrqState.store_memory, irqIds]
  by_cases here : irqId = action.irqId
  · subst here
    simp [found]
  · rw [Function.update_of_ne here, tableOf]
    cases other : actions.find? fun address => (s.memory address).irqId = irqId with
    | none => rfl
    | some elsewhere =>
        have apart : elsewhere ≠ address := by
          rintro rfl
          exact here ((irqId_of_found other).2.symm.trans sameId)
        simp [apart]

theorem Registered.apart (registered : Registered s actions) {address : Nat}
    (unused : s.allocated address = false) : ∀ other ∈ actions, other ≠ address := by
  rintro other member rfl
  simp [registered.allocated other member] at unused

/-- Stores into memory that no action lies in. -/
theorem Registered.memory_congr (registered : Registered s actions) {next : IrqState}
    (list : next.actions = s.actions)
    (same : ∀ address ∈ actions, next.memory address = s.memory address ∧
      next.allocated address = s.allocated address) :
    Registered next actions ∧ tableOf next.memory actions = tableOf s.memory actions := by
  refine ⟨⟨list ▸ registered.contains, fun address member => ?_, ?_⟩, ?_⟩
  · rw [(same address member).2, registered.allocated address member]
  · rw [List.map_congr_left fun address member => congrArg IrqAction.irqId (same address member).1]
    exact registered.distinct
  · funext irqId
    have found : (actions.find? fun address => (next.memory address).irqId = irqId) =
        actions.find? fun address => (s.memory address).irqId = irqId :=
      List.find?_congr fun address member => by rw [(same address member).1]
    rw [tableOf, tableOf, found]
    cases other : actions.find? fun address => (s.memory address).irqId = irqId with
    | none => rfl
    | some address => exact congrArg some (same address (List.mem_of_find?_eq_some other)).1

/-- A new action at the end of the list. -/
theorem Registered.append (registered : Registered s actions) {action : IrqAction} {address : Nat}
    (missing : (actions.find? fun address => (s.memory address).irqId = action.irqId) = none)
    (unused : s.allocated address = false) {list : ListState ActionPointer}
    (contains : Contains list ((actions ++ [address]).map .allocated)) :
    Registered (((s.setAllocated address true).store address action).setActions list) (actions ++ [address]) ∧
      tableOf (Function.update s.memory address action) (actions ++ [address]) =
        Function.update (tableOf s.memory actions) action.irqId (some action) := by
  have apart := registered.apart unused
  have kept : ∀ other ∈ actions, Function.update s.memory address action other = s.memory other :=
    fun other member => Function.update_of_ne (apart other member) _ _
  have irqIds : (actions.map fun other => (Function.update s.memory address action other).irqId) =
      actions.map fun other => (s.memory other).irqId :=
    List.map_congr_left fun other member => congrArg IrqAction.irqId (kept other member)
  refine ⟨⟨contains, fun other member => ?_, ?_⟩, ?_⟩
  · rcases List.mem_append.mp member with old | new
    · exact (Function.update_of_ne (apart other old) _ _).trans (registered.allocated other old)
    · rw [List.mem_singleton.mp new]
      exact Function.update_self _ _ _
  · change ((actions ++ [address]).map fun other =>
      (Function.update s.memory address action other).irqId).Nodup
    rw [List.map_append, irqIds, List.map_singleton, Function.update_self]
    refine List.Nodup.append registered.distinct (List.nodup_singleton _) ?_
    simpa using missing
  · funext irqId
    have sameFound : (actions.find? fun other => (Function.update s.memory address action other).irqId = irqId) =
        actions.find? fun other => (s.memory other).irqId = irqId :=
      List.find?_congr fun other member => by rw [kept other member]
    rw [tableOf, List.find?_append, sameFound]
    by_cases here : irqId = action.irqId
    · subst here
      simp [missing]
    · rw [Function.update_of_ne here, tableOf]
      cases other : actions.find? fun address => (s.memory address).irqId = irqId with
      | none => simp [Ne.symm here]
      | some elsewhere => simp [kept elsewhere (List.mem_of_find?_eq_some other)]

/-- Memory that is new, a line that can be configured, stores of others into memory that is not the
list's, and no callback that is unregistered. -/
def IrqEvent.Regular (event : IrqEvent) (s : IrqState) : Prop :=
  match event with
  | .registerCallback callocAction callocElem setConfigLine _ =>
      (∀ address ∈ callocAction, s.allocated address = false) ∧ Fresh callocElem s.actions ∧
        setConfigLine = true
  | .unregisterCallback irqId => ∀ result ∈ stm32GpioIrqUnregisterCallback irqId s, result.1 ≠ 0
  | .interrupt _ => True
  | .store address _ => s.allocated address = false

theorem addLast_appends {list : ListState ActionPointer} (contains : Contains list (actions.map .allocated))
    {elem : Nat} (fresh : Fresh (some elem) list) (address : Nat) :
    ∃ after, noOsListAddLast (some elem) (.allocated address) list = some (.done, after) ∧
      Contains after ((actions ++ [address]).map .allocated) := by
  have allowed : (AdapterEvent.push (some elem) (ActionPointer.allocated address)).Allowed list := fresh
  obtain ⟨after, added, holds⟩ := call_contained (fun _ _ => 0) .queue contains allowed
  exact ⟨after, added, by simpa [contain, AdapterType.insert] using holds⟩

/-- What a registration does beside the table. -/
def RegisterYields (s : IrqState) (actions : List Nat) (callocAction callocElem : Option Nat)
    (action : IrqAction) : Prop :=
  ∃ ret next after,
    stm32GpioIrqRegisterCallback callocAction callocElem true action s = some (ret, next) ∧
    Registered next after ∧
    (.returned ret, tableOf next.memory after) =
      tableCall (.registerCallback callocAction callocElem true action) (tableOf s.memory actions)

section Register

variable {callocAction callocElem : Option Nat} {action : IrqAction} {address : Nat}

theorem register_found (registered : Registered s actions) (inRange : ¬ extiGpioPins ≤ action.irqId)
    (found : (actions.find? fun address => (s.memory address).irqId = action.irqId) = some address) :
    RegisterYields s actions callocAction callocElem action := by
  obtain ⟨list, read, contains, -⟩ := readFind_finds registered.contains action.irqId
  obtain ⟨stored, table⟩ := (registered.setActions contains).store_found found
  have present : (tableOf s.memory actions action.irqId).isSome := by simp [tableOf, found]
  refine ⟨0, _, actions, ?_, stored, ?_⟩
  · simp [stm32GpioIrqRegisterCallback, inRange, read, found, Answer.read, configLine]
  · rw [tableCall, if_neg inRange, if_pos (.inl present), table]
    rfl

theorem register_unlisted (registered : Registered s actions) (inRange : ¬ extiGpioPins ≤ action.irqId)
    (missing : (actions.find? fun address => (s.memory address).irqId = action.irqId) = none)
    (unused : s.allocated address = false) :
    RegisterYields s actions (some address) none action := by
  obtain ⟨list, read, contains, -⟩ := readFind_finds registered.contains action.irqId
  have apart := registered.apart unused
  obtain ⟨untouched, table⟩ : Registered
      (((s.setActions list).store address action).setAllocated address false) actions ∧
        tableOf (Function.update s.memory address action) actions = tableOf s.memory actions :=
    (registered.setActions contains).memory_congr rfl fun other member => by
      simp [IrqState.store, IrqState.setActions, IrqState.setAllocated, apart other member]
  refine ⟨-1, _, actions, ?_, untouched, ?_⟩
  · simp [stm32GpioIrqRegisterCallback, inRange, read, missing, Answer.read, Answer.failed,
      noOsListAddLast, IrqState.store, IrqState.setActions, IrqState.setAllocated]
  · have absent : tableOf s.memory actions action.irqId = none := by simp [tableOf, missing]
    simpa [tableCall, inRange, absent] using table

theorem register_listed (registered : Registered s actions) (inRange : ¬ extiGpioPins ≤ action.irqId)
    (missing : (actions.find? fun address => (s.memory address).irqId = action.irqId) = none)
    (unused : s.allocated address = false) {elem : Nat} (fresh : Fresh (some elem) s.actions) :
    RegisterYields s actions (some address) (some elem) action := by
  obtain ⟨list, read, contains, stillFresh⟩ := readFind_finds registered.contains action.irqId
  obtain ⟨after, added, holds⟩ := addLast_appends contains (stillFresh _ fresh) address
  obtain ⟨appended, table⟩ := (registered.setActions contains).append missing unused holds
  refine ⟨0, _, actions ++ [address], ?_, appended, ?_⟩
  · simp [stm32GpioIrqRegisterCallback, inRange, read, missing, Answer.read, Answer.failed, Answer.done,
      added, IrqState.store, IrqState.setActions, IrqState.setAllocated, configLine]
  · simpa [tableCall, inRange] using table

theorem register_yields (registered : Registered s actions)
    (unused : ∀ address ∈ callocAction, s.allocated address = false)
    (fresh : Fresh callocElem s.actions) : RegisterYields s actions callocAction callocElem action := by
  by_cases beyond : extiGpioPins ≤ action.irqId
  · exact ⟨-einval, s, actions, if_pos beyond, registered, (if_pos beyond).symm⟩
  · cases found : actions.find? fun address => (s.memory address).irqId = action.irqId with
    | some address => exact register_found registered beyond found
    | none =>
        cases callocAction with
        | none =>
            have absent : tableOf s.memory actions action.irqId = none := by simp [tableOf, found]
            obtain ⟨list, read, contains, -⟩ := readFind_finds registered.contains action.irqId
            refine ⟨-enomem, _, actions, ?_, registered.setActions contains, ?_⟩
            · simp [stm32GpioIrqRegisterCallback, beyond, read, found, Answer.read, Answer.failed]
            · simp [tableCall, beyond, absent]
        | some address =>
            have new : s.allocated address = false := unused address rfl
            cases callocElem with
            | none => exact register_unlisted registered beyond found new
            | some elem => exact register_listed registered beyond found new fresh

end Register

theorem irqCall_yields (registered : Registered s actions) {event : IrqEvent} (regular : event.Regular s) :
    ∃ next after, irqCall event s = some ((tableCall event (tableOf s.memory actions)).1, next) ∧
      Registered next after ∧ tableOf next.memory after = (tableCall event (tableOf s.memory actions)).2 := by
  cases event with
  | registerCallback callocAction callocElem setConfigLine action =>
      obtain ⟨unused, fresh, rfl⟩ := regular
      obtain ⟨ret, next, after, returned, holds, answered⟩ := register_yields registered unused fresh
      refine ⟨next, after, ?_, holds, congrArg Prod.snd answered⟩
      rw [irqCall, returned, ← answered]
      rfl
  | unregisterCallback irqId =>
      rw [IrqEvent.Regular] at regular
      simp only [irqCall, tableCall, stm32GpioIrqUnregisterCallback] at regular ⊢
      by_cases beyond : extiGpioPins ≤ irqId
      · exact ⟨s, actions, by simp [beyond], registered, rfl⟩
      · obtain ⟨list, read, kept, -⟩ := readFind_finds registered.contains irqId
        refine ⟨s.setActions list, actions, ?_, registered.setActions kept, rfl⟩
        cases found : actions.find? fun address => (s.memory address).irqId = irqId with
        | none => simp [beyond, read, found, Answer.read, Answer.failed]
        | some address => simp [beyond, read, found, Answer.read] at regular
  | interrupt pin =>
      obtain ⟨list, read, kept, -⟩ := readFind_finds registered.contains (noOsFindFirstSetBit pin.toUInt32)
      refine ⟨s.setActions list, actions, ?_, registered.setActions kept, rfl⟩
      simp only [irqCall, tableCall, stm32HandleGenericCallback, read, tableOf]
      cases actions.find? fun address => (s.memory address).irqId = noOsFindFirstSetBit pin.toUInt32 with
      | none => simp [Answer.read, Answer.failed]
      | some address => simp [Answer.read, IrqAction.handler, IrqState.setActions]
  | store address action =>
      refine ⟨s.store address action, actions, rfl, registered.memory_congr rfl fun other member => ?_⟩
      exact ⟨Function.update_of_ne (registered.apart regular other member) _ _, rfl⟩

instance : (event : IrqEvent) → (s : IrqState) → Decidable (event.Regular s)
  | .registerCallback callocAction callocElem setConfigLine _, s =>
      inferInstanceAs (Decidable ((∀ address ∈ callocAction, s.allocated address = false) ∧
        Fresh callocElem s.actions ∧ setConfigLine = true))
  | .unregisterCallback irqId, s =>
      inferInstanceAs (Decidable (∀ result ∈ stm32GpioIrqUnregisterCallback irqId s, result.1 ≠ 0))
  | .interrupt _, _ => isTrue trivial
  | .store address _, s => inferInstanceAs (Decidable (s.allocated address = false))

def RegularRun : List IrqEvent → IrqState → Prop
  | [], _ => True
  | event :: events, s => event.Regular s ∧ ∀ result ∈ irqCall event s, RegularRun events result.2

instance decidableRegularRun : ∀ events s, Decidable (RegularRun events s)
  | [], _ => isTrue trivial
  | event :: events, s =>
      haveI := fun result : IrqAnswer × IrqState => decidableRegularRun events result.2
      inferInstanceAs (Decidable (event.Regular s ∧ ∀ result ∈ irqCall event s, RegularRun events result.2))

def IrqState.start (memory : Nat → IrqAction) : IrqState := ⟨.empty, memory, fun _ => false⟩

theorem start_registered (memory : Nat → IrqAction) :
    Registered (.start memory) [] ∧ tableOf memory [] = fun _ => none :=
  ⟨⟨empty_contains, by simp, List.nodup_nil⟩, rfl⟩

theorem irqRun_yields (registered : Registered s actions) {events : List IrqEvent}
    (regular : RegularRun events s) :
    ∃ next after, irqRun events s = some ((tableRun events (tableOf s.memory actions)).1, next) ∧
      Registered next after ∧ tableOf next.memory after = (tableRun events (tableOf s.memory actions)).2 := by
  induction events generalizing s actions with
  | nil => exact ⟨s, actions, rfl, registered, rfl⟩
  | cons event events ih =>
      obtain ⟨here, later⟩ := regular
      obtain ⟨next, after, called, nextRegistered, table⟩ := irqCall_yields registered here
      obtain ⟨final, afterAll, ran, finalRegistered, finalTable⟩ := ih nextRegistered (later _ called)
      rw [table] at ran finalTable
      exact ⟨final, afterAll, by simp [irqRun, called, ran, tableRun], finalRegistered, finalTable⟩

def buttonEvents : List IrqEvent :=
  [.registerCallback (some 32) (some 8) true ⟨3, some 100, 7⟩, .interrupt 8,
    .registerCallback (some 48) none true ⟨5, some 200, 1⟩, .unregisterCallback 5,
    .registerCallback none none true ⟨3, some 300, 9⟩, .store 64 ⟨3, none, 0⟩, .interrupt 8]

/-- What a freed action is found by, once its memory has another owner. -/
theorem find_stored (registered : Registered s actions) {irqId : UInt32} {address : Nat}
    (found : (actions.find? fun address => (s.memory address).irqId = irqId) = some address)
    (owner : IrqAction) :
    (actions.find? fun other => (Function.update s.memory address owner other).irqId = irqId) =
      if owner.irqId = irqId then some address else none := by
  obtain ⟨member, listed⟩ := irqId_of_found found
  by_cases same : owner.irqId = irqId
  · have irqIds := irqId_update (same.trans listed.symm)
    simpa only [irqIds, if_pos same] using found
  · rw [if_neg same, List.find?_eq_none]
    intro other otherMember
    by_cases here : other = address
    · simpa [here] using same
    · -- one action for each line
      have apart : (s.memory other).irqId ≠ irqId := fun equal =>
        here (List.inj_on_of_nodup_map registered.distinct otherMember member (equal.trans listed.symm))
      simpa [Function.update_of_ne here] using apart

theorem unregister_frees (registered : Registered s actions) {irqId : UInt32}
    (inRange : irqId < extiGpioPins) (present : tableOf s.memory actions irqId ≠ none) :
    ∃ address next, stm32GpioIrqUnregisterCallback irqId s = some (0, next) ∧
      next.allocated address = false ∧
      ∀ (pin : UInt16) (owner : IrqAction), noOsFindFirstSetBit pin.toUInt32 = irqId →
        ∃ after, stm32HandleGenericCallback pin (next.store address owner) =
          some (if owner.irqId = irqId then owner.handler else none, after) := by
  obtain ⟨list, read, contains, -⟩ := readFind_finds registered.contains irqId
  cases found : actions.find? fun address => (s.memory address).irqId = irqId with
  | none => simp [tableOf, found] at present
  | some address =>
      have notBeyond : ¬ extiGpioPins ≤ irqId := by grind
      refine ⟨address, (s.setActions list).setAllocated address false, ?_, Function.update_self _ _ _, ?_⟩
      · simp [stm32GpioIrqUnregisterCallback, notBeyond, read, found, Answer.read]
      · intro pin owner bit
        obtain ⟨later, readLater, -⟩ := readFind_finds
          (s := ((s.setActions list).setAllocated address false).store address owner) contains irqId
        have stored : (actions.find? fun other =>
            ((((s.setActions list).setAllocated address false).store address owner).memory other).irqId =
              irqId) = if owner.irqId = irqId then some address else none :=
          find_stored registered found owner
        rw [stored] at readLater
        refine ⟨(((s.setActions list).setAllocated address false).store address owner).setActions later, ?_⟩
        by_cases same : owner.irqId = irqId
        · simp [stm32HandleGenericCallback, bit, readLater, same, Answer.read, IrqAction.handler]
        · simp [stm32HandleGenericCallback, bit, readLater, same, Answer.read, Answer.failed]

end SpeFramework.NoOs
