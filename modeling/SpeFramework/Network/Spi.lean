import SpeFramework.Network.DriverCases

/-!
The SPI transfers under the driver: `stm32_spi.c` as far as `stm32_spi_transfer` reaches. The
HAL answers each start with a status, and a started transfer leaves its error code in the
handle by the time the handle is ready again.
-/

namespace SpeFramework.Network

open ByteOrder

inductive HalStatus
  | ok
  | error
  | busy
  | timeout
  deriving DecidableEq, Repr

abbrev eio : Int := 5
abbrev etimedout : Int := 116

structure NoOsSpiMsg where
  txBuff : Option Nat
  rxBuff : Option Nat
  bytesNumber : UInt32
  csChange : UInt8
  csChangeDelay : UInt32
  csDelayFirst : UInt32
  csDelayLast : UInt32

structure NoOsSpiDesc where
  deviceId : UInt32
  maxSpeedHz : UInt32
  mode : UInt8
  lsbFirst : Bool
  inputClock : UInt32
  /-- The pin of the chip select. -/
  number : UInt8

/-- What `stm32_spi_config` chooses; its other settings are the same for every descriptor. -/
structure SpiInit where
  polarityHigh : Bool
  secondEdge : Bool
  baudRatePrescaler : Nat
  lsbFirst : Bool
  deriving DecidableEq, Repr

inductive SpiEvent
  | init (hspiInstance : UInt32) (settings : SpiInit)
  | assertCs
  | deassertCs
  | udelay (usecs : UInt32)
  | start (index : Nat) (tx rx : Option Nat) (size : UInt16)
  deriving DecidableEq, Repr

/-- The outcomes of the HAL, for the messages of one call by their index. -/
structure Hal where
  init : HalStatus
  start : Nat → HalStatus
  errorCode : Nat → UInt32

structure Spi where
  hspiInstance : UInt32
  hspiErrorCode : UInt32
  lastSlaveId : UInt64
  csAsserted : Bool
  log : List SpiEvent

namespace Spi

@[simps -fullyApplied] def emit (event : SpiEvent) (spi : Spi) : Spi :=
  { spi with log := spi.log ++ [event] }

/-- `NO_OS_BIT(number)` in the upper half of `BSRR` resets the pin, in the lower half sets it. -/
@[simps -fullyApplied] def assertCs (spi : Spi) : Spi :=
  { spi with csAsserted := true, log := spi.log ++ [.assertCs] }

@[simps -fullyApplied] def deassertCs (spi : Spi) : Spi :=
  { spi with csAsserted := false, log := spi.log ++ [.deassertCs] }

def udelayIfSet (usecs : UInt32) (spi : Spi) : Spi :=
  if usecs = 0 then spi else spi.emit (.udelay usecs)

end Spi

def baudRatePrescaler (desc : NoOsSpiDesc) : Nat :=
  if desc.maxSpeedHz = 0 then 64
  else
    let div := desc.inputClock / desc.maxSpeedHz
    if div ≤ 2 then 2
    else if div ≤ 4 then 4
    else if div ≤ 8 then 8
    else if div ≤ 16 then 16
    else if div ≤ 32 then 32
    else if div ≤ 64 then 64
    else if div ≤ 128 then 128
    else 256

def spiBase (deviceId : UInt32) : Option UInt32 :=
  if deviceId = 1 then some 0x40013000
  else if deviceId = 2 then some 0x40003800
  else if deviceId = 3 then some 0x40003C00
  else none

def stm32SpiConfig (hal : Hal) (desc : NoOsSpiDesc) (spi : Spi) : Int × Spi :=
  match spiBase desc.deviceId with
  | none => (-einval, spi)
  | some base =>
      let settings : SpiInit :=
        { polarityHigh := desc.mode &&& 2 ≠ 0
          secondEdge := desc.mode &&& 1 ≠ 0
          baudRatePrescaler := baudRatePrescaler desc
          lsbFirst := desc.lsbFirst }
      let spi := { spi with hspiInstance := base }.emit (.init base settings)
      if hal.init = .ok then (0, spi) else (-eio, spi)

/-- `slave_id`: the instance in the upper word, the pin in the lower. -/
def slaveId (desc : NoOsSpiDesc) (spi : Spi) : UInt64 :=
  (spi.hspiInstance.toUInt64 <<< 32) ||| desc.number.toUInt64

def startStatus : HalStatus → Int
  | .ok => 0
  | .timeout => -etimedout
  | .error => -eio
  | .busy => -eio

/-- One message, from the chip select on. The wait ends when the state is ready; the error code
of the handle is not looked at. -/
def transferMessage (hal : Hal) (index : Nat) (msg : NoOsSpiMsg) (spi : Spi) : Int × Spi :=
  let spi := spi.assertCs
  let spi := spi.udelayIfSet msg.csDelayFirst
  let spi := spi.emit (.start index msg.txBuff msg.rxBuff (UInt16.ofNat msg.bytesNumber.toNat))
  let ret := startStatus (hal.start index)
  let spi := if hal.start index = .ok then { spi with hspiErrorCode := hal.errorCode index } else spi
  let spi := spi.udelayIfSet msg.csDelayLast
  let spi := if msg.csChange ≠ 0 then spi.deassertCs else spi
  (ret, spi.udelayIfSet msg.csChangeDelay)

def transferMessages (hal : Hal) : Nat → List NoOsSpiMsg → Spi → Int × Spi
  | _, [], spi => (0, spi)
  | index, msg :: rest, spi =>
      if msg.txBuff.isNone ∧ msg.rxBuff.isNone then (-einval, spi)
      else
        let (ret, spi) := transferMessage hal index msg spi
        if ret = 0 then transferMessages hal (index + 1) rest spi else (ret, spi)

def stm32SpiTransfer (hal : Hal) (desc : Option NoOsSpiDesc) (msgs : Option (List NoOsSpiMsg))
    (spi : Spi) : Int × Spi :=
  match desc, msgs with
  | some desc, some msgs =>
      let id := slaveId desc spi
      if id = spi.lastSlaveId then transferMessages hal 0 msgs spi
      else
        let (ret, spi) := stm32SpiConfig hal desc { spi with lastSlaveId := id }
        if ret = 0 then transferMessages hal 0 msgs spi else (ret, spi)
  | _, _ => (-einval, spi)

/-! Which messages were started. -/

def starts (log : List SpiEvent) : List Nat :=
  log.filterMap fun event => match event with
    | .start index _ _ _ => some index
    | _ => none

@[simp] theorem starts_append (first second : List SpiEvent) :
    starts (first ++ second) = starts first ++ starts second := by
  simp [starts]

@[simp] theorem starts_start (index : Nat) (tx rx : Option Nat) (size : UInt16) :
    starts [.start index tx rx size] = [index] := rfl

@[simp] theorem starts_assertCs : starts [.assertCs] = [] := rfl

@[simp] theorem starts_deassertCs : starts [.deassertCs] = [] := rfl

@[simp] theorem starts_init (hspiInstance : UInt32) (settings : SpiInit) :
    starts [.init hspiInstance settings] = [] := rfl

@[simp] theorem udelayIfSet_starts (usecs : UInt32) (spi : Spi) :
    starts (spi.udelayIfSet usecs).log = starts spi.log := by
  simp only [Spi.udelayIfSet]
  split
  · rfl
  · simp only [Spi.emit_log, starts_append]
    exact List.append_nil _

@[simp] theorem udelayIfSet_csAsserted (usecs : UInt32) (spi : Spi) :
    (spi.udelayIfSet usecs).csAsserted = spi.csAsserted := by
  simp only [Spi.udelayIfSet]
  split <;> rfl

theorem startStatus_eq_zero (status : HalStatus) : startStatus status = 0 ↔ status = .ok := by
  cases status <;> simp [startStatus, eio, etimedout]

/-- A message as the drivers send them: with a buffer, and releasing the chip select. -/
structure Releases (msg : NoOsSpiMsg) : Prop where
  csChange : msg.csChange ≠ 0
  buffer : msg.txBuff.isSome ∨ msg.rxBuff.isSome

section Messages

variable (hal : Hal)

theorem transferMessage_starts (index : Nat) (msg : NoOsSpiMsg) (spi : Spi) :
    starts (transferMessage hal index msg spi).2.log = starts spi.log ++ [index] := by
  simp only [transferMessage, udelayIfSet_starts]
  split <;> split <;> simp

theorem transferMessage_released (index : Nat) {msg : NoOsSpiMsg} (releases : Releases msg)
    (spi : Spi) : (transferMessage hal index msg spi).2.csAsserted = false := by
  simp [transferMessage, releases.csChange]

/-- The loop goes on as long as the starts are accepted. -/
structure Transferred (index count : Nat) (spi : Spi) (result : Int × Spi) : Prop where
  ret : result.1 = 0 ↔ ∀ place < count, hal.start (index + place) = .ok
  started : ∃ reached, starts result.2.log = starts spi.log ++ (List.range reached).map (index + ·) ∧
    ∀ place, place < reached ↔
      place < count ∧ ∀ earlier < place, hal.start (index + earlier) = .ok
  released : result.2.csAsserted = (spi.csAsserted && decide (count = 0))

theorem allAccepted_succ {index : Nat} (accepted : hal.start index = .ok) (count : Nat) :
    (∀ place < count, hal.start (index + 1 + place) = .ok) ↔
      ∀ place < count + 1, hal.start (index + place) = .ok := by
  rw [Nat.forall_lt_succ_left]
  simp only [Nat.add_zero, accepted, true_and, Nat.add_assoc, Nat.add_comm 1]

theorem Transferred.next {index count : Nat} {spi between : Spi} {result : Int × Spi}
    (later : Transferred hal (index + 1) count between result) (accepted : hal.start index = .ok)
    (started : starts between.log = starts spi.log ++ [index]) (released : between.csAsserted = false) :
    Transferred hal index (count + 1) spi result := by
  obtain ⟨reached, log, upTo⟩ := later.started
  refine ⟨?_, ⟨reached + 1, ?_, ?_⟩, ?_⟩
  · rw [later.ret, allAccepted_succ hal accepted]
  · rw [log, started, List.append_assoc, List.range_succ_eq_map]
    simp [Function.comp_def, Nat.add_assoc, Nat.add_comm 1]
  · intro place
    cases place with
    | zero => simp
    | succ place =>
        rw [Nat.add_lt_add_iff_right, upTo, Nat.add_lt_add_iff_right, allAccepted_succ hal accepted]
  · rw [later.released, released]
    simp

theorem transferMessages_spec (msgs : List NoOsSpiMsg) (releases : ∀ msg ∈ msgs, Releases msg)
    (index : Nat) (spi : Spi) :
    Transferred hal index msgs.length spi (transferMessages hal index msgs spi) := by
  induction msgs generalizing index spi with
  | nil =>
      refine ⟨by simp [transferMessages], ⟨0, by simp [transferMessages], by simp⟩, ?_⟩
      simp [transferMessages]
  | cons msg rest ih =>
      have head := releases msg List.mem_cons_self
      have buffered : ¬ (msg.txBuff.isNone ∧ msg.rxBuff.isNone) := by
        rintro ⟨noTx, noRx⟩
        rcases head.buffer with tx | rx
        · simp [Option.isNone_iff_eq_none.mp noTx] at tx
        · simp [Option.isNone_iff_eq_none.mp noRx] at rx
      have released := transferMessage_released hal index head spi
      have started := transferMessage_starts hal index msg spi
      have status : (transferMessage hal index msg spi).1 = 0 ↔ hal.start index = .ok :=
        startStatus_eq_zero _
      simp only [transferMessages, if_neg buffered, status]
      by_cases accepted : hal.start index = .ok
      · rw [if_pos accepted]
        have later := ih (fun msg member => releases msg (List.mem_cons_of_mem _ member)) (index + 1)
          (transferMessage hal index msg spi).2
        exact later.next hal accepted started released
      · rw [if_neg accepted]
        refine ⟨?_, ⟨1, started, ?_⟩, by rw [released]; simp⟩
        · rw [status]
          exact iff_of_false accepted fun every => accepted (every 0 (by simp))
        · intro place
          cases place with
          | zero => simp
          | succ place =>
              refine iff_of_false (by omega) fun ⟨_, every⟩ => accepted (every 0 (by omega))

end Messages

/-! A call of `stm32_spi_transfer`, against the outcomes of the HAL. -/

section Transfer

variable (hal : Hal) (desc : NoOsSpiDesc) (msgs : List NoOsSpiMsg) (spi : Spi)

def transferred : Int × Spi :=
  stm32SpiTransfer hal (some desc) (some msgs) { spi with log := [] }

def Succeeds (index : Nat) : Prop := hal.start index = .ok ∧ hal.errorCode index = 0

structure ReportsTransfers : Prop where
  result : (transferred hal desc msgs spi).1 = 0 ↔
    ∀ index < msgs.length, index ∈ starts (transferred hal desc msgs spi).2.log ∧ Succeeds hal index
  stops : ∀ index ∈ starts (transferred hal desc msgs spi).2.log,
    ∀ earlier < index, Succeeds hal earlier
  released : (transferred hal desc msgs spi).2.csAsserted = false

/-- The slave is the one configured last, or its configuration succeeds. -/
def Configured : Prop :=
  slaveId desc spi = spi.lastSlaveId ∨ (spiBase desc.deviceId).isSome ∧ hal.init = .ok

/-- No transfer ends with an error, of those started before a start is refused. -/
def EndsWithoutErrors : Prop :=
  ∀ index < msgs.length, (∀ earlier ≤ index, hal.start earlier = .ok) → hal.errorCode index = 0

/-- Where no message is started the chip select stays as it was. -/
def ShowsFailures : Prop :=
  Configured hal desc spi ∧ EndsWithoutErrors hal msgs ∧ (msgs = [] → spi.csAsserted = false) ∨
    ¬ Configured hal desc spi ∧ msgs ≠ [] ∧ spi.csAsserted = false

theorem stm32SpiConfig_keeps : starts (stm32SpiConfig hal desc spi).2.log = starts spi.log ∧
    (stm32SpiConfig hal desc spi).2.csAsserted = spi.csAsserted := by
  simp only [stm32SpiConfig]
  split
  · exact ⟨rfl, rfl⟩
  · split <;> simp

theorem stm32SpiConfig_ret : (stm32SpiConfig hal desc spi).1 = 0 ↔
    (spiBase desc.deviceId).isSome ∧ hal.init = .ok := by
  simp only [stm32SpiConfig]
  cases spiBase desc.deviceId with
  | none => simp [einval]
  | some base =>
      by_cases accepted : hal.init = .ok <;> simp [accepted, eio]

theorem transfer_configured (configured : Configured hal desc spi) :
    ∃ ready, transferred hal desc msgs spi = transferMessages hal 0 msgs ready ∧
      starts ready.log = [] ∧ ready.csAsserted = spi.csAsserted := by
  simp only [transferred, stm32SpiTransfer]
  by_cases same : slaveId desc spi = spi.lastSlaveId
  · exact ⟨_, if_pos same, rfl, rfl⟩
  · have succeeds := (stm32SpiConfig_ret hal desc
      { spi with lastSlaveId := slaveId desc spi, log := [] }).mpr (configured.resolve_left same)
    have keeps := stm32SpiConfig_keeps hal desc
      { spi with lastSlaveId := slaveId desc spi, log := [] }
    exact ⟨_, Eq.trans (if_neg same) (if_pos succeeds), keeps.1, keeps.2⟩

theorem transfer_unconfigured (unconfigured : ¬ Configured hal desc spi) :
    (transferred hal desc msgs spi).1 ≠ 0 ∧ starts (transferred hal desc msgs spi).2.log = [] ∧
      (transferred hal desc msgs spi).2.csAsserted = spi.csAsserted := by
  have other : slaveId desc spi ≠ spi.lastSlaveId := fun same => unconfigured (.inl same)
  have fails := (stm32SpiConfig_ret hal desc
    { spi with lastSlaveId := slaveId desc spi, log := [] }).not.mpr fun succeeds =>
      unconfigured (.inr succeeds)
  have keeps := stm32SpiConfig_keeps hal desc
    { spi with lastSlaveId := slaveId desc spi, log := [] }
  have ends : transferred hal desc msgs spi =
      stm32SpiConfig hal desc { spi with lastSlaveId := slaveId desc spi, log := [] } := by
    simp only [transferred, stm32SpiTransfer]
    exact Eq.trans (if_neg other) (if_neg fails)
  rw [ends]
  exact ⟨fails, keeps.1, keeps.2⟩

theorem configured_reports_iff {ready : Spi}
    (runs : Transferred hal 0 msgs.length ready (transferred hal desc msgs spi))
    (fresh : starts ready.log = []) (cs : ready.csAsserted = spi.csAsserted) :
    ReportsTransfers hal desc msgs spi ↔
      EndsWithoutErrors hal msgs ∧ (msgs = [] → spi.csAsserted = false) := by
  obtain ⟨reached, log, upTo⟩ := runs.started
  have ret := runs.ret
  have member (index : Nat) : index ∈ starts (transferred hal desc msgs spi).2.log ↔
      index < msgs.length ∧ ∀ earlier < index, hal.start earlier = .ok := by
    rw [log, fresh]
    simpa using upTo index
  simp only [Nat.zero_add] at ret
  have released : (transferred hal desc msgs spi).2.csAsserted = false ↔
      (msgs = [] → spi.csAsserted = false) := by
    rw [runs.released, cs]
    cases msgs <;> simp
  constructor
  · intro reports
    refine ⟨?_, released.mp reports.released⟩
    intro index bound accepted
    by_cases last : index + 1 < msgs.length
    · have next := (member (index + 1)).mpr ⟨last, fun earlier before => accepted earlier (by omega)⟩
      exact (reports.stops _ next index (by omega)).2
    · have whole := reports.result.mp (ret.mpr fun place inside => accepted place (by omega))
      exact (whole index bound).2.2
  · rintro ⟨shown, still⟩
    refine ⟨?_, ?_, released.mpr still⟩
    · rw [ret]
      constructor
      · intro accepted index bound
        exact ⟨(member index).mpr ⟨bound, fun earlier before => accepted earlier (by omega)⟩,
          accepted index bound,
          shown index bound fun earlier upTo => accepted earlier (by omega)⟩
      · intro every index bound
        exact (every index bound).2.1
    · intro index started earlier before
      obtain ⟨bound, accepted⟩ := (member index).mp started
      exact ⟨accepted earlier before,
        shown earlier (by omega) fun other upTo => accepted other (by omega)⟩

theorem transfer_reports_iff (releases : ∀ msg ∈ msgs, Releases msg) :
    ReportsTransfers hal desc msgs spi ↔ ShowsFailures hal desc msgs spi := by
  by_cases configured : Configured hal desc spi
  · obtain ⟨ready, runs, fresh, cs⟩ := transfer_configured hal desc msgs spi configured
    have spec := transferMessages_spec hal msgs releases 0 ready
    rw [← runs] at spec
    rw [configured_reports_iff hal desc msgs spi spec fresh cs]
    simp [ShowsFailures, configured]
  · have unconfigured := transfer_unconfigured hal desc msgs spi configured
    constructor
    · intro reports
      refine .inr ⟨configured, ?_, ?_⟩
      · rintro rfl
        exact unconfigured.1 (reports.result.mpr (by simp))
      · rw [← unconfigured.2.2, reports.released]
    · rintro (⟨yes, _⟩ | ⟨_, some, released⟩)
      · exact absurd yes configured
      · refine ⟨?_, ?_, by rw [unconfigured.2.2, released]⟩
        · refine iff_of_false unconfigured.1 fun every => ?_
          have first := (every 0 (List.length_pos_iff.mpr some)).1
          rw [unconfigured.2.1] at first
          cases first
        · rw [unconfigured.2.1]
          simp

end Transfer

/-! Two register reads whose frames arrive, and one with `HAL_SPI_ERROR_DMA` left in the handle. -/

abbrev halSpiErrorDma : UInt32 := 0x10

def registerReadMsg : NoOsSpiMsg := ⟨some 0, some 0, 7, 1, 0, 0, 0⟩

def switchDesc : NoOsSpiDesc := ⟨2, 25000000, 0, false, 80000000, 12⟩

def coldSpi : Spi := ⟨0, 0, 0, false, []⟩

theorem registerReadMsg_releases : ∀ msg ∈ [registerReadMsg], Releases msg := by
  intro msg member
  rw [List.mem_singleton.mp member]
  exact ⟨by decide, .inl rfl⟩

/-- A register's value is read from whatever the transfer left, with any error code. -/
theorem adin1110RegRead_ignoresErrorCode {hal : Hal} {desc : NoOsSpiDesc} {spi : Spi}
    (configured : Configured hal desc spi) (accepted : hal.start 0 = .ok) (received : Bytes)
    (addr : UInt16) (device : Device) :
    ∃ after, adin1110RegRead addr ⟨(transferred hal desc [registerReadMsg] spi).1, received⟩ device =
      (.ok (bigEndian32At received 3), after) := by
  obtain ⟨ready, runs, _⟩ := transfer_configured hal desc [registerReadMsg] spi configured
  have spec := transferMessages_spec hal [registerReadMsg] registerReadMsg_releases 0 ready
  have returned : (transferred hal desc [registerReadMsg] spi).1 = 0 := by
    rw [runs]
    refine spec.ret.mpr fun place bound => ?_
    have first : place = 0 := Nat.lt_one_iff.mp bound
    rw [first]
    exact accepted
  let answer : SpiAnswer := ⟨(transferred hal desc [registerReadMsg] spi).1, received⟩
  have succeeds : answer.ret = 0 := returned
  obtain ⟨after, _, read, _⟩ := adin1110RegRead_ok addr device succeeds
  exact ⟨after, read⟩

theorem goodFrames_reported :
    ReportsTransfers ⟨.ok, fun _ => .ok, fun _ => 0⟩ switchDesc
      [registerReadMsg, { registerReadMsg with txBuff := none }] coldSpi := by
  refine (transfer_reports_iff _ _ _ _ ?_).mpr (.inl ⟨.inr ⟨rfl, rfl⟩, fun _ _ _ => rfl, by simp⟩)
  intro msg member
  simp only [List.mem_cons, List.not_mem_nil, or_false] at member
  rcases member with rfl | rfl
  · exact ⟨by decide, .inl rfl⟩
  · exact ⟨by decide, .inr rfl⟩

theorem dmaError_swallowed :
    ¬ ReportsTransfers ⟨.ok, fun _ => .ok, fun _ => halSpiErrorDma⟩ switchDesc [registerReadMsg]
      coldSpi := by
  intro reports
  have returned : (transferred ⟨.ok, fun _ => .ok, fun _ => halSpiErrorDma⟩ switchDesc
      [registerReadMsg] coldSpi).1 = 0 := by decide
  exact absurd (reports.result.mp returned 0 (by decide)).2.2 (by decide)

end SpeFramework.Network
