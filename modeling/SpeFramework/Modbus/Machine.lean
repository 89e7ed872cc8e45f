import Mathlib.Tactic.Simps.Basic
import SpeFramework.Lib.ByteOrder

/-!
The machine the Modbus sources run on: the memory around the request, the FreeRTOS
heap, the caller's response variables, and a log of everything that can be observed
from outside or that has to stay inside a buffer. A range of the log that leaves its
buffer is recorded like any other and touches memory that holds none of the program's
variables. A run ends early at a store through a null pointer and in `vPortFree`, whose
asserts spin on a pointer that is no block's own.
-/

namespace SpeFramework

open RangeStore ByteOrder

abbrev Memory := Nat → UInt8

structure Pointer where
  block : Nat
  offset : Nat
  deriving DecidableEq, Repr

def Pointer.plus (pointer : Pointer) (distance : Nat) : Pointer :=
  ⟨pointer.block, pointer.offset + distance⟩

/-- What an address is computed from: the receive buffer, a heap block, or `NULL`. -/
inductive Area
  | request
  | block (id : Nat)
  | null
  deriving DecidableEq, Repr

/-- A callback call with its arguments; a write call also with the items it is handed. -/
inductive Call
  | readBits (functionCode dataTableType : UInt8) (startingAddress quantity : UInt16)
  | writeBits (functionCode dataTableType : UInt8) (startingAddress quantity : UInt16)
      (data : List UInt8)
  | readWords (functionCode dataTableType : UInt8) (startingAddress quantity : UInt16)
  | writeWords (functionCode dataTableType : UInt8) (startingAddress quantity : UInt16)
      (data : List UInt16)
  | otherFunctions (functionCode : UInt8) (input : List UInt8) (prependSize appendSize : UInt8)
  deriving DecidableEq, Repr

inductive Event
  | access (area : Area) (offset length : Nat)
  | malloc (size : Nat) (answer : Option Nat)
  | free (pointer : Pointer)
  | call (made : Call)
  | send (socket : Int) (bytes : List UInt8)
  | close (socket : Int)
  deriving DecidableEq, Repr

abbrev ReadCallback (σ ι : Type) :=
  UInt8 → UInt8 → UInt16 → UInt16 → σ → UInt8 × List ι × σ

abbrev WriteCallback (σ ι : Type) :=
  UInt8 → UInt8 → UInt16 → UInt16 → List ι → σ → UInt8 × σ

/-- The extension callback answers with a result code, an output size and the bytes it
stores through its output pointer. -/
abbrev OtherFunctionsCallback (σ : Type) :=
  UInt8 → List UInt8 → UInt8 → UInt8 → σ → UInt8 × UInt16 × List UInt8 × σ

structure ModbusCallbacks (σ : Type) where
  readBits : Option (ReadCallback σ UInt8)
  writeBits : Option (WriteCallback σ UInt8)
  readWords : Option (ReadCallback σ UInt16)
  writeWords : Option (WriteCallback σ UInt16)
  otherFunctions : Option (OtherFunctionsCallback σ)

structure World (σ : Type) where
  app : σ
  /-- The receive buffer from its first byte on, then whatever memory follows it. -/
  request : Memory
  /-- The bytes of block `id`, and past its size whatever memory follows it. -/
  heap : Nat → Memory
  blockSize : Nat → Nat
  /-- Whether the eight bytes in front of a pointer read as the header of an allocated block. -/
  readsAllocated : Pointer → Bool
  /-- Which calls of `pvPortMalloc` succeed, by their number. -/
  allocates : Nat → Bool
  mallocs : Nat
  outputBuffer : Option Pointer
  outputSize : UInt16
  log : List Event

/-- A target before its first request: `bytes` received, zeros elsewhere, and a heap that
grants everything. -/
def World.initial {σ : Type} (app : σ) (bytes : List UInt8) : World σ where
  app := app
  request := writeRange (fun _ => 0) 0 bytes
  heap := fun _ _ => 0
  blockSize := fun _ => 0
  readsAllocated := fun _ => false
  allocates := fun _ => true
  mallocs := 0
  outputBuffer := none
  outputSize := 0
  log := []

/-- A call returns a value, spins in a `configASSERT`, or ends at a store through a null pointer. -/
inductive Outcome (σ ρ : Type)
  | returned (value : ρ) (world : World σ)
  | stopped (world : World σ)
  | fault (world : World σ)

variable {σ ρ τ : Type}

def Outcome.world : Outcome σ ρ → World σ
  | .returned _ world => world
  | .stopped world => world
  | .fault world => world

def Outcome.faulted : Outcome σ ρ → Bool
  | .fault _ => true
  | _ => false

def Outcome.of (result : ρ × World σ) : Outcome σ ρ := .returned result.1 result.2

def Outcome.bind (outcome : Outcome σ ρ) (next : ρ → World σ → Outcome σ τ) : Outcome σ τ :=
  match outcome with
  | .returned value world => next value world
  | .stopped world => .stopped world
  | .fault world => .fault world

@[simp] theorem Outcome.world_returned (value : ρ) (world : World σ) :
    (Outcome.returned value world).world = world := rfl

@[simp] theorem Outcome.world_stopped (world : World σ) :
    (Outcome.stopped world : Outcome σ ρ).world = world := rfl

@[simp] theorem Outcome.world_fault (world : World σ) :
    (Outcome.fault world : Outcome σ ρ).world = world := rfl

@[simp] theorem Outcome.bind_returned (value : ρ) (world : World σ)
    (next : ρ → World σ → Outcome σ τ) : (Outcome.returned value world).bind next = next value world :=
  rfl

@[simp] theorem Outcome.bind_stopped (world : World σ) (next : ρ → World σ → Outcome σ τ) :
    (Outcome.stopped world).bind next = .stopped world := rfl

@[simp] theorem Outcome.bind_fault (world : World σ) (next : ρ → World σ → Outcome σ τ) :
    (Outcome.fault world).bind next = .fault world := rfl

@[simp] theorem Outcome.bind_of (result : ρ × World σ) (next : ρ → World σ → Outcome σ τ) :
    (Outcome.of result).bind next = next result.1 result.2 := rfl

namespace World

@[simps -fullyApplied] def emit (event : Event) (w : World σ) : World σ :=
  { w with log := w.log ++ [event] }

@[simps -fullyApplied] def withRequest (request : Memory) (w : World σ) : World σ :=
  { w with request := request }

@[simps -fullyApplied] def withHeap (heap : Nat → Memory) (w : World σ) : World σ :=
  { w with heap := heap }

@[simps -fullyApplied] def setApp (app : σ) (w : World σ) : World σ := { w with app := app }

@[simps -fullyApplied] def setOutput (buffer : Option Pointer) (w : World σ) : World σ :=
  { w with outputBuffer := buffer }

@[simps -fullyApplied app request heap blockSize readsAllocated allocates mallocs outputBuffer outputSize log]
def setOutputSize (size : Nat) (w : World σ) : World σ :=
  { w with outputSize := UInt16.ofNat size }

@[simps -fullyApplied] def updateRequest (offset length : Nat) (change : Memory → Memory) (w : World σ) :
    World σ :=
  { w with
    request := change w.request
    log := w.log ++ [.access .request offset length] }

@[simps -fullyApplied] def updateBlock (pointer : Pointer) (length : Nat) (change : Memory → Memory)
    (w : World σ) : World σ :=
  { w with
    heap := Function.update w.heap pointer.block (change (w.heap pointer.block))
    log := w.log ++ [.access (.block pointer.block) pointer.offset length] }

@[simp] def store (pointer : Pointer) (bytes : List UInt8) (w : World σ) : World σ :=
  w.updateBlock pointer bytes.length fun memory => writeRange memory pointer.offset bytes

/-- A successful `pvPortMalloc`: the block is named by the number of the call, and keeps
the bytes the heap held there. -/
@[simps -fullyApplied] def granted (size : Nat) (w : World σ) : World σ :=
  { w with
    blockSize := Function.update w.blockSize w.mallocs size
    readsAllocated := Function.update w.readsAllocated ⟨w.mallocs, 0⟩ true
    mallocs := w.mallocs + 1
    log := w.log ++ [.malloc size (some w.mallocs)] }

@[simps -fullyApplied] def denied (size : Nat) (w : World σ) : World σ :=
  { w with
    mallocs := w.mallocs + 1
    log := w.log ++ [.malloc size none] }

def pvPortMalloc (size : Nat) (w : World σ) : Option Pointer × World σ :=
  if w.allocates w.mallocs then (some ⟨w.mallocs, 0⟩, w.granted size) else (none, w.denied size)

/-- Both asserts of `vPortFree` hold. Two to seven bytes into a block the second does not: part of
the block's own size, which is below 65536 and carries the allocated bit, is read as
`pxNextFreeBlock`. -/
def freeable (pointer : Pointer) (w : World σ) : Bool :=
  w.readsAllocated pointer && !(decide (2 ≤ pointer.offset) && decide (pointer.offset ≤ 7))

@[simp] theorem freeable_own (id : Nat) (w : World σ) :
    w.freeable ⟨id, 0⟩ = w.readsAllocated ⟨id, 0⟩ := by
  simp [freeable]

@[simp] theorem freeable_seven (id : Nat) (w : World σ) : w.freeable ⟨id, 7⟩ = false := by
  simp [freeable]

@[simps -fullyApplied] def freed (pointer : Pointer) (w : World σ) : World σ :=
  { w with
    readsAllocated := Function.update w.readsAllocated pointer false
    log := w.log ++ [.free pointer] }

def vPortFree (pointer : Pointer) (w : World σ) : Outcome σ Unit :=
  if w.freeable pointer then .returned () (w.freed pointer) else .stopped (w.emit (.free pointer))

/-- `*output_size = size; *output_buffer = pvPortMalloc(*output_size);` -/
def allocateOutput (size : Nat) (w : World σ) : Option Pointer × World σ :=
  let w := w.setOutputSize size
  let (block, w) := w.pvPortMalloc w.outputSize.toNat
  (block, w.setOutput block)

/-- The caller's variables after an allocation of `size` bytes succeeded. -/
@[simps -fullyApplied app request heap blockSize readsAllocated allocates mallocs outputBuffer outputSize log]
def withOutput (size : Nat) (w : World σ) : World σ :=
  { w with
    blockSize := Function.update w.blockSize w.mallocs size
    readsAllocated := Function.update w.readsAllocated ⟨w.mallocs, 0⟩ true
    mallocs := w.mallocs + 1
    outputBuffer := some ⟨w.mallocs, 0⟩
    outputSize := UInt16.ofNat size
    log := w.log ++ [.malloc size (some w.mallocs)] }

@[simps -fullyApplied app request heap blockSize readsAllocated allocates mallocs outputBuffer outputSize log]
def withoutOutput (size : Nat) (w : World σ) : World σ :=
  { w with
    mallocs := w.mallocs + 1
    outputBuffer := none
    outputSize := UInt16.ofNat size
    log := w.log ++ [.malloc size none] }

theorem allocateOutput_granted (size : Nat) (w : World σ) (small : size < 65536)
    (memory : w.allocates w.mallocs = true) :
    w.allocateOutput size = (some ⟨w.mallocs, 0⟩, w.withOutput size) := by
  have exact : (UInt16.ofNat size).toNat = size := UInt16.toNat_ofNat_of_lt small
  simp only [allocateOutput, pvPortMalloc, setOutputSize, memory, if_true, exact]
  rfl

theorem allocateOutput_denied (size : Nat) (w : World σ) (small : size < 65536)
    (full : w.allocates w.mallocs = false) :
    w.allocateOutput size = (none, w.withoutOutput size) := by
  have exact : (UInt16.ofNat size).toNat = size := UInt16.toNat_ofNat_of_lt small
  simp only [allocateOutput, pvPortMalloc, setOutputSize, full, Bool.false_eq_true, if_false, exact]
  rfl

/-! Loops over ranges of the request or of one block, as one change and one run of log
entries. -/

@[simps -fullyApplied] def updateRequestRanges (offset : Nat → Nat) (length : Nat)
    (change : Nat → Memory → Memory) (count : Nat) (w : World σ) : World σ :=
  { w with
    request := loop change count w.request
    log := w.log ++ (List.range count).map fun index =>
      .access .request (offset index) length }

@[simps -fullyApplied] def updateBlockRanges (block : Nat) (offset : Nat → Nat) (length : Nat)
    (change : Nat → Memory → Memory) (count : Nat) (w : World σ) : World σ :=
  { w with
    heap := Function.update w.heap block (loop change count (w.heap block))
    log := w.log ++ (List.range count).map fun index =>
      .access (.block block) (offset index) length }

theorem loop_updateRequest (w : World σ) (offset : Nat → Nat) (length : Nat)
    (change : Nat → Memory → Memory) (count : Nat) :
    loop (fun index current => current.updateRequest (offset index) length (change index)) count w =
      w.updateRequestRanges offset length change count := by
  induction count with
  | zero => simp [updateRequestRanges]
  | succ count ih =>
      rw [loop_succ, ih]
      simp [updateRequest, updateRequestRanges, loop_succ, List.range_succ]

theorem loop_updateBlock (w : World σ) (block : Nat) (offset : Nat → Nat) (length : Nat)
    (change : Nat → Memory → Memory) (count : Nat) :
    loop (fun index current => current.updateBlock ⟨block, offset index⟩ length (change index))
        count w =
      w.updateBlockRanges block offset length change count := by
  induction count with
  | zero => simp [updateBlockRanges]
  | succ count ih =>
      rw [loop_succ, ih]
      simp [updateBlock, updateBlockRanges, loop_succ, List.range_succ]

end World

end SpeFramework
