import SpeFramework.Modbus.Blocks

/-!
The indices one TCP request touches. Quantity, byte count and the size of the response
block are never compared, so each function code has bounds of its own.
-/

namespace SpeFramework

open RangeStore ByteOrder World

variable {σ : Type}

def Area.size (blockSize : Nat → Nat) : Area → Nat
  | .request => modbusRecvBufferSize
  | .block id => blockSize id
  | .null => 0

def Event.within (blockSize : Nat → Nat) : Event → Prop
  | .access area offset length => ∀ index < length, offset + index < area.size blockSize
  | _ => True

def World.Contained (w : World σ) : Prop := ∀ event ∈ w.log, event.within w.blockSize

def StaysInBuffers (callbacks : ModbusCallbacks σ) (socket : Int) (dataSize : Nat) (w : World σ) :
    Prop :=
  (modbusTcpHandleRequest callbacks socket dataSize w.quiet).world.Contained

@[simp] theorem access_within (blockSize : Nat → Nat) (area : Area) (offset length : Nat) :
    (Event.access area offset length).within blockSize ↔
      length = 0 ∨ offset + length ≤ area.size blockSize := by
  simp only [Event.within]
  constructor
  · intro inside
    by_cases empty : length = 0
    · exact .inl empty
    · have last := inside (length - 1) (by omega)
      omega
  · rintro (empty | fits) index bound <;> omega

@[simp] theorem malloc_within (blockSize : Nat → Nat) (size : Nat) (answer : Option Nat) :
    (Event.malloc size answer).within blockSize := trivial

@[simp] theorem free_within (blockSize : Nat → Nat) (pointer : Pointer) :
    (Event.free pointer).within blockSize := trivial

@[simp] theorem call_within (blockSize : Nat → Nat) (made : Call) :
    (Event.call made).within blockSize := trivial

@[simp] theorem send_within (blockSize : Nat → Nat) (socket : Int) (bytes : List UInt8) :
    (Event.send socket bytes).within blockSize := trivial

@[simp] theorem size_request (blockSize : Nat → Nat) : Area.request.size blockSize = 64 := rfl

@[simp] theorem size_block (blockSize : Nat → Nat) (id : Nat) :
    (Area.block id).size blockSize = blockSize id := rfl

@[simp] theorem size_null (blockSize : Nat → Nat) : Area.null.size blockSize = 0 := rfl

/-! A loop over consecutive ranges stays inside exactly when its last range does. -/

theorem ranges_within (blockSize : Nat → Nat) (area : Area) (start length count : Nat)
    (positive : 0 < length) :
    (∀ i < count, (Event.access area (start + length * i) length).within blockSize) ↔
      count = 0 ∨ start + length * count ≤ area.size blockSize := by
  simp only [access_within]
  cases count with
  | zero => simp
  | succ count =>
      rw [Nat.mul_succ]
      constructor
      · intro inside
        have last := inside count (by omega)
        omega
      · rintro (empty | fits) i bound
        · omega
        · have upTo : length * i ≤ length * count := Nat.mul_le_mul_left length (by omega)
          omega

section Requests

variable (callbacks : ModbusCallbacks σ) (socket : Int) (dataSize : Nat) (w : World σ)

theorem delivered_contained (request : Memory) (id : Nat) (final : World σ)
    (holds : HoldsWholeBlock id final) :
    (delivered socket request ⟨id, 0⟩ final).Contained ↔ final.Contained := by
  have room := holds.room
  simp [Contained, or_imp, forall_and, holds.size, room]

/-- No access so far was made to a block that `pvPortMalloc` may still answer with. -/
def LaterUntouched (w : World σ) : Prop :=
  ∀ id offset length, w.mallocs ≤ id → .access (.block id) offset length ∉ w.log

theorem contained_update (untouched : LaterUntouched w) (size : Nat) :
    (∀ event ∈ w.log, event.within (Function.update w.blockSize w.mallocs size)) ↔
      w.Contained := by
  apply forall₂_congr
  intro event member
  cases event with
  | access area offset length =>
      cases area with
      | block id =>
          have other : id ≠ w.mallocs := by
            rintro rfl
            exact untouched _ offset length (Nat.le_refl _) member
          simp [other]
      | request => simp
      | null => simp
  | _ => exact Iff.rfl

theorem errorReported_contained (final : World σ) (functionCode errorCode : UInt8)
    (untouched : LaterUntouched final) :
    (errorReported 7 0 final functionCode errorCode).Contained ↔ final.Contained := by
  rw [Contained, errorReported_log, errorReported_blockSize]
  simp only [List.mem_append, or_imp, forall_and, contained_update final untouched]
  simp [responseSize, or_imp, forall_and]

/-! Once the handler has ended, what follows stays inside the buffers if the handler did. -/

theorem answered_stays (enough : 8 ≤ dataSize) (id : Nat) {result : UInt8 × World σ}
    (ends : tcpHandled callbacks dataSize w.quiet = .of result)
    (answered : result.1 = modbusErrorOk) (holds : HoldsWholeBlock id result.2) :
    StaysInBuffers callbacks socket dataSize w ↔ result.2.Contained := by
  rw [StaysInBuffers, tcp_answered enough ends answered holds.pointer holds.taken]
  exact delivered_contained socket _ id _ holds

theorem refused_stays (enough : 8 ≤ dataSize) {result : UInt8 × World σ}
    (ends : tcpHandled callbacks dataSize w.quiet = .of result)
    (refused : result.1 ≠ modbusErrorOk) (unset : result.2.outputBuffer = none)
    (untouched : LaterUntouched result.2) :
    StaysInBuffers callbacks socket dataSize w ↔ result.2.Contained := by
  rw [StaysInBuffers]
  cases memory : result.2.allocates result.2.mallocs with
  | false =>
      rw [tcp_unreported enough ends refused unset memory]
      simp [Contained, or_imp, forall_and]
  | true =>
      rw [tcp_reported enough ends refused unset memory, Outcome.world_returned,
        delivered_contained _ _ _ _ (errorReported_whole _ _ _ _ _ (by decide)),
        errorReported_contained _ _ _ untouched]

theorem failedHolding_leaves (enough : 8 ≤ dataSize) (fails : FailsHoldingResponse callbacks 7 7 w) :
    ¬ StaysInBuffers callbacks socket dataSize w := by
  obtain ⟨before, faulted⟩ := tcp_failedHolding socket enough
    ((tcpHandled_failedHolding callbacks dataSize w.quiet).mpr fails)
  rw [StaysInBuffers, faulted]
  intro contained
  simpa using contained (.access .null 0 4) (by simp)

/-! What each handler has to find in the request to stay inside. -/

theorem readWordsCompleted_contained (readWords : ReadCallback σ UInt16)
    (untouched : LaterUntouched w) :
    (readWordsCompleted readWords 7 7 0 w).Contained ↔
      w.Contained ∧ (bigEndianAt w.request 10).toNat ≤ 127 := by
  have byteCount : (wordByteCount 7 w.request).toNat = 2 * (bigEndianAt w.request 10).toNat % 256 := by
    simp [wordByteCount]
  rw [Contained, readWordsCompleted_log, readWordsCompleted_blockSize]
  simp only [List.mem_append, List.mem_cons, List.mem_map, List.mem_range, or_imp, forall_and,
    forall_eq, forall_exists_index, and_imp, forall_apply_eq_imp_iff₂, contained_update w untouched]
  refine and_congr_right fun _ => ?_
  rw [ranges_within _ _ _ _ _ (by omega)]
  simp [byteCount, responseSize]
  omega

theorem readBitsCompleted_contained (readBits : ReadCallback σ UInt8)
    (untouched : LaterUntouched w) :
    (readBitsCompleted readBits 7 7 0 w).Contained ↔
      w.Contained ∧ (bigEndianAt w.request 10).toNat ≤ 2040 := by
  have byteCount : (bitByteCount 7 w.request).toNat =
      bytesForBits (bigEndianAt w.request 10).toNat % 256 := by
    simp [bitByteCount]
  have ranges := ranges_within (Function.update w.blockSize w.mallocs
    (responseSize (2 + (bitByteCount 7 w.request).toNat) 7 0)) (.block w.mallocs) (7 + 2) 1
    (bitByteCount 7 w.request).toNat (by omega)
  simp only [Nat.one_mul] at ranges
  rw [Contained, readBitsCompleted_log, readBitsCompleted_blockSize]
  simp only [List.mem_append, List.mem_cons, List.mem_map, List.mem_range, or_imp, forall_and,
    forall_eq, forall_exists_index, and_imp, forall_apply_eq_imp_iff₂, contained_update w untouched]
  refine and_congr_right fun _ => ?_
  simp only [UInt8.toNat_ofNat, Nat.reducePow, Nat.reduceMod] at ranges ⊢
  rw [ranges]
  simp [byteCount, responseSize, bytesForBits]
  omega

theorem acknowledged_contained (written : World σ) (untouched : LaterUntouched written) :
    (acknowledged 7 7 0 written).Contained ↔ written.Contained := by
  rw [Contained, acknowledged_log, acknowledged_blockSize]
  simp only [List.mem_append, or_imp, forall_and, contained_update written untouched]
  simp [responseSize, or_imp, forall_and]

theorem registersWritten_contained (writeWords : WriteCallback σ UInt16)
    (untouched : LaterUntouched w) :
    (registersWritten writeWords 7 7 0 w).Contained ↔
      w.Contained ∧ (w.request 12).toNat ≤ 25 ∧ (bigEndianAt w.request 10).toNat ≤ 25 := by
  rw [Contained, registersWritten_log, registersWritten_blockSize]
  simp only [List.mem_append, List.mem_cons, List.mem_map, List.mem_range, or_imp, forall_and,
    forall_eq, forall_exists_index, and_imp, forall_apply_eq_imp_iff₂, contained_update w untouched]
  refine and_congr_right fun _ => ?_
  rw [ranges_within _ _ _ _ _ (by omega)]
  simp [responseSize]
  omega

theorem coilsWritten_contained (writeBits : WriteCallback σ UInt8) (untouched : LaterUntouched w) :
    (coilsWritten writeBits 7 7 0 w).Contained ↔
      w.Contained ∧ (w.request 12).toNat ≤ 51 ∧ (bigEndianAt w.request 10).toNat ≤ 408 := by
  have ranges := ranges_within (Function.update w.blockSize w.mallocs (responseSize 5 7 0))
    .request (7 + 6) 1 (w.request (7 + 5)).toNat (by omega)
  simp only [Nat.one_mul] at ranges
  rw [Contained, coilsWritten_log, coilsWritten_blockSize]
  simp only [List.mem_append, List.mem_cons, List.mem_map, List.mem_range, or_imp, forall_and,
    forall_eq, forall_exists_index, and_imp, forall_apply_eq_imp_iff₂, contained_update w untouched]
  refine and_congr_right fun _ => ?_
  rw [ranges]
  simp [responseSize, bytesForBits]
  omega

/-- What is known of a handler that does not fail while holding its block: it stays inside
exactly when `fits`, its response fills the block, and the block of an error response would
be new. -/
structure HandlerStays (start : World σ) (fits : Prop) (result : UInt8 × World σ) : Prop where
  contained : result.2.Contained ↔ start.Contained ∧ fits
  whole : result.1 = modbusErrorOk → ∃ id, HoldsWholeBlock id result.2
  untouched : result.1 ≠ modbusErrorOk → LaterUntouched result.2
  unset : result.1 ≠ modbusErrorOk → result.2.outputBuffer = none

theorem illegal_stays (untouched : LaterUntouched w) (unset : w.outputBuffer = none) :
    HandlerStays w True (modbusErrorIllegalFunction, w) :=
  ⟨by simp, fun ok => absurd ok illegalFunction_ne_ok, fun _ => untouched, fun _ => unset⟩

theorem denied_stays (size length : Nat) (untouched : LaterUntouched w) (small : length ≤ 57) :
    HandlerStays w True (modbusErrorServerDeviceFailure,
      (w.emit (.access .request 7 length)).withoutOutput size) where
  contained := by
    have fits : length = 0 ∨ 7 + length ≤ 64 := by omega
    simp [Contained, or_imp, forall_and, fits]
  whole ok := absurd ok serverDeviceFailure_ne_ok
  untouched _ id offset length later := by
    have earlier := untouched id offset length (Nat.le_of_succ_le later)
    simpa using earlier
  unset _ := rfl

theorem readWord_stays (untouched : LaterUntouched w)
    (notHolding : ¬ FailedHolding
      (.of (modbusReadWordRequestHandler callbacks 7 (dataSize - 7) 7 0 w))) :
    HandlerStays w (w.allocates w.mallocs = true → (bigEndianAt w.request 10).toNat ≤ 127)
      (modbusReadWordRequestHandler callbacks 7 (dataSize - 7) 7 0 w) := by
  rw [readWord_failedHolding] at notHolding
  cases memory : w.allocates w.mallocs with
  | false =>
      rw [readWord_denied _ _ _ _ _ _ memory]
      simpa using denied_stays w _ 5 untouched (by omega)
  | true =>
      obtain ⟨readWords, present, answered⟩ : ∃ readWords, callbacks.readWords = some readWords ∧
          (readWordsAnswer readWords 7 w).1 = modbusErrorOk := by
        by_contra missing
        exact notHolding ⟨memory, fun readWords present answered =>
          missing ⟨readWords, present, answered⟩⟩
      rw [readWord_completed _ _ _ _ _ _ _ memory present answered]
      exact ⟨by simp [readWordsCompleted_contained w readWords untouched],
        fun _ => ⟨w.mallocs, readWordsCompleted_whole _ _ _ _ _ (by decide)⟩,
        fun refused => absurd rfl refused, fun refused => absurd rfl refused⟩

theorem readBit_stays (untouched : LaterUntouched w)
    (notHolding : ¬ FailedHolding
      (.of (modbusReadBitRequestHandler callbacks 7 (dataSize - 7) 7 0 w))) :
    HandlerStays w (w.allocates w.mallocs = true → (bigEndianAt w.request 10).toNat ≤ 2040)
      (modbusReadBitRequestHandler callbacks 7 (dataSize - 7) 7 0 w) := by
  rw [readBit_failedHolding] at notHolding
  cases memory : w.allocates w.mallocs with
  | false =>
      rw [readBit_denied _ _ _ _ _ _ memory]
      simpa using denied_stays w _ 5 untouched (by omega)
  | true =>
      obtain ⟨readBits, present, answered⟩ : ∃ readBits, callbacks.readBits = some readBits ∧
          (readBitsAnswer readBits 7 w).1 = modbusErrorOk := by
        by_contra missing
        exact notHolding ⟨memory, fun readBits present answered =>
          missing ⟨readBits, present, answered⟩⟩
      rw [readBit_completed _ _ _ _ _ _ _ memory present answered]
      exact ⟨by simp [readBitsCompleted_contained w readBits untouched],
        fun _ => ⟨w.mallocs, readBitsCompleted_whole _ _ _ _ _ (by decide)⟩,
        fun refused => absurd rfl refused, fun refused => absurd rfl refused⟩

theorem finishSingle_stays (ret : UInt8) (untouched : LaterUntouched w)
    (unset : w.outputBuffer = none) :
    HandlerStays w True (finishSingle 7 7 0 ret w) := by
  simp only [finishSingle]
  split
  · split
    · exact ⟨by simp [acknowledged_contained w untouched],
        fun _ => ⟨w.mallocs, acknowledged_whole _ _ _ _ (by decide)⟩,
        fun refused => absurd rfl refused, fun refused => absurd rfl refused⟩
    · refine ⟨by simp [Contained, or_imp, forall_and], fun ok => absurd ok serverDeviceFailure_ne_ok,
        fun _ id offset length later => ?_, fun _ => rfl⟩
      have earlier := untouched id offset length (Nat.le_of_succ_le later)
      simpa using earlier
  · rename_i refused
    exact ⟨by simp, fun ok => absurd ok refused, fun _ => untouched, fun _ => unset⟩

theorem HandlerStays.access {result : UInt8 × World σ} {fits : Prop}
    (stays : HandlerStays (w.emit (.access .request 7 5)) fits result) :
    HandlerStays w fits result where
  contained := stays.contained.trans (and_congr_left fun _ => by simp [Contained, or_imp, forall_and])
  whole := stays.whole
  untouched := stays.untouched
  unset := stays.unset

theorem writeSingle_stays (untouched : LaterUntouched w) (unset : w.outputBuffer = none)
    (kind : requestKind (w.request 7) = .writeSingle) :
    HandlerStays w True (modbusWriteRequestHandler callbacks 7 (dataSize - 7) 7 0 w) := by
  have stillUntouched : LaterUntouched (w.emit (.access .request 7 5)) :=
    fun id offset length later => by simpa using untouched id offset length later
  rcases writeSingle_code 7 w kind with isCoil | isRegister
  · cases present : callbacks.writeBits with
    | none =>
        rw [writeSingle_coil_absent _ _ _ _ _ _ isCoil present]
        exact (illegal_stays _ stillUntouched unset).access
    | some writeBits =>
        rw [writeSingle_coil _ _ _ _ _ _ isCoil present]
        have finished := finishSingle_stays (coilWritten 7 w writeBits)
          (writeCoilAnswer 7 w writeBits).1 (fun id offset length later => by
            simpa using untouched id offset length later) unset
        refine ⟨finished.contained.trans ?_, finished.whole, finished.untouched, finished.unset⟩
        simp [Contained, or_imp, forall_and]
  · cases present : callbacks.writeWords with
    | none =>
        rw [writeSingle_register_absent _ _ _ _ _ _ isRegister present]
        exact (illegal_stays _ stillUntouched unset).access
    | some writeWords =>
        rw [writeSingle_register _ _ _ _ _ _ isRegister present]
        have finished := finishSingle_stays (registerWritten 7 w writeWords)
          (writeRegisterAnswer 7 w writeWords).1 (fun id offset length later => by
            simpa using untouched id offset length later) unset
        refine ⟨finished.contained.trans ?_, finished.whole, finished.untouched, finished.unset⟩
        simp [Contained, or_imp, forall_and]

theorem writeCoils_stays (untouched : LaterUntouched w) (unset : w.outputBuffer = none)
    (idle : ¬ (w.allocates w.mallocs = true ∧ callbacks.writeBits.isSome)) :
    HandlerStays w True
      (modbusWriteMultipleCoilsRequestHandler callbacks 7 (dataSize - 7) 7 0 w) := by
  cases present : callbacks.writeBits with
  | none =>
      rw [writeCoils_absent _ _ _ _ _ _ present]
      exact illegal_stays w untouched unset
  | some writeBits =>
      have full : w.allocates w.mallocs = false := by simpa [present] using idle
      rw [writeCoils_denied _ _ _ _ _ _ _ present full]
      exact denied_stays w _ 6 untouched (by omega)

theorem writeRegisters_stays (untouched : LaterUntouched w) (unset : w.outputBuffer = none)
    (notHolding : ¬ FailedHolding
      (.of (modbusWriteMultipleRegistersRequestHandler callbacks 7 (dataSize - 7) 7 0 w))) :
    HandlerStays w (w.allocates w.mallocs = true → callbacks.writeWords.isSome →
        (w.request 12).toNat ≤ 25 ∧ (bigEndianAt w.request 10).toNat ≤ 25)
      (modbusWriteMultipleRegistersRequestHandler callbacks 7 (dataSize - 7) 7 0 w) := by
  cases present : callbacks.writeWords with
  | none =>
      rw [writeRegisters_absent _ _ _ _ _ _ present]
      simpa using illegal_stays w untouched unset
  | some writeWords =>
      cases memory : w.allocates w.mallocs with
      | false =>
          rw [writeRegisters_denied _ _ _ _ _ _ _ present memory]
          simpa using denied_stays w _ 6 untouched (by omega)
      | true =>
          rw [writeRegisters_granted _ _ _ _ _ _ _ present memory] at notHolding ⊢
          refine ⟨by simp [registersWritten_contained w writeWords untouched],
            fun _ => ⟨w.mallocs, registersWritten_whole _ _ _ _ _ (by decide)⟩, ?_, ?_⟩ <;>
            exact fun refused => absurd ⟨refused, _, rfl, by simp⟩ notHolding

theorem readWrite_stays (untouched : LaterUntouched w) (unset : w.outputBuffer = none)
    (idle : ¬ (w.allocates w.mallocs = true ∧ callbacks.readWords.isSome ∧
      callbacks.writeWords.isSome ∧ callbacks.writeBits.isSome)) :
    ∃ result, modbusReadWriteMultipleRegistersRequestHandler callbacks 7 (dataSize - 7) 7 0 w =
      .of result ∧ HandlerStays w True result := by
  by_cases absent : callbacks.readWords = none ∨ callbacks.writeWords = none
  · exact ⟨(_, w), readWrite_absent _ _ _ _ _ _ absent, illegal_stays w untouched unset⟩
  · obtain ⟨readable, writable⟩ := words_present callbacks absent
    cases present : callbacks.writeBits with
    | none =>
        exact ⟨(_, w), readWrite_noCoils _ _ _ _ _ _ readable writable present unset,
          illegal_stays w untouched unset⟩
    | some writeBits =>
        have full : w.allocates w.mallocs = false := by
          simpa [readable, writable, present] using idle
        exact ⟨(_, _), readWrite_denied _ _ _ _ _ _ _ readable writable present full,
          denied_stays w _ 6 untouched (by omega)⟩

theorem stays_iff (enough : 8 ≤ dataSize) {fits : Prop} {result : UInt8 × World σ}
    (ends : tcpHandled callbacks dataSize w.quiet = .of result)
    (stays : HandlerStays (dispatched w.quiet) fits result) :
    StaysInBuffers callbacks socket dataSize w ↔ fits := by
  have start : (dispatched w.quiet).Contained := by simp [Contained, or_imp, forall_and]
  have handler := stays.contained.trans (and_iff_right start)
  by_cases answered : result.1 = modbusErrorOk
  · obtain ⟨id, whole⟩ := stays.whole answered
    exact (answered_stays callbacks socket dataSize w enough id ends answered whole).trans handler
  · exact (refused_stays callbacks socket dataSize w enough ends answered (stays.unset answered)
      (stays.untouched answered)).trans handler

/-! The two handlers that move their block. The run stops where it is freed, after the header went
to bytes 7 to 13 of the twelve if the response was sent. -/

theorem freedOff_contained (written : World σ) (block : Pointer) :
    (written.emit (.free block)).Contained ↔ written.Contained := by
  simp [Contained, or_imp, forall_and]

theorem coils_stays_iff (enough : 8 ≤ dataSize)
    (kind : requestKind (w.request 7) = .writeMultipleCoils) (memory : w.allocates w.mallocs = true)
    (writeBits : WriteCallback σ UInt8) (present : callbacks.writeBits = some writeBits) :
    StaysInBuffers callbacks socket dataSize w ↔
      (writeCoilsAnswer writeBits 7 w).1 ≠ modbusErrorOk ∧
        (w.request 12).toNat ≤ 51 ∧ (bigEndianAt w.request 10).toNat ≤ 408 := by
  have ends := tcpHandled_eq callbacks dataSize w.quiet
  have granted : (dispatched w.quiet).allocates (dispatched w.quiet).mallocs = true := memory
  have selected : requestKind (w.quiet.request 7) = .writeMultipleCoils := kind
  simp only [selected, writeCoils_granted _ _ _ _ _ _ _ present granted] at ends
  have start : (dispatched w.quiet).Contained := by simp [Contained, or_imp, forall_and]
  have untouched : LaterUntouched (dispatched w.quiet) := fun id offset length _ => by simp
  have written := (coilsWritten_contained (dispatched w.quiet) writeBits untouched).trans
    (and_iff_right start)
  rw [StaysInBuffers]
  by_cases answered : (writeCoilsAnswer writeBits 7 w).1 = modbusErrorOk
  · refine iff_of_false ?_ fun refused => refused.1 answered
    rw [tcp_undelivered enough (handleRequest_answered ends answered) rfl (freeable_seven _ _)]
    intro contained
    have header := contained (.access (.block w.mallocs) 7 7) (by simp)
    simp [responseSize] at header
  · rw [tcp_stuck enough ends answered rfl (freeable_seven _ _), Outcome.world_stopped,
      freedOff_contained, written]
    simp [answered]

theorem readWrite_stays_iff (enough : 8 ≤ dataSize)
    (kind : requestKind (w.request 7) = .readWriteMultipleRegisters)
    (memory : w.allocates w.mallocs = true) (readable : callbacks.readWords.isSome)
    (writable : callbacks.writeWords.isSome) (present : callbacks.writeBits.isSome) :
    StaysInBuffers callbacks socket dataSize w ↔
      (w.request 12).toNat ≤ 51 ∧ (bigEndianAt w.request 10).toNat ≤ 408 := by
  obtain ⟨writeBits, present⟩ := Option.isSome_iff_exists.mp present
  have ends := tcpHandled_eq callbacks dataSize w.quiet
  have granted : (dispatched w.quiet).allocates (dispatched w.quiet).mallocs = true := memory
  have selected : requestKind (w.quiet.request 7) = .readWriteMultipleRegisters := kind
  simp only [selected, readWrite_stopped _ _ _ _ _ _ _ readable writable present granted
    (movedFreeable_seven _)] at ends
  have start : (dispatched w.quiet).Contained := by simp [Contained, or_imp, forall_and]
  have untouched : LaterUntouched (dispatched w.quiet) := fun id offset length _ => by simp
  rw [StaysInBuffers, tcp_halted enough ends, Outcome.world_stopped, freedOff_contained,
    coilsWritten_contained _ _ untouched, and_iff_right start]
  simp

/-- The quantity and the byte count announced fit the buffers the selected handler puts them
to. An accepted write of multiple coils never fits. -/
def QuantityFits : Prop :=
  let quantity := (bigEndianAt w.request 10).toNat
  let byteCount := (w.request 12).toNat
  match requestKind (w.request 7) with
  | .readBits => w.allocates w.mallocs = true → quantity ≤ 2040
  | .readWords => w.allocates w.mallocs = true → quantity ≤ 127
  | .writeSingle => True
  | .writeMultipleRegisters => w.allocates w.mallocs = true → callbacks.writeWords.isSome →
      byteCount ≤ 25 ∧ quantity ≤ 25
  | .writeMultipleCoils => w.allocates w.mallocs = true →
      ∀ writeBits, callbacks.writeBits = some writeBits →
        (writeCoilsAnswer writeBits 7 w).1 ≠ modbusErrorOk ∧ byteCount ≤ 51 ∧ quantity ≤ 408
  | .readWriteMultipleRegisters => w.allocates w.mallocs = true → callbacks.readWords.isSome →
      callbacks.writeWords.isSome → callbacks.writeBits.isSome → byteCount ≤ 51 ∧ quantity ≤ 408
  | .other => True

theorem handleRequest_staysInBuffers_iff :
    StaysInBuffers callbacks socket dataSize w ↔
      dataSize < 8 ∨ ¬ FailsHoldingResponse callbacks 7 7 w ∧ QuantityFits callbacks w := by
  by_cases short : dataSize < 8
  · simp [StaysInBuffers, tcp_short _ _ _ _ short, Contained, short]
  have enough : 8 ≤ dataSize := by omega
  rw [or_iff_right short]
  by_cases fails : FailsHoldingResponse callbacks 7 7 w
  · exact iff_of_false (failedHolding_leaves callbacks socket dataSize w enough fails)
      fun both => both.1 fails
  rw [and_iff_right fails]
  have notHolding := (tcpHandled_failedHolding callbacks dataSize w.quiet).not.mpr fails
  have untouched : LaterUntouched (dispatched w.quiet) := fun id offset length _ => by simp
  have ends := tcpHandled_eq callbacks dataSize w.quiet
  have same : QuantityFits callbacks (dispatched w.quiet) ↔ QuantityFits callbacks w := by
    simp only [QuantityFits, writeCoilsAnswer, dispatched_request, quiet_request, dispatched_mallocs,
      quiet_mallocs, dispatched_allocates, quiet_allocates, dispatched_app, quiet_app]
  have received : (dispatched w.quiet).request = w.quiet.request := by simp
  rw [← received] at ends
  rw [← same]
  simp only [QuantityFits]
  cases kind : requestKind ((dispatched w.quiet).request 7) with
  | readBits =>
      simp only [kind] at ends
      rw [ends] at notHolding
      exact stays_iff callbacks socket dataSize w enough ends
        (readBit_stays callbacks dataSize _ untouched notHolding)
  | readWords =>
      simp only [kind] at ends
      rw [ends] at notHolding
      exact stays_iff callbacks socket dataSize w enough ends
        (readWord_stays callbacks dataSize _ untouched notHolding)
  | writeSingle =>
      simp only [kind] at ends
      exact stays_iff callbacks socket dataSize w enough ends
        (writeSingle_stays callbacks dataSize _ untouched rfl kind)
  | writeMultipleRegisters =>
      simp only [kind] at ends
      rw [ends] at notHolding
      exact stays_iff callbacks socket dataSize w enough ends
        (writeRegisters_stays callbacks dataSize _ untouched rfl notHolding)
  | writeMultipleCoils =>
      simp only [kind] at ends
      by_cases writes : w.allocates w.mallocs = true ∧ callbacks.writeBits.isSome
      · obtain ⟨memory, present⟩ := writes
        obtain ⟨writeBits, present⟩ := Option.isSome_iff_exists.mp present
        rw [coils_stays_iff callbacks socket dataSize w enough kind memory writeBits present]
        simp [memory, present, writeCoilsAnswer]
      · refine (stays_iff callbacks socket dataSize w enough ends
          (writeCoils_stays callbacks dataSize _ untouched rfl writes)).trans
            (iff_true_intro fun memory writeBits present => absurd ?_ writes).symm
        exact ⟨memory, by simp [present]⟩
  | readWriteMultipleRegisters =>
      simp only [kind] at ends
      by_cases moves : w.allocates w.mallocs = true ∧ callbacks.readWords.isSome ∧
          callbacks.writeWords.isSome ∧ callbacks.writeBits.isSome
      · obtain ⟨memory, readable, writable, present⟩ := moves
        rw [readWrite_stays_iff callbacks socket dataSize w enough kind memory readable writable present]
        simp [memory, readable, writable, present]
      · obtain ⟨result, returned, stays⟩ :=
          readWrite_stays callbacks dataSize (dispatched w.quiet) untouched rfl moves
        refine (stays_iff callbacks socket dataSize w enough (ends.trans returned) stays).trans
          (iff_true_intro fun memory readable writable present => absurd ?_ moves).symm
        exact ⟨memory, readable, writable, present⟩
  | other =>
      simp only [kind] at ends
      refine stays_iff callbacks socket dataSize w enough ?_ (illegal_stays _ untouched rfl)
      exact ends

end Requests

/-! A read of 128 registers: its byte count is cut to zero, and the application fills 256 bytes
of a block of nine. -/

theorem longRead_leavesBlock :
    ¬ StaysInBuffers (acceptingCallbacks Unit) 0 12
      (World.initial () [0, 1, 0, 0, 0, 6, 1, 0x03, 0, 0, 0, 128]) := by
  intro contained
  have size : (modbusTcpHandleRequest (acceptingCallbacks Unit) 0 12
      (World.initial () [0, 1, 0, 0, 0, 6, 1, 0x03, 0, 0, 0, 128]).quiet).world.blockSize 0 = 9 := by
    decide +kernel
  have filled := contained (.access (.block 0) 9 256) (by decide +kernel)
  simp [size] at filled

end SpeFramework
