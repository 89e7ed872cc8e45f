import SpeFramework.Modbus.TcpCases

/-!
The blocks one TCP request allocates. Three functions pass a block's pointer on; a request
gives every block back when its handler leaves the pointer where `pvPortMalloc` put it and
does not fail while holding it. A pointer that was moved stops the run where it is freed.
-/

namespace SpeFramework

open RangeStore ByteOrder World

variable {σ : Type}

def Event.touches (id : Nat) : Event → Prop
  | .access (.block block) _ _ => block = id
  | .free pointer => pointer.block = id
  | _ => False

/-- The block is freed at its own address, for the first and only time, and left alone after. -/
def ReleasedOnce (log : List Event) (id : Nat) : Prop :=
  ∃ before after, log = before ++ .free ⟨id, 0⟩ :: after ∧
    (∀ offset, .free ⟨id, offset⟩ ∉ before) ∧ ∀ event ∈ after, ¬ event.touches id

/-- The request returns, and every block it was given has been freed once, at its own
address, and left alone since. -/
def ReturnsItsBlocks (callbacks : ModbusCallbacks σ) (socket : Int) (dataSize : Nat) (w : World σ) :
    Prop :=
  ∃ ret final, modbusTcpHandleRequest callbacks socket dataSize w.quiet = .returned ret final ∧
    ∀ size id, .malloc size (some id) ∈ final.log → ReleasedOnce final.log id

structure HoldsNothing (w : World σ) : Prop where
  unset : w.outputBuffer = none
  noBlock : ∀ size id, .malloc size (some id) ∉ w.log
  noFree : ∀ pointer, .free pointer ∉ w.log

structure HoldsWholeBlock (id : Nat) (w : World σ) : Prop where
  pointer : w.outputBuffer = some ⟨id, 0⟩
  taken : w.freeable ⟨id, 0⟩ = true
  size : w.outputSize.toNat = w.blockSize id
  room : 7 ≤ w.blockSize id

structure HoldsResponse (id : Nat) (w : World σ) : Prop extends HoldsWholeBlock id w where
  onlyBlock : ∀ size other, .malloc size (some other) ∈ w.log → other = id
  noFree : ∀ pointer, .free pointer ∉ w.log

section Handlers

variable (callbacks : ModbusCallbacks σ) (input inputSize : Nat) (prependSize appendSize : UInt8)
  (w : World σ)

/-- The handler is one that moves the caller's pointer, and gets a block to move it in. -/
def MovesItsBlock : Prop :=
  w.allocates w.mallocs = true ∧ callbacks.writeBits.isSome ∧
    (requestKind (w.request input) = .writeMultipleCoils ∨
      requestKind (w.request input) = .readWriteMultipleRegisters ∧
        callbacks.readWords.isSome ∧ callbacks.writeWords.isSome)

/-- How a handler that leaves the pointer in place can end. -/
inductive HandlerEnd (result : UInt8 × World σ) : Prop
  | answered (ok : result.1 = modbusErrorOk) (id : Nat) (holds : HoldsResponse id result.2)
  | refused (failed : result.1 ≠ modbusErrorOk) (nothing : HoldsNothing result.2)
  | holding (failed : FailedHolding (.of result))

theorem responseSize_toNat (pduSize : Nat) (small : pduSize ≤ 257) :
    (UInt16.ofNat (responseSize pduSize prependSize appendSize)).toNat =
      pduSize + prependSize.toNat + appendSize.toNat :=
  UInt16.toNat_ofNat_of_lt (responseSize_small pduSize prependSize appendSize small)

/-! Every response but that of multiple coils fills the block its handler was granted. -/

theorem readWordsCompleted_whole (readWords : ReadCallback σ UInt16)
    (room : 7 ≤ prependSize.toNat) :
    HoldsWholeBlock w.mallocs (readWordsCompleted readWords input prependSize appendSize w) where
  pointer := by simp
  taken := by simp
  size := by
    have byteBound := (wordByteCount input w.request).toNat_lt
    rw [readWordsCompleted_outputSize, responseSize_toNat _ _ _ (by omega)]
    simp [responseSize]
  room := by
    simp [responseSize]
    omega

theorem readBitsCompleted_whole (readBits : ReadCallback σ UInt8) (room : 7 ≤ prependSize.toNat) :
    HoldsWholeBlock w.mallocs (readBitsCompleted readBits input prependSize appendSize w) where
  pointer := by simp
  taken := by simp
  size := by
    have byteBound := (bitByteCount input w.request).toNat_lt
    rw [readBitsCompleted_outputSize, responseSize_toNat _ _ _ (by omega)]
    simp [responseSize]
  room := by
    simp [responseSize]
    omega

theorem acknowledged_whole (room : 7 ≤ prependSize.toNat) :
    HoldsWholeBlock w.mallocs (acknowledged input prependSize appendSize w) where
  pointer := by simp
  taken := by simp
  size := by
    rw [acknowledged_outputSize, responseSize_toNat _ _ _ (by omega)]
    simp [responseSize]
  room := by
    simp [responseSize]
    omega

theorem registersWritten_whole (writeWords : WriteCallback σ UInt16)
    (room : 7 ≤ prependSize.toNat) :
    HoldsWholeBlock w.mallocs (registersWritten writeWords input prependSize appendSize w) where
  pointer := by simp
  taken := by simp
  size := by
    rw [registersWritten_outputSize, responseSize_toNat _ _ _ (by omega)]
    simp [responseSize]
  room := by
    simp [responseSize]
    omega

theorem errorReported_whole (functionCode errorCode : UInt8) (room : 7 ≤ prependSize.toNat) :
    HoldsWholeBlock w.mallocs
      (errorReported prependSize appendSize w functionCode errorCode) where
  pointer := by simp
  taken := by simp
  size := by
    rw [errorReported_outputSize, responseSize_toNat _ _ _ (by omega)]
    simp [responseSize]
  room := by
    simp [responseSize]
    omega

theorem readWord_end (nothing : HoldsNothing w) (room : 7 ≤ prependSize.toNat) :
    HandlerEnd (modbusReadWordRequestHandler callbacks input inputSize prependSize appendSize w) := by
  obtain ⟨unset, noBlock, noFree⟩ := nothing
  cases memory : w.allocates w.mallocs with
  | false =>
      rw [readWord_denied _ _ _ _ _ _ memory]
      exact .refused serverDeviceFailure_ne_ok ⟨by simp, by simp [noBlock], by simp [noFree]⟩
  | true =>
      by_cases completed : ∃ readWords, callbacks.readWords = some readWords ∧
          (readWordsAnswer readWords input w).1 = modbusErrorOk
      · obtain ⟨readWords, present, answered⟩ := completed
        rw [readWord_completed _ _ _ _ _ _ _ memory present answered]
        refine .answered rfl w.mallocs ⟨readWordsCompleted_whole _ _ _ _ _ room, ?_, ?_⟩
        · simp [noBlock]
        · simp [noFree]
      · refine .holding ((readWord_failedHolding ..).mpr ⟨memory, fun readWords present answered => ?_⟩)
        exact completed ⟨readWords, present, answered⟩

theorem readBit_end (nothing : HoldsNothing w) (room : 7 ≤ prependSize.toNat) :
    HandlerEnd (modbusReadBitRequestHandler callbacks input inputSize prependSize appendSize w) := by
  obtain ⟨unset, noBlock, noFree⟩ := nothing
  cases memory : w.allocates w.mallocs with
  | false =>
      rw [readBit_denied _ _ _ _ _ _ memory]
      exact .refused serverDeviceFailure_ne_ok ⟨by simp, by simp [noBlock], by simp [noFree]⟩
  | true =>
      by_cases completed : ∃ readBits, callbacks.readBits = some readBits ∧
          (readBitsAnswer readBits input w).1 = modbusErrorOk
      · obtain ⟨readBits, present, answered⟩ := completed
        rw [readBit_completed _ _ _ _ _ _ _ memory present answered]
        refine .answered rfl w.mallocs ⟨readBitsCompleted_whole _ _ _ _ _ room, ?_, ?_⟩
        · simp [noBlock]
        · simp [noFree]
      · refine .holding ((readBit_failedHolding ..).mpr ⟨memory, fun readBits present answered => ?_⟩)
        exact completed ⟨readBits, present, answered⟩

theorem HoldsNothing.coilWritten (nothing : HoldsNothing w) (writeBits : WriteCallback σ UInt8) :
    HoldsNothing (coilWritten input w writeBits) where
  unset := by simp [nothing.unset]
  noBlock := by simp [nothing.noBlock]
  noFree := by simp [nothing.noFree]

theorem HoldsNothing.registerWritten (nothing : HoldsNothing w)
    (writeWords : WriteCallback σ UInt16) : HoldsNothing (registerWritten input w writeWords) where
  unset := by simp [nothing.unset]
  noBlock := by simp [nothing.noBlock]
  noFree := by simp [nothing.noFree]

theorem HoldsNothing.access (nothing : HoldsNothing w) (area : Area) (offset length : Nat) :
    HoldsNothing (w.emit (.access area offset length)) where
  unset := nothing.unset
  noBlock := by simp [nothing.noBlock]
  noFree := by simp [nothing.noFree]

theorem HoldsNothing.withoutOutput (nothing : HoldsNothing w) (size : Nat) :
    HoldsNothing (w.withoutOutput size) where
  unset := rfl
  noBlock := by simp [nothing.noBlock]
  noFree := by simp [nothing.noFree]

theorem finishSingle_end (ret : UInt8) (nothing : HoldsNothing w) (room : 7 ≤ prependSize.toNat) :
    HandlerEnd (finishSingle input prependSize appendSize ret w) := by
  simp only [finishSingle]
  split
  · split
    · refine .answered rfl w.mallocs ⟨acknowledged_whole _ _ _ _ room, ?_, ?_⟩
      · simp [nothing.noBlock]
      · simp [nothing.noFree]
    · exact .refused serverDeviceFailure_ne_ok (nothing.withoutOutput w _)
  · rename_i refused
    exact .refused refused nothing

theorem writeSingle_end (nothing : HoldsNothing w) (room : 7 ≤ prependSize.toNat)
    (kind : requestKind (w.request input) = .writeSingle) :
    HandlerEnd (modbusWriteRequestHandler callbacks input inputSize prependSize appendSize w) := by
  rcases writeSingle_code input w kind with isCoil | isRegister
  · cases present : callbacks.writeBits with
    | none =>
        rw [writeSingle_coil_absent _ _ _ _ _ _ isCoil present]
        exact .refused illegalFunction_ne_ok (nothing.access w _ _ _)
    | some writeBits =>
        rw [writeSingle_coil _ _ _ _ _ _ isCoil present]
        exact finishSingle_end _ _ _ _ _ (nothing.coilWritten input w writeBits) room
  · cases present : callbacks.writeWords with
    | none =>
        rw [writeSingle_register_absent _ _ _ _ _ _ isRegister present]
        exact .refused illegalFunction_ne_ok (nothing.access w _ _ _)
    | some writeWords =>
        rw [writeSingle_register _ _ _ _ _ _ isRegister present]
        exact finishSingle_end _ _ _ _ _ (nothing.registerWritten input w writeWords) room

theorem writeRegisters_end (nothing : HoldsNothing w) (room : 7 ≤ prependSize.toNat) :
    HandlerEnd (modbusWriteMultipleRegistersRequestHandler callbacks input inputSize prependSize
      appendSize w) := by
  cases present : callbacks.writeWords with
  | none =>
      rw [writeRegisters_absent _ _ _ _ _ _ present]
      exact .refused illegalFunction_ne_ok nothing
  | some writeWords =>
      cases memory : w.allocates w.mallocs with
      | false =>
          rw [writeRegisters_denied _ _ _ _ _ _ _ present memory]
          exact .refused serverDeviceFailure_ne_ok ((nothing.access w _ _ _).withoutOutput _ _)
      | true =>
          rw [writeRegisters_granted _ _ _ _ _ _ _ present memory]
          by_cases answered : (writeRegistersAnswer writeWords input w).1 = modbusErrorOk
          · refine .answered answered w.mallocs ⟨registersWritten_whole _ _ _ _ _ room, ?_, ?_⟩
            · simp [nothing.noBlock]
            · simp [nothing.noFree]
          · exact .holding ⟨answered, _, rfl, by simp⟩

theorem selected_end (nothing : HoldsNothing w) (room : 7 ≤ prependSize.toNat)
    (still : ¬ MovesItsBlock callbacks input w) :
    ∃ result, modbusSelectedHandler callbacks input inputSize prependSize appendSize w = .of result ∧
      HandlerEnd result := by
  simp only [modbusSelectedHandler]
  simp only [MovesItsBlock] at still
  cases kind : requestKind (w.request input) with
  | readBits => exact ⟨_, rfl, readBit_end _ _ _ _ _ _ nothing room⟩
  | readWords => exact ⟨_, rfl, readWord_end _ _ _ _ _ _ nothing room⟩
  | writeSingle => exact ⟨_, rfl, writeSingle_end _ _ _ _ _ _ nothing room kind⟩
  | writeMultipleRegisters => exact ⟨_, rfl, writeRegisters_end _ _ _ _ _ _ nothing room⟩
  | writeMultipleCoils =>
      refine ⟨_, rfl, ?_⟩
      cases present : callbacks.writeBits with
      | none =>
          simp only [writeCoils_absent _ _ _ _ _ _ present]
          exact .refused illegalFunction_ne_ok nothing
      | some writeBits =>
          have full : w.allocates w.mallocs = false := by simpa [kind, present] using still
          simp only [writeCoils_denied _ _ _ _ _ _ _ present full]
          exact .refused serverDeviceFailure_ne_ok ((nothing.access w _ _ _).withoutOutput _ _)
  | readWriteMultipleRegisters =>
      by_cases absent : callbacks.readWords = none ∨ callbacks.writeWords = none
      · exact ⟨(_, w), readWrite_absent _ _ _ _ _ _ absent, .refused illegalFunction_ne_ok nothing⟩
      · obtain ⟨readable, writable⟩ := words_present callbacks absent
        cases present : callbacks.writeBits with
        | none =>
            exact ⟨(_, w), readWrite_noCoils _ _ _ _ _ _ readable writable present nothing.unset,
              .refused illegalFunction_ne_ok nothing⟩
        | some writeBits =>
            have full : w.allocates w.mallocs = false := by
              simpa [kind, present, readable, writable] using still
            exact ⟨(_, _), readWrite_denied _ _ _ _ _ _ _ readable writable present full,
              .refused serverDeviceFailure_ne_ok ((nothing.access w _ _ _).withoutOutput _ _)⟩
  | other => exact ⟨(_, w), rfl, .refused illegalFunction_ne_ok nothing⟩

end Handlers

section Requests

variable (callbacks : ModbusCallbacks σ) (socket : Int) (dataSize : Nat) (w : World σ)

theorem tcpStarted_holdsNothing : HoldsNothing (tcpStarted w.quiet) where
  unset := rfl
  noBlock := by simp
  noFree := by simp

theorem delivered_releases (request : Memory) (id : Nat) (final : World σ)
    (holds : HoldsResponse id final) (size other : Nat)
    (granted : .malloc size (some other) ∈ (delivered socket request ⟨id, 0⟩ final).log) :
    ReleasedOnce (delivered socket request ⟨id, 0⟩ final).log other := by
  have own : other = id := by
    simp only [delivered_log, List.mem_append, List.mem_cons, reduceCtorEq, List.not_mem_nil,
      or_self, or_false] at granted
    exact holds.onlyBlock size other granted
  subst own
  refine ⟨(completed socket request ⟨other, 0⟩ final).log, [], ?_, ?_, by simp⟩
  · simp
  · simp [holds.noFree]

theorem errorReported_holds (final : World σ) (functionCode errorCode : UInt8)
    (nothing : HoldsNothing final) :
    HoldsResponse final.mallocs (errorReported 7 0 final functionCode errorCode) where
  toHoldsWholeBlock := errorReported_whole 7 0 final functionCode errorCode (by decide)
  onlyBlock := by simp [nothing.noBlock]
  noFree := by simp [nothing.noFree]

theorem movedBlock_stops (enough : 8 ≤ dataSize) (moves : MovesItsBlock callbacks 7 w) :
    ∃ before : World σ, modbusTcpHandleRequest callbacks socket dataSize w =
      .stopped (before.emit (.free ⟨w.mallocs, 7⟩)) := by
  obtain ⟨memory, written, kinds⟩ := moves
  obtain ⟨writeBits, present⟩ := Option.isSome_iff_exists.mp written
  have granted : (dispatched w).allocates (dispatched w).mallocs = true := memory
  have ends := tcpHandled_eq callbacks dataSize w
  rcases kinds with kind | ⟨kind, readable, writable⟩
  · simp only [kind, writeCoils_granted _ _ _ _ _ _ _ present granted] at ends
    by_cases answered : (writeCoilsAnswer writeBits 7 (dispatched w)).1 = modbusErrorOk
    · exact ⟨_, tcp_undelivered enough (handleRequest_answered ends answered) rfl (freeable_seven _ _)⟩
    · exact ⟨_, tcp_stuck enough ends answered rfl (freeable_seven _ _)⟩
  · simp only [kind, readWrite_stopped _ _ _ _ _ _ _ readable writable present granted
      (movedFreeable_seven _)] at ends
    exact ⟨_, tcp_halted enough ends⟩

theorem handleRequest_returnsItsBlocks_iff :
    ReturnsItsBlocks callbacks socket dataSize w ↔
      dataSize < 8 ∨ ¬ FailsHoldingResponse callbacks 7 7 w ∧ ¬ MovesItsBlock callbacks 7 w := by
  by_cases short : dataSize < 8
  · refine iff_of_true ⟨3, w.quiet, tcp_short callbacks socket dataSize w.quiet short, ?_⟩ (.inl short)
    simp
  · have enough : 8 ≤ dataSize := by omega
    rw [or_iff_right short]
    constructor
    · rintro ⟨ret, final, returned, released⟩
      refine ⟨fun fails => ?_, fun moves => ?_⟩
      · obtain ⟨before, faulted⟩ := tcp_failedHolding socket enough
          ((tcpHandled_failedHolding callbacks dataSize w.quiet).mpr fails)
        rw [faulted] at returned
        contradiction
      · obtain ⟨before, stopped⟩ := movedBlock_stops callbacks socket dataSize w.quiet enough moves
        rw [stopped] at returned
        contradiction
    · rintro ⟨notHolding, still⟩
      have start : HoldsNothing (dispatched w.quiet) :=
        (tcpStarted_holdsNothing w).access _ _ _ _
      obtain ⟨result, ends, handlerEnd⟩ :=
        selected_end callbacks 7 (dataSize - 7) 7 0 (dispatched w.quiet) start (by decide) still
      change tcpHandled callbacks dataSize w.quiet = .returned result.1 result.2 at ends
      rcases handlerEnd with ⟨answered, id, holds⟩ | ⟨refused, nothing⟩ | failed
      · exact ⟨_, _, tcp_answered enough ends answered holds.pointer holds.taken,
          delivered_releases socket _ id _ holds⟩
      · cases memory : result.2.allocates result.2.mallocs with
        | true =>
            exact ⟨_, _, tcp_reported enough ends refused nothing.unset memory,
              delivered_releases socket _ _ _ (errorReported_holds _ _ _ nothing)⟩
        | false =>
            refine ⟨_, _, tcp_unreported enough ends refused nothing.unset memory,
              fun size id granted => ?_⟩
            rw [errorUnreported_log] at granted
            exact absurd granted (by simpa using nothing.noBlock size id)
      · have fails : FailedHolding (tcpHandled callbacks dataSize w.quiet) := by
          rw [ends]
          exact failed
        exact absurd ((tcpHandled_failedHolding callbacks dataSize w.quiet).mp fails) notHolding

end Requests

/-! A write of one coil, which succeeds: its block is freed seven bytes off. -/

theorem coilWrite_freedOff :
    ¬ ReturnsItsBlocks (acceptingCallbacks Unit) 0 14
      (World.initial () [0, 1, 0, 0, 0, 8, 1, 0x0F, 0, 0, 0, 1, 1, 1]) := by
  rintro ⟨ret, final, returned, -⟩
  obtain ⟨before, stopped⟩ := movedBlock_stops (acceptingCallbacks Unit) 0 14
    (World.initial () [0, 1, 0, 0, 0, 8, 1, 0x0F, 0, 0, 0, 1, 1, 1]).quiet (by decide)
    ⟨rfl, rfl, .inl (by decide)⟩
  rw [stopped] at returned
  contradiction

end SpeFramework
