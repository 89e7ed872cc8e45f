import SpeFramework.Modbus.ErrorPath
import SpeFramework.Modbus.Tcp

/-!
The ends of one TCP request, by what the dispatcher left behind: a run that has ended, no
response block, or a block that is completed with the header, sent and freed.
-/

namespace SpeFramework

open RangeStore ByteOrder World

variable {σ : Type} (callbacks : ModbusCallbacks σ) (socket : Int) (dataSize : Nat) (w : World σ)

@[simps -fullyApplied] def World.quiet (w : World σ) : World σ := { w with log := [] }

@[simps! -fullyApplied app request heap blockSize readsAllocated allocates mallocs outputBuffer log]
def tcpStarted : World σ := w.freshOutput.emit (.access .request 0 7)

@[simps! -fullyApplied app request heap blockSize readsAllocated allocates mallocs outputBuffer log]
def dispatched : World σ := (tcpStarted w).emit (.access .request 7 1)

def tcpHandled : Outcome σ UInt8 :=
  handled callbacks 7 (dataSize - 7) 7 0 (tcpStarted w)

theorem tcpHandled_eq :
    tcpHandled callbacks dataSize w = match requestKind (w.request 7) with
      | .readBits => .of (modbusReadBitRequestHandler callbacks 7 (dataSize - 7) 7 0 (dispatched w))
      | .readWords => .of (modbusReadWordRequestHandler callbacks 7 (dataSize - 7) 7 0 (dispatched w))
      | .writeSingle => .of (modbusWriteRequestHandler callbacks 7 (dataSize - 7) 7 0 (dispatched w))
      | .writeMultipleRegisters =>
          .of (modbusWriteMultipleRegistersRequestHandler callbacks 7 (dataSize - 7) 7 0 (dispatched w))
      | .writeMultipleCoils =>
          .of (modbusWriteMultipleCoilsRequestHandler callbacks 7 (dataSize - 7) 7 0 (dispatched w))
      | .readWriteMultipleRegisters =>
          modbusReadWriteMultipleRegistersRequestHandler callbacks 7 (dataSize - 7) 7 0 (dispatched w)
      | .other => .returned modbusErrorIllegalFunction (dispatched w) := rfl

def responseHeader (request : Memory) (size : UInt16) : List UInt8 :=
  modbusMbapFillFromStruct { modbusMbapFillStruct request 0 with length := size - 7 + 1 }

@[simp] theorem responseHeader_length (request : Memory) (size : UInt16) :
    (responseHeader request size).length = 7 := rfl

@[simps! -fullyApplied app request heap blockSize readsAllocated allocates mallocs outputBuffer outputSize log]
def completed (request : Memory) (sendBuffer : Pointer) (final : World σ) : World σ :=
  (final.store sendBuffer (responseHeader request final.outputSize)).lwipSend socket sendBuffer
    final.outputSize.toNat

@[simps! -fullyApplied app request heap blockSize readsAllocated allocates mallocs outputBuffer outputSize log]
def delivered (request : Memory) (sendBuffer : Pointer) (final : World σ) : World σ :=
  ((completed socket request sendBuffer final).freed sendBuffer).setOutput none

@[simp] theorem completed_freeable (request : Memory) (sendBuffer : Pointer) (final : World σ) :
    (completed socket request sendBuffer final).freeable sendBuffer = final.freeable sendBuffer := rfl

theorem tcp_short (short : dataSize < 8) :
    modbusTcpHandleRequest callbacks socket dataSize w = .returned 3 w := by
  simp [modbusTcpHandleRequest, short]

theorem tcp_dispatch (enough : 8 ≤ dataSize) :
    modbusTcpHandleRequest callbacks socket dataSize w =
      (modbusHandleRequest callbacks 7 (dataSize - 7) 7 0 (tcpStarted w)).bind fun ret final =>
        match final.outputBuffer with
        | none => .returned ret final
        | some sendBuffer =>
            if final.freeable sendBuffer then
              .returned ret (delivered socket w.request sendBuffer final)
            else .stopped ((completed socket w.request sendBuffer final).emit (.free sendBuffer)) := by
  have notShort : ¬ dataSize < 8 := by omega
  rw [modbusTcpHandleRequest, if_neg notShort]
  change (modbusHandleRequest callbacks 7 (dataSize - 7) 7 0 (tcpStarted w)).bind _ = _
  congr 1
  funext ret final
  cases final.outputBuffer with
  | none => rfl
  | some sendBuffer =>
      change ((completed socket w.request sendBuffer final).vPortFree sendBuffer).bind _ =
        if final.freeable sendBuffer = true then _ else _
      rw [vPortFree, completed_freeable]
      split <;> rfl

section Ends

variable {callbacks socket dataSize w} {ret : UInt8} {final : World σ} {sendBuffer : Pointer}

theorem tcp_stopped (enough : 8 ≤ dataSize)
    (stopped : modbusHandleRequest callbacks 7 (dataSize - 7) 7 0 (tcpStarted w) = .stopped final) :
    modbusTcpHandleRequest callbacks socket dataSize w = .stopped final := by
  rw [tcp_dispatch _ _ _ _ enough, stopped, Outcome.bind_stopped]

theorem tcp_fault (enough : 8 ≤ dataSize)
    (faulted : modbusHandleRequest callbacks 7 (dataSize - 7) 7 0 (tcpStarted w) = .fault final) :
    modbusTcpHandleRequest callbacks socket dataSize w = .fault final := by
  rw [tcp_dispatch _ _ _ _ enough, faulted, Outcome.bind_fault]

theorem tcp_silent (enough : 8 ≤ dataSize)
    (returned : modbusHandleRequest callbacks 7 (dataSize - 7) 7 0 (tcpStarted w) =
      .returned ret final)
    (unset : final.outputBuffer = none) :
    modbusTcpHandleRequest callbacks socket dataSize w = .returned ret final := by
  rw [tcp_dispatch _ _ _ _ enough, returned, Outcome.bind_returned, unset]

theorem tcp_delivered (enough : 8 ≤ dataSize)
    (returned : modbusHandleRequest callbacks 7 (dataSize - 7) 7 0 (tcpStarted w) =
      .returned ret final)
    (held : final.outputBuffer = some sendBuffer) (taken : final.freeable sendBuffer = true) :
    modbusTcpHandleRequest callbacks socket dataSize w =
      .returned ret (delivered socket w.request sendBuffer final) := by
  simp only [tcp_dispatch _ _ _ _ enough, returned, Outcome.bind_returned, held, taken, if_true]

theorem tcp_undelivered (enough : 8 ≤ dataSize)
    (returned : modbusHandleRequest callbacks 7 (dataSize - 7) 7 0 (tcpStarted w) =
      .returned ret final)
    (held : final.outputBuffer = some sendBuffer) (stuck : final.freeable sendBuffer = false) :
    modbusTcpHandleRequest callbacks socket dataSize w =
      .stopped ((completed socket w.request sendBuffer final).emit (.free sendBuffer)) := by
  simp only [tcp_dispatch _ _ _ _ enough, returned, Outcome.bind_returned, held, stuck,
    Bool.false_eq_true, if_false]

/-- The response is sent before its block is freed, whether or not the heap takes the pointer. -/
theorem tcp_sent_log (enough : 8 ≤ dataSize)
    (returned : modbusHandleRequest callbacks 7 (dataSize - 7) 7 0 (tcpStarted w) =
      .returned ret final)
    (held : final.outputBuffer = some sendBuffer) :
    (modbusTcpHandleRequest callbacks socket dataSize w).world.log =
      (delivered socket w.request sendBuffer final).log := by
  cases taken : final.freeable sendBuffer with
  | true => rw [tcp_delivered enough returned held taken, Outcome.world_returned]
  | false =>
      rw [tcp_undelivered enough returned held taken, Outcome.world_stopped]
      rfl

/-! The same ends, from the handler's result. -/

theorem tcp_halted (enough : 8 ≤ dataSize)
    (ends : tcpHandled callbacks dataSize w = .stopped final) :
    modbusTcpHandleRequest callbacks socket dataSize w = .stopped final :=
  tcp_stopped enough (handleRequest_stopped ends)

theorem tcp_answered (enough : 8 ≤ dataSize)
    (ends : tcpHandled callbacks dataSize w = .returned ret final) (answered : ret = modbusErrorOk)
    (held : final.outputBuffer = some sendBuffer) (taken : final.freeable sendBuffer = true) :
    modbusTcpHandleRequest callbacks socket dataSize w =
      .returned modbusErrorOk (delivered socket w.request sendBuffer final) :=
  tcp_delivered enough (handleRequest_answered ends answered) held taken

theorem tcp_answered_log (enough : 8 ≤ dataSize)
    (ends : tcpHandled callbacks dataSize w = .returned ret final) (answered : ret = modbusErrorOk)
    (held : final.outputBuffer = some sendBuffer) :
    (modbusTcpHandleRequest callbacks socket dataSize w).world.log =
      (delivered socket w.request sendBuffer final).log :=
  tcp_sent_log enough (handleRequest_answered ends answered) held

variable (socket) in
theorem tcp_failedHolding (enough : 8 ≤ dataSize)
    (failed : FailedHolding (tcpHandled callbacks dataSize w)) :
    ∃ before : World σ, modbusTcpHandleRequest callbacks socket dataSize w =
      .fault (before.emit (.access .null 0 4)) := by
  obtain ⟨before, faulted⟩ := handleRequest_fault failed
  exact ⟨before, tcp_fault enough faulted⟩

theorem tcp_stuck (enough : 8 ≤ dataSize)
    (ends : tcpHandled callbacks dataSize w = .returned ret final) (refused : ret ≠ modbusErrorOk)
    (held : final.outputBuffer = some sendBuffer) (stuck : final.freeable sendBuffer = false) :
    modbusTcpHandleRequest callbacks socket dataSize w = .stopped (final.emit (.free sendBuffer)) :=
  tcp_stopped enough (handleRequest_stuck ends refused held stuck)

theorem tcp_reported (enough : 8 ≤ dataSize)
    (ends : tcpHandled callbacks dataSize w = .returned ret final) (refused : ret ≠ modbusErrorOk)
    (unset : final.outputBuffer = none) (memory : final.allocates final.mallocs = true) :
    modbusTcpHandleRequest callbacks socket dataSize w =
      .returned modbusErrorOk (delivered socket w.request ⟨final.mallocs, 0⟩
        (errorReported 7 0 final (w.request 7) ret)) :=
  tcp_delivered enough (handleRequest_reported ends refused unset memory) rfl (by simp)

theorem tcp_unreported (enough : 8 ≤ dataSize)
    (ends : tcpHandled callbacks dataSize w = .returned ret final) (refused : ret ≠ modbusErrorOk)
    (unset : final.outputBuffer = none) (full : final.allocates final.mallocs = false) :
    modbusTcpHandleRequest callbacks socket dataSize w =
      .returned modbusErrorOk (errorUnreported 7 0 final) :=
  tcp_silent enough (handleRequest_unreported ends refused unset full) rfl

end Ends

theorem tcpHandled_failedHolding :
    FailedHolding (tcpHandled callbacks dataSize w) ↔ FailsHoldingResponse callbacks 7 7 w :=
  handled_failedHolding callbacks 7 (dataSize - 7) 7 0 (tcpStarted w) rfl

/-! An application that accepts every write and answers every read with nothing. -/

def acceptingCallbacks (σ : Type) : ModbusCallbacks σ where
  readBits := some fun _ _ _ _ app => (modbusErrorOk, [], app)
  writeBits := some fun _ _ _ _ _ app => (modbusErrorOk, app)
  readWords := some fun _ _ _ _ app => (modbusErrorOk, [], app)
  writeWords := some fun _ _ _ _ _ app => (modbusErrorOk, app)
  otherFunctions := none

end SpeFramework
