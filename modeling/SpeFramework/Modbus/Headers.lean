import SpeFramework.Modbus.Acknowledgement
import SpeFramework.Modbus.Replies

/-!
The MBAP header of what is sent. Encoding and decoding are inverse on every header and on every
seven bytes; the length is taken from the size the handler stated, which is never below the
seven bytes the header goes into.
-/

namespace SpeFramework

open RangeStore ByteOrder World

theorem fillStruct_fillFromStruct (header : MBAPHeader) (memory : Memory) (start : Nat) :
    modbusMbapFillStruct (writeRange memory start (modbusMbapFillFromStruct header)) start =
      header := by
  simp [modbusMbapFillStruct, modbusMbapFillFromStruct, bigEndianAt, writeRange, wordOfBytes_split,
    Nat.add_assoc]

theorem fillFromStruct_fillStruct (memory : Memory) (start : Nat) :
    modbusMbapFillFromStruct (modbusMbapFillStruct memory start) = readRange memory start 7 := by
  simp [modbusMbapFillFromStruct, modbusMbapFillStruct, bigEndianAt, readRange, List.range_succ]

variable {σ : Type}

/-- The decoded header of `bytes` has the request's identifiers and the length of what follows
the length field. -/
def CarriesHeader (request : Memory) (bytes : List UInt8) : Prop :=
  7 ≤ bytes.length ∧
    let decoded := modbusMbapFillStruct (writeRange (fun _ => 0) 0 (bytes.take 7)) 0
    let asked := modbusMbapFillStruct request 0
    decoded.transactionId = asked.transactionId ∧ decoded.protocolId = asked.protocolId ∧
      decoded.unitId = asked.unitId ∧ decoded.length.toNat = bytes.length - 6

section Handlers

variable (callbacks : ModbusCallbacks σ) (input inputSize : Nat) (prependSize appendSize : UInt8)
  (w : World σ)

/-- Nothing is sent yet, and a response has room for the header. -/
structure SendReady (final : World σ) : Prop where
  quiet : sent final.log = []
  room : final.outputBuffer.isSome → 7 ≤ final.outputSize.toNat

theorem responseSize_room (pduSize : Nat) (small : pduSize ≤ 257) (room : 7 ≤ prependSize.toNat) :
    7 ≤ (UInt16.ofNat (responseSize pduSize prependSize appendSize)).toNat := by
  have fits : (UInt16.ofNat (responseSize pduSize prependSize appendSize)).toNat =
      responseSize pduSize prependSize appendSize :=
    UInt16.toNat_ofNat_of_lt (responseSize_small pduSize prependSize appendSize small)
  rw [fits, responseSize]
  omega

theorem readWord_sendReady (quiet : sent w.log = []) (room : 7 ≤ prependSize.toNat) :
    SendReady
      (modbusReadWordRequestHandler callbacks input inputSize prependSize appendSize w).2 := by
  have bound := (wordByteCount input w.request).toNat_lt
  have size := responseSize_room prependSize appendSize
    (2 + (wordByteCount input w.request).toNat) (by omega) room
  cases memory : w.allocates w.mallocs with
  | false =>
      rw [readWord_denied _ _ _ _ _ _ memory]
      exact ⟨by simp [quiet], by simp⟩
  | true =>
      cases present : callbacks.readWords with
      | none =>
          rw [readWord_absent _ _ _ _ _ _ memory present]
          exact ⟨by simp [quiet], fun _ => size⟩
      | some readWords =>
          by_cases answered : (readWordsAnswer readWords input w).1 = modbusErrorOk
          · rw [readWord_completed _ _ _ _ _ _ _ memory present answered]
            exact ⟨by simp [quiet], fun _ => size⟩
          · rw [readWord_refused _ _ _ _ _ _ _ memory present answered]
            exact ⟨by simp [quiet], fun _ => size⟩

theorem readBit_sendReady (quiet : sent w.log = []) (room : 7 ≤ prependSize.toNat) :
    SendReady
      (modbusReadBitRequestHandler callbacks input inputSize prependSize appendSize w).2 := by
  have bound := (bitByteCount input w.request).toNat_lt
  have size := responseSize_room prependSize appendSize
    (2 + (bitByteCount input w.request).toNat) (by omega) room
  cases memory : w.allocates w.mallocs with
  | false =>
      rw [readBit_denied _ _ _ _ _ _ memory]
      exact ⟨by simp [quiet], by simp⟩
  | true =>
      cases present : callbacks.readBits with
      | none =>
          rw [readBit_absent _ _ _ _ _ _ memory present]
          exact ⟨by simp [quiet], fun _ => size⟩
      | some readBits =>
          by_cases answered : (readBitsAnswer readBits input w).1 = modbusErrorOk
          · rw [readBit_completed _ _ _ _ _ _ _ memory present answered]
            exact ⟨by simp [quiet], fun _ => size⟩
          · rw [readBit_refused _ _ _ _ _ _ _ memory present answered]
            exact ⟨by simp [quiet], fun _ => size⟩

theorem finishSingle_sendReady (ret : UInt8) (written : World σ) (quiet : sent written.log = [])
    (unset : written.outputBuffer = none) (room : 7 ≤ prependSize.toNat) :
    SendReady (finishSingle input prependSize appendSize ret written).2 := by
  have size := responseSize_room prependSize appendSize 5 (by omega) room
  simp only [finishSingle]
  split
  · split
    · exact ⟨by simp [quiet], fun _ => size⟩
    · exact ⟨by simp [quiet], by simp⟩
  · exact ⟨quiet, by simp [unset]⟩

theorem writeSingle_sendReady (quiet : sent w.log = []) (unset : w.outputBuffer = none)
    (room : 7 ≤ prependSize.toNat) (kind : requestKind (w.request input) = .writeSingle) :
    SendReady (modbusWriteRequestHandler callbacks input inputSize prependSize appendSize w).2 := by
  rcases writeSingle_code input w kind with isCoil | isRegister
  · cases present : callbacks.writeBits with
    | none =>
        rw [writeSingle_coil_absent _ _ _ _ _ _ isCoil present]
        exact ⟨by simp [quiet], by simp [unset]⟩
    | some writeBits =>
        rw [writeSingle_coil _ _ _ _ _ _ isCoil present]
        exact finishSingle_sendReady _ _ _ _ _ (by simp [quiet]) (by simp [unset]) room
  · cases present : callbacks.writeWords with
    | none =>
        rw [writeSingle_register_absent _ _ _ _ _ _ isRegister present]
        exact ⟨by simp [quiet], by simp [unset]⟩
    | some writeWords =>
        rw [writeSingle_register _ _ _ _ _ _ isRegister present]
        exact finishSingle_sendReady _ _ _ _ _ (by simp [quiet]) (by simp [unset]) room

theorem writeRegisters_sendReady (quiet : sent w.log = []) (unset : w.outputBuffer = none)
    (room : 7 ≤ prependSize.toNat) :
    SendReady (modbusWriteMultipleRegistersRequestHandler callbacks input inputSize prependSize
      appendSize w).2 := by
  have size := responseSize_room prependSize appendSize 5 (by omega) room
  cases present : callbacks.writeWords with
  | none =>
      rw [writeRegisters_absent _ _ _ _ _ _ present]
      exact ⟨quiet, by simp [unset]⟩
  | some writeWords =>
      cases memory : w.allocates w.mallocs with
      | false =>
          rw [writeRegisters_denied _ _ _ _ _ _ _ present memory]
          exact ⟨by simp [quiet], by simp⟩
      | true =>
          rw [writeRegisters_granted _ _ _ _ _ _ _ present memory]
          exact ⟨by simp [quiet], fun _ => size⟩

theorem writeCoils_sendReady (quiet : sent w.log = []) (unset : w.outputBuffer = none)
    (room : 7 ≤ prependSize.toNat) :
    SendReady (modbusWriteMultipleCoilsRequestHandler callbacks input inputSize prependSize
      appendSize w).2 := by
  have size := responseSize_room prependSize appendSize 5 (by omega) room
  cases present : callbacks.writeBits with
  | none =>
      rw [writeCoils_absent _ _ _ _ _ _ present]
      exact ⟨quiet, by simp [unset]⟩
  | some writeBits =>
      cases memory : w.allocates w.mallocs with
      | false =>
          rw [writeCoils_denied _ _ _ _ _ _ _ present memory]
          exact ⟨by simp [quiet], by simp⟩
      | true =>
          rw [writeCoils_granted _ _ _ _ _ _ _ present memory]
          exact ⟨by simp [quiet], fun _ => size⟩

theorem readWrite_sendReady (quiet : sent w.log = []) (unset : w.outputBuffer = none)
    (room : 7 ≤ prependSize.toNat) :
    SendReady (modbusReadWriteMultipleRegistersRequestHandler callbacks input inputSize prependSize
      appendSize w).world := by
  by_cases absent : callbacks.readWords = none ∨ callbacks.writeWords = none
  · rw [readWrite_absent _ _ _ _ _ _ absent]
    exact ⟨quiet, by simp [unset]⟩
  · obtain ⟨readable, writable⟩ := words_present callbacks absent
    cases present : callbacks.writeBits with
    | none =>
        rw [readWrite_noCoils _ _ _ _ _ _ readable writable present unset]
        exact ⟨quiet, by simp [unset]⟩
    | some writeBits =>
        have size := responseSize_room prependSize appendSize 5 (by omega) room
        cases memory : w.allocates w.mallocs with
        | false =>
            rw [readWrite_denied _ _ _ _ _ _ _ readable writable present memory]
            exact ⟨by simp [quiet], by simp⟩
        | true =>
            cases taken : movedFreeable prependSize w with
            | false =>
                rw [readWrite_stopped _ _ _ _ _ _ _ readable writable present memory taken]
                exact ⟨by simp [quiet], fun _ => size⟩
            | true =>
                have freed : sent (coilsFreed writeBits input prependSize appendSize w).log = [] := by
                  simp [quiet]
                rw [readWrite_freed _ _ _ _ _ _ _ readable writable present memory taken]
                split
                · exact readWord_sendReady _ _ _ _ _ _ freed room
                · exact ⟨freed, fun _ => size⟩

theorem handled_sendReady (quiet : sent w.log = []) (unset : w.outputBuffer = none)
    (room : 7 ≤ prependSize.toNat) :
    SendReady (handled callbacks input inputSize prependSize appendSize w).world := by
  have started : sent (w.emit (.access .request input 1)).log = [] := by simp [quiet]
  simp only [handled, modbusSelectedHandler]
  cases kind : requestKind ((w.emit (.access .request input 1)).request input) with
  | readBits => exact readBit_sendReady _ _ _ _ _ _ started room
  | readWords => exact readWord_sendReady _ _ _ _ _ _ started room
  | writeSingle => exact writeSingle_sendReady _ _ _ _ _ _ started unset room kind
  | writeMultipleRegisters => exact writeRegisters_sendReady _ _ _ _ _ _ started unset room
  | writeMultipleCoils => exact writeCoils_sendReady _ _ _ _ _ _ started unset room
  | readWriteMultipleRegisters => exact readWrite_sendReady _ _ _ _ _ _ started unset room
  | other => exact ⟨started, by simp [unset]⟩

theorem sent_observed (log : List Event) : sent (observed log) = sent log := by
  induction log with
  | nil => rfl
  | cons event log ih =>
      cases event <;> simpa [observed, List.filter_cons, Event.observable] using ih

/-- The error response is as ready as the handler's own. -/
theorem returned_sendReady (quiet : sent w.log = []) (unset : w.outputBuffer = none)
    (room : 7 ≤ prependSize.toNat) {ret : UInt8} {final : World σ}
    (returned : modbusHandleRequest callbacks input inputSize prependSize appendSize w =
      .returned ret final) : SendReady final := by
  have ready := handled_sendReady callbacks input inputSize prependSize appendSize w quiet unset room
  cases handleRequest_ends callbacks input inputSize prependSize appendSize w with
  | stopped before ends outcome | fault before failed outcome
  | stuck ret after block ends refused held stuck outcome =>
      rw [returned] at outcome
      cases outcome
  | answered after ends outcome =>
      rw [ends, Outcome.world_returned] at ready
      rw [returned] at outcome
      cases outcome
      exact ready
  | reported ret after ends refused unset memory outcome =>
      rw [ends, Outcome.world_returned] at ready
      rw [returned] at outcome
      cases outcome
      exact ⟨by simp [ready.quiet],
        fun _ => responseSize_room prependSize appendSize 2 (by omega) room⟩
  | unreported ret after ends refused unset full outcome =>
      rw [ends, Outcome.world_returned] at ready
      rw [returned] at outcome
      cases outcome
      exact ⟨by simp [ready.quiet], by simp⟩

end Handlers

section Requests

variable (callbacks : ModbusCallbacks σ) (socket : Int) (dataSize : Nat) (w : World σ)

theorem responseHeader_carried (request : Memory) (size : UInt16) (rest : List UInt8)
    (length : size.toNat = 7 + rest.length) :
    CarriesHeader request (responseHeader request size ++ rest) := by
  have front : (responseHeader request size ++ rest).take 7 = responseHeader request size :=
    List.take_left' (responseHeader_length request size)
  have following : (size - 7 + 1).toNat = size.toNat - 6 := by
    have fits := size.toNat_lt
    have seven : (7 : UInt16).toNat = 7 := rfl
    have one : (1 : UInt16).toNat = 1 := rfl
    rw [UInt16.toNat_add, UInt16.toNat_sub, seven, one]
    omega
  constructor
  · simp
  · rw [front, responseHeader, fillStruct_fillFromStruct]
    refine ⟨rfl, rfl, rfl, ?_⟩
    rw [following, length, List.length_append]
    rfl

theorem delivered_carriesHeader (request : Memory) (sendBuffer : Pointer) {final : World σ}
    (ready : SendReady final) (held : final.outputBuffer.isSome) :
    ∀ bytes ∈ sent (delivered socket request sendBuffer final).log,
      CarriesHeader request bytes := by
  have room := ready.room held
  have size : final.outputSize.toNat = 7 + (final.outputSize.toNat - 7) := by omega
  have front := readRange_writeRange_front (final.heap sendBuffer.block) sendBuffer.offset
    (responseHeader request final.outputSize) (final.outputSize.toNat - 7)
  rw [responseHeader_length, ← size] at front
  have only : sent (delivered socket request sendBuffer final).log =
      [responseHeader request final.outputSize ++ readRange (final.heap sendBuffer.block)
        (sendBuffer.offset + 7) (final.outputSize.toNat - 7)] := by
    simp [ready.quiet, front]
  intro bytes isSent
  rw [only, List.mem_singleton] at isSent
  subst isSent
  exact responseHeader_carried request final.outputSize _ (by simpa using size)

theorem handleRequest_sendsHeader :
    (∀ bytes ∈ sent (modbusTcpHandleRequest callbacks socket dataSize w.quiet).world.log,
      CarriesHeader w.request bytes) ∧
    (∀ header memory start, modbusMbapFillStruct
      (writeRange memory start (modbusMbapFillFromStruct header)) start = header) ∧
    ∀ memory start, modbusMbapFillFromStruct (modbusMbapFillStruct memory start) =
      readRange memory start 7 := by
  refine ⟨?_, fillStruct_fillFromStruct, fillFromStruct_fillStruct⟩
  by_cases short : dataSize < 8
  · rw [tcp_short callbacks socket dataSize w.quiet short]
    simp
  · have enough : 8 ≤ dataSize := by omega
    have quiet : sent (tcpStarted w.quiet).log = [] := by simp
    have world := handleRequest_world callbacks 7 (dataSize - 7) 7 0 (tcpStarted w.quiet)
    have ready := handled_sendReady callbacks 7 (dataSize - 7) 7 0 (tcpStarted w.quiet) quiet rfl
      (by decide)
    have unsent : sent
        (modbusHandleRequest callbacks 7 (dataSize - 7) 7 0 (tcpStarted w.quiet)).world.log = [] := by
      rw [← sent_observed, world.1, sent_observed, ready.quiet]
    cases outcome : modbusHandleRequest callbacks 7 (dataSize - 7) 7 0 (tcpStarted w.quiet) with
    | stopped before =>
        rw [outcome, Outcome.world_stopped] at unsent
        simp [tcp_stopped enough outcome, unsent]
    | fault before =>
        rw [outcome, Outcome.world_fault] at unsent
        simp [tcp_fault enough outcome, unsent]
    | returned ret final =>
        have finalReady := returned_sendReady callbacks 7 (dataSize - 7) 7 0 (tcpStarted w.quiet)
          quiet rfl (by decide) outcome
        cases held : final.outputBuffer with
        | none =>
            rw [tcp_silent enough outcome held]
            simp [finalReady.quiet]
        | some sendBuffer =>
            rw [tcp_sent_log enough outcome held]
            exact delivered_carriesHeader socket w.request sendBuffer finalReady (by simp [held])

end Requests

end SpeFramework
