import SpeFramework.Modbus.TcpCases

/-!
The response to a write request. The transport puts its header over the first seven bytes of
the block, so the echo of the request has to start at byte seven of it.
-/

namespace SpeFramework

open RangeStore ByteOrder World

variable {σ : Type}

def sent (log : List Event) : List (List UInt8) :=
  log.filterMap fun event => match event with
    | .send _ bytes => some bytes
    | _ => none

@[simp] theorem sent_append (first second : List Event) :
    sent (first ++ second) = sent first ++ sent second := by
  simp [sent]

@[simp] theorem sent_nil : sent [] = [] := rfl

@[simp] theorem sent_cons (event : Event) (log : List Event) :
    sent (event :: log) = (match event with
      | .send _ bytes => [bytes]
      | _ => []) ++ sent log := by
  cases event <;> simp [sent]

@[simp] theorem sent_accesses {α : Type} (items : List α) (area : Area) (offset length : α → Nat) :
    sent (items.map fun item => .access area (offset item) (length item)) = [] := by
  simp [sent]

/-- The header with the request's identifiers, then function code, address and value. -/
def acknowledgement (request : Memory) : List UInt8 :=
  readRange request 0 4 ++ [0, 6, request 6] ++ readRange request 7 5

section Requests

variable (callbacks : ModbusCallbacks σ) (socket : Int) (dataSize : Nat) (w : World σ)

/-- Whatever the heap held before, the acknowledgement is sent and nothing else. -/
def AcknowledgesWrite : Prop :=
  ∀ heap, sent (modbusTcpHandleRequest callbacks socket dataSize (w.quiet.withHeap heap)).world.log =
    [acknowledgement w.request]

/-- The request is a write, and the callback for its table accepts what it is handed. -/
def WriteAccepted : Prop :=
  w.request 7 = modbusWriteSingleCoilFc ∧ (∃ writeBits, callbacks.writeBits = some writeBits ∧
      (writeCoilAnswer 7 w writeBits).1 = modbusErrorOk) ∨
  w.request 7 = modbusWriteSingleRegisterFc ∧ (∃ writeWords, callbacks.writeWords = some writeWords ∧
      (writeRegisterAnswer 7 w writeWords).1 = modbusErrorOk) ∨
  w.request 7 = modbusWriteMultipleCoilsFc ∧ (∃ writeBits, callbacks.writeBits = some writeBits ∧
      (writeCoilsAnswer writeBits 7 w).1 = modbusErrorOk) ∨
  w.request 7 = modbusWriteMultipleRegistersFc ∧ (∃ writeWords,
    callbacks.writeWords = some writeWords ∧ (writeRegistersAnswer writeWords 7 w).1 = modbusErrorOk)

theorem delivered_sent (request : Memory) (sendBuffer : Pointer) (final : World σ)
    (size : final.outputSize = 12) :
    sent (delivered socket request sendBuffer final).log = sent final.log ++
      [responseHeader request 12 ++
        readRange (final.heap sendBuffer.block) (sendBuffer.offset + 7) 5] := by
  have front := readRange_writeRange_front (final.heap sendBuffer.block) sendBuffer.offset
    (responseHeader request 12) 5
  rw [responseHeader_length] at front
  simp [size, front]

theorem responseHeader_twelve (request : Memory) :
    responseHeader request 12 = readRange request 0 4 ++ [0, 6, request 6] := by
  have bytes : highByte 6 = 0 ∧ lowByte 6 = 6 := by decide
  simp [responseHeader, modbusMbapFillFromStruct, modbusMbapFillStruct, bigEndianAt, readRange,
    List.range_succ, bytes]

theorem delivered_acknowledges (request : Memory) (sendBuffer : Pointer) (final : World σ)
    (size : final.outputSize = 12) (quiet : sent final.log = []) :
    sent (delivered socket request sendBuffer final).log = [acknowledgement request] ↔
      readRange (final.heap sendBuffer.block) (sendBuffer.offset + 7) 5 = readRange request 7 5 := by
  rw [delivered_sent _ _ _ _ size, quiet, acknowledgement, responseHeader_twelve]
  simp

theorem responseSize_five : UInt16.ofNat (responseSize 5 7 0) = 12 := by decide

theorem registersWritten_acknowledges (writeWords : WriteCallback σ UInt16) (quiet : sent w.log = []) :
    sent (delivered socket w.request ⟨w.mallocs, 0⟩ (registersWritten writeWords 7 7 0 w)).log =
      [acknowledgement w.request] := by
  have echoed := readRange_writeRange_same (w.heap w.mallocs) 7
    (readRange (flippedWords 7 w.request) 7 5)
  rw [delivered_acknowledges _ _ _ _ responseSize_five (by simp [quiet])]
  simp only [registersWritten_heap, Function.update_self, UInt8.toNat_ofNat, Nat.reducePow,
    Nat.reduceMod, Nat.zero_add]
  rw [readRange_length] at echoed
  rw [echoed]
  apply readRange_congr
  intro cell _ upper
  exact swapPairs_outside _ _ _ _ (.inl (by omega))

theorem acknowledged_acknowledges (request : Memory) (written : World σ)
    (quiet : sent written.log = []) :
    sent (delivered socket request ⟨written.mallocs, 0⟩ (acknowledged 7 7 0 written)).log =
        [acknowledgement request] ↔
      readRange (written.heap written.mallocs) 7 5 = readRange request 7 5 := by
  rw [delivered_acknowledges _ _ _ _ responseSize_five (by simp [quiet])]
  simp only [acknowledged_heap, Function.update_self, Nat.zero_add]
  rw [readRange_writeRange_apart _ _ _ _ _ (.inr (by simp))]

theorem coilsWritten_acknowledges (writeBits : WriteCallback σ UInt8) (quiet : sent w.log = []) :
    sent (delivered socket w.request ⟨w.mallocs, 7⟩ (coilsWritten writeBits 7 7 0 w)).log =
        [acknowledgement w.request] ↔
      readRange (w.heap w.mallocs) 14 5 = readRange w.request 7 5 := by
  rw [delivered_acknowledges _ _ _ _ responseSize_five (by simp [quiet])]
  simp only [coilsWritten_heap, Function.update_self, UInt8.toNat_ofNat, Nat.reducePow,
    Nat.reduceMod, Nat.reduceAdd]
  rw [readRange_writeRange_apart _ _ _ _ _ (.inr (by simp))]

@[simps! -fullyApplied app request heap blockSize readsAllocated allocates mallocs outputBuffer outputSize log]
def World.stale (w : World σ) : World σ := w.quiet.withHeap fun _ _ => w.request 7 + 1

theorem stale_ne_echo (request : Memory) (start : Nat) :
    readRange (fun _ => request 7 + 1) start 5 ≠ readRange request 7 5 := by
  intro same
  simp [readRange, List.range_succ] at same

theorem singleWrite_unacknowledged (enough : 8 ≤ dataSize) (written : World σ)
    (memory : w.allocates w.mallocs = true) (quiet : sent written.log = [])
    (ends : tcpHandled callbacks dataSize w.stale = .of (finishSingle 7 7 0 modbusErrorOk written))
    (allocates : written.allocates = w.allocates) (mallocs : written.mallocs = w.mallocs)
    (heap : written.heap = w.stale.heap) : ¬ AcknowledgesWrite callbacks socket dataSize w := by
  intro acknowledges
  rw [finishSingle_granted _ _ _ _ (by rw [allocates, mallocs, memory])] at ends
  have echoed := acknowledges fun _ _ => w.request 7 + 1
  change sent (modbusTcpHandleRequest callbacks socket dataSize w.stale).world.log = _ at echoed
  rw [tcp_answered_log enough ends rfl rfl] at echoed
  have same := (acknowledged_acknowledges socket w.request written quiet).mp echoed
  rw [heap] at same
  exact stale_ne_echo w.request 7 same

theorem coilsWrite_unacknowledged (enough : 8 ≤ dataSize) (writeBits : WriteCallback σ UInt8)
    (answered : (writeCoilsAnswer writeBits 7 w).1 = modbusErrorOk)
    (ends : tcpHandled callbacks dataSize w.stale = .returned (writeCoilsAnswer writeBits 7 w).1
      (coilsWritten writeBits 7 7 0 (dispatched w.stale))) :
    ¬ AcknowledgesWrite callbacks socket dataSize w := by
  intro acknowledges
  have echoed := acknowledges fun _ _ => w.request 7 + 1
  change sent (modbusTcpHandleRequest callbacks socket dataSize w.stale).world.log = _ at echoed
  rw [tcp_answered_log enough ends answered rfl] at echoed
  have same := (coilsWritten_acknowledges socket (dispatched w.stale) writeBits (by simp)).mp echoed
  exact stale_ne_echo w.request 14 same

theorem handleRequest_acknowledgesWrite_iff (enough : 8 ≤ dataSize)
    (memory : w.allocates w.mallocs = true) (accepted : WriteAccepted callbacks w) :
    AcknowledgesWrite callbacks socket dataSize w ↔
      w.request 7 = modbusWriteMultipleRegistersFc := by
  rcases accepted with ⟨code, writeBits, present, answered⟩ | ⟨code, writeWords, present, answered⟩ |
    ⟨code, writeBits, present, answered⟩ | ⟨code, writeWords, present, answered⟩
  · refine iff_of_false (singleWrite_unacknowledged callbacks socket dataSize w enough
      (coilWritten 7 (dispatched w.stale) writeBits) memory (by simp) ?_ (by simp) (by simp) (by simp))
      (by rw [code]; decide)
    have kind : requestKind (w.stale.request 7) = .writeSingle := by
      rw [World.stale_request, code]
      rfl
    have asked : writeCoilAnswer 7 (dispatched w.stale) writeBits = writeCoilAnswer 7 w writeBits := by
      simp [writeCoilAnswer]
    rw [tcpHandled_eq]
    simp only [kind]
    rw [writeSingle_coil _ _ _ _ _ _ (by simpa using code) present, asked, answered]
  · refine iff_of_false (singleWrite_unacknowledged callbacks socket dataSize w enough
      (registerWritten 7 (dispatched w.stale) writeWords) memory (by simp) ?_ (by simp) (by simp)
        (by simp))
      (by rw [code]; decide)
    have kind : requestKind (w.stale.request 7) = .writeSingle := by
      rw [World.stale_request, code]
      rfl
    have asked : writeRegisterAnswer 7 (dispatched w.stale) writeWords =
        writeRegisterAnswer 7 w writeWords := by
      simp [writeRegisterAnswer]
    rw [tcpHandled_eq]
    simp only [kind]
    rw [writeSingle_register _ _ _ _ _ _ (by simpa using code) present, asked, answered]
  · refine iff_of_false (coilsWrite_unacknowledged callbacks socket dataSize w enough writeBits
      answered ?_) (by rw [code]; decide)
    have kind : requestKind (w.stale.request 7) = .writeMultipleCoils := by
      rw [World.stale_request, code]
      rfl
    have asked : writeCoilsAnswer writeBits 7 (dispatched w.stale) = writeCoilsAnswer writeBits 7 w := by
      simp [writeCoilsAnswer]
    rw [tcpHandled_eq]
    simp only [kind]
    rw [writeCoils_granted _ _ _ _ _ _ _ present (by simpa using memory), asked]
    rfl
  · refine iff_of_true (fun heap => ?_) code
    have granted := writeRegisters_granted callbacks writeWords 7 (dataSize - 7) 7 0
      (dispatched (w.quiet.withHeap heap)) present memory
    have ends := tcpHandled_eq callbacks dataSize (w.quiet.withHeap heap)
    rw [show (w.quiet.withHeap heap).request 7 = _ from code] at ends
    rw [tcp_answered_log enough (ends.trans (congrArg Outcome.of granted)) answered rfl]
    exact registersWritten_acknowledges socket (dispatched (w.quiet.withHeap heap)) writeWords (by simp)

end Requests

/-! Writing 5 to register 2: acknowledged under 0x10, and with bytes of the heap under 0x06. -/

theorem registersWrite_acknowledged :
    AcknowledgesWrite (acceptingCallbacks Unit) 0 15
      (World.initial () [0, 1, 0, 0, 0, 9, 1, 0x10, 0, 2, 0, 1, 2, 0, 5]) :=
  (handleRequest_acknowledgesWrite_iff _ _ _ _ (by decide) rfl
    (.inr (.inr (.inr ⟨by decide, _, rfl, by decide⟩)))).mpr (by decide)

theorem registerWrite_sendsHeap :
    ¬ AcknowledgesWrite (acceptingCallbacks Unit) 0 12
      (World.initial () [0, 1, 0, 0, 0, 6, 1, 0x06, 0, 2, 0, 5]) := by
  intro acknowledges
  exact absurd (acknowledges fun _ _ => 0) (by decide +kernel)

end SpeFramework
