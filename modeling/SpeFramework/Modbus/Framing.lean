import SpeFramework.Modbus.Leftovers

/-!
The stream of a connection. Every `lwip_recv` is handled as one request of the length it
delivered: the length field of the header is decoded and not used. Where TCP delivers one
frame per call the loop handles each frame once. Nothing is reassembled: the second of two
frames in one chunk is lost, and a frame is handled before its last bytes have arrived.
-/

namespace SpeFramework

open RangeStore ByteOrder World

def bufferOf (before : Memory) (bytes : List UInt8) : Memory := writeRange before 0 bytes

/-- A frame whose length field counts its unit identifier and a PDU that is not empty. -/
def CompleteFrame (bytes : List UInt8) : Prop :=
  8 ≤ bytes.length ∧ (bigEndianAt (bufferOf (fun _ => 0) bytes) 4).toNat + 6 = bytes.length

/-- A way in which TCP may deliver the frames. -/
def Segmentation (frames chunks : List (List UInt8)) : Prop :=
  chunks.flatten = frames.flatten ∧
    ∀ chunk ∈ chunks, chunk ≠ [] ∧ chunk.length ≤ modbusRecvBufferSize

section Streams

variable {σ : Type} (callbacks : ModbusCallbacks σ) (socket : Int)

/-- Each frame handled once, in order, from a buffer that holds it and a filler. -/
def handleEach (filler : Memory) : List (List UInt8) → World σ → Outcome σ Unit
  | [], w => .returned () w
  | frame :: frames, w =>
      (modbusTcpHandleRequest callbacks socket frame.length
        (w.withRequest (bufferOf filler frame))).bind fun _ w => handleEach filler frames w

def HandlesEachFrame (frames chunks : List (List UInt8)) (w : World σ) : Prop :=
  ∀ filler, observed (modbusTcpConnectionHandle callbacks socket chunks w).world.log =
    observed (handleEach callbacks socket filler frames w).world.log

end Streams

/-- A complete frame that fits the receive buffer and brings the bytes its handler decides by. -/
structure Frame where
  bytes : List UInt8
  complete : CompleteFrame bytes
  fits : bytes.length ≤ modbusRecvBufferSize
  carries : decisiveBytes (bufferOf (fun _ => 0) bytes) ≤ bytes.length

/-! The bytes that decide also decide how many they are. -/

theorem bytesRead_congr (first second : Memory) (code : first 7 = second 7)
    (quantity : 12 ≤ 7 + bytesRead 7 first →
      bigEndianAt first 10 = bigEndianAt second 10) :
    bytesRead 7 second = bytesRead 7 first := by
  simp only [bytesRead, ← code, Nat.reduceAdd] at quantity ⊢
  cases kind : requestKind (first 7) with
  | writeMultipleRegisters =>
      simp only [kind] at quantity
      simp only [quantity (by split <;> omega)]
  | writeMultipleCoils =>
      simp only [kind] at quantity
      simp only [quantity (by split <;> omega)]
  | readWriteMultipleRegisters =>
      simp only [kind] at quantity
      simp only [quantity (by split <;> omega)]
  | _ => rfl

theorem decisiveBytes_congr (first second : Memory)
    (agree : ∀ cell < decisiveBytes first, first cell = second cell) :
    decisiveBytes second = decisiveBytes first := by
  have head := decisiveBytes_head first
  have code : first 7 = second 7 := agree 7 (by omega)
  by_cases isCoil : first 7 = modbusWriteSingleCoilFc
  · have kind : requestKind modbusWriteSingleCoilFc = .writeSingle := by decide
    have value : first 10 = second 10 := by
      apply agree
      simp only [decisiveBytes, bytesRead, isCoil, kind, true_and]
      split <;> omega
    simp only [decisiveBytes, bytesRead, ← code, isCoil, kind, ← value]
  · simp only [decisiveBytes, ← code, isCoil, false_and, if_false] at agree ⊢
    rw [bytesRead_congr first second code fun enough => ?_]
    rw [bigEndianAt, bigEndianAt, agree 10 (by omega), agree 11 (by omega)]

section Connections

variable {σ : Type} (callbacks : ModbusCallbacks σ) (socket : Int)

theorem tcp_keepsOpen (dataSize : Nat) {w final : World σ} {ret : UInt8}
    (returned : modbusTcpHandleRequest callbacks socket dataSize w = .returned ret final) :
    ret ≠ modbusTcpCloseConnection := by
  by_cases short : dataSize < 8
  · rw [tcp_short _ _ _ _ short] at returned
    cases returned
    decide
  have enough : 8 ≤ dataSize := by omega
  rw [tcp_dispatch _ _ _ _ enough] at returned
  cases dispatch : modbusHandleRequest callbacks 7 (dataSize - 7) 7 0 (tcpStarted w) with
  | stopped _ => simp [dispatch] at returned
  | fault _ => simp [dispatch] at returned
  | returned result after =>
      obtain rfl := handleRequest_ok _ _ _ _ _ _ dispatch
      simp only [dispatch, Outcome.bind_returned] at returned
      split at returned
      · cases returned
        decide
      · split at returned
        · cases returned
          decide
        · cases returned

theorem bufferOf_agree (before other : Memory) (bytes : List UInt8) (cell : Nat)
    (inside : cell < bytes.length) : bufferOf before bytes cell = bufferOf other bytes cell := by
  rw [bufferOf, bufferOf, writeRange_inside _ _ _ _ (Nat.zero_le _) (by simpa using inside),
    writeRange_inside _ _ _ _ (Nat.zero_le _) (by simpa using inside)]

theorem frame_alike (frame : Frame) {first second : World σ} (alike : Alike first second)
    (filler : Memory) :
    AlikeOutcomes
      (modbusTcpHandleRequest callbacks socket frame.bytes.length (first.receive frame.bytes))
      (modbusTcpHandleRequest callbacks socket frame.bytes.length
        (second.withRequest (bufferOf filler frame.bytes))) := by
  have carries := frame.carries
  have decided := decisiveBytes_congr (bufferOf (fun _ => 0) frame.bytes)
    (bufferOf first.request frame.bytes)
    fun cell bound => bufferOf_agree _ _ _ _ (by omega)
  have received : Alike (first.receive frame.bytes)
      (second.withRequest (bufferOf filler frame.bytes)) := { alike with }
  apply tcp_decided_alike callbacks socket _ frame.complete.1 received
  intro cell bound
  change cell < decisiveBytes (bufferOf first.request frame.bytes) at bound
  exact bufferOf_agree first.request filler frame.bytes cell (by omega)

theorem loop_handlesEach (filler : Memory) (frames : List Frame) (ret : UInt8)
    (keepsOpen : ret ≠ modbusTcpCloseConnection) {first second : World σ}
    (alike : Alike first second) :
    AlikeOutcomes
      (modbusTcpConnectionLoop callbacks socket ret (frames.map Frame.bytes) first)
      (handleEach callbacks socket filler (frames.map Frame.bytes) second) := by
  induction frames generalizing ret first second with
  | nil => exact ⟨rfl, alike⟩
  | cons frame frames ih =>
      have nonempty : frame.bytes ≠ [] := by
        intro empty
        have long := frame.complete.1
        simp [empty] at long
      have handledAlike := frame_alike callbacks socket frame alike filler
      simp only [List.map_cons, modbusTcpConnectionLoop, handleEach, keepsOpen, nonempty, or_self,
        if_false]
      exact handledAlike.bind fun ret {firstAfter secondAfter} returned after =>
        ih ret (tcp_keepsOpen callbacks socket _ returned) after

end Connections

/-! Two complete register writes, received one by one. -/

def firstWrite : List UInt8 := [0, 1, 0, 0, 0, 6, 1, 0x06, 0, 1, 0, 5]

def secondWrite : List UInt8 := [0, 2, 0, 0, 0, 6, 1, 0x06, 0, 2, 0, 7]

def firstFrame : Frame where
  bytes := firstWrite
  complete := ⟨by decide, by decide +kernel⟩
  fits := by decide
  carries := by decide +kernel

def secondFrame : Frame where
  bytes := secondWrite
  complete := ⟨by decide, by decide +kernel⟩
  fits := by decide
  carries := by decide +kernel

def codeOnly : List UInt8 := [0, 3, 0, 0, 0, 2, 1, 0x06]

end SpeFramework
