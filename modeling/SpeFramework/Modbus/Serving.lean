import SpeFramework.Lib.WriteHistory
import SpeFramework.Modbus.Replies

/-!
Runs of `modbus_handle_request`: one request after the other, each over whatever its memory
holds, with the application's state carried on.
-/

namespace SpeFramework

open RangeStore ByteOrder World

/-- What a call finds: the request with the memory that follows it, the size its caller states,
and what the heap holds by then. -/
structure Arrival where
  request : Memory
  size : Nat
  heap : Nat → Memory

variable {σ : Type} (callbacks : ModbusCallbacks σ) (input : Nat) (prependSize appendSize : UInt8)
  (w : World σ) (arrival : Arrival)

@[simps! -fullyApplied app request heap blockSize readsAllocated allocates mallocs]
def arrived : World σ := (w.withRequest arrival.request).withHeap arrival.heap

def handleNext : Outcome σ UInt8 :=
  outcomeOf callbacks input arrival.size prependSize appendSize (arrived w arrival)

def serve : World σ := (handleNext callbacks input prependSize appendSize w arrival).world

/-- The PDU between the room for a transport's header and that for its trailer. -/
def responsePdu (final : World σ) : List UInt8 :=
  match final.outputBuffer with
  | none => []
  | some buffer => readRange (final.heap buffer.block) (buffer.offset + prependSize.toNat)
      (final.outputSize.toNat - prependSize.toNat - appendSize.toNat)

def Granting : Prop := ∀ index, w.allocates index = true

@[simps! -fullyApplied app request heap blockSize readsAllocated allocates mallocs outputBuffer log]
def serving : World σ := entered input (arrived w arrival)

theorem serve_calls :
    callsOf (serve callbacks input prependSize appendSize w arrival).log =
      (course callbacks input prependSize (arrived w arrival)).1 :=
  (handleRequest_course callbacks input arrival.size prependSize appendSize (arrived w arrival)).calls

theorem serve_app :
    (serve callbacks input prependSize appendSize w arrival).app =
      stateAfter callbacks (course callbacks input prependSize (arrived w arrival)).1 w.app :=
  (handleRequest_course callbacks input arrival.size prependSize appendSize (arrived w arrival)).state

theorem handleNext_answered {final : World σ}
    (ends : modbusSelectedHandler callbacks input arrival.size prependSize appendSize
      (serving input w arrival) = .returned modbusErrorOk final) :
    handleNext callbacks input prependSize appendSize w arrival =
      .returned modbusErrorOk final := by
  have started : handled callbacks input arrival.size prependSize appendSize
      (asked (arrived w arrival)) = .returned modbusErrorOk final := ends
  exact handleRequest_answered started rfl

/-! The PDU of a read, for quantities whose byte count is not cut. -/

theorem pduLength (pduSize : Nat) (small : pduSize ≤ 257) :
    (UInt16.ofNat (responseSize pduSize prependSize appendSize)).toNat - prependSize.toNat -
      appendSize.toNat = pduSize := by
  have exact' : (UInt16.ofNat (responseSize pduSize prependSize appendSize)).toNat =
      responseSize pduSize prependSize appendSize :=
    UInt16.toNat_ofNat_of_lt (responseSize_small pduSize prependSize appendSize small)
  rw [exact', responseSize]
  omega

/-- A header of two bytes, and data whose length fits the byte count. -/
theorem responsePdu_eq {final : World σ} {id count : Nat} {header data : List UInt8}
    (buffer : final.outputBuffer = some ⟨id, 0⟩)
    (size : final.outputSize = UInt16.ofNat (responseSize (2 + count) prependSize appendSize))
    (few : count ≤ 255) (front : readRange (final.heap id) prependSize.toNat 2 = header)
    (behind : readRange (final.heap id) (prependSize.toNat + 2) count = data) :
    responsePdu prependSize appendSize final = header ++ data := by
  simp only [responsePdu, buffer, size, Nat.zero_add]
  rw [pduLength prependSize appendSize _ (by omega), readRange_append, front, behind]

/-- A failure without a response block is told as an exception, or not at all. -/
theorem handleNext_refused {ret : UInt8} {after : World σ}
    (ends : modbusSelectedHandler callbacks input arrival.size prependSize appendSize
      (serving input w arrival) = .returned ret after)
    (refused : ret ≠ modbusErrorOk) (unset : after.outputBuffer = none) :
    ∃ final, handleNext callbacks input prependSize appendSize w arrival =
        .returned modbusErrorOk final ∧
      (responsePdu prependSize appendSize final = [] ∨
        responsePdu prependSize appendSize final = [arrival.request input + 0x80, ret]) := by
  have started : handled callbacks input arrival.size prependSize appendSize
      (asked (arrived w arrival)) = .returned ret after := ends
  cases memory : after.allocates after.mallocs with
  | false =>
      refine ⟨_, handleRequest_unreported started refused unset memory, .inl ?_⟩
      rw [responsePdu, errorUnreported_outputBuffer]
  | true =>
      refine ⟨_, handleRequest_reported started refused unset memory, .inr ?_⟩
      simp only [responsePdu, errorReported_outputBuffer, errorReported_outputSize,
        errorReported_heap, Function.update_self, Nat.zero_add]
      rw [pduLength prependSize appendSize 2 (by decide)]
      exact readRange_writeRange_same _ _ [arrival.request input + 0x80, ret]

theorem readWordsCompleted_pdu (readWords : ReadCallback σ UInt16) (words : List UInt16)
    (few : (bigEndianAt w.request (input + 3)).toNat ≤ 127)
    (answer : (readWordsAnswer readWords input w).2.1 = words)
    (length : words.length = (bigEndianAt w.request (input + 3)).toNat) :
    responsePdu prependSize appendSize (readWordsCompleted readWords input prependSize appendSize w) =
      [w.request input, wordByteCount input w.request] ++ bigEndianBytes words := by
  have byteCount : (wordByteCount input w.request).toNat = 2 * words.length := by
    rw [length, wordByteCount, UInt8.toNat_ofNat']
    omega
  have whole : words.take words.length = words := List.take_length
  apply responsePdu_eq prependSize appendSize (readWordsCompleted_outputBuffer ..)
    (readWordsCompleted_outputSize ..) (by omega)
  all_goals simp only [readWordsCompleted_heap, Function.update_self, answer, ← length, whole, byteCount]
  · have head := readRange_writeRange_same
      (writeRange (writeRange (w.heap w.mallocs) (prependSize.toNat + 2)
        (List.replicate (2 * words.length) 0)) (prependSize.toNat + 2) (littleEndianBytes words))
      prependSize.toNat [w.request input, wordByteCount input w.request]
    refine Eq.trans (readRange_congr fun cell lower upper => ?_) head
    exact swapPairs_outside _ _ _ _ (.inl upper)
  · have data := readRange_swapPairs_littleEndian
      (writeRange (w.heap w.mallocs) (prependSize.toNat + 2) (List.replicate (2 * words.length) 0))
      (prependSize.toNat + 2) words
    refine Eq.trans (readRange_swapPairs_congr fun cell lower upper => ?_) data
    exact writeRange_outside _ _ _ _ (.inr lower)

theorem readBitsCompleted_pdu (readBits : ReadCallback σ UInt8) (items : List UInt8)
    (few : (bigEndianAt w.request (input + 3)).toNat ≤ 2040)
    (answer : (readBitsAnswer readBits input w).2.1 = items)
    (length : items.length = bytesForBits (bigEndianAt w.request (input + 3)).toNat) :
    responsePdu prependSize appendSize (readBitsCompleted readBits input prependSize appendSize w) =
      [w.request input, bitByteCount input w.request] ++ items.map modbusFlipByteBits := by
  have byteCount : (bitByteCount input w.request).toNat = items.length := by
    rw [length, bitByteCount, UInt8.toNat_ofNat', bytesForBits]
    omega
  have short : items.length ≤ 255 := by
    rw [length, bytesForBits]
    omega
  have whole : items.take items.length = items := List.take_length
  apply responsePdu_eq prependSize appendSize (readBitsCompleted_outputBuffer ..)
    (readBitsCompleted_outputSize ..) (by omega)
  all_goals simp only [readBitsCompleted_heap, Function.update_self, answer, ← length, whole, byteCount]
  · have head := readRange_writeRange_same
      (writeRange (writeRange (w.heap w.mallocs) (prependSize.toNat + 2)
        (List.replicate items.length 0)) (prependSize.toNat + 2) items)
      prependSize.toNat [w.request input, bitByteCount input w.request]
    refine Eq.trans (readRange_congr fun cell lower upper => ?_) head
    exact mapRange_outside _ _ _ _ _ (.inl upper)
  · have data := readRange_writeRange_apart
      (writeRange (writeRange (w.heap w.mallocs) (prependSize.toNat + 2)
        (List.replicate items.length 0)) (prependSize.toNat + 2) items)
      prependSize.toNat [w.request input, bitByteCount input w.request] (prependSize.toNat + 2)
      items.length (.inr (Nat.le_refl _))
    rw [readRange_mapRange, data, readRange_writeRange_same]

end SpeFramework
