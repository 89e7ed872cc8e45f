import SpeFramework.Modbus.HandlerCases

/-!
The order of the bits that coils have on the wire and in the callbacks. Two handlers convert an
array of bytes from one to the other, each with a loop of its own.
-/

namespace SpeFramework

open RangeStore ByteOrder World

/-- The loop of `modbus_write_multiple_coils_request_handler`, before `write_bits` is called. -/
def convertOutputsValue (outputsValue : Nat) (byteCount : UInt8) (memory : Memory) : Memory :=
  loop (fun i => mapCell modbusFlipByteBits (outputsValue + i)) byteCount.toNat memory

/-- The loop of `modbus_read_bit_request_handler`, after `read_bits` was called. -/
def convertInputStatus (sendBufferCursor : Nat) (byteCount : UInt8) (memory : Memory) : Memory :=
  byteLoop (fun i => mapCell modbusFlipByteBits (sendBufferCursor + (2 + i.toNat))) byteCount memory

theorem convertOutputsValue_eq (outputsValue : Nat) (byteCount : UInt8) (memory : Memory) :
    convertOutputsValue outputsValue byteCount memory =
      mapRange modbusFlipByteBits outputsValue byteCount.toNat memory :=
  loop_mapCell modbusFlipByteBits outputsValue byteCount.toNat memory

theorem convertInputStatus_eq (sendBufferCursor : Nat) (byteCount : UInt8) (memory : Memory) :
    convertInputStatus sendBufferCursor byteCount memory =
      mapRange modbusFlipByteBits (sendBufferCursor + 2) byteCount.toNat memory := by
  rw [convertInputStatus,
    byteLoop_eq_loop (fun i => mapCell modbusFlipByteBits (sendBufferCursor + (2 + i)))]
  simp only [← Nat.add_assoc]
  exact loop_mapCell modbusFlipByteBits (sendBufferCursor + 2) byteCount.toNat memory

theorem convertOutputsValue_reverses (outputsValue : Nat) (byteCount : UInt8) (memory : Memory) :
    BitsReversed outputsValue byteCount.toNat memory
      (convertOutputsValue outputsValue byteCount memory) := by
  rw [convertOutputsValue_eq]
  exact bitsReversed_mapRange modbusFlipByteBits_testBit outputsValue byteCount.toNat memory

theorem convertInputStatus_reverses (sendBufferCursor : Nat) (byteCount : UInt8) (memory : Memory) :
    BitsReversed (sendBufferCursor + 2) byteCount.toNat memory
      (convertInputStatus sendBufferCursor byteCount memory) := by
  rw [convertInputStatus_eq]
  exact bitsReversed_mapRange modbusFlipByteBits_testBit (sendBufferCursor + 2) byteCount.toNat memory

/-- Both loops reverse the bits of every byte in the array, whatever its length, and nothing else. -/
theorem conversions_undoEachOther (outputsValue sendBufferCursor : Nat) (byteCount : UInt8)
    (request block : Memory) :
    BitsReversed outputsValue byteCount.toNat request
        (convertOutputsValue outputsValue byteCount request) ∧
      BitsReversed (sendBufferCursor + 2) byteCount.toNat block
        (convertInputStatus sendBufferCursor byteCount block) ∧
      convertInputStatus sendBufferCursor byteCount block =
        convertOutputsValue (sendBufferCursor + 2) byteCount block ∧
      convertInputStatus sendBufferCursor byteCount
        (convertOutputsValue (sendBufferCursor + 2) byteCount block) = block ∧
      convertOutputsValue (sendBufferCursor + 2) byteCount
        (convertInputStatus sendBufferCursor byteCount block) = block := by
  have written (memory : Memory) :=
    convertOutputsValue_reverses (sendBufferCursor + 2) byteCount memory
  have read (memory : Memory) := convertInputStatus_reverses sendBufferCursor byteCount memory
  refine ⟨convertOutputsValue_reverses outputsValue byteCount request, read block, ?_, ?_, ?_⟩
  · exact (read block).unique (written block)
  · exact (read _).unique (written block).symm
  · exact (written _).unique (read block).symm

/-! Where the handlers run them. -/

section Handlers

variable {σ : Type} (callbacks : ModbusCallbacks σ) (input inputSize : Nat)
  (prependSize appendSize : UInt8) (w : World σ)

theorem writeCoils_converts {writeBits : WriteCallback σ UInt8}
    (present : callbacks.writeBits = some writeBits) (memory : w.allocates w.mallocs = true) :
    let converted := convertOutputsValue (input + 6) (w.request (input + 5)) w.request
    let after := (modbusWriteMultipleCoilsRequestHandler callbacks input inputSize prependSize
      appendSize w).2
    after.request = converted ∧
      Event.call (.writeBits (w.request input) modbusDataTableCoils
        (bigEndianAt w.request (input + 1)) (bigEndianAt w.request (input + 3))
        (readRange converted (input + 6)
          (bytesForBits (bigEndianAt w.request (input + 3)).toNat))) ∈ after.log := by
  intro converted after
  have ends : after = coilsWritten writeBits input prependSize appendSize w :=
    congrArg Prod.snd (writeCoils_granted callbacks writeBits input inputSize prependSize appendSize w
      present memory)
  have handed : coilsHanded input w.request = readRange converted (input + 6)
      (bytesForBits (bigEndianAt w.request (input + 3)).toNat) := by
    rw [coilsHanded, flippedBits, ← convertOutputsValue_eq]
  rw [ends]
  constructor
  · rfl
  · rw [← handed]
    simp

theorem readBits_converts {readBits : ReadCallback σ UInt8}
    (present : callbacks.readBits = some readBits) (memory : w.allocates w.mallocs = true)
    (answered : (readBitsAnswer readBits input w).1 = modbusErrorOk) :
    (modbusReadBitRequestHandler callbacks input inputSize prependSize appendSize w).2.heap w.mallocs =
      convertInputStatus prependSize.toNat (bitByteCount input w.request)
        (writeRange ((readBitsAnswered readBits input prependSize appendSize w).heap w.mallocs)
          prependSize.toNat [w.request input, bitByteCount input w.request]) := by
  rw [readBit_completed callbacks readBits input inputSize prependSize appendSize w memory present
    answered, convertInputStatus_eq]
  simp [readBitsCompleted]

end Handlers

end SpeFramework
