import SpeFramework.Modbus.Handlers

/-!
What each handler does, case by case: its branches resolved and its loops replaced by
the change they make. A case names the world it ends in, with the fields of that world
as simp lemmas; the results about requests cite these cases and never unfold a handler.
-/

namespace SpeFramework

open RangeStore ByteOrder World

variable {σ : Type}

theorem bitMoved_testBit (byte : UInt8) {place : Nat} (placed : place < 8) (bit : Nat) :
    (((byte >>> UInt8.ofNat place) &&& 1) <<< (7 - UInt8.ofNat place)).toNat.testBit bit =
      (decide (bit = 7 - place) && byte.toNat.testBit place) := by
  have index : (UInt8.ofNat place).toNat = place :=
    UInt8.toNat_ofNat_of_lt' (Nat.lt_trans placed (by decide))
  have ordered : UInt8.ofNat place ≤ 7 := by
    rw [UInt8.le_iff_toNat_le, index]
    exact Nat.le_of_lt_succ placed
  have shift : (7 - UInt8.ofNat place).toNat = 7 - place := by
    rw [UInt8.toNat_sub_of_le _ _ ordered, index]
    rfl
  have amount : (7 - place) % 8 = 7 - place := by omega
  rw [UInt8.toNat_shiftLeft, UInt8.toNat_and, UInt8.toNat_shiftRight, shift, index,
    Nat.mod_eq_of_lt placed, amount, Nat.testBit_mod_two_pow, Nat.testBit_shiftLeft,
    Nat.testBit_and, Nat.testBit_shiftRight]
  by_cases here : bit = 7 - place
  · have inside : 7 - place < 8 := by omega
    simp [here, inside]
  · have apart : 7 - place ≤ bit → bit - (7 - place) ≠ 0 := by omega
    simp only [here, decide_false, Bool.false_and]
    by_cases above : 7 - place ≤ bit
    · have absent : Nat.testBit 1 (bit - (7 - place)) = false :=
        Bool.eq_false_iff.mpr fun one =>
          apart above (Nat.testBit_one_eq_true_iff_self_eq_zero.mp one)
      simp [absent]
    · simp [above]

theorem modbusFlipByteBits_testBit (byte : UInt8) (bit : Nat) (bound : bit < 8) :
    (modbusFlipByteBits byte).toNat.testBit bit = byte.toNat.testBit (7 - bit) := by
  have counted := byteLoop_eq_loop (fun place (flipped : UInt8) =>
    flipped ||| (((byte >>> UInt8.ofNat place) &&& 1) <<< (7 - UInt8.ofNat place))) 8 0
  simp only [UInt8.ofNat_toNat] at counted
  -- after `count` turns the bits from place 8 - count on are there
  have arrived (count : Nat) (turns : count ≤ 8) :
      (loop (fun place (flipped : UInt8) =>
          flipped ||| (((byte >>> UInt8.ofNat place) &&& 1) <<< (7 - UInt8.ofNat place)))
        count 0).toNat.testBit bit = (decide (8 ≤ bit + count) && byte.toNat.testBit (7 - bit)) := by
    induction count with
    | zero =>
        have early : ¬ 8 ≤ bit + 0 := by omega
        rw [decide_eq_false early]
        simp [loop_zero]
    | succ count ih =>
        rw [loop_succ, UInt8.toNat_or, Nat.testBit_or, ih (by omega),
          bitMoved_testBit byte (by omega)]
        by_cases here : bit = 7 - count
        · have mirrored : 7 - bit = count := by omega
          have earlier : ¬ 8 ≤ bit + count := by omega
          have arrives : 8 ≤ bit + (count + 1) := by omega
          rw [mirrored, decide_eq_false earlier, decide_eq_true here, decide_eq_true arrives]
          simp
        · have same : 8 ≤ bit + (count + 1) ↔ 8 ≤ bit + count := by omega
          simp [here, same]
  rw [modbusFlipByteBits, counted]
  exact (arrived 8 (Nat.le_refl 8)).trans (by simp)

theorem modbusFlipByteBits_flip (byte : UInt8) :
    modbusFlipByteBits (modbusFlipByteBits byte) = byte := by
  apply byte_ext
  intro bit bound
  have back : 7 - (7 - bit) = bit := by omega
  rw [modbusFlipByteBits_testBit _ _ bound, modbusFlipByteBits_testBit _ _ (by omega), back]

theorem modbusFlipWord_eq_swapPair (start : Nat) : modbusFlipWord start = swapPair start := by
  funext memory
  simp [modbusFlipWord, littleEndianAt, swapPair]

@[simp] theorem illegalFunction_ne_ok : modbusErrorIllegalFunction ≠ modbusErrorOk := by decide

@[simp] theorem serverDeviceFailure_ne_ok : modbusErrorServerDeviceFailure ≠ modbusErrorOk := by
  decide

theorem responseSize_small (pduSize : Nat) (prependSize appendSize : UInt8)
    (small : pduSize ≤ 257) : responseSize pduSize prependSize appendSize < 65536 := by
  have prependBound := prependSize.toNat_lt
  have appendBound := appendSize.toNat_lt
  simp only [responseSize]
  omega

/-! Read requests for words. The byte count is the requested size cut to eight bits. -/

section ReadWords

variable (callbacks : ModbusCallbacks σ) (readWords : ReadCallback σ UInt16)
  (input inputSize : Nat) (prependSize appendSize : UInt8) (w : World σ)

def wordByteCount (request : Memory) : UInt8 :=
  UInt8.ofNat (2 * (bigEndianAt request (input + 3)).toNat)

def readWordsAnswer : UInt8 × List UInt16 × σ :=
  readWords (w.request input) (readWordsTable (w.request input)) (bigEndianAt w.request (input + 1))
    (bigEndianAt w.request (input + 3)) w.app

@[simps! -fullyApplied app request heap blockSize readsAllocated allocates mallocs outputBuffer outputSize log]
def readWordsAsked : World σ :=
  ((w.emit (.access .request input 5)).withOutput
    (responseSize (2 + (wordByteCount input w.request).toNat) prependSize appendSize)).store
      ⟨w.mallocs, prependSize.toNat + 2⟩ (List.replicate (wordByteCount input w.request).toNat 0)

@[simps! -fullyApplied app request heap blockSize readsAllocated allocates mallocs outputBuffer outputSize log]
def readWordsAnswered : World σ :=
  let quantity := bigEndianAt w.request (input + 3)
  (((readWordsAsked input prependSize appendSize w).setApp (readWordsAnswer readWords input w).2.2).emit
    (.call (.readWords (w.request input) (readWordsTable (w.request input))
      (bigEndianAt w.request (input + 1)) quantity))).updateBlock
        ⟨w.mallocs, prependSize.toNat + 2⟩ (2 * quantity.toNat) fun memory =>
          writeRange memory (prependSize.toNat + 2)
            (littleEndianBytes ((readWordsAnswer readWords input w).2.1.take quantity.toNat))

@[simps! -fullyApplied app request heap blockSize readsAllocated allocates mallocs outputBuffer outputSize log]
def readWordsCompleted : World σ :=
  ((readWordsAnswered readWords input prependSize appendSize w).store ⟨w.mallocs, prependSize.toNat⟩
    [w.request input, wordByteCount input w.request]).updateBlockRanges w.mallocs
      (fun i => prependSize.toNat + 2 + 2 * i) 2 (fun i => swapPair (prependSize.toNat + 2 + 2 * i))
      (bigEndianAt w.request (input + 3)).toNat

theorem readWord_denied (full : w.allocates w.mallocs = false) :
    modbusReadWordRequestHandler callbacks input inputSize prependSize appendSize w =
      (modbusErrorServerDeviceFailure, (w.emit (.access .request input 5)).withoutOutput
        (responseSize (2 + (wordByteCount input w.request).toNat) prependSize appendSize)) := by
  have small := responseSize_small (2 + (wordByteCount input w.request).toNat) prependSize appendSize
    (by have := (wordByteCount input w.request).toNat_lt; omega)
  simp only [modbusReadWordRequestHandler, emit_request, wordByteCount] at small ⊢
  rw [allocateOutput_denied _ (w.emit _) small full]

theorem readWord_granted (memory : w.allocates w.mallocs = true) :
    modbusReadWordRequestHandler callbacks input inputSize prependSize appendSize w =
      let (ret, answered) := (readWordsAsked input prependSize appendSize w).callReadWords
        callbacks.readWords (w.request input) (readWordsTable (w.request input))
        (bigEndianAt w.request (input + 1)) (bigEndianAt w.request (input + 3))
        ⟨w.mallocs, prependSize.toNat + 2⟩
      if ret = modbusErrorOk then
        (ret, (answered.store ⟨w.mallocs, prependSize.toNat⟩
          [w.request input, wordByteCount input w.request]).updateBlockRanges w.mallocs
            (fun i => prependSize.toNat + 2 + 2 * i) 2
            (fun i => swapPair (prependSize.toNat + 2 + 2 * i))
            (bigEndianAt w.request (input + 3)).toNat)
      else (ret, answered) := by
  have small := responseSize_small (2 + (wordByteCount input w.request).toNat) prependSize appendSize
    (by have := (wordByteCount input w.request).toNat_lt; omega)
  simp only [modbusReadWordRequestHandler, emit_request, wordByteCount] at small ⊢
  rw [allocateOutput_granted _ (w.emit _) small memory]
  simp only [Pointer.plus, Nat.zero_add, modbusFlipWord_eq_swapPair, loop_updateBlock, emit_mallocs]
  rfl

theorem readWords_called :
    (readWordsAsked input prependSize appendSize w).callReadWords (some readWords)
        (w.request input) (readWordsTable (w.request input)) (bigEndianAt w.request (input + 1))
        (bigEndianAt w.request (input + 3)) ⟨w.mallocs, prependSize.toNat + 2⟩ =
      ((readWordsAnswer readWords input w).1,
        readWordsAnswered readWords input prependSize appendSize w) := rfl

theorem readWord_absent (memory : w.allocates w.mallocs = true)
    (absent : callbacks.readWords = none) :
    modbusReadWordRequestHandler callbacks input inputSize prependSize appendSize w =
      (modbusErrorIllegalFunction, readWordsAsked input prependSize appendSize w) := by
  rw [readWord_granted _ _ _ _ _ _ memory, absent]
  rfl

theorem readWord_refused (memory : w.allocates w.mallocs = true)
    (present : callbacks.readWords = some readWords)
    (refused : (readWordsAnswer readWords input w).1 ≠ modbusErrorOk) :
    modbusReadWordRequestHandler callbacks input inputSize prependSize appendSize w =
      ((readWordsAnswer readWords input w).1,
        readWordsAnswered readWords input prependSize appendSize w) := by
  rw [readWord_granted _ _ _ _ _ _ memory, present, readWords_called]
  exact if_neg refused

theorem readWord_completed (memory : w.allocates w.mallocs = true)
    (present : callbacks.readWords = some readWords)
    (answered : (readWordsAnswer readWords input w).1 = modbusErrorOk) :
    modbusReadWordRequestHandler callbacks input inputSize prependSize appendSize w =
      (modbusErrorOk, readWordsCompleted readWords input prependSize appendSize w) := by
  rw [readWord_granted _ _ _ _ _ _ memory, present, readWords_called, answered]
  exact if_pos rfl

end ReadWords

/-! Read requests for bits. -/

section ReadBits

variable (callbacks : ModbusCallbacks σ) (readBits : ReadCallback σ UInt8)
  (input inputSize : Nat) (prependSize appendSize : UInt8) (w : World σ)

def bitByteCount (request : Memory) : UInt8 :=
  UInt8.ofNat (bytesForBits (bigEndianAt request (input + 3)).toNat)

def readBitsAnswer : UInt8 × List UInt8 × σ :=
  readBits (w.request input) (readBitsTable (w.request input)) (bigEndianAt w.request (input + 1))
    (bigEndianAt w.request (input + 3)) w.app

@[simps! -fullyApplied app request heap blockSize readsAllocated allocates mallocs outputBuffer outputSize log]
def readBitsAsked : World σ :=
  ((w.emit (.access .request input 5)).withOutput
    (responseSize (2 + (bitByteCount input w.request).toNat) prependSize appendSize)).store
      ⟨w.mallocs, prependSize.toNat + 2⟩ (List.replicate (bitByteCount input w.request).toNat 0)

@[simps! -fullyApplied app request heap blockSize readsAllocated allocates mallocs outputBuffer outputSize log]
def readBitsAnswered : World σ :=
  let quantity := bigEndianAt w.request (input + 3)
  let length := bytesForBits quantity.toNat
  (((readBitsAsked input prependSize appendSize w).setApp (readBitsAnswer readBits input w).2.2).emit
    (.call (.readBits (w.request input) (readBitsTable (w.request input))
      (bigEndianAt w.request (input + 1)) quantity))).updateBlock
        ⟨w.mallocs, prependSize.toNat + 2⟩ length fun memory =>
          writeRange memory (prependSize.toNat + 2) ((readBitsAnswer readBits input w).2.1.take length)

@[simps! -fullyApplied app request heap blockSize readsAllocated allocates mallocs outputBuffer outputSize log]
def readBitsCompleted : World σ :=
  ((readBitsAnswered readBits input prependSize appendSize w).store ⟨w.mallocs, prependSize.toNat⟩
    [w.request input, bitByteCount input w.request]).updateBlockRanges w.mallocs
      (fun i => prependSize.toNat + 2 + i) 1
      (fun i => mapCell modbusFlipByteBits (prependSize.toNat + 2 + i))
      (bitByteCount input w.request).toNat

theorem readBit_denied (full : w.allocates w.mallocs = false) :
    modbusReadBitRequestHandler callbacks input inputSize prependSize appendSize w =
      (modbusErrorServerDeviceFailure, (w.emit (.access .request input 5)).withoutOutput
        (responseSize (2 + (bitByteCount input w.request).toNat) prependSize appendSize)) := by
  have small := responseSize_small (2 + (bitByteCount input w.request).toNat) prependSize appendSize
    (by have := (bitByteCount input w.request).toNat_lt; omega)
  simp only [modbusReadBitRequestHandler, emit_request, bitByteCount, ← bytesForBits_eq] at small ⊢
  rw [allocateOutput_denied _ (w.emit _) small full]

/-- The loop over the response bytes runs on an eight-bit counter. -/
theorem flipResponseBytes (block start : Nat) (bound : UInt8) (world : World σ) :
    byteLoop (fun i current => current.updateBlock ⟨block, start + (2 + i.toNat)⟩ 1
        (mapCell modbusFlipByteBits (start + (2 + i.toNat)))) bound world =
      world.updateBlockRanges block (fun i => start + 2 + i) 1
        (fun i => mapCell modbusFlipByteBits (start + 2 + i)) bound.toNat := by
  rw [byteLoop_eq_loop (fun i (current : World σ) => current.updateBlock ⟨block, start + (2 + i)⟩ 1
    (mapCell modbusFlipByteBits (start + (2 + i)))), loop_updateBlock]
  simp only [Nat.add_assoc]

theorem readBit_granted (memory : w.allocates w.mallocs = true) :
    modbusReadBitRequestHandler callbacks input inputSize prependSize appendSize w =
      let (ret, answered) := (readBitsAsked input prependSize appendSize w).callReadBits
        callbacks.readBits (w.request input) (readBitsTable (w.request input))
        (bigEndianAt w.request (input + 1)) (bigEndianAt w.request (input + 3))
        ⟨w.mallocs, prependSize.toNat + 2⟩
      if ret = modbusErrorOk then
        (ret, (answered.store ⟨w.mallocs, prependSize.toNat⟩
          [w.request input, bitByteCount input w.request]).updateBlockRanges w.mallocs
            (fun i => prependSize.toNat + 2 + i) 1
            (fun i => mapCell modbusFlipByteBits (prependSize.toNat + 2 + i))
            (bitByteCount input w.request).toNat)
      else (ret, answered) := by
  have small := responseSize_small (2 + (bitByteCount input w.request).toNat) prependSize appendSize
    (by have := (bitByteCount input w.request).toNat_lt; omega)
  simp only [modbusReadBitRequestHandler, emit_request, bitByteCount, ← bytesForBits_eq] at small ⊢
  rw [allocateOutput_granted _ (w.emit _) small memory]
  simp only [Pointer.plus, Nat.zero_add, flipResponseBytes, emit_mallocs]
  rfl

theorem readBits_called :
    (readBitsAsked input prependSize appendSize w).callReadBits (some readBits)
        (w.request input) (readBitsTable (w.request input)) (bigEndianAt w.request (input + 1))
        (bigEndianAt w.request (input + 3)) ⟨w.mallocs, prependSize.toNat + 2⟩ =
      ((readBitsAnswer readBits input w).1,
        readBitsAnswered readBits input prependSize appendSize w) := rfl

theorem readBit_absent (memory : w.allocates w.mallocs = true)
    (absent : callbacks.readBits = none) :
    modbusReadBitRequestHandler callbacks input inputSize prependSize appendSize w =
      (modbusErrorIllegalFunction, readBitsAsked input prependSize appendSize w) := by
  rw [readBit_granted _ _ _ _ _ _ memory, absent]
  rfl

theorem readBit_refused (memory : w.allocates w.mallocs = true)
    (present : callbacks.readBits = some readBits)
    (refused : (readBitsAnswer readBits input w).1 ≠ modbusErrorOk) :
    modbusReadBitRequestHandler callbacks input inputSize prependSize appendSize w =
      ((readBitsAnswer readBits input w).1,
        readBitsAnswered readBits input prependSize appendSize w) := by
  rw [readBit_granted _ _ _ _ _ _ memory, present, readBits_called]
  exact if_neg refused

theorem readBit_completed (memory : w.allocates w.mallocs = true)
    (present : callbacks.readBits = some readBits)
    (answered : (readBitsAnswer readBits input w).1 = modbusErrorOk) :
    modbusReadBitRequestHandler callbacks input inputSize prependSize appendSize w =
      (modbusErrorOk, readBitsCompleted readBits input prependSize appendSize w) := by
  rw [readBit_granted _ _ _ _ _ _ memory, present, readBits_called, answered]
  exact if_pos rfl

end ReadBits

/-! Single writes ask the application first and allocate the response afterwards. -/

section WriteSingle

variable (callbacks : ModbusCallbacks σ) (input inputSize : Nat)
  (prependSize appendSize : UInt8) (w : World σ)

def coilData (request : Memory) : UInt8 := if bigEndianAt request (input + 3) = 0 then 0 else 1

def writeCoilAnswer (writeBits : WriteCallback σ UInt8) : UInt8 × σ :=
  writeBits (w.request input) modbusDataTableCoils (bigEndianAt w.request (input + 1)) 1
    [coilData input w.request] w.app

def writeRegisterAnswer (writeWords : WriteCallback σ UInt16) : UInt8 × σ :=
  writeWords (w.request input) modbusDataTableHoldingRegisters (bigEndianAt w.request (input + 1)) 1
    [bigEndianAt w.request (input + 3)] w.app

@[simps! -fullyApplied app request heap blockSize readsAllocated allocates mallocs outputBuffer outputSize log]
def coilWritten (writeBits : WriteCallback σ UInt8) : World σ :=
  ((w.emit (.access .request input 5)).setApp (writeCoilAnswer input w writeBits).2).emit
    (.call (.writeBits (w.request input) modbusDataTableCoils (bigEndianAt w.request (input + 1)) 1
      [coilData input w.request]))

@[simps! -fullyApplied app request heap blockSize readsAllocated allocates mallocs outputBuffer outputSize log]
def registerWritten (writeWords : WriteCallback σ UInt16) : World σ :=
  ((w.emit (.access .request input 5)).setApp (writeRegisterAnswer input w writeWords).2).emit
    (.call (.writeWords (w.request input) modbusDataTableHoldingRegisters
      (bigEndianAt w.request (input + 1)) 1 [bigEndianAt w.request (input + 3)]))

@[simps! -fullyApplied app request heap blockSize readsAllocated allocates mallocs outputBuffer outputSize log]
def acknowledged (written : World σ) : World σ :=
  (written.withOutput (responseSize 5 prependSize appendSize)).store ⟨written.mallocs, 0⟩
    [written.request input, highByte (bigEndianAt written.request (input + 1)),
      lowByte (bigEndianAt written.request (input + 1)),
      highByte (bigEndianAt written.request (input + 3)),
      lowByte (bigEndianAt written.request (input + 3))]

def finishSingle (ret : UInt8) (written : World σ) : UInt8 × World σ :=
  if ret = modbusErrorOk then
    if written.allocates written.mallocs = true then
      (modbusErrorOk, acknowledged input prependSize appendSize written)
    else
      (modbusErrorServerDeviceFailure,
        written.withoutOutput (responseSize 5 prependSize appendSize))
  else (ret, written)

theorem finishSingle_granted (written : World σ)
    (memory : written.allocates written.mallocs = true) :
    finishSingle input prependSize appendSize modbusErrorOk written =
      (modbusErrorOk, acknowledged input prependSize appendSize written) := by
  simp only [finishSingle, memory, if_true]

theorem finishSingle_eq (ret : UInt8) (written : World σ) :
    (if ret = modbusErrorOk then
      let (block, answered) := written.allocateOutput (responseSize 5 prependSize appendSize)
      match block with
      | none => (modbusErrorServerDeviceFailure, answered)
      | some sendBuffer => (ret, answered.store sendBuffer [written.request input,
          highByte (bigEndianAt written.request (input + 1)),
          lowByte (bigEndianAt written.request (input + 1)),
          highByte (bigEndianAt written.request (input + 3)),
          lowByte (bigEndianAt written.request (input + 3))])
    else (ret, written)) = finishSingle input prependSize appendSize ret written := by
  have small := responseSize_small 5 prependSize appendSize (by omega)
  by_cases ok : ret = modbusErrorOk
  · simp only [finishSingle, ok, if_true]
    cases memory : written.allocates written.mallocs with
    | false => rw [allocateOutput_denied _ _ small memory]; rfl
    | true => rw [allocateOutput_granted _ _ small memory]; rfl
  · simp only [finishSingle, ok, if_false]

theorem writeSingle_coil {writeBits : WriteCallback σ UInt8}
    (isCoil : w.request input = modbusWriteSingleCoilFc)
    (present : callbacks.writeBits = some writeBits) :
    modbusWriteRequestHandler callbacks input inputSize prependSize appendSize w =
      finishSingle input prependSize appendSize (writeCoilAnswer input w writeBits).1
        (coilWritten input w writeBits) := by
  simp only [modbusWriteRequestHandler, emit_request, isCoil, present, beq_self_eq_true,
    callWriteBits, emit_app]
  have finished := finishSingle_eq input prependSize appendSize (writeCoilAnswer input w writeBits).1
    (coilWritten input w writeBits)
  simp only [coilWritten, writeCoilAnswer, coilData, isCoil, emit_request, setApp_request] at finished ⊢
  exact finished

theorem writeSingle_register {writeWords : WriteCallback σ UInt16}
    (isRegister : w.request input = modbusWriteSingleRegisterFc)
    (present : callbacks.writeWords = some writeWords) :
    modbusWriteRequestHandler callbacks input inputSize prependSize appendSize w =
      finishSingle input prependSize appendSize (writeRegisterAnswer input w writeWords).1
        (registerWritten input w writeWords) := by
  have notCoil : (modbusWriteSingleRegisterFc == modbusWriteSingleCoilFc) = false := by decide
  simp only [modbusWriteRequestHandler, emit_request, isRegister, present, notCoil, beq_self_eq_true,
    callWriteWords, emit_app]
  have finished := finishSingle_eq input prependSize appendSize
    (writeRegisterAnswer input w writeWords).1 (registerWritten input w writeWords)
  simp only [registerWritten, writeRegisterAnswer, isRegister, emit_request, setApp_request]
    at finished ⊢
  exact finished

theorem writeSingle_coil_absent (isCoil : w.request input = modbusWriteSingleCoilFc)
    (absent : callbacks.writeBits = none) :
    modbusWriteRequestHandler callbacks input inputSize prependSize appendSize w =
      (modbusErrorIllegalFunction, w.emit (.access .request input 5)) := by
  have notRegister : (modbusWriteSingleCoilFc == modbusWriteSingleRegisterFc) = false := by decide
  simp [modbusWriteRequestHandler, isCoil, absent, notRegister]

theorem writeSingle_register_absent (isRegister : w.request input = modbusWriteSingleRegisterFc)
    (absent : callbacks.writeWords = none) :
    modbusWriteRequestHandler callbacks input inputSize prependSize appendSize w =
      (modbusErrorIllegalFunction, w.emit (.access .request input 5)) := by
  have notCoil : (modbusWriteSingleRegisterFc == modbusWriteSingleCoilFc) = false := by decide
  simp [modbusWriteRequestHandler, isRegister, absent, notCoil]

end WriteSingle

/-! Multiple writes allocate the response first and convert the data in the request itself.
The conversion of words runs over twice the bytes that were announced. -/

section WriteMultiple

variable (callbacks : ModbusCallbacks σ) (writeWords : WriteCallback σ UInt16)
  (writeBits : WriteCallback σ UInt8) (input inputSize : Nat) (prependSize appendSize : UInt8)
  (w : World σ)

def flippedWords (request : Memory) : Memory :=
  swapPairs (input + 6) (request (input + 5)).toNat request

def flippedBits (request : Memory) : Memory :=
  mapRange modbusFlipByteBits (input + 6) (request (input + 5)).toNat request

def registersHanded (request : Memory) : List UInt16 :=
  littleEndianWords (flippedWords input request) (input + 6) (bigEndianAt request (input + 3)).toNat

def coilsHanded (request : Memory) : List UInt8 :=
  readRange (flippedBits input request) (input + 6)
    (bytesForBits (bigEndianAt request (input + 3)).toNat)

theorem registersHanded_getElem? (request : Memory) (index : Nat) :
    (registersHanded input request)[index]? =
      if index < (bigEndianAt request (input + 3)).toNat then
        some (if index < (request (input + 5)).toNat then bigEndianAt request (input + 6 + 2 * index)
          else littleEndianAt request (input + 6 + 2 * index))
      else none := by
  by_cases bound : index < (bigEndianAt request (input + 3)).toNat
  · by_cases flipped : index < (request (input + 5)).toNat
    · simp [registersHanded, littleEndianWords, flippedWords, bound, flipped,
        littleEndianAt_swapPairs]
    · have beyond : (request (input + 5)).toNat ≤ index := by omega
      simp [registersHanded, littleEndianWords, flippedWords, bound, flipped,
        littleEndianAt_swapPairs_beyond _ _ _ _ beyond]
  · simp [registersHanded, bound]

theorem coilsHanded_getElem? (request : Memory) (index : Nat) :
    (coilsHanded input request)[index]? =
      if index < bytesForBits (bigEndianAt request (input + 3)).toNat then
        some (if index < (request (input + 5)).toNat then
          modbusFlipByteBits (request (input + 6 + index)) else request (input + 6 + index))
      else none := by
  rw [coilsHanded, readRange_getElem?]
  simp [flippedBits, mapRange]

def writeRegistersAnswer : UInt8 × σ :=
  writeWords (w.request input) modbusDataTableHoldingRegisters (bigEndianAt w.request (input + 1))
    (bigEndianAt w.request (input + 3)) (registersHanded input w.request) w.app

def writeCoilsAnswer : UInt8 × σ :=
  writeBits (w.request input) modbusDataTableCoils (bigEndianAt w.request (input + 1))
    (bigEndianAt w.request (input + 3)) (coilsHanded input w.request) w.app

@[simps! -fullyApplied app request heap blockSize readsAllocated allocates mallocs outputBuffer outputSize log]
def registersWritten : World σ :=
  let quantity := bigEndianAt w.request (input + 3)
  (((((((w.emit (.access .request input 6)).withOutput
    (responseSize 5 prependSize appendSize)).updateRequestRanges (fun i => input + 6 + 2 * i) 2
      (fun i => swapPair (input + 6 + 2 * i)) (w.request (input + 5)).toNat).emit
    (.access .request (input + 6) (2 * quantity.toNat))).setApp
      (writeRegistersAnswer writeWords input w).2).emit
    (.call (.writeWords (w.request input) modbusDataTableHoldingRegisters
      (bigEndianAt w.request (input + 1)) quantity (registersHanded input w.request)))).emit
    (.access .request input 5)).store ⟨w.mallocs, prependSize.toNat⟩
      (readRange (flippedWords input w.request) input 5)

@[simps! -fullyApplied app request heap blockSize readsAllocated allocates mallocs outputBuffer outputSize log]
def coilsWritten : World σ :=
  let quantity := bigEndianAt w.request (input + 3)
  ((((((((w.emit (.access .request input 6)).withOutput
    (responseSize 5 prependSize appendSize)).updateRequestRanges (fun i => input + 6 + i) 1
      (fun i => mapCell modbusFlipByteBits (input + 6 + i)) (w.request (input + 5)).toNat).emit
    (.access .request (input + 6) (bytesForBits quantity.toNat))).setApp
      (writeCoilsAnswer writeBits input w).2).emit
    (.call (.writeBits (w.request input) modbusDataTableCoils (bigEndianAt w.request (input + 1))
      quantity (coilsHanded input w.request)))).setOutput
        (some ⟨w.mallocs, prependSize.toNat⟩)).emit
    (.access .request input 5)).store ⟨w.mallocs, prependSize.toNat⟩
      (readRange (flippedBits input w.request) input 5)

theorem writeRegisters_absent (absent : callbacks.writeWords = none) :
    modbusWriteMultipleRegistersRequestHandler callbacks input inputSize prependSize appendSize w =
      (modbusErrorIllegalFunction, w) := by
  simp [modbusWriteMultipleRegistersRequestHandler, absent]

theorem writeRegisters_denied (present : callbacks.writeWords = some writeWords)
    (full : w.allocates w.mallocs = false) :
    modbusWriteMultipleRegistersRequestHandler callbacks input inputSize prependSize appendSize w =
      (modbusErrorServerDeviceFailure, (w.emit (.access .request input 6)).withoutOutput
        (responseSize 5 prependSize appendSize)) := by
  have small := responseSize_small 5 prependSize appendSize (by omega)
  simp only [modbusWriteMultipleRegistersRequestHandler, present]
  rw [allocateOutput_denied _ (w.emit _) small full]

theorem writeRegisters_granted (present : callbacks.writeWords = some writeWords)
    (memory : w.allocates w.mallocs = true) :
    modbusWriteMultipleRegistersRequestHandler callbacks input inputSize prependSize appendSize w =
      ((writeRegistersAnswer writeWords input w).1,
        registersWritten writeWords input prependSize appendSize w) := by
  have small := responseSize_small 5 prependSize appendSize (by omega)
  simp only [modbusWriteMultipleRegistersRequestHandler, present]
  rw [allocateOutput_granted _ (w.emit _) small memory]
  simp only [Pointer.plus, Nat.zero_add, modbusFlipWord_eq_swapPair, loop_updateRequest,
    emit_mallocs, callWriteWords, emit_request, setApp_request, updateRequestRanges_request,
    withOutput_request, loop_swapPairs]
  rfl

theorem writeCoils_absent (absent : callbacks.writeBits = none) :
    modbusWriteMultipleCoilsRequestHandler callbacks input inputSize prependSize appendSize w =
      (modbusErrorIllegalFunction, w) := by
  simp [modbusWriteMultipleCoilsRequestHandler, absent]

theorem writeCoils_denied (present : callbacks.writeBits = some writeBits)
    (full : w.allocates w.mallocs = false) :
    modbusWriteMultipleCoilsRequestHandler callbacks input inputSize prependSize appendSize w =
      (modbusErrorServerDeviceFailure, (w.emit (.access .request input 6)).withoutOutput
        (responseSize 5 prependSize appendSize)) := by
  have small := responseSize_small 5 prependSize appendSize (by omega)
  simp only [modbusWriteMultipleCoilsRequestHandler, present]
  rw [allocateOutput_denied _ (w.emit _) small full]

theorem writeCoils_granted (present : callbacks.writeBits = some writeBits)
    (memory : w.allocates w.mallocs = true) :
    modbusWriteMultipleCoilsRequestHandler callbacks input inputSize prependSize appendSize w =
      ((writeCoilsAnswer writeBits input w).1,
        coilsWritten writeBits input prependSize appendSize w) := by
  have small := responseSize_small 5 prependSize appendSize (by omega)
  simp only [modbusWriteMultipleCoilsRequestHandler, present]
  rw [allocateOutput_granted _ (w.emit _) small memory]
  simp only [Pointer.plus, Nat.zero_add, loop_updateRequest, emit_mallocs, callWriteBits,
    emit_request, setApp_request, setOutput_request, updateRequestRanges_request,
    withOutput_request, loop_mapCell]
  rfl

end WriteMultiple

/-! Read/write requests run the two handlers above on one request: that of multiple coils,
whose block is freed at the pointer it left, and that of words. Where the heap does not take that
pointer, the run stops between the two. -/

section ReadWrite

variable (callbacks : ModbusCallbacks σ) (writeBits : WriteCallback σ UInt8)
  (input inputSize : Nat) (prependSize appendSize : UInt8) (w : World σ)

theorem readWrite_absent
    (absent : callbacks.readWords = none ∨ callbacks.writeWords = none) :
    modbusReadWriteMultipleRegistersRequestHandler callbacks input inputSize prependSize
      appendSize w = .returned modbusErrorIllegalFunction w := by
  rcases absent with absent | absent <;>
    simp [modbusReadWriteMultipleRegistersRequestHandler, absent]

/-- `vPortFree` takes the pointer to a new block that was moved by `prepend_size` bytes. -/
def movedFreeable : Bool := decide (prependSize = 0) || w.freeable ⟨w.mallocs, prependSize.toNat⟩

@[simp] theorem movedFreeable_seven : movedFreeable 7 w = false := by
  simp [movedFreeable]

theorem words_present (present : ¬ (callbacks.readWords = none ∨ callbacks.writeWords = none)) :
    callbacks.readWords.isSome ∧ callbacks.writeWords.isSome := by
  obtain ⟨readSet, writeSet⟩ := not_or.mp present
  exact ⟨Option.isSome_iff_ne_none.mpr readSet, Option.isSome_iff_ne_none.mpr writeSet⟩

theorem coilsWritten_freeable :
    (coilsWritten writeBits input prependSize appendSize w).freeable ⟨w.mallocs, prependSize.toNat⟩ =
      movedFreeable prependSize w := by
  by_cases unmoved : prependSize = 0
  · simp [freeable, movedFreeable, unmoved]
  · have moved : prependSize.toNat ≠ 0 := fun zero => unmoved (UInt8.toNat_inj.mp zero)
    simp [freeable, movedFreeable, unmoved, moved]

@[simps! -fullyApplied app request heap blockSize readsAllocated allocates mallocs outputBuffer outputSize log]
def coilsFreed : World σ :=
  (coilsWritten writeBits input prependSize appendSize w).freed ⟨w.mallocs, prependSize.toNat⟩

theorem readWrite_called (readable : callbacks.readWords.isSome)
    (writable : callbacks.writeWords.isSome) :
    modbusReadWriteMultipleRegistersRequestHandler callbacks input inputSize prependSize
      appendSize w =
        let (ret, w) := modbusWriteMultipleCoilsRequestHandler callbacks input inputSize prependSize
          appendSize w
        let freed := match w.outputBuffer with
          | some outputBuffer => w.vPortFree outputBuffer
          | none => .returned () w
        freed.bind fun _ w =>
          if ret = modbusErrorOk then
            .of (modbusReadWordRequestHandler callbacks input inputSize prependSize appendSize w)
          else .returned ret w := by
  have bothSet : ¬ (callbacks.readWords.isNone ∨ callbacks.writeWords.isNone) := by
    simp [Option.isNone_iff_eq_none, Option.isSome_iff_ne_none.mp readable,
      Option.isSome_iff_ne_none.mp writable]
  rw [modbusReadWriteMultipleRegistersRequestHandler]
  exact if_neg bothSet

theorem readWrite_noCoils (readable : callbacks.readWords.isSome)
    (writable : callbacks.writeWords.isSome) (absent : callbacks.writeBits = none)
    (unset : w.outputBuffer = none) :
    modbusReadWriteMultipleRegistersRequestHandler callbacks input inputSize prependSize
      appendSize w = .returned modbusErrorIllegalFunction w := by
  rw [readWrite_called _ _ _ _ _ _ readable writable, writeCoils_absent _ _ _ _ _ _ absent]
  simp [unset]

theorem readWrite_denied (readable : callbacks.readWords.isSome)
    (writable : callbacks.writeWords.isSome) (present : callbacks.writeBits = some writeBits)
    (full : w.allocates w.mallocs = false) :
    modbusReadWriteMultipleRegistersRequestHandler callbacks input inputSize prependSize
      appendSize w = .returned modbusErrorServerDeviceFailure
        ((w.emit (.access .request input 6)).withoutOutput (responseSize 5 prependSize appendSize)) := by
  rw [readWrite_called _ _ _ _ _ _ readable writable, writeCoils_denied _ _ _ _ _ _ _ present full]
  simp

theorem readWrite_stopped (readable : callbacks.readWords.isSome)
    (writable : callbacks.writeWords.isSome) (present : callbacks.writeBits = some writeBits)
    (memory : w.allocates w.mallocs = true) (stuck : movedFreeable prependSize w = false) :
    modbusReadWriteMultipleRegistersRequestHandler callbacks input inputSize prependSize
      appendSize w = .stopped ((coilsWritten writeBits input prependSize appendSize w).emit
        (.free ⟨w.mallocs, prependSize.toNat⟩)) := by
  rw [readWrite_called _ _ _ _ _ _ readable writable, writeCoils_granted _ _ _ _ _ _ _ present memory]
  simp only [coilsWritten_outputBuffer, vPortFree, coilsWritten_freeable, stuck, Bool.false_eq_true,
    if_false, Outcome.bind_stopped]

theorem readWrite_freed (readable : callbacks.readWords.isSome)
    (writable : callbacks.writeWords.isSome) (present : callbacks.writeBits = some writeBits)
    (memory : w.allocates w.mallocs = true) (taken : movedFreeable prependSize w = true) :
    modbusReadWriteMultipleRegistersRequestHandler callbacks input inputSize prependSize
      appendSize w =
        if (writeCoilsAnswer writeBits input w).1 = modbusErrorOk then
          .of (modbusReadWordRequestHandler callbacks input inputSize prependSize appendSize
            (coilsFreed writeBits input prependSize appendSize w))
        else .returned (writeCoilsAnswer writeBits input w).1
          (coilsFreed writeBits input prependSize appendSize w) := by
  rw [readWrite_called _ _ _ _ _ _ readable writable, writeCoils_granted _ _ _ _ _ _ _ present memory]
  simp only [coilsWritten_outputBuffer, vPortFree, coilsWritten_freeable, taken, if_true,
    Outcome.bind_returned]
  rfl

theorem bigEndianAt_flippedBits (request : Memory) (offset : Nat) (before : offset + 1 < input + 6) :
    bigEndianAt (flippedBits input request) offset = bigEndianAt request offset := by
  simp only [bigEndianAt, flippedBits]
  rw [mapRange_outside _ _ _ _ _ (by omega), mapRange_outside _ _ _ _ _ (by omega)]

/-- Converting the data in the request leaves what the read half decodes. -/
theorem readWordsAnswer_coilsFreed (readWords : ReadCallback σ UInt16) :
    readWordsAnswer readWords input (coilsFreed writeBits input prependSize appendSize w) =
      readWordsAnswer readWords input (w.setApp (writeCoilsAnswer writeBits input w).2) := by
  have flipped : (coilsFreed writeBits input prependSize appendSize w).request =
      flippedBits input w.request := by simp [flippedBits]
  have head : flippedBits input w.request input = w.request input :=
    mapRange_outside _ _ _ _ _ (by omega)
  have address := bigEndianAt_flippedBits input w.request (input + 1) (by omega)
  have quantity := bigEndianAt_flippedBits input w.request (input + 3) (by omega)
  simp only [readWordsAnswer, flipped, head, address, quantity]
  simp

end ReadWrite

end SpeFramework
