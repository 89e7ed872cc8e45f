import SpeFramework.Modbus.Coils
import SpeFramework.Modbus.Dispatch

/-!
The responses to read requests byte by byte, for any quantity the callback answers, and the
quantities for which the eight-bit byte count says what the response holds.
-/

namespace SpeFramework

open RangeStore ByteOrder World

variable {σ : Type} (callbacks : ModbusCallbacks σ) (input inputSize : Nat)
  (prependSize appendSize : UInt8) (w : World σ)

/-! Where the data lies. -/

/-- The caller's block has room for its two margins, and between them the function code, the
length of `data` and `data` itself. -/
structure CarriesResponse (functionCode : UInt8) (data : List UInt8) (final : World σ) : Prop where
  size : final.outputSize.toNat = prependSize.toNat + 2 + data.length + appendSize.toNat
  block : ∃ id, final.outputBuffer = some ⟨id, 0⟩ ∧
    final.blockSize id = prependSize.toNat + 2 + data.length + appendSize.toNat ∧
    final.heap id prependSize.toNat = functionCode ∧
    (final.heap id (prependSize.toNat + 1)).toNat = data.length ∧
    readRange (final.heap id) (prependSize.toNat + 2) data.length = data

/-- Items a callback did not supply count as the zeros the handler put there. -/
structure RegisterData (items : List UInt16) (quantity : Nat) (data : List UInt8) : Prop where
  length : data.length = 2 * quantity
  registers : ∀ index < quantity,
    data[2 * index]? = some (highByte (items.getD index 0)) ∧
      data[2 * index + 1]? = some (lowByte (items.getD index 0))

structure BitData (items : List UInt8) (quantity : Nat) (data : List UInt8) : Prop where
  length : data.length = bytesForBits quantity
  bits : ∀ bit < quantity, lsbFirst data bit = msbFirst items bit
  unused : ∀ bit, quantity ≤ bit → bit < 8 * bytesForBits quantity → lsbFirst data bit = false

variable {input prependSize appendSize w}

theorem wordByteCount_toNat (few : (bigEndianAt w.request (input + 3)).toNat ≤ 127) :
    (wordByteCount input w.request).toNat = 2 * (bigEndianAt w.request (input + 3)).toNat := by
  rw [wordByteCount, UInt8.toNat_ofNat']
  omega

theorem bitByteCount_toNat (few : (bigEndianAt w.request (input + 3)).toNat ≤ 2040) :
    (bitByteCount input w.request).toNat =
      bytesForBits (bigEndianAt w.request (input + 3)).toNat := by
  rw [bitByteCount, UInt8.toNat_ofNat', bytesForBits]
  omega

theorem allocatedSize_toNat (prependSize appendSize count : UInt8) :
    (UInt16.ofNat (responseSize (2 + count.toNat) prependSize appendSize)).toNat =
      prependSize.toNat + 2 + count.toNat + appendSize.toNat := by
  have bound := count.toNat_lt
  have fits := UInt16.toNat_ofNat_of_lt (responseSize_small (2 + count.toNat) prependSize appendSize
    (by omega))
  refine Eq.trans fits ?_
  rw [responseSize]
  omega

/-- A byte of the data before the loop: the callback's, or the zero put there before. -/
theorem registerByte (items : List UInt16) {quantity index : Nat} (memory : Memory) (start : Nat)
    (bound : index < 2 * quantity) :
    writeRange (writeRange memory start (List.replicate (2 * quantity) 0)) start
        (littleEndianBytes (items.take quantity)) (start + index) =
      if index % 2 = 0 then lowByte (items.getD (index / 2) 0)
      else highByte (items.getD (index / 2) 0) := by
  have half : index / 2 < quantity := by omega
  have cleared : (List.replicate (2 * quantity) (0 : UInt8))[index]? = some 0 := by
    rw [List.getElem?_replicate, if_pos bound]
  rw [writeRange_at, writeRange_at, littleEndianBytes_getElem?, List.getElem?_take_of_lt half, cleared,
    List.getD_eq_getElem?_getD]
  cases items[index / 2]? with
  | none => split <;> rfl
  | some word => split <;> rfl

theorem bitsByte (items : List UInt8) {length index : Nat} (memory : Memory) (start : Nat)
    (bound : index < length) :
    writeRange (writeRange memory start (List.replicate length 0)) start (items.take length)
        (start + index) = items.getD index 0 := by
  have cleared : (List.replicate length (0 : UInt8))[index]? = some 0 := by
    rw [List.getElem?_replicate, if_pos bound]
  rw [writeRange_at, writeRange_at, List.getElem?_take_of_lt bound, cleared,
    List.getD_eq_getElem?_getD]
  rfl

theorem head_kept (memory : Memory) (start : Nat) (code count : UInt8) (change : Memory → Memory)
    (outside : ∀ cell, cell < start + 2 →
      change (writeRange memory start [code, count]) cell = writeRange memory start [code, count] cell) :
    change (writeRange memory start [code, count]) start = code ∧
      change (writeRange memory start [code, count]) (start + 1) = count := by
  constructor
  · rw [outside _ (by omega)]
    exact writeRange_at memory start [code, count] 0
  · rw [outside _ (by omega)]
    exact writeRange_at memory start [code, count] 1

variable (input prependSize appendSize w)

theorem readWordsCompleted_head (readWords : ReadCallback σ UInt16) :
    (readWordsCompleted readWords input prependSize appendSize w).heap w.mallocs prependSize.toNat =
        w.request input ∧
      (readWordsCompleted readWords input prependSize appendSize w).heap w.mallocs
        (prependSize.toNat + 1) = wordByteCount input w.request := by
  simp only [readWordsCompleted_heap, Function.update_self]
  exact head_kept _ _ _ _ _ fun cell before => swapPairs_outside _ _ _ _ (.inl before)

theorem readBitsCompleted_head (readBits : ReadCallback σ UInt8) :
    (readBitsCompleted readBits input prependSize appendSize w).heap w.mallocs prependSize.toNat =
        w.request input ∧
      (readBitsCompleted readBits input prependSize appendSize w).heap w.mallocs
        (prependSize.toNat + 1) = bitByteCount input w.request := by
  simp only [readBitsCompleted_heap, Function.update_self]
  exact head_kept _ _ _ _ _ fun cell before => mapRange_outside _ _ _ _ _ (.inl before)

/-- The loop moves the other byte of a pair to each cell of the data. -/
theorem readWordsCompleted_byte (readWords : ReadCallback σ UInt16)
    (few : (bigEndianAt w.request (input + 3)).toNat ≤ 127) (index : Nat)
    (bound : index < 2 * (bigEndianAt w.request (input + 3)).toNat) :
    (readWordsCompleted readWords input prependSize appendSize w).heap w.mallocs
        (prependSize.toNat + 2 + index) =
      if index % 2 = 0 then highByte ((readWordsAnswer readWords input w).2.1.getD (index / 2) 0)
      else lowByte ((readWordsAnswer readWords input w).2.1.getD (index / 2) 0) := by
  have inside : prependSize.toNat + 2 ≤ prependSize.toNat + 2 + index ∧
      prependSize.toNat + 2 + index <
        prependSize.toNat + 2 + 2 * (bigEndianAt w.request (input + 3)).toNat := by omega
  simp only [readWordsCompleted_heap, Function.update_self, wordByteCount_toNat few, swapPairs,
    if_pos inside, Nat.add_sub_cancel_left]
  by_cases even : index % 2 = 0
  · have odd : (index + 1) % 2 ≠ 0 := by omega
    have half : (index + 1) / 2 = index / 2 := by omega
    rw [if_pos even, if_pos even, Nat.add_assoc _ index, writeRange_outside _ _ _ _ (.inr (by simp)),
      registerByte _ _ _ (by omega), if_neg odd, half]
  · have even' : (index - 1) % 2 = 0 := by omega
    have half : (index - 1) / 2 = index / 2 := by omega
    have back : prependSize.toNat + 2 + index - 1 = prependSize.toNat + 2 + (index - 1) := by omega
    rw [if_neg even, if_neg even, back, writeRange_outside _ _ _ _ (.inr (by simp)),
      registerByte _ _ _ (by omega), if_pos even', half]

theorem readBitsCompleted_byte (readBits : ReadCallback σ UInt8)
    (few : (bigEndianAt w.request (input + 3)).toNat ≤ 2040) (index : Nat)
    (bound : index < bytesForBits (bigEndianAt w.request (input + 3)).toNat) :
    (readBitsCompleted readBits input prependSize appendSize w).heap w.mallocs
        (prependSize.toNat + 2 + index) =
      modbusFlipByteBits ((readBitsAnswer readBits input w).2.1.getD index 0) := by
  have inside : prependSize.toNat + 2 ≤ prependSize.toNat + 2 + index ∧
      prependSize.toNat + 2 + index <
        prependSize.toNat + 2 + bytesForBits (bigEndianAt w.request (input + 3)).toNat := by omega
  simp only [readBitsCompleted_heap, Function.update_self, bitByteCount_toNat few, mapRange,
    if_pos inside]
  rw [writeRange_outside _ _ _ _ (.inr (by simp)), bitsByte _ _ _ bound]

theorem readWordsCompleted_response (readWords : ReadCallback σ UInt16)
    (few : (bigEndianAt w.request (input + 3)).toNat ≤ 127) :
    ∃ data, CarriesResponse prependSize appendSize (w.request input) data
        (readWordsCompleted readWords input prependSize appendSize w) ∧
      RegisterData (readWordsAnswer readWords input w).2.1 (bigEndianAt w.request (input + 3)).toNat
        data := by
  have count := wordByteCount_toNat few
  have head := readWordsCompleted_head input prependSize appendSize w readWords
  have byte := readWordsCompleted_byte input prependSize appendSize w readWords few
  have size := allocatedSize_toNat prependSize appendSize (wordByteCount input w.request)
  refine ⟨readRange ((readWordsCompleted readWords input prependSize appendSize w).heap w.mallocs)
    (prependSize.toNat + 2) (2 * (bigEndianAt w.request (input + 3)).toNat),
    ⟨?_, w.mallocs, ?_, ?_, head.1, ?_, ?_⟩, readRange_length _ _ _, ?_⟩
  · rw [readWordsCompleted_outputSize, readRange_length, size, count]
  · exact readWordsCompleted_outputBuffer ..
  · rw [readWordsCompleted_blockSize, Function.update_self, readRange_length, responseSize, count]
    omega
  · rw [head.2, count, readRange_length]
  · rw [readRange_length]
  · intro index bound
    have even : 2 * index % 2 = 0 := by omega
    have odd : (2 * index + 1) % 2 ≠ 0 := by omega
    have half : 2 * index / 2 = index ∧ (2 * index + 1) / 2 = index := by omega
    rw [readRange_getElem?, if_pos (by omega), byte _ (by omega), if_pos even, half.1,
      readRange_getElem?, if_pos (by omega), byte _ (by omega), if_neg odd, half.2]
    exact ⟨rfl, rfl⟩

theorem readBitsCompleted_response (readBits : ReadCallback σ UInt8)
    (few : (bigEndianAt w.request (input + 3)).toNat ≤ 2040)
    (unusedZero : ∀ bit, (bigEndianAt w.request (input + 3)).toNat ≤ bit →
      bit < 8 * bytesForBits (bigEndianAt w.request (input + 3)).toNat →
      msbFirst (readBitsAnswer readBits input w).2.1 bit = false) :
    ∃ data, CarriesResponse prependSize appendSize (w.request input) data
        (readBitsCompleted readBits input prependSize appendSize w) ∧
      BitData (readBitsAnswer readBits input w).2.1 (bigEndianAt w.request (input + 3)).toNat
        data := by
  have count := bitByteCount_toNat few
  have head := readBitsCompleted_head input prependSize appendSize w readBits
  have size := allocatedSize_toNat prependSize appendSize (bitByteCount input w.request)
  have mirrored (bit : Nat) (bound : bit < 8 * bytesForBits (bigEndianAt w.request (input + 3)).toNat) :
      lsbFirst (readRange ((readBitsCompleted readBits input prependSize appendSize w).heap w.mallocs)
          (prependSize.toNat + 2) (bytesForBits (bigEndianAt w.request (input + 3)).toNat)) bit =
        msbFirst (readBitsAnswer readBits input w).2.1 bit := by
    have inside : bit / 8 < bytesForBits (bigEndianAt w.request (input + 3)).toNat := by omega
    rw [lsbFirst, List.getD_eq_getElem?_getD, readRange_getElem?, if_pos inside, Option.getD_some,
      readBitsCompleted_byte input prependSize appendSize w readBits few _ inside,
      modbusFlipByteBits_testBit _ _ (by omega)]
    rfl
  refine ⟨readRange ((readBitsCompleted readBits input prependSize appendSize w).heap w.mallocs)
    (prependSize.toNat + 2) (bytesForBits (bigEndianAt w.request (input + 3)).toNat),
    ⟨?_, w.mallocs, ?_, ?_, head.1, ?_, ?_⟩, readRange_length _ _ _, ?_, ?_⟩
  · rw [readBitsCompleted_outputSize, readRange_length, size, count]
  · exact readBitsCompleted_outputBuffer ..
  · rw [readBitsCompleted_blockSize, Function.update_self, readRange_length, responseSize, count]
    omega
  · rw [head.2, count, readRange_length]
  · rw [readRange_length]
  · intro bit bound
    exact mirrored bit (by rw [bytesForBits]; omega)
  · intro bit above below
    rw [mirrored bit below]
    exact unusedZero bit above below

/-! The request as `modbus_handle_request` serves it. -/

variable {callbacks input w}

theorem handleRequest_readWord {readWords : ReadCallback σ UInt16}
    (kind : requestKind (w.request input) = .readWords) (memory : w.allocates w.mallocs = true)
    (present : callbacks.readWords = some readWords)
    (answered : (readWordsAnswer readWords input w).1 = modbusErrorOk) :
    modbusHandleRequest callbacks input inputSize prependSize appendSize w =
      .returned modbusErrorOk (readWordsCompleted readWords input prependSize appendSize
        (w.emit (.access .request input 1))) := by
  have selected : handled callbacks input inputSize prependSize appendSize w =
      .of (modbusReadWordRequestHandler callbacks input inputSize prependSize appendSize
        (w.emit (.access .request input 1))) := by
    simp only [handled, modbusSelectedHandler, emit_request, kind]
  rw [readWord_completed callbacks readWords input inputSize prependSize appendSize
    (w.emit (.access .request input 1)) memory present answered] at selected
  exact handleRequest_answered selected rfl

theorem handleRequest_readBit {readBits : ReadCallback σ UInt8}
    (kind : requestKind (w.request input) = .readBits) (memory : w.allocates w.mallocs = true)
    (present : callbacks.readBits = some readBits)
    (answered : (readBitsAnswer readBits input w).1 = modbusErrorOk) :
    modbusHandleRequest callbacks input inputSize prependSize appendSize w =
      .returned modbusErrorOk (readBitsCompleted readBits input prependSize appendSize
        (w.emit (.access .request input 1))) := by
  have selected : handled callbacks input inputSize prependSize appendSize w =
      .of (modbusReadBitRequestHandler callbacks input inputSize prependSize appendSize
        (w.emit (.access .request input 1))) := by
    simp only [handled, modbusSelectedHandler, emit_request, kind]
  rw [readBit_completed callbacks readBits input inputSize prependSize appendSize
    (w.emit (.access .request input 1)) memory present answered] at selected
  exact handleRequest_answered selected rfl

variable (callbacks input w)

theorem handleRequest_readResponse (memory : w.allocates w.mallocs = true) :
    (∀ readWords, callbacks.readWords = some readWords →
        (w.request input = modbusReadHoldingRegistersFc ∨
          w.request input = modbusReadInputRegistersFc) →
        1 ≤ (bigEndianAt w.request (input + 3)).toNat →
        (bigEndianAt w.request (input + 3)).toNat ≤ 127 →
        (readWordsAnswer readWords input w).1 = modbusErrorOk →
        ∃ final data, modbusHandleRequest callbacks input inputSize prependSize appendSize w =
            .returned modbusErrorOk final ∧
          CarriesResponse prependSize appendSize (w.request input) data final ∧
          RegisterData (readWordsAnswer readWords input w).2.1
            (bigEndianAt w.request (input + 3)).toNat data) ∧
      (∀ readBits, callbacks.readBits = some readBits →
        (w.request input = modbusReadCoilsFc ∨ w.request input = modbusReadDiscreteInputsFc) →
        1 ≤ (bigEndianAt w.request (input + 3)).toNat →
        (bigEndianAt w.request (input + 3)).toNat ≤ 2040 →
        (readBitsAnswer readBits input w).1 = modbusErrorOk →
        (∀ bit, (bigEndianAt w.request (input + 3)).toNat ≤ bit →
          bit < 8 * bytesForBits (bigEndianAt w.request (input + 3)).toNat →
          msbFirst (readBitsAnswer readBits input w).2.1 bit = false) →
        ∃ final data, modbusHandleRequest callbacks input inputSize prependSize appendSize w =
            .returned modbusErrorOk final ∧
          CarriesResponse prependSize appendSize (w.request input) data final ∧
          BitData (readBitsAnswer readBits input w).2.1
            (bigEndianAt w.request (input + 3)).toNat data) := by
  constructor
  · intro readWords present code _ few answered
    have kind : requestKind (w.request input) = .readWords := by
      rcases code with code | code <;> rw [code] <;> decide
    obtain ⟨data, response, registers⟩ := readWordsCompleted_response input prependSize appendSize
      (w.emit (.access .request input 1)) readWords few
    exact ⟨_, data, handleRequest_readWord inputSize prependSize appendSize kind memory present answered,
      response, registers⟩
  · intro readBits present code _ few answered unusedZero
    have kind : requestKind (w.request input) = .readBits := by
      rcases code with code | code <;> rw [code] <;> decide
    obtain ⟨data, response, bits⟩ := readBitsCompleted_response input prependSize appendSize
      (w.emit (.access .request input 1)) readBits few unusedZero
    exact ⟨_, data, handleRequest_readBit inputSize prependSize appendSize kind memory present answered,
      response, bits⟩

/-! Ten inputs of which every third is set, at their place behind seven bytes for a header. -/

def everyThird : ModbusCallbacks Unit where
  readBits := some fun _ _ _ _ app => (modbusErrorOk, [0x92, 0x40], app)
  writeBits := none
  readWords := some fun _ _ _ _ app => (modbusErrorOk, [0x1234], app)
  writeWords := none
  otherFunctions := none

theorem everyThird_response :
    ∃ final data, modbusHandleRequest everyThird 0 5 7 0
          (World.initial () [0x02, 0, 0, 0, 10]) = .returned modbusErrorOk final ∧
      CarriesResponse 7 0 0x02 data final ∧ BitData [0x92, 0x40] 10 data := by
  have zero : ∀ bit < 16, 10 ≤ bit → msbFirst [0x92, 0x40] bit = false := by decide
  exact (handleRequest_readResponse everyThird 0 5 7 0 (World.initial () [0x02, 0, 0, 0, 10]) rfl).2 _
    rfl (.inr rfl) (by decide) (by decide) rfl fun bit above below => zero bit below above

/-! Quantities up to the largest the request can state. -/

/-- The block has room for `needed` bytes after the two of the head, and its byte count is both
`needed` and the number of bytes there are. -/
structure RespondsInFull (functionCode : UInt8) (needed : Nat) (id : Nat) (final : World σ) :
    Prop where
  pointer : final.outputBuffer = some ⟨id, 0⟩
  code : final.heap id prependSize.toNat = functionCode
  room : prependSize.toNat + 2 + needed + appendSize.toNat ≤ final.blockSize id
  held : final.outputSize.toNat =
    prependSize.toNat + 2 + (final.heap id (prependSize.toNat + 1)).toNat + appendSize.toNat
  count : (final.heap id (prependSize.toNat + 1)).toNat = needed

def AnswersInFull (made : Call) (needed : Nat) : Prop :=
  callsMade callbacks input inputSize prependSize appendSize w = [] ∧
      (∃ errorCode, Told callbacks input inputSize prependSize appendSize w (.exception errorCode)) ∨
    callsMade callbacks input inputSize prependSize appendSize w = [made] ∧
      ∃ final id, outcomeOf callbacks input inputSize prependSize appendSize w =
          .returned modbusErrorOk final ∧
        RespondsInFull prependSize appendSize (w.request input) needed id final

def ReadRequest (functionCode : UInt8) : Prop :=
  functionCode = modbusReadCoilsFc ∨ functionCode = modbusReadDiscreteInputsFc ∨
    functionCode = modbusReadHoldingRegistersFc ∨ functionCode = modbusReadInputRegistersFc

def readCall (request : Memory) : Call :=
  if requestKind (request input) = .readBits then readBitsCall input request
  else readWordsCall input request

def dataNeeded (request : Memory) : Nat :=
  if requestKind (request input) = .readBits then
    bytesForBits (bigEndianAt request (input + 3)).toNat
  else 2 * (bigEndianAt request (input + 3)).toNat

/-- With memory for the response, its data can be counted in one byte and the callback accepts;
without, there is memory for the exception. -/
def CountsInOneByte : Prop :=
  if w.allocates w.mallocs then
    dataNeeded input w.request ≤ 255 ∧
      (replyTo callbacks (readCall input w.request) w.app).1 = modbusErrorOk
  else w.allocates (w.mallocs + 1) = true

/-- What a completed read leaves, whichever handler ran. -/
structure CompletedRead (count : UInt8) (final : World σ) : Prop where
  pointer : final.outputBuffer = some ⟨w.mallocs, 0⟩
  code : final.heap w.mallocs prependSize.toNat = w.request input
  counted : final.heap w.mallocs (prependSize.toNat + 1) = count
  block : final.blockSize w.mallocs = responseSize (2 + count.toNat) prependSize appendSize
  size : final.outputSize = UInt16.ofNat (responseSize (2 + count.toNat) prependSize appendSize)

variable {callbacks input inputSize prependSize appendSize w}

theorem completedRead_inFull_iff {needed : Nat} {final : World σ}
    (completed : CompletedRead input prependSize appendSize w (UInt8.ofNat needed) final) :
    (∃ id, RespondsInFull prependSize appendSize (w.request input) needed id final) ↔
      needed ≤ 255 := by
  have count : (UInt8.ofNat needed).toNat = needed % 256 := UInt8.toNat_ofNat'
  constructor
  · rintro ⟨id, full⟩
    have same := full.pointer
    rw [completed.pointer] at same
    cases same
    have counted := full.count
    rw [completed.counted, count] at counted
    omega
  · intro few
    have exact' : needed % 256 = needed := Nat.mod_eq_of_lt (by omega)
    refine ⟨w.mallocs, completed.pointer, completed.code, ?_, ?_, ?_⟩
    · rw [completed.block, responseSize, count, exact']
      omega
    · rw [completed.size, completed.counted, allocatedSize_toNat]
    · rw [completed.counted, count, exact']

theorem answersInFull_iff {made : Call} {ret : UInt8} {needed : Nat} (final : World σ)
    (low : w.request input < 0x80)
    (takes : course callbacks input prependSize w = allocatedFirst input w made ret)
    (ends : w.allocates w.mallocs = true → ret = modbusErrorOk →
      outcomeOf callbacks input inputSize prependSize appendSize w = .returned modbusErrorOk final)
    (completed : CompletedRead input prependSize appendSize w (UInt8.ofNat needed) final) :
    AnswersInFull callbacks input inputSize prependSize appendSize w made needed ↔
      if w.allocates w.mallocs then needed ≤ 255 ∧ ret = modbusErrorOk
      else w.allocates (w.mallocs + 1) = true := by
  have follows := handleRequest_course callbacks input inputSize prependSize appendSize w
  have calls := follows.calls
  have told := follows.told
  simp only [AnswersInFull, told_iff]
  rw [takes] at calls told ⊢
  cases memory : w.allocates w.mallocs with
  | false =>
      simp only [allocatedFirst, memory, Bool.false_eq_true, if_false] at calls ⊢
      rw [calls]
      simp only [reported, low, if_true, true_and, List.nil_eq, reduceCtorEq, false_and, or_false]
      cases w.allocates (w.mallocs + 1) <;> simp
  | true =>
      simp only [allocatedFirst, memory, if_true] at calls told ⊢
      rw [calls]
      simp only [reduceCtorEq, false_and, true_and, false_or]
      by_cases accepted : ret = modbusErrorOk
      · rw [ends memory accepted]
        simp only [accepted, and_true, Outcome.returned.injEq, true_and, exists_and_left,
          exists_eq_left']
        exact completedRead_inFull_iff completed
      · -- a refusal finds the block, and the run ends at the null pointer
        rw [if_neg accepted] at told
        refine iff_of_false ?_ fun both => accepted both.2
        rintro ⟨other, id, returned, full⟩
        rw [Told, returned] at told
        have unset : other.outputBuffer = none := told
        rw [full.pointer] at unset
        cases unset

variable (callbacks input inputSize prependSize appendSize w)

theorem readBits_countsInOneByte_iff (kind : requestKind (w.request input) = .readBits)
    {readBits : ReadCallback σ UInt8} (present : callbacks.readBits = some readBits) :
    AnswersInFull callbacks input inputSize prependSize appendSize w (readCall input w.request)
        (dataNeeded input w.request) ↔ CountsInOneByte callbacks input w := by
  have low := requestKind_low (w.request input) (by simp [kind])
  have head := readBitsCompleted_head input prependSize appendSize (entered input w) readBits
  simp only [CountsInOneByte, dataNeeded, readCall, kind, if_true]
  rw [replyTo_readBits callbacks input w present]
  refine answersInFull_iff (readBitsCompleted readBits input prependSize appendSize
    (entered input w)) low (by simp only [course, kind, present]) (fun memory answered => ?_) ?_
  · exact handleRequest_readBit inputSize prependSize appendSize kind memory present answered
  · exact ⟨rfl, head.1, head.2, by simp [bitByteCount], by simp [bitByteCount]⟩

theorem readWords_countsInOneByte_iff (kind : requestKind (w.request input) = .readWords)
    {readWords : ReadCallback σ UInt16} (present : callbacks.readWords = some readWords) :
    AnswersInFull callbacks input inputSize prependSize appendSize w (readCall input w.request)
        (dataNeeded input w.request) ↔ CountsInOneByte callbacks input w := by
  have low := requestKind_low (w.request input) (by simp [kind])
  have head := readWordsCompleted_head input prependSize appendSize (entered input w) readWords
  simp only [CountsInOneByte, dataNeeded, readCall, kind, reduceCtorEq, if_false]
  rw [replyTo_readWords callbacks input w present]
  refine answersInFull_iff (readWordsCompleted readWords input prependSize appendSize
    (entered input w)) low (by simp only [course, kind, present]) (fun memory answered => ?_) ?_
  · exact handleRequest_readWord inputSize prependSize appendSize kind memory present answered
  · exact ⟨rfl, head.1, head.2, by simp [wordByteCount], by simp [wordByteCount]⟩

theorem handleRequest_countsInOneByte_iff (read : ReadRequest (w.request input))
    (set : callbackSet callbacks (w.request input) = true) :
    AnswersInFull callbacks input inputSize prependSize appendSize w (readCall input w.request)
        (dataNeeded input w.request) ↔ CountsInOneByte callbacks input w := by
  cases kind : requestKind (w.request input) with
  | readBits =>
      simp only [callbackSet, kind] at set
      obtain ⟨readBits, present⟩ := Option.isSome_iff_exists.mp set
      exact readBits_countsInOneByte_iff callbacks input inputSize prependSize appendSize w kind present
  | readWords =>
      simp only [callbackSet, kind] at set
      obtain ⟨readWords, present⟩ := Option.isSome_iff_exists.mp set
      exact readWords_countsInOneByte_iff callbacks input inputSize prependSize appendSize w kind present
  | _ => rcases read with code | code | code | code <;> rw [code] at kind <;> contradiction

/-! 127 registers fit, 128 do not: their 256 bytes are counted as none. -/

theorem registers127_inFull :
    AnswersInFull everyThird 0 5 7 0 (World.initial () [0x03, 0, 0, 0, 127])
      (readCall 0 (World.initial () [0x03, 0, 0, 0, 127]).request)
      (dataNeeded 0 (World.initial () [0x03, 0, 0, 0, 127]).request) :=
  (handleRequest_countsInOneByte_iff everyThird 0 5 7 0 (World.initial () [0x03, 0, 0, 0, 127])
    (.inr (.inr (.inl rfl))) rfl).mpr ⟨by decide, rfl⟩

theorem registers128_cut :
    ¬ AnswersInFull everyThird 0 5 7 0 (World.initial () [0x03, 0, 0, 0, 128])
      (readCall 0 (World.initial () [0x03, 0, 0, 0, 128]).request)
      (dataNeeded 0 (World.initial () [0x03, 0, 0, 0, 128]).request) := by
  intro answers
  have kind : requestKind ((World.initial () [0x03, 0, 0, 0, 128]).request 0) = .readWords := by decide
  have counts := (readWords_countsInOneByte_iff everyThird 0 5 7 0
    (World.initial () [0x03, 0, 0, 0, 128]) kind rfl).mp answers
  exact absurd counts.1 (by decide)

end SpeFramework
