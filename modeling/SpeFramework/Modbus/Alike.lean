import SpeFramework.Modbus.TcpCases

/-!
Two runs that start alike but for the bytes of the request no handler decides by. They stay
alike: the same calls with the same arguments, the same bytes sent, the same state after.
-/

namespace SpeFramework

open RangeStore ByteOrder World

variable {σ : Type}

/-- How many bytes a handler reads, from the function code on, of what decides its result. -/
def bytesRead (input : Nat) (request : Memory) : Nat :=
  let quantity := (bigEndianAt request (input + 3)).toNat
  match requestKind (request input) with
  | .readBits | .readWords | .writeSingle => 5
  | .writeMultipleRegisters => if quantity = 0 then 5 else 6 + 2 * quantity
  | .writeMultipleCoils | .readWriteMultipleRegisters =>
      if quantity = 0 then 5 else 6 + bytesForBits quantity
  | .other => 1

theorem bytesRead_positive (input : Nat) (request : Memory) : 0 < bytesRead input request := by
  simp only [bytesRead]
  split <;> first | split | skip
  all_goals omega

def AgreeOn (input count : Nat) (first second : Memory) : Prop :=
  ∀ index < count, first (input + index) = second (input + index)

/-- The worlds differ at most in the request and in the accesses logged. -/
structure Alike (first second : World σ) : Prop where
  app : first.app = second.app
  heap : first.heap = second.heap
  blockSize : first.blockSize = second.blockSize
  readsAllocated : first.readsAllocated = second.readsAllocated
  allocates : first.allocates = second.allocates
  mallocs : first.mallocs = second.mallocs
  outputBuffer : first.outputBuffer = second.outputBuffer
  outputSize : first.outputSize = second.outputSize
  observations : observed first.log = observed second.log

def AlikeResults (first second : UInt8 × World σ) : Prop :=
  first.1 = second.1 ∧ Alike first.2 second.2

def AlikeOutcomes {ρ : Type} : Outcome σ ρ → Outcome σ ρ → Prop
  | .returned value first, .returned other second => value = other ∧ Alike first second
  | .stopped first, .stopped second => Alike first second
  | .fault first, .fault second => Alike first second
  | _, _ => False

@[simp] theorem observed_access (area : Area) (offset length : Nat) :
    observed [.access area offset length] = [] := rfl

@[simp] theorem observed_malloc (size : Nat) (answer : Option Nat) :
    observed [.malloc size answer] = [] := rfl

@[simp] theorem observed_accesses {α : Type} (items : List α) (area : Area) (offset : α → Nat)
    (length : Nat) : observed (items.map fun item => .access area (offset item) length) = [] := by
  simp [observed, Event.observable]

namespace Alike

variable {first second : World σ} (alike : Alike first second)

include alike

theorem emit (event : Event) : Alike (first.emit event) (second.emit event) :=
  { alike with observations := by simp [alike.observations] }

theorem access (area : Area) (offset length : Nat) (otherArea : Area) (otherOffset otherLength : Nat) :
    Alike (first.emit (.access area offset length))
      (second.emit (.access otherArea otherOffset otherLength)) :=
  { alike with observations := by simp [alike.observations] }

theorem setApp (app : σ) : Alike (first.setApp app) (second.setApp app) :=
  { alike with app := rfl }

theorem setOutput (buffer : Option Pointer) :
    Alike (first.setOutput buffer) (second.setOutput buffer) :=
  { alike with outputBuffer := rfl }

theorem setOutputSize (size : Nat) : Alike (first.setOutputSize size) (second.setOutputSize size) :=
  { alike with outputSize := rfl }

theorem freed (pointer : Pointer) : Alike (first.freed pointer) (second.freed pointer) :=
  { alike with
    readsAllocated := by simp [alike.readsAllocated]
    observations := by simp [alike.observations] }

theorem freeable (pointer : Pointer) : first.freeable pointer = second.freeable pointer := by
  rw [World.freeable, World.freeable, alike.readsAllocated]

theorem updateRequestRanges (offset otherOffset : Nat → Nat) (length otherLength : Nat)
    (change otherChange : Nat → Memory → Memory) (count otherCount : Nat) :
    Alike (first.updateRequestRanges offset length change count)
      (second.updateRequestRanges otherOffset otherLength otherChange otherCount) :=
  { alike with observations := by simp [alike.observations] }

theorem updateBlock (pointer : Pointer) (length : Nat) (change : Memory → Memory) :
    Alike (first.updateBlock pointer length change) (second.updateBlock pointer length change) :=
  { alike with
    heap := by simp [alike.heap]
    observations := by simp [alike.observations] }

theorem updateBlockRanges (block : Nat) (offset : Nat → Nat) (length : Nat)
    (change : Nat → Memory → Memory) (count : Nat) :
    Alike (first.updateBlockRanges block offset length change count)
      (second.updateBlockRanges block offset length change count) :=
  { alike with
    heap := by simp [alike.heap]
    observations := by simp [alike.observations] }

theorem withOutput (size : Nat) : Alike (first.withOutput size) (second.withOutput size) where
  app := alike.app
  heap := alike.heap
  blockSize := by simp [alike.blockSize, alike.mallocs]
  readsAllocated := by simp [alike.readsAllocated, alike.mallocs]
  allocates := alike.allocates
  mallocs := by simp [alike.mallocs]
  outputBuffer := by simp [alike.mallocs]
  outputSize := rfl
  observations := by simp [alike.observations]

theorem withoutOutput (size : Nat) :
    Alike (first.withoutOutput size) (second.withoutOutput size) where
  app := alike.app
  heap := alike.heap
  blockSize := alike.blockSize
  readsAllocated := alike.readsAllocated
  allocates := alike.allocates
  mallocs := by simp [alike.mallocs]
  outputBuffer := rfl
  outputSize := rfl
  observations := by simp [alike.observations]

end Alike

/-! What the handlers decode is the same where the requests agree. -/

section Decoded

variable {input count : Nat} {first second : Memory}

theorem AgreeOn.code (agree : AgreeOn input count first second) (bound : 0 < count) :
    first input = second input := agree 0 bound

theorem AgreeOn.bigEndianAt (agree : AgreeOn input count first second) (index : Nat)
    (bound : index + 1 < count) :
    bigEndianAt first (input + index) = bigEndianAt second (input + index) := by
  rw [ByteOrder.bigEndianAt, ByteOrder.bigEndianAt, agree index (by omega), Nat.add_assoc,
    agree (index + 1) (by omega)]

theorem AgreeOn.registersHanded (agree : AgreeOn input count first second) (head : 5 ≤ count)
    (data : 0 < (ByteOrder.bigEndianAt first (input + 3)).toNat →
      6 + 2 * (ByteOrder.bigEndianAt first (input + 3)).toNat ≤ count) :
    registersHanded input first = registersHanded input second := by
  have quantity := agree.bigEndianAt 3 (by omega)
  apply List.ext_getElem?
  intro index
  rw [registersHanded_getElem?, registersHanded_getElem?, ← quantity]
  by_cases bound : index < (ByteOrder.bigEndianAt first (input + 3)).toNat
  · have covered := data (by omega)
    have low := agree (6 + 2 * index) (by omega)
    have high := agree (6 + 2 * index + 1) (by omega)
    simp only [← Nat.add_assoc] at low high
    rw [if_pos bound, if_pos bound, ← agree 5 (by omega)]
    simp only [ByteOrder.bigEndianAt, littleEndianAt, low, high]
  · rw [if_neg bound, if_neg bound]

theorem AgreeOn.coilsHanded (agree : AgreeOn input count first second) (head : 5 ≤ count)
    (data : 0 < (ByteOrder.bigEndianAt first (input + 3)).toNat →
      6 + bytesForBits (ByteOrder.bigEndianAt first (input + 3)).toNat ≤ count) :
    coilsHanded input first = coilsHanded input second := by
  have quantity := agree.bigEndianAt 3 (by omega)
  apply List.ext_getElem?
  intro index
  rw [coilsHanded_getElem?, coilsHanded_getElem?, ← quantity]
  by_cases bound : index < bytesForBits (ByteOrder.bigEndianAt first (input + 3)).toNat
  · have covered := data (by simp only [bytesForBits] at bound; omega)
    have byte := agree (6 + index) (by omega)
    rw [← Nat.add_assoc] at byte
    rw [if_pos bound, if_pos bound, ← agree 5 (by omega), byte]
  · rw [if_neg bound, if_neg bound]

theorem AgreeOn.head (agree : AgreeOn input count first second) (head : 5 ≤ count)
    (change : Nat → Memory → Memory)
    (before : ∀ bound memory cell, cell < input + 6 → change bound memory cell = memory cell) :
    readRange (change (first (input + 5)).toNat first) input 5 =
      readRange (change (second (input + 5)).toNat second) input 5 := by
  apply List.ext_getElem?
  intro index
  rw [readRange_getElem?, readRange_getElem?]
  by_cases bound : index < 5
  · rw [if_pos bound, if_pos bound, before _ _ _ (by omega), before _ _ _ (by omega),
      agree index (by omega)]
  · rw [if_neg bound, if_neg bound]

end Decoded

/-! The worlds the handlers end in. -/

section Handlers

variable (callbacks : ModbusCallbacks σ) (input inputSize : Nat) (prependSize appendSize : UInt8)
  {first second : World σ} (alike : Alike first second) {count : Nat}
  (agree : AgreeOn input count first.request second.request)

include alike agree

theorem readWordsAsked_alike (head : 5 ≤ count) :
    Alike (readWordsAsked input prependSize appendSize first)
      (readWordsAsked input prependSize appendSize second) := by
  have byteCount : wordByteCount input first.request = wordByteCount input second.request := by
    rw [wordByteCount, wordByteCount, agree.bigEndianAt 3 (by omega)]
  simp only [readWordsAsked, ← byteCount, ← alike.mallocs]
  exact ((alike.emit _).withOutput _).updateBlock _ _ _

theorem readWordsAnswer_alike (readWords : ReadCallback σ UInt16) (head : 5 ≤ count) :
    readWordsAnswer readWords input first = readWordsAnswer readWords input second := by
  rw [readWordsAnswer, readWordsAnswer, agree.code (by omega), agree.bigEndianAt 1 (by omega),
    agree.bigEndianAt 3 (by omega), alike.app]

theorem readWordsAnswered_alike (readWords : ReadCallback σ UInt16) (head : 5 ≤ count) :
    Alike (readWordsAnswered readWords input prependSize appendSize first)
      (readWordsAnswered readWords input prependSize appendSize second) := by
  have asked := readWordsAsked_alike input prependSize appendSize alike agree head
  simp only [readWordsAnswered, ← readWordsAnswer_alike input alike agree readWords head,
    ← agree.code (by omega), ← agree.bigEndianAt 1 (by omega), ← agree.bigEndianAt 3 (by omega),
    ← alike.mallocs]
  exact ((asked.setApp _).emit _).updateBlock _ _ _

theorem readWordsCompleted_alike (readWords : ReadCallback σ UInt16) (head : 5 ≤ count) :
    Alike (readWordsCompleted readWords input prependSize appendSize first)
      (readWordsCompleted readWords input prependSize appendSize second) := by
  have answered := readWordsAnswered_alike input prependSize appendSize alike agree readWords head
  simp only [readWordsCompleted, wordByteCount, ← agree.code (by omega),
    ← agree.bigEndianAt 3 (by omega), ← alike.mallocs]
  exact (answered.updateBlock _ _ _).updateBlockRanges _ _ _ _ _

theorem readWord_alike (head : 5 ≤ count) :
    AlikeResults (modbusReadWordRequestHandler callbacks input inputSize prependSize appendSize first)
      (modbusReadWordRequestHandler callbacks input inputSize prependSize appendSize second) := by
  have answers := readWordsAnswer_alike input alike agree
  cases memory : first.allocates first.mallocs with
  | false =>
      have full : second.allocates second.mallocs = false := by
        rw [← alike.allocates, ← alike.mallocs, memory]
      rw [readWord_denied _ _ _ _ _ _ memory, readWord_denied _ _ _ _ _ _ full]
      simp only [wordByteCount, ← agree.bigEndianAt 3 (by omega)]
      exact ⟨rfl, (alike.emit _).withoutOutput _⟩
  | true =>
      have granted : second.allocates second.mallocs = true := by
        rw [← alike.allocates, ← alike.mallocs, memory]
      cases present : callbacks.readWords with
      | none =>
          rw [readWord_absent _ _ _ _ _ _ memory present, readWord_absent _ _ _ _ _ _ granted present]
          exact ⟨rfl, readWordsAsked_alike input prependSize appendSize alike agree head⟩
      | some readWords =>
          by_cases answered : (readWordsAnswer readWords input first).1 = modbusErrorOk
          · rw [readWord_completed _ _ _ _ _ _ _ memory present answered,
              readWord_completed _ _ _ _ _ _ _ granted present (answers readWords head ▸ answered)]
            exact ⟨rfl, readWordsCompleted_alike input prependSize appendSize alike agree readWords head⟩
          · rw [readWord_refused _ _ _ _ _ _ _ memory present answered,
              readWord_refused _ _ _ _ _ _ _ granted present (answers readWords head ▸ answered),
              answers readWords head]
            exact ⟨rfl, readWordsAnswered_alike input prependSize appendSize alike agree readWords head⟩

theorem readBitsAsked_alike (head : 5 ≤ count) :
    Alike (readBitsAsked input prependSize appendSize first)
      (readBitsAsked input prependSize appendSize second) := by
  have byteCount : bitByteCount input first.request = bitByteCount input second.request := by
    rw [bitByteCount, bitByteCount, agree.bigEndianAt 3 (by omega)]
  simp only [readBitsAsked, ← byteCount, ← alike.mallocs]
  exact ((alike.emit _).withOutput _).updateBlock _ _ _

theorem readBitsAnswer_alike (readBits : ReadCallback σ UInt8) (head : 5 ≤ count) :
    readBitsAnswer readBits input first = readBitsAnswer readBits input second := by
  rw [readBitsAnswer, readBitsAnswer, agree.code (by omega), agree.bigEndianAt 1 (by omega),
    agree.bigEndianAt 3 (by omega), alike.app]

theorem readBitsAnswered_alike (readBits : ReadCallback σ UInt8) (head : 5 ≤ count) :
    Alike (readBitsAnswered readBits input prependSize appendSize first)
      (readBitsAnswered readBits input prependSize appendSize second) := by
  have asked := readBitsAsked_alike input prependSize appendSize alike agree head
  simp only [readBitsAnswered, ← readBitsAnswer_alike input alike agree readBits head,
    ← agree.code (by omega), ← agree.bigEndianAt 1 (by omega), ← agree.bigEndianAt 3 (by omega),
    ← alike.mallocs]
  exact ((asked.setApp _).emit _).updateBlock _ _ _

theorem readBitsCompleted_alike (readBits : ReadCallback σ UInt8) (head : 5 ≤ count) :
    Alike (readBitsCompleted readBits input prependSize appendSize first)
      (readBitsCompleted readBits input prependSize appendSize second) := by
  have answered := readBitsAnswered_alike input prependSize appendSize alike agree readBits head
  simp only [readBitsCompleted, bitByteCount, ← agree.code (by omega),
    ← agree.bigEndianAt 3 (by omega), ← alike.mallocs]
  exact (answered.updateBlock _ _ _).updateBlockRanges _ _ _ _ _

theorem readBit_alike (head : 5 ≤ count) :
    AlikeResults (modbusReadBitRequestHandler callbacks input inputSize prependSize appendSize first)
      (modbusReadBitRequestHandler callbacks input inputSize prependSize appendSize second) := by
  have answers := readBitsAnswer_alike input alike agree
  cases memory : first.allocates first.mallocs with
  | false =>
      have full : second.allocates second.mallocs = false := by
        rw [← alike.allocates, ← alike.mallocs, memory]
      rw [readBit_denied _ _ _ _ _ _ memory, readBit_denied _ _ _ _ _ _ full]
      simp only [bitByteCount, ← agree.bigEndianAt 3 (by omega)]
      exact ⟨rfl, (alike.emit _).withoutOutput _⟩
  | true =>
      have granted : second.allocates second.mallocs = true := by
        rw [← alike.allocates, ← alike.mallocs, memory]
      cases present : callbacks.readBits with
      | none =>
          rw [readBit_absent _ _ _ _ _ _ memory present, readBit_absent _ _ _ _ _ _ granted present]
          exact ⟨rfl, readBitsAsked_alike input prependSize appendSize alike agree head⟩
      | some readBits =>
          by_cases answered : (readBitsAnswer readBits input first).1 = modbusErrorOk
          · rw [readBit_completed _ _ _ _ _ _ _ memory present answered,
              readBit_completed _ _ _ _ _ _ _ granted present (answers readBits head ▸ answered)]
            exact ⟨rfl, readBitsCompleted_alike input prependSize appendSize alike agree readBits head⟩
          · rw [readBit_refused _ _ _ _ _ _ _ memory present answered,
              readBit_refused _ _ _ _ _ _ _ granted present (answers readBits head ▸ answered),
              answers readBits head]
            exact ⟨rfl, readBitsAnswered_alike input prependSize appendSize alike agree readBits head⟩

theorem acknowledged_alike (head : 5 ≤ count) :
    Alike (acknowledged input prependSize appendSize first)
      (acknowledged input prependSize appendSize second) := by
  simp only [acknowledged, ← agree.code (by omega), ← agree.bigEndianAt 1 (by omega),
    ← agree.bigEndianAt 3 (by omega), ← alike.mallocs]
  exact (alike.withOutput _).updateBlock _ _ _

theorem finishSingle_alike (ret : UInt8) (head : 5 ≤ count) :
    AlikeResults (finishSingle input prependSize appendSize ret first)
      (finishSingle input prependSize appendSize ret second) := by
  simp only [finishSingle, ← alike.allocates, ← alike.mallocs]
  split
  · split
    · exact ⟨rfl, acknowledged_alike input prependSize appendSize alike agree head⟩
    · exact ⟨rfl, alike.withoutOutput _⟩
  · exact ⟨rfl, alike⟩

theorem writeCoilAnswer_alike (writeBits : WriteCallback σ UInt8) (head : 5 ≤ count) :
    writeCoilAnswer input first writeBits = writeCoilAnswer input second writeBits := by
  rw [writeCoilAnswer, writeCoilAnswer, coilData, coilData, agree.code (by omega),
    agree.bigEndianAt 1 (by omega), agree.bigEndianAt 3 (by omega), alike.app]

theorem coilWritten_alike (writeBits : WriteCallback σ UInt8) (head : 5 ≤ count) :
    Alike (coilWritten input first writeBits) (coilWritten input second writeBits) := by
  simp only [coilWritten, ← writeCoilAnswer_alike input alike agree writeBits head, coilData,
    ← agree.code (by omega), ← agree.bigEndianAt 1 (by omega), ← agree.bigEndianAt 3 (by omega)]
  exact ((alike.emit _).setApp _).emit _

theorem writeRegisterAnswer_alike (writeWords : WriteCallback σ UInt16) (head : 5 ≤ count) :
    writeRegisterAnswer input first writeWords = writeRegisterAnswer input second writeWords := by
  rw [writeRegisterAnswer, writeRegisterAnswer, agree.code (by omega),
    agree.bigEndianAt 1 (by omega), agree.bigEndianAt 3 (by omega), alike.app]

theorem registerWritten_alike (writeWords : WriteCallback σ UInt16) (head : 5 ≤ count) :
    Alike (registerWritten input first writeWords) (registerWritten input second writeWords) := by
  simp only [registerWritten, ← writeRegisterAnswer_alike input alike agree writeWords head,
    ← agree.code (by omega), ← agree.bigEndianAt 1 (by omega), ← agree.bigEndianAt 3 (by omega)]
  exact ((alike.emit _).setApp _).emit _

theorem writeSingle_alike (head : 5 ≤ count)
    (kind : requestKind (first.request input) = .writeSingle) :
    AlikeResults (modbusWriteRequestHandler callbacks input inputSize prependSize appendSize first)
      (modbusWriteRequestHandler callbacks input inputSize prependSize appendSize second) := by
  have code := agree.code (by omega)
  rcases writeSingle_code input first kind with isCoil | isRegister
  · have isCoil' := code ▸ isCoil
    cases present : callbacks.writeBits with
    | none =>
        rw [writeSingle_coil_absent _ _ _ _ _ _ isCoil present,
          writeSingle_coil_absent _ _ _ _ _ _ isCoil' present]
        exact ⟨rfl, alike.emit _⟩
    | some writeBits =>
        rw [writeSingle_coil _ _ _ _ _ _ isCoil present, writeSingle_coil _ _ _ _ _ _ isCoil' present,
          ← writeCoilAnswer_alike input alike agree writeBits head]
        exact finishSingle_alike input prependSize appendSize
          (coilWritten_alike input alike agree writeBits head) agree _ head
  · have isRegister' := code ▸ isRegister
    cases present : callbacks.writeWords with
    | none =>
        rw [writeSingle_register_absent _ _ _ _ _ _ isRegister present,
          writeSingle_register_absent _ _ _ _ _ _ isRegister' present]
        exact ⟨rfl, alike.emit _⟩
    | some writeWords =>
        rw [writeSingle_register _ _ _ _ _ _ isRegister present,
          writeSingle_register _ _ _ _ _ _ isRegister' present,
          ← writeRegisterAnswer_alike input alike agree writeWords head]
        exact finishSingle_alike input prependSize appendSize
          (registerWritten_alike input alike agree writeWords head) agree _ head

theorem registersWritten_alike (writeWords : WriteCallback σ UInt16) (head : 5 ≤ count)
    (data : 0 < (bigEndianAt first.request (input + 3)).toNat →
      6 + 2 * (bigEndianAt first.request (input + 3)).toNat ≤ count) :
    (writeRegistersAnswer writeWords input first).1 = (writeRegistersAnswer writeWords input second).1 ∧
      Alike (registersWritten writeWords input prependSize appendSize first)
        (registersWritten writeWords input prependSize appendSize second) := by
  have answer : writeRegistersAnswer writeWords input first =
      writeRegistersAnswer writeWords input second := by
    rw [writeRegistersAnswer, writeRegistersAnswer, agree.code (by omega),
      agree.bigEndianAt 1 (by omega), agree.bigEndianAt 3 (by omega),
      agree.registersHanded head data, alike.app]
  have echo := agree.head head (fun bound => swapPairs (input + 6) bound)
    fun bound memory cell before => swapPairs_outside _ _ _ _ (.inl before)
  refine ⟨by rw [answer], ?_⟩
  simp only [registersWritten, flippedWords, ← answer, ← agree.code (by omega),
    ← agree.bigEndianAt 1 (by omega), ← agree.bigEndianAt 3 (by omega),
    ← agree.registersHanded head data, ← echo, ← alike.mallocs]
  exact ((((((((alike.emit _).withOutput _).updateRequestRanges _ _ _ _ _ _ _ _).emit _).setApp _).emit
    _).emit _).updateBlock _ _ _)

theorem coilsWritten_alike (writeBits : WriteCallback σ UInt8) (head : 5 ≤ count)
    (data : 0 < (bigEndianAt first.request (input + 3)).toNat →
      6 + bytesForBits (bigEndianAt first.request (input + 3)).toNat ≤ count) :
    writeCoilsAnswer writeBits input first = writeCoilsAnswer writeBits input second ∧
      Alike (coilsWritten writeBits input prependSize appendSize first)
        (coilsWritten writeBits input prependSize appendSize second) := by
  have answer : writeCoilsAnswer writeBits input first =
      writeCoilsAnswer writeBits input second := by
    rw [writeCoilsAnswer, writeCoilsAnswer, agree.code (by omega),
      agree.bigEndianAt 1 (by omega), agree.bigEndianAt 3 (by omega),
      agree.coilsHanded head data, alike.app]
  have echo := agree.head head (fun bound => mapRange modbusFlipByteBits (input + 6) bound)
    fun bound memory cell before => mapRange_outside _ _ _ _ _ (.inl before)
  refine ⟨answer, ?_⟩
  simp only [coilsWritten, flippedBits, ← answer, ← agree.code (by omega),
    ← agree.bigEndianAt 1 (by omega), ← agree.bigEndianAt 3 (by omega),
    ← agree.coilsHanded head data, ← echo, ← alike.mallocs]
  exact (((((((((alike.emit _).withOutput _).updateRequestRanges _ _ _ _ _ _ _ _).emit _).setApp _).emit
    _).setOutput _).emit _).updateBlock _ _ _)

theorem writeRegisters_alike (head : 5 ≤ count)
    (data : 0 < (bigEndianAt first.request (input + 3)).toNat →
      6 + 2 * (bigEndianAt first.request (input + 3)).toNat ≤ count) :
    AlikeResults
      (modbusWriteMultipleRegistersRequestHandler callbacks input inputSize prependSize appendSize
        first)
      (modbusWriteMultipleRegistersRequestHandler callbacks input inputSize prependSize appendSize
        second) := by
  cases present : callbacks.writeWords with
  | none =>
      rw [writeRegisters_absent _ _ _ _ _ _ present, writeRegisters_absent _ _ _ _ _ _ present]
      exact ⟨rfl, alike⟩
  | some writeWords =>
      cases memory : first.allocates first.mallocs with
      | false =>
          have full : second.allocates second.mallocs = false := by
            rw [← alike.allocates, ← alike.mallocs, memory]
          rw [writeRegisters_denied _ _ _ _ _ _ _ present memory,
            writeRegisters_denied _ _ _ _ _ _ _ present full]
          exact ⟨rfl, (alike.emit _).withoutOutput _⟩
      | true =>
          have granted : second.allocates second.mallocs = true := by
            rw [← alike.allocates, ← alike.mallocs, memory]
          rw [writeRegisters_granted _ _ _ _ _ _ _ present memory,
            writeRegisters_granted _ _ _ _ _ _ _ present granted]
          exact registersWritten_alike input prependSize appendSize alike agree writeWords head data

theorem writeCoils_alike (head : 5 ≤ count)
    (data : 0 < (bigEndianAt first.request (input + 3)).toNat →
      6 + bytesForBits (bigEndianAt first.request (input + 3)).toNat ≤ count) :
    AlikeResults
      (modbusWriteMultipleCoilsRequestHandler callbacks input inputSize prependSize appendSize first)
      (modbusWriteMultipleCoilsRequestHandler callbacks input inputSize prependSize appendSize
        second) := by
  cases present : callbacks.writeBits with
  | none =>
      rw [writeCoils_absent _ _ _ _ _ _ present, writeCoils_absent _ _ _ _ _ _ present]
      exact ⟨rfl, alike⟩
  | some writeBits =>
      cases memory : first.allocates first.mallocs with
      | false =>
          have full : second.allocates second.mallocs = false := by
            rw [← alike.allocates, ← alike.mallocs, memory]
          rw [writeCoils_denied _ _ _ _ _ _ _ present memory,
            writeCoils_denied _ _ _ _ _ _ _ present full]
          exact ⟨rfl, (alike.emit _).withoutOutput _⟩
      | true =>
          have granted : second.allocates second.mallocs = true := by
            rw [← alike.allocates, ← alike.mallocs, memory]
          obtain ⟨answer, written⟩ :=
            coilsWritten_alike input prependSize appendSize alike agree writeBits head data
          rw [writeCoils_granted _ _ _ _ _ _ _ present memory,
            writeCoils_granted _ _ _ _ _ _ _ present granted, answer]
          exact ⟨rfl, written⟩

omit alike agree in
theorem writeCoils_keepsHead (w : World σ) (cell : Nat) (before : cell < input + 6) :
    (modbusWriteMultipleCoilsRequestHandler callbacks input inputSize prependSize appendSize
      w).2.request cell = w.request cell := by
  cases present : callbacks.writeBits with
  | none => rw [writeCoils_absent _ _ _ _ _ _ present]
  | some writeBits =>
      cases memory : w.allocates w.mallocs with
      | false =>
          rw [writeCoils_denied _ _ _ _ _ _ _ present memory]
          simp
      | true =>
          rw [writeCoils_granted _ _ _ _ _ _ _ present memory]
          simpa using mapRange_outside _ _ _ _ _ (.inl before)

theorem readWrite_alike (head : 5 ≤ count)
    (data : 0 < (bigEndianAt first.request (input + 3)).toNat →
      6 + bytesForBits (bigEndianAt first.request (input + 3)).toNat ≤ count) :
    AlikeOutcomes
      (modbusReadWriteMultipleRegistersRequestHandler callbacks input inputSize prependSize appendSize
        first)
      (modbusReadWriteMultipleRegistersRequestHandler callbacks input inputSize prependSize appendSize
        second) := by
  obtain ⟨sameCode, coils⟩ := writeCoils_alike callbacks input inputSize prependSize appendSize
    alike agree head data
  have keeps := writeCoils_keepsHead callbacks input inputSize prependSize appendSize
  have agreeAfter : AgreeOn input 5
      (modbusWriteMultipleCoilsRequestHandler callbacks input inputSize prependSize appendSize
        first).2.request
      (modbusWriteMultipleCoilsRequestHandler callbacks input inputSize prependSize appendSize
        second).2.request := by
    intro index bound
    rw [keeps first _ (by omega), keeps second _ (by omega), agree index (by omega)]
  simp only [modbusReadWriteMultipleRegistersRequestHandler]
  generalize modbusWriteMultipleCoilsRequestHandler callbacks input inputSize prependSize appendSize
    first = firstCoils at *
  generalize modbusWriteMultipleCoilsRequestHandler callbacks input inputSize prependSize appendSize
    second = secondCoils at *
  obtain ⟨ret, firstCoils⟩ := firstCoils
  obtain ⟨otherRet, secondCoils⟩ := secondCoils
  subst sameCode
  replace coils : Alike firstCoils secondCoils := coils
  split
  · exact ⟨rfl, alike⟩
  · rw [← coils.outputBuffer]
    have ends {firstFreed secondFreed : World σ} (freed : Alike firstFreed secondFreed)
        (agree : AgreeOn input 5 firstFreed.request secondFreed.request) :
        AlikeOutcomes
          (if ret = modbusErrorOk then
            .of (modbusReadWordRequestHandler callbacks input inputSize prependSize appendSize firstFreed)
          else .returned ret firstFreed)
          (if ret = modbusErrorOk then
            .of (modbusReadWordRequestHandler callbacks input inputSize prependSize appendSize secondFreed)
          else .returned ret secondFreed) := by
      split
      · exact readWord_alike callbacks input inputSize prependSize appendSize freed agree (Nat.le_refl 5)
      · exact ⟨rfl, freed⟩
    cases firstCoils.outputBuffer with
    | none => exact ends coils agreeAfter
    | some block =>
        simp only [vPortFree, ← coils.freeable]
        split
        · exact ends (coils.freed _) agreeAfter
        · exact coils.emit _

end Handlers

section Requests

variable (callbacks : ModbusCallbacks σ) (input inputSize : Nat) (prependSize appendSize : UInt8)
  {first second : World σ} (alike : Alike first second)

include alike

theorem selected_alike
    (agree : AgreeOn input (bytesRead input first.request) first.request second.request) :
    AlikeOutcomes (modbusSelectedHandler callbacks input inputSize prependSize appendSize first)
      (modbusSelectedHandler callbacks input inputSize prependSize appendSize second) := by
  have code : first.request input = second.request input := agree.code (bytesRead_positive _ _)
  simp only [modbusSelectedHandler, ← code]
  cases kind : requestKind (first.request input) with
  | readBits =>
      simp only [bytesRead, kind] at agree
      exact readBit_alike callbacks input inputSize prependSize appendSize alike agree (Nat.le_refl 5)
  | readWords =>
      simp only [bytesRead, kind] at agree
      exact readWord_alike callbacks input inputSize prependSize appendSize alike agree (Nat.le_refl 5)
  | writeSingle =>
      simp only [bytesRead, kind] at agree
      exact writeSingle_alike callbacks input inputSize prependSize appendSize alike agree
        (Nat.le_refl 5) kind
  | writeMultipleRegisters =>
      simp only [bytesRead, kind] at agree
      exact writeRegisters_alike callbacks input inputSize prependSize appendSize alike agree
        (by split <;> omega) (fun nonempty => by split <;> omega)
  | writeMultipleCoils =>
      simp only [bytesRead, kind] at agree
      exact writeCoils_alike callbacks input inputSize prependSize appendSize alike agree
        (by split <;> omega) (fun nonempty => by split <;> omega)
  | readWriteMultipleRegisters =>
      simp only [bytesRead, kind] at agree
      exact readWrite_alike callbacks input inputSize prependSize appendSize alike agree
        (by split <;> omega) (fun nonempty => by split <;> omega)
  | other => exact ⟨rfl, alike⟩

theorem pvPortMalloc_alike (size : Nat) :
    (first.pvPortMalloc size).1 = (second.pvPortMalloc size).1 ∧
      Alike (first.pvPortMalloc size).2 (second.pvPortMalloc size).2 := by
  simp only [pvPortMalloc, ← alike.allocates, ← alike.mallocs]
  split
  · exact ⟨rfl, { alike with
      blockSize := by simp [alike.blockSize, alike.mallocs]
      readsAllocated := by simp [alike.readsAllocated, alike.mallocs]
      mallocs := by simp [alike.mallocs]
      observations := by simp [alike.observations] }⟩
  · exact ⟨rfl, { alike with
      mallocs := by simp [alike.mallocs]
      observations := by simp [alike.observations] }⟩

theorem allocateOutput_alike (size : Nat) :
    (first.allocateOutput size).1 = (second.allocateOutput size).1 ∧
      Alike (first.allocateOutput size).2 (second.allocateOutput size).2 := by
  obtain ⟨block, allocated⟩ := pvPortMalloc_alike (alike.setOutputSize size) (UInt16.ofNat size).toNat
  refine ⟨block, ?_⟩
  have stored := allocated.setOutput
    ((first.setOutputSize size).pvPortMalloc (UInt16.ofNat size).toNat).1
  conv at stored =>
    rhs
    rw [block]
  exact stored

theorem createErrorResponse_alike (sendBuffer : OutputReference) (functionCode errorCode : UInt8) :
    AlikeOutcomes
      (modbusCreateErrorResponse sendBuffer functionCode errorCode prependSize appendSize first)
      (modbusCreateErrorResponse sendBuffer functionCode errorCode prependSize appendSize second) := by
  cases sendBuffer with
  | null =>
      exact (pvPortMalloc_alike
        (alike.setOutputSize (responseSize modbusErrorResponseSize prependSize appendSize)) _).2.emit _
  | caller =>
      obtain ⟨block, allocated⟩ :=
        allocateOutput_alike alike (responseSize modbusErrorResponseSize prependSize appendSize)
      simp only [modbusCreateErrorResponse, ← block]
      split
      · exact ⟨rfl, allocated.setOutputSize 0⟩
      · exact ⟨rfl, allocated.updateBlock _ _ _⟩

omit alike in
/-- Runs that are alike so far and continue alike. -/
theorem AlikeOutcomes.bind {ρ τ : Type} {first second : Outcome σ ρ}
    (alike : AlikeOutcomes first second) {next other : ρ → World σ → Outcome σ τ}
    (continues : ∀ value {firstAfter secondAfter : World σ}, first = .returned value firstAfter →
      Alike firstAfter secondAfter → AlikeOutcomes (next value firstAfter) (other value secondAfter)) :
    AlikeOutcomes (first.bind next) (second.bind other) := by
  cases first <;> cases second <;> try exact alike.elim
  · obtain ⟨rfl, after⟩ := alike
    exact continues _ rfl after
  · exact alike
  · exact alike

theorem vPortFree_alike (pointer : Pointer) :
    AlikeOutcomes (first.vPortFree pointer) (second.vPortFree pointer) := by
  rw [vPortFree, vPortFree, ← alike.freeable]
  split
  · exact ⟨rfl, alike.freed pointer⟩
  · exact alike.emit _

omit alike in
theorem handleRequest_alike (code : first.request input = second.request input)
    (results : AlikeOutcomes (handled callbacks input inputSize prependSize appendSize first)
      (handled callbacks input inputSize prependSize appendSize second)) :
    AlikeOutcomes (modbusHandleRequest callbacks input inputSize prependSize appendSize first)
      (modbusHandleRequest callbacks input inputSize prependSize appendSize second) := by
  simp only [modbusHandleRequest, emit_request, ← code]
  refine results.bind fun ret {firstAfter secondAfter} _ after => ?_
  split
  · exact ⟨rfl, after⟩
  · refine AlikeOutcomes.bind ?_ fun sendBuffer {firstFreed secondFreed} _ freed =>
      (createErrorResponse_alike prependSize appendSize freed sendBuffer (first.request input) ret).bind
        fun _ {firstTold secondTold} _ told => ⟨rfl, told⟩
    rw [← after.outputBuffer]
    cases firstAfter.outputBuffer with
    | none => exact ⟨rfl, after⟩
    | some block =>
        exact (vPortFree_alike after block).bind
          fun _ {firstFreed secondFreed} _ freed => ⟨rfl, freed.setOutput none⟩

end Requests

/-! The same for a request within its TCP frame. -/

section Frames

variable (callbacks : ModbusCallbacks σ) (socket : Int) {first second : World σ}

theorem responseHeader_alike {first second : Memory} (size : UInt16)
    (agree : ∀ cell < 7, first cell = second cell) :
    responseHeader first size = responseHeader second size := by
  simp only [responseHeader, modbusMbapFillStruct, bigEndianAt, agree 0 (by omega),
    agree 1 (by omega), agree 2 (by omega), agree 3 (by omega), agree 4 (by omega),
    agree 5 (by omega), agree 6 (by omega)]

theorem completed_alike (alike : Alike first second) {request other : Memory}
    (agree : ∀ cell < 7, request cell = other cell) (sendBuffer : Pointer) :
    Alike (completed socket request sendBuffer first) (completed socket other sendBuffer second) := by
  simp only [completed, lwipSend, ← alike.outputSize, store, updateBlock_heap, ← alike.heap,
    responseHeader_alike first.outputSize agree]
  exact ((alike.updateBlock _ _ _).emit _).emit _

theorem tcp_alike (dataSize : Nat) (enough : 8 ≤ dataSize)
    (head : ∀ cell < 8, first.request cell = second.request cell)
    (results : AlikeOutcomes (tcpHandled callbacks dataSize first)
      (tcpHandled callbacks dataSize second)) :
    AlikeOutcomes (modbusTcpHandleRequest callbacks socket dataSize first)
      (modbusTcpHandleRequest callbacks socket dataSize second) := by
  have dispatched : AlikeOutcomes
      (modbusHandleRequest callbacks 7 (dataSize - 7) 7 0 (tcpStarted first))
      (modbusHandleRequest callbacks 7 (dataSize - 7) 7 0 (tcpStarted second)) :=
    handleRequest_alike callbacks 7 (dataSize - 7) 7 0 (head 7 (by omega)) results
  rw [tcp_dispatch _ _ _ _ enough, tcp_dispatch _ _ _ _ enough]
  refine dispatched.bind fun ret {final other} _ after => ?_
  rw [← after.outputBuffer]
  cases final.outputBuffer with
  | none => exact ⟨rfl, after⟩
  | some sendBuffer =>
      have sent := completed_alike socket after
        (fun cell (bound : cell < 7) => head cell (by omega)) sendBuffer
      simp only [← after.freeable]
      split
      · exact ⟨rfl, (sent.freed sendBuffer).setOutput none⟩
      · exact sent.emit _

theorem tcpHandled_alike (dataSize : Nat) (alike : Alike first second)
    (agree : AgreeOn 7 (bytesRead 7 first.request) first.request second.request) :
    AlikeOutcomes (tcpHandled callbacks dataSize first) (tcpHandled callbacks dataSize second) :=
  selected_alike callbacks 7 (dataSize - 7) 7 0
    ((((alike.setOutput none).setOutputSize 0).emit _).emit _) agree

end Frames

end SpeFramework
