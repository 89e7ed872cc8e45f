import SpeFramework.Modbus.ReadResponses

/-!
What the peer states in a write request, against what the handlers look at. The multiple writes
take a quantity, a byte count and a size that need not agree; the read/write request carries its
write half where none of the handlers it is made of reads.
-/

namespace SpeFramework

open RangeStore ByteOrder World

variable {σ : Type} (callbacks : ModbusCallbacks σ) (input inputSize : Nat)
  (prependSize appendSize : UInt8) (w : World σ)

/-! Three lengths of a multiple write. -/

def WriteMultipleRequest (functionCode : UInt8) : Prop :=
  functionCode = modbusWriteMultipleCoilsFc ∨ functionCode = modbusWriteMultipleRegistersFc

def dataAnnounced (request : Memory) : Nat :=
  if requestKind (request input) = .writeMultipleCoils then
    bytesForBits (bigEndianAt request (input + 3)).toNat
  else 2 * (bigEndianAt request (input + 3)).toNat

/-- The byte count covers the quantity, and the bytes received after it cover the byte count. -/
structure LengthsAgree (request : Memory) : Prop where
  announced : dataAnnounced input request ≤ (request (input + 5)).toNat
  received : 6 + (request (input + 5)).toNat ≤ inputSize

def RefusesDisagreement : Prop :=
  LengthsAgree input inputSize w.request ∨
    callsMade callbacks input inputSize prependSize appendSize w = [] ∧
      ∃ errorCode, Told callbacks input inputSize prependSize appendSize w (.exception errorCode)

/-- Nothing is asked of the application for other reasons: its callback is missing, or there is
memory for the exception and none for the response. -/
def TurnedAway : Prop :=
  if callbackSet callbacks (w.request input) then
    w.allocates w.mallocs = false ∧ w.allocates (w.mallocs + 1) = true
  else w.allocates w.mallocs = true

variable {callbacks input inputSize prependSize appendSize w}

theorem excepted_iff (low : w.request input < 0x80) (errorCode : UInt8) (next : Nat) :
    (∃ told, .exception told = reported input w errorCode next) ↔ w.allocates next = true := by
  simp only [reported, low, if_true]
  cases w.allocates next <;> simp

theorem unasked_iff :
    (callsMade callbacks input inputSize prependSize appendSize w = [] ∧
        ∃ errorCode, Told callbacks input inputSize prependSize appendSize w (.exception errorCode)) ↔
      (course callbacks input prependSize w).1 = [] ∧
        ∃ errorCode, .exception errorCode = (course callbacks input prependSize w).2 := by
  have follows := handleRequest_course callbacks input inputSize prependSize appendSize w
  rw [follows.calls]
  simp only [told_iff]

/-- A handler that allocates first asks nothing only where it finds no memory. -/
theorem allocatedFirst_unasked_iff (low : w.request input < 0x80) {made : Call} {ret : UInt8} :
    ((allocatedFirst input w made ret).1 = [] ∧
        ∃ errorCode, .exception errorCode = (allocatedFirst input w made ret).2) ↔
      w.allocates w.mallocs = false ∧ w.allocates (w.mallocs + 1) = true := by
  cases memory : w.allocates w.mallocs with
  | false =>
      simp only [allocatedFirst, memory, Bool.false_eq_true, if_false, true_and]
      exact excepted_iff low _ _
  | true => simp [allocatedFirst, memory]

variable (callbacks input inputSize prependSize appendSize w)

theorem writeCoils_unasked_iff (kind : requestKind (w.request input) = .writeMultipleCoils) :
    ((course callbacks input prependSize w).1 = [] ∧
        ∃ errorCode, .exception errorCode = (course callbacks input prependSize w).2) ↔
      TurnedAway callbacks input w := by
  have low := requestKind_low (w.request input) (by simp [kind])
  simp only [course, TurnedAway, callbackSet, kind]
  cases callbacks.writeBits with
  | none =>
      simp only [true_and, Option.isSome_none, Bool.false_eq_true, if_false]
      exact excepted_iff low _ _
  | some writeBits =>
      simp only [Option.isSome_some, if_true]
      exact allocatedFirst_unasked_iff low

theorem writeRegisters_unasked_iff (kind : requestKind (w.request input) = .writeMultipleRegisters) :
    ((course callbacks input prependSize w).1 = [] ∧
        ∃ errorCode, .exception errorCode = (course callbacks input prependSize w).2) ↔
      TurnedAway callbacks input w := by
  have low := requestKind_low (w.request input) (by simp [kind])
  simp only [course, TurnedAway, callbackSet, kind]
  cases callbacks.writeWords with
  | none =>
      simp only [true_and, Option.isSome_none, Bool.false_eq_true, if_false]
      exact excepted_iff low _ _
  | some writeWords =>
      simp only [Option.isSome_some, if_true]
      exact allocatedFirst_unasked_iff low

theorem handleRequest_refusesDisagreement_iff (write : WriteMultipleRequest (w.request input)) :
    RefusesDisagreement callbacks input inputSize prependSize appendSize w ↔
      LengthsAgree input inputSize w.request ∨ TurnedAway callbacks input w := by
  simp only [RefusesDisagreement, unasked_iff]
  rcases write with code | code
  · have kind : requestKind (w.request input) = .writeMultipleCoils := by rw [code]; decide
    rw [writeCoils_unasked_iff callbacks input prependSize w kind]
  · have kind : requestKind (w.request input) = .writeMultipleRegisters := by rw [code]; decide
    rw [writeRegisters_unasked_iff callbacks input prependSize w kind]

/-! A hundred registers announced in two bytes of data, and one that has what it announces. -/

def coveredWrite : World Unit := World.initial () [0x10, 0, 0, 0, 1, 2, 0, 9]

def announcedWrite : World Unit := World.initial () [0x10, 0, 0, 0, 100, 2, 0, 9]

theorem coveredWrite_asked :
    RefusesDisagreement (acceptingCallbacks Unit) 0 8 7 0 coveredWrite :=
  (handleRequest_refusesDisagreement_iff (acceptingCallbacks Unit) 0 8 7 0 coveredWrite
    (.inr rfl)).mpr (.inl ⟨by decide, by decide⟩)

theorem announcedWrite_asked :
    ¬ RefusesDisagreement (acceptingCallbacks Unit) 0 8 7 0 announcedWrite := by
  have disagree : ¬ LengthsAgree 0 8 announcedWrite.request :=
    fun agree => absurd agree.announced (by decide)
  have asked : (callsMade (acceptingCallbacks Unit) 0 8 7 0 announcedWrite).length = 1 := by
    have follows := handleRequest_course (acceptingCallbacks Unit) 0 8 7 0 announcedWrite
    rw [follows.calls]
    decide
  rintro (agree | ⟨unasked, _⟩)
  · exact disagree agree
  · rw [unasked] at asked
    contradiction

/-! Function code 0x17. -/

structure ReadWriteRequest (request : Memory) : Prop where
  code : request input = modbusReadWriteMultipleRegistersFc
  byteCount : (request (input + 9)).toNat = 2 * (bigEndianAt request (input + 7)).toNat
  size : inputSize = 10 + (request (input + 9)).toNat

/-- The words of the request are written, and once that is accepted those asked for are read and
returned. -/
def PerformsReadWrite (readWords : ReadCallback σ UInt16) (writeWords : WriteCallback σ UInt16) :
    Prop :=
  ∃ functionCode,
    let words := bigEndianWords w.request (input + 10) (bigEndianAt w.request (input + 7)).toNat
    let write := Call.writeWords functionCode modbusDataTableHoldingRegisters
      (bigEndianAt w.request (input + 5)) (bigEndianAt w.request (input + 7)) words
    let read := Call.readWords functionCode modbusDataTableHoldingRegisters
      (bigEndianAt w.request (input + 1)) (bigEndianAt w.request (input + 3))
    let written := writeWords functionCode modbusDataTableHoldingRegisters
      (bigEndianAt w.request (input + 5)) (bigEndianAt w.request (input + 7)) words w.app
    let answer := readWords functionCode modbusDataTableHoldingRegisters
      (bigEndianAt w.request (input + 1)) (bigEndianAt w.request (input + 3)) written.2
    if written.1 = modbusErrorOk then
      callsMade callbacks input inputSize prependSize appendSize w = [write, read] ∧
        (answer.1 = modbusErrorOk →
          ∃ final data, outcomeOf callbacks input inputSize prependSize appendSize w =
              .returned modbusErrorOk final ∧
            CarriesResponse prependSize appendSize modbusReadWriteMultipleRegistersFc data final ∧
            RegisterData answer.2.1 (bigEndianAt w.request (input + 3)).toNat data)
    else callsMade callbacks input inputSize prependSize appendSize w = [write]

/-- The handler of the write half is that of multiple coils. -/
theorem readWrite_writesNoWords (code : w.request input = modbusReadWriteMultipleRegistersFc)
    (functionCode dataTableType : UInt8) (startingAddress quantity : UInt16) (data : List UInt16) :
    .writeWords functionCode dataTableType startingAddress quantity data ∉
      callsMade callbacks input inputSize prependSize appendSize w := by
  have kind : requestKind (w.request input) = .readWriteMultipleRegisters := by rw [code]; decide
  rw [(handleRequest_course callbacks input inputSize prependSize appendSize w).calls]
  simp only [course, kind]
  split
  · split
    · split
      · split <;> simp [writeCoilsCall, readWordsCall]
      · simp [writeCoilsCall]
    · simp
  · simp

theorem readWrite_unperformed_of_code (code : w.request input = modbusReadWriteMultipleRegistersFc)
    (readWords : ReadCallback σ UInt16) (writeWords : WriteCallback σ UInt16) :
    ¬ PerformsReadWrite callbacks input inputSize prependSize appendSize w readWords writeWords := by
  rintro ⟨functionCode, performed⟩
  dsimp only at performed
  have absent := readWrite_writesNoWords callbacks input inputSize prependSize appendSize w code
    functionCode modbusDataTableHoldingRegisters (bigEndianAt w.request (input + 5))
    (bigEndianAt w.request (input + 7))
    (bigEndianWords w.request (input + 10) (bigEndianAt w.request (input + 7)).toNat)
  split at performed
  · rw [performed.1] at absent
    simp at absent
  · rw [performed] at absent
    simp at absent

theorem handleRequest_readWrite_unperformed {readWords : ReadCallback σ UInt16}
    {writeWords : WriteCallback σ UInt16} (request : ReadWriteRequest input inputSize w.request)
    (_readable : callbacks.readWords = some readWords)
    (_writable : callbacks.writeWords = some writeWords) :
    ¬ PerformsReadWrite callbacks input inputSize prependSize appendSize w readWords writeWords :=
  readWrite_unperformed_of_code callbacks input inputSize prependSize appendSize w request.code
    readWords writeWords

/-! A register written at 5 while two are read at 2. -/

def acceptsWords : WriteCallback Unit UInt16 := fun _ _ _ _ _ app => (modbusErrorOk, app)

def zeroWords : ReadCallback Unit UInt16 := fun _ _ _ _ app => (modbusErrorOk, [], app)

def wordCallbacks : ModbusCallbacks Unit where
  readBits := none
  writeBits := some fun _ _ _ _ _ app => (modbusErrorOk, app)
  readWords := some zeroWords
  writeWords := some acceptsWords
  otherFunctions := none

theorem registerSwap_unperformed :
    ¬ PerformsReadWrite wordCallbacks 0 12 7 0
      (World.initial () [0x17, 0, 2, 0, 2, 0, 5, 0, 1, 2, 0, 9]) zeroWords acceptsWords :=
  readWrite_unperformed_of_code wordCallbacks 0 12 7 0 _ rfl _ _

theorem registerSwap_request :
    ReadWriteRequest 0 12
        (World.initial () [0x17, 0, 2, 0, 2, 0, 5, 0, 1, 2, 0, 9]).request ∧
      ¬ PerformsReadWrite wordCallbacks 0 12 7 0
        (World.initial () [0x17, 0, 2, 0, 2, 0, 5, 0, 1, 2, 0, 9]) zeroWords acceptsWords :=
  ⟨⟨rfl, rfl, rfl⟩,
    handleRequest_readWrite_unperformed wordCallbacks 0 12 7 0 _ ⟨rfl, rfl, rfl⟩ rfl rfl⟩

end SpeFramework
