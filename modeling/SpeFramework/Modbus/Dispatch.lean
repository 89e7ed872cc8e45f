import SpeFramework.Modbus.Replies

/-!
Two promises of the dispatcher, decided on the course a request takes: a client that is told of
a failure finds nothing written, and a request is served by the callback its function code calls
for and by no other.
-/

namespace SpeFramework

open RangeStore ByteOrder World

variable {σ : Type} (callbacks : ModbusCallbacks σ) (input inputSize : Nat)
  (prependSize appendSize : UInt8) (w : World σ)

theorem told_iff (answer : Answer) :
    Told callbacks input inputSize prependSize appendSize w answer ↔
      answer = (course callbacks input prependSize w).2 := by
  have follows := handleRequest_course callbacks input inputSize prependSize appendSize w
  constructor
  · intro told
    exact AnswersWith.unique told follows.told
  · rintro rfl
    exact follows.told

theorem repliesGiven_course :
    repliesGiven callbacks input inputSize prependSize appendSize w =
      replies callbacks (course callbacks input prependSize w).1 w.app := by
  rw [repliesGiven, (handleRequest_course callbacks input inputSize prependSize appendSize w).calls]

/-! Writes a client is not told of. -/

def Call.isWrite : Call → Bool
  | .writeBits .. => true
  | .writeWords .. => true
  | _ => false

/-- When the client is told of an exception, or nothing at all, no write call succeeded. -/
def DeniesTruthfully : Prop :=
  ∀ answer, Told callbacks input inputSize prependSize appendSize w answer → answer ≠ .response →
    ∀ reply ∈ repliesGiven callbacks input inputSize prependSize appendSize w,
      reply.1.isWrite = true → reply.2 ≠ modbusErrorOk

def WriteRequest (functionCode : UInt8) : Prop :=
  functionCode = modbusWriteSingleCoilFc ∨ functionCode = modbusWriteSingleRegisterFc ∨
    functionCode = modbusWriteMultipleCoilsFc ∨ functionCode = modbusWriteMultipleRegistersFc

/-- A single write that the application accepts while there is no memory for the response. -/
def AcceptedWithoutMemory : Prop :=
  w.allocates w.mallocs = false ∧
    (w.request input = modbusWriteSingleCoilFc ∧ (∃ writeBits, callbacks.writeBits = some writeBits ∧
        (writeCoilAnswer input w writeBits).1 = modbusErrorOk) ∨
      w.request input = modbusWriteSingleRegisterFc ∧ (∃ writeWords,
        callbacks.writeWords = some writeWords ∧
          (writeRegisterAnswer input w writeWords).1 = modbusErrorOk))

theorem deniesTruthfully_course :
    DeniesTruthfully callbacks input inputSize prependSize appendSize w ↔
      ((course callbacks input prependSize w).2 ≠ .response →
        ∀ reply ∈ replies callbacks (course callbacks input prependSize w).1 w.app,
          reply.1.isWrite = true → reply.2 ≠ modbusErrorOk) := by
  simp only [DeniesTruthfully, told_iff, repliesGiven_course, forall_eq]

/-- No error response is taken for a response: the codes of writes lack the top bit. -/
theorem reported_ne_response (low : w.request input < 0x80) (errorCode : UInt8) (next : Nat) :
    reported input w errorCode next ≠ .response := by
  simp only [reported, low, if_true]
  split <;> simp

theorem allocatedFirst_truthful (made : Call) (ret : UInt8)
    (reply : (replyTo callbacks made w.app).1 = ret) :
    (allocatedFirst input w made ret).2 ≠ .response →
      ∀ reply ∈ replies callbacks (allocatedFirst input w made ret).1 w.app,
        reply.1.isWrite = true → reply.2 ≠ modbusErrorOk := by
  simp only [allocatedFirst]
  split
  · intro denied
    simp only [replies_cons, replies_nil, List.mem_singleton, forall_eq, reply]
    intro _ accepted
    simp [accepted] at denied
  · simp

theorem allocatedLast_truthful_iff (low : w.request input < 0x80) (made : Call) (ret : UInt8)
    (isWrite : made.isWrite = true) (reply : (replyTo callbacks made w.app).1 = ret) :
    ((allocatedLast input w made ret).2 ≠ .response →
      ∀ reply ∈ replies callbacks (allocatedLast input w made ret).1 w.app,
        reply.1.isWrite = true → reply.2 ≠ modbusErrorOk) ↔
      ¬ (w.allocates w.mallocs = false ∧ ret = modbusErrorOk) := by
  simp only [allocatedLast, replies_cons, replies_nil, List.mem_singleton, forall_eq, isWrite, reply,
    true_implies]
  by_cases accepted : ret = modbusErrorOk
  · cases memory : w.allocates w.mallocs with
    | false => simp [accepted, reported_ne_response input w low]
    | true => simp [accepted]
  · simp [accepted]

theorem not_acceptedWithoutMemory (multiple : requestKind (w.request input) ≠ .writeSingle) :
    ¬ AcceptedWithoutMemory callbacks input w := by
  rintro ⟨-, ⟨code, -⟩ | ⟨code, -⟩⟩
  · exact multiple (by rw [code]; rfl)
  · exact multiple (by rw [code]; rfl)

theorem handleRequest_deniesTruthfully_iff (write : WriteRequest (w.request input)) :
    DeniesTruthfully callbacks input inputSize prependSize appendSize w ↔
      ¬ AcceptedWithoutMemory callbacks input w := by
  rw [deniesTruthfully_course]
  rcases write with code | code | code | code
  · have low : w.request input < 0x80 := by rw [code]; decide
    have kind : requestKind (w.request input) = .writeSingle := by rw [code]; rfl
    have otherCode : modbusWriteSingleCoilFc ≠ modbusWriteSingleRegisterFc := by decide
    simp only [course, kind]
    simp only [AcceptedWithoutMemory, code, if_true, otherCode, false_and, or_false, true_and]
    cases present : callbacks.writeBits with
    | none =>
        refine iff_of_true (fun _ _ asked => absurd asked List.not_mem_nil) ?_
        rintro ⟨-, writeBits, set, -⟩
        cases set
    | some writeBits =>
        rw [allocatedLast_truthful_iff callbacks input w low _ _ rfl
          (by rw [replyTo_writeCoil callbacks input w present])]
        simp only [Option.some.injEq, exists_eq_left']
  · have low : w.request input < 0x80 := by rw [code]; decide
    have kind : requestKind (w.request input) = .writeSingle := by rw [code]; rfl
    have otherCode : modbusWriteSingleRegisterFc ≠ modbusWriteSingleCoilFc := by decide
    simp only [course, kind]
    simp only [AcceptedWithoutMemory, code, otherCode, if_false, false_and, false_or, true_and]
    cases present : callbacks.writeWords with
    | none =>
        refine iff_of_true (fun _ _ asked => absurd asked List.not_mem_nil) ?_
        rintro ⟨-, writeWords, set, -⟩
        cases set
    | some writeWords =>
        rw [allocatedLast_truthful_iff callbacks input w low _ _ rfl
          (by rw [replyTo_writeRegister callbacks input w present])]
        simp only [Option.some.injEq, exists_eq_left']
  · have kind : requestKind (w.request input) = .writeMultipleCoils := by rw [code]; rfl
    refine iff_of_true ?_ (not_acceptedWithoutMemory callbacks input w (by simp [kind]))
    simp only [course, kind]
    cases present : callbacks.writeBits with
    | none => simp
    | some writeBits =>
        exact allocatedFirst_truthful callbacks input w _ _
          (by rw [replyTo_writeCoils callbacks input w present])
  · have kind : requestKind (w.request input) = .writeMultipleRegisters := by rw [code]; rfl
    refine iff_of_true ?_ (not_acceptedWithoutMemory callbacks input w (by simp [kind]))
    simp only [course, kind]
    cases present : callbacks.writeWords with
    | none => simp
    | some writeWords =>
        exact allocatedFirst_truthful callbacks input w _ _
          (by rw [replyTo_writeRegisters callbacks input w present])

/-! Register 2 is set to 5 while the first call of `pvPortMalloc` fails: under 0x06 the client is
told of a device failure afterwards, under 0x10 before. -/

def shortOfMemory (bytes : List UInt8) : World Unit :=
  { World.initial () bytes with allocates := fun number => number != 0 }

theorem registersWrite_deniesTruthfully :
    DeniesTruthfully (acceptingCallbacks Unit) 0 8 7 0
      (shortOfMemory [0x10, 0, 2, 0, 1, 2, 0, 5]) :=
  (handleRequest_deniesTruthfully_iff _ _ _ _ _ _ (.inr (.inr (.inr (by decide))))).mpr (by
    rintro ⟨_, ⟨single, _⟩ | ⟨single, _⟩⟩ <;> revert single <;> decide)

theorem registerWrite_denied :
    ¬ DeniesTruthfully (acceptingCallbacks Unit) 0 5 7 0 (shortOfMemory [0x06, 0, 2, 0, 5]) := by
  intro truthful
  have told : Told (acceptingCallbacks Unit) 0 5 7 0 (shortOfMemory [0x06, 0, 2, 0, 5])
      (.exception modbusErrorServerDeviceFailure) := (told_iff _ _ _ _ _ _ _).mpr (by decide)
  refine truthful _ told (by decide) (.writeWords 0x06 modbusDataTableHoldingRegisters 2 1 [5],
    modbusErrorOk) ?_ rfl rfl
  rw [repliesGiven_course]
  decide

/-! The callback a function code calls for. -/

/-- `made` asks the right callback for the right table, with the request's address and quantity. -/
def CalledFor (request : Memory) (made : Call) : Prop :=
  let address := bigEndianAt request (input + 1)
  let quantity := bigEndianAt request (input + 3)
  match made with
  | .readBits functionCode dataTableType startingAddress count =>
      functionCode = request input ∧ startingAddress = address ∧ count = quantity ∧
        (functionCode = modbusReadCoilsFc ∧ dataTableType = modbusDataTableCoils ∨
          functionCode = modbusReadDiscreteInputsFc ∧ dataTableType = modbusDataTableDiscretesInput)
  | .readWords functionCode dataTableType startingAddress count =>
      functionCode = request input ∧ startingAddress = address ∧ count = quantity ∧
        (functionCode = modbusReadHoldingRegistersFc ∧
            dataTableType = modbusDataTableHoldingRegisters ∨
          functionCode = modbusReadInputRegistersFc ∧ dataTableType = modbusDataTableInputRegisters)
  | .writeBits functionCode dataTableType startingAddress count _ =>
      functionCode = request input ∧ startingAddress = address ∧
        dataTableType = modbusDataTableCoils ∧
        (functionCode = modbusWriteSingleCoilFc ∧ count = 1 ∨
          functionCode = modbusWriteMultipleCoilsFc ∧ count = quantity)
  | .writeWords functionCode dataTableType startingAddress count _ =>
      functionCode = request input ∧ startingAddress = address ∧
        dataTableType = modbusDataTableHoldingRegisters ∧
        (functionCode = modbusWriteSingleRegisterFc ∧ count = 1 ∨
          functionCode = modbusWriteMultipleRegistersFc ∧ count = quantity)
  | .otherFunctions functionCode whole prepend append =>
      functionCode = request input ∧ requestKind functionCode = .other ∧
        whole = readRange request input inputSize ∧ prepend = prependSize ∧ append = appendSize

def callbackSet (functionCode : UInt8) : Bool :=
  match requestKind functionCode with
  | .readBits => callbacks.readBits.isSome
  | .readWords => callbacks.readWords.isSome
  | .writeSingle =>
      if functionCode = modbusWriteSingleCoilFc then callbacks.writeBits.isSome
      else callbacks.writeWords.isSome
  | .writeMultipleRegisters => callbacks.writeWords.isSome
  | .writeMultipleCoils => callbacks.writeBits.isSome
  | .readWriteMultipleRegisters => callbacks.readWords.isSome && callbacks.writeWords.isSome
  | .other => callbacks.otherFunctions.isSome

def answerFrom (ret : UInt8) : Answer := if ret = modbusErrorOk then .response else .exception ret

/-- The callback is asked once, and its result answered; if it is missing none is asked, and the
answer is that the function is illegal. -/
def ServedByCallback : Prop :=
  if callbackSet callbacks (w.request input) then
    ∃ made ret, repliesGiven callbacks input inputSize prependSize appendSize w = [(made, ret)] ∧
      CalledFor input inputSize prependSize appendSize w.request made ∧
      Told callbacks input inputSize prependSize appendSize w (answerFrom ret)
  else
    repliesGiven callbacks input inputSize prependSize appendSize w = [] ∧
      Told callbacks input inputSize prependSize appendSize w (.exception modbusErrorIllegalFunction)

/-- Memory for one block, and no way to the defects: a refusal after the allocation, a missing
read callback, an extension. -/
def ServableRequest : Prop :=
  w.allocates w.mallocs = true ∧
    match requestKind (w.request input) with
    | .readBits => ∃ readBits, callbacks.readBits = some readBits ∧
        (readBitsAnswer readBits input w).1 = modbusErrorOk
    | .readWords => ∃ readWords, callbacks.readWords = some readWords ∧
        (readWordsAnswer readWords input w).1 = modbusErrorOk
    | .writeSingle => True
    | .writeMultipleRegisters => ∀ writeWords, callbacks.writeWords = some writeWords →
        (writeRegistersAnswer writeWords input w).1 = modbusErrorOk
    | .writeMultipleCoils => ∀ writeBits, callbacks.writeBits = some writeBits →
        (writeCoilsAnswer writeBits input w).1 = modbusErrorOk
    | .readWriteMultipleRegisters => False
    | .other => callbacks.otherFunctions = none ∧ w.request input < 0x80

/-- The calls and the answer of a course are those of one callback, asked as it should be. -/
def AsksOnce (course : List Call × Answer) : Prop :=
  ∃ made ret, replies callbacks course.1 w.app = [(made, ret)] ∧
    CalledFor input inputSize prependSize appendSize w.request made ∧ answerFrom ret = course.2

theorem servedByCallback_course :
    ServedByCallback callbacks input inputSize prependSize appendSize w ↔
      if callbackSet callbacks (w.request input) then
        AsksOnce callbacks input inputSize prependSize appendSize w (course callbacks input prependSize w)
      else replies callbacks (course callbacks input prependSize w).1 w.app = [] ∧
        .exception modbusErrorIllegalFunction = (course callbacks input prependSize w).2 := by
  simp only [ServedByCallback, AsksOnce, told_iff, repliesGiven_course]

theorem asksOnce_single {made : Call} {ret : UInt8} {answer : Answer}
    (asked : CalledFor input inputSize prependSize appendSize w.request made)
    (reply : (replyTo callbacks made w.app).1 = ret) :
    AsksOnce callbacks input inputSize prependSize appendSize w ([made], answer) ↔
      answerFrom ret = answer := by
  constructor
  · rintro ⟨_, _, only, _, answered⟩
    simp only [replies_cons, replies_nil, List.cons.injEq, Prod.mk.injEq, and_true, reply] at only
    rwa [only.2]
  · intro answered
    exact ⟨made, ret, by simp [reply], asked, answered⟩

theorem asksOnce_none (answer : Answer) :
    ¬ AsksOnce callbacks input inputSize prependSize appendSize w ([], answer) := by
  rintro ⟨_, _, only, _⟩
  simp at only

theorem reported_exception_iff (errorCode : UInt8) (next : Nat) :
    .exception errorCode = reported input w errorCode next ↔
      w.allocates next = true ∧ w.request input < 0x80 := by
  simp only [reported]
  split
  · split <;> simp_all
  · simp_all

theorem allocatedFirst_asksOnce_iff {made : Call} {ret : UInt8}
    (asked : CalledFor input inputSize prependSize appendSize w.request made)
    (reply : (replyTo callbacks made w.app).1 = ret) :
    AsksOnce callbacks input inputSize prependSize appendSize w (allocatedFirst input w made ret) ↔
      w.allocates w.mallocs = true ∧ ret = modbusErrorOk := by
  simp only [allocatedFirst]
  cases memory : w.allocates w.mallocs with
  | false => simp [asksOnce_none]
  | true =>
      simp only [if_true, asksOnce_single _ _ _ _ _ _ asked reply, true_and, answerFrom]
      split <;> simp_all

theorem allocatedLast_asksOnce_iff (low : w.request input < 0x80) {made : Call} {ret : UInt8}
    (asked : CalledFor input inputSize prependSize appendSize w.request made)
    (reply : (replyTo callbacks made w.app).1 = ret) :
    AsksOnce callbacks input inputSize prependSize appendSize w (allocatedLast input w made ret) ↔
      w.allocates w.mallocs = true := by
  simp only [allocatedLast, asksOnce_single _ _ _ _ _ _ asked reply, answerFrom]
  by_cases accepted : ret = modbusErrorOk
  · simp only [accepted, if_true]
    split
    · simp_all
    · refine iff_of_false (fun same => reported_ne_response input w low _ _ same.symm) ?_
      assumption
  · simp only [accepted, if_false, reported_exception_iff, low, and_true]

theorem illegal_ne_deviceFailure (next : Nat) :
    .exception modbusErrorIllegalFunction ≠
      reported input w modbusErrorServerDeviceFailure next := by
  have codes : modbusErrorIllegalFunction ≠ modbusErrorServerDeviceFailure := by decide
  simp only [reported]
  split
  · split <;> simp [codes]
  · simp

theorem requestKind_code (functionCode : UInt8) :
    match requestKind functionCode with
    | .readBits => functionCode = modbusReadCoilsFc ∨ functionCode = modbusReadDiscreteInputsFc
    | .readWords =>
        functionCode = modbusReadHoldingRegistersFc ∨ functionCode = modbusReadInputRegistersFc
    | .writeSingle =>
        functionCode = modbusWriteSingleCoilFc ∨ functionCode = modbusWriteSingleRegisterFc
    | .writeMultipleRegisters => functionCode = modbusWriteMultipleRegistersFc
    | .writeMultipleCoils => functionCode = modbusWriteMultipleCoilsFc
    | .readWriteMultipleRegisters => functionCode = modbusReadWriteMultipleRegistersFc
    | .other => True := by
  fun_cases requestKind functionCode <;> first | assumption | trivial

theorem readBitsCall_calledFor (kind : requestKind (w.request input) = .readBits) :
    CalledFor input inputSize prependSize appendSize w.request (readBitsCall input w.request) := by
  have code := requestKind_code (w.request input)
  simp only [kind] at code
  refine ⟨rfl, rfl, rfl, ?_⟩
  rcases code with code | code
  · exact .inl ⟨code, by simp [readBitsTable, code]⟩
  · exact .inr ⟨code, by rw [code]; decide⟩

theorem readWordsCall_calledFor (kind : requestKind (w.request input) = .readWords) :
    CalledFor input inputSize prependSize appendSize w.request (readWordsCall input w.request) := by
  have code := requestKind_code (w.request input)
  simp only [kind] at code
  refine ⟨rfl, rfl, rfl, ?_⟩
  rcases code with code | code
  · exact .inl ⟨code, by simp [readWordsTable, code]⟩
  · exact .inr ⟨code, by rw [code]; decide⟩

theorem readBits_served_iff (kind : requestKind (w.request input) = .readBits) :
    ServedByCallback callbacks input inputSize prependSize appendSize w ↔
      ServableRequest callbacks input w := by
  have asked := readBitsCall_calledFor input inputSize prependSize appendSize w kind
  simp only [servedByCallback_course, course, ServableRequest, callbackSet, kind]
  cases present : callbacks.readBits with
  | none =>
      simp only [Option.isSome_none, Bool.false_eq_true, if_false, reduceCtorEq, false_and,
        exists_false, and_false, iff_false, not_and]
      split <;> simp [illegal_ne_deviceFailure]
  | some readBits =>
      have reply := replyTo_readBits callbacks input w present
      simp only [Option.isSome_some, if_true, Option.some.injEq, exists_eq_left']
      exact allocatedFirst_asksOnce_iff callbacks input inputSize prependSize appendSize w asked
        (by rw [reply])

theorem readWords_served_iff (kind : requestKind (w.request input) = .readWords) :
    ServedByCallback callbacks input inputSize prependSize appendSize w ↔
      ServableRequest callbacks input w := by
  have asked := readWordsCall_calledFor input inputSize prependSize appendSize w kind
  simp only [servedByCallback_course, course, ServableRequest, callbackSet, kind]
  cases present : callbacks.readWords with
  | none =>
      simp only [Option.isSome_none, Bool.false_eq_true, if_false, reduceCtorEq, false_and,
        exists_false, and_false, iff_false, not_and]
      split <;> simp [illegal_ne_deviceFailure]
  | some readWords =>
      have reply := replyTo_readWords callbacks input w present
      simp only [Option.isSome_some, if_true, Option.some.injEq, exists_eq_left']
      exact allocatedFirst_asksOnce_iff callbacks input inputSize prependSize appendSize w asked
        (by rw [reply])

theorem writeSingle_served_iff (kind : requestKind (w.request input) = .writeSingle) :
    ServedByCallback callbacks input inputSize prependSize appendSize w ↔
      ServableRequest callbacks input w := by
  have low := requestKind_low (w.request input) (by simp [kind])
  simp only [servedByCallback_course, course, ServableRequest, callbackSet, kind, and_true]
  rcases writeSingle_code input w kind with isCoil | isRegister
  · simp only [if_pos isCoil]
    cases present : callbacks.writeBits with
    | none => simp [reported_exception_iff, low]
    | some writeBits =>
        have reply := replyTo_writeCoil callbacks input w present
        simp only [Option.isSome_some, if_true]
        exact allocatedLast_asksOnce_iff callbacks input inputSize prependSize appendSize w low
          ⟨rfl, rfl, rfl, .inl ⟨isCoil, rfl⟩⟩ (by rw [reply])
  · have notCoil : w.request input ≠ modbusWriteSingleCoilFc := by rw [isRegister]; decide
    simp only [if_neg notCoil]
    cases present : callbacks.writeWords with
    | none => simp [reported_exception_iff, low]
    | some writeWords =>
        have reply := replyTo_writeRegister callbacks input w present
        simp only [Option.isSome_some, if_true]
        exact allocatedLast_asksOnce_iff callbacks input inputSize prependSize appendSize w low
          ⟨rfl, rfl, rfl, .inl ⟨isRegister, rfl⟩⟩ (by rw [reply])

theorem writeRegisters_served_iff (kind : requestKind (w.request input) = .writeMultipleRegisters) :
    ServedByCallback callbacks input inputSize prependSize appendSize w ↔
      ServableRequest callbacks input w := by
  have low := requestKind_low (w.request input) (by simp [kind])
  have code := requestKind_code (w.request input)
  simp only [kind] at code
  simp only [servedByCallback_course, course, ServableRequest, callbackSet, kind]
  cases present : callbacks.writeWords with
  | none => simp [reported_exception_iff, low]
  | some writeWords =>
      have reply := replyTo_writeRegisters callbacks input w present
      simp only [Option.isSome_some, if_true, Option.some.injEq, forall_eq']
      exact allocatedFirst_asksOnce_iff callbacks input inputSize prependSize appendSize w
        ⟨rfl, rfl, rfl, .inr ⟨code, rfl⟩⟩ (by rw [reply])

theorem writeCoils_served_iff (kind : requestKind (w.request input) = .writeMultipleCoils) :
    ServedByCallback callbacks input inputSize prependSize appendSize w ↔
      ServableRequest callbacks input w := by
  have low := requestKind_low (w.request input) (by simp [kind])
  have code := requestKind_code (w.request input)
  simp only [kind] at code
  simp only [servedByCallback_course, course, ServableRequest, callbackSet, kind]
  cases present : callbacks.writeBits with
  | none => simp [reported_exception_iff, low]
  | some writeBits =>
      have reply := replyTo_writeCoils callbacks input w present
      simp only [Option.isSome_some, if_true, Option.some.injEq, forall_eq']
      exact allocatedFirst_asksOnce_iff callbacks input inputSize prependSize appendSize w
        ⟨rfl, rfl, rfl, .inr ⟨code, rfl⟩⟩ (by rw [reply])

/-- The extension's handler stands in no case of the switch. -/
theorem other_served_iff (kind : requestKind (w.request input) = .other) :
    ServedByCallback callbacks input inputSize prependSize appendSize w ↔
      ServableRequest callbacks input w := by
  simp only [servedByCallback_course, course, ServableRequest, callbackSet, kind]
  cases callbacks.otherFunctions with
  | none => simp [reported_exception_iff]
  | some otherFunctions => simp [asksOnce_none]

theorem handleRequest_servedByCallback_iff
    (single : w.request input ≠ modbusReadWriteMultipleRegistersFc) :
    ServedByCallback callbacks input inputSize prependSize appendSize w ↔
      ServableRequest callbacks input w := by
  cases kind : requestKind (w.request input) with
  | readBits => exact readBits_served_iff callbacks input inputSize prependSize appendSize w kind
  | readWords => exact readWords_served_iff callbacks input inputSize prependSize appendSize w kind
  | writeSingle => exact writeSingle_served_iff callbacks input inputSize prependSize appendSize w kind
  | writeMultipleRegisters =>
      exact writeRegisters_served_iff callbacks input inputSize prependSize appendSize w kind
  | writeMultipleCoils =>
      exact writeCoils_served_iff callbacks input inputSize prependSize appendSize w kind
  | readWriteMultipleRegisters =>
      have code := requestKind_code (w.request input)
      simp only [kind] at code
      exact absurd code single
  | other => exact other_served_iff callbacks input inputSize prependSize appendSize w kind

/-! A table with an extension: registers are read through it, function code 0x41 never reaches it. -/

def extendedCallbacks : ModbusCallbacks Unit :=
  { acceptingCallbacks Unit with
    otherFunctions := some fun _ _ _ _ app => (modbusErrorOk, 7, [], app) }

theorem registersRead_servedByCallback :
    ServedByCallback extendedCallbacks 0 5 7 0 (World.initial () [0x03, 0, 0, 0, 1]) :=
  (handleRequest_servedByCallback_iff _ _ _ _ _ _ (by decide)).mpr ⟨rfl, _, rfl, rfl⟩

theorem extension_unserved :
    ¬ ServedByCallback extendedCallbacks 0 3 7 0 (World.initial () [0x41, 1, 2]) := by
  intro served
  have set : callbackSet extendedCallbacks ((World.initial () [0x41, 1, 2]).request 0) = true := by
    decide
  have unasked : repliesGiven extendedCallbacks 0 3 7 0 (World.initial () [0x41, 1, 2]) = [] := by
    decide
  rw [ServedByCallback, if_pos set, unasked] at served
  obtain ⟨_, _, impossible, _⟩ := served
  cases impossible

end SpeFramework
