import SpeFramework.Modbus.TcpCases

/-!
What one request asks of the application and what its client is told. The calls are read off
the log, the application's replies by replaying them. `course` tabulates both for
every function code.
-/

namespace SpeFramework

open RangeStore ByteOrder World

variable {σ : Type}

def callsOf (log : List Event) : List Call :=
  log.filterMap fun event => match event with
    | .call made => some made
    | _ => none

@[simp] theorem callsOf_nil : callsOf [] = [] := rfl

@[simp] theorem callsOf_append (first second : List Event) :
    callsOf (first ++ second) = callsOf first ++ callsOf second := by
  simp [callsOf]

@[simp] theorem callsOf_cons (event : Event) (log : List Event) :
    callsOf (event :: log) = (match event with
      | .call made => [made]
      | _ => []) ++ callsOf log := by
  cases event <;> simp [callsOf]

@[simp] theorem callsOf_accesses {α : Type} (items : List α) (area : Area)
    (offset length : α → Nat) :
    callsOf (items.map fun item => .access area (offset item) (length item)) = [] := by
  simp [callsOf]

theorem callsOf_observed (log : List Event) : callsOf (observed log) = callsOf log := by
  induction log with
  | nil => rfl
  | cons event log ih =>
      cases event <;> simpa [observed, List.filter_cons, Event.observable] using ih

section Replies

variable (callbacks : ModbusCallbacks σ)

/-- The result of a call and the state it leaves. No call is made of a missing callback. -/
def replyTo : Call → σ → UInt8 × σ
  | .readBits functionCode dataTableType startingAddress quantity, app =>
      match callbacks.readBits with
      | none => (modbusErrorIllegalFunction, app)
      | some readBits =>
          let (ret, _, app) := readBits functionCode dataTableType startingAddress quantity app
          (ret, app)
  | .writeBits functionCode dataTableType startingAddress quantity data, app =>
      match callbacks.writeBits with
      | none => (modbusErrorIllegalFunction, app)
      | some writeBits => writeBits functionCode dataTableType startingAddress quantity data app
  | .readWords functionCode dataTableType startingAddress quantity, app =>
      match callbacks.readWords with
      | none => (modbusErrorIllegalFunction, app)
      | some readWords =>
          let (ret, _, app) := readWords functionCode dataTableType startingAddress quantity app
          (ret, app)
  | .writeWords functionCode dataTableType startingAddress quantity data, app =>
      match callbacks.writeWords with
      | none => (modbusErrorIllegalFunction, app)
      | some writeWords => writeWords functionCode dataTableType startingAddress quantity data app
  | .otherFunctions functionCode input prependSize appendSize, app =>
      match callbacks.otherFunctions with
      | none => (modbusErrorIllegalFunction, app)
      | some otherFunctions =>
          let (ret, _, _, app) := otherFunctions functionCode input prependSize appendSize app
          (ret, app)

def replies : List Call → σ → List (Call × UInt8)
  | [], _ => []
  | made :: rest, app =>
      let (ret, app) := replyTo callbacks made app
      (made, ret) :: replies rest app

def stateAfter : List Call → σ → σ
  | [], app => app
  | made :: rest, app => stateAfter rest (replyTo callbacks made app).2

@[simp] theorem stateAfter_nil (app : σ) : stateAfter callbacks [] app = app := rfl

@[simp] theorem stateAfter_cons (made : Call) (rest : List Call) (app : σ) :
    stateAfter callbacks (made :: rest) app =
      stateAfter callbacks rest (replyTo callbacks made app).2 := rfl

@[simp] theorem replies_nil (app : σ) : replies callbacks [] app = [] := rfl

@[simp] theorem replies_cons (made : Call) (rest : List Call) (app : σ) :
    replies callbacks (made :: rest) app =
      (made, (replyTo callbacks made app).1) ::
        replies callbacks rest (replyTo callbacks made app).2 := rfl

end Replies

/-- What the client is told: a response, an exception with its code, or nothing. -/
inductive Answer
  | response
  | exception (errorCode : UInt8)
  | nothing
  deriving DecidableEq, Repr

/-- A run that stops or ends at a null pointer tells the client nothing. -/
def AnswersWith (prependSize appendSize functionCode : UInt8) : Outcome σ UInt8 → Answer → Prop
  | .returned _ final, .response => final.outputBuffer.isSome ∧
      ∀ errorCode, ¬ DescribesException prependSize appendSize functionCode errorCode final
  | .returned _ final, .exception errorCode =>
      DescribesException prependSize appendSize functionCode errorCode final
  | .returned _ final, .nothing => final.outputBuffer = none
  | .stopped _, answer => answer = .nothing
  | .fault _, answer => answer = .nothing

theorem DescribesException.unique {prependSize appendSize functionCode first second : UInt8}
    {final : World σ} (left : DescribesException prependSize appendSize functionCode first final)
    (right : DescribesException prependSize appendSize functionCode second final) :
    first = second := by
  obtain ⟨id, pointer, _, _, isFirst⟩ := left.block
  obtain ⟨id', pointer', _, _, isSecond⟩ := right.block
  rw [pointer] at pointer'
  cases pointer'
  rw [← isFirst, isSecond]

theorem DescribesException.held {prependSize appendSize functionCode errorCode : UInt8}
    {final : World σ}
    (describes : DescribesException prependSize appendSize functionCode errorCode final) :
    final.outputBuffer.isSome := by
  obtain ⟨id, pointer, _⟩ := describes.block
  rw [pointer, Option.isSome_some]

theorem AnswersWith.unique {prependSize appendSize functionCode : UInt8}
    {outcome : Outcome σ UInt8} {first second : Answer}
    (left : AnswersWith prependSize appendSize functionCode outcome first)
    (right : AnswersWith prependSize appendSize functionCode outcome second) : first = second := by
  cases outcome with
  | stopped world => exact Eq.trans left (Eq.symm right)
  | fault world => exact Eq.trans left (Eq.symm right)
  | returned ret final =>
      cases first with
      | response =>
          obtain ⟨held, ordinary⟩ := left
          cases second with
          | response => rfl
          | exception errorCode => exact absurd right (ordinary errorCode)
          | nothing => simp [show final.outputBuffer = none from right] at held
      | exception errorCode =>
          have held := DescribesException.held left
          cases second with
          | response => exact absurd left (right.2 errorCode)
          | exception other => rw [DescribesException.unique left right]
          | nothing => simp [show final.outputBuffer = none from right] at held
      | nothing =>
          have unset : final.outputBuffer = none := left
          cases second with
          | response => simp [AnswersWith, unset] at right
          | exception errorCode => simpa [unset] using DescribesException.held right
          | nothing => rfl

section Requests

variable (callbacks : ModbusCallbacks σ) (input inputSize : Nat)
  (prependSize appendSize : UInt8) (w : World σ)

/-- The caller's variables cleared, and a log that starts with this request. -/
@[simps! -fullyApplied app request heap blockSize readsAllocated allocates mallocs outputBuffer log]
def asked : World σ := w.freshOutput.quiet

def outcomeOf : Outcome σ UInt8 :=
  modbusHandleRequest callbacks input inputSize prependSize appendSize (asked w)

def callsMade : List Call :=
  callsOf (outcomeOf callbacks input inputSize prependSize appendSize w).world.log

/-- The calls made while the request is handled, each with the application's result. -/
def repliesGiven : List (Call × UInt8) :=
  replies callbacks (callsMade callbacks input inputSize prependSize appendSize w) w.app

def Told (answer : Answer) : Prop :=
  AnswersWith prependSize appendSize (w.request input)
    (outcomeOf callbacks input inputSize prependSize appendSize w) answer

/-! The calls the handlers make, with the arguments they decode. -/

def readBitsCall (request : Memory) : Call :=
  .readBits (request input) (readBitsTable (request input)) (bigEndianAt request (input + 1))
    (bigEndianAt request (input + 3))

def readWordsCall (request : Memory) : Call :=
  .readWords (request input) (readWordsTable (request input)) (bigEndianAt request (input + 1))
    (bigEndianAt request (input + 3))

def writeCoilCall (request : Memory) : Call :=
  .writeBits (request input) modbusDataTableCoils (bigEndianAt request (input + 1)) 1
    [coilData input request]

def writeRegisterCall (request : Memory) : Call :=
  .writeWords (request input) modbusDataTableHoldingRegisters (bigEndianAt request (input + 1)) 1
    [bigEndianAt request (input + 3)]

def writeRegistersCall (request : Memory) : Call :=
  .writeWords (request input) modbusDataTableHoldingRegisters (bigEndianAt request (input + 1))
    (bigEndianAt request (input + 3)) (registersHanded input request)

def writeCoilsCall (request : Memory) : Call :=
  .writeBits (request input) modbusDataTableCoils (bigEndianAt request (input + 1))
    (bigEndianAt request (input + 3)) (coilsHanded input request)

theorem replyTo_readBits {readBits : ReadCallback σ UInt8}
    (present : callbacks.readBits = some readBits) :
    replyTo callbacks (readBitsCall input w.request) w.app =
      ((readBitsAnswer readBits input w).1, (readBitsAnswer readBits input w).2.2) := by
  simp only [replyTo, readBitsCall, present]
  rfl

theorem replyTo_readWords {readWords : ReadCallback σ UInt16}
    (present : callbacks.readWords = some readWords) :
    replyTo callbacks (readWordsCall input w.request) w.app =
      ((readWordsAnswer readWords input w).1, (readWordsAnswer readWords input w).2.2) := by
  simp only [replyTo, readWordsCall, present]
  rfl

theorem replyTo_writeCoil {writeBits : WriteCallback σ UInt8}
    (present : callbacks.writeBits = some writeBits) :
    replyTo callbacks (writeCoilCall input w.request) w.app = writeCoilAnswer input w writeBits := by
  simp only [replyTo, writeCoilCall, present, writeCoilAnswer]

theorem replyTo_writeRegister {writeWords : WriteCallback σ UInt16}
    (present : callbacks.writeWords = some writeWords) :
    replyTo callbacks (writeRegisterCall input w.request) w.app =
      writeRegisterAnswer input w writeWords := by
  simp only [replyTo, writeRegisterCall, present, writeRegisterAnswer]

theorem replyTo_writeRegisters {writeWords : WriteCallback σ UInt16}
    (present : callbacks.writeWords = some writeWords) :
    replyTo callbacks (writeRegistersCall input w.request) w.app =
      writeRegistersAnswer writeWords input w := by
  simp only [replyTo, writeRegistersCall, present, writeRegistersAnswer]

theorem replyTo_writeCoils {writeBits : WriteCallback σ UInt8}
    (present : callbacks.writeBits = some writeBits) :
    replyTo callbacks (writeCoilsCall input w.request) w.app = writeCoilsAnswer writeBits input w := by
  simp only [replyTo, writeCoilsCall, present, writeCoilsAnswer]

/-- The answer to a failure whose error response is the call of `pvPortMalloc` numbered `next`. -/
def reported (errorCode : UInt8) (next : Nat) : Answer :=
  if w.allocates next then
    if w.request input < 0x80 then .exception errorCode else .response
  else .nothing

/-- A response allocated before its callback is asked. A refusal finds the block, and nothing is
answered. -/
def allocatedFirst (made : Call) (ret : UInt8) : List Call × Answer :=
  if w.allocates w.mallocs then ([made], if ret = modbusErrorOk then .response else .nothing)
  else ([], reported input w modbusErrorServerDeviceFailure (w.mallocs + 1))

/-- A response allocated once its callback accepted. -/
def allocatedLast (made : Call) (ret : UInt8) : List Call × Answer :=
  ([made],
    if ret = modbusErrorOk then
      if w.allocates w.mallocs then .response
      else reported input w modbusErrorServerDeviceFailure (w.mallocs + 1)
    else reported input w ret w.mallocs)

/-- The calls made for a request, and the answer to it. -/
def course : List Call × Answer :=
  let illegalFunction := ([], reported input w modbusErrorIllegalFunction w.mallocs)
  -- the read handlers look for their callback only after the allocation
  let unreadable := ([], if w.allocates w.mallocs then .nothing
    else reported input w modbusErrorServerDeviceFailure (w.mallocs + 1))
  match requestKind (w.request input) with
  | .readBits =>
      match callbacks.readBits with
      | none => unreadable
      | some readBits =>
          allocatedFirst input w (readBitsCall input w.request) (readBitsAnswer readBits input w).1
  | .readWords =>
      match callbacks.readWords with
      | none => unreadable
      | some readWords =>
          allocatedFirst input w (readWordsCall input w.request)
            (readWordsAnswer readWords input w).1
  | .writeSingle =>
      if w.request input = modbusWriteSingleCoilFc then
        match callbacks.writeBits with
        | none => illegalFunction
        | some writeBits =>
            allocatedLast input w (writeCoilCall input w.request) (writeCoilAnswer input w writeBits).1
      else
        match callbacks.writeWords with
        | none => illegalFunction
        | some writeWords =>
            allocatedLast input w (writeRegisterCall input w.request)
              (writeRegisterAnswer input w writeWords).1
  | .writeMultipleRegisters =>
      match callbacks.writeWords with
      | none => illegalFunction
      | some writeWords =>
          allocatedFirst input w (writeRegistersCall input w.request)
            (writeRegistersAnswer writeWords input w).1
  | .writeMultipleCoils =>
      match callbacks.writeBits with
      | none => illegalFunction
      | some writeBits =>
          allocatedFirst input w (writeCoilsCall input w.request)
            (writeCoilsAnswer writeBits input w).1
  | .readWriteMultipleRegisters =>
      match callbacks.readWords, callbacks.writeWords, callbacks.writeBits with
      | some readWords, some _, some writeBits =>
          if w.allocates w.mallocs then
            if movedFreeable prependSize w ∧ (writeCoilsAnswer writeBits input w).1 = modbusErrorOk then
              if w.allocates (w.mallocs + 1) then
                ([writeCoilsCall input w.request, readWordsCall input w.request],
                  if (readWordsAnswer readWords input
                      (w.setApp (writeCoilsAnswer writeBits input w).2)).1 = modbusErrorOk then
                    .response
                  else .nothing)
              else ([writeCoilsCall input w.request],
                reported input w modbusErrorServerDeviceFailure (w.mallocs + 2))
            else ([writeCoilsCall input w.request], .nothing)
          else ([], reported input w modbusErrorServerDeviceFailure (w.mallocs + 1))
      | _, _, _ => illegalFunction
  | .other => illegalFunction

/-- A request takes a course when these are its calls, the application's state is what they make
of it, and this is what its client is told. -/
structure Follows (course : List Call × Answer) : Prop where
  calls : callsMade callbacks input inputSize prependSize appendSize w = course.1
  state : (outcomeOf callbacks input inputSize prependSize appendSize w).world.app =
    stateAfter callbacks course.1 w.app
  told : Told callbacks input inputSize prependSize appendSize w course.2

/-! How the dispatcher ends, by what the selected handler left. -/

/-- The error path makes no call, sends nothing and leaves the application as it is. -/
theorem handleRequest_world (start : World σ) :
    observed (modbusHandleRequest callbacks input inputSize prependSize appendSize start).world.log =
        observed (handled callbacks input inputSize prependSize appendSize start).world.log ∧
      (modbusHandleRequest callbacks input inputSize prependSize appendSize start).world.app =
        (handled callbacks input inputSize prependSize appendSize start).world.app := by
  cases ends : handled callbacks input inputSize prependSize appendSize start with
  | fault before =>
      have impossible := handled_faulted callbacks input inputSize prependSize appendSize start
      rw [ends] at impossible
      cases impossible
  | stopped before =>
      rw [handleRequest_stopped ends]
      exact ⟨rfl, rfl⟩
  | returned ret after =>
      by_cases answered : ret = modbusErrorOk
      · rw [handleRequest_answered ends answered]
        exact ⟨rfl, rfl⟩
      · cases held : after.outputBuffer with
        | some block =>
            unfold handled at ends
            simp only [modbusHandleRequest, ends, Outcome.bind_returned, answered, if_false, held,
              vPortFree]
            split
            · simp only [Outcome.bind_returned, modbusCreateErrorResponse, pvPortMalloc]
              split <;> simp [observed, Event.observable]
            · simp [observed, Event.observable]
        | none =>
            cases memory : after.allocates after.mallocs with
            | false =>
                rw [handleRequest_unreported ends answered held memory]
                simp [observed, Event.observable]
            | true =>
                rw [handleRequest_reported ends answered held memory]
                simp [observed, Event.observable]

theorem outcomeOf_world :
    callsMade callbacks input inputSize prependSize appendSize w =
        callsOf (handled callbacks input inputSize prependSize appendSize (asked w)).world.log ∧
      (outcomeOf callbacks input inputSize prependSize appendSize w).world.app =
        (handled callbacks input inputSize prependSize appendSize (asked w)).world.app := by
  have world := handleRequest_world callbacks input inputSize prependSize appendSize (asked w)
  refine ⟨?_, world.2⟩
  rw [callsMade, outcomeOf, ← callsOf_observed, world.1, callsOf_observed]

/-- A world whose calls are `made`, and whose application is as they left it. -/
structure AfterCalls (made : List Call) (final : World σ) : Prop where
  calls : callsOf final.log = made
  state : final.app = stateAfter callbacks made w.app

/-- Without a response, and with `pvPortMalloc` next called for the time numbered `next`. -/
structure Unserved (made : List Call) (next : Nat) (final : World σ) : Prop
    extends AfterCalls callbacks w made final where
  output : final.outputBuffer = none
  allocates : final.allocates = w.allocates
  mallocs : final.mallocs = next

structure Holding (made : List Call) (final : World σ) : Prop
    extends AfterCalls callbacks w made final where
  held : final.outputBuffer.isSome

variable {callbacks input inputSize prependSize appendSize w}

theorem answered_follows {made : List Call} {ret : UInt8} {final : World σ}
    (ends : handled callbacks input inputSize prependSize appendSize (asked w) = .returned ret final)
    (answered : ret = modbusErrorOk) (holding : Holding callbacks w made final)
    (ordinary : ∀ errorCode,
      ¬ DescribesException prependSize appendSize (w.request input) errorCode final) :
    Follows callbacks input inputSize prependSize appendSize w (made, .response) where
  calls := by rw [(outcomeOf_world ..).1, ends, Outcome.world_returned, holding.calls]
  state := by rw [(outcomeOf_world ..).2, ends, Outcome.world_returned, holding.state]
  told := by
    rw [Told, outcomeOf, handleRequest_answered ends answered]
    exact ⟨holding.held, ordinary⟩

theorem stopped_follows {made : List Call} {final : World σ}
    (ends : handled callbacks input inputSize prependSize appendSize (asked w) = .stopped final)
    (after : AfterCalls callbacks w made final) :
    Follows callbacks input inputSize prependSize appendSize w (made, .nothing) where
  calls := by rw [(outcomeOf_world ..).1, ends, Outcome.world_stopped, after.calls]
  state := by rw [(outcomeOf_world ..).2, ends, Outcome.world_stopped, after.state]
  told := by
    rw [Told, outcomeOf, handleRequest_stopped ends]
    rfl

/-- The block is freed on the error path, which ends there or at the null pointer. -/
theorem holding_follows {made : List Call} {ret : UInt8} {final : World σ}
    (ends : handled callbacks input inputSize prependSize appendSize (asked w) = .returned ret final)
    (refused : ret ≠ modbusErrorOk) (holding : Holding callbacks w made final) :
    Follows callbacks input inputSize prependSize appendSize w (made, .nothing) where
  calls := by rw [(outcomeOf_world ..).1, ends, Outcome.world_returned, holding.calls]
  state := by rw [(outcomeOf_world ..).2, ends, Outcome.world_returned, holding.state]
  told := by
    obtain ⟨block, held⟩ := Option.isSome_iff_exists.mp holding.held
    rw [Told, outcomeOf]
    cases taken : final.freeable block with
    | true =>
        have failed : FailedHolding
            (handled callbacks input inputSize prependSize appendSize (asked w)) := by
          rw [ends]
          exact ⟨refused, block, held, taken⟩
        obtain ⟨before, faulted⟩ := handleRequest_fault failed
        rw [faulted]
        rfl
    | false =>
        rw [handleRequest_stuck ends refused held taken]
        rfl

theorem unserved_follows {made : List Call} {ret : UInt8} {next : Nat} {final : World σ}
    (ends : handled callbacks input inputSize prependSize appendSize (asked w) = .returned ret final)
    (refused : ret ≠ modbusErrorOk) (unserved : Unserved callbacks w made next final) :
    Follows callbacks input inputSize prependSize appendSize w
      (made, reported input w ret next) where
  calls := by rw [(outcomeOf_world ..).1, ends, Outcome.world_returned, unserved.calls]
  state := by rw [(outcomeOf_world ..).2, ends, Outcome.world_returned, unserved.state]
  told := by
    rw [Told, outcomeOf, reported, ← unserved.allocates, ← unserved.mallocs]
    cases memory : final.allocates final.mallocs with
    | false =>
        rw [handleRequest_unreported ends refused unserved.output memory]
        rfl
    | true =>
        rw [handleRequest_reported ends refused unserved.output memory]
        by_cases low : w.request input < 0x80
        · simp only [low, if_true]
          exact (errorReported_describes _ _ _ _ _).mpr low
        · simp only [low, if_false]
          exact ⟨rfl, fun errorCode describes => low (errorReported_code describes)⟩

/-! No response of a handler is an exception: it is longer, or starts with the function code. -/

theorem ordinary_of_size {final : World σ} (pduSize : Nat) (small : pduSize ≤ 257)
    (longer : 2 < pduSize)
    (size : final.outputSize = UInt16.ofNat (responseSize pduSize prependSize appendSize))
    (functionCode errorCode : UInt8) :
    ¬ DescribesException prependSize appendSize functionCode errorCode final := by
  intro describes
  have stated := describes.size
  have fits : (UInt16.ofNat (responseSize pduSize prependSize appendSize)).toNat =
      responseSize pduSize prependSize appendSize :=
    UInt16.toNat_ofNat_of_lt (responseSize_small pduSize prependSize appendSize small)
  rw [size, fits, responseSize] at stated
  omega

theorem ordinary_of_code {final : World σ} (id : Nat) {functionCode : UInt8}
    (low : functionCode < 0x80) (pointer : final.outputBuffer = some ⟨id, 0⟩)
    (code : final.heap id prependSize.toNat = functionCode) (errorCode : UInt8) :
    ¬ DescribesException prependSize appendSize functionCode errorCode final := by
  intro describes
  obtain ⟨_, pointer', _, topBit, _⟩ := describes.block
  rw [pointer] at pointer'
  cases pointer'
  rw [code, ← (add_topBit_iff functionCode).mpr low] at topBit
  simp at topBit

variable (callbacks input inputSize prependSize appendSize w)

theorem readWordsCompleted_ordinary (readWords : ReadCallback σ UInt16)
    (low : w.request input < 0x80) (errorCode : UInt8) :
    ¬ DescribesException prependSize appendSize (w.request input) errorCode
      (readWordsCompleted readWords input prependSize appendSize w) := by
  refine ordinary_of_code w.mallocs low (by simp) ?_ errorCode
  simp only [readWordsCompleted_heap, Function.update_self]
  rw [swapPairs_outside _ _ _ _ (.inl (by omega))]
  simp [writeRange]

theorem readBitsCompleted_ordinary (readBits : ReadCallback σ UInt8)
    (low : w.request input < 0x80) (errorCode : UInt8) :
    ¬ DescribesException prependSize appendSize (w.request input) errorCode
      (readBitsCompleted readBits input prependSize appendSize w) := by
  refine ordinary_of_code w.mallocs low (by simp) ?_ errorCode
  simp only [readBitsCompleted_heap, Function.update_self]
  rw [mapRange_outside _ _ _ _ _ (.inl (by omega))]
  simp [writeRange]

theorem acknowledged_ordinary (functionCode errorCode : UInt8) :
    ¬ DescribesException prependSize appendSize functionCode errorCode
      (acknowledged input prependSize appendSize w) :=
  ordinary_of_size 5 (by omega) (by omega) (by simp) functionCode errorCode

theorem registersWritten_ordinary (writeWords : WriteCallback σ UInt16)
    (functionCode errorCode : UInt8) :
    ¬ DescribesException prependSize appendSize functionCode errorCode
      (registersWritten writeWords input prependSize appendSize w) :=
  ordinary_of_size 5 (by omega) (by omega) (by simp) functionCode errorCode

theorem coilsWritten_ordinary (writeBits : WriteCallback σ UInt8)
    (functionCode errorCode : UInt8) :
    ¬ DescribesException prependSize appendSize functionCode errorCode
      (coilsWritten writeBits input prependSize appendSize w) :=
  ordinary_of_size 5 (by omega) (by omega) (by simp) functionCode errorCode

@[simps! -fullyApplied app request heap blockSize readsAllocated allocates mallocs outputBuffer log]
def entered : World σ := (asked w).emit (.access .request input 1)

variable {callbacks input inputSize prependSize appendSize w}

theorem allocatedFirst_follows {made : Call} {ret : UInt8} {denied accepted refused : World σ}
    (deniedEnds : w.allocates w.mallocs = false →
      handled callbacks input inputSize prependSize appendSize (asked w) =
        .returned modbusErrorServerDeviceFailure denied)
    (unserved : Unserved callbacks w [] (w.mallocs + 1) denied)
    (acceptedEnds : w.allocates w.mallocs = true → ret = modbusErrorOk →
      handled callbacks input inputSize prependSize appendSize (asked w) =
        .returned modbusErrorOk accepted)
    (acceptedHolds : Holding callbacks w [made] accepted)
    (ordinary : ∀ errorCode,
      ¬ DescribesException prependSize appendSize (w.request input) errorCode accepted)
    (refusedEnds : w.allocates w.mallocs = true → ret ≠ modbusErrorOk →
      handled callbacks input inputSize prependSize appendSize (asked w) = .returned ret refused)
    (refusedHolds : Holding callbacks w [made] refused) :
    Follows callbacks input inputSize prependSize appendSize w (allocatedFirst input w made ret) := by
  simp only [allocatedFirst]
  cases memory : w.allocates w.mallocs with
  | false =>
      simp only [Bool.false_eq_true, if_false]
      exact unserved_follows (deniedEnds memory) serverDeviceFailure_ne_ok unserved
  | true =>
      by_cases answered : ret = modbusErrorOk
      · simpa only [answered, if_true] using
          answered_follows (acceptedEnds memory answered) rfl acceptedHolds ordinary
      · simpa only [answered, if_true, if_false] using
          holding_follows (refusedEnds memory answered) answered refusedHolds

theorem allocatedLast_follows {made : Call} {ret : UInt8} {written : World σ}
    (ends : handled callbacks input inputSize prependSize appendSize (asked w) =
      .of (finishSingle input prependSize appendSize ret written))
    (unserved : Unserved callbacks w [made] w.mallocs written) :
    Follows callbacks input inputSize prependSize appendSize w (allocatedLast input w made ret) := by
  simp only [allocatedLast]
  by_cases answered : ret = modbusErrorOk
  · rw [finishSingle, if_pos answered, unserved.allocates, unserved.mallocs] at ends
    simp only [answered, if_true]
    cases memory : w.allocates w.mallocs with
    | false =>
        rw [memory, if_neg Bool.false_ne_true] at ends
        exact unserved_follows ends serverDeviceFailure_ne_ok
          { calls := by simp [unserved.calls], state := by simp [unserved.state], output := by simp
            allocates := by simp [unserved.allocates], mallocs := by simp [unserved.mallocs] }
    | true =>
        rw [memory, if_pos rfl] at ends
        exact answered_follows ends rfl
          { calls := by simp [unserved.calls], state := by simp [unserved.state], held := by simp }
          (acknowledged_ordinary input _ _ _ _)
  · rw [finishSingle, if_neg answered] at ends
    simp only [answered, if_false]
    exact unserved_follows ends answered unserved

theorem entered_unserved : Unserved callbacks w [] w.mallocs (entered input w) :=
  ⟨⟨by simp, by simp⟩, by simp, by simp, by simp⟩

theorem touched_unserved (length : Nat) :
    Unserved callbacks w [] w.mallocs ((entered input w).emit (.access .request input length)) :=
  ⟨⟨by simp, by simp⟩, by simp, by simp, by simp⟩

theorem denied_unserved (length size : Nat) : Unserved callbacks w [] (w.mallocs + 1)
    (((entered input w).emit (.access .request input length)).withoutOutput size) :=
  ⟨⟨by simp, by simp⟩, by simp, by simp, by simp⟩

theorem illegal_follows
    (ends : handled callbacks input inputSize prependSize appendSize (asked w) =
      .returned modbusErrorIllegalFunction (entered input w)) :
    Follows callbacks input inputSize prependSize appendSize w
      ([], reported input w modbusErrorIllegalFunction w.mallocs) :=
  unserved_follows ends illegalFunction_ne_ok entered_unserved

variable (callbacks input inputSize prependSize appendSize w)

theorem readBits_follows (kind : requestKind (w.request input) = .readBits)
    (low : w.request input < 0x80) :
    Follows callbacks input inputSize prependSize appendSize w (course callbacks input prependSize w) := by
  have selected {result : UInt8 × World σ}
      (ends : modbusReadBitRequestHandler callbacks input inputSize prependSize appendSize
        (entered input w) = result) :
      handled callbacks input inputSize prependSize appendSize (asked w) = .of result := by
    rw [← ends]
    simp only [handled, modbusSelectedHandler, emit_request, asked_request, kind]
    rfl
  have denied (full : w.allocates w.mallocs = false) := selected
    (readBit_denied callbacks input inputSize prependSize appendSize (entered input w) full)
  simp only [course, kind]
  cases present : callbacks.readBits with
  | none =>
      cases memory : w.allocates w.mallocs with
      | false =>
          exact unserved_follows (denied memory) serverDeviceFailure_ne_ok (denied_unserved _ _)
      | true =>
          exact holding_follows (selected (readBit_absent callbacks input inputSize prependSize
            appendSize (entered input w) memory present)) illegalFunction_ne_ok
            ⟨⟨by simp, by simp⟩, by simp⟩
  | some readBits =>
      have reply := replyTo_readBits callbacks input w present
      have calls : callsOf (readBitsAnswered readBits input prependSize appendSize
          (entered input w)).log = [readBitsCall input w.request] := by simp [readBitsCall]
      have ordinary := readBitsCompleted_ordinary input prependSize appendSize (entered input w)
        readBits (by simpa using low)
      exact allocatedFirst_follows denied (denied_unserved _ _)
        (fun memory answered => selected (readBit_completed callbacks readBits input inputSize
          prependSize appendSize (entered input w) memory present answered))
        ⟨⟨by simpa using calls, by simp [reply]; rfl⟩, by simp⟩ (by simpa using ordinary)
        (fun memory refused => selected (readBit_refused callbacks readBits input inputSize
          prependSize appendSize (entered input w) memory present refused))
        ⟨⟨calls, by simp [reply]; rfl⟩, by simp⟩

theorem readWords_follows (kind : requestKind (w.request input) = .readWords)
    (low : w.request input < 0x80) :
    Follows callbacks input inputSize prependSize appendSize w (course callbacks input prependSize w) := by
  have selected {result : UInt8 × World σ}
      (ends : modbusReadWordRequestHandler callbacks input inputSize prependSize appendSize
        (entered input w) = result) :
      handled callbacks input inputSize prependSize appendSize (asked w) = .of result := by
    rw [← ends]
    simp only [handled, modbusSelectedHandler, emit_request, asked_request, kind]
    rfl
  have denied (full : w.allocates w.mallocs = false) := selected
    (readWord_denied callbacks input inputSize prependSize appendSize (entered input w) full)
  simp only [course, kind]
  cases present : callbacks.readWords with
  | none =>
      cases memory : w.allocates w.mallocs with
      | false =>
          exact unserved_follows (denied memory) serverDeviceFailure_ne_ok (denied_unserved _ _)
      | true =>
          exact holding_follows (selected (readWord_absent callbacks input inputSize
            prependSize appendSize (entered input w) memory present)) illegalFunction_ne_ok
            ⟨⟨by simp, by simp⟩, by simp⟩
  | some readWords =>
      have reply := replyTo_readWords callbacks input w present
      have calls : callsOf (readWordsAnswered readWords input prependSize appendSize
          (entered input w)).log = [readWordsCall input w.request] := by simp [readWordsCall]
      have ordinary := readWordsCompleted_ordinary input prependSize appendSize (entered input w)
        readWords (by simpa using low)
      exact allocatedFirst_follows denied (denied_unserved _ _)
        (fun memory answered => selected (readWord_completed callbacks readWords input
          inputSize prependSize appendSize (entered input w) memory present answered))
        ⟨⟨by simpa using calls, by simp [reply]; rfl⟩, by simp⟩ (by simpa using ordinary)
        (fun memory refused => selected (readWord_refused callbacks readWords input inputSize
          prependSize appendSize (entered input w) memory present refused))
        ⟨⟨calls, by simp [reply]; rfl⟩, by simp⟩

theorem writeSingle_follows (kind : requestKind (w.request input) = .writeSingle) :
    Follows callbacks input inputSize prependSize appendSize w (course callbacks input prependSize w) := by
  have selected {result : UInt8 × World σ}
      (ends : modbusWriteRequestHandler callbacks input inputSize prependSize appendSize
        (entered input w) = result) :
      handled callbacks input inputSize prependSize appendSize (asked w) = .of result := by
    rw [← ends]
    simp only [handled, modbusSelectedHandler, emit_request, asked_request, kind]
    rfl
  simp only [course, kind]
  rcases writeSingle_code input w kind with isCoil | isRegister
  · rw [if_pos isCoil]
    cases present : callbacks.writeBits with
    | none =>
        exact unserved_follows (selected (writeSingle_coil_absent callbacks input inputSize
          prependSize appendSize (entered input w) isCoil present)) illegalFunction_ne_ok
          (touched_unserved _)
    | some writeBits =>
        have reply := replyTo_writeCoil callbacks input w present
        exact allocatedLast_follows (selected (writeSingle_coil callbacks input inputSize
          prependSize appendSize (entered input w) isCoil present))
          ⟨⟨by simp [writeCoilCall], by simp [reply]; rfl⟩, by simp, by simp, by simp⟩
  · have notCoil : w.request input ≠ modbusWriteSingleCoilFc := by rw [isRegister]; decide
    rw [if_neg notCoil]
    cases present : callbacks.writeWords with
    | none =>
        exact unserved_follows (selected (writeSingle_register_absent callbacks input
          inputSize prependSize appendSize (entered input w) isRegister present))
          illegalFunction_ne_ok (touched_unserved _)
    | some writeWords =>
        have reply := replyTo_writeRegister callbacks input w present
        exact allocatedLast_follows (selected (writeSingle_register callbacks input inputSize
          prependSize appendSize (entered input w) isRegister present))
          ⟨⟨by simp [writeRegisterCall], by simp [reply]; rfl⟩, by simp, by simp, by simp⟩

theorem writeRegisters_follows (kind : requestKind (w.request input) = .writeMultipleRegisters) :
    Follows callbacks input inputSize prependSize appendSize w (course callbacks input prependSize w) := by
  have selected {result : UInt8 × World σ}
      (ends : modbusWriteMultipleRegistersRequestHandler callbacks input inputSize prependSize appendSize
        (entered input w) = result) :
      handled callbacks input inputSize prependSize appendSize (asked w) = .of result := by
    rw [← ends]
    simp only [handled, modbusSelectedHandler, emit_request, asked_request, kind]
    rfl
  simp only [course, kind]
  cases present : callbacks.writeWords with
  | none =>
      exact illegal_follows (selected (writeRegisters_absent callbacks input inputSize
        prependSize appendSize (entered input w) present))
  | some writeWords =>
      have reply := replyTo_writeRegisters callbacks input w present
      have holds : Holding callbacks w [writeRegistersCall input w.request]
          (registersWritten writeWords input prependSize appendSize (entered input w)) :=
        ⟨⟨by simp [writeRegistersCall], by simp [reply]; rfl⟩, by simp⟩
      have granted (memory : w.allocates w.mallocs = true) := selected
        (writeRegisters_granted callbacks writeWords input inputSize prependSize appendSize
          (entered input w) present memory)
      exact allocatedFirst_follows
        (fun full => selected (writeRegisters_denied callbacks writeWords input inputSize
          prependSize appendSize (entered input w) present full))
        (denied_unserved _ _)
        (fun memory answered => (granted memory).trans (congrArg (Outcome.returned · _) answered)) holds
        (registersWritten_ordinary _ _ _ _ _ _) (fun memory _ => granted memory) holds

theorem writeCoils_follows (kind : requestKind (w.request input) = .writeMultipleCoils) :
    Follows callbacks input inputSize prependSize appendSize w (course callbacks input prependSize w) := by
  have selected {result : UInt8 × World σ}
      (ends : modbusWriteMultipleCoilsRequestHandler callbacks input inputSize prependSize appendSize
        (entered input w) = result) :
      handled callbacks input inputSize prependSize appendSize (asked w) = .of result := by
    rw [← ends]
    simp only [handled, modbusSelectedHandler, emit_request, asked_request, kind]
    rfl
  simp only [course, kind]
  cases present : callbacks.writeBits with
  | none =>
      exact illegal_follows (selected (writeCoils_absent callbacks input inputSize
        prependSize appendSize (entered input w) present))
  | some writeBits =>
      have reply := replyTo_writeCoils callbacks input w present
      have holds : Holding callbacks w [writeCoilsCall input w.request]
          (coilsWritten writeBits input prependSize appendSize (entered input w)) :=
        ⟨⟨by simp [writeCoilsCall], by simp [reply]; rfl⟩, by simp⟩
      have granted (memory : w.allocates w.mallocs = true) := selected
        (writeCoils_granted callbacks writeBits input inputSize prependSize appendSize
          (entered input w) present memory)
      exact allocatedFirst_follows
        (fun full => selected (writeCoils_denied callbacks writeBits input inputSize
          prependSize appendSize (entered input w) present full))
        (denied_unserved _ _)
        (fun memory answered => (granted memory).trans (congrArg (Outcome.returned · _) answered)) holds
        (coilsWritten_ordinary _ _ _ _ _ _) (fun memory _ => granted memory) holds

theorem flippedBits_head (request : Memory) : flippedBits input request input = request input :=
  mapRange_outside _ _ _ _ _ (by omega)

/-- The read half finds the request as its header announced it. -/
theorem readWordsCall_flippedBits (request : Memory) :
    readWordsCall input (flippedBits input request) = readWordsCall input request := by
  simp only [readWordsCall, flippedBits_head, bigEndianAt_flippedBits input request (input + 1) (by omega),
    bigEndianAt_flippedBits input request (input + 3) (by omega)]

theorem coilsFreed_afterCalls (writeBits : WriteCallback σ UInt8)
    (present : callbacks.writeBits = some writeBits) :
    AfterCalls callbacks w [writeCoilsCall input w.request]
      (coilsFreed writeBits input prependSize appendSize (entered input w)) := by
  have coilsReply := replyTo_writeCoils callbacks input w present
  have result : writeCoilsAnswer writeBits input (entered input w) =
      writeCoilsAnswer writeBits input w := rfl
  exact ⟨by simp [writeCoilsCall], by simp [coilsReply, result]⟩

theorem bothHalves_afterCalls (readWords : ReadCallback σ UInt16) (writeBits : WriteCallback σ UInt8)
    (readable : callbacks.readWords = some readWords)
    (present : callbacks.writeBits = some writeBits) :
    AfterCalls callbacks w [writeCoilsCall input w.request, readWordsCall input w.request]
      (readWordsAnswered readWords input prependSize appendSize
        (coilsFreed writeBits input prependSize appendSize (entered input w))) := by
  let freed := coilsFreed writeBits input prependSize appendSize (entered input w)
  let written := w.setApp (writeCoilsAnswer writeBits input w).2
  have request : freed.request = flippedBits input w.request := by simp [freed, flippedBits]
  have read : readWordsAnswer readWords input freed = readWordsAnswer readWords input written :=
    readWordsAnswer_coilsFreed writeBits input prependSize appendSize (entered input w) readWords
  have readCall := readWordsCall_flippedBits input w.request
  rw [← request] at readCall
  have coils : callsOf freed.log = [writeCoilsCall input w.request] :=
    (coilsFreed_afterCalls callbacks input prependSize appendSize w writeBits present).calls
  have coilsReply := replyTo_writeCoils callbacks input w present
  have readReply := replyTo_readWords callbacks input written readable
  change AfterCalls callbacks w _ (readWordsAnswered readWords input prependSize appendSize freed)
  constructor
  · rw [← readCall]
    simp [readWordsCall, coils]
  · simp only [readWordsAnswered_app, read, stateAfter_cons, coilsReply, stateAfter_nil]
    exact (congrArg Prod.snd readReply).symm

theorem readHalf_follows (readWords : ReadCallback σ UInt16) (writeBits : WriteCallback σ UInt8)
    (low : w.request input < 0x80) (readable : callbacks.readWords = some readWords)
    (present : callbacks.writeBits = some writeBits)
    (ends : handled callbacks input inputSize prependSize appendSize (asked w) =
      if (writeCoilsAnswer writeBits input (entered input w)).1 = modbusErrorOk then
        .of (modbusReadWordRequestHandler callbacks input inputSize prependSize appendSize
          (coilsFreed writeBits input prependSize appendSize (entered input w)))
      else .returned (writeCoilsAnswer writeBits input (entered input w)).1
        (coilsFreed writeBits input prependSize appendSize (entered input w))) :
    Follows callbacks input inputSize prependSize appendSize w
      (if (writeCoilsAnswer writeBits input w).1 = modbusErrorOk then
        if w.allocates (w.mallocs + 1) then
          ([writeCoilsCall input w.request, readWordsCall input w.request],
            if (readWordsAnswer readWords input
                (w.setApp (writeCoilsAnswer writeBits input w).2)).1 = modbusErrorOk then .response
            else .nothing)
        else ([writeCoilsCall input w.request],
          reported input w modbusErrorServerDeviceFailure (w.mallocs + 2))
      else ([writeCoilsCall input w.request], .nothing)) := by
  let freed := coilsFreed writeBits input prependSize appendSize (entered input w)
  let written := w.setApp (writeCoilsAnswer writeBits input w).2
  have result : writeCoilsAnswer writeBits input (entered input w) =
      writeCoilsAnswer writeBits input w := rfl
  have request : freed.request = flippedBits input w.request := by simp [freed, flippedBits]
  have head : freed.request input = w.request input := by rw [request, flippedBits_head]
  have read : readWordsAnswer readWords input freed = readWordsAnswer readWords input written :=
    readWordsAnswer_coilsFreed writeBits input prependSize appendSize (entered input w) readWords
  have coils : AfterCalls callbacks w [writeCoilsCall input w.request] freed :=
    coilsFreed_afterCalls callbacks input prependSize appendSize w writeBits present
  rw [result] at ends
  by_cases answered : (writeCoilsAnswer writeBits input w).1 = modbusErrorOk
  · simp only [answered, if_true] at ends ⊢
    cases memory : w.allocates (w.mallocs + 1) with
    | false =>
        exact unserved_follows (ends.trans (congrArg Outcome.of (readWord_denied callbacks input
          inputSize prependSize appendSize freed memory))) serverDeviceFailure_ne_ok
          ⟨⟨by simpa using coils.calls, by simpa using coils.state⟩, by simp, by simp [freed],
            by simp [freed]⟩
    | true =>
        have after : AfterCalls callbacks w
            [writeCoilsCall input w.request, readWordsCall input w.request]
            (readWordsAnswered readWords input prependSize appendSize freed) :=
          bothHalves_afterCalls callbacks input prependSize appendSize w readWords writeBits
            readable present
        by_cases readAnswered : (readWordsAnswer readWords input written).1 = modbusErrorOk
        · have ordinary := readWordsCompleted_ordinary input prependSize appendSize freed readWords
            (by rw [head]; exact low)
          rw [head] at ordinary
          have follows := answered_follows (ends.trans (congrArg Outcome.of (readWord_completed callbacks
            readWords input inputSize prependSize appendSize freed memory readable
            (by rw [read]; exact readAnswered)))) rfl
            ⟨⟨by simpa using after.calls, after.state⟩, by simp⟩ ordinary
          simpa [readAnswered, written] using follows
        · have follows := holding_follows (ends.trans (congrArg Outcome.of (readWord_refused callbacks
            readWords input inputSize prependSize appendSize freed memory readable
            (by rw [read]; exact readAnswered)))) (by rw [read]; exact readAnswered)
            ⟨after, by simp⟩
          simpa [readAnswered, written] using follows
  · simp only [answered, if_false] at ends ⊢
    exact holding_follows ends answered ⟨coils, by simp⟩

theorem readWrite_follows (kind : requestKind (w.request input) = .readWriteMultipleRegisters)
    (low : w.request input < 0x80) :
    Follows callbacks input inputSize prependSize appendSize w (course callbacks input prependSize w) := by
  have selected : handled callbacks input inputSize prependSize appendSize (asked w) =
      modbusReadWriteMultipleRegistersRequestHandler callbacks input inputSize prependSize
        appendSize (entered input w) := by
    simp only [handled, modbusSelectedHandler, emit_request, asked_request, kind]
    rfl
  simp only [course, kind]
  cases readable : callbacks.readWords with
  | none =>
      exact illegal_follows (selected.trans (readWrite_absent callbacks input inputSize prependSize
        appendSize (entered input w) (.inl readable)))
  | some readWords =>
      have readSome : callbacks.readWords.isSome := by rw [readable, Option.isSome_some]
      cases writable : callbacks.writeWords with
      | none =>
          exact illegal_follows (selected.trans (readWrite_absent callbacks input inputSize
            prependSize appendSize (entered input w) (.inr writable)))
      | some writeWords =>
          have writeSome : callbacks.writeWords.isSome := by rw [writable, Option.isSome_some]
          cases present : callbacks.writeBits with
          | none =>
              exact illegal_follows (selected.trans (readWrite_noCoils callbacks input inputSize
                prependSize appendSize (entered input w) readSome writeSome present (by simp)))
          | some writeBits =>
              cases memory : w.allocates w.mallocs with
              | false =>
                  exact unserved_follows (selected.trans (readWrite_denied callbacks writeBits input
                    inputSize prependSize appendSize (entered input w) readSome writeSome present
                    memory)) serverDeviceFailure_ne_ok (denied_unserved _ _)
              | true =>
                  cases taken : movedFreeable prependSize w with
                  | true =>
                      simp only [true_and, if_true]
                      exact readHalf_follows callbacks input inputSize prependSize appendSize w
                        readWords writeBits low readable present (selected.trans
                          (readWrite_freed callbacks writeBits input inputSize prependSize appendSize
                            (entered input w) readSome writeSome present memory taken))
                  | false =>
                      have coils := coilsFreed_afterCalls callbacks input prependSize appendSize w
                        writeBits present
                      simp only [Bool.false_eq_true, false_and, if_true, if_false]
                      exact stopped_follows (selected.trans (readWrite_stopped callbacks writeBits input
                        inputSize prependSize appendSize (entered input w) readSome writeSome present
                        memory taken)) ⟨coils.calls, coils.state⟩

theorem other_follows (kind : requestKind (w.request input) = .other) :
    Follows callbacks input inputSize prependSize appendSize w (course callbacks input prependSize w) := by
  have ends := handled_other callbacks input inputSize prependSize appendSize (asked w) kind
  simp only [course, kind]
  exact illegal_follows ends

theorem requestKind_low (functionCode : UInt8) (known : requestKind functionCode ≠ .other) :
    functionCode < 0x80 := by
  by_contra topBit
  exact known (requestKind_topBit functionCode topBit)

theorem handleRequest_course :
    Follows callbacks input inputSize prependSize appendSize w (course callbacks input prependSize w) := by
  cases kind : requestKind (w.request input) with
  | readBits =>
      exact readBits_follows callbacks input inputSize prependSize appendSize w kind
        (requestKind_low _ (by simp [kind]))
  | readWords =>
      exact readWords_follows callbacks input inputSize prependSize appendSize w kind
        (requestKind_low _ (by simp [kind]))
  | writeSingle => exact writeSingle_follows callbacks input inputSize prependSize appendSize w kind
  | writeMultipleRegisters =>
      exact writeRegisters_follows callbacks input inputSize prependSize appendSize w kind
  | writeMultipleCoils =>
      exact writeCoils_follows callbacks input inputSize prependSize appendSize w kind
  | readWriteMultipleRegisters =>
      exact readWrite_follows callbacks input inputSize prependSize appendSize w kind
        (requestKind_low _ (by simp [kind]))
  | other => exact other_follows callbacks input inputSize prependSize appendSize w kind

end Requests

end SpeFramework
