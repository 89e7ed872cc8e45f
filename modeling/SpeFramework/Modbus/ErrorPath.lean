import SpeFramework.Modbus.HandlerCases

/-!
The error path of `modbus_handle_request`. A handler that fails while the caller's
`output_buffer` points at a block ends the run: the path frees the block, clears the
pointer to the pointer, and the error response is stored through it. Where `vPortFree` does
not take the pointer the run stops before that store. Every other failure is answered by an
error response.
-/

namespace SpeFramework

open RangeStore ByteOrder World

variable {σ : Type} (callbacks : ModbusCallbacks σ) (input inputSize : Nat)
  (prependSize appendSize : UInt8) (w : World σ)

/-- The handler answers with an error, on account of the application's answer or of a missing
callback, and leaves the caller's pointer at a block that `vPortFree` takes. -/
def FailsHoldingResponse : Prop :=
  match requestKind (w.request input) with
  | .readBits => w.allocates w.mallocs = true ∧ ∀ readBits, callbacks.readBits = some readBits →
      (readBitsAnswer readBits input w).1 ≠ modbusErrorOk
  | .readWords => w.allocates w.mallocs = true ∧ ∀ readWords, callbacks.readWords = some readWords →
      (readWordsAnswer readWords input w).1 ≠ modbusErrorOk
  | .writeSingle => False
  | .writeMultipleRegisters => w.allocates w.mallocs = true ∧
      ∃ writeWords, callbacks.writeWords = some writeWords ∧
        (writeRegistersAnswer writeWords input w).1 ≠ modbusErrorOk
  | .writeMultipleCoils => w.allocates w.mallocs = true ∧ movedFreeable prependSize w = true ∧
      ∃ writeBits, callbacks.writeBits = some writeBits ∧
        (writeCoilsAnswer writeBits input w).1 ≠ modbusErrorOk
  | .readWriteMultipleRegisters => w.allocates w.mallocs = true ∧ movedFreeable prependSize w = true ∧
      ∃ readWords, callbacks.readWords = some readWords ∧ callbacks.writeWords.isSome ∧
      ∃ writeBits, callbacks.writeBits = some writeBits ∧
        (writeCoilsAnswer writeBits input w).1 = modbusErrorOk ∧
          w.allocates (w.mallocs + 1) = true ∧
            (readWordsAnswer readWords input (w.setApp (writeCoilsAnswer writeBits input w).2)).1 ≠
              modbusErrorOk
  | .other => False

def FailedHolding : Outcome σ UInt8 → Prop
  | .returned ret after => ret ≠ modbusErrorOk ∧
      ∃ block, after.outputBuffer = some block ∧ after.freeable block = true
  | _ => False

@[simp] theorem failedHolding_of (result : UInt8 × World σ) :
    FailedHolding (.of result) ↔ result.1 ≠ modbusErrorOk ∧
      ∃ block, result.2.outputBuffer = some block ∧ result.2.freeable block = true := Iff.rfl

theorem not_failedHolding {ret : UInt8} {after : World σ} (unset : after.outputBuffer = none) :
    ¬ FailedHolding (.returned ret after) := by
  simp [FailedHolding, unset]

/-- A handler that holds a response block once its callback is there and memory is left. -/
theorem failedHolding_iff {ι : Type} {callback : Option ι} {memory : Prop}
    {result : UInt8 × World σ} (answer : ι → UInt8)
    (absent : callback = none → result.2.outputBuffer = none)
    (denied : ¬ memory → ∀ block, result.2.outputBuffer = some block → result.2.freeable block = false)
    (granted : ∀ present, callback = some present → memory → result.1 = answer present ∧
      ∃ block, result.2.outputBuffer = some block ∧ result.2.freeable block = true) :
    FailedHolding (.of result) ↔
      memory ∧ ∃ present, callback = some present ∧ answer present ≠ modbusErrorOk := by
  cases callback with
  | none =>
      refine iff_of_false (not_failedHolding (absent rfl)) ?_
      rintro ⟨_, _, impossible, _⟩
      cases impossible
  | some present =>
      by_cases left : memory
      · obtain ⟨result, held⟩ := granted present rfl left
        constructor
        · intro failed
          exact ⟨left, present, rfl, result ▸ failed.1⟩
        · rintro ⟨_, other, same, failed⟩
          cases same
          exact ⟨result ▸ failed, held⟩
      · refine iff_of_false ?_ fun both => left both.1
        rintro ⟨_, block, held, taken⟩
        rw [denied left block held] at taken
        cases taken

theorem readWord_failedHolding :
    FailedHolding
        (.of (modbusReadWordRequestHandler callbacks input inputSize prependSize appendSize w)) ↔
      w.allocates w.mallocs = true ∧ ∀ readWords, callbacks.readWords = some readWords →
        (readWordsAnswer readWords input w).1 ≠ modbusErrorOk := by
  cases memory : w.allocates w.mallocs with
  | false => simp [readWord_denied, memory]
  | true =>
      cases present : callbacks.readWords with
      | none => simp [readWord_absent, memory, present]
      | some readWords =>
          by_cases answered : (readWordsAnswer readWords input w).1 = modbusErrorOk
          · simp [readWord_completed _ _ _ _ _ _ _ memory present answered, answered]
          · simp [readWord_refused _ _ _ _ _ _ _ memory present answered, answered]

theorem readBit_failedHolding :
    FailedHolding
        (.of (modbusReadBitRequestHandler callbacks input inputSize prependSize appendSize w)) ↔
      w.allocates w.mallocs = true ∧ ∀ readBits, callbacks.readBits = some readBits →
        (readBitsAnswer readBits input w).1 ≠ modbusErrorOk := by
  cases memory : w.allocates w.mallocs with
  | false => simp [readBit_denied, memory]
  | true =>
      cases present : callbacks.readBits with
      | none => simp [readBit_absent, memory, present]
      | some readBits =>
          by_cases answered : (readBitsAnswer readBits input w).1 = modbusErrorOk
          · simp [readBit_completed _ _ _ _ _ _ _ memory present answered, answered]
          · simp [readBit_refused _ _ _ _ _ _ _ memory present answered, answered]

theorem finishSingle_notHolding (ret : UInt8) (written : World σ)
    (unset : written.outputBuffer = none) :
    ¬ FailedHolding (.of (finishSingle input prependSize appendSize ret written)) := by
  simp only [finishSingle]
  split
  · split <;> simp
  · simp [unset]

theorem writeSingle_code (kind : requestKind (w.request input) = .writeSingle) :
    w.request input = modbusWriteSingleCoilFc ∨ w.request input = modbusWriteSingleRegisterFc := by
  simp only [requestKind] at kind
  split at kind <;> try contradiction
  split at kind <;> try contradiction
  split at kind
  · assumption
  · split at kind <;> try contradiction
    split at kind <;> try contradiction
    split at kind <;> contradiction

theorem writeSingle_notHolding (kind : requestKind (w.request input) = .writeSingle)
    (unset : w.outputBuffer = none) :
    ¬ FailedHolding
      (.of (modbusWriteRequestHandler callbacks input inputSize prependSize appendSize w)) := by
  rcases writeSingle_code input w kind with isCoil | isRegister
  · cases present : callbacks.writeBits with
    | none => simp [writeSingle_coil_absent _ _ _ _ _ _ isCoil present, unset]
    | some writeBits =>
        rw [writeSingle_coil _ _ _ _ _ _ isCoil present]
        exact finishSingle_notHolding _ _ _ _ _ (by simpa using unset)
  · cases present : callbacks.writeWords with
    | none => simp [writeSingle_register_absent _ _ _ _ _ _ isRegister present, unset]
    | some writeWords =>
        rw [writeSingle_register _ _ _ _ _ _ isRegister present]
        exact finishSingle_notHolding _ _ _ _ _ (by simpa using unset)

theorem writeCoils_failedHolding (unset : w.outputBuffer = none) :
    FailedHolding (.of (modbusWriteMultipleCoilsRequestHandler callbacks input inputSize prependSize
        appendSize w)) ↔
      (w.allocates w.mallocs = true ∧ movedFreeable prependSize w = true) ∧
        ∃ writeBits, callbacks.writeBits = some writeBits ∧
          (writeCoilsAnswer writeBits input w).1 ≠ modbusErrorOk := by
  apply failedHolding_iff fun write => (writeCoilsAnswer write input w).1
  · intro absent
    rw [writeCoils_absent _ _ _ _ _ _ absent]
    exact unset
  · intro unmovable block
    cases present : callbacks.writeBits with
    | none => simp [writeCoils_absent _ _ _ _ _ _ present, unset]
    | some writeBits =>
        cases memory : w.allocates w.mallocs with
        | false => simp [writeCoils_denied _ _ _ _ _ _ _ present memory]
        | true =>
            have stuck : movedFreeable prependSize w = false := by simpa [memory] using unmovable
            rw [writeCoils_granted _ _ _ _ _ _ _ present memory]
            intro held
            cases held
            rw [coilsWritten_freeable, stuck]
  · intro writeBits present ⟨memory, taken⟩
    rw [writeCoils_granted _ _ _ _ _ _ _ present memory]
    exact ⟨rfl, _, rfl, by rw [coilsWritten_freeable, taken]⟩

theorem readWrite_failedHolding (unset : w.outputBuffer = none) :
    FailedHolding (modbusReadWriteMultipleRegistersRequestHandler callbacks input inputSize
        prependSize appendSize w) ↔
      w.allocates w.mallocs = true ∧ movedFreeable prependSize w = true ∧
        ∃ readWords, callbacks.readWords = some readWords ∧ callbacks.writeWords.isSome ∧
        ∃ writeBits, callbacks.writeBits = some writeBits ∧
          (writeCoilsAnswer writeBits input w).1 = modbusErrorOk ∧
            w.allocates (w.mallocs + 1) = true ∧
              (readWordsAnswer readWords input (w.setApp (writeCoilsAnswer writeBits input w).2)).1 ≠
                modbusErrorOk := by
  cases readable : callbacks.readWords with
  | none =>
      rw [readWrite_absent _ _ _ _ _ _ (.inl readable)]
      refine iff_of_false (not_failedHolding unset) ?_
      rintro ⟨_, _, _, impossible, _⟩
      cases impossible
  | some readWords =>
      cases writable : callbacks.writeWords with
      | none =>
          rw [readWrite_absent _ _ _ _ _ _ (.inr writable)]
          refine iff_of_false (not_failedHolding unset) ?_
          rintro ⟨_, _, _, _, impossible, _⟩
          cases impossible
      | some writeWords =>
          have readSome : callbacks.readWords.isSome := by rw [readable, Option.isSome_some]
          have writeSome : callbacks.writeWords.isSome := by rw [writable, Option.isSome_some]
          cases present : callbacks.writeBits with
          | none =>
              rw [readWrite_noCoils _ _ _ _ _ _ readSome writeSome present unset]
              refine iff_of_false (not_failedHolding unset) ?_
              rintro ⟨_, _, _, _, _, _, impossible, _⟩
              cases impossible
          | some writeBits =>
              cases memory : w.allocates w.mallocs with
              | false =>
                  rw [readWrite_denied _ _ _ _ _ _ _ readSome writeSome present memory]
                  refine iff_of_false (not_failedHolding rfl) ?_
                  rintro ⟨impossible, _⟩
                  cases impossible
              | true =>
                  cases taken : movedFreeable prependSize w with
                  | false =>
                      rw [readWrite_stopped _ _ _ _ _ _ _ readSome writeSome present memory taken]
                      refine iff_of_false id ?_
                      rintro ⟨_, impossible, _⟩
                      cases impossible
                  | true =>
                      rw [readWrite_freed _ _ _ _ _ _ _ readSome writeSome present memory taken]
                      simp only [Option.some.injEq, exists_eq_left', Option.isSome_some, true_and]
                      by_cases answered : (writeCoilsAnswer writeBits input w).1 = modbusErrorOk
                      · rw [if_pos answered, readWord_failedHolding]
                        simp only [readable, Option.some.injEq, forall_eq', readWordsAnswer_coilsFreed,
                          coilsFreed_allocates, coilsFreed_mallocs, answered, true_and]
                      · -- the pointer was taken once already
                        rw [if_neg answered]
                        refine iff_of_false ?_ fun accepted => answered accepted.1
                        rintro ⟨_, block, held, again⟩
                        cases held
                        simp [freeable] at again

theorem selected_failedHolding (unset : w.outputBuffer = none) :
    FailedHolding (modbusSelectedHandler callbacks input inputSize prependSize appendSize w) ↔
      FailsHoldingResponse callbacks input prependSize w := by
  simp only [modbusSelectedHandler, FailsHoldingResponse]
  cases kind : requestKind (w.request input) with
  | readBits => exact readBit_failedHolding callbacks input inputSize prependSize appendSize w
  | readWords => exact readWord_failedHolding callbacks input inputSize prependSize appendSize w
  | writeSingle =>
      exact iff_of_false
        (writeSingle_notHolding callbacks input inputSize prependSize appendSize w kind unset) id
  | writeMultipleRegisters =>
      apply failedHolding_iff fun write => (writeRegistersAnswer write input w).1
      · intro absent
        rw [writeRegisters_absent _ _ _ _ _ _ absent]
        exact unset
      · intro full block
        cases present : callbacks.writeWords with
        | none => simp [writeRegisters_absent _ _ _ _ _ _ present, unset]
        | some writeWords =>
            simp [writeRegisters_denied _ _ _ _ _ _ _ present (Bool.eq_false_iff.mpr full)]
      · intro writeWords present memory
        rw [writeRegisters_granted _ _ _ _ _ _ _ present memory]
        exact ⟨rfl, _, rfl, by simp⟩
  | writeMultipleCoils =>
      exact (writeCoils_failedHolding callbacks input inputSize prependSize appendSize w unset).trans
        and_assoc
  | readWriteMultipleRegisters =>
      exact readWrite_failedHolding callbacks input inputSize prependSize appendSize w unset
  | other => exact iff_of_false (not_failedHolding unset) id

/-! The ends of `modbus_handle_request`. -/

def handled : Outcome σ UInt8 :=
  modbusSelectedHandler callbacks input inputSize prependSize appendSize
    (w.emit (.access .request input 1))

@[simps! -fullyApplied app request heap blockSize readsAllocated allocates mallocs outputBuffer outputSize log]
def errorReported (functionCode errorCode : UInt8) : World σ :=
  (w.withOutput (responseSize 2 prependSize appendSize)).store ⟨w.mallocs, prependSize.toNat⟩
    [functionCode + 0x80, errorCode]

@[simps! -fullyApplied app request heap blockSize readsAllocated allocates mallocs outputBuffer outputSize log]
def errorUnreported : World σ :=
  (w.withoutOutput (responseSize 2 prependSize appendSize)).setOutputSize 0

variable {callbacks input inputSize prependSize appendSize w} {ret : UInt8} {after : World σ}

theorem handleRequest_stopped
    (ends : handled callbacks input inputSize prependSize appendSize w = .stopped after) :
    modbusHandleRequest callbacks input inputSize prependSize appendSize w = .stopped after := by
  unfold handled at ends
  simp only [modbusHandleRequest, ends, Outcome.bind_stopped]

theorem handleRequest_answered
    (ends : handled callbacks input inputSize prependSize appendSize w = .returned ret after)
    (answered : ret = modbusErrorOk) :
    modbusHandleRequest callbacks input inputSize prependSize appendSize w =
      .returned modbusErrorOk after := by
  unfold handled at ends
  simp only [modbusHandleRequest, ends, Outcome.bind_returned, answered, if_true]

theorem handleRequest_fault
    (failed : FailedHolding (handled callbacks input inputSize prependSize appendSize w)) :
    ∃ before : World σ, modbusHandleRequest callbacks input inputSize prependSize appendSize w =
      .fault (before.emit (.access .null 0 4)) := by
  cases ends : handled callbacks input inputSize prependSize appendSize w with
  | returned ret after =>
      rw [ends] at failed
      obtain ⟨refused, block, held, taken⟩ := failed
      unfold handled at ends
      simp only [modbusHandleRequest, ends, Outcome.bind_returned, refused, if_false, held, vPortFree,
        taken, if_true, modbusCreateErrorResponse]
      exact ⟨_, rfl⟩
  | stopped before => exact absurd failed (by simp [ends, FailedHolding])
  | fault before => exact absurd failed (by simp [ends, FailedHolding])

theorem handleRequest_stuck {block : Pointer}
    (ends : handled callbacks input inputSize prependSize appendSize w = .returned ret after)
    (refused : ret ≠ modbusErrorOk) (held : after.outputBuffer = some block)
    (stuck : after.freeable block = false) :
    modbusHandleRequest callbacks input inputSize prependSize appendSize w =
      .stopped (after.emit (.free block)) := by
  unfold handled at ends
  simp only [modbusHandleRequest, ends, Outcome.bind_returned, refused, if_false, held, vPortFree,
    stuck, Bool.false_eq_true, Outcome.bind_stopped]

theorem handleRequest_reported
    (ends : handled callbacks input inputSize prependSize appendSize w = .returned ret after)
    (refused : ret ≠ modbusErrorOk) (unset : after.outputBuffer = none)
    (memory : after.allocates after.mallocs = true) :
    modbusHandleRequest callbacks input inputSize prependSize appendSize w =
      .returned modbusErrorOk (errorReported prependSize appendSize after (w.request input) ret) := by
  have small := responseSize_small 2 prependSize appendSize (by omega)
  unfold handled at ends
  simp only [modbusHandleRequest, ends, Outcome.bind_returned, refused, if_false, unset,
    modbusCreateErrorResponse]
  rw [allocateOutput_granted _ _ small memory]
  simp only [Pointer.plus, Nat.zero_add]
  rfl

theorem handleRequest_unreported
    (ends : handled callbacks input inputSize prependSize appendSize w = .returned ret after)
    (refused : ret ≠ modbusErrorOk) (unset : after.outputBuffer = none)
    (full : after.allocates after.mallocs = false) :
    modbusHandleRequest callbacks input inputSize prependSize appendSize w =
      .returned modbusErrorOk (errorUnreported prependSize appendSize after) := by
  have small := responseSize_small 2 prependSize appendSize (by omega)
  unfold handled at ends
  simp only [modbusHandleRequest, ends, Outcome.bind_returned, refused, if_false, unset,
    modbusCreateErrorResponse]
  rw [allocateOutput_denied _ _ small full]
  rfl

variable (callbacks input inputSize prependSize appendSize w)

theorem readWrite_returns_or_stops :
    (modbusReadWriteMultipleRegistersRequestHandler callbacks input inputSize prependSize appendSize
      w).faulted = false := by
  rw [modbusReadWriteMultipleRegistersRequestHandler]
  split
  · rfl
  · cases modbusWriteMultipleCoilsRequestHandler callbacks input inputSize prependSize appendSize w with
    | mk ret after =>
        cases held : after.outputBuffer with
        | none =>
            simp only [held, Outcome.bind_returned]
            split <;> rfl
        | some block =>
            simp only [held, vPortFree]
            split
            · rw [Outcome.bind_returned]
              split <;> rfl
            · rfl

/-- No handler stores through a null pointer. -/
theorem handled_faulted :
    (handled callbacks input inputSize prependSize appendSize w).faulted = false := by
  simp only [handled, modbusSelectedHandler]
  cases requestKind ((w.emit (.access .request input 1)).request input) with
  | readWriteMultipleRegisters => exact readWrite_returns_or_stops ..
  | _ => rfl

/-- How a request ends, by what its handler leaves behind. -/
inductive RequestEnd : Prop
  | stopped (before : World σ)
      (ends : handled callbacks input inputSize prependSize appendSize w = .stopped before)
      (outcome : modbusHandleRequest callbacks input inputSize prependSize appendSize w =
        .stopped before)
  | answered (after : World σ)
      (ends : handled callbacks input inputSize prependSize appendSize w =
        .returned modbusErrorOk after)
      (outcome : modbusHandleRequest callbacks input inputSize prependSize appendSize w =
        .returned modbusErrorOk after)
  | fault (before : World σ)
      (failed : FailedHolding (handled callbacks input inputSize prependSize appendSize w))
      (outcome : modbusHandleRequest callbacks input inputSize prependSize appendSize w =
        .fault (before.emit (.access .null 0 4)))
  | stuck (ret : UInt8) (after : World σ) (block : Pointer)
      (ends : handled callbacks input inputSize prependSize appendSize w = .returned ret after)
      (refused : ret ≠ modbusErrorOk) (held : after.outputBuffer = some block)
      (stuck : after.freeable block = false)
      (outcome : modbusHandleRequest callbacks input inputSize prependSize appendSize w =
        .stopped (after.emit (.free block)))
  | reported (ret : UInt8) (after : World σ)
      (ends : handled callbacks input inputSize prependSize appendSize w = .returned ret after)
      (refused : ret ≠ modbusErrorOk) (unset : after.outputBuffer = none)
      (memory : after.allocates after.mallocs = true)
      (outcome : modbusHandleRequest callbacks input inputSize prependSize appendSize w =
        .returned modbusErrorOk (errorReported prependSize appendSize after (w.request input) ret))
  | unreported (ret : UInt8) (after : World σ)
      (ends : handled callbacks input inputSize prependSize appendSize w = .returned ret after)
      (refused : ret ≠ modbusErrorOk) (unset : after.outputBuffer = none)
      (full : after.allocates after.mallocs = false)
      (outcome : modbusHandleRequest callbacks input inputSize prependSize appendSize w =
        .returned modbusErrorOk (errorUnreported prependSize appendSize after))

theorem handleRequest_ends :
    RequestEnd callbacks input inputSize prependSize appendSize w := by
  cases ends : handled callbacks input inputSize prependSize appendSize w with
  | fault before =>
      have impossible := handled_faulted callbacks input inputSize prependSize appendSize w
      rw [ends] at impossible
      cases impossible
  | stopped before => exact .stopped before ends (handleRequest_stopped ends)
  | returned ret after =>
      by_cases answered : ret = modbusErrorOk
      · subst answered
        exact .answered after ends (handleRequest_answered ends rfl)
      · cases held : after.outputBuffer with
        | some block =>
            cases taken : after.freeable block with
            | true =>
                have failed : FailedHolding
                    (handled callbacks input inputSize prependSize appendSize w) := by
                  rw [ends]
                  exact ⟨answered, block, held, taken⟩
                obtain ⟨before, outcome⟩ := handleRequest_fault failed
                exact .fault before failed outcome
            | false =>
                exact .stuck ret after block ends answered held taken
                  (handleRequest_stuck ends answered held taken)
        | none =>
            cases memory : after.allocates after.mallocs with
            | true =>
                exact .reported ret after ends answered held memory
                  (handleRequest_reported ends answered held memory)
            | false =>
                exact .unreported ret after ends answered held memory
                  (handleRequest_unreported ends answered held memory)

/-- Whatever the handler answered, `modbus_handle_request` returns `MODBUS_ERROR_OK`. -/
theorem handleRequest_ok {ret : UInt8} {final : World σ}
    (returned : modbusHandleRequest callbacks input inputSize prependSize appendSize w =
      .returned ret final) : ret = modbusErrorOk := by
  cases handleRequest_ends callbacks input inputSize prependSize appendSize w with
  | answered _ _ outcome | reported _ _ _ _ _ _ outcome | unreported _ _ _ _ _ _ outcome =>
      rw [returned] at outcome
      cases outcome
      rfl
  | stopped _ _ outcome | fault _ _ outcome | stuck _ _ _ _ _ _ _ outcome =>
      rw [returned] at outcome
      cases outcome

theorem handled_failedHolding (unset : w.outputBuffer = none) :
    FailedHolding (handled callbacks input inputSize prependSize appendSize w) ↔
      FailsHoldingResponse callbacks input prependSize w :=
  selected_failedHolding callbacks input inputSize prependSize appendSize
    (w.emit (.access .request input 1)) unset

/-- The caller's variables describe a block that holds the exception at `prepend_size`. -/
structure DescribesException (functionCode errorCode : UInt8) (final : World σ) : Prop where
  size : final.outputSize.toNat = 2 + prependSize.toNat + appendSize.toNat
  block : ∃ id, final.outputBuffer = some ⟨id, 0⟩ ∧
    final.blockSize id = 2 + prependSize.toNat + appendSize.toNat ∧
    final.heap id prependSize.toNat = functionCode ||| 0x80 ∧
    final.heap id (prependSize.toNat + 1) = errorCode

/-- Adding 0x80 sets the top bit of the codes that lack it, and of no others. -/
theorem add_topBit_iff (functionCode : UInt8) :
    functionCode + 0x80 = functionCode ||| 0x80 ↔ functionCode < 0x80 := by
  have cases (code : Fin 256) :
      UInt8.ofFin code + 0x80 = UInt8.ofFin code ||| 0x80 ↔ UInt8.ofFin code < 0x80 := by
    revert code
    decide +kernel
  exact cases functionCode.toFin

theorem errorReported_code {prependSize appendSize functionCode errorCode other : UInt8}
    {w : World σ} (describes : DescribesException prependSize appendSize functionCode other
      (errorReported prependSize appendSize w functionCode errorCode)) : functionCode < 0x80 := by
  rw [← add_topBit_iff]
  obtain ⟨id, pointer, _, code, _⟩ := describes.block
  simp only [errorReported_outputBuffer, Option.some.injEq, Pointer.mk.injEq, and_true] at pointer
  subst id
  simpa [writeRange] using code

theorem errorReported_describes (functionCode errorCode : UInt8) :
    DescribesException prependSize appendSize functionCode errorCode
        (errorReported prependSize appendSize w functionCode errorCode) ↔ functionCode < 0x80 := by
  have small := responseSize_small 2 prependSize appendSize (by omega)
  constructor
  · exact errorReported_code
  · intro low
    have topBit := (add_topBit_iff functionCode).mpr low
    refine ⟨?_, w.mallocs, ?_, ?_, ?_, ?_⟩
    · rw [errorReported_outputSize]
      exact UInt16.toNat_ofNat_of_lt small
    · simp
    · simp [responseSize]
    · simp [writeRange, topBit]
    · simp [writeRange]

@[simps! -fullyApplied app request heap blockSize readsAllocated allocates mallocs outputBuffer log]
def World.freshOutput (w : World σ) : World σ := (w.setOutput none).setOutputSize 0

/-- The code gets to the allocation of the error response, over the free of the block that the
handler left, and the allocation succeeds. -/
structure ErrorResponseGranted (after : World σ) : Prop where
  freed : ∀ block, after.outputBuffer = some block → after.freeable block = true
  memory : after.allocates after.mallocs = true

/-- No store goes through a null pointer, and a handler's failure is described to the caller
whenever the error response gets its block. -/
structure ReportsEveryFailure : Prop where
  noNullStore :
    (modbusHandleRequest callbacks input inputSize prependSize appendSize w).faulted = false
  described : ∀ ret after,
    handled callbacks input inputSize prependSize appendSize w = .returned ret after →
    ret ≠ modbusErrorOk → ErrorResponseGranted after →
    ∃ final, modbusHandleRequest callbacks input inputSize prependSize appendSize w =
        .returned modbusErrorOk final ∧
      DescribesException prependSize appendSize (w.request input) ret final

theorem requestKind_topBit (functionCode : UInt8) (topBit : ¬ functionCode < 0x80) :
    requestKind functionCode = .other := by
  have outside (code : UInt8) (below : code < 0x80) : functionCode ≠ code := by
    rintro rfl
    exact topBit below
  simp only [requestKind, outside _ (by decide : modbusReadCoilsFc < 0x80),
    outside _ (by decide : modbusReadDiscreteInputsFc < 0x80),
    outside _ (by decide : modbusReadHoldingRegistersFc < 0x80),
    outside _ (by decide : modbusReadInputRegistersFc < 0x80),
    outside _ (by decide : modbusWriteSingleCoilFc < 0x80),
    outside _ (by decide : modbusWriteSingleRegisterFc < 0x80),
    outside _ (by decide : modbusWriteMultipleRegistersFc < 0x80),
    outside _ (by decide : modbusWriteMultipleCoilsFc < 0x80),
    outside _ (by decide : modbusReadWriteMultipleRegistersFc < 0x80), or_self, if_false]

theorem handled_other (kind : requestKind (w.request input) = .other) :
    handled callbacks input inputSize prependSize appendSize w =
      .returned modbusErrorIllegalFunction (w.emit (.access .request input 1)) := by
  simp [handled, modbusSelectedHandler, kind]

/-- The run ends at a null pointer exactly when the handler fails while it holds its response. -/
theorem handleRequest_faulted_iff (unset : w.outputBuffer = none) :
    (modbusHandleRequest callbacks input inputSize prependSize appendSize w).faulted = true ↔
      FailsHoldingResponse callbacks input prependSize w := by
  rw [← handled_failedHolding callbacks input inputSize prependSize appendSize w unset]
  constructor
  · intro faulted
    cases handleRequest_ends callbacks input inputSize prependSize appendSize w with
    | fault before failed outcome => exact failed
    | stopped _ _ outcome | answered _ _ outcome | stuck _ _ _ _ _ _ _ outcome
    | reported _ _ _ _ _ _ outcome | unreported _ _ _ _ _ _ outcome =>
        rw [outcome] at faulted
        cases faulted
  · intro failed
    obtain ⟨before, outcome⟩ := handleRequest_fault failed
    rw [outcome]
    rfl

theorem handleRequest_reportsEveryFailure_iff :
    ReportsEveryFailure callbacks input inputSize prependSize appendSize w.freshOutput ↔
      ¬ FailsHoldingResponse callbacks input prependSize w ∧
        (w.request input < 0x80 ∨ w.allocates w.mallocs = false) := by
  have faults : (modbusHandleRequest callbacks input inputSize prependSize appendSize
      w.freshOutput).faulted = true ↔ FailsHoldingResponse callbacks input prependSize w :=
    handleRequest_faulted_iff callbacks input inputSize prependSize appendSize w.freshOutput rfl
  constructor
  · intro reports
    refine ⟨fun fails => absurd (faults.mpr fails) (by simp [reports.noNullStore]), ?_⟩
    by_contra exceptional
    obtain ⟨topBit, memory⟩ := not_or.mp exceptional
    have other := handled_other callbacks input inputSize prependSize appendSize w.freshOutput
      (requestKind_topBit _ topBit)
    have granted : w.allocates w.mallocs = true := by simpa using memory
    obtain ⟨final, returned, describes⟩ := reports.described _ _ other illegalFunction_ne_ok
      ⟨by simp, granted⟩
    rw [handleRequest_reported other illegalFunction_ne_ok rfl granted] at returned
    injection returned with _ isFinal
    rw [← isFinal] at describes
    exact topBit ((errorReported_describes _ _ _ _ _).mp describes)
  · rintro ⟨notHolding, ordinary⟩
    refine ⟨Bool.eq_false_iff.mpr (faults.not.mpr notHolding), ?_⟩
    intro ret after ends refused ⟨freed, memory⟩
    have unset : after.outputBuffer = none := by
      by_contra held
      obtain ⟨block, held⟩ := Option.ne_none_iff_exists'.mp held
      have failed : FailedHolding (handled callbacks input inputSize prependSize appendSize
          w.freshOutput) := by
        rw [ends]
        exact ⟨refused, block, held, freed block held⟩
      exact notHolding ((handled_failedHolding callbacks input inputSize prependSize appendSize
        w.freshOutput rfl).mp failed)
    refine ⟨_, handleRequest_reported ends refused unset memory, ?_⟩
    rw [errorReported_describes]
    by_contra topBit
    rw [handled_other callbacks input inputSize prependSize appendSize w.freshOutput
      (requestKind_topBit _ topBit)] at ends
    cases ends
    rcases ordinary with low | full
    · exact topBit low
    · exact absurd memory (by simpa [World.freshOutput] using full)

/-! A read of one holding register that the application refuses: the response block is
allocated by then. -/

def refusingCallbacks : ModbusCallbacks Unit where
  readBits := none
  writeBits := none
  readWords := some fun _ _ _ _ app => (2, [], app)
  writeWords := none
  otherFunctions := none

theorem refusedRead_unreported :
    ¬ ReportsEveryFailure refusingCallbacks 0 5 7 0
      (World.initial () [0x03, 0x00, 0x00, 0x00, 0x01]).freshOutput := by
  intro reports
  have faulted : (modbusHandleRequest refusingCallbacks 0 5 7 0
      (World.initial () [0x03, 0x00, 0x00, 0x00, 0x01]).freshOutput).faulted = true := by
    decide +kernel
  rw [reports.noNullStore] at faulted
  contradiction

end SpeFramework
