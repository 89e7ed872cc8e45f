import SpeFramework.FreeRtos.HeapAnswers
import SpeFramework.Modbus.Bounds

/-!
The requests on the heap of `heap_4.c`: `pvPortMalloc` and `vPortFree` are called as the log of a
request says, and what the request stores lies in the words of its block.
-/

namespace SpeFramework

open Runs RangeStore ByteOrder World FreeRtos

variable {σ : Type}

/-- The heap, and the pointers it returned for the numbered blocks. -/
structure Backing where
  state : Option HeapUse
  pointer : Nat → Nat

section Heap

variable (layout : Layout) (contents : HeapUse → Event → Nat → BlockLink)

/-- A store behind the bytes of the block would reach what belongs to others. -/
def storeInBlock (pv offset length : Nat) (event : Event) (use : HeapUse) : Option HeapUse :=
  if length = 0 then some use
  else
    match use.held.find? (·.pointer = pv) with
    | none => none
    | some held =>
        if offset + length ≤ held.wanted then
          useStep layout (some use) (.write held (contents use event))
        else none

def backStep (backing : Backing) (event : Event) : Backing :=
  match event with
  | .malloc size block =>
      { state := useStep layout backing.state (.malloc size)
        pointer := match block with
          | none => backing.pointer
          | some id => Function.update backing.pointer id
              ((answer layout backing.state (.malloc size)).getD 0) }
  | .free pointer =>
      { backing with
        state := useStep layout backing.state (.free (backing.pointer pointer.block + pointer.offset)) }
  | .access (.block id) offset length =>
      { backing with
        state := backing.state.bind
          (storeInBlock layout contents (backing.pointer id) offset length event) }
  | _ => backing

/-- The heap answers a request as the log has it. -/
def AnsweredByHeap (backing : Backing) : Event → Prop
  | .malloc size block =>
      (answer layout backing.state (.malloc size)).map (· != 0) = some block.isSome
  | _ => True

instance (backing : Backing) : (event : Event) → Decidable (AnsweredByHeap layout backing event)
  | .malloc _ block => inferInstanceAs (Decidable (Option.map (· != 0) _ = some block.isSome))
  | .access _ _ _ => isTrue trivial
  | .free _ => isTrue trivial
  | .call _ => isTrue trivial
  | .send _ _ => isTrue trivial
  | .close _ => isTrue trivial

/-- Nothing is handed out, taken back or stored in a block. -/
@[simp] def Event.Idle : Event → Prop
  | .malloc _ block => block = none
  | .free _ => False
  | .access (.block _) _ _ => False
  | _ => True

/-- All that is handed out is one block, and it is taken back at the end. -/
inductive Balanced : List Event → Prop
  | idle {log : List Event} (idle : ∀ event ∈ log, event.Idle) : Balanced log
  | block {early late : List Event} (size id : Nat) (idle : ∀ event ∈ early, event.Idle)
      (inside : ∀ event ∈ late, event.Idle ∨ ∃ offset length,
        event = .access (.block id) offset length ∧ (length = 0 ∨ offset + length ≤ size)) :
      Balanced (early ++ .malloc size (some id) :: (late ++ [.free ⟨id, 0⟩]))

variable {layout contents} {use : HeapUse} {pointer : Nat → Nat}

theorem malloc_answered (sound : Sound layout use) {size : Nat} {block : Option Nat}
    (answered : AnsweredByHeap layout ⟨some use, pointer⟩ (.malloc size block)) :
    ∃ next pv, useStep layout (some use) (.malloc size) = some next ∧ Sound layout next ∧
      answer layout (some use) (.malloc size) = some pv ∧ (pv = 0 ↔ block = none) ∧
      next.held = if pv = 0 then use.held
        else ⟨pv, size, allocatedSize next.heap.links pv⟩ :: use.held := by
  have allowed : Allowed (some use) (.malloc size) := fun _ _ => trivial
  obtain ⟨next, returned, nextSound⟩ := sound.step_sound allowed
  have stepped := returned
  simp only [useStep, Option.bind_some, Option.map_eq_some_iff, Prod.exists] at stepped
  obtain ⟨pv, heap, granted, rfl⟩ := stepped
  have isAnswer : answer layout (some use) (.malloc size) = some pv := by simp [answer, granted]
  refine ⟨_, pv, returned, nextSound, isAnswer, ?_, rfl⟩
  simp only [AnsweredByHeap, isAnswer, Option.map_some, Option.some.injEq] at answered
  cases block <;> simp_all

theorem idle_run {log : List Event} (idle : ∀ event ∈ log, event.Idle) (sound : Sound layout use)
    (answered : Throughout (backStep layout contents) (AnsweredByHeap layout) ⟨some use, pointer⟩ log) :
    ∃ next, log.foldl (backStep layout contents) ⟨some use, pointer⟩ = ⟨some next, pointer⟩ ∧
      Sound layout next ∧ next.held = use.held := by
  induction log generalizing use with
  | nil => exact ⟨use, rfl, sound, rfl⟩
  | cons event log ih =>
      obtain ⟨here, later⟩ := answered
      obtain ⟨idleHere, idleLater⟩ := List.forall_mem_cons.mp idle
      cases event with
      | malloc size block =>
          obtain rfl : block = none := idleHere
          obtain ⟨next, pv, returned, nextSound, -, isNull, held⟩ := malloc_answered sound here
          rw [if_pos (isNull.mpr rfl)] at held
          simp only [backStep, returned] at later
          obtain ⟨final, reached, finalSound, finalHeld⟩ := ih idleLater nextSound later
          refine ⟨final, ?_, finalSound, finalHeld.trans held⟩
          simpa only [List.foldl_cons, backStep, returned] using reached
      | free => exact absurd idleHere id
      | access area =>
          cases area with
          | block => exact absurd idleHere id
          | request => exact ih idleLater sound later
          | null => exact ih idleLater sound later
      | call => exact ih idleLater sound later
      | send => exact ih idleLater sound later
      | close => exact ih idleLater sound later

variable (contents) in
theorem stored_inBlock (event : Event) {pv size offset length : Nat} {rest : List Held} {blockSize : Nat}
    (held : use.held = ⟨pv, size, blockSize⟩ :: rest) (sound : Sound layout use)
    (inside : length = 0 ∨ offset + length ≤ size) :
    ∃ next, storeInBlock layout contents pv offset length event use = some next ∧ Sound layout next ∧
      next.held = use.held := by
  by_cases empty : length = 0
  · exact ⟨use, if_pos empty, sound, rfl⟩
  · have fits : offset + length ≤ size := inside.resolve_left empty
    have found : use.held.find? (·.pointer = pv) = some ⟨pv, size, blockSize⟩ := by simp [held]
    have allowed : Allowed (some use) (.write ⟨pv, size, blockSize⟩ (contents use event)) := by
      rintro _ ⟨⟩
      simp [held]
    obtain ⟨next, returned, nextSound⟩ := sound.step_sound allowed
    refine ⟨next, ?_, nextSound, ?_⟩
    · simp only [storeInBlock, if_neg empty, found, if_pos fits, returned]
    · obtain rfl := Option.some.inj returned
      rfl

theorem lent_run {log : List Event} {id size blockSize : Nat} {rest : List Held}
    (inside : ∀ event ∈ log, event.Idle ∨ ∃ offset length,
      event = .access (.block id) offset length ∧ (length = 0 ∨ offset + length ≤ size))
    (sound : Sound layout use) (held : use.held = ⟨pointer id, size, blockSize⟩ :: rest)
    (answered : Throughout (backStep layout contents) (AnsweredByHeap layout) ⟨some use, pointer⟩ log) :
    ∃ next, log.foldl (backStep layout contents) ⟨some use, pointer⟩ = ⟨some next, pointer⟩ ∧
      Sound layout next ∧ next.held = use.held := by
  induction log generalizing use with
  | nil => exact ⟨use, rfl, sound, rfl⟩
  | cons event log ih =>
      obtain ⟨insideHere, insideLater⟩ := List.forall_mem_cons.mp inside
      obtain ⟨next, stepped, nextSound, nextHeld⟩ : ∃ next,
          backStep layout contents ⟨some use, pointer⟩ event = ⟨some next, pointer⟩ ∧
            Sound layout next ∧ next.held = use.held := by
        rcases insideHere with idle | ⟨offset, length, rfl, fits⟩
        · have alone : ∀ other ∈ [event], other.Idle := by simpa using idle
          exact idle_run alone sound ⟨answered.1, trivial⟩
        · obtain ⟨next, stored, kept⟩ :=
            stored_inBlock contents (.access (.block id) offset length) held sound fits
          exact ⟨next, by simp [backStep, stored], kept⟩
      obtain ⟨final, reached, finalSound, finalHeld⟩ :=
        ih insideLater nextSound (nextHeld.trans held) (stepped ▸ answered.2)
      refine ⟨final, ?_, finalSound, finalHeld.trans nextHeld⟩
      rw [List.foldl_cons, stepped, reached]

theorem balanced_run {log : List Event} (balanced : Balanced log) (sound : Sound layout use)
    (answered : Throughout (backStep layout contents) (AnsweredByHeap layout) ⟨some use, pointer⟩ log) :
    ∃ next, (log.foldl (backStep layout contents) ⟨some use, pointer⟩).state = some next ∧
      Sound layout next ∧ next.held = use.held := by
  cases balanced with
  | idle idle =>
      obtain ⟨next, reached, nextSound, held⟩ := idle_run idle sound answered
      exact ⟨next, by rw [reached], nextSound, held⟩
  | @block early late size id idle inside =>
      obtain ⟨answeredEarly, answeredHere, answeredLater⟩ := (throughout_append ..).mp answered
      obtain ⟨before, reachedBefore, beforeSound, beforeHeld⟩ := idle_run idle sound answeredEarly
      rw [reachedBefore] at answeredHere answeredLater
      obtain ⟨given, pv, returned, givenSound, isAnswer, isNull, givenHeld⟩ :=
        malloc_answered beforeSound answeredHere
      rw [if_neg (by simp [isNull])] at givenHeld
      have stepped : backStep layout contents ⟨some before, pointer⟩ (.malloc size (some id)) =
          ⟨some given, Function.update pointer id pv⟩ := by
        simp [backStep, returned, isAnswer]
      rw [stepped] at answeredLater
      have own : given.held = ⟨Function.update pointer id pv id, size, allocatedSize given.heap.links pv⟩ ::
          before.held := by rw [Function.update_self, givenHeld]
      obtain ⟨lent, reachedLent, lentSound, lentHeld⟩ :=
        lent_run inside givenSound own ((throughout_append ..).mp answeredLater).1
      have allowed : Allowed (some lent) (.free pv) := by
        rintro _ ⟨⟩
        exact .inr ⟨_, by rw [lentHeld, givenHeld]; exact List.mem_cons_self .., rfl⟩
      obtain ⟨final, freed, finalSound⟩ := lentSound.step_sound allowed
      have finalHeld : final.held = before.held := by
        have erased := freed
        simp only [useStep, Option.bind_some, Option.map_eq_some_iff] at erased
        obtain ⟨heap, -, rfl⟩ := erased
        simp [lentHeld, givenHeld]
      refine ⟨final, ?_, finalSound, finalHeld.trans beforeHeld⟩
      rw [List.foldl_append, reachedBefore, List.foldl_cons, stepped, List.foldl_append, reachedLent]
      simp [backStep, freed]

end Heap

/-! What a handler leaves in the log: nothing of the heap, or one block. -/

namespace World

structure Unused (w : World σ) : Prop where
  unset : w.outputBuffer = none
  idle : ∀ event ∈ w.log, event.Idle

structure Lends (id : Nat) (w : World σ) : Prop where
  pointer : w.outputBuffer = some ⟨id, 0⟩
  taken : w.freeable ⟨id, 0⟩ = true
  oneBlock : ∃ early late, w.log = early ++ .malloc (w.blockSize id) (some id) :: late ∧
    (∀ event ∈ early, event.Idle) ∧
    ∀ event ∈ late, event.Idle ∨ ∃ offset length, event = .access (.block id) offset length

variable {w : World σ} {id : Nat}

theorem Unused.emit (unused : w.Unused) {event : Event} (idle : event.Idle) : (w.emit event).Unused where
  unset := unused.unset
  idle := by simpa [or_imp, forall_and] using ⟨unused.idle, idle⟩

theorem Unused.setApp (unused : w.Unused) (app : σ) : (w.setApp app).Unused := ⟨unused.unset, unused.idle⟩

theorem Unused.withoutOutput (unused : w.Unused) (size : Nat) : (w.withoutOutput size).Unused where
  unset := rfl
  idle := by simpa [or_imp, forall_and] using unused.idle

theorem Unused.withOutput (unused : w.Unused) (size : Nat) : (w.withOutput size).Lends w.mallocs where
  pointer := rfl
  taken := by simp
  oneBlock := ⟨w.log, [], by simp, unused.idle, by simp⟩

theorem Lends.append (lends : w.Lends id) {after : World σ} {more : List Event}
    (pointer : after.outputBuffer = w.outputBuffer) (reads : after.readsAllocated = w.readsAllocated)
    (size : after.blockSize = w.blockSize) (log : after.log = w.log ++ more)
    (inside : ∀ event ∈ more, event.Idle ∨ ∃ offset length, event = .access (.block id) offset length) :
    after.Lends id where
  pointer := pointer.trans lends.pointer
  taken := by
    have taken := lends.taken
    simp only [freeable] at taken ⊢
    rwa [reads]
  oneBlock := by
    obtain ⟨early, late, split, idle, insideLate⟩ := lends.oneBlock
    refine ⟨early, late ++ more, by simp [log, split, size], idle, fun event member => ?_⟩
    rcases List.mem_append.mp member with inLate | inMore
    · exact insideLate event inLate
    · exact inside event inMore

theorem Lends.emit (lends : w.Lends id) {event : Event} (idle : event.Idle) : (w.emit event).Lends id :=
  lends.append rfl rfl rfl rfl (List.forall_mem_singleton.mpr (.inl idle))

theorem Lends.setApp (lends : w.Lends id) (app : σ) : (w.setApp app).Lends id :=
  ⟨lends.pointer, lends.taken, lends.oneBlock⟩

theorem Lends.updateBlock (lends : w.Lends id) (offset length : Nat) (change : Memory → Memory) :
    (w.updateBlock ⟨id, offset⟩ length change).Lends id :=
  lends.append rfl rfl rfl rfl (by simp)

theorem Lends.store (lends : w.Lends id) (offset : Nat) (bytes : List UInt8) :
    (w.store ⟨id, offset⟩ bytes).Lends id :=
  lends.updateBlock ..

theorem Lends.updateBlockRanges (lends : w.Lends id) (offset : Nat → Nat) (length : Nat)
    (change : Nat → Memory → Memory) (count : Nat) :
    (w.updateBlockRanges id offset length change count).Lends id :=
  lends.append rfl rfl rfl rfl (by simp)

theorem Lends.updateRequestRanges (lends : w.Lends id) (offset : Nat → Nat) (length : Nat)
    (change : Nat → Memory → Memory) (count : Nat) :
    (w.updateRequestRanges offset length change count).Lends id :=
  lends.append rfl rfl rfl rfl (by simp)

end World

inductive HandlerLog (result : UInt8 × World σ) : Prop
  | answered (ok : result.1 = modbusErrorOk) (id : Nat) (lends : result.2.Lends id)
  | refused (failed : result.1 ≠ modbusErrorOk) (unused : result.2.Unused)
  | holding (failed : FailedHolding (.of result))

section Handlers

variable (callbacks : ModbusCallbacks σ) (input inputSize : Nat) (prependSize appendSize : UInt8)
  {w : World σ}

theorem readWord_log (unused : w.Unused) :
    HandlerLog (modbusReadWordRequestHandler callbacks input inputSize prependSize appendSize w) := by
  have asked : (w.emit (.access .request input 5)).Unused := unused.emit trivial
  cases memory : w.allocates w.mallocs with
  | false =>
      rw [readWord_denied _ _ _ _ _ _ memory]
      exact .refused serverDeviceFailure_ne_ok (asked.withoutOutput _)
  | true =>
      by_cases completed : ∃ readWords, callbacks.readWords = some readWords ∧
          (readWordsAnswer readWords input w).1 = modbusErrorOk
      · obtain ⟨readWords, present, answered⟩ := completed
        rw [readWord_completed _ _ _ _ _ _ _ memory present answered]
        have zeroed : (readWordsAsked input prependSize appendSize w).Lends w.mallocs := by
          rw [readWordsAsked]
          exact (asked.withOutput _).store _ _
        have filled : (readWordsAnswered readWords input prependSize appendSize w).Lends w.mallocs := by
          rw [readWordsAnswered]
          refine Lends.updateBlock (Lends.emit (zeroed.setApp _) ?_) _ _ _
          trivial
        have swapped : (readWordsCompleted readWords input prependSize appendSize w).Lends w.mallocs := by
          rw [readWordsCompleted]
          exact (filled.store _ _).updateBlockRanges _ _ _ _
        exact .answered rfl w.mallocs swapped
      · refine .holding ((readWord_failedHolding ..).mpr ⟨memory, fun readWords present answered => ?_⟩)
        exact completed ⟨readWords, present, answered⟩

theorem readBit_log (unused : w.Unused) :
    HandlerLog (modbusReadBitRequestHandler callbacks input inputSize prependSize appendSize w) := by
  have asked : (w.emit (.access .request input 5)).Unused := unused.emit trivial
  cases memory : w.allocates w.mallocs with
  | false =>
      rw [readBit_denied _ _ _ _ _ _ memory]
      exact .refused serverDeviceFailure_ne_ok (asked.withoutOutput _)
  | true =>
      by_cases completed : ∃ readBits, callbacks.readBits = some readBits ∧
          (readBitsAnswer readBits input w).1 = modbusErrorOk
      · obtain ⟨readBits, present, answered⟩ := completed
        rw [readBit_completed _ _ _ _ _ _ _ memory present answered]
        have zeroed : (readBitsAsked input prependSize appendSize w).Lends w.mallocs := by
          rw [readBitsAsked]
          exact (asked.withOutput _).store _ _
        have filled : (readBitsAnswered readBits input prependSize appendSize w).Lends w.mallocs := by
          rw [readBitsAnswered]
          refine Lends.updateBlock (Lends.emit (zeroed.setApp _) ?_) _ _ _
          trivial
        have swapped : (readBitsCompleted readBits input prependSize appendSize w).Lends w.mallocs := by
          rw [readBitsCompleted]
          exact (filled.store _ _).updateBlockRanges _ _ _ _
        exact .answered rfl w.mallocs swapped
      · refine .holding ((readBit_failedHolding ..).mpr ⟨memory, fun readBits present answered => ?_⟩)
        exact completed ⟨readBits, present, answered⟩

theorem finishSingle_log (ret : UInt8) (unused : w.Unused) :
    HandlerLog (finishSingle input prependSize appendSize ret w) := by
  simp only [finishSingle]
  split
  · split
    · have echoed : (acknowledged input prependSize appendSize w).Lends w.mallocs := by
        rw [acknowledged]
        exact (unused.withOutput _).store _ _
      exact .answered rfl w.mallocs echoed
    · exact .refused serverDeviceFailure_ne_ok (unused.withoutOutput _)
  · rename_i refused
    exact .refused refused unused

theorem writeSingle_log (unused : w.Unused) (kind : requestKind (w.request input) = .writeSingle) :
    HandlerLog (modbusWriteRequestHandler callbacks input inputSize prependSize appendSize w) := by
  have asked : (w.emit (.access .request input 5)).Unused := unused.emit trivial
  rcases writeSingle_code input w kind with isCoil | isRegister
  · cases present : callbacks.writeBits with
    | none =>
        rw [writeSingle_coil_absent _ _ _ _ _ _ isCoil present]
        exact .refused illegalFunction_ne_ok asked
    | some writeBits =>
        rw [writeSingle_coil _ _ _ _ _ _ isCoil present]
        exact finishSingle_log _ _ _ _ ((asked.setApp _).emit trivial)
  · cases present : callbacks.writeWords with
    | none =>
        rw [writeSingle_register_absent _ _ _ _ _ _ isRegister present]
        exact .refused illegalFunction_ne_ok asked
    | some writeWords =>
        rw [writeSingle_register _ _ _ _ _ _ isRegister present]
        exact finishSingle_log _ _ _ _ ((asked.setApp _).emit trivial)

theorem writeRegisters_log (unused : w.Unused) :
    HandlerLog (modbusWriteMultipleRegistersRequestHandler callbacks input inputSize prependSize
      appendSize w) := by
  have asked : (w.emit (.access .request input 6)).Unused := unused.emit trivial
  cases present : callbacks.writeWords with
  | none =>
      rw [writeRegisters_absent _ _ _ _ _ _ present]
      exact .refused illegalFunction_ne_ok unused
  | some writeWords =>
      cases memory : w.allocates w.mallocs with
      | false =>
          rw [writeRegisters_denied _ _ _ _ _ _ _ present memory]
          exact .refused serverDeviceFailure_ne_ok (asked.withoutOutput _)
      | true =>
          rw [writeRegisters_granted _ _ _ _ _ _ _ present memory]
          by_cases answered : (writeRegistersAnswer writeWords input w).1 = modbusErrorOk
          · have written : (registersWritten writeWords input prependSize appendSize w).Lends w.mallocs := by
              rw [registersWritten]
              have flipped := (asked.withOutput (responseSize 5 prependSize appendSize)).updateRequestRanges
                (fun i => input + 6 + 2 * i) 2 (fun i => swapPair (input + 6 + 2 * i))
                (w.request (input + 5)).toNat
              refine Lends.store (Lends.emit (Lends.emit (Lends.setApp (flipped.emit ?_) _) ?_) ?_) _ _
              all_goals trivial
            exact .answered answered w.mallocs written
          · exact .holding ⟨answered, _, rfl, by simp⟩

theorem selected_log (unused : w.Unused) (still : ¬ MovesItsBlock callbacks input w) :
    ∃ result, modbusSelectedHandler callbacks input inputSize prependSize appendSize w = .of result ∧
      HandlerLog result := by
  have asked : (w.emit (.access .request input 6)).Unused := unused.emit trivial
  simp only [modbusSelectedHandler]
  simp only [MovesItsBlock] at still
  cases kind : requestKind (w.request input) with
  | readBits => exact ⟨_, rfl, readBit_log _ _ _ _ _ unused⟩
  | readWords => exact ⟨_, rfl, readWord_log _ _ _ _ _ unused⟩
  | writeSingle => exact ⟨_, rfl, writeSingle_log _ _ _ _ _ unused kind⟩
  | writeMultipleRegisters => exact ⟨_, rfl, writeRegisters_log _ _ _ _ _ unused⟩
  | writeMultipleCoils =>
      refine ⟨_, rfl, ?_⟩
      cases present : callbacks.writeBits with
      | none =>
          simp only [writeCoils_absent _ _ _ _ _ _ present]
          exact .refused illegalFunction_ne_ok unused
      | some writeBits =>
          have full : w.allocates w.mallocs = false := by simpa [kind, present] using still
          simp only [writeCoils_denied _ _ _ _ _ _ _ present full]
          exact .refused serverDeviceFailure_ne_ok (asked.withoutOutput _)
  | readWriteMultipleRegisters =>
      by_cases absent : callbacks.readWords = none ∨ callbacks.writeWords = none
      · exact ⟨(_, w), readWrite_absent _ _ _ _ _ _ absent, .refused illegalFunction_ne_ok unused⟩
      · obtain ⟨readable, writable⟩ := words_present callbacks absent
        cases present : callbacks.writeBits with
        | none =>
            exact ⟨(_, w), readWrite_noCoils _ _ _ _ _ _ readable writable present unused.unset,
              .refused illegalFunction_ne_ok unused⟩
        | some writeBits =>
            have full : w.allocates w.mallocs = false := by
              simpa [kind, present, readable, writable] using still
            exact ⟨(_, _), readWrite_denied _ _ _ _ _ _ _ readable writable present full,
              .refused serverDeviceFailure_ne_ok (asked.withoutOutput _)⟩
  | other => exact ⟨(_, w), rfl, .refused illegalFunction_ne_ok unused⟩

end Handlers

section Requests

variable (callbacks : ModbusCallbacks σ) (socket : Int) (dataSize : Nat) (w : World σ)

/-- The response block is freed where it was allocated, and nothing is stored behind it. -/
structure KeepsToItsBlock : Prop where
  inPlace : dataSize < 8 ∨ ¬ FailsHoldingResponse callbacks 7 7 w ∧ ¬ MovesItsBlock callbacks 7 w
  inside : StaysInBuffers callbacks socket dataSize w

variable {w}

theorem delivered_balanced {request : Memory} {id : Nat} {final : World σ} (lends : final.Lends id)
    (contained : (delivered socket request ⟨id, 0⟩ final).Contained) :
    Balanced (delivered socket request ⟨id, 0⟩ final).log := by
  obtain ⟨early, late, split, idle, inside⟩ := lends.oneBlock
  let more : List Event := [.access (.block id) 0 7, .access (.block id) 0 final.outputSize.toNat,
    .send socket (readRange ((delivered socket request ⟨id, 0⟩ final).heap id) 0 final.outputSize.toNat)]
  have log : (delivered socket request ⟨id, 0⟩ final).log =
      early ++ .malloc (final.blockSize id) (some id) :: ((late ++ more) ++ [.free ⟨id, 0⟩]) := by
    simp [split, more]
  have within (event : Event) (member : event ∈ late ++ more) : event.within final.blockSize :=
    contained event (log ▸ List.mem_append_right _ (List.mem_cons_of_mem _ (List.mem_append_left _ member)))
  rw [log]
  refine .block _ _ idle fun event member => ?_
  have ownBlock : event.Idle ∨ ∃ offset length, event = .access (.block id) offset length := by
    rcases List.mem_append.mp member with inLate | inMore
    · exact inside event inLate
    · simp only [more, List.mem_cons, List.not_mem_nil, or_false] at inMore
      rcases inMore with rfl | rfl | rfl <;> simp
  rcases ownBlock with still | ⟨offset, length, rfl⟩
  · exact .inl still
  · exact .inr ⟨offset, length, rfl, by simpa using within _ member⟩

theorem tcp_balanced (keeps : KeepsToItsBlock callbacks socket dataSize w) :
    Balanced (modbusTcpHandleRequest callbacks socket dataSize w.quiet).world.log := by
  obtain ⟨inPlace, inside⟩ := keeps
  by_cases short : dataSize < 8
  · rw [tcp_short callbacks socket dataSize w.quiet short]
    exact .idle (by simp)
  · have enough : 8 ≤ dataSize := by omega
    obtain ⟨notHolding, still⟩ := inPlace.resolve_left short
    have start : (dispatched w.quiet).Unused := ⟨rfl, by simp⟩
    rw [StaysInBuffers] at inside
    obtain ⟨⟨ret, final⟩, selected, handlerLog⟩ :=
      selected_log callbacks 7 (dataSize - 7) 7 0 start still
    have ends : tcpHandled callbacks dataSize w.quiet = .returned ret final := selected
    rcases handlerLog with ⟨answered, id, lends⟩ | ⟨refused, unused⟩ | failed
    · rw [tcp_answered enough ends answered lends.pointer lends.taken] at inside ⊢
      exact delivered_balanced socket lends inside
    · cases memory : final.allocates final.mallocs with
      | true =>
          rw [tcp_reported enough ends refused unused.unset memory] at inside ⊢
          exact delivered_balanced socket ((unused.withOutput _).store _ _) inside
      | false =>
          rw [tcp_unreported enough ends refused unused.unset memory]
          refine .idle ?_
          simpa [or_imp, forall_and] using unused.idle
    · rw [← selected] at failed
      exact absurd ((tcpHandled_failedHolding callbacks dataSize w.quiet).mp failed) notHolding

end Requests

/-! The server among the other tasks that use the heap. -/

inductive Turn
  | request (socket : Int) (bytes : List UInt8)
  | other (event : HeapEvent)

def Turn.ofOther : Turn → Option HeapEvent
  | .request _ _ => none
  | .other event => some event

section Turns

variable (layout : Layout) (contents : HeapUse → Event → Nat → BlockLink) (callbacks : ModbusCallbacks σ)

def served (w : World σ) (socket : Int) (bytes : List UInt8) : World σ :=
  (modbusTcpHandleRequest callbacks socket bytes.length (w.receive bytes).quiet).world

def turnStep (state : World σ × Backing) : Turn → World σ × Backing
  | .request socket bytes =>
      let served := served callbacks state.1 socket bytes
      (served, served.log.foldl (backStep layout contents) state.2)
  | .other event => (state.1, { state.2 with state := useStep layout state.2.state event })

/-- A request keeps to its block and is answered by this heap; the others keep to what they hold. -/
def TidyTurn (state : World σ × Backing) : Turn → Prop
  | .request socket bytes =>
      KeepsToItsBlock callbacks socket bytes.length (state.1.receive bytes) ∧
        Throughout (backStep layout contents) (AnsweredByHeap layout) state.2
          (served callbacks state.1 socket bytes).log
  | .other event => Allowed state.2.state event

/-- What the other tasks are answered in a run. -/
def answersToOthers : World σ × Backing → List Turn → List (Option Nat)
  | _, [] => []
  | state, .request socket bytes :: turns =>
      answersToOthers (turnStep layout contents callbacks state (.request socket bytes)) turns
  | state, .other event :: turns => answer layout state.2.state event ::
      answersToOthers (turnStep layout contents callbacks state (.other event)) turns

variable {layout contents callbacks}

theorem turns_unnoticed {turns : List Turn} {use alone : HeapUse} {w : World σ} {pointer : Nat → Nat}
    (sound : Sound layout use) (aloneSound : Sound layout alone) (same : use.held.Perm alone.held)
    (tidy : Throughout (turnStep layout contents callbacks) (TidyTurn layout contents callbacks)
      (w, ⟨some use, pointer⟩) turns) :
    answersToOthers layout contents callbacks (w, ⟨some use, pointer⟩) turns =
        answers layout (some alone) (turns.filterMap Turn.ofOther) ∧
      ∃ final aloneFinal,
        (turns.foldl (turnStep layout contents callbacks) (w, ⟨some use, pointer⟩)).2.state = some final ∧
        (turns.filterMap Turn.ofOther).foldl (useStep layout) (some alone) = some aloneFinal ∧
        final.held.Perm aloneFinal.held := by
  induction turns generalizing use alone w pointer with
  | nil => exact ⟨rfl, use, alone, rfl, rfl, same⟩
  | cons turn turns ih =>
      obtain ⟨here, later⟩ := tidy
      cases turn with
      | request socket bytes =>
          obtain ⟨keeps, answered⟩ := here
          obtain ⟨next, reached, nextSound, held⟩ :=
            balanced_run (tcp_balanced callbacks socket bytes.length keeps) sound answered
          obtain ⟨after, afterPointer⟩ : ∃ after, turnStep layout contents callbacks
              (w, ⟨some use, pointer⟩) (.request socket bytes) =
                (served callbacks w socket bytes, ⟨some next, after⟩) :=
            ⟨_, Prod.ext rfl (congrArg₂ Backing.mk reached rfl)⟩
          rw [afterPointer] at later
          rw [answersToOthers, List.foldl_cons, afterPointer]
          exact ih nextSound aloneSound (held ▸ same) later
      | other event =>
          obtain ⟨next, aloneNext, returned, aloneReturned, nextSound, aloneNextSound, sameNext, answered⟩ :=
            sound.step_alike aloneSound same here
          simp only [turnStep, returned] at later
          obtain ⟨sameAnswers, final⟩ := ih nextSound aloneNextSound sameNext later
          simp only [answersToOthers, turnStep, List.foldl_cons, List.filterMap_cons, Turn.ofOther,
            answers, returned, aloneReturned, answered, sameAnswers, true_and]
          exact final

instance (blockSize : Nat → Nat) : (event : Event) → Decidable (event.within blockSize)
  | .access area offset length =>
      inferInstanceAs (Decidable (∀ index < length, offset + index < area.size blockSize))
  | .malloc _ _ => isTrue trivial
  | .free _ => isTrue trivial
  | .call _ => isTrue trivial
  | .send _ _ => isTrue trivial
  | .close _ => isTrue trivial

theorem registerWrite_keeps :
    KeepsToItsBlock (acceptingCallbacks Unit) 3 12
      ((World.initial () []).receive [0, 1, 0, 0, 0, 6, 1, 6, 0, 0, 0, 5]) where
  inPlace := by
    have single : requestKind
        (((World.initial () []).receive [0, 1, 0, 0, 0, 6, 1, 6, 0, 0, 0, 5]).request 7) =
          .writeSingle := by decide
    exact .inr ⟨by simp [FailsHoldingResponse, single], by simp [MovesItsBlock, single]⟩
  inside := by
    unfold StaysInBuffers Contained
    decide +kernel

end Turns

end SpeFramework
