import SpeFramework.Modbus.Alike

/-!
What a request owes to the bytes that earlier requests left in the receive buffer: nothing,
exactly when the bytes received cover what its handler decides by.
-/

namespace SpeFramework

open RangeStore ByteOrder World

/-- How many bytes of the frame decide what is called and sent. The second value byte of a coil
is no longer looked at when the first one is not zero. -/
def decisiveBytes (request : Memory) : Nat :=
  if request 7 = modbusWriteSingleCoilFc ∧ request 10 ≠ 0 then 11 else 7 + bytesRead 7 request

theorem decisiveBytes_head (request : Memory) : 8 ≤ decisiveBytes request := by
  have positive := bytesRead_positive 7 request
  simp only [decisiveBytes]
  split <;> omega

/-- Whatever the application and whatever lies in the buffer beyond the `received` bytes, the
calls made and the bytes sent are those of `request`. -/
def IgnoresLeftovers (received : Nat) (request : Memory) : Prop :=
  ∀ (σ : Type) (callbacks : ModbusCallbacks σ) (socket : Int) (w : World σ) (leftovers : Memory),
    (∀ cell, cell < received ∨ modbusRecvBufferSize ≤ cell → leftovers cell = request cell) →
    observed (modbusTcpHandleRequest callbacks socket received (w.withRequest leftovers)).world.log =
      observed (modbusTcpHandleRequest callbacks socket received (w.withRequest request)).world.log

theorem AlikeOutcomes.observations {σ ρ : Type} {first second : Outcome σ ρ}
    (alike : AlikeOutcomes first second) :
    observed first.world.log = observed second.world.log := by
  cases first <;> cases second <;> try exact alike.elim
  · exact alike.2.observations
  · exact Alike.observations alike
  · exact Alike.observations alike

/-! A coil's value needs one byte when that byte is not zero: its echo lies under the header. -/

section Coils

variable {σ : Type} (callbacks : ModbusCallbacks σ) (socket : Int) {first second : World σ}

theorem coilData_nonzero (input : Nat) (request : Memory) (nonzero : request (input + 3) ≠ 0) :
    coilData input request = 1 := by
  have some : bigEndianAt request (input + 3) ≠ 0 := by
    intro zero
    have high := congrArg highByte zero
    simp only [bigEndianAt, highByte_wordOfBytes] at high
    exact nonzero high
  simp [coilData, some]

theorem delivered_acknowledged_alike (alike : Alike first second) (request : Memory) :
    Alike (delivered socket request ⟨first.mallocs, 0⟩ (acknowledged 7 7 0 first))
      (delivered socket request ⟨second.mallocs, 0⟩ (acknowledged 7 7 0 second)) where
  app := by simp [alike.app]
  heap := by
    simp only [delivered_heap, acknowledged_heap, acknowledged_outputSize, Function.update_self,
      Function.update_idem, alike.heap, alike.mallocs]
    rw [writeRange_covered _ _ _ _ (by simp), writeRange_covered _ _ _ _ (by simp)]
  blockSize := by simp [alike.blockSize, alike.mallocs]
  readsAllocated := by simp [alike.readsAllocated, alike.mallocs]
  allocates := by simp [alike.allocates]
  mallocs := by simp [alike.mallocs]
  outputBuffer := by simp
  outputSize := by simp
  observations := by
    simp only [delivered_log, acknowledged_log, acknowledged_heap, acknowledged_outputSize,
      Function.update_self, observed_append, alike.observations, alike.heap, alike.mallocs]
    rw [writeRange_covered _ _ _ _ (by simp), writeRange_covered _ _ _ _ (by simp)]

theorem finished_alike (dataSize : Nat) (enough : 8 ≤ dataSize)
    (head : ∀ cell < 8, first.request cell = second.request cell) {firstWritten secondWritten : World σ}
    (written : Alike firstWritten secondWritten) (ret : UInt8)
    (firstEnds : tcpHandled callbacks dataSize first = .of (finishSingle 7 7 0 ret firstWritten))
    (secondEnds : tcpHandled callbacks dataSize second = .of (finishSingle 7 7 0 ret secondWritten)) :
    AlikeOutcomes (modbusTcpHandleRequest callbacks socket dataSize first)
      (modbusTcpHandleRequest callbacks socket dataSize second) := by
  simp only [finishSingle] at firstEnds secondEnds
  by_cases accepted : ret = modbusErrorOk
  · rw [if_pos accepted] at firstEnds secondEnds
    rw [← written.allocates, ← written.mallocs] at secondEnds
    cases memory : firstWritten.allocates firstWritten.mallocs with
    | true =>
        rw [if_pos memory] at firstEnds secondEnds
        rw [tcp_answered enough firstEnds rfl rfl (by simp),
          tcp_answered enough secondEnds rfl rfl (by simp)]
        have sent := delivered_acknowledged_alike socket written first.request
        have header (size : UInt16) : responseHeader first.request size =
            responseHeader second.request size :=
          responseHeader_alike size fun cell bound => head cell (by omega)
        simp only [delivered, completed, header] at sent ⊢
        exact ⟨rfl, sent⟩
    | false =>
        rw [memory] at firstEnds secondEnds
        refine tcp_alike callbacks socket dataSize enough head ?_
        rw [firstEnds, secondEnds]
        exact ⟨rfl, written.withoutOutput _⟩
  · rw [if_neg accepted] at firstEnds secondEnds
    refine tcp_alike callbacks socket dataSize enough head ?_
    rw [firstEnds, secondEnds]
    exact ⟨rfl, written⟩

theorem coil_alike (dataSize : Nat) (enough : 8 ≤ dataSize) (alike : Alike first second)
    (isCoil : first.request 7 = modbusWriteSingleCoilFc) (nonzero : first.request 10 ≠ 0)
    (agree : ∀ cell < 11, first.request cell = second.request cell) :
    AlikeOutcomes (modbusTcpHandleRequest callbacks socket dataSize first)
      (modbusTcpHandleRequest callbacks socket dataSize second) := by
  have isCoil' : second.request 7 = modbusWriteSingleCoilFc := agree 7 (by omega) ▸ isCoil
  have dispatchedAlike : Alike (dispatched first) (dispatched second) :=
    (((alike.setOutput none).setOutputSize 0).emit _).emit _
  have head : ∀ cell < 8, first.request cell = second.request cell := fun cell bound =>
    agree cell (by omega)
  have kind : requestKind modbusWriteSingleCoilFc = .writeSingle := by decide
  have firstEnds := tcpHandled_eq callbacks dataSize first
  have secondEnds := tcpHandled_eq callbacks dataSize second
  rw [isCoil, kind] at firstEnds
  rw [isCoil', kind] at secondEnds
  cases present : callbacks.writeBits with
  | none =>
      refine tcp_alike callbacks socket dataSize enough head ?_
      rw [firstEnds, secondEnds]
      simp only [
        writeSingle_coil_absent callbacks 7 (dataSize - 7) 7 0 (dispatched first) isCoil present,
        writeSingle_coil_absent callbacks 7 (dataSize - 7) 7 0 (dispatched second) isCoil' present]
      exact ⟨rfl, dispatchedAlike.emit _⟩
  | some writeBits =>
      have address : bigEndianAt first.request 8 = bigEndianAt second.request 8 := by
        rw [bigEndianAt, bigEndianAt, agree 8 (by omega), agree 9 (by omega)]
      have data : coilData 7 first.request = coilData 7 second.request := by
        rw [coilData_nonzero 7 _ nonzero, coilData_nonzero 7 _ (agree 10 (by omega) ▸ nonzero)]
      have answer : writeCoilAnswer 7 (dispatched first) writeBits =
          writeCoilAnswer 7 (dispatched second) writeBits := by
        simp only [writeCoilAnswer, dispatched_request, dispatched_app, isCoil, isCoil', address, data,
          alike.app]
      have written : Alike (coilWritten 7 (dispatched first) writeBits)
          (coilWritten 7 (dispatched second) writeBits) := by
        simp only [coilWritten, answer, dispatched_request, isCoil, isCoil', address, data]
        exact ((dispatchedAlike.emit _).setApp _).emit _
      simp only [writeSingle_coil callbacks 7 (dataSize - 7) 7 0 (dispatched first) isCoil present,
        answer] at firstEnds
      simp only [writeSingle_coil callbacks 7 (dataSize - 7) 7 0 (dispatched second) isCoil' present]
        at secondEnds
      exact finished_alike callbacks socket dataSize enough head written _ firstEnds secondEnds

theorem tcp_decided_alike (dataSize : Nat) (enough : 8 ≤ dataSize) (alike : Alike first second)
    (agree : ∀ cell < decisiveBytes first.request, first.request cell = second.request cell) :
    AlikeOutcomes (modbusTcpHandleRequest callbacks socket dataSize first)
      (modbusTcpHandleRequest callbacks socket dataSize second) := by
  by_cases coilValue : first.request 7 = modbusWriteSingleCoilFc ∧ first.request 10 ≠ 0
  · rw [decisiveBytes, if_pos coilValue] at agree
    exact coil_alike callbacks socket dataSize enough alike coilValue.1 coilValue.2 agree
  · rw [decisiveBytes, if_neg coilValue] at agree
    have positive := bytesRead_positive 7 first.request
    exact tcp_alike callbacks socket dataSize enough (fun cell bound => agree cell (by omega))
      (tcpHandled_alike callbacks dataSize alike fun index bound => agree (7 + index) (by omega))

end Coils

/-! The first call a request leads to, and how it changes with one byte of the request. -/

def firstCall (log : List Event) : Option Call :=
  log.findSome? fun event => match event with
    | .call made => some made
    | _ => none

@[simp] theorem firstCall_append (first second : List Event) :
    firstCall (first ++ second) = (firstCall first).or (firstCall second) := by
  simp [firstCall, List.findSome?_append]

@[simp] theorem firstCall_nil : firstCall [] = none := rfl

@[simp] theorem firstCall_cons (event : Event) (log : List Event) :
    firstCall (event :: log) = match event with
      | .call made => some made
      | _ => firstCall log := by
  cases event <;> rfl

@[simp] theorem firstCall_accesses {α : Type} (items : List α) (area : Area) (offset : α → Nat)
    (length : Nat) : firstCall (items.map fun item => .access area (offset item) length) = none := by
  induction items with
  | nil => rfl
  | cons item items ih => simpa using ih

theorem firstCall_observed (log : List Event) : firstCall (observed log) = firstCall log := by
  induction log with
  | nil => rfl
  | cons event log ih =>
      simp only [observed, List.filter_cons] at ih ⊢
      cases event <;> simp [Event.observable, ih]

def requested (request : Memory) : Option Call :=
  let code := request 7
  let address := bigEndianAt request 8
  let quantity := bigEndianAt request 10
  match requestKind code with
  | .readBits => some (.readBits code (readBitsTable code) address quantity)
  | .readWords => some (.readWords code (readWordsTable code) address quantity)
  | .writeSingle =>
      if code = modbusWriteSingleCoilFc then
        some (.writeBits code modbusDataTableCoils address 1 [coilData 7 request])
      else some (.writeWords code modbusDataTableHoldingRegisters address 1 [quantity])
  | .writeMultipleRegisters =>
      some (.writeWords code modbusDataTableHoldingRegisters address quantity
        (registersHanded 7 request))
  | .writeMultipleCoils | .readWriteMultipleRegisters =>
      some (.writeBits code modbusDataTableCoils address quantity (coilsHanded 7 request))
  | .other => none

section Accepted

variable (dataSize : Nat) (w : World Unit)

theorem tcp_answered_firstCall (enough : 8 ≤ dataSize) (sendBuffer : Pointer) (final : World Unit)
    (ends : tcpHandled (acceptingCallbacks Unit) dataSize w = .returned modbusErrorOk final)
    (held : final.outputBuffer = some sendBuffer) :
    firstCall (modbusTcpHandleRequest (acceptingCallbacks Unit) 0 dataSize w).world.log =
      firstCall final.log := by
  rw [tcp_answered_log enough ends rfl held]
  simp

theorem accepted_firstCall (enough : 8 ≤ dataSize) (granting : ∀ index, w.allocates index = true)
    (quiet : w.log = []) (selected : requestKind (w.request 7) ≠ .other) :
    firstCall (modbusTcpHandleRequest (acceptingCallbacks Unit) 0 dataSize w).world.log =
      requested w.request := by
  have ends := tcpHandled_eq (acceptingCallbacks Unit) dataSize w
  have memory : (dispatched w).allocates (dispatched w).mallocs = true := granting _
  simp only [requested]
  cases kind : requestKind (w.request 7) with
  | readBits =>
      simp only [kind, readBit_completed (acceptingCallbacks Unit) _ 7 (dataSize - 7) 7 0
        (dispatched w) memory rfl rfl] at ends
      rw [tcp_answered_firstCall dataSize w enough _ _ ends rfl]
      simp [quiet]
  | readWords =>
      simp only [kind, readWord_completed (acceptingCallbacks Unit) _ 7 (dataSize - 7) 7 0
        (dispatched w) memory rfl rfl] at ends
      rw [tcp_answered_firstCall dataSize w enough _ _ ends rfl]
      simp [quiet]
  | writeSingle =>
      rcases writeSingle_code 7 w kind with isCoil | isRegister
      · simp only [kind, writeSingle_coil (acceptingCallbacks Unit) 7 (dataSize - 7) 7 0 (dispatched w)
          isCoil rfl] at ends
        replace ends := ends.trans (congrArg Outcome.of (finishSingle_granted 7 7 0 _ memory))
        rw [tcp_answered_firstCall dataSize w enough _ _ ends rfl]
        simp [quiet, isCoil]
      · simp only [kind, writeSingle_register (acceptingCallbacks Unit) 7 (dataSize - 7) 7 0
          (dispatched w) isRegister rfl] at ends
        replace ends := ends.trans (congrArg Outcome.of (finishSingle_granted 7 7 0 _ memory))
        rw [tcp_answered_firstCall dataSize w enough _ _ ends rfl]
        have notCoil : modbusWriteSingleRegisterFc ≠ modbusWriteSingleCoilFc := by decide
        simp [quiet, isRegister, notCoil]
  | writeMultipleRegisters =>
      simp only [kind, writeRegisters_granted (acceptingCallbacks Unit) _ 7 (dataSize - 7) 7 0
        (dispatched w) rfl memory] at ends
      rw [tcp_answered_firstCall dataSize w enough _ _ ends rfl]
      simp [quiet]
  | writeMultipleCoils =>
      simp only [kind, writeCoils_granted (acceptingCallbacks Unit) _ 7 (dataSize - 7) 7 0
        (dispatched w) rfl memory] at ends
      rw [tcp_answered_firstCall dataSize w enough _ _ ends rfl]
      simp [quiet]
  | readWriteMultipleRegisters =>
      simp only [kind, readWrite_stopped (acceptingCallbacks Unit) _ 7 (dataSize - 7) 7 0
        (dispatched w) rfl rfl rfl memory (movedFreeable_seven _)] at ends
      rw [tcp_halted enough ends]
      simp [quiet]
  | other => exact absurd kind selected

end Accepted

section Touched

variable (request : Memory) (cell : Nat)

def touched : Memory := Function.update request cell (request cell + 1)

theorem touched_here : touched request cell cell ≠ request cell := by
  simp [touched]

theorem touched_elsewhere (other : Nat) (elsewhere : other ≠ cell) :
    touched request cell other = request other :=
  Function.update_of_ne elsewhere _ _

theorem bigEndianAt_touched (start : Nat) (here : cell = start ∨ cell = start + 1) :
    bigEndianAt (touched request cell) start ≠ bigEndianAt request start := by
  intro same
  obtain ⟨high, low⟩ := wordOfBytes_inj same
  rcases here with rfl | rfl
  · exact touched_here request _ high
  · exact touched_here request _ low

theorem littleEndianAt_touched (start : Nat) (here : cell = start ∨ cell = start + 1) :
    littleEndianAt (touched request cell) start ≠ littleEndianAt request start := by
  intro same
  obtain ⟨high, low⟩ := wordOfBytes_inj same
  rcases here with rfl | rfl
  · exact touched_here request _ low
  · exact touched_here request _ high

theorem requested_touchedHead (selected : requestKind (request 7) ≠ .other) (lower : 8 ≤ cell)
    (upper : cell < 12) (coil : request 7 = modbusWriteSingleCoilFc → cell < 10) :
    requested (touched request cell) ≠ requested request := by
  have code : touched request cell 7 = request 7 := touched_elsewhere request cell 7 (by omega)
  have changed : bigEndianAt (touched request cell) 8 ≠ bigEndianAt request 8 ∨
      bigEndianAt (touched request cell) 10 ≠ bigEndianAt request 10 ∧
        request 7 ≠ modbusWriteSingleCoilFc := by
    by_cases first : cell < 10
    · exact .inl (bigEndianAt_touched request cell 8 (by omega))
    · exact .inr ⟨bigEndianAt_touched request cell 10 (by omega), fun isCoil => first (coil isCoil)⟩
  intro same
  simp only [requested, code] at same
  cases kind : requestKind (request 7) with
  | readBits => simp_all
  | readWords => simp_all
  | writeSingle => by_cases isCoil : request 7 = modbusWriteSingleCoilFc <;> simp_all
  | writeMultipleRegisters => simp_all
  | writeMultipleCoils => simp_all
  | readWriteMultipleRegisters => simp_all
  | other => exact selected kind

theorem registersHanded_touched (lower : 13 ≤ cell)
    (upper : cell < 13 + 2 * (bigEndianAt request 10).toNat) :
    registersHanded 7 (touched request cell) ≠ registersHanded 7 request := by
  intro same
  have quantity : bigEndianAt (touched request cell) 10 = bigEndianAt request 10 := by
    rw [bigEndianAt, bigEndianAt, touched_elsewhere request cell 10 (by omega),
      touched_elsewhere request cell 11 (by omega)]
  have word := congrArg (fun words => words[(cell - 13) / 2]?) same
  have bound : (cell - 13) / 2 < (bigEndianAt request 10).toNat := by omega
  simp only [registersHanded_getElem?, quantity, bound, if_true, Option.some.injEq,
    touched_elsewhere request cell 12 (by omega)] at word
  have place : cell = 7 + 6 + 2 * ((cell - 13) / 2) ∨ cell = 7 + 6 + 2 * ((cell - 13) / 2) + 1 := by
    omega
  split at word
  · exact bigEndianAt_touched request cell _ place word
  · exact littleEndianAt_touched request cell _ place word

theorem coilsHanded_touched (lower : 13 ≤ cell)
    (upper : cell < 13 + bytesForBits (bigEndianAt request 10).toNat) :
    coilsHanded 7 (touched request cell) ≠ coilsHanded 7 request := by
  intro same
  have quantity : bigEndianAt (touched request cell) 10 = bigEndianAt request 10 := by
    rw [bigEndianAt, bigEndianAt, touched_elsewhere request cell 10 (by omega),
      touched_elsewhere request cell 11 (by omega)]
  have byte := congrArg (fun bytes => bytes[cell - 13]?) same
  have bound : cell - 13 < bytesForBits (bigEndianAt request 10).toNat := by omega
  have place : 7 + 6 + (cell - 13) = cell := by omega
  simp only [coilsHanded_getElem?, quantity, bound, if_true, Option.some.injEq, place,
    touched_elsewhere request cell 12 (by omega)] at byte
  split at byte
  · have flipped := congrArg modbusFlipByteBits byte
    simp only [modbusFlipByteBits_flip] at flipped
    exact touched_here request cell flipped
  · exact touched_here request cell byte

theorem requested_touchedData (lower : 13 ≤ cell) (upper : cell < 7 + bytesRead 7 request) :
    requested (touched request cell) ≠ requested request := by
  have code : touched request cell 7 = request 7 := touched_elsewhere request cell 7 (by omega)
  intro same
  simp only [requested, code] at same
  simp only [bytesRead, Nat.reduceAdd] at upper
  cases kind : requestKind (request 7) with
  | writeMultipleRegisters =>
      simp only [kind] at same upper
      have data : cell < 13 + 2 * (bigEndianAt request 10).toNat := by
        split at upper <;> omega
      injection same with same
      injection same with _ _ _ _ handed
      exact registersHanded_touched request cell lower data handed
  | writeMultipleCoils | readWriteMultipleRegisters =>
      simp only [kind] at same upper
      have data : cell < 13 + bytesForBits (bigEndianAt request 10).toNat := by
        split at upper <;> omega
      injection same with same
      injection same with _ _ _ _ handed
      exact coilsHanded_touched request cell lower data handed
  | _ =>
      simp only [kind] at upper
      omega

/-- A coil's value with the other truth value, told apart by its second byte alone. -/
def coilInverted : Memory :=
  Function.update (Function.update request 10 0) 11 (if bigEndianAt request 10 = 0 then 1 else 0)

theorem requested_coilInverted (isCoil : request 7 = modbusWriteSingleCoilFc) :
    requested (coilInverted request) ≠ requested request := by
  have code : coilInverted request 7 = request 7 := by simp [coilInverted]
  have kind : requestKind modbusWriteSingleCoilFc = .writeSingle := by decide
  have high : coilInverted request 10 = 0 := by simp [coilInverted]
  have low : coilInverted request 11 = if bigEndianAt request 10 = 0 then 1 else 0 := by
    simp [coilInverted]
  have value : bigEndianAt (coilInverted request) 10 =
      if bigEndianAt request 10 = 0 then 1 else 0 := by
    change wordOfBytes (coilInverted request 10) (coilInverted request 11) = _
    rw [high, low]
    split <;> rfl
  intro same
  simp only [requested, code, isCoil, kind, if_true, Option.some.injEq, Call.writeBits.injEq,
    List.cons.injEq, coilData, Nat.reduceAdd, value] at same
  have data := same.2.2.2.2.1
  split at data <;> simp_all

end Touched

theorem bytesRead_gap (input : Nat) (request : Memory) :
    bytesRead input request ≤ 5 ∨ 7 ≤ bytesRead input request := by
  simp only [bytesRead, bytesForBits]
  split <;> first | split | skip
  all_goals omega

theorem requested_differs (request : Memory) (received : Nat) (head : 8 ≤ received)
    (missing : received < decisiveBytes request) (inside : received < modbusRecvBufferSize) :
    ∃ leftovers : Memory, (∀ cell, cell < received ∨ modbusRecvBufferSize ≤ cell →
        leftovers cell = request cell) ∧ requested leftovers ≠ requested request := by
  have buffer : modbusRecvBufferSize = 64 := rfl
  have selected : requestKind (request 7) ≠ .other := by
    intro other
    have notCoil : request 7 ≠ modbusWriteSingleCoilFc := by
      intro isCoil
      rw [isCoil] at other
      exact absurd other (by decide)
    simp only [decisiveBytes, notCoil, false_and, if_false, bytesRead, other] at missing
    omega
  by_cases coilValue : request 7 = modbusWriteSingleCoilFc ∧ 10 ≤ received
  · obtain ⟨isCoil, beyond⟩ := coilValue
    refine ⟨coilInverted request, fun cell outside => ?_, requested_coilInverted request isCoil⟩
    have kind : requestKind modbusWriteSingleCoilFc = .writeSingle := by decide
    simp only [decisiveBytes, bytesRead, isCoil, kind, true_and] at missing
    by_cases second : cell = 10
    · subst second
      have zero : request 10 = 0 := by
        by_contra nonzero
        rw [if_pos nonzero] at missing
        omega
      simp [coilInverted, zero]
    · have notLow : cell ≠ 11 := by
        split at missing <;> omega
      simp [coilInverted, second, notLow]
  · by_cases early : received < 12
    · refine ⟨touched request received, fun cell outside => touched_elsewhere _ _ _ (by omega),
        requested_touchedHead request received selected head early fun isCoil => ?_⟩
      by_contra late
      exact coilValue ⟨isCoil, by omega⟩
    · have notCoil : request 7 ≠ modbusWriteSingleCoilFc := fun isCoil => coilValue ⟨isCoil, by omega⟩
      simp only [decisiveBytes, notCoil, false_and, if_false] at missing
      refine ⟨touched request (max received 13), fun cell outside => touched_elsewhere _ _ _ (by omega),
        requested_touchedData request _ (by omega) ?_⟩
      have gap := bytesRead_gap 7 request
      omega

theorem handleRequest_ignoresLeftovers_iff (received : Nat) (request : Memory) :
    IgnoresLeftovers received request ↔
      received < 8 ∨ min (decisiveBytes request) modbusRecvBufferSize ≤ received := by
  have buffer : modbusRecvBufferSize = 64 := rfl
  by_cases short : received < 8
  · refine iff_of_true (fun σ callbacks socket w leftovers _ => ?_) (.inl short)
    rw [tcp_short _ _ _ _ short, tcp_short _ _ _ _ short]
    rfl
  have head : 8 ≤ received := by omega
  rw [or_iff_right short]
  constructor
  · intro ignores
    by_contra missing
    obtain ⟨leftovers, agree, differs⟩ :=
      requested_differs request received head (by omega) (by omega)
    have code : leftovers 7 = request 7 := agree 7 (by omega)
    have selected : requestKind (request 7) ≠ .other := by
      intro other
      simp [requested, other, code] at differs
    have same := congrArg firstCall
      (ignores Unit (acceptingCallbacks Unit) 0 (World.initial () []) leftovers agree)
    rw [firstCall_observed, firstCall_observed,
      accepted_firstCall _ _ head (fun _ => rfl) rfl (by rw [withRequest_request, code]; exact selected),
      accepted_firstCall _ _ head (fun _ => rfl) rfl selected] at same
    exact differs same
  · intro enough σ callbacks socket w leftovers agree
    by_cases whole : modbusRecvBufferSize ≤ received
    · have same : leftovers = request := funext fun cell => agree cell (by omega)
      rw [same]
    · have decided : decisiveBytes request ≤ received := by omega
      have agree' : ∀ cell < decisiveBytes request, request cell = leftovers cell :=
        fun cell bound => (agree cell (by omega)).symm
      have alike : Alike (w.withRequest request) (w.withRequest leftovers) :=
        ⟨rfl, rfl, rfl, rfl, rfl, rfl, rfl, rfl, rfl⟩
      exact (tcp_decided_alike callbacks socket received head alike agree').observations.symm

/-! A register write of which only the function code was received: the address and the value
are whatever an earlier request left there. -/

theorem shortWrite_usesLeftovers :
    ¬ IgnoresLeftovers 8 (writeRange (fun _ => 0) 0 [0, 1, 0, 0, 0, 2, 1, 0x06]) := by
  intro ignores
  have same := ignores Unit (acceptingCallbacks Unit) 0 (World.initial () [])
    (Function.update (writeRange (fun _ => 0) 0 [0, 1, 0, 0, 0, 2, 1, 0x06]) 8 1)
    fun cell outside => Function.update_of_ne (by
      have buffer : modbusRecvBufferSize = 64 := rfl
      omega) _ _
  exact absurd same (by decide +kernel)

end SpeFramework
