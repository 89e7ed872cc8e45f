import SpeFramework.Modbus.Dispatch
import SpeFramework.Modbus.Serving

/-!
Coils over runs of requests. On the wire the first coil of a byte is its least significant
bit, in the callbacks' layout its most significant one. Multiple writes and reads reverse
the bits of their bytes; the single write hands its coil over without.
-/

namespace SpeFramework

open RangeStore ByteOrder World

variable {σ : Type} (callbacks : ModbusCallbacks σ) (coils : σ → Nat → Bool)

/-! Reversing the bits of its bytes takes one layout to the other. -/

theorem getD_map_flip (bytes : List UInt8) (index : Nat) :
    (bytes.map modbusFlipByteBits).getD index 0 = modbusFlipByteBits (bytes.getD index 0) := by
  have zero : modbusFlipByteBits 0 = 0 := by decide
  simp only [List.getD_eq_getElem?_getD, List.getElem?_map]
  cases bytes[index]? with
  | none => exact zero.symm
  | some byte => rfl

theorem msbFirst_map_flip (bytes : List UInt8) (bit : Nat) :
    msbFirst (bytes.map modbusFlipByteBits) bit = lsbFirst bytes bit := by
  rw [msbFirst, lsbFirst, getD_map_flip, modbusFlipByteBits_testBit _ _ (by omega)]
  congr 1
  omega

theorem lsbFirst_map_flip (bytes : List UInt8) (bit : Nat) :
    lsbFirst (bytes.map modbusFlipByteBits) bit = msbFirst bytes bit := by
  rw [msbFirst, lsbFirst, getD_map_flip, modbusFlipByteBits_testBit _ _ (by omega)]

def firstBits (layout : List UInt8 → Nat → Bool) (bytes : List UInt8) (count : Nat) : List Bool :=
  (List.range count).map (layout bytes)

/-- The application keeps coils in the layout of the bit callbacks: a write stores the coils it
is handed, a read returns them, and both answer OK. -/
structure FaithfulCoils : Prop where
  writes : ∃ writeBits, callbacks.writeBits = some writeBits ∧
    ∀ code address quantity data app, data.length = bytesForBits quantity.toNat →
      address.toNat + quantity.toNat ≤ 65536 →
      (writeBits code modbusDataTableCoils address quantity data app).1 = modbusErrorOk ∧
      coils (writeBits code modbusDataTableCoils address quantity data app).2 =
        writeRange (coils app) address.toNat (firstBits msbFirst data quantity.toNat)
  reads : ∃ readBits, callbacks.readBits = some readBits ∧
    ∀ code address quantity app, address.toNat + quantity.toNat ≤ 65536 →
      (readBits code modbusDataTableCoils address quantity app).1 = modbusErrorOk ∧
      (readBits code modbusDataTableCoils address quantity app).2.1.length =
        bytesForBits quantity.toNat ∧
      firstBits msbFirst (readBits code modbusDataTableCoils address quantity app).2.1
        quantity.toNat = readRange (coils app) address.toNat quantity.toNat ∧
      coils (readBits code modbusDataTableCoils address quantity app).2.2 = coils app

section Requests

variable (input : Nat) (request : Memory)

structure ReadsCoils : Prop where
  code : request input = modbusReadCoilsFc
  some : 1 ≤ (bigEndianAt request (input + 3)).toNat
  few : (bigEndianAt request (input + 3)).toNat ≤ 2000
  range : (bigEndianAt request (input + 1)).toNat + (bigEndianAt request (input + 3)).toNat ≤ 65536

structure WritesCoils : Prop where
  code : request input = modbusWriteMultipleCoilsFc
  byteCount : (request (input + 5)).toNat = bytesForBits (bigEndianAt request (input + 3)).toNat
  range : (bigEndianAt request (input + 1)).toNat + (bigEndianAt request (input + 3)).toNat ≤ 65536

structure WritesCoil : Prop where
  code : request input = modbusWriteSingleCoilFc
  value : bigEndianAt request (input + 3) = 0x0000 ∨ bigEndianAt request (input + 3) = 0xFF00

def CoilRequest : Prop :=
  WritesCoil input request ∨ WritesCoils input request ∨ ReadsCoils input request

def SetsCoil : Prop :=
  request input = modbusWriteSingleCoilFc ∧ bigEndianAt request (input + 3) = 0xFF00

/-- The coils a request announces, in the bit order of the wire. -/
def announcedCoils : Option (RangeWrite Bool) :=
  if request input = modbusWriteSingleCoilFc then
    some ⟨(bigEndianAt request (input + 1)).toNat, [bigEndianAt request (input + 3) == 0xFF00]⟩
  else if request input = modbusWriteMultipleCoilsFc then
    some ⟨(bigEndianAt request (input + 1)).toNat,
      firstBits lsbFirst
        (readRange request (input + 6) (bytesForBits (bigEndianAt request (input + 3)).toNat))
        (bigEndianAt request (input + 3)).toNat⟩
  else none

end Requests

section Runs

variable (input : Nat) (prependSize appendSize : UInt8) (w : World σ)

/-- What serving a request writes: nothing where no write is asked of the application. -/
def writtenCoils (w : World σ) (arrival : Arrival) : Option (RangeWrite Bool) :=
  if (callsOf (serve callbacks input prependSize appendSize w arrival).log).any Call.isWrite then
    announcedCoils input arrival.request
  else none

def coilsWrittenBy (earlier : List Arrival) : List (RangeWrite Bool) :=
  writesOf (serve callbacks input prependSize appendSize)
    (writtenCoils callbacks input prependSize appendSize) w earlier

/-- The read gets a response if there is memory for one, and a response has each coil as the
run before it last wrote it. -/
def ReportsLastWritten (earlier : List Arrival) (arrival : Arrival) : Prop :=
  let before := earlier.foldl (serve callbacks input prependSize appendSize) w
  ∃ final, handleNext callbacks input prependSize appendSize before arrival =
      .returned modbusErrorOk final ∧
    (before.allocates before.mallocs = true →
      (responsePdu prependSize appendSize final).head? = some modbusReadCoilsFc) ∧
    ((responsePdu prependSize appendSize final).head? = some modbusReadCoilsFc →
      ∀ coil < (bigEndianAt arrival.request (input + 3)).toNat,
        lsbFirst ((responsePdu prependSize appendSize final).drop 2) coil =
          lastWritten (coils w.app)
            (coilsWrittenBy callbacks input prependSize appendSize w earlier).reverse
            ((bigEndianAt arrival.request (input + 1)).toNat + coil))

theorem writtenCoils_course (arrival : Arrival) (made : List Call)
    (calls : (course callbacks input prependSize (arrived w arrival)).1 = made) :
    writtenCoils callbacks input prependSize appendSize w arrival =
        (if made.any Call.isWrite then announcedCoils input arrival.request else none) ∧
      (serve callbacks input prependSize appendSize w arrival).app =
        stateAfter callbacks made w.app := by
  rw [writtenCoils, serve_calls, serve_app, calls]
  exact ⟨rfl, rfl⟩

end Runs

variable {callbacks coils} (faithful : FaithfulCoils callbacks coils)
  (input : Nat) (prependSize appendSize : UInt8) (w : World σ) (arrival : Arrival)

/-! Serving a request changes the store by what it writes. -/

include faithful

theorem coilCleared_stores (writes : WritesCoil input arrival.request)
    (clears : ¬ SetsCoil input arrival.request) :
    coils (serve callbacks input prependSize appendSize w arrival).app =
      ((writtenCoils callbacks input prependSize appendSize w arrival).map
        (RangeWrite.apply (coils w.app))).getD (coils w.app) := by
  obtain ⟨writeBits, present, stores⟩ := faithful.writes
  have addressBound := (bigEndianAt arrival.request (input + 1)).toNat_lt
  have value : bigEndianAt arrival.request (input + 3) = 0 :=
    writes.value.resolve_right fun sets => clears ⟨writes.code, sets⟩
  have stored := (stores (arrival.request input) (bigEndianAt arrival.request (input + 1)) 1
    [coilData input arrival.request] w.app rfl (by simp; omega)).2
  have kind : requestKind (arrival.request input) = .writeSingle := by
    rw [writes.code]
    decide
  -- the callback is asked before the allocation
  obtain ⟨written, app⟩ := writtenCoils_course callbacks input prependSize appendSize
    w arrival [writeCoilCall input arrival.request] (by
      simp only [course, arrived_request, kind]
      simp only [writes.code, if_true, present, allocatedLast])
  have bit : firstBits msbFirst [coilData input arrival.request] 1 =
      [bigEndianAt arrival.request (input + 3) == 0xFF00] := by
    simp only [coilData, value]
    decide
  have reply := replyTo_writeCoil callbacks input (arrived w arrival) present
  rw [arrived_request, arrived_app] at reply
  rw [written, app, stateAfter_cons, stateAfter_nil, reply]
  simp only [List.any_cons, writeCoilCall, Call.isWrite, Bool.true_or, if_true, announcedCoils,
    writes.code]
  exact stored.trans (by rw [← bit]; rfl)

omit faithful in
theorem coilsHanded_eq (byteCount : (arrival.request (input + 5)).toNat =
    bytesForBits (bigEndianAt arrival.request (input + 3)).toNat) :
    coilsHanded input arrival.request =
      (readRange arrival.request (input + 6)
        (bytesForBits (bigEndianAt arrival.request (input + 3)).toNat)).map modbusFlipByteBits := by
  rw [coilsHanded, flippedBits, ← byteCount, readRange_mapRange]

theorem coilsWrite_stores (writes : WritesCoils input arrival.request) :
    coils (serve callbacks input prependSize appendSize w arrival).app =
      ((writtenCoils callbacks input prependSize appendSize w arrival).map
        (RangeWrite.apply (coils w.app))).getD (coils w.app) := by
  obtain ⟨writeBits, present, stores⟩ := faithful.writes
  have multiple : modbusWriteMultipleCoilsFc ≠ modbusWriteSingleCoilFc := by decide
  have kind : requestKind (arrival.request input) = .writeMultipleCoils := by
    rw [writes.code]
    decide
  cases memory : w.allocates w.mallocs with
  | false =>
      obtain ⟨written, app⟩ := writtenCoils_course callbacks input prependSize
        appendSize w arrival []
        (by simp [course, kind, present, allocatedFirst, memory])
      rw [written, app]
      rfl
  | true =>
      obtain ⟨written, app⟩ := writtenCoils_course callbacks input prependSize appendSize w arrival
        [writeCoilsCall input arrival.request]
        (by simp [course, kind, present, allocatedFirst, memory])
      have handed := coilsHanded_eq input arrival writes.byteCount
      have stored := (stores (arrival.request input) (bigEndianAt arrival.request (input + 1))
        (bigEndianAt arrival.request (input + 3)) (coilsHanded input arrival.request) w.app
        (by simp [handed]) writes.range).2
      have bits : firstBits msbFirst (coilsHanded input arrival.request)
          (bigEndianAt arrival.request (input + 3)).toNat =
            firstBits lsbFirst (readRange arrival.request (input + 6)
              (bytesForBits (bigEndianAt arrival.request (input + 3)).toNat))
              (bigEndianAt arrival.request (input + 3)).toNat := by
        rw [handed]
        exact List.map_congr_left fun bit _ => msbFirst_map_flip _ bit
      have reply := replyTo_writeCoils callbacks input (arrived w arrival) present
      rw [arrived_request, arrived_app] at reply
      rw [written, app, stateAfter_cons, stateAfter_nil, reply]
      simp only [List.any_cons, writeCoilsCall, Call.isWrite, Bool.true_or, if_true, announcedCoils,
        writes.code, multiple, if_false]
      exact stored.trans (by rw [bits]; rfl)

theorem readCoils_keeps (reads : ReadsCoils input arrival.request) :
    coils (serve callbacks input prependSize appendSize w arrival).app =
      ((writtenCoils callbacks input prependSize appendSize w arrival).map
        (RangeWrite.apply (coils w.app))).getD (coils w.app) := by
  obtain ⟨readBits, present, returns⟩ := faithful.reads
  obtain ⟨_, _, _, kept⟩ := returns (arrival.request input)
    (bigEndianAt arrival.request (input + 1)) (bigEndianAt arrival.request (input + 3)) w.app reads.range
  have kind : requestKind (arrival.request input) = .readBits := by
    rw [reads.code]
    decide
  have table : readBitsTable (arrival.request input) = modbusDataTableCoils := by
    rw [reads.code]
    decide
  cases memory : w.allocates w.mallocs with
  | false =>
      obtain ⟨written, app⟩ := writtenCoils_course callbacks input prependSize
        appendSize w arrival []
        (by simp [course, kind, present, allocatedFirst, memory])
      rw [written, app]
      rfl
  | true =>
      obtain ⟨written, app⟩ := writtenCoils_course callbacks input prependSize appendSize w arrival
        [readBitsCall input arrival.request]
        (by simp [course, kind, present, allocatedFirst, memory])
      have reply := replyTo_readBits callbacks input (arrived w arrival) present
      rw [arrived_request, arrived_app] at reply
      rw [written, app, stateAfter_cons, stateAfter_nil, reply]
      simp only [List.any_cons, readBitsCall, Call.isWrite, List.any_nil, Bool.or_self,
        Bool.false_eq_true, if_false]
      rw [← table] at kept
      exact kept

theorem coilRequest_stores
    (allowed : CoilRequest input arrival.request ∧ ¬ SetsCoil input arrival.request) :
    coils (serve callbacks input prependSize appendSize w arrival).app =
      ((writtenCoils callbacks input prependSize appendSize w arrival).map
        (RangeWrite.apply (coils w.app))).getD (coils w.app) := by
  rcases allowed.1 with writes | writes | reads
  · exact coilCleared_stores faithful input prependSize appendSize w arrival writes allowed.2
  · exact coilsWrite_stores faithful input prependSize appendSize w arrival writes
  · exact readCoils_keeps faithful input prependSize appendSize w arrival reads

/-! A read that is answered reports the store. -/

theorem readCoils_reports (reads : ReadsCoils input arrival.request) :
    ∃ final, handleNext callbacks input prependSize appendSize w arrival =
        .returned modbusErrorOk final ∧
      (w.allocates w.mallocs = true →
        (responsePdu prependSize appendSize final).head? = some modbusReadCoilsFc) ∧
      ((responsePdu prependSize appendSize final).head? = some modbusReadCoilsFc →
        firstBits lsbFirst ((responsePdu prependSize appendSize final).drop 2)
            (bigEndianAt arrival.request (input + 3)).toNat =
          readRange (coils w.app) (bigEndianAt arrival.request (input + 1)).toNat
            (bigEndianAt arrival.request (input + 3)).toNat) := by
  obtain ⟨readBits, present, returns⟩ := faithful.reads
  obtain ⟨ok, length, bits, _⟩ := returns (arrival.request input)
    (bigEndianAt arrival.request (input + 1)) (bigEndianAt arrival.request (input + 3)) w.app reads.range
  have kind : requestKind (arrival.request input) = .readBits := by
    rw [reads.code]
    decide
  have table : readBitsTable (arrival.request input) = modbusDataTableCoils := by
    rw [reads.code]
    decide
  rw [← table] at ok length bits
  have answer : (readBitsAnswer readBits input (serving input w arrival)).1 = modbusErrorOk := ok
  have selected {result : UInt8 × World σ}
      (ends : modbusReadBitRequestHandler callbacks input arrival.size prependSize appendSize
        (serving input w arrival) = result) :
      modbusSelectedHandler callbacks input arrival.size prependSize appendSize
        (serving input w arrival) = .of result := by
    simp only [modbusSelectedHandler, serving_request, kind, ends]
  cases memory : w.allocates w.mallocs with
  | false =>
      obtain ⟨final, handled, told⟩ := handleNext_refused _ _ _ _ _ _
        (selected (readBit_denied callbacks input arrival.size prependSize appendSize
          (serving input w arrival) memory)) serverDeviceFailure_ne_ok rfl
      have exceptional :
          (responsePdu prependSize appendSize final).head? ≠ some modbusReadCoilsFc := by
        rcases told with silent | exception
        · simp [silent]
        · rw [exception, reads.code]
          exact ne_of_beq_false rfl
      exact ⟨final, handled, fun granted => absurd granted Bool.false_ne_true,
        fun answered => absurd answered exceptional⟩
  | true =>
      have pdu := readBitsCompleted_pdu input prependSize appendSize (serving input w arrival) readBits
        _ (Nat.le_trans reads.few (by omega)) rfl length
      refine ⟨readBitsCompleted readBits input prependSize appendSize (serving input w arrival),
        handleNext_answered _ _ _ _ _ _ (selected (readBit_completed _ _ _ _ _ _
          (serving input w arrival) memory present answer)), fun _ => ?_, fun _ => ?_⟩
      · rw [pdu, serving_request, reads.code]
        rfl
      · rw [pdu, ← bits]
        exact List.map_congr_left fun bit _ => lsbFirst_map_flip _ bit

theorem readCoils_lastWritten (earlier : List Arrival)
    (allowed : ∀ arrival ∈ earlier,
      CoilRequest input arrival.request ∧ ¬ SetsCoil input arrival.request)
    (reads : ReadsCoils input arrival.request) :
    ReportsLastWritten callbacks coils input prependSize appendSize w earlier arrival := by
  have store := (run_lastWritten
    (serve callbacks input prependSize appendSize) (fun world => coils world.app)
    (writtenCoils callbacks input prependSize appendSize) (fun _ => True)
    (fun arrival => CoilRequest input arrival.request ∧ ¬ SetsCoil input arrival.request)
    (fun _ _ _ _ => trivial)
    (fun world arrival _ allowed => coilRequest_stores faithful input prependSize appendSize
      world arrival allowed) w trivial earlier allowed).2
  obtain ⟨final, handled, granted, bits⟩ := readCoils_reports faithful input prependSize appendSize
    _ arrival reads
  refine ⟨final, handled, granted, fun answered coil bound => ?_⟩
  have bit := congrArg (fun values => values[coil]?) (bits answered)
  rw [store] at bit
  simp only [firstBits, List.getElem?_map, List.getElem?_range bound, readRange_getElem?,
    if_pos bound, Option.map_some, Option.some.injEq] at bit
  exact bit

omit faithful

/-! The application whose state is the coil table. -/

def packByte (table : Nat → Bool) (start : Nat) : UInt8 :=
  UInt8.ofNat (128 * (table start).toNat + 64 * (table (start + 1)).toNat +
    32 * (table (start + 2)).toNat + 16 * (table (start + 3)).toNat + 8 * (table (start + 4)).toNat +
    4 * (table (start + 5)).toNat + 2 * (table (start + 6)).toNat + (table (start + 7)).toNat)

def packCoils (table : Nat → Bool) (address count : Nat) : List UInt8 :=
  (List.range (bytesForBits count)).map fun index => packByte table (address + 8 * index)

def coilTable : ModbusCallbacks (Nat → Bool) where
  readBits := some fun _ _ address quantity table =>
    (modbusErrorOk, packCoils table address.toNat quantity.toNat, table)
  writeBits := some fun _ _ address quantity data table =>
    (modbusErrorOk, writeRange table address.toNat (firstBits msbFirst data quantity.toNat))
  readWords := none
  writeWords := none
  otherFunctions := none

theorem coilBits_le (table : Nat → Bool) (start : Nat) :
    (table start).toNat ≤ 1 ∧ (table (start + 1)).toNat ≤ 1 ∧ (table (start + 2)).toNat ≤ 1 ∧
      (table (start + 3)).toNat ≤ 1 ∧ (table (start + 4)).toNat ≤ 1 ∧
      (table (start + 5)).toNat ≤ 1 ∧ (table (start + 6)).toNat ≤ 1 ∧
      (table (start + 7)).toNat ≤ 1 := by
  simp only [Bool.toNat_le, and_self]

theorem packByte_toNat (table : Nat → Bool) (start : Nat) :
    (packByte table start).toNat = 128 * (table start).toNat + 64 * (table (start + 1)).toNat +
      32 * (table (start + 2)).toNat + 16 * (table (start + 3)).toNat +
      8 * (table (start + 4)).toNat + 4 * (table (start + 5)).toNat +
      2 * (table (start + 6)).toNat + (table (start + 7)).toNat := by
  have bits := coilBits_le table start
  rw [packByte, UInt8.toNat_ofNat', Nat.mod_eq_of_lt]
  omega

theorem packByte_testBit (table : Nat → Bool) (start bit : Nat) (bound : bit < 8) :
    (packByte table start).toNat.testBit (7 - bit) = table (start + bit) := by
  have bits := coilBits_le table start
  have read (coil : Bool) : decide (coil.toNat = 1) = coil := by cases coil <;> rfl
  rw [Nat.testBit_eq_decide_div_mod_eq, packByte_toNat, ← read (table (start + bit)),
    decide_eq_decide]
  match bit, bound with
  | 0, _ | 1, _ | 2, _ | 3, _ | 4, _ | 5, _ | 6, _ | 7, _ =>
      simp only [Nat.reduceSub, Nat.reducePow, Nat.add_zero, Nat.div_one]
      omega

theorem packCoils_msbFirst (table : Nat → Bool) (address count coil : Nat) (bound : coil < count) :
    msbFirst (packCoils table address count) coil = table (address + coil) := by
  have inside : coil / 8 < bytesForBits count := by
    rw [bytesForBits]
    omega
  have place : address + 8 * (coil / 8) + coil % 8 = address + coil := by omega
  rw [msbFirst, packCoils, List.getD_eq_getElem?_getD, List.getElem?_map,
    List.getElem?_range inside, Option.map_some, Option.getD_some,
    packByte_testBit _ _ _ (by omega), place]

theorem coilTable_faithful : FaithfulCoils coilTable id where
  writes := ⟨_, rfl, fun _ _ _ _ _ _ _ => ⟨rfl, rfl⟩⟩
  reads := by
    refine ⟨_, rfl, fun _ address quantity table _ => ⟨rfl, by simp [packCoils], ?_, rfl⟩⟩
    apply List.map_congr_left
    intro coil member
    exact packCoils_msbFirst table address.toNat quantity.toNat coil (List.mem_range.mp member)

def coilArrival (bytes : List UInt8) : Arrival where
  request := writeRange (fun _ => 0) 0 bytes
  size := bytes.length
  heap := fun _ _ => 0

theorem coilTable_run :
    ReportsLastWritten coilTable id 0 7 0 (World.initial (fun _ => false) [])
      [coilArrival [0x0F, 0, 3, 0, 3, 1, 7], coilArrival [0x05, 0, 4, 0, 0]]
      (coilArrival [0x01, 0, 3, 0, 3]) := by
  refine readCoils_lastWritten coilTable_faithful 0 7 0 _ _ _ ?_
    ⟨rfl, by decide, by decide, by decide⟩
  intro arrival member
  simp only [List.mem_cons, List.not_mem_nil, or_false] at member
  rcases member with rfl | rfl
  · exact ⟨.inr (.inl ⟨rfl, by decide, by decide⟩), fun sets => absurd sets.1 (by decide)⟩
  · exact ⟨.inl ⟨rfl, .inl (by decide)⟩, fun sets => absurd sets.2 (by decide)⟩

theorem singleCoil_notSet :
    FaithfulCoils coilTable id ∧ CoilRequest 0 (coilArrival [0x05, 0, 0, 0xFF, 0]).request ∧
      ReadsCoils 0 (coilArrival [0x01, 0, 0, 0, 1]).request ∧
      ¬ ReportsLastWritten coilTable id 0 7 0 (World.initial (fun _ => false) [])
        [coilArrival [0x05, 0, 0, 0xFF, 0]] (coilArrival [0x01, 0, 0, 0, 1]) := by
  refine ⟨coilTable_faithful, .inl ⟨rfl, .inr (by decide)⟩,
    ⟨rfl, by decide, by decide, by decide⟩, ?_⟩
  rintro ⟨final, handled, granted, reports⟩
  have cleared : lsbFirst ((responsePdu 7 0 (handleNext coilTable 0 7 0
      ([coilArrival [0x05, 0, 0, 0xFF, 0]].foldl (serve coilTable 0 7 0)
        (World.initial (fun _ => false) [])) (coilArrival [0x01, 0, 0, 0, 1])).world).drop 2) 0 =
          false := by
    decide +kernel
  have written : lastWritten (fun _ => false)
      (coilsWrittenBy coilTable 0 7 0 (World.initial (fun _ => false) [])
        [coilArrival [0x05, 0, 0, 0xFF, 0]]).reverse 0 = true := by
    decide +kernel
  rw [handled, Outcome.world_returned] at cleared
  have reported := reports (granted (by decide +kernel)) 0 (by decide)
  rw [cleared] at reported
  exact absurd (reported.trans written) Bool.false_ne_true

end SpeFramework
