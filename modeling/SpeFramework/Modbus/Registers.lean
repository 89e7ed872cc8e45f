import SpeFramework.Modbus.Serving

/-!
Holding registers over runs of requests. A single write hands over an assembled word, a
multiple write swaps the bytes of its data in the request, a read swaps those of the words
it is given; together they report the words last written.
-/

namespace SpeFramework

open RangeStore ByteOrder World

variable {σ : Type} (callbacks : ModbusCallbacks σ) (registers : σ → Nat → UInt16)

/-- The application keeps holding registers: a write stores the words it is handed at
consecutive addresses, a read returns them, and both answer OK. -/
structure FaithfulRegisters : Prop where
  writes : ∃ writeWords, callbacks.writeWords = some writeWords ∧
    ∀ code address quantity data app, data.length = quantity.toNat →
      address.toNat + quantity.toNat ≤ 65536 →
      (writeWords code modbusDataTableHoldingRegisters address quantity data app).1 = modbusErrorOk ∧
      registers (writeWords code modbusDataTableHoldingRegisters address quantity data app).2 =
        writeRange (registers app) address.toNat data
  reads : ∃ readWords, callbacks.readWords = some readWords ∧
    ∀ code address quantity app, address.toNat + quantity.toNat ≤ 65536 →
      (readWords code modbusDataTableHoldingRegisters address quantity app).1 = modbusErrorOk ∧
      (readWords code modbusDataTableHoldingRegisters address quantity app).2.1 =
        readRange (registers app) address.toNat quantity.toNat ∧
      registers (readWords code modbusDataTableHoldingRegisters address quantity app).2.2 =
        registers app

section Requests

variable (input : Nat) (request : Memory)

structure ReadsRegisters : Prop where
  code : request input = modbusReadHoldingRegistersFc
  some : 1 ≤ (bigEndianAt request (input + 3)).toNat
  few : (bigEndianAt request (input + 3)).toNat ≤ 125
  range : (bigEndianAt request (input + 1)).toNat + (bigEndianAt request (input + 3)).toNat ≤ 65536

structure WritesRegisters : Prop where
  code : request input = modbusWriteMultipleRegistersFc
  some : 1 ≤ (bigEndianAt request (input + 3)).toNat
  few : (bigEndianAt request (input + 3)).toNat ≤ 123
  byteCount : (request (input + 5)).toNat = 2 * (bigEndianAt request (input + 3)).toNat
  range : (bigEndianAt request (input + 1)).toNat + (bigEndianAt request (input + 3)).toNat ≤ 65536

def RegisterRequest : Prop :=
  request input = modbusWriteSingleRegisterFc ∨ WritesRegisters input request ∨
    ReadsRegisters input request

def announcedRegisters : Option (RangeWrite UInt16) :=
  if request input = modbusWriteSingleRegisterFc then
    some ⟨(bigEndianAt request (input + 1)).toNat, [bigEndianAt request (input + 3)]⟩
  else if request input = modbusWriteMultipleRegistersFc then
    some ⟨(bigEndianAt request (input + 1)).toNat,
      bigEndianWords request (input + 6) (bigEndianAt request (input + 3)).toNat⟩
  else none

end Requests

variable {callbacks registers} (faithful : FaithfulRegisters callbacks registers)
  (input : Nat) (prependSize appendSize : UInt8) (w : World σ) (arrival : Arrival)

include faithful

theorem singleWrite_stores (granting : Granting w)
    (code : arrival.request input = modbusWriteSingleRegisterFc) :
    ∃ final, handleNext callbacks input prependSize appendSize w arrival =
        .returned modbusErrorOk final ∧ Granting final ∧
      registers final.app = writeRange (registers w.app) (bigEndianAt arrival.request (input + 1)).toNat
        [bigEndianAt arrival.request (input + 3)] := by
  obtain ⟨writeWords, present, stores⟩ := faithful.writes
  have addressBound := (bigEndianAt arrival.request (input + 1)).toNat_lt
  obtain ⟨ok, stored⟩ := stores (arrival.request input) (bigEndianAt arrival.request (input + 1)) 1
    [bigEndianAt arrival.request (input + 3)] w.app rfl (by simp; omega)
  have kind : requestKind (arrival.request input) = .writeSingle := by
    rw [code]
    decide
  have answer : (writeRegisterAnswer input (serving input w arrival) writeWords).1 = modbusErrorOk := ok
  have ends := finishSingle_granted input prependSize appendSize
    (registerWritten input (serving input w arrival) writeWords) (granting w.mallocs)
  refine ⟨acknowledged input prependSize appendSize
    (registerWritten input (serving input w arrival) writeWords), handleNext_answered _ _ _ _ _ _ ?_,
    fun index => granting index, stored⟩
  simp only [modbusSelectedHandler, serving_request, kind]
  rw [writeSingle_register _ _ _ _ _ (serving input w arrival) code present, answer, ends]
  rfl

omit faithful in
/-- The loop over the data counts bytes and swaps words, so it swaps at least all words. -/
theorem registersHanded_eq (byteCount : (arrival.request (input + 5)).toNat =
    2 * (bigEndianAt arrival.request (input + 3)).toNat) :
    registersHanded input arrival.request =
      bigEndianWords arrival.request (input + 6) (bigEndianAt arrival.request (input + 3)).toNat :=
  littleEndianWords_swapPairs arrival.request (input + 6) _ _ (by omega)

theorem multipleWrite_stores (granting : Granting w) (writes : WritesRegisters input arrival.request) :
    ∃ final, handleNext callbacks input prependSize appendSize w arrival =
        .returned modbusErrorOk final ∧ Granting final ∧
      registers final.app = writeRange (registers w.app) (bigEndianAt arrival.request (input + 1)).toNat
        (bigEndianWords arrival.request (input + 6)
          (bigEndianAt arrival.request (input + 3)).toNat) := by
  obtain ⟨writeWords, present, stores⟩ := faithful.writes
  have handed := registersHanded_eq input arrival writes.byteCount
  obtain ⟨ok, stored⟩ := stores (arrival.request input) (bigEndianAt arrival.request (input + 1))
    (bigEndianAt arrival.request (input + 3)) (registersHanded input arrival.request) w.app
    (by simp [handed]) writes.range
  have kind : requestKind (arrival.request input) = .writeMultipleRegisters := by
    rw [writes.code]
    decide
  have answer : (writeRegistersAnswer writeWords input (serving input w arrival)).1 =
      modbusErrorOk := ok
  refine ⟨registersWritten writeWords input prependSize appendSize (serving input w arrival),
    handleNext_answered _ _ _ _ _ _ ?_, fun index => granting index, handed ▸ stored⟩
  simp only [modbusSelectedHandler, serving_request, kind]
  rw [writeRegisters_granted _ _ _ _ _ _ (serving input w arrival) present (granting _), answer]
  rfl

theorem read_reports (granting : Granting w) (reads : ReadsRegisters input arrival.request) :
    ∃ final, handleNext callbacks input prependSize appendSize w arrival =
        .returned modbusErrorOk final ∧ Granting final ∧
      registers final.app = registers w.app ∧
      responsePdu prependSize appendSize final =
        [modbusReadHoldingRegistersFc,
            UInt8.ofNat (2 * (bigEndianAt arrival.request (input + 3)).toNat)] ++
          bigEndianBytes (readRange (registers w.app) (bigEndianAt arrival.request (input + 1)).toNat
            (bigEndianAt arrival.request (input + 3)).toNat) := by
  obtain ⟨readWords, present, returns⟩ := faithful.reads
  obtain ⟨ok, words, kept⟩ := returns (arrival.request input) (bigEndianAt arrival.request (input + 1))
    (bigEndianAt arrival.request (input + 3)) w.app reads.range
  have kind : requestKind (arrival.request input) = .readWords := by
    rw [reads.code]
    decide
  have table : readWordsTable (arrival.request input) = modbusDataTableHoldingRegisters := by
    rw [reads.code]
    decide
  rw [← table] at ok words kept
  have answer : (readWordsAnswer readWords input (serving input w arrival)).1 = modbusErrorOk := ok
  refine ⟨readWordsCompleted readWords input prependSize appendSize (serving input w arrival),
    handleNext_answered _ _ _ _ _ _ ?_, fun index => granting index, kept, ?_⟩
  · simp only [modbusSelectedHandler, serving_request, kind]
    rw [readWord_completed _ _ _ _ _ _ (serving input w arrival) (granting _) present answer]
    rfl
  · have pdu := readWordsCompleted_pdu input prependSize appendSize (serving input w arrival) readWords
      _ (Nat.le_trans reads.few (by omega)) words (by simp)
    rw [pdu]
    simp only [serving_request, reads.code]
    rfl

theorem registerRequest_stores (granting : Granting w)
    (allowed : RegisterRequest input arrival.request) :
    Granting (serve callbacks input prependSize appendSize w arrival) ∧
      registers (serve callbacks input prependSize appendSize w arrival).app =
        ((announcedRegisters input arrival.request).map (RangeWrite.apply (registers w.app))).getD
          (registers w.app) := by
  have single : modbusWriteMultipleRegistersFc ≠ modbusWriteSingleRegisterFc := by decide
  have read : modbusReadHoldingRegistersFc ≠ modbusWriteSingleRegisterFc ∧
      modbusReadHoldingRegistersFc ≠ modbusWriteMultipleRegistersFc := by decide
  rcases allowed with code | writes | reads
  · obtain ⟨final, handled, kept, stored⟩ := singleWrite_stores faithful input prependSize
      appendSize w arrival granting code
    simp only [serve, handled, Outcome.world_returned, announcedRegisters, code, if_true]
    exact ⟨kept, stored⟩
  · obtain ⟨final, handled, kept, stored⟩ := multipleWrite_stores faithful input prependSize
      appendSize w arrival granting writes
    simp only [serve, handled, Outcome.world_returned, announcedRegisters, writes.code, single,
      if_true, if_false]
    exact ⟨kept, stored⟩
  · obtain ⟨final, handled, kept, unchanged, _⟩ := read_reports faithful input prependSize
      appendSize w arrival granting reads
    simp only [serve, handled, Outcome.world_returned, announcedRegisters, reads.code, read.1, read.2,
      if_false]
    exact ⟨kept, unchanged⟩

theorem readRegisters_lastWritten (granting : Granting w) (earlier : List Arrival)
    (allowed : ∀ arrival ∈ earlier, RegisterRequest input arrival.request)
    (reads : ReadsRegisters input arrival.request) :
    ∃ final, handleNext callbacks input prependSize appendSize
        (earlier.foldl (serve callbacks input prependSize appendSize) w) arrival =
          .returned modbusErrorOk final ∧
      responsePdu prependSize appendSize final =
        [modbusReadHoldingRegistersFc,
            UInt8.ofNat (2 * (bigEndianAt arrival.request (input + 3)).toNat)] ++
          bigEndianBytes (readRange
            (lastWritten (registers w.app) (earlier.filterMap fun arrival =>
              announcedRegisters input arrival.request).reverse)
            (bigEndianAt arrival.request (input + 1)).toNat
            (bigEndianAt arrival.request (input + 3)).toNat) := by
  obtain ⟨stillGranting, store⟩ := run_lastWritten
    (serve callbacks input prependSize appendSize) (fun world => registers world.app)
    (fun _ arrival => announcedRegisters input arrival.request) Granting
    (fun arrival => RegisterRequest input arrival.request)
    (fun world arrival granting allowed => (registerRequest_stores faithful input
      prependSize appendSize world arrival granting allowed).1)
    (fun world arrival granting allowed => (registerRequest_stores faithful input
      prependSize appendSize world arrival granting allowed).2) w granting earlier allowed
  obtain ⟨final, handled, _, _, pdu⟩ := read_reports faithful input prependSize appendSize
    _ arrival stillGranting reads
  exact ⟨final, handled, by rw [pdu, store, writesOf_eq_filterMap]⟩

omit faithful

/-! The application whose state is the register file. -/

def registerFile : ModbusCallbacks (Nat → UInt16) where
  readBits := none
  writeBits := none
  readWords := some fun _ _ address quantity file =>
    (modbusErrorOk, readRange file address.toNat quantity.toNat, file)
  writeWords := some fun _ _ address _ data file =>
    (modbusErrorOk, writeRange file address.toNat data)
  otherFunctions := none

theorem registerFile_faithful : FaithfulRegisters registerFile id where
  writes := ⟨_, rfl, fun _ _ _ _ _ _ _ => ⟨rfl, rfl⟩⟩
  reads := ⟨_, rfl, fun _ _ _ _ _ => ⟨rfl, rfl, rfl⟩⟩

theorem registerFile_run :
    ∃ final, handleNext registerFile 0 7 0
        ([⟨writeRange (fun _ => 0) 0 [0x10, 0, 1, 0, 2, 4, 0, 5, 0, 6], 10, fun _ _ => 1⟩,
          ⟨writeRange (fun _ => 0) 0 [0x06, 0, 2, 1, 9], 5, fun _ _ => 2⟩].foldl
            (serve registerFile 0 7 0) (World.initial (fun _ => 0) []))
        ⟨writeRange (fun _ => 0) 0 [0x03, 0, 1, 0, 3], 5, fun _ _ => 3⟩ =
          .returned modbusErrorOk final ∧
      responsePdu 7 0 final = [0x03, 6, 0, 5, 1, 9, 0, 0] := by
  obtain ⟨final, handled, pdu⟩ := readRegisters_lastWritten registerFile_faithful 0 7 0
    (World.initial (fun _ => 0) [])
    ⟨writeRange (fun _ => 0) 0 [0x03, 0, 1, 0, 3], 5, fun _ _ => 3⟩ (fun _ => rfl)
    [⟨writeRange (fun _ => 0) 0 [0x10, 0, 1, 0, 2, 4, 0, 5, 0, 6], 10, fun _ _ => 1⟩,
      ⟨writeRange (fun _ => 0) 0 [0x06, 0, 2, 1, 9], 5, fun _ _ => 2⟩]
    (by
      intro arrival member
      simp only [List.mem_cons, List.not_mem_nil, or_false] at member
      rcases member with rfl | rfl
      · exact .inr (.inl ⟨rfl, by decide, by decide, rfl, by decide⟩)
      · exact .inl rfl)
    ⟨rfl, by decide, by decide, by decide⟩
  exact ⟨final, handled, pdu.trans (by decide)⟩

end SpeFramework
