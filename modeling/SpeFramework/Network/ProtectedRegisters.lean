import SpeFramework.Network.Crc8
import SpeFramework.Network.DriverCases

/-!
The register transfers of `adin1110.c` with `append_crc`: a checksum behind the header and one
behind the value.
-/

namespace SpeFramework.Network

open RangeStore ByteOrder

abbrev adin1110CrcPolynomial : UInt8 := 0x7

/-- As `adin1110_init` fills `_crc_table`. -/
def crcTable : Vector UInt8 256 := noOsCrc8PopulateMsb adin1110CrcPolynomial

/-- `desc->data[offset] = no_os_crc8(_crc_table, &desc->data[start], count, 0)` -/
def Device.appendCrc (offset start count : Nat) (device : Device) : Device :=
  device.store offset [noOsCrc8 crcTable (readRange device.desc.data start count) 0]

def adin1110RegWriteCrc (appendCrc : Bool) (addr : UInt16) (data : UInt32) (answer : SpiAnswer)
    (device : Device) : Int × Device :=
  let headerLen := adin1110WrHeaderLen.toNat
  let bytesNumber := 6
  let header := (addr &&& 0x1FFF) ||| 0x8000 ||| 0x2000
  let device := device.noOsPutUnalignedBe16 header 0
  let device := if appendCrc then device.appendCrc 2 0 2 else device
  let headerLen := if appendCrc then headerLen + 1 else headerLen
  let bytesNumber := if appendCrc then bytesNumber + 1 else bytesNumber
  let device := device.noOsPutUnalignedBe32 data headerLen
  let device := if appendCrc then device.appendCrc (headerLen + 4) headerLen 4 else device
  let bytesNumber := if appendCrc then bytesNumber + 1 else bytesNumber
  (answer.ret, device.noOsSpiTransfer bytesNumber false answer)

def adin1110RegReadCrc (appendCrc : Bool) (addr : UInt16) (answer : SpiAnswer) (device : Device) :
    Except Int UInt32 × Device :=
  let headerLen := adin1110RdHeaderLen.toNat
  let device := device.noOsPutUnalignedBe16 addr 0
  let device := device.setFlags 0x80
  let device := device.store 2 [0]
  let device := if appendCrc then (device.appendCrc 2 0 2).store 3 [0] else device
  let headerLen := if appendCrc then headerLen + 1 else headerLen
  let bytesNumber := (if appendCrc then 4 + 1 else 4) + headerLen
  let device := device.noOsSpiTransfer bytesNumber true answer
  if answer.ret ≠ 0 then (.error answer.ret, device)
  else
    let crc := noOsCrc8 crcTable (readRange device.desc.data headerLen 4) 0
    if appendCrc ∧ crc ≠ device.desc.data (headerLen + 4) then (.error (-einval), device)
    else (.ok (bigEndian32At device.desc.data headerLen), device.touch .scratch headerLen 4)

theorem adin1110RegWriteCrc_off : adin1110RegWriteCrc false = adin1110RegWrite := rfl

theorem adin1110RegReadCrc_off : adin1110RegReadCrc false = adin1110RegRead := by
  funext addr answer device
  simp only [adin1110RegReadCrc, Bool.false_eq_true, false_and, if_false]
  rfl

/-! What the checksum protects against. -/

def protect (bytes : List UInt8) : List UInt8 := bytes ++ [noOsCrc8 crcTable bytes 0]

def wireNumber (bytes : List UInt8) : Nat := Crc.number 8 (byteNumbers bytes)

theorem accepted_iff (bytes : List UInt8) (check : UInt8) :
    noOsCrc8 crcTable bytes 0 = check ↔ Crc.generator 8 7 ∣ Crc.ofBits (wireNumber (bytes ++ [check])) := by
  rw [← UInt8.toNat_inj, crcTable, noOsCrc8_toNat]
  have seven : adin1110CrcPolynomial.toNat = 7 := rfl
  have matched := Crc.crc_eq_iff adin1110CrcPolynomial.toNat_lt (byteNumbers_lt bytes) check.toNat_lt
  rw [seven] at *
  simpa [wireNumber, byteNumbers] using matched

theorem protect_dvd (bytes : List UInt8) :
    Crc.generator 8 7 ∣ Crc.ofBits (wireNumber (protect bytes)) :=
  (accepted_iff bytes _).mp rfl

/-- The bits that differ lie within eight places, or are odd in number, or are two. -/
def Detectable (error : Nat) : Prop :=
  (∃ burst count, burst < 2 ^ 8 ∧ burst ≠ 0 ∧ error = burst <<< count) ∨ Crc.ones error % 2 = 1 ∨
    Crc.ones error = 2

/-- The register comes back to 1 after 127 steps. -/
theorem steps_away : ∀ distance < 127, 0 < distance → (Crc.step 8 7)^[distance] 1 ≠ 1 := by
  decide

theorem detectable_not_dvd {error : Nat} (detectable : Detectable error) (short : error < 2 ^ 127) :
    ¬ Crc.generator 8 7 ∣ Crc.ofBits error := by
  rcases detectable with ⟨burst, count, burst_lt, nonzero, rfl⟩ | odd | two
  · exact Crc.burst_not_dvd (by decide) (by decide) (by decide) burst_lt nonzero count
  · exact Crc.odd_not_dvd (by decide) odd
  · obtain ⟨distance, count, positive, inside, rfl⟩ := Crc.two_ones two
    have size := Nat.size_le.mpr short
    exact Crc.double_not_dvd (by decide) (by decide) (by decide)
      (steps_away distance (by omega) positive) count

theorem wireNumber_lt (bytes : List UInt8) : wireNumber bytes < 2 ^ (8 * bytes.length) := by
  have bound := Crc.number_lt (byteNumbers_lt bytes)
  rwa [byteNumbers, List.length_map, ← byteNumbers] at bound

/-- Bytes that arrive for a protected word are refused if the damage is of one of these kinds. -/
theorem damaged_refused (sent : List UInt8) {bytes : List UInt8} {check : UInt8} (length : sent.length + 1 ≤ 15)
    (same : bytes.length = sent.length)
    (damaged : Detectable (wireNumber (protect sent) ^^^ wireNumber (bytes ++ [check]))) :
    noOsCrc8 crcTable bytes 0 ≠ check := by
  rw [ne_eq, accepted_iff, Crc.dvd_received_iff (protect_dvd sent)]
  refine detectable_not_dvd damaged (Nat.xor_lt_two_pow ?_ ?_)
  · refine Nat.lt_of_lt_of_le (wireNumber_lt _) (Nat.pow_le_pow_right (by decide) ?_)
    simp only [protect, List.length_append, List.length_singleton]
    omega
  · refine Nat.lt_of_lt_of_le (wireNumber_lt _) (Nat.pow_le_pow_right (by decide) ?_)
    simp only [List.length_append, List.length_singleton]
    omega

/-! The two transfers. -/

section Transfers

variable (addr : UInt16) (device : Device) {answer : SpiAnswer}

theorem adin1110RegWriteCrc_sends (data : UInt32) (answer : SpiAnswer) :
    ∃ header, header = (addr &&& 0x1FFF) ||| 0x8000 ||| 0x2000 ∧
      (adin1110RegWriteCrc true addr data answer device).2.transfers =
        device.transfers ++ [protect [highByte header, lowByte header] ++ protect (fourBytes data)] := by
  refine ⟨_, rfl, ?_⟩
  rfl

theorem adin1110RegReadCrc_sends (answer : SpiAnswer) :
    ∃ rest, (adin1110RegReadCrc true addr answer device).2.transfers =
      device.transfers ++ [protect [highByte addr ||| 0x80, lowByte addr] ++ rest] := by
  let data := device.desc.data
  refine ⟨[0, data 4, data 5, data 6, data 7, data 8], ?_⟩
  simp only [adin1110RegReadCrc, if_true]
  split
  · rfl
  · split
    · rfl
    · rfl

theorem received_inside (bytesNumber index : Nat) (inside : index < bytesNumber) :
    (device.noOsSpiTransfer bytesNumber true answer).desc.data index = answer.received index := by
  simp only [Device.noOsSpiTransfer_desc_data, if_true]
  rw [writeRange_inside _ _ _ _ (Nat.zero_le _) (by simpa using inside)]
  simp [readRange]

theorem adin1110RegReadCrc_value (succeeds : answer.ret = 0) :
    (adin1110RegReadCrc true addr answer device).1 =
      if noOsCrc8 crcTable (readRange answer.received 4 4) 0 = answer.received 8 then
        .ok (bigEndian32At answer.received 4)
      else .error (-einval) := by
  generalize prepared : (((((device.noOsPutUnalignedBe16 addr 0).setFlags 0x80).store 2 [0]).appendCrc
    2 0 2).store 3 [0]) = ready
  have received (index : Nat) (inside : index < 9) :
      (ready.noOsSpiTransfer 9 true answer).desc.data index = answer.received index :=
    received_inside ready 9 index inside
  have value : readRange (ready.noOsSpiTransfer 9 true answer).desc.data 4 4 =
      readRange answer.received 4 4 := by
    simp only [readRange_four, received 4, received 5, received 6, received 7, Nat.reduceLT]
  have word : bigEndian32At (ready.noOsSpiTransfer 9 true answer).desc.data 4 =
      bigEndian32At answer.received 4 := by
    simp only [bigEndian32At, received 4, received 5, received 6, received 7, Nat.reduceLT]
  have length : adin1110RdHeaderLen.toNat = 3 := rfl
  simp only [adin1110RegReadCrc, if_true, prepared, length, Nat.reduceAdd, succeeds, ne_eq, not_true_eq_false,
    if_false, value, word, received 8, Nat.reduceLT, true_and]
  split <;> simp_all

theorem readRange_eq_protect {data : UInt32} (intact : readRange answer.received 4 5 = protect (fourBytes data)) :
    readRange answer.received 4 4 = fourBytes data ∧
      answer.received 8 = noOsCrc8 crcTable (fourBytes data) 0 := by
  have split : readRange answer.received 4 5 = readRange answer.received 4 4 ++ [answer.received 8] :=
    readRange_append answer.received 4 4 1
  rw [split, protect] at intact
  obtain ⟨value, check⟩ := List.append_inj intact (by simp [fourBytes])
  exact ⟨value, (List.cons.inj check).1⟩

theorem bigEndian32At_of_readRange {memory : Bytes} {start : Nat} {word : UInt32}
    (stored : readRange memory start 4 = fourBytes word) : bigEndian32At memory start = word := by
  simp only [readRange_four, fourBytes, List.cons.injEq, and_true] at stored
  obtain ⟨first, second, third, fourth⟩ := stored
  rw [bigEndian32At, first, second, third, fourth, wordOfFourBytes_split]

/-- A reply that arrives as the device protected it is taken, and one with detectable damage is
refused. -/
theorem adin1110RegReadCrc_protected (data : UInt32) (succeeds : answer.ret = 0) :
    (readRange answer.received 4 5 = protect (fourBytes data) →
      (adin1110RegReadCrc true addr answer device).1 = .ok data) ∧
    (Detectable (wireNumber (protect (fourBytes data)) ^^^ wireNumber (readRange answer.received 4 5)) →
      (adin1110RegReadCrc true addr answer device).1 = .error (-einval)) := by
  rw [adin1110RegReadCrc_value addr device succeeds]
  constructor
  · intro intact
    obtain ⟨value, check⟩ := readRange_eq_protect intact
    rw [value, check, if_pos rfl, bigEndian32At_of_readRange value]
  · intro damaged
    rw [if_neg]
    exact damaged_refused (fourBytes data) (by simp [fourBytes]) (by simp [fourBytes]) damaged

end Transfers

def freshDevice : Device := ⟨⟨.adin1110, Vector.replicate 6 0, fun _ => 0⟩, [], []⟩

def reply (bytes : List UInt8) : SpiAnswer := ⟨0, writeRange (fun _ => 0) 4 bytes⟩

theorem adin1110RegReadCrc_protected_fresh :
    (adin1110RegReadCrc true 0x30 (reply (protect (fourBytes 0x12345678))) freshDevice).1 =
        .ok 0x12345678 ∧
      (adin1110RegReadCrc true 0x30 (reply (protect (fourBytes 0x12345678) |>.set 0 0x92)) freshDevice).1 =
        .error (-einval) :=
  ⟨(adin1110RegReadCrc_protected 0x30 freshDevice 0x12345678 rfl).1 (by decide +kernel),
    (adin1110RegReadCrc_protected 0x30 freshDevice 0x12345678 rfl).2 (.inr (.inl (by decide +kernel)))⟩

end SpeFramework.Network
