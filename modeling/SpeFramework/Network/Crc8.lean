import SpeFramework.Lib.Crc

/-!
`no_os_crc8.c`, and the remainder it computes.
-/

namespace SpeFramework.Network

open Polynomial

/-- One turn of the inner loop of `no_os_crc8_populate_msb`. -/
def crc8ShiftMsb (polynomial currByte : UInt8) : UInt8 :=
  if currByte &&& 0x80 ≠ 0 then (currByte <<< 1) ^^^ polynomial else currByte <<< 1

def noOsCrc8PopulateMsb (polynomial : UInt8) : Vector UInt8 256 :=
  Vector.ofFn fun n => (crc8ShiftMsb polynomial)^[8] (UInt8.ofNat n)

def noOsCrc8 (table : Vector UInt8 256) : List UInt8 → UInt8 → UInt8
  | [], crc => crc
  | byte :: pdata, crc => noOsCrc8 table pdata table[(crc ^^^ byte).toFin]

theorem noOsCrc8_append (table : Vector UInt8 256) (first second : List UInt8) (crc : UInt8) :
    noOsCrc8 table (first ++ second) crc = noOsCrc8 table second (noOsCrc8 table first crc) := by
  induction first generalizing crc with
  | nil => rfl
  | cons byte first ih => exact ih _

theorem highBit_iff (byte : UInt8) : byte &&& 0x80 ≠ 0 ↔ byte.toNat.testBit 7 = true := by
  have masked (bit : Nat) : (byte &&& 0x80).toNat.testBit bit =
      (byte.toNat.testBit bit && decide (7 = bit)) := by
    rw [UInt8.toNat_and, Nat.testBit_and, ← Nat.testBit_two_pow]
    rfl
  constructor
  · intro notZero
    by_contra off
    refine notZero (UInt8.toNat_inj.mp (Nat.eq_of_testBit_eq fun bit => ?_))
    rw [masked]
    by_cases high : 7 = bit
    · subst high
      simpa using off
    · simp [high]
  · intro on zero
    have high := masked 7
    simp [zero, on] at high

theorem crc8ShiftMsb_toNat (polynomial currByte : UInt8) :
    (crc8ShiftMsb polynomial currByte).toNat = Crc.step 8 polynomial.toNat currByte.toNat := by
  rw [crc8ShiftMsb, Crc.step]
  simp only [highBit_iff]
  split <;> simp

theorem crc8Shifts_toNat (polynomial currByte : UInt8) (count : Nat) :
    ((crc8ShiftMsb polynomial)^[count] currByte).toNat =
      (Crc.step 8 polynomial.toNat)^[count] currByte.toNat := by
  induction count with
  | zero => rfl
  | succ count ih => rw [Function.iterate_succ_apply', Function.iterate_succ_apply', crc8ShiftMsb_toNat, ih]

def byteNumbers (bytes : List UInt8) : List Nat := bytes.map UInt8.toNat

theorem byteNumbers_lt (bytes : List UInt8) : ∀ byte ∈ byteNumbers bytes, byte < 2 ^ 8 := by
  intro byte member
  obtain ⟨original, -, rfl⟩ := List.mem_map.mp member
  exact original.toNat_lt

theorem populated_get (polynomial byte : UInt8) :
    (noOsCrc8PopulateMsb polynomial)[byte.toFin] = (crc8ShiftMsb polynomial)^[8] byte := by
  rw [Fin.getElem_fin, noOsCrc8PopulateMsb, Vector.getElem_ofFn]
  exact congrArg _ UInt8.ofNat_toNat

theorem noOsCrc8_toNat (polynomial : UInt8) (pdata : List UInt8) (crc : UInt8) :
    (noOsCrc8 (noOsCrc8PopulateMsb polynomial) pdata crc).toNat =
      Crc.crc 8 polynomial.toNat crc.toNat (byteNumbers pdata) := by
  induction pdata generalizing crc with
  | nil => rfl
  | cons byte pdata ih =>
      rw [noOsCrc8, ih, populated_get, crc8Shifts_toNat, UInt8.toNat_xor]
      rfl

/-- The table-driven checksum is the remainder of the bytes by the polynomial the table is for. -/
theorem noOsCrc8_remainder (polynomial : UInt8) (pdata : List UInt8) (crc : UInt8) :
    Crc.ofBits (noOsCrc8 (noOsCrc8PopulateMsb polynomial) pdata crc).toNat =
      (Crc.ofBits crc.toNat * X ^ (8 * pdata.length) +
        Crc.ofBits (Crc.number 8 (byteNumbers pdata)) * X ^ 8) %ₘ
          (X ^ 8 + Crc.ofBits polynomial.toNat) := by
  rw [noOsCrc8_toNat, Crc.crc_eq_modByMonic polynomial.toNat_lt crc.toNat_lt (byteNumbers_lt pdata),
    byteNumbers, List.length_map, Crc.generator]

end SpeFramework.Network
