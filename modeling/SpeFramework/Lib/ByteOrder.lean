import SpeFramework.Lib.RangeStore

/-!
Sixteen-bit words as two bytes, in either order, and bits numbered through a list of
bytes, from either end of each byte.
-/

namespace ByteOrder

open RangeStore

def wordOfBytes (high low : UInt8) : UInt16 := (high.toUInt16 <<< 8) + low.toUInt16

def highByte (word : UInt16) : UInt8 := (word >>> 8).toUInt8

def lowByte (word : UInt16) : UInt8 := word.toUInt8

theorem wordOfBytes_toNat (high low : UInt8) :
    (wordOfBytes high low).toNat = 256 * high.toNat + low.toNat := by
  have highBound := high.toNat_lt
  have lowBound := low.toNat_lt
  simp only [wordOfBytes, UInt16.toNat_add, UInt16.toNat_shiftLeft, UInt8.toNat_toUInt16,
    Nat.shiftLeft_eq]
  simp
  omega

theorem highByte_toNat (word : UInt16) : (highByte word).toNat = word.toNat / 256 := by
  have bound := word.toNat_lt
  simp only [highByte, UInt16.toNat_toUInt8, UInt16.toNat_shiftRight, Nat.shiftRight_eq_div_pow]
  simp
  omega

theorem lowByte_toNat (word : UInt16) : (lowByte word).toNat = word.toNat % 256 := by
  simp [lowByte]

@[simp] theorem highByte_wordOfBytes (high low : UInt8) : highByte (wordOfBytes high low) = high := by
  have lowBound := low.toNat_lt
  apply UInt8.toNat_inj.mp
  rw [highByte_toNat, wordOfBytes_toNat]
  omega

@[simp] theorem lowByte_wordOfBytes (high low : UInt8) : lowByte (wordOfBytes high low) = low := by
  have lowBound := low.toNat_lt
  apply UInt8.toNat_inj.mp
  rw [lowByte_toNat, wordOfBytes_toNat]
  omega

theorem wordOfBytes_split (word : UInt16) : wordOfBytes (highByte word) (lowByte word) = word := by
  apply UInt16.toNat_inj.mp
  rw [wordOfBytes_toNat, highByte_toNat, lowByte_toNat, Nat.div_add_mod]

theorem wordOfBytes_inj {high low high' low' : UInt8}
    (same : wordOfBytes high low = wordOfBytes high' low') : high = high' ∧ low = low' :=
  ⟨by simpa using congrArg highByte same, by simpa using congrArg lowByte same⟩

def bigEndianAt (memory : Nat → UInt8) (start : Nat) : UInt16 :=
  wordOfBytes (memory start) (memory (start + 1))

def littleEndianAt (memory : Nat → UInt8) (start : Nat) : UInt16 :=
  wordOfBytes (memory (start + 1)) (memory start)

def littleEndianWords (memory : Nat → UInt8) (start count : Nat) : List UInt16 :=
  (List.range count).map fun index => littleEndianAt memory (start + 2 * index)

def bigEndianWords (memory : Nat → UInt8) (start count : Nat) : List UInt16 :=
  (List.range count).map fun index => bigEndianAt memory (start + 2 * index)

def bigEndianBytes (words : List UInt16) : List UInt8 :=
  words.flatMap fun word => [highByte word, lowByte word]

def littleEndianBytes (words : List UInt16) : List UInt8 :=
  words.flatMap fun word => [lowByte word, highByte word]

@[simp] theorem littleEndianWords_length (memory : Nat → UInt8) (start count : Nat) :
    (littleEndianWords memory start count).length = count := by
  simp [littleEndianWords]

@[simp] theorem bigEndianWords_length (memory : Nat → UInt8) (start count : Nat) :
    (bigEndianWords memory start count).length = count := by
  simp [bigEndianWords]

theorem littleEndianBytes_getElem? (words : List UInt16) (index : Nat) :
    (littleEndianBytes words)[index]? =
      words[index / 2]?.map fun word => if index % 2 = 0 then lowByte word else highByte word := by
  induction words generalizing index with
  | nil => simp [littleEndianBytes]
  | cons word rest ih =>
      match index with
      | 0 => simp [littleEndianBytes]
      | 1 => simp [littleEndianBytes]
      | index + 2 =>
          have half : (index + 2) / 2 = index / 2 + 1 := by omega
          have parity : (index + 2) % 2 = index % 2 := by omega
          rw [half, parity]
          simpa [littleEndianBytes] using ih index

theorem bigEndianBytes_getElem? (words : List UInt16) (index : Nat) :
    (bigEndianBytes words)[index]? =
      words[index / 2]?.map fun word => if index % 2 = 0 then highByte word else lowByte word := by
  induction words generalizing index with
  | nil => simp [bigEndianBytes]
  | cons word rest ih =>
      match index with
      | 0 => simp [bigEndianBytes]
      | 1 => simp [bigEndianBytes]
      | index + 2 =>
          have half : (index + 2) / 2 = index / 2 + 1 := by omega
          have parity : (index + 2) % 2 = index % 2 := by omega
          rw [half, parity]
          simpa [bigEndianBytes] using ih index

@[simp] theorem littleEndianBytes_length (words : List UInt16) :
    (littleEndianBytes words).length = 2 * words.length := by
  induction words with
  | nil => rfl
  | cons word rest ih =>
      change (littleEndianBytes rest).length + 1 + 1 = 2 * (rest.length + 1)
      omega

/-- Swapping the two bytes of a word in place exchanges its two readings. -/
theorem littleEndianAt_swapPairs (memory : Nat → UInt8) (start count index : Nat)
    (inside : index < count) :
    littleEndianAt (swapPairs start count memory) (start + 2 * index) =
      bigEndianAt memory (start + 2 * index) := by
  simp only [littleEndianAt, bigEndianAt, swapPairs]
  rw [if_pos (by omega), if_neg (by omega), if_pos (by omega), if_pos (by omega)]
  rfl

theorem littleEndianAt_swapPairs_beyond (memory : Nat → UInt8) (start count index : Nat)
    (beyond : count ≤ index) :
    littleEndianAt (swapPairs start count memory) (start + 2 * index) =
      littleEndianAt memory (start + 2 * index) := by
  simp only [littleEndianAt]
  rw [swapPairs_outside _ _ _ _ (by omega), swapPairs_outside _ _ _ _ (by omega)]

theorem littleEndianWords_swapPairs (memory : Nat → UInt8) (start count total : Nat)
    (covered : count ≤ total) :
    littleEndianWords (swapPairs start total memory) start count =
      bigEndianWords memory start count := by
  apply List.map_congr_left
  intro index member
  have bound := List.mem_range.mp member
  exact littleEndianAt_swapPairs memory start total index (by omega)

/-- Words stored low byte first and then swapped in place lie there high byte first. -/
theorem readRange_swapPairs_littleEndian (memory : Nat → UInt8) (start : Nat)
    (words : List UInt16) :
    readRange (swapPairs start words.length (writeRange memory start (littleEndianBytes words)))
      start (2 * words.length) = bigEndianBytes words := by
  have stored (index : Nat) (bound : index < 2 * words.length) :
      some (writeRange memory start (littleEndianBytes words) (start + index)) =
        (littleEndianBytes words)[index]? := by
    rw [writeRange_inside _ _ _ _ (by omega) (by simp; omega)]
    simp [bound]
  apply List.ext_getElem?
  intro index
  rw [readRange_getElem?, bigEndianBytes_getElem?]
  by_cases bound : index < 2 * words.length
  · rw [if_pos bound, swapPairs, if_pos (by omega), Nat.add_sub_cancel_left]
    by_cases even : index % 2 = 0
    · have half : (index + 1) / 2 = index / 2 := by omega
      rw [if_pos even, Nat.add_assoc, stored _ (by omega), littleEndianBytes_getElem?, half]
      simp [even, show (index + 1) % 2 = 1 by omega]
    · have half : (index - 1) / 2 = index / 2 := by omega
      have back : start + index - 1 = start + (index - 1) := by omega
      rw [if_neg even, back, stored _ (by omega), littleEndianBytes_getElem?, half]
      simp [even, show (index - 1) % 2 = 0 by omega]
  · have absent : words.length ≤ index / 2 := by omega
    simp [bound, absent]

/-! Bits of a byte list. Bit `k` lies in byte `k / 8`. -/

def lsbFirst (bytes : List UInt8) (bit : Nat) : Bool :=
  (bytes.getD (bit / 8) 0).toNat.testBit (bit % 8)

def msbFirst (bytes : List UInt8) (bit : Nat) : Bool :=
  (bytes.getD (bit / 8) 0).toNat.testBit (7 - bit % 8)

def bytesForBits (count : Nat) : Nat := (count + 7) / 8

theorem bytesForBits_eq (count : Nat) :
    bytesForBits count = count / 8 + if count % 8 = 0 then 0 else 1 := by
  simp only [bytesForBits]
  split <;> omega

theorem byte_ext {left right : UInt8}
    (same : ∀ bit < 8, left.toNat.testBit bit = right.toNat.testBit bit) : left = right := by
  apply UInt8.toNat_inj.mp
  apply Nat.eq_of_testBit_eq
  intro bit
  by_cases bound : bit < 8
  · exact same bit bound
  · have beyond (byte : UInt8) : byte.toNat.testBit bit = false :=
      Nat.testBit_lt_two_pow (Nat.lt_of_lt_of_le byte.toNat_lt
        (Nat.pow_le_pow_right (by omega) (by omega)))
    rw [beyond, beyond]

/-! Arrays of bytes whose bits were reversed in place. -/

/-- Bit `j` of every byte in the array is at `7 - j` of that byte, and the cells around the array
are as before. -/
structure BitsReversed (start count : Nat) (before after : Nat → UInt8) : Prop where
  bits : ∀ i < count, ∀ j < 8,
    (after (start + i)).toNat.testBit (7 - j) = (before (start + i)).toNat.testBit j
  around : ∀ cell, cell < start ∨ start + count ≤ cell → after cell = before cell

theorem BitsReversed.symm {start count : Nat} {before after : Nat → UInt8}
    (reversed : BitsReversed start count before after) : BitsReversed start count after before := by
  constructor
  · intro i inside j bound
    have back : 7 - (7 - j) = j := by omega
    have mirrored := reversed.bits i inside (7 - j) (by omega)
    rw [back] at mirrored
    exact mirrored.symm
  · intro cell outside
    exact (reversed.around cell outside).symm

theorem BitsReversed.unique {start count : Nat} {before first second : Nat → UInt8}
    (left : BitsReversed start count before first)
    (right : BitsReversed start count before second) : first = second := by
  funext cell
  by_cases outside : cell < start ∨ start + count ≤ cell
  · rw [left.around cell outside, right.around cell outside]
  · obtain ⟨i, rfl⟩ := Nat.exists_eq_add_of_le (show start ≤ cell by omega)
    apply byte_ext
    intro bit bound
    have back : 7 - (7 - bit) = bit := by omega
    have here := left.bits i (by omega) (7 - bit) (by omega)
    have there := right.bits i (by omega) (7 - bit) (by omega)
    rw [back] at here there
    rw [here, there]

theorem bitsReversed_mapRange {reverse : UInt8 → UInt8}
    (mirrors : ∀ byte, ∀ bit < 8, (reverse byte).toNat.testBit bit = byte.toNat.testBit (7 - bit))
    (start count : Nat) (memory : Nat → UInt8) :
    BitsReversed start count memory (mapRange reverse start count memory) := by
  constructor
  · intro i inside j bound
    have back : 7 - (7 - j) = j := by omega
    rw [mapRange, if_pos (by omega), mirrors _ _ (by omega), back]
  · intro cell outside
    exact mapRange_outside reverse start count memory cell outside

/-! Thirty-two-bit words, most significant byte first. -/

def wordOfFourBytes (first second third fourth : UInt8) : UInt32 :=
  fourth.toUInt32 ||| (third.toUInt32 <<< 8) ||| (second.toUInt32 <<< 16) |||
    (first.toUInt32 <<< 24)

def fourBytes (word : UInt32) : List UInt8 :=
  [(word >>> 24).toUInt8, (word >>> 16).toUInt8, (word >>> 8).toUInt8, word.toUInt8]

def bigEndian32At (memory : Nat → UInt8) (start : Nat) : UInt32 :=
  wordOfFourBytes (memory start) (memory (start + 1)) (memory (start + 2)) (memory (start + 3))

theorem toNat_testBit_beyond (word : UInt32) (bit : Nat) (beyond : 32 ≤ bit) :
    word.toNat.testBit bit = false :=
  Nat.testBit_lt_two_pow (Nat.lt_of_lt_of_le word.toNat_lt (Nat.pow_le_pow_right (by omega) beyond))

theorem byteBit (value bit shift : Nat) :
    (decide (shift ≤ bit) && (decide (bit - shift < 8) && value.testBit (shift + (bit - shift)))) =
      (decide (shift ≤ bit ∧ bit < shift + 8) && value.testBit bit) := by
  by_cases reached : shift ≤ bit
  · have same : bit - shift < 8 ↔ bit < shift + 8 := by omega
    rw [Nat.add_sub_cancel' reached]
    simp [reached, same]
  · simp [reached]

theorem wordOfFourBytes_split (word : UInt32) :
    wordOfFourBytes (word >>> 24).toUInt8 (word >>> 16).toUInt8 (word >>> 8).toUInt8 word.toUInt8 =
      word := by
  apply UInt32.toNat_inj.mp
  apply Nat.eq_of_testBit_eq
  intro bit
  have high := toNat_testBit_beyond word bit
  simp only [wordOfFourBytes, UInt32.toNat_or, UInt32.toNat_shiftLeft, UInt8.toNat_toUInt32,
    UInt32.toNat_toUInt8, UInt32.toNat_shiftRight, Nat.testBit_or,
    Nat.testBit_mod_two_pow, Nat.testBit_shiftLeft, Nat.testBit_shiftRight]
  simp only [UInt32.toNat_ofNat, Nat.reducePow, Nat.reduceMod, ge_iff_le, byteBit]
  cases set : word.toNat.testBit bit with
  | false => simp
  | true =>
      have inside : bit < 32 := by
        by_contra beyond
        rw [high (by omega)] at set
        cases set
      simp [inside]
      omega

theorem bigEndian32At_writeRange (memory : Nat → UInt8) (start : Nat) (word : UInt32) :
    bigEndian32At (writeRange memory start (fourBytes word)) start = word := by
  have stored (index : Nat) (bound : index < (fourBytes word).length) :
      writeRange memory start (fourBytes word) (start + index) = (fourBytes word)[index] := by
    rw [writeRange_inside _ _ _ _ (by omega) (by omega)]
    simp only [Nat.add_sub_cancel_left]
  have first := stored 0 (by simp [fourBytes])
  rw [Nat.add_zero] at first
  rw [bigEndian32At, first, stored 1 (by simp [fourBytes]), stored 2 (by simp [fourBytes]),
    stored 3 (by simp [fourBytes])]
  exact wordOfFourBytes_split word

theorem byte_testBit_beyond (byte : UInt8) (bit : Nat) (beyond : 8 ≤ bit) :
    byte.toNat.testBit bit = false :=
  Nat.testBit_lt_two_pow (Nat.lt_of_lt_of_le byte.toNat_lt (Nat.pow_le_pow_right (by omega) beyond))

theorem fourBytes_wordOfFourBytes (first second third fourth : UInt8) :
    fourBytes (wordOfFourBytes first second third fourth) = [first, second, third, fourth] := by
  have beyond := byte_testBit_beyond
  simp only [fourBytes, List.cons.injEq, and_true]
  refine ⟨?_, ?_, ?_, ?_⟩ <;>
  · apply UInt8.toNat_inj.mp
    apply Nat.eq_of_testBit_eq
    intro bit
    simp only [wordOfFourBytes, UInt32.toNat_or, UInt32.toNat_shiftLeft, UInt8.toNat_toUInt32,
      UInt32.toNat_toUInt8, UInt32.toNat_shiftRight, Nat.testBit_or,
      Nat.testBit_mod_two_pow, Nat.testBit_shiftLeft, Nat.testBit_shiftRight]
    simp only [UInt32.toNat_ofNat, Nat.reducePow, Nat.reduceMod, ge_iff_le]
    grind

theorem wordOfFourBytes_inj {first second third fourth first' second' third' fourth' : UInt8}
    (same : wordOfFourBytes first second third fourth = wordOfFourBytes first' second' third' fourth') :
    first = first' ∧ second = second' ∧ third = third' ∧ fourth = fourth' := by
  simpa [fourBytes_wordOfFourBytes] using congrArg fourBytes same

end ByteOrder
