import Mathlib.Algebra.Field.ZMod
import Mathlib.RingTheory.AdjoinRoot
import Mathlib.Data.Nat.Size

/-!
Cyclic redundancy checks of any width and for any generator. The bits of a number are the
coefficients of a polynomial over the field with two elements; one step of the shift register
multiplies by `X` modulo the generator.
-/

namespace Crc

open Polynomial

noncomputable def ofBits (number : Nat) : (ZMod 2)[X] :=
  ∑ bit ∈ Finset.range number.size, if number.testBit bit then X ^ bit else 0

theorem testBit_lt_size {number bit : Nat} (set : number.testBit bit = true) : bit < number.size := by
  by_contra beyond
  have small : number < 2 ^ bit := Nat.size_le.mp (Nat.le_of_not_lt beyond)
  simp [Nat.testBit_lt_two_pow small] at set

@[simp] theorem coeff_ofBits (number bit : Nat) :
    (ofBits number).coeff bit = if number.testBit bit then 1 else 0 := by
  simp only [ofBits, finsetSum_coeff]
  by_cases set : number.testBit bit
  · rw [Finset.sum_eq_single bit]
    · simp [set]
    · intro other _ different
      split
      · simp [coeff_X_pow, different.symm]
      · simp
    · intro outside
      exact absurd (testBit_lt_size set) (by simpa using outside)
  · rw [Finset.sum_eq_zero]
    · simp [set]
    · intro other _
      split
      · rename_i otherSet
        have different : bit ≠ other := by
          rintro rfl
          exact set otherSet
        simp [coeff_X_pow, different]
      · simp

theorem ofBits_injective : Function.Injective ofBits := by
  intro first second same
  apply Nat.eq_of_testBit_eq
  intro bit
  have coefficients := congrArg (coeff · bit) same
  simp only [coeff_ofBits] at coefficients
  by_cases one : first.testBit bit <;> by_cases other : second.testBit bit <;> simp_all

@[simp] theorem ofBits_zero : ofBits 0 = 0 := by
  ext bit
  simp

theorem ofBits_xor (first second : Nat) : ofBits (first ^^^ second) = ofBits first + ofBits second := by
  ext bit
  simp only [coeff_ofBits, coeff_add, Nat.testBit_xor]
  cases first.testBit bit <;> cases second.testBit bit <;> simp
  rfl

theorem neg_ofBits (number : Nat) : -ofBits number = ofBits number := by
  rw [neg_eq_iff_add_eq_zero, ← ofBits_xor, Nat.xor_self, ofBits_zero]

theorem ofBits_shiftLeft (number count : Nat) : ofBits (number <<< count) = ofBits number * X ^ count := by
  ext bit
  simp only [coeff_ofBits, coeff_mul_X_pow', Nat.testBit_shiftLeft]
  by_cases shifted : count ≤ bit <;> simp [shifted]

theorem degree_ofBits_lt {number width : Nat} (small : number < 2 ^ width) :
    (ofBits number).degree < width := by
  rw [degree_lt_iff_coeff_zero]
  intro bit beyond
  have := Nat.testBit_lt_two_pow (Nat.lt_of_lt_of_le small (Nat.pow_le_pow_right (by decide) beyond))
  simp [this]

/-- One step of the shift register, `polynomial` without its leading term. -/
def step (width polynomial register : Nat) : Nat :=
  (register <<< 1) % 2 ^ width ^^^ (if register.testBit (width - 1) then polynomial else 0)

/-- One word of `width` bits goes in. -/
def feed (width polynomial register word : Nat) : Nat :=
  (step width polynomial)^[width] (register ^^^ word)

def crc (width polynomial : Nat) : Nat → List Nat → Nat :=
  List.foldl (feed width polynomial)

/-- The words as one number, the first on top. -/
def number (width : Nat) (words : List Nat) : Nat :=
  words.foldl (fun front word => front <<< width ^^^ word) 0

noncomputable def generator (width polynomial : Nat) : (ZMod 2)[X] := X ^ width + ofBits polynomial

section Register

variable {width polynomial : Nat}

theorem step_lt (small : polynomial < 2 ^ width) (register : Nat) :
    step width polynomial register < 2 ^ width := by
  refine Nat.xor_lt_two_pow (Nat.mod_lt _ (Nat.two_pow_pos width)) ?_
  split
  · exact small
  · exact Nat.two_pow_pos width

theorem generator_monic (small : polynomial < 2 ^ width) : (generator width polynomial).Monic :=
  monic_X_pow_add (degree_ofBits_lt small)

theorem generator_degree (small : polynomial < 2 ^ width) :
    (generator width polynomial).degree = width := by
  have lower := degree_ofBits_lt small
  rw [generator, degree_add_eq_left_of_degree_lt (by rwa [degree_X_pow]), degree_X_pow]

@[simp] theorem ofBits_two_pow (count : Nat) : ofBits (2 ^ count) = X ^ count := by
  ext bit
  simp [Nat.testBit_two_pow, coeff_X_pow, eq_comm]

theorem shifted_out {register : Nat} (inside : register < 2 ^ width) :
    (register <<< 1) % 2 ^ width =
      register <<< 1 ^^^ (if register.testBit (width - 1) then 2 ^ width else 0) := by
  apply Nat.eq_of_testBit_eq
  intro bit
  have beyond (other : Nat) (above : width ≤ other) : register.testBit other = false :=
    Nat.testBit_lt_two_pow (Nat.lt_of_lt_of_le inside (Nat.pow_le_pow_right (by decide) above))
  have top : (if register.testBit (width - 1) then 2 ^ width else 0).testBit bit =
      (register.testBit (width - 1) && decide (width = bit)) := by
    split <;> simp_all [Nat.testBit_two_pow]
  rw [Nat.testBit_mod_two_pow, Nat.testBit_xor, Nat.testBit_shiftLeft, top]
  rcases Nat.lt_trichotomy bit width with below | rfl | above
  · simp [below, Nat.ne_of_gt below]
  · have := beyond (bit - 1)
    by_cases zero : bit = 0 <;> simp_all [Nat.one_le_iff_ne_zero]
  · simp [beyond (bit - 1) (by omega), Nat.not_lt_of_gt above, Nat.ne_of_lt above]

/-- What is shifted out comes back as a multiple of the generator. -/
theorem ofBits_step {register : Nat} (inside : register < 2 ^ width) :
    ofBits (step width polynomial register) = ofBits register * X +
      (if register.testBit (width - 1) then generator width polynomial else 0) := by
  rw [step, ofBits_xor, shifted_out inside, ofBits_xor, ofBits_shiftLeft, generator, pow_one]
  split <;> simp [add_assoc]

/-! In the ring of the remainders the steps are multiplications by the root. -/

noncomputable def remainder (width polynomial number : Nat) : AdjoinRoot (generator width polynomial) :=
  AdjoinRoot.mk (generator width polynomial) (ofBits number)

noncomputable def root (width polynomial : Nat) : AdjoinRoot (generator width polynomial) :=
  AdjoinRoot.root (generator width polynomial)

theorem dvd_iff_remainder (number : Nat) :
    generator width polynomial ∣ ofBits number ↔ remainder width polynomial number = 0 :=
  AdjoinRoot.mk_eq_zero.symm

theorem remainder_xor (first second : Nat) :
    remainder width polynomial (first ^^^ second) =
      remainder width polynomial first + remainder width polynomial second := by
  simp [remainder, ofBits_xor]

theorem remainder_shiftLeft (number count : Nat) :
    remainder width polynomial (number <<< count) =
      remainder width polynomial number * root width polynomial ^ count := by
  simp [remainder, root, ofBits_shiftLeft]

theorem remainder_step {register : Nat} (inside : register < 2 ^ width) :
    remainder width polynomial (step width polynomial register) =
      remainder width polynomial register * root width polynomial := by
  rw [remainder, ofBits_step inside]
  split <;> simp [remainder, root]

theorem steps_lt (small : polynomial < 2 ^ width) {register : Nat} (inside : register < 2 ^ width)
    (count : Nat) : (step width polynomial)^[count] register < 2 ^ width := by
  cases count with
  | zero => exact inside
  | succ count =>
      rw [Function.iterate_succ_apply']
      exact step_lt small _

theorem remainder_steps (small : polynomial < 2 ^ width) {register : Nat}
    (inside : register < 2 ^ width) (count : Nat) :
    remainder width polynomial ((step width polynomial)^[count] register) =
      remainder width polynomial register * root width polynomial ^ count := by
  induction count with
  | zero => simp
  | succ count ih =>
      rw [Function.iterate_succ_apply', remainder_step (steps_lt small inside count), ih, pow_succ,
        mul_assoc]

theorem feed_lt (small : polynomial < 2 ^ width) {register word : Nat} (inside : register < 2 ^ width)
    (word_lt : word < 2 ^ width) : feed width polynomial register word < 2 ^ width :=
  steps_lt small (Nat.xor_lt_two_pow inside word_lt) width

theorem remainder_feed (small : polynomial < 2 ^ width) {register word : Nat}
    (inside : register < 2 ^ width) (word_lt : word < 2 ^ width) :
    remainder width polynomial (feed width polynomial register word) =
      (remainder width polynomial register + remainder width polynomial word) *
        root width polynomial ^ width := by
  rw [feed, remainder_steps small (Nat.xor_lt_two_pow inside word_lt), remainder_xor]

theorem number_from (words : List Nat) (front : Nat) :
    words.foldl (fun front word => front <<< width ^^^ word) front =
      front <<< (width * words.length) ^^^ number width words := by
  induction words generalizing front with
  | nil => simp [number]
  | cons word words ih =>
      have first : number width (word :: words) =
          word <<< (width * words.length) ^^^ number width words := by
        rw [number, List.foldl_cons, ih, Nat.zero_shiftLeft, Nat.zero_xor]
      rw [List.foldl_cons, ih, first, List.length_cons, Nat.mul_succ, Nat.add_comm _ width,
        Nat.shiftLeft_add, Nat.shiftLeft_xor_distrib, Nat.xor_assoc]

theorem number_cons (word : Nat) (words : List Nat) :
    number width (word :: words) = word <<< (width * words.length) ^^^ number width words := by
  rw [number, List.foldl_cons, number_from, Nat.zero_shiftLeft, Nat.zero_xor]

theorem number_concat (words : List Nat) (word : Nat) :
    number width (words ++ [word]) = number width words <<< width ^^^ word := by
  simp [number, List.foldl_append]

theorem crc_lt (small : polynomial < 2 ^ width) {register : Nat} (inside : register < 2 ^ width)
    {words : List Nat} (words_lt : ∀ word ∈ words, word < 2 ^ width) :
    crc width polynomial register words < 2 ^ width := by
  induction words generalizing register with
  | nil => exact inside
  | cons word words ih =>
      obtain ⟨here, later⟩ := List.forall_mem_cons.mp words_lt
      exact ih (feed_lt small inside here) later

theorem remainder_crc (small : polynomial < 2 ^ width) {register : Nat}
    (inside : register < 2 ^ width) {words : List Nat} (words_lt : ∀ word ∈ words, word < 2 ^ width) :
    remainder width polynomial (crc width polynomial register words) =
      remainder width polynomial register * root width polynomial ^ (width * words.length) +
        remainder width polynomial (number width words) * root width polynomial ^ width := by
  induction words generalizing register with
  | nil => simp [crc, number, remainder]
  | cons word words ih =>
      obtain ⟨here, later⟩ := List.forall_mem_cons.mp words_lt
      have rest := ih (feed_lt small inside here) later
      rw [crc, List.foldl_cons, ← crc, rest, remainder_feed small inside here, number_cons, remainder_xor,
        remainder_shiftLeft, List.length_cons, Nat.mul_succ, pow_add]
      ring

/-- The register holds the remainder of the words, behind what it held before, by the generator. -/
theorem crc_eq_modByMonic (small : polynomial < 2 ^ width) {register : Nat}
    (inside : register < 2 ^ width) {words : List Nat} (words_lt : ∀ word ∈ words, word < 2 ^ width) :
    ofBits (crc width polynomial register words) =
      (ofBits register * X ^ (width * words.length) + ofBits (number width words) * X ^ width) %ₘ
        generator width polynomial := by
  have monic := generator_monic small
  have reduced : (ofBits (crc width polynomial register words)).degree <
      (generator width polynomial).degree := by
    rw [generator_degree small]
    exact degree_ofBits_lt (crc_lt small inside words_lt)
  rw [← (modByMonic_eq_self_iff monic).mpr reduced]
  refine modByMonic_eq_of_dvd_sub monic ?_
  rw [← AdjoinRoot.mk_eq_mk]
  simpa [remainder, root] using remainder_crc small inside words_lt

/-- Words with their checksum behind them are a multiple of the generator, and no other word
in its place makes them one. -/
theorem crc_eq_iff (small : polynomial < 2 ^ width) {words : List Nat}
    (words_lt : ∀ word ∈ words, word < 2 ^ width) {check : Nat} (check_lt : check < 2 ^ width) :
    crc width polynomial 0 words = check ↔
      generator width polynomial ∣ ofBits (number width (words ++ [check])) := by
  have monic := generator_monic small
  have reduced := degree_ofBits_lt check_lt
  rw [← generator_degree small] at reduced
  have computed := crc_eq_modByMonic small (Nat.two_pow_pos width) words_lt
  rw [ofBits_zero, zero_mul, zero_add] at computed
  rw [← ofBits_injective.eq_iff, computed, number_concat, ofBits_xor, ofBits_shiftLeft, ← neg_ofBits check,
    ← sub_eq_add_neg, neg_ofBits]
  constructor
  · intro same
    refine ⟨ofBits (number width words) * X ^ width /ₘ generator width polynomial, ?_⟩
    have divided := modByMonic_add_div (ofBits (number width words) * X ^ width) (generator width polynomial)
    rw [same] at divided
    rw [sub_eq_iff_eq_add, add_comm]
    exact divided.symm
  · intro divides
    rw [modByMonic_eq_of_dvd_sub monic divides]
    exact (modByMonic_eq_self_iff monic).mpr reduced

/-! Errors that no multiple of the generator hides. -/

theorem dvd_received_iff {sent : Nat} (valid : generator width polynomial ∣ ofBits sent) (received : Nat) :
    generator width polynomial ∣ ofBits received ↔
      generator width polynomial ∣ ofBits (sent ^^^ received) := by
  rw [ofBits_xor]
  exact (dvd_add_right valid).symm

theorem not_dvd_of_lt (small : polynomial < 2 ^ width) {number : Nat} (number_lt : number < 2 ^ width)
    (nonzero : number ≠ 0) : ¬ generator width polynomial ∣ ofBits number := by
  intro divides
  have notZero : ofBits number ≠ 0 := by
    rw [← ofBits_zero]
    exact fun same => nonzero (ofBits_injective same)
  have lower := degree_le_of_dvd divides notZero
  rw [generator_degree small] at lower
  exact absurd (degree_ofBits_lt number_lt) (not_lt_of_ge lower)

theorem generator_coprime_X (positive : 0 < width) (odd : polynomial.testBit 0 = true) :
    IsCoprime (generator width polynomial) X := by
  have constant : (generator width polynomial).coeff 0 = 1 := by
    simp [generator, coeff_X_pow, odd, Nat.ne_of_lt positive]
  have split := divX_mul_X_add (generator width polynomial)
  rw [constant, C_1] at split
  refine ⟨1, -divX (generator width polynomial), ?_⟩
  linear_combination -split

theorem dvd_of_dvd_shiftLeft (positive : 0 < width) (odd : polynomial.testBit 0 = true)
    {number count : Nat} (divides : generator width polynomial ∣ ofBits (number <<< count)) :
    generator width polynomial ∣ ofBits number := by
  rw [ofBits_shiftLeft] at divides
  exact (generator_coprime_X positive odd).pow_right.dvd_of_dvd_mul_right divides

/-- A burst of errors no longer than the checksum. -/
theorem burst_not_dvd (small : polynomial < 2 ^ width) (positive : 0 < width)
    (odd : polynomial.testBit 0 = true) {burst : Nat} (short : burst < 2 ^ width) (nonzero : burst ≠ 0)
    (count : Nat) : ¬ generator width polynomial ∣ ofBits (burst <<< count) :=
  fun divides => not_dvd_of_lt small short nonzero (dvd_of_dvd_shiftLeft positive odd divides)

def ones (number : Nat) : Nat := ((Finset.range number.size).filter (number.testBit ·)).card

theorem eval_one_ofBits (number : Nat) : (ofBits number).eval 1 = (ones number : ZMod 2) := by
  rw [ofBits, eval_finsetSum, ones, Finset.card_filter, Nat.cast_sum]
  refine Finset.sum_congr rfl fun bit _ => ?_
  split <;> simp

/-- An odd number of errors, for a generator with `X + 1` as a factor. -/
theorem odd_not_dvd (even : ones polynomial % 2 = 1) {error : Nat} (odd : ones error % 2 = 1) :
    ¬ generator width polynomial ∣ ofBits error := by
  rintro ⟨factor, same⟩
  have atOne := congrArg (eval 1) same
  rw [eval_mul, generator, eval_add, eval_pow, eval_X, one_pow, eval_one_ofBits, eval_one_ofBits,
    ← ZMod.natCast_mod, odd, ← ZMod.natCast_mod (ones polynomial), even] at atOne
  have zero : (1 : ZMod 2) + ((1 : Nat) : ZMod 2) = 0 := by decide
  rw [zero, zero_mul] at atOne
  exact absurd atOne (by decide)

/-- Two errors, at a distance at which the register does not come back to 1. -/
theorem double_not_dvd (small : polynomial < 2 ^ width) (positive : 0 < width)
    (odd : polynomial.testBit 0 = true) {distance : Nat}
    (away : (step width polynomial)^[distance] 1 ≠ 1) (count : Nat) :
    ¬ generator width polynomial ∣ ofBits ((1 <<< distance ^^^ 1) <<< count) := by
  intro divides
  have one_lt : 1 < 2 ^ width := Nat.one_lt_two_pow (Nat.ne_of_gt positive)
  have unshifted := dvd_of_dvd_shiftLeft positive odd divides
  have back : generator width polynomial ∣ ofBits ((step width polynomial)^[distance] 1 ^^^ 1) := by
    rw [dvd_iff_remainder, remainder_xor] at unshifted ⊢
    rw [remainder_steps small one_lt, ← remainder_shiftLeft]
    exact unshifted
  refine not_dvd_of_lt small (Nat.xor_lt_two_pow (steps_lt small one_lt distance) one_lt) ?_ back
  intro zero
  refine away ?_
  calc (step width polynomial)^[distance] 1
      = ((step width polynomial)^[distance] 1 ^^^ 1) ^^^ 1 := by
        rw [Nat.xor_assoc, Nat.xor_self, Nat.xor_zero]
    _ = 1 := by rw [zero, Nat.zero_xor]

theorem number_lt {words : List Nat} (words_lt : ∀ word ∈ words, word < 2 ^ width) :
    number width words < 2 ^ (width * words.length) := by
  induction words with
  | nil => simp [number]
  | cons word words ih =>
      obtain ⟨here, later⟩ := List.forall_mem_cons.mp words_lt
      rw [number_cons, List.length_cons, Nat.mul_succ]
      refine Nat.xor_lt_two_pow ?_ ?_
      · rw [Nat.shiftLeft_eq, Nat.add_comm, Nat.pow_add]
        exact Nat.mul_lt_mul_of_pos_right here (Nat.two_pow_pos _)
      · exact Nat.lt_of_lt_of_le (ih later) (Nat.pow_le_pow_right (by decide) (Nat.le_add_right _ _))

theorem two_ones {error : Nat} (two : ones error = 2) :
    ∃ distance count, 0 < distance ∧ distance + count < error.size ∧
      error = (1 <<< distance ^^^ 1) <<< count := by
  obtain ⟨first, second, different, set⟩ := Finset.card_eq_two.mp two
  wlog before : first < second generalizing first second
  · exact this second first different.symm (Finset.pair_comm first second ▸ set) (by omega)
  have bits (bit : Nat) : error.testBit bit = true ↔ bit = first ∨ bit = second := by
    have member := Finset.ext_iff.mp set bit
    simp only [Finset.mem_filter, Finset.mem_range, Finset.mem_insert, Finset.mem_singleton] at member
    rw [← member]
    exact ⟨fun on => ⟨testBit_lt_size on, on⟩, fun on => on.2⟩
  refine ⟨second - first, first, by omega, ?_, ?_⟩
  · rw [Nat.sub_add_cancel (Nat.le_of_lt before)]
    exact testBit_lt_size ((bits second).mpr (.inr rfl))
  · apply Nat.eq_of_testBit_eq
    intro bit
    have one (other : Nat) : Nat.testBit 1 other = decide (0 = other) := by
      rw [← Nat.testBit_two_pow, Nat.pow_zero]
    rw [Bool.eq_iff_iff, bits, Nat.testBit_shiftLeft, Nat.testBit_xor, Nat.one_shiftLeft,
      Nat.testBit_two_pow, one]
    grind

end Register

end Crc
