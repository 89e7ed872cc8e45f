import Mathlib.Logic.Function.Basic

/-!
Stores addressed by natural numbers: a cell for every address, reads and writes of
consecutive ranges, and loops that rewrite a range in place. Memories of bytes,
register files and coil tables are all such stores.
-/

namespace RangeStore

variable {α β : Type*}

def readRange (store : Nat → α) (start count : Nat) : List α :=
  (List.range count).map fun index => store (start + index)

/-- The store after `values` were written to consecutive cells from `start` on. -/
def writeRange (store : Nat → α) (start : Nat) (values : List α) : Nat → α :=
  fun cell => if start ≤ cell then (values[cell - start]?).getD (store cell) else store cell

@[simp] theorem readRange_length (store : Nat → α) (start count : Nat) :
    (readRange store start count).length = count := by
  simp [readRange]

@[simp] theorem readRange_getElem? (store : Nat → α) (start count index : Nat) :
    (readRange store start count)[index]? =
      if index < count then some (store (start + index)) else none := by
  by_cases bound : index < count <;> simp [readRange, bound]

theorem readRange_congr {first second : Nat → α} {start count : Nat}
    (same : ∀ cell, start ≤ cell → cell < start + count → first cell = second cell) :
    readRange first start count = readRange second start count := by
  apply List.map_congr_left
  intro index member
  have bound := List.mem_range.mp member
  exact same (start + index) (by omega) (by omega)

theorem writeRange_inside (store : Nat → α) (start : Nat) (values : List α) (cell : Nat)
    (lower : start ≤ cell) (upper : cell - start < values.length) :
    writeRange store start values cell = values[cell - start] := by
  simp [writeRange, lower, upper]

theorem writeRange_outside (store : Nat → α) (start : Nat) (values : List α) (cell : Nat)
    (outside : cell < start ∨ start + values.length ≤ cell) :
    writeRange store start values cell = store cell := by
  simp only [writeRange]
  split
  · have absent : values.length ≤ cell - start := by omega
    simp [absent]
  · rfl

theorem writeRange_at (store : Nat → α) (start : Nat) (values : List α) (index : Nat) :
    writeRange store start values (start + index) =
      values[index]?.getD (store (start + index)) := by
  simp [writeRange]

theorem readRange_writeRange_same (store : Nat → α) (start : Nat) (values : List α) :
    readRange (writeRange store start values) start values.length = values := by
  apply List.ext_getElem (by simp)
  intro index _ bound
  have inside := writeRange_inside store start values (start + index) (by omega)
    (by simpa using bound)
  simpa [readRange] using inside

theorem readRange_writeRange_apart (store : Nat → α) (start : Nat) (values : List α)
    (first count : Nat) (apart : first + count ≤ start ∨ start + values.length ≤ first) :
    readRange (writeRange store start values) first count = readRange store first count := by
  apply readRange_congr
  intro cell lower upper
  exact writeRange_outside store start values cell (by omega)

theorem readRange_append (store : Nat → α) (start first second : Nat) :
    readRange store start (first + second) =
      readRange store start first ++ readRange store (start + first) second := by
  simp [readRange, List.range_add, Nat.add_assoc]

theorem readRange_writeRange_front (store : Nat → α) (start : Nat) (values : List α) (rest : Nat) :
    readRange (writeRange store start values) start (values.length + rest) =
      values ++ readRange store (start + values.length) rest := by
  rw [readRange_append, readRange_writeRange_same,
    readRange_writeRange_apart _ _ _ _ _ (.inr (Nat.le_refl _))]

theorem writeRange_covered (store : Nat → α) (start : Nat) (values longer : List α)
    (covered : values.length ≤ longer.length) :
    writeRange (writeRange store start values) start longer = writeRange store start longer := by
  funext cell
  by_cases inside : start ≤ cell ∧ cell - start < longer.length
  · rw [writeRange_inside _ _ _ _ inside.1 inside.2, writeRange_inside _ _ _ _ inside.1 inside.2]
  · rw [writeRange_outside _ _ _ _ (by omega), writeRange_outside _ _ _ _ (by omega),
      writeRange_outside _ _ _ _ (by omega)]

/-- Two writes one behind the other are one write. -/
theorem writeRange_append (store : Nat → α) (start : Nat) (first second : List α) :
    writeRange (writeRange store start first) (start + first.length) second =
      writeRange store start (first ++ second) := by
  funext cell
  by_cases before : cell < start + first.length
  · rw [writeRange_outside _ _ _ _ (.inl before)]
    by_cases below : cell < start
    · rw [writeRange_outside _ _ _ _ (.inl below), writeRange_outside _ _ _ _ (.inl below)]
    · rw [writeRange_inside _ _ _ _ (by omega) (by omega),
        writeRange_inside _ _ _ _ (by omega) (by simp; omega), List.getElem_append_left]
  · by_cases inside : cell - (start + first.length) < second.length
    · rw [writeRange_inside _ _ _ _ (by omega) inside,
        writeRange_inside _ _ _ _ (by omega) (by simp; omega),
        List.getElem_append_right (by omega)]
      congr 1
      omega
    · rw [writeRange_outside _ _ _ _ (by omega), writeRange_outside _ _ _ _ (by omega),
        writeRange_outside _ _ _ _ (by simp; omega)]

/-! Counted loops, and the invariant rule that reasons about them. -/

/-- `for (i = 0; i < n; ++i) body(i)` -/
def loop (body : Nat → β → β) : Nat → β → β
  | 0, state => state
  | count + 1, state => body count (loop body count state)

@[simp] theorem loop_zero (body : Nat → β → β) (state : β) : loop body 0 state = state := rfl

theorem loop_succ (body : Nat → β → β) (count : Nat) (state : β) :
    loop body (count + 1) state = body count (loop body count state) := rfl

theorem loop_invariant {body : Nat → β → β} {count : Nat} {state : β} (invariant : Nat → β → Prop)
    (initial : invariant 0 state)
    (step : ∀ index current, index < count → invariant index current →
      invariant (index + 1) (body index current)) :
    invariant count (loop body count state) := by
  induction count with
  | zero => exact initial
  | succ count ih =>
      rw [loop_succ]
      apply step count _ (by omega)
      exact ih fun index current bound => step index current (by omega)

/-- The same loop on an eight-bit counter, cut off after its 256 values. -/
def byteLoopFrom (body : UInt8 → β → β) (bound : UInt8) : Nat → UInt8 → β → β
  | 0, _, state => state
  | fuel + 1, index, state =>
      if index < bound then byteLoopFrom body bound fuel (index + 1) (body index state) else state

/-- `for (uint8_t i = 0; i < bound; ++i) body(i)` -/
def byteLoop (body : UInt8 → β → β) (bound : UInt8) (state : β) : β :=
  byteLoopFrom body bound 256 0 state

theorem byteLoopFrom_eq_loop (body : Nat → β → β) (bound : UInt8) (fuel : Nat) (index : UInt8)
    (state : β) (lower : index ≤ bound) (enough : bound.toNat ≤ index.toNat + fuel) :
    byteLoopFrom (fun counter => body counter.toNat) bound fuel index
      (loop body index.toNat state) = loop body bound.toNat state := by
  have inOrder : index.toNat ≤ bound.toNat := UInt8.le_iff_toNat_le.mp lower
  induction fuel generalizing index with
  | zero =>
      have same : index.toNat = bound.toNat := by omega
      simp [byteLoopFrom, same]
  | succ fuel ih =>
      simp only [byteLoopFrom]
      split
      · rename_i below
        have belowNat : index.toNat < bound.toNat := UInt8.lt_iff_toNat_lt.mp below
        have boundLimit := bound.toNat_lt
        -- the counter stays below its bound, so it never wraps
        have next : (index + 1).toNat = index.toNat + 1 := by
          rw [UInt8.toNat_add]
          simp
          omega
        rw [← loop_succ body, ← next]
        exact ih (index + 1) (by rw [UInt8.le_iff_toNat_le]; omega) (by omega) (by omega)
      · rename_i notBelow
        have notBelowNat : ¬ index.toNat < bound.toNat := fun below =>
          notBelow (UInt8.lt_iff_toNat_lt.mpr below)
        have same : index.toNat = bound.toNat := by omega
        rw [same]

/-- An eight-bit counter runs through any eight-bit bound, 255 included. -/
theorem byteLoop_eq_loop (body : Nat → β → β) (bound : UInt8) (state : β) :
    byteLoop (fun counter => body counter.toNat) bound state = loop body bound.toNat state := by
  have boundLimit := bound.toNat_lt
  exact byteLoopFrom_eq_loop body bound 256 0 state (by simp) (by simp; omega)

def mapRange (f : α → α) (start count : Nat) (store : Nat → α) : Nat → α :=
  fun cell => if start ≤ cell ∧ cell < start + count then f (store cell) else store cell

def mapCell (f : α → α) (cell : Nat) (store : Nat → α) : Nat → α :=
  Function.update store cell (f (store cell))

@[simp] theorem loop_mapCell (f : α → α) (start count : Nat) (store : Nat → α) :
    loop (fun index => mapCell f (start + index)) count store = mapRange f start count store := by
  apply loop_invariant (fun index current => current = mapRange f start index store)
  · funext cell
    simp only [mapRange]
    split
    · omega
    · rfl
  · intro index current _ sofar
    subst sofar
    funext cell
    by_cases here : cell = start + index
    · subst cell
      simp [mapCell, mapRange]
    · rw [mapCell, Function.update_of_ne here]
      simp only [mapRange]
      congr 1
      simp only [eq_iff_iff]
      omega

theorem mapRange_outside (f : α → α) (start count : Nat) (store : Nat → α) (cell : Nat)
    (outside : cell < start ∨ start + count ≤ cell) :
    mapRange f start count store cell = store cell := by
  rw [mapRange, if_neg (by omega)]

theorem readRange_mapRange (f : α → α) (start count : Nat) (store : Nat → α) :
    readRange (mapRange f start count store) start count = (readRange store start count).map f := by
  simp only [readRange, List.map_map]
  apply List.map_congr_left
  intro index member
  have bound := List.mem_range.mp member
  simp [mapRange, bound]

/-- Cells exchanged in pairs: the first `count` pairs from `start` on, nothing else moved. -/
def swapPairs (start count : Nat) (store : Nat → α) : Nat → α :=
  fun cell =>
    if start ≤ cell ∧ cell < start + 2 * count then
      if (cell - start) % 2 = 0 then store (cell + 1) else store (cell - 1)
    else store cell

def swapPair (first : Nat) (store : Nat → α) : Nat → α :=
  writeRange store first [store (first + 1), store first]

theorem swapPair_apply (first : Nat) (store : Nat → α) (cell : Nat) :
    swapPair first store cell =
      if cell = first then store (first + 1)
      else if cell = first + 1 then store first else store cell := by
  by_cases isFirst : cell = first
  · subst cell
    simp [swapPair, writeRange]
  · by_cases isSecond : cell = first + 1
    · subst cell
      simp [swapPair, writeRange]
    · rw [swapPair, writeRange_outside _ _ _ _ (by simp; omega)]
      simp [isFirst, isSecond]

@[simp] theorem loop_swapPairs (start count : Nat) (store : Nat → α) :
    loop (fun index => swapPair (start + 2 * index)) count store = swapPairs start count store := by
  apply loop_invariant (fun index current => current = swapPairs start index store)
  · funext cell
    simp only [swapPairs]
    split
    · omega
    · rfl
  · intro index current _ sofar
    subst sofar
    funext cell
    rw [swapPair_apply]
    -- the pairs before this one end where it starts, so it is still as it was
    have untouched (other : Nat) (beyond : start + 2 * index ≤ other) :
        swapPairs start index store other = store other := by
      rw [swapPairs, if_neg (by omega)]
    by_cases isFirst : cell = start + 2 * index
    · subst cell
      rw [if_pos rfl, untouched _ (by omega), swapPairs, if_pos (by omega), if_pos (by omega)]
    · by_cases isSecond : cell = start + 2 * index + 1
      · subst cell
        rw [if_neg (by omega), if_pos rfl, untouched _ (by omega), swapPairs, if_pos (by omega),
          if_neg (by omega), Nat.add_sub_cancel]
      · simp only [isFirst, isSecond, if_false, swapPairs]
        congr 1
        simp only [eq_iff_iff]
        omega

theorem readRange_swapPairs_congr {first second : Nat → α} {start count : Nat}
    (same : ∀ cell, start ≤ cell → cell < start + 2 * count → first cell = second cell) :
    readRange (swapPairs start count first) start (2 * count) =
      readRange (swapPairs start count second) start (2 * count) := by
  apply readRange_congr
  intro cell lower upper
  simp only [swapPairs, if_pos (⟨lower, upper⟩ : start ≤ cell ∧ cell < start + 2 * count)]
  split
  · exact same _ (by omega) (by omega)
  · exact same _ (by omega) (by omega)

theorem swapPairs_outside (start count : Nat) (store : Nat → α) (cell : Nat)
    (outside : cell < start ∨ start + 2 * count ≤ cell) :
    swapPairs start count store cell = store cell := by
  rw [swapPairs, if_neg (by omega)]

end RangeStore
