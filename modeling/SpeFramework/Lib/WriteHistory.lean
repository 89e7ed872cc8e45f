import SpeFramework.Lib.RangeStore

/-!
Histories of range writes: the value last written to a cell, and the store that a system
reaches when each of its steps applies at most one write.
-/

namespace RangeStore

variable {α σ ρ : Type*}

structure RangeWrite (α : Type*) where
  start : Nat
  values : List α

/-- The value last written to a cell by a history that lists its newest write first. -/
def lastWritten (initial : Nat → α) : List (RangeWrite α) → Nat → α
  | [], cell => initial cell
  | write :: earlier, cell =>
      if inside : write.start ≤ cell ∧ cell - write.start < write.values.length then
        write.values[cell - write.start]
      else lastWritten initial earlier cell

def RangeWrite.apply (store : Nat → α) (write : RangeWrite α) : Nat → α :=
  writeRange store write.start write.values

theorem lastWritten_cons (initial : Nat → α) (write : RangeWrite α) (earlier : List (RangeWrite α)) :
    lastWritten initial (write :: earlier) = write.apply (lastWritten initial earlier) := by
  funext cell
  simp only [lastWritten, RangeWrite.apply]
  split
  · rename_i inside
    exact (writeRange_inside _ _ _ _ inside.1 inside.2).symm
  · rename_i outside
    exact (writeRange_outside _ _ _ _ (by omega)).symm

theorem lastWritten_append (initial : Nat → α) (newer older : List (RangeWrite α)) :
    lastWritten initial (newer ++ older) = lastWritten (lastWritten initial older) newer := by
  induction newer with
  | nil => rfl
  | cons write newer ih => rw [List.cons_append, lastWritten_cons, lastWritten_cons, ih]

section Histories

variable (step : σ → ρ → σ)

/-- The writes of a run, oldest first, where `written` says what a request writes in a state. -/
def writesOf (written : σ → ρ → Option (RangeWrite α)) : σ → List ρ → List (RangeWrite α)
  | _, [] => []
  | state, request :: later =>
      (written state request).toList ++ writesOf written (step state request) later

theorem writesOf_eq_filterMap (written : ρ → Option (RangeWrite α)) (state : σ) (requests : List ρ) :
    writesOf step (fun _ => written) state requests = requests.filterMap written := by
  induction requests generalizing state with
  | nil => rfl
  | cons request later ih =>
      rw [writesOf, ih, List.filterMap_cons]
      cases written request <;> rfl

/-- A run whose steps each apply the write of their request, or none, reaches the store that was
last written. -/
theorem run_lastWritten (store : σ → Nat → α) (written : σ → ρ → Option (RangeWrite α))
    (invariant : σ → Prop) (allowed : ρ → Prop)
    (kept : ∀ state request, invariant state → allowed request → invariant (step state request))
    (applied : ∀ state request, invariant state → allowed request →
      store (step state request) =
        ((written state request).map (RangeWrite.apply (store state))).getD (store state))
    (state : σ) (start : invariant state) (requests : List ρ)
    (all : ∀ request ∈ requests, allowed request) :
    invariant (requests.foldl step state) ∧
      store (requests.foldl step state) =
        lastWritten (store state) (writesOf step written state requests).reverse := by
  induction requests generalizing state with
  | nil => exact ⟨start, rfl⟩
  | cons request later ih =>
      have allowedHere := all request List.mem_cons_self
      obtain ⟨invariantThen, storeThen⟩ := ih (step state request) (kept _ _ start allowedHere)
        fun other member => all other (List.mem_cons_of_mem _ member)
      refine ⟨invariantThen, ?_⟩
      rw [List.foldl_cons, storeThen, applied _ _ start allowedHere, writesOf, List.reverse_append,
        lastWritten_append]
      cases here : written state request with
      | none => rfl
      | some write => exact congrArg (lastWritten · _) (lastWritten_cons _ write []).symm

end Histories

end RangeStore
