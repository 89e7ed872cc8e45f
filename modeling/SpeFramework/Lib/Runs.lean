import Mathlib.Data.List.Basic

/-!
Runs of a machine `step : S → E → S` as folds over its events, and the rules that carry a
fact about one step to every step of a run.
-/

namespace Runs

variable {S E : Type*} (step : S → E → S)

/-- Each event of the run meets `P` in the state that event finds. -/
def Throughout (P : S → E → Prop) : S → List E → Prop
  | _, [] => True
  | s, event :: events => P s event ∧ Throughout P (step s event) events

instance decidableThroughout (P : S → E → Prop) [∀ s event, Decidable (P s event)] :
    ∀ s events, Decidable (Throughout step P s events)
  | _, [] => isTrue trivial
  | s, event :: events =>
      haveI := decidableThroughout P (step s event) events
      inferInstanceAs (Decidable (P s event ∧ Throughout step P (step s event) events))

theorem throughout_iff_split (P : S → E → Prop) (s : S) (events : List E) :
    Throughout step P s events ↔
      ∀ before event after, events = before ++ event :: after → P (before.foldl step s) event := by
  induction events generalizing s with
  | nil => simp [Throughout]
  | cons first events ih =>
      rw [Throughout, ih]
      constructor
      · intro ⟨here, later⟩ before event after split
        cases before with
        | nil =>
            obtain ⟨rfl, -⟩ := List.cons.inj split
            exact here
        | cons head before =>
            obtain ⟨rfl, rest⟩ := List.cons.inj split
            exact later before event after rest
      · intro all
        constructor
        · exact all [] first events rfl
        · intro before event after split
          exact all (first :: before) event after (by rw [split, List.cons_append])

theorem throughout_event_iff (P : E → Prop) (s : S) (events : List E) :
    Throughout step (fun _ event => P event) s events ↔ ∀ event ∈ events, P event := by
  induction events generalizing s with
  | nil => simp [Throughout]
  | cons event events ih => simp [Throughout, ih]

theorem throughout_append (P : S → E → Prop) (s : S) (first second : List E) :
    Throughout step P s (first ++ second) ↔
      Throughout step P s first ∧ Throughout step P (first.foldl step s) second := by
  induction first generalizing s with
  | nil => simp [Throughout]
  | cons event first ih => simp [Throughout, ih, and_assoc]

variable {step} {P Q : S → E → Prop} {Inv : S → Prop}

theorem Throughout.and {s : S} {events : List E} (left : Throughout step P s events)
    (right : Throughout step Q s events) :
    Throughout step (fun s event => P s event ∧ Q s event) s events := by
  induction events generalizing s with
  | nil => trivial
  | cons event events ih => exact ⟨⟨left.1, right.1⟩, ih left.2 right.2⟩

theorem invariant_run (keeps : ∀ s event, Inv s → P s event → Inv (step s event)) {s : S}
    {events : List E} (start : Inv s) (meets : Throughout step P s events) :
    Inv (events.foldl step s) := by
  induction events generalizing s with
  | nil => exact start
  | cons event events ih =>
      obtain ⟨here, later⟩ := meets
      exact ih (keeps s event start here) later

/-- Two step predicates that agree under an invariant hold throughout the same runs, when
the steps that meet them keep that invariant. -/
theorem throughout_congr (same : ∀ s event, Inv s → (P s event ↔ Q s event))
    (keeps : ∀ s event, Inv s → Q s event → Inv (step s event)) {s : S} (start : Inv s)
    (events : List E) : Throughout step P s events ↔ Throughout step Q s events := by
  induction events generalizing s with
  | nil => exact Iff.rfl
  | cons event events ih =>
      simp only [Throughout, same s event start]
      constructor
      · intro ⟨here, later⟩
        exact ⟨here, (ih (keeps s event start here)).mp later⟩
      · intro ⟨here, later⟩
        exact ⟨here, (ih (keeps s event start here)).mpr later⟩

end Runs
