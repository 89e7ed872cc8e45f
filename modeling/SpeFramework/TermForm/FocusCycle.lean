import SpeFramework.TermForm.FocusInvariant

/-!
`move_cursor_to_next` and `move_cursor_to_prev` of the container that holds the focused control:
the focus goes round the focusable controls of the form in their order.
-/

namespace SpeFramework.TermForm

open OrderedTree

/-- Forms that were set, got keys, and had containers on the way to the focus moved. -/
inductive Reachable (base : Component) : FocusState → Prop
  | set : Reachable base (formSet base .fresh)
  | call {state after : FocusState} (event : FormEvent) : Reachable base state →
      formCall base state event = some after → Reachable base after
  | move {state : FocusState} (dir : Direction) {path rest : Path} {index : Nat} :
      Reachable base state → followCursor base [] state = some (path ++ index :: rest) →
      Reachable base (moveCursorFrom dir base path.reverse state).2

/-- The container that holds the focused control is asked to move. -/
def moveFocus (dir : Direction) (base : Component) (state : FocusState) : FocusState :=
  match followCursor base [] state with
  | none => state
  | some focused =>
      match dir with
      | .forward => (moveCursorToNext base focused.dropLast state).2
      | .backward => (moveCursorToPrev base focused.dropLast state).2

/-- From `focused` on, moves go round the focusable controls of the form. -/
structure GoesRound (base : Component) (focused : Path) (state : FocusState) : Prop where
  start : FocusOn base focused state
  next : ∀ member, FocusOn base ((focusables base).next focused member) (moveFocus .forward base state)
  prev : ∀ member, FocusOn base ((focusables base).prev focused member) (moveFocus .backward base state)
  next_prev : FocusOn base focused (moveFocus .backward base (moveFocus .forward base state))
  prev_next : FocusOn base focused (moveFocus .forward base (moveFocus .backward base state))
  visits : ∃ visited : List Path, visited.Perm (focusables base) ∧
    ∀ moves target, visited[moves]? = some target →
      FocusOn base target ((moveFocus .forward base)^[moves + 1] state)
  returns : FocusOn base focused ((moveFocus .forward base)^[(focusables base).length] state)

section Cycle

variable {kind : ContainerKind} {components : List Component} {state : FocusState}

theorem reachable_wellFocused (some_focusable : focusables (container kind components) ≠ [])
    (reachable : Reachable (container kind components) state) :
    WellFocused (container kind components) state := by
  induction reachable with
  | set => exact giveFocus_wellFocused some_focusable fresh_quiet
  | call event _ called ih =>
      obtain ⟨after, same, kept⟩ := formCall_wellFocused event ih
      obtain rfl := Option.some.inj (same.symm.trans called)
      exact kept
  | move dir _ way ih =>
      obtain ⟨target, member, focused⟩ := ih
      obtain rfl := Option.some.inj ((focused.focusOn member).reached.symm.trans way)
      obtain ⟨next, listed, arrived, -⟩ := move_wellFocused dir focused member
      exact ⟨next, listed, arrived⟩

theorem focused_concat {target : Path} (member : target ∈ focusables (container kind components)) :
    ∃ path index, target = path ++ [index] ∧ target.dropLast = path := by
  have there := mem_focusables.mp member
  have apart : target ≠ [] := by
    rintro rfl
    simp [subtree] at there
  exact ⟨target.dropLast, target.getLast apart, (List.dropLast_append_getLast apart).symm, rfl⟩

theorem moveFocus_focusedAt (dir : Direction) {target : Path}
    (focused : FocusedAt target state)
    (member : target ∈ leaves id dir (container kind components)) :
    FocusedAt ((leaves id dir (container kind components)).next target member)
      (moveFocus dir (container kind components) state) := by
  have listed : target ∈ focusables (container kind components) :=
    (mem_leaves_direction id dir).mp member
  obtain ⟨path, index, concat, holder⟩ := focused_concat listed
  have moves : moveFocus dir (container kind components) state =
      (moveCursorFrom dir (container kind components) path.reverse state).2 := by
    rw [moveFocus, (focused.focusOn listed).reached]
    cases dir <;> simp only [holder] <;> rfl
  rw [moves]
  obtain ⟨next, -, arrived, later⟩ := move_wellFocused dir (concat ▸ focused) (concat ▸ listed)
  have cyclic := head?_laterThan dir (mem_focusables.mp listed) rfl member
  rw [← concat, cyclic] at later
  rwa [Option.some.inj later]

theorem nodup_focusables (base : Component) : (focusables base).Nodup := nodup_leaves id base

theorem next_focusedAt {target : Path} (focused : FocusedAt target state)
    (member : target ∈ focusables (container kind components)) :
    FocusedAt ((focusables (container kind components)).next target member)
      (moveFocus .forward (container kind components) state) :=
  moveFocus_focusedAt .forward focused member

theorem prev_focusedAt {target : Path} (focused : FocusedAt target state)
    (member : target ∈ focusables (container kind components)) :
    FocusedAt ((focusables (container kind components)).prev target member)
      (moveFocus .backward (container kind components) state) := by
  have backward : leaves id .backward (container kind components) =
      (focusables (container kind components)).reverse := leaves_backward id _
  have listed : target ∈ leaves id .backward (container kind components) :=
    (mem_leaves_direction id .backward).mpr member
  have moved := moveFocus_focusedAt .backward focused listed
  revert moved listed
  rw [backward]
  intro listed moved
  rwa [List.next_reverse_eq_prev _ (nodup_focusables _) target member] at moved

theorem nexts_focusedAt {index : Nat} (bound : index < (focusables (container kind components)).length)
    (focused : FocusedAt (focusables (container kind components))[index] state) (moves : Nat) :
    ∃ target, (focusables (container kind components))[
        (index + moves) % (focusables (container kind components)).length]? = some target ∧
      FocusedAt target ((moveFocus .forward (container kind components))^[moves] state) := by
  have nonempty : 0 < (focusables (container kind components)).length := by omega
  induction moves with
  | zero =>
      refine ⟨_, ?_, focused⟩
      rw [Nat.add_zero, Nat.mod_eq_of_lt bound, List.getElem?_eq_getElem bound]
  | succ moves ih =>
      obtain ⟨target, place, there⟩ := ih
      obtain ⟨inside, rfl⟩ := List.getElem?_eq_some_iff.mp place
      have moved := next_focusedAt there (List.getElem_mem inside)
      rw [List.next_getElem _ (nodup_focusables _)] at moved
      rw [Function.iterate_succ_apply']
      refine ⟨_, ?_, moved⟩
      rw [← Nat.add_assoc, List.getElem?_eq_getElem (Nat.mod_lt _ nonempty)]
      simp only [Nat.mod_add_mod]

theorem moves_goRound (some_focusable : focusables (container kind components) ≠ [])
    (reachable : Reachable (container kind components) state) :
    ∃ focused ∈ focusables (container kind components),
      GoesRound (container kind components) focused state := by
  obtain ⟨focused, member, there⟩ := reachable_wellFocused some_focusable reachable
  have nodup := nodup_focusables (container kind components)
  obtain ⟨index, bound, rfl⟩ := List.getElem_of_mem member
  have next := next_focusedAt there member
  have prev := prev_focusedAt there member
  have next_mem := List.next_mem _ _ member
  have prev_mem := List.prev_mem _ _ member
  refine ⟨_, member, there.focusOn member, fun _ => next.focusOn next_mem,
    fun _ => prev.focusOn prev_mem, ?_, ?_, ?_, ?_⟩
  · have back := prev_focusedAt next next_mem
    rw [List.prev_next _ nodup] at back
    exact back.focusOn member
  · have forth := next_focusedAt prev prev_mem
    rw [List.next_prev _ nodup] at forth
    exact forth.focusOn member
  · refine ⟨(focusables (container kind components)).rotate (index + 1), List.rotate_perm _ _, ?_⟩
    intro moves target visited
    obtain ⟨inside, rfl⟩ := List.getElem?_eq_some_iff.mp visited
    obtain ⟨target, place, arrived⟩ := nexts_focusedAt bound there (moves + 1)
    have later : moves + (index + 1) = index + (moves + 1) := by omega
    rw [List.getElem_rotate]
    simp only [later]
    obtain ⟨inside, rfl⟩ := List.getElem?_eq_some_iff.mp place
    exact arrived.focusOn (List.getElem_mem inside)
  · obtain ⟨target, place, arrived⟩ := nexts_focusedAt bound there
      (focusables (container kind components)).length
    rw [Nat.add_mod_right, Nat.mod_eq_of_lt bound, List.getElem?_eq_getElem bound] at place
    obtain rfl := Option.some.inj place
    exact arrived.focusOn member

end Cycle

/-! Two rows in a column: from the last control of the first row to the first of the second. -/

def twoRows : List Component :=
  [container .row [control true, control true], control false, container .row [control true]]

theorem twoRows_goRound :
    ∃ focused ∈ focusables (container .column twoRows),
      GoesRound (container .column twoRows) focused
        (moveFocus .forward (container .column twoRows) (formSet (container .column twoRows) .fresh)) := by
  have reached : followCursor (container .column twoRows) []
      (formSet (container .column twoRows) .fresh) = some ([0] ++ 0 :: []) := rfl
  exact moves_goRound (by decide) (.move .forward .set reached)

end SpeFramework.TermForm
