import SpeFramework.TermForm.FocusMoves

/-!
Runs of a form from `form::set` on: one focusable control has the focus, and the cursors lead
from the base container to it.
-/

namespace SpeFramework.TermForm

open OrderedTree

/-- `target` has the focus, nothing else has it, and the cursors lead there. -/
structure FocusOn (base : Component) (target : Path) (state : FocusState) : Prop where
  only : ∀ path, state.hasFocus path = true ↔ path = target
  reached : followCursor base [] state = some target

theorem followCursorAt_eq {components : List Component} {index : Nat} {component : Component}
    (there : components[index]? = some component) (path : Path) (state : FocusState) :
    followCursorAt components index path state = followCursor component path state :=
  select_child (fun components index => followCursorAt components index path state)
    (fun component => followCursor component path state) (fun _ _ => rfl) (fun _ _ _ => rfl) there

theorem inputAt_eq {base : Component} {chr : Int} {handled : Bool} {components : List Component}
    {index : Nat} {component : Component} (there : components[index]? = some component)
    (path : Path) (state : FocusState) :
    inputAt base chr handled components index path state =
      input base chr handled component path state :=
  select_child (fun components index => inputAt base chr handled components index path state)
    (fun component => input base chr handled component path state) (fun _ _ => rfl)
    (fun _ _ _ => rfl) there

theorem followCursor_aimed {component : Component} {path rest : Path} {focusable : Bool}
    {state : FocusState} (aimed : Aimed (path ++ rest) state)
    (there : subtree rest component = some (control focusable)) :
    followCursor component path state = some (path ++ rest) := by
  induction rest generalizing component path with
  | nil =>
      obtain rfl := Option.some.inj there
      rw [followCursor, List.append_nil]
  | cons index rest ih =>
      cases component with
      | leaf focusable => simp [subtree] at there
      | node kind components =>
          obtain ⟨child, here, below⟩ := Option.bind_eq_some_iff.mp there
          have pointed := aimed path index rest rfl
          have split : path ++ index :: rest = path ++ [index] ++ rest := by simp
          simp only [followCursor, pointed]
          rw [followCursorAt_eq here, split]
          exact ih (split ▸ aimed) below

section Form

variable {base : Component} {state : FocusState}

theorem mem_focusables {target : Path} :
    target ∈ focusables base ↔ subtree target base = some (control true) := by
  rw [focusables, mem_leaves]
  simp

theorem FocusedAt.focusOn {target : Path} (focused : FocusedAt target state)
    (member : target ∈ focusables base) : FocusOn base target state := by
  have aimed : Aimed ([] ++ target) state := focused.aimed
  exact ⟨focused.only, followCursor_aimed aimed (mem_focusables.mp member)⟩

theorem leaves_ne_nil (some_focusable : focusables base ≠ []) (dir : Direction) :
    leaves id dir base ≠ [] := by
  cases dir with
  | forward => exact some_focusable
  | backward =>
      rw [leaves_backward, ne_eq, List.reverse_eq_nil_iff]
      exact some_focusable

/-- Some focusable control of the form has the focus. -/
def WellFocused (base : Component) (state : FocusState) : Prop :=
  ∃ target ∈ focusables base, FocusedAt target state

/-- A container on the way to the focus moves it to what comes behind the container's cursor. -/
theorem move_wellFocused (dir : Direction) {path rest : Path} {index : Nat}
    (focused : FocusedAt (path ++ index :: rest) state)
    (member : path ++ index :: rest ∈ focusables base) :
    ∃ target ∈ focusables base, FocusedAt target (moveCursorFrom dir base path.reverse state).2 ∧
      (laterThan id dir (path ++ [index]) base ++ leaves id dir base).head? = some target := by
  have there := mem_focusables.mp member
  have some_focusable := leaves_ne_nil (List.ne_nil_of_mem member) dir
  obtain ⟨child, onWay, -⟩ : ∃ child, subtree (path ++ [index]) base = some child ∧
      subtree rest child = some (control true) := by
    rw [List.append_cons, subtree_append] at there
    exact Option.bind_eq_some_iff.mp there
  obtain ⟨kind, components, parent, -⟩ := subtree_concat onWay
  have reversed : path.reverse.reverse = path := List.reverse_reverse path
  obtain ⟨target, after, moved, arrived, later⟩ := moveCursorFrom_focused some_focusable
    (reversed.symm ▸ parent) (reversed.symm ▸ focused) (reversed.symm ▸ there)
  rw [reversed] at later
  rw [moved]
  refine ⟨target, ?_, arrived, later⟩
  have listed := List.mem_of_mem_head? (Option.mem_def.mpr later)
  rw [focusables, ← mem_leaves_direction id dir]
  rcases List.mem_append.mp listed with behind | among
  · exact mem_of_mem_laterThan id onWay behind
  · exact among

theorem containerKey_cases (base : Component) (kind : ContainerKind) (chr : Int) (path : Path)
    (state : FocusState) :
    containerKey base kind chr path state = (false, state) ∨
      ∃ dir, containerKey base kind chr path state =
        (true, (moveCursorFrom dir base path.reverse state).2) := by
  cases kind with
  | row =>
      simp only [containerKey]
      split
      · exact .inr ⟨.forward, rfl⟩
      · split
        · exact .inr ⟨.backward, rfl⟩
        · exact .inl rfl
  | column =>
      simp only [containerKey]
      split
      · exact .inr ⟨.backward, rfl⟩
      · split
        · exact .inr ⟨.forward, rfl⟩
        · exact .inl rfl

/-- Of the controls and containers asked, the last one that leaves the key changed nothing. -/
theorem input_wellFocused (chr : Int) (handled : Bool) {component : Component} {path rest : Path}
    (there : subtree path base = some component) (below : subtree rest component = some (control true))
    (focused : FocusedAt (path ++ rest) state) :
    ∃ result after, input base chr handled component path state = some (result, after) ∧
      (result = false → after = state) ∧ WellFocused base after := by
  have member : path ++ rest ∈ focusables base := by
    rw [mem_focusables, subtree_append, there]
    exact below
  induction rest generalizing component path with
  | nil =>
      obtain rfl := Option.some.inj below
      exact ⟨handled, state, rfl, fun _ => rfl, _, member, focused⟩
  | cons index rest ih =>
      cases component with
      | leaf focusable => simp [subtree] at below
      | node kind components =>
          obtain ⟨child, here, deeper⟩ := Option.bind_eq_some_iff.mp below
          have child_there : subtree (path ++ [index]) base = some child := by
            rw [subtree_append, there]
            simpa [subtree] using here
          have split : path ++ index :: rest = path ++ [index] ++ rest := by simp
          obtain ⟨result, after, asked, unchanged, kept⟩ :=
            ih child_there deeper (split ▸ focused) (split ▸ member)
          simp only [input, focused.aimed path index rest rfl]
          rw [inputAt_eq here, asked]
          cases result with
          | true => exact ⟨true, after, rfl, by simp, kept⟩
          | false =>
              obtain rfl := unchanged rfl
              rcases containerKey_cases base kind chr path after with left | ⟨dir, moved⟩
              · exact ⟨false, after, congrArg some left, fun _ => rfl, kept⟩
              · obtain ⟨target, listed, arrived, -⟩ := move_wellFocused dir focused member
                exact ⟨true, _, congrArg some moved, by simp, target, listed, arrived⟩

/-! Runs of a form whose base container is `container kind components`. -/

variable {kind : ContainerKind} {components : List Component}

theorem giveFocus_wellFocused (some_focusable : focusables (container kind components) ≠ [])
    (quiet : Quiet state) : WellFocused (container kind components)
      (tryGiveFocus (container kind components) [] state).2 := by
  obtain ⟨target, more, candidates⟩ := List.exists_cons_of_ne_nil some_focusable
  have given := giveFocus_offered .forward (container kind components) [] quiet
  rw [show leaves id .forward (container kind components) = target :: more from candidates,
    Offered] at given
  obtain ⟨after, taken, granted⟩ := given
  have front : Aimed [] state := by
    intro way index rest split
    simp at split
  refine ⟨target, candidates ▸ List.mem_cons_self, ?_⟩
  rw [tryGiveFocus, taken]
  exact granted.focusedAt front

theorem formSet_wellFocused (focused : WellFocused (container kind components) state) :
    WellFocused (container kind components) (formSet (container kind components) state) := by
  obtain ⟨target, member, focused⟩ := focused
  have there := mem_focusables.mp member
  cases target with
  | nil => simp [subtree] at there
  | cons index rest =>
      obtain ⟨child, here, below⟩ := Option.bind_eq_some_iff.mp there
      have from_base : FocusedAt ([] ++ index :: rest) state := focused
      have released := releaseCursor_focused here from_base below
      have again : tryGiveFocus (container kind components) [] state =
          tryGiveFocus (container kind components) [] (releaseCursor components [] state) := by
        simp only [tryGiveFocus, giveFocus, releaseCursor_quiet components [] released.quiet]
      rw [formSet, again]
      exact giveFocus_wellFocused (List.ne_nil_of_mem member) released.quiet

theorem formCall_wellFocused (event : FormEvent)
    (focused : WellFocused (container kind components) state) :
    ∃ after, formCall (container kind components) state event = some after ∧
      WellFocused (container kind components) after := by
  cases event with
  | set => exact ⟨_, rfl, formSet_wellFocused focused⟩
  | key chr handled =>
      obtain ⟨target, member, focused⟩ := focused
      have there : subtree [] (container kind components) = some (container kind components) := rfl
      obtain ⟨result, after, asked, -, kept⟩ := input_wellFocused chr handled there
        (mem_focusables.mp member) focused
      exact ⟨after, by rw [formCall, formInput, asked]; rfl, kept⟩

theorem formRun_wellFocused (events : List FormEvent)
    (focused : WellFocused (container kind components) state) :
    ∃ after, formRun (container kind components) state events = some after ∧
      WellFocused (container kind components) after := by
  induction events generalizing state with
  | nil => exact ⟨state, rfl, focused⟩
  | cons event events ih =>
      obtain ⟨between, called, kept⟩ := formCall_wellFocused event focused
      obtain ⟨after, run, focused⟩ := ih kept
      refine ⟨after, ?_, focused⟩
      rw [formRun, List.foldlM_cons, called]
      exact run

theorem fresh_quiet : Quiet .fresh := fun _ => rfl

theorem form_keepsFocus (some_focusable : focusables (container kind components) ≠ [])
    (events : List FormEvent) :
    ∃ state, formRun (container kind components) (formSet (container kind components) .fresh) events =
        some state ∧
      ∃ target ∈ focusables (container kind components),
        FocusOn (container kind components) target state := by
  have initial := giveFocus_wellFocused some_focusable fresh_quiet
  obtain ⟨state, run, target, member, focused⟩ := formRun_wellFocused events initial
  exact ⟨state, run, target, member, focused.focusOn member⟩

end Form

/-! A row of a label, an empty column, and a column of two buttons. -/

def labelledButtons : List Component :=
  [control false, container .column [], container .column [control true, control true]]

theorem labelledButtons_keepFocus :
    ∃ state, formRun (container .row labelledButtons)
        (formSet (container .row labelledButtons) .fresh)
        [.key arrowRight false, .key arrowDown false, .key 32 true] = some state ∧
      ∃ target ∈ focusables (container .row labelledButtons),
        FocusOn (container .row labelledButtons) target state :=
  form_keepsFocus (by decide) _

end SpeFramework.TermForm
