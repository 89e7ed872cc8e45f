import SpeFramework.TermForm.Focus

/-!
What giving, releasing and moving the focus does, from a state whose cursors lead to the focus.
-/

namespace SpeFramework.TermForm

open OrderedTree

namespace FocusState

variable (path : Path) (index : Nat) (focus : Bool) (state : FocusState)

@[simp] theorem invalidate_hasFocus : (state.invalidate path).hasFocus = state.hasFocus := rfl

@[simp] theorem invalidate_cursor : (state.invalidate path).cursor = state.cursor := rfl

@[simp] theorem setCursor_hasFocus : (state.setCursor path index).hasFocus = state.hasFocus := rfl

@[simp] theorem setCursor_cursor :
    (state.setCursor path index).cursor = Function.update state.cursor path (some index) := rfl

@[simp] theorem setFocus_hasFocus :
    (state.setFocus path focus).hasFocus = Function.update state.hasFocus path focus := rfl

@[simp] theorem setFocus_cursor : (state.setFocus path focus).cursor = state.cursor := rfl

end FocusState

def Quiet (state : FocusState) : Prop := ∀ path, state.hasFocus path = false

/-- On the way to `target` each cursor points along it. -/
def Aimed (target : Path) (state : FocusState) : Prop :=
  ∀ path index rest, target = path ++ index :: rest → state.cursor path = some index

structure FocusedAt (target : Path) (state : FocusState) : Prop where
  only : ∀ path, state.hasFocus path = true ↔ path = target
  aimed : Aimed target state

theorem Aimed.front {first rest : Path} {state : FocusState} (aimed : Aimed (first ++ rest) state) :
    Aimed first state := by
  intro path index tail split
  apply aimed path index (tail ++ rest)
  rw [split, List.append_assoc, List.cons_append]

/-! Releasing. -/

theorem releaseFocusAt_eq {components : List Component} {index : Nat} {component : Component}
    (there : components[index]? = some component) (path : Path) (state : FocusState) :
    releaseFocusAt components index path state = releaseFocus component path state :=
  select_child (fun components index => releaseFocusAt components index path state)
    (fun component => releaseFocus component path state) (fun _ _ => rfl) (fun _ _ _ => rfl) there

theorem releaseFocus_container (kind : ContainerKind) (components : List Component) (path : Path)
    (state : FocusState) :
    releaseFocus (container kind components) path state =
      releaseCursor components path (componentReleaseFocus path state) := rfl

mutual

theorem releaseFocus_quiet (component : Component) (path : Path) {state : FocusState}
    (quiet : Quiet state) : releaseFocus component path state = state := by
  cases component with
  | leaf focusable => simp [releaseFocus, componentReleaseFocus, quiet path]
  | node kind components =>
      simp only [releaseFocus, componentReleaseFocus, quiet path, Bool.false_eq_true, if_false]
      split
      · rfl
      · exact releaseFocusAt_quiet components _ _ quiet

theorem releaseFocusAt_quiet (components : List Component) (index : Nat) (path : Path)
    {state : FocusState} (quiet : Quiet state) :
    releaseFocusAt components index path state = state := by
  cases components with
  | nil => rfl
  | cons component rest =>
      cases index with
      | zero => exact releaseFocus_quiet component path quiet
      | succ index => exact releaseFocusAt_quiet rest index path quiet

end

theorem releaseCursor_quiet (components : List Component) (path : Path) {state : FocusState}
    (quiet : Quiet state) : releaseCursor components path state = state := by
  rw [releaseCursor]
  split
  · rfl
  · exact releaseFocusAt_quiet components _ _ quiet

/-- What is left when the focus was released: nothing is focused and the cursors stay. -/
structure Released (before after : FocusState) : Prop where
  quiet : Quiet after
  cursor : after.cursor = before.cursor

theorem releaseFocus_focused {component : Component} {path rest : Path} {focusable : Bool}
    {state : FocusState} (focused : FocusedAt (path ++ rest) state)
    (there : subtree rest component = some (control focusable)) :
    Released state (releaseFocus component path state) := by
  induction rest generalizing component path with
  | nil =>
      obtain rfl := Option.some.inj there
      rw [List.append_nil] at focused
      have here : state.hasFocus path = true := (focused.only path).mpr rfl
      rw [releaseFocus, componentReleaseFocus, if_pos here]
      refine ⟨fun other => ?_, rfl⟩
      by_cases same : other = path
      · simp [same]
      · have elsewhere : state.hasFocus other = false := by
          simpa using mt (focused.only other).mp same
        simp [Function.update_of_ne same, elsewhere]
  | cons index rest ih =>
      cases component with
      | leaf focusable => simp [subtree] at there
      | node kind components =>
          obtain ⟨child, here, below⟩ := Option.bind_eq_some_iff.mp there
          have unfocused : ¬ state.hasFocus path = true := by
            rw [focused.only]
            simp
          have pointed := focused.aimed path index rest rfl
          rw [releaseFocus_container, componentReleaseFocus, if_neg unfocused, releaseCursor, pointed]
          simp only
          rw [releaseFocusAt_eq here]
          apply ih _ below
          rwa [List.append_assoc, List.singleton_append]

theorem releaseCursor_focused {components : List Component} {path rest : Path} {index : Nat}
    {child : Component} {focusable : Bool} {state : FocusState}
    (here : components[index]? = some child)
    (focused : FocusedAt (path ++ index :: rest) state)
    (below : subtree rest child = some (control focusable)) :
    Released state (releaseCursor components path state) := by
  rw [releaseCursor, focused.aimed path index rest rfl]
  simp only
  rw [releaseFocusAt_eq here]
  apply releaseFocus_focused _ below
  rwa [List.append_assoc, List.singleton_append]

/-! Giving. -/

/-- The component at `path` passed the focus on to its control at `target`. -/
structure Granted (path target : Path) (before after : FocusState) : Prop where
  only : ∀ other, after.hasFocus other = true ↔ other = path ++ target
  aimed : ∀ way index rest, target = way ++ index :: rest → after.cursor (path ++ way) = some index
  outside : ∀ other, ¬ path <+: other → after.cursor other = before.cursor other

theorem Granted.focusedAt {path target : Path} {before after : FocusState}
    (granted : Granted path target before after) (aimed : Aimed path before) :
    FocusedAt (path ++ target) after := by
  refine ⟨granted.only, fun way index rest split => ?_⟩
  rcases List.append_eq_append_iff.mp split with ⟨below, rfl, behind⟩ | ⟨above, rfl, behind⟩
  · exact granted.aimed below index rest behind
  · cases above with
    | nil =>
        rw [List.nil_append] at behind
        have here := granted.aimed [] index rest behind.symm
        rwa [List.append_nil, List.append_nil] at *
    | cons first above =>
        obtain ⟨rfl, rfl⟩ := List.cons.inj behind
        have outside : ¬ way ++ index :: above <+: way := by
          intro longer
          have length := longer.length_le
          rw [List.length_append, List.length_cons] at length
          omega
        rw [granted.outside way outside]
        exact aimed way index above rfl

/-- The offer was refused and nothing changed, or it reached the first of `candidates`. -/
def Offered (candidates : List Path) (path : Path) (before : FocusState)
    (result : Bool × FocusState) : Prop :=
  match candidates with
  | [] => result = (false, before)
  | target :: _ => ∃ after, result = (true, after) ∧ Granted path target before after

theorem granted_setCursor {path target : Path} {index : Nat} {before after : FocusState}
    (granted : Granted (path ++ [index]) target before after) :
    Granted path (index :: target) before (after.setCursor path index) := by
  constructor
  · intro other
    simpa using granted.only other
  · intro way place rest split
    cases way with
    | nil =>
        obtain ⟨rfl, -⟩ := List.cons.inj split
        simp
    | cons first way =>
        obtain ⟨rfl, below⟩ := List.cons.inj split
        have there := granted.aimed way place rest below
        have apart : path ++ index :: way ≠ path := by simp
        rw [FocusState.setCursor_cursor, Function.update_of_ne apart]
        simpa using there
  · intro other outside
    have apart : other ≠ path := fun same => outside (same ▸ List.prefix_refl path)
    rw [FocusState.setCursor_cursor, Function.update_of_ne apart]
    exact granted.outside other fun below => outside ((List.prefix_append path [index]).trans below)

mutual

theorem giveFocus_offered (dir : Direction) (component : Component) (path : Path)
    {state : FocusState} (quiet : Quiet state) :
    Offered (leaves id dir component) path state (giveFocus dir component path state) := by
  cases component with
  | leaf focusable =>
      cases focusable with
      | false => rfl
      | true =>
          refine ⟨(state.setFocus path true).invalidate path, ?_, ?_⟩
          · simp [giveFocus, componentTryGiveFocus, quiet path]
          · constructor
            · intro other
              by_cases same : other = path
              · simp [same]
              · simp [same, quiet other]
            · intro way index rest split
              simp at split
            · intro other _
              rfl
  | node kind components =>
      rw [giveFocus, releaseCursor_quiet components path quiet]
      exact giveFocusAmong_offered dir components 0 path quiet

theorem giveFocusAmong_offered (dir : Direction) (components : List Component) (index : Nat)
    (path : Path) {state : FocusState} (quiet : Quiet state) :
    Offered (leavesFrom id dir index components) path state
      (giveFocusAmong dir components index path state) := by
  cases components with
  | nil => rfl
  | cons component rest =>
      have first := giveFocus_offered dir component (path ++ [index]) quiet
      have others := giveFocusAmong_offered dir rest (index + 1) path quiet
      cases dir with
      | forward =>
          rw [leavesFrom, Direction.join, giveFocusAmong]
          cases candidates : leaves id .forward component with
          | nil =>
              rw [candidates, Offered] at first
              rw [first]
              exact others
          | cons target more =>
              rw [candidates, Offered] at first
              obtain ⟨after, given, granted⟩ := first
              rw [given]
              exact ⟨_, rfl, granted_setCursor granted⟩
      | backward =>
          rw [leavesFrom, Direction.join, giveFocusAmong]
          cases candidates : leavesFrom id .backward (index + 1) rest with
          | cons target more =>
              rw [candidates, Offered] at others
              obtain ⟨after, given, granted⟩ := others
              rw [given]
              exact ⟨_, rfl, granted⟩
          | nil =>
              rw [candidates, Offered] at others
              rw [others, List.nil_append]
              simp only
              cases own : leaves id .backward component with
              | nil =>
                  rw [own, Offered] at first
                  rw [first]
                  rfl
              | cons target more =>
                  rw [own, Offered] at first
                  obtain ⟨after, given, granted⟩ := first
                  rw [given]
                  exact ⟨_, rfl, granted_setCursor granted⟩

end

/-! Moving. -/

theorem giveFocusBeyond_offered (dir : Direction) (components : List Component) {path : Path}
    {index : Nat} {state : FocusState} (quiet : Quiet state)
    (pointed : state.cursor path = some index) :
    Offered (beyond id dir index components) path state
      (giveFocusBeyond dir components path state) := by
  cases dir with
  | forward =>
      simp only [giveFocusBeyond, pointed, beyond]
      exact giveFocusAmong_offered .forward _ _ path quiet
  | backward =>
      simp only [giveFocusBeyond, pointed, beyond]
      exact giveFocusAmong_offered .backward _ _ path quiet

theorem moveAmongComponents_offered (dir : Direction) (kind : ContainerKind)
    (components : List Component) {path : Path} {index : Nat} {state : FocusState}
    (quiet : Quiet state) (aimed : Aimed (path ++ [index]) state) :
    Offered (beyond id dir index components) path state
      (moveAmongComponents dir (container kind components) path state) := by
  simp only [moveAmongComponents]
  rw [releaseCursor_quiet components path quiet]
  exact giveFocusBeyond_offered dir components quiet (aimed path index [] rfl)

section Move

variable {dir : Direction} {base component : Component} {state between after : FocusState}

theorem moveCursorFrom_among {reversed : List Nat}
    (there : subtree reversed.reverse base = some component)
    (moved : moveAmongComponents dir component reversed.reverse state = (true, after)) :
    moveCursorFrom dir base reversed state = (true, after) := by
  cases reversed with
  | nil =>
      obtain rfl := Option.some.inj there
      rw [List.reverse_nil] at moved
      rw [moveCursorFrom, moved]
  | cons index parent =>
      simp only [moveCursorFrom, there, moved]

theorem moveCursorFrom_base
    (refused : moveAmongComponents dir base [] state = (false, between)) :
    moveCursorFrom dir base [] state = giveFocus dir base [] between := by
  rw [moveCursorFrom, refused]

theorem moveCursorFrom_parent {index : Nat} {parent : List Nat}
    (there : subtree (index :: parent).reverse base = some component)
    (refused : moveAmongComponents dir component (index :: parent).reverse state = (false, between))
    (moved : moveCursorFrom dir base parent between = (true, after)) :
    moveCursorFrom dir base (index :: parent) state = (true, after) := by
  simp only [moveCursorFrom, there, refused, moved]

/-- Without focus, a move goes to the next control beyond the cursor, or to the first of all. -/
theorem moveCursorFrom_quiet (some_focusable : leaves id dir base ≠ []) {reversed : List Nat}
    {index : Nat} {kind : ContainerKind} {components : List Component}
    (there : subtree reversed.reverse base = some (container kind components))
    (quiet : Quiet state) (aimed : Aimed (reversed.reverse ++ [index]) state) :
    ∃ target after, moveCursorFrom dir base reversed state = (true, after) ∧
      FocusedAt target after ∧
      (laterThan id dir (reversed.reverse ++ [index]) base ++ leaves id dir base).head? =
        some target := by
  induction reversed generalizing index kind components with
  | nil =>
      have among := moveAmongComponents_offered dir kind components quiet aimed
      rw [laterThan_concat id dir there]
      cases siblings : beyond id dir index components with
      | cons target more =>
          rw [siblings, Offered] at among
          obtain ⟨after, moved, granted⟩ := among
          exact ⟨target, after, moveCursorFrom_among there moved, granted.focusedAt aimed.front, rfl⟩
      | nil =>
          rw [siblings, Offered] at among
          obtain rfl := Option.some.inj there
          obtain ⟨target, more, candidates⟩ := List.exists_cons_of_ne_nil some_focusable
          have given := giveFocus_offered dir (container kind components) [] quiet
          rw [candidates, Offered] at given
          obtain ⟨after, moved, granted⟩ := given
          refine ⟨target, after, (moveCursorFrom_base among).trans moved,
            granted.focusedAt aimed.front, ?_⟩
          rw [candidates]
          rfl
  | cons first parent ih =>
      have among := moveAmongComponents_offered dir kind components quiet aimed
      rw [laterThan_concat id dir there]
      cases siblings : beyond id dir index components with
      | cons target more =>
          rw [siblings, Offered] at among
          obtain ⟨after, moved, granted⟩ := among
          exact ⟨_, after, moveCursorFrom_among there moved, granted.focusedAt aimed.front, rfl⟩
      | nil =>
          rw [siblings, Offered] at among
          have here := there
          rw [List.reverse_cons] at here aimed ⊢
          obtain ⟨kind', siblings', above, -⟩ := subtree_concat here
          obtain ⟨target, after, moved, focused, later⟩ := ih above aimed.front
          exact ⟨target, after, moveCursorFrom_parent there among moved, focused, later⟩

theorem moveAmongComponents_release (dir : Direction) (kind : ContainerKind) (components : List Component)
    (path : Path) (quiet : Quiet (releaseCursor components path state)) :
    moveAmongComponents dir (container kind components) path state =
      moveAmongComponents dir (container kind components) path
        (releaseCursor components path state) := by
  simp only [moveAmongComponents]
  rw [releaseCursor_quiet components path quiet]

theorem moveCursorFrom_release {reversed : List Nat} {kind : ContainerKind}
    {components : List Component}
    (there : subtree reversed.reverse base = some (container kind components))
    (quiet : Quiet (releaseCursor components reversed.reverse state)) :
    moveCursorFrom dir base reversed state =
      moveCursorFrom dir base reversed (releaseCursor components reversed.reverse state) := by
  have among := moveAmongComponents_release dir kind components _ quiet
  cases reversed with
  | nil =>
      obtain rfl := Option.some.inj there
      rw [moveCursorFrom, moveCursorFrom]
      rw [List.reverse_nil] at among ⊢
      rw [among]
  | cons index parent => simp only [moveCursorFrom, there, among]

/-- From a focused state, the move first releases what it moves away from. -/
theorem moveCursorFrom_focused (some_focusable : leaves id dir base ≠ []) {reversed rest : List Nat}
    {index : Nat} {kind : ContainerKind} {components : List Component} {focusable : Bool}
    (there : subtree reversed.reverse base = some (container kind components))
    (focused : FocusedAt (reversed.reverse ++ index :: rest) state)
    (control_there : subtree (reversed.reverse ++ index :: rest) base = some (control focusable)) :
    ∃ target after, moveCursorFrom dir base reversed state = (true, after) ∧
      FocusedAt target after ∧
      (laterThan id dir (reversed.reverse ++ [index]) base ++ leaves id dir base).head? =
        some target := by
  obtain ⟨child, here, below⟩ : ∃ child, components[index]? = some child ∧
      subtree rest child = some (control focusable) := by
    rw [subtree_append, there] at control_there
    exact Option.bind_eq_some_iff.mp control_there
  have released := releaseCursor_focused here focused below
  have aimed : Aimed (reversed.reverse ++ [index])
      (releaseCursor components reversed.reverse state) := by
    intro way place more split
    rw [released.cursor]
    apply focused.aimed way place (more ++ rest)
    rw [List.append_cons, split, List.append_assoc, List.cons_append]
  rw [moveCursorFrom_release there released.quiet]
  exact moveCursorFrom_quiet some_focusable there released.quiet aimed

end Move

end SpeFramework.TermForm
