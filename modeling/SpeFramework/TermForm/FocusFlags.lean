import SpeFramework.TermForm.Focus

/-!
The focus functions set flags of components that change their colours, and clear none.
-/

namespace SpeFramework.TermForm

open OrderedTree

/-- Every flag that was set is set afterwards. -/
def KeepsFlags (before after : FocusState) : Prop :=
  ∀ path, before.invalid path = true → after.invalid path = true

theorem KeepsFlags.refl (state : FocusState) : KeepsFlags state state := fun _ flag => flag

theorem KeepsFlags.trans {first second third : FocusState} (left : KeepsFlags first second)
    (right : KeepsFlags second third) : KeepsFlags first third :=
  fun path flag => right path (left path flag)

theorem invalidate_keepsFlags (path : Path) (state : FocusState) :
    KeepsFlags state (state.invalidate path) := by
  intro other flag
  simp [FocusState.invalidate, flag]

theorem invalidate_self (path : Path) (state : FocusState) :
    (state.invalidate path).invalid path = true := by
  simp [FocusState.invalidate]

theorem setFocus_keepsFlags (path : Path) (focus : Bool) (state : FocusState) :
    KeepsFlags state ((state.setFocus path focus).invalidate path) := by
  intro other flag
  exact invalidate_keepsFlags path (state.setFocus path focus) other flag

theorem componentReleaseFocus_keepsFlags (path : Path) (state : FocusState) :
    KeepsFlags state (componentReleaseFocus path state) := by
  rw [componentReleaseFocus]
  split
  · exact setFocus_keepsFlags path false state
  · exact KeepsFlags.refl state

theorem componentTryGiveFocus_keepsFlags (focusable : Bool) (path : Path) (state : FocusState) :
    KeepsFlags state (componentTryGiveFocus focusable path state).2 := by
  rw [componentTryGiveFocus]
  split
  · simp only
    split
    · exact KeepsFlags.refl state
    · exact setFocus_keepsFlags path true state
  · exact KeepsFlags.refl state

mutual

theorem releaseFocus_keepsFlags (component : Component) (path : Path) (state : FocusState) :
    KeepsFlags state (releaseFocus component path state) := by
  cases component with
  | leaf focusable => exact componentReleaseFocus_keepsFlags path state
  | node kind components =>
      rw [releaseFocus]
      have own := componentReleaseFocus_keepsFlags path state
      split
      · exact own
      · exact own.trans (releaseFocusAt_keepsFlags components _ _ _)

theorem releaseFocusAt_keepsFlags (components : List Component) (index : Nat) (path : Path)
    (state : FocusState) : KeepsFlags state (releaseFocusAt components index path state) := by
  cases components with
  | nil => exact KeepsFlags.refl state
  | cons component rest =>
      cases index with
      | zero => exact releaseFocus_keepsFlags component path state
      | succ index => exact releaseFocusAt_keepsFlags rest index path state

end

theorem releaseCursor_keepsFlags (components : List Component) (path : Path) (state : FocusState) :
    KeepsFlags state (releaseCursor components path state) := by
  rw [releaseCursor]
  split
  · exact KeepsFlags.refl state
  · exact releaseFocusAt_keepsFlags components _ _ state

mutual

theorem giveFocus_keepsFlags (dir : Direction) (component : Component) (path : Path)
    (state : FocusState) : KeepsFlags state (giveFocus dir component path state).2 := by
  cases component with
  | leaf focusable => exact componentTryGiveFocus_keepsFlags focusable path state
  | node kind components =>
      exact (releaseCursor_keepsFlags components path state).trans
        (giveFocusAmong_keepsFlags dir components 0 path _)

theorem giveFocusAmong_keepsFlags (dir : Direction) (components : List Component) (index : Nat)
    (path : Path) (state : FocusState) :
    KeepsFlags state (giveFocusAmong dir components index path state).2 := by
  cases components with
  | nil => exact KeepsFlags.refl state
  | cons component rest =>
      cases dir with
      | forward =>
          have first := giveFocus_keepsFlags .forward component (path ++ [index]) state
          rw [giveFocusAmong]
          split
          · rename_i given
            rw [given] at first
            exact first
          · rename_i given
            rw [given] at first
            exact first.trans (giveFocusAmong_keepsFlags .forward rest (index + 1) path _)
      | backward =>
          have others := giveFocusAmong_keepsFlags .backward rest (index + 1) path state
          rw [giveFocusAmong]
          split
          · rename_i given
            rw [given] at others
            exact others
          · rename_i left given
            rw [given] at others
            have last := giveFocus_keepsFlags .backward component (path ++ [index]) left
            split
            · rename_i taken
              rw [taken] at last
              exact others.trans last
            · rename_i taken
              rw [taken] at last
              exact others.trans last

end

theorem giveFocusBeyond_keepsFlags (dir : Direction) (components : List Component) (path : Path)
    (state : FocusState) : KeepsFlags state (giveFocusBeyond dir components path state).2 := by
  rw [giveFocusBeyond.eq_def]
  split
  · exact KeepsFlags.refl state
  · exact giveFocusAmong_keepsFlags .forward _ _ path state
  · exact giveFocusAmong_keepsFlags .backward _ _ path state

theorem moveAmongComponents_keepsFlags (dir : Direction) (component : Component) (path : Path)
    (state : FocusState) : KeepsFlags state (moveAmongComponents dir component path state).2 := by
  cases component with
  | leaf focusable => exact KeepsFlags.refl state
  | node kind components =>
      exact (releaseCursor_keepsFlags components path state).trans
        (giveFocusBeyond_keepsFlags dir components path _)

theorem moveCursorFrom_keepsFlags (dir : Direction) (base : Component) (reversed : List Nat)
    (state : FocusState) : KeepsFlags state (moveCursorFrom dir base reversed state).2 := by
  induction reversed generalizing state with
  | nil =>
      have among := moveAmongComponents_keepsFlags dir base [] state
      rw [moveCursorFrom]
      split
      · rename_i moved
        rw [moved] at among
        exact among
      · rename_i left moved
        rw [moved] at among
        exact among.trans (giveFocus_keepsFlags dir base [] left)
  | cons index parent ih =>
      rw [moveCursorFrom]
      split
      · exact KeepsFlags.refl state
      · rename_i component there
        have among := moveAmongComponents_keepsFlags dir component (index :: parent).reverse state
        split
        · rename_i moved
          rw [moved] at among
          exact among
        · rename_i left moved
          rw [moved] at among
          have above := ih left
          split
          · rename_i moved
            rw [moved] at above
            exact among.trans above
          · rename_i behind moved
            rw [moved] at above
            exact (among.trans above).trans (giveFocus_keepsFlags dir component _ behind)

theorem containerKey_keepsFlags (base : Component) (kind : ContainerKind) (chr : Int) (path : Path)
    (state : FocusState) : KeepsFlags state (containerKey base kind chr path state).2 := by
  have next := moveCursorFrom_keepsFlags .forward base path.reverse state
  have previous := moveCursorFrom_keepsFlags .backward base path.reverse state
  cases kind with
  | row =>
      rw [containerKey]
      split
      · exact next
      · split
        · exact previous
        · exact KeepsFlags.refl state
  | column =>
      rw [containerKey]
      split
      · exact previous
      · split
        · exact next
        · exact KeepsFlags.refl state

mutual

theorem input_keepsFlags (base : Component) (chr : Int) (handled : Bool) (component : Component)
    (path : Path) (state : FocusState) {result : Bool × FocusState}
    (asked : input base chr handled component path state = some result) :
    KeepsFlags state result.2 := by
  cases component with
  | leaf focusable =>
      obtain rfl := Option.some.inj asked
      exact KeepsFlags.refl state
  | node kind components =>
      rw [input] at asked
      split at asked
      · simp at asked
      · rename_i index cursor
        split at asked
        · simp at asked
        · rename_i after answered
          obtain rfl := Option.some.inj asked
          exact inputAt_keepsFlags base chr handled components index _ state answered
        · rename_i after answered
          obtain rfl := Option.some.inj asked
          exact (inputAt_keepsFlags base chr handled components index _ state answered).trans
            (containerKey_keepsFlags base kind chr path after)

theorem inputAt_keepsFlags (base : Component) (chr : Int) (handled : Bool)
    (components : List Component) (index : Nat) (path : Path) (state : FocusState)
    {result : Bool × FocusState}
    (asked : inputAt base chr handled components index path state = some result) :
    KeepsFlags state result.2 := by
  cases components with
  | nil => simp [inputAt] at asked
  | cons component rest =>
      cases index with
      | zero => exact input_keepsFlags base chr handled component path state asked
      | succ index => exact inputAt_keepsFlags base chr handled rest index path state asked

end

theorem formInput_keepsFlags {base : Component} {chr : Int} {handled : Bool}
    {state after : FocusState} (asked : formInput base chr handled state = some after) :
    KeepsFlags state after := by
  obtain ⟨result, answered, rfl⟩ := Option.map_eq_some_iff.mp asked
  exact input_keepsFlags base chr handled base [] state answered

end SpeFramework.TermForm
