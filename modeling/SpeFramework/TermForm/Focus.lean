import Mathlib.Logic.Function.Basic
import SpeFramework.Lib.OrderedTree

/-!
The focus functions of TermForm: `component.h`, `container.cpp`, `column_container.h` and `form.h`.
The components of a form are a tree that stays as it is; what the functions write lies beside it
and is addressed by the way down from the base container, so a parent is the address without its
last step. The event handlers leave both alone.
-/

namespace SpeFramework.TermForm

open OrderedTree

inductive ContainerKind
  | row
  | column
  deriving DecidableEq, Repr

/-- Controls are labelled with `_focusable`. -/
abbrev Component := OrderedTree Bool ContainerKind

@[match_pattern] abbrev control (focusable : Bool) : Component := .leaf focusable

@[match_pattern] abbrev container (kind : ContainerKind) (components : List Component) : Component :=
  .node kind components

abbrev arrowUp : Int := 1000
abbrev arrowDown : Int := 1001
abbrev arrowLeft : Int := 1002
abbrev arrowRight : Int := 1003

structure FocusState where
  hasFocus : Path → Bool
  invalid : Path → Bool
  /-- `_cursor`, as its place in `_components`. -/
  cursor : Path → Option Nat

def FocusState.fresh : FocusState := ⟨fun _ => false, fun _ => true, fun _ => none⟩

namespace FocusState

def invalidate (path : Path) (state : FocusState) : FocusState :=
  { state with invalid := fun other => other.isPrefixOf path || state.invalid other }

def setCursor (path : Path) (index : Nat) (state : FocusState) : FocusState :=
  { state with cursor := Function.update state.cursor path (some index) }

def setFocus (path : Path) (focus : Bool) (state : FocusState) : FocusState :=
  { state with hasFocus := Function.update state.hasFocus path focus }

end FocusState

def componentTryGiveFocus (focusable : Bool) (path : Path) (state : FocusState) : Bool × FocusState :=
  if focusable then
    (true, if state.hasFocus path then state else (state.setFocus path true).invalidate path)
  else (false, state)

def componentReleaseFocus (path : Path) (state : FocusState) : FocusState :=
  if state.hasFocus path then (state.setFocus path false).invalidate path else state

mutual

def releaseFocus : Component → Path → FocusState → FocusState
  | control _, path, state => componentReleaseFocus path state
  | container _ components, path, state =>
      let state := componentReleaseFocus path state
      match state.cursor path with
      | none => state
      | some index => releaseFocusAt components index (path ++ [index]) state

def releaseFocusAt : List Component → Nat → Path → FocusState → FocusState
  | [], _, _, state => state
  | component :: _, 0, path, state => releaseFocus component path state
  | _ :: rest, index + 1, path, state => releaseFocusAt rest index path state

end

def releaseCursor (components : List Component) (path : Path) (state : FocusState) : FocusState :=
  match state.cursor path with
  | none => state
  | some index => releaseFocusAt components index (path ++ [index]) state

/-! `try_give_focus` goes through the components from the first on, `try_give_focus_back` from the
last on; the first that takes the focus becomes the cursor. -/

mutual

def giveFocus (dir : Direction) : Component → Path → FocusState → Bool × FocusState
  | control focusable, path, state => componentTryGiveFocus focusable path state
  | container _ components, path, state =>
      giveFocusAmong dir components 0 path (releaseCursor components path state)

def giveFocusAmong (dir : Direction) :
    List Component → Nat → Path → FocusState → Bool × FocusState
  | [], _, _, state => (false, state)
  | component :: rest, index, path, state =>
      match dir with
      | .forward =>
          match giveFocus dir component (path ++ [index]) state with
          | (true, state) => (true, state.setCursor path index)
          | (false, state) => giveFocusAmong dir rest (index + 1) path state
      | .backward =>
          match giveFocusAmong dir rest (index + 1) path state with
          | (true, state) => (true, state)
          | (false, state) =>
              match giveFocus dir component (path ++ [index]) state with
              | (true, state) => (true, state.setCursor path index)
              | (false, state) => (false, state)

end

def tryGiveFocus : Component → Path → FocusState → Bool × FocusState := giveFocus .forward

def tryGiveFocusBack : Component → Path → FocusState → Bool × FocusState := giveFocus .backward

/-- The loop from the component after (or before) the cursor on. -/
def giveFocusBeyond (dir : Direction) (components : List Component) (path : Path)
    (state : FocusState) : Bool × FocusState :=
  match state.cursor path, dir with
  | none, _ => (false, state)
  | some index, .forward => giveFocusAmong dir (components.drop (index + 1)) (index + 1) path state
  | some index, .backward => giveFocusAmong dir (components.take index) 0 path state

def moveAmongComponents (dir : Direction) (component : Component) (path : Path)
    (state : FocusState) : Bool × FocusState :=
  match component with
  | control _ => (false, state)
  | container _ components =>
      giveFocusBeyond dir components path (releaseCursor components path state)

/-- The move from the container at an address of `base`, whose steps come last one first. -/
def moveCursorFrom (dir : Direction) (base : Component) :
    List Nat → FocusState → Bool × FocusState
  | [], state =>
      match moveAmongComponents dir base [] state with
      | (true, state) => (true, state)
      | (false, state) => giveFocus dir base [] state
  | index :: parent, state =>
      let path := (index :: parent).reverse
      match subtree path base with
      | none => (false, state)
      | some component =>
          match moveAmongComponents dir component path state with
          | (true, state) => (true, state)
          | (false, state) =>
              match moveCursorFrom dir base parent state with
              | (true, state) => (true, state)
              | (false, state) => giveFocus dir component path state

def moveCursorToNext (base : Component) (path : Path) (state : FocusState) : Bool × FocusState :=
  moveCursorFrom .forward base path.reverse state

def moveCursorToPrev (base : Component) (path : Path) (state : FocusState) : Bool × FocusState :=
  moveCursorFrom .backward base path.reverse state

/-! Keys go down along the cursors to a control, whose own `input` answers `handled`; the
containers on the way back up look at the keys it leaves. -/

def containerKey (base : Component) (kind : ContainerKind) (chr : Int) (path : Path)
    (state : FocusState) : Bool × FocusState :=
  match kind with
  | .row =>
      if chr = arrowDown then (true, (moveCursorToNext base path state).2)
      else if chr = arrowUp then (true, (moveCursorToPrev base path state).2)
      else (false, state)
  | .column =>
      if chr = arrowLeft then (true, (moveCursorToPrev base path state).2)
      else if chr = arrowRight then (true, (moveCursorToNext base path state).2)
      else (false, state)

mutual

/-- There is no result when a container without cursor is asked. -/
def input (base : Component) (chr : Int) (handled : Bool) :
    Component → Path → FocusState → Option (Bool × FocusState)
  | control _, _, state => some (handled, state)
  | container kind components, path, state =>
      match state.cursor path with
      | none => none
      | some index =>
          match inputAt base chr handled components index (path ++ [index]) state with
          | none => none
          | some (true, state) => some (true, state)
          | some (false, state) => some (containerKey base kind chr path state)

def inputAt (base : Component) (chr : Int) (handled : Bool) :
    List Component → Nat → Path → FocusState → Option (Bool × FocusState)
  | [], _, _, _ => none
  | component :: _, 0, path, state => input base chr handled component path state
  | _ :: rest, index + 1, path, state => inputAt base chr handled rest index path state

end

def formSet (base : Component) (state : FocusState) : FocusState := (tryGiveFocus base [] state).2

def formInput (base : Component) (chr : Int) (handled : Bool) (state : FocusState) :
    Option FocusState :=
  (input base chr handled base [] state).map Prod.snd

inductive FormEvent
  | set
  | key (chr : Int) (handled : Bool)
  deriving DecidableEq, Repr

def formCall (base : Component) (state : FocusState) : FormEvent → Option FocusState
  | .set => some (formSet base state)
  | .key chr handled => formInput base chr handled state

def formRun (base : Component) (state : FocusState) (events : List FormEvent) :
    Option FocusState :=
  events.foldlM (formCall base) state

mutual

def followCursor : Component → Path → FocusState → Option Path
  | control _, path, _ => some path
  | container _ components, path, state =>
      match state.cursor path with
      | none => none
      | some index => followCursorAt components index (path ++ [index]) state

def followCursorAt : List Component → Nat → Path → FocusState → Option Path
  | [], _, _, _ => none
  | component :: _, 0, path, state => followCursor component path state
  | _ :: rest, index + 1, path, state => followCursorAt rest index path state

end

def focusables (base : Component) : List Path := leaves id .forward base

end SpeFramework.TermForm
