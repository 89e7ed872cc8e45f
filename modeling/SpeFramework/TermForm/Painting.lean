import SpeFramework.TermForm.Controls
import SpeFramework.TermForm.FocusInvariant

/-!
`paint` of `control.h`, `row_container.h`, `column_container.h` and `form.h`. The strings of a
container are those of its draws, one after the other, less the ones that no flag asks for.
-/

namespace SpeFramework.TermForm

open OrderedTree Overlay

inductive Container
  | row (colors : Colors)
  | column (paddingRight : UInt8) (colors : Colors)
  deriving DecidableEq

def Container.kind : Container → ContainerKind
  | .row _ => .row
  | .column _ _ => .column

/-- The components of a form, with the state of the controls. -/
abbrev FormTree := OrderedTree Control Container

def shape (tree : FormTree) : Component :=
  relabel (fun _ control => control.focusable) Container.kind [] tree

structure PaintReturn where
  width : UInt16
  height : UInt16
  string : Text

def FocusState.validate (path : Path) (state : FocusState) : FocusState :=
  { state with invalid := Function.update state.invalid path false }

/-- What a container adds to its string for a component that was painted at a position. -/
def piece (component : FormTree) (path : Path) (x y : UInt16) (string : Text) (state : FocusState) :
    Text :=
  match component with
  | .leaf own =>
      getColored x.toNat y.toNat (own.colors.paintColor (state.hasFocus path))
        (own.colors.paintBackground (state.hasFocus path)) string
  | .node _ _ => string

def paddingPiece (paddingRight : UInt8) (colors : Colors) (path : Path) (x y : UInt16)
    (state : FocusState) : Text :=
  if paddingRight > 0 then
    getColored x.toNat y.toNat (colors.paintColor (state.hasFocus path))
      (colors.paintBackground (state.hasFocus path)) (List.replicate paddingRight.toNat ' ')
  else []

mutual

def paintComponent (force : Bool) :
    FormTree → Path → UInt16 → UInt16 → FocusState → PaintReturn × FocusState
  | .leaf own, path, _, _, state =>
      (⟨own.paintSize.width, own.paintSize.height, own.string⟩, state.validate path)
  | .node (.row _) components, path, x, y, state =>
      let painted := paintRow force components 0 path x y state
      (⟨x, painted.1.2 - y, painted.1.1⟩, painted.2)
  | .node (.column paddingRight colors) components, path, x, y, state =>
      let painted := paintColumn force paddingRight colors components 0 path x y state
      (⟨1, painted.1.2 - x, painted.1.1⟩, painted.2)

/-- The loop of a row from component number `index` on: what it adds to the string, and `y_pos`
behind it. -/
def paintRow (force : Bool) :
    List FormTree → Nat → Path → UInt16 → UInt16 → FocusState → (Text × UInt16) × FocusState
  | [], _, _, _, yPos, state => (([], yPos), state)
  | c :: rest, index, path, x, yPos, state =>
      let isInvalid := state.invalid (path ++ [index])
      let ret := paintComponent force c (path ++ [index]) x yPos state
      let added :=
        if isInvalid || force then piece c (path ++ [index]) x yPos ret.1.string ret.2 else []
      let behind := paintRow force rest (index + 1) path x (yPos + ret.1.height) ret.2
      ((added ++ behind.1.1, behind.1.2), behind.2)

/-- The loop of a column, with its `x_pos`. -/
def paintColumn (force : Bool) (paddingRight : UInt8) (colors : Colors) :
    List FormTree → Nat → Path → UInt16 → UInt16 → FocusState → (Text × UInt16) × FocusState
  | [], _, _, xPos, _, state => (([], xPos), state)
  | c :: rest, index, path, xPos, y, state =>
      let ret := paintComponent force c (path ++ [index]) xPos y state
      if ret.2.invalid path || force then
        let added := piece c (path ++ [index]) xPos y ret.1.string ret.2 ++
          paddingPiece paddingRight colors path (xPos + ret.1.width) y ret.2
        let behind := paintColumn force paddingRight colors rest (index + 1) path
          (xPos + ret.1.width + paddingRight.toUInt16) y ret.2
        ((added ++ behind.1.1, behind.1.2), behind.2)
      else
        paintColumn force paddingRight colors rest (index + 1) path
          (xPos + (ret.1.width + paddingRight.toUInt16)) y ret.2

end

/-! The sizes that are returned, without the strings. -/

mutual

def returned : FormTree → UInt16 → UInt16 → Boxsize
  | .leaf own, _, _ => own.paintSize
  | .node (.row _) components, x, y => ⟨x, rowEnd components x y - y⟩
  | .node (.column paddingRight _) components, x, y =>
      ⟨1, columnEnd paddingRight components x y - x⟩

def rowEnd : List FormTree → UInt16 → UInt16 → UInt16
  | [], _, yPos => yPos
  | c :: rest, x, yPos => rowEnd rest x (yPos + (returned c x yPos).height)

def columnEnd (paddingRight : UInt8) : List FormTree → UInt16 → UInt16 → UInt16
  | [], xPos, _ => xPos
  | c :: rest, xPos, y =>
      columnEnd paddingRight rest (xPos + (returned c xPos y).width + paddingRight.toUInt16) y

end

def PaintReturn.size (ret : PaintReturn) : Boxsize := ⟨ret.width, ret.height⟩

mutual

theorem paintComponent_size (force : Bool) (tree : FormTree) (path : Path) (x y : UInt16)
    (state : FocusState) :
    (paintComponent force tree path x y state).1.size = returned tree x y := by
  cases tree with
  | leaf own => rfl
  | node container components =>
      cases container with
      | row colors =>
          rw [paintComponent, returned, ← paintRow_end force components 0 path x y state]
          rfl
      | column paddingRight colors =>
          rw [paintComponent, returned,
            ← paintColumn_end force paddingRight colors components 0 path x y state]
          rfl

theorem paintRow_end (force : Bool) (components : List FormTree) (index : Nat) (path : Path)
    (x yPos : UInt16) (state : FocusState) :
    (paintRow force components index path x yPos state).1.2 = rowEnd components x yPos := by
  cases components with
  | nil => rfl
  | cons c rest =>
      have size := paintComponent_size force c (path ++ [index]) x yPos state
      have height := congrArg Boxsize.height size
      rw [paintRow, rowEnd, ← height]
      exact paintRow_end force rest (index + 1) path x _ _

theorem paintColumn_end (force : Bool) (paddingRight : UInt8) (colors : Colors)
    (components : List FormTree) (index : Nat) (path : Path) (xPos y : UInt16) (state : FocusState) :
    (paintColumn force paddingRight colors components index path xPos y state).1.2 =
      columnEnd paddingRight components xPos y := by
  cases components with
  | nil => rfl
  | cons c rest =>
      have size := paintComponent_size force c (path ++ [index]) xPos y state
      have width := congrArg Boxsize.width size
      rw [paintColumn, columnEnd, ← width]
      split
      · exact paintColumn_end force paddingRight colors rest (index + 1) path _ y _
      · rw [← UInt16.add_assoc]
        exact paintColumn_end force paddingRight colors rest (index + 1) path _ y _

end

end SpeFramework.TermForm
