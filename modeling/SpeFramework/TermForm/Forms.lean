import SpeFramework.TermForm.Drawing
import SpeFramework.TermForm.FocusFlags

/-!
A form: its components, the focus, and the terminal that it prints to. A key goes to the control
with the focus, and to the containers if the control leaves it. The event handlers change nothing.
-/

namespace SpeFramework.TermForm

open OrderedTree Overlay

/-- An entry of `_radio_buttons`: a control of this form, or a button outside it. -/
inductive RadioEntry
  | placed (path : Path)
  | elsewhere (groupHash : UInt16) (selected : Bool)

structure Form where
  tree : FormTree
  focus : FocusState
  radioButtons : List RadioEntry
  height : Nat
  status : Text
  /-- The status has a line. -/
  height_pos : 0 < height
  terminal : Terminal

namespace Form

def leafAt (s : Form) (path : Path) : Option Control :=
  match subtree path s.tree with
  | some (.leaf own) => some own
  | _ => none

def modify (path : Path) (change : Control → Control) (s : Form) : Form :=
  { s with
    tree := relabel (fun place own => if place = path then change own else own) id [] s.tree
    focus := s.focus.invalidate path }

def isSelected (s : Form) (groupHash : UInt16) (entry : RadioEntry) : Bool :=
  match entry with
  | .placed path =>
      match (s.leafAt path).map Control.kind with
      | some (.radioButton hash selected) => hash = groupHash && selected
      | _ => false
  | .elsewhere hash selected => hash = groupHash && selected

def deselect (s : Form) (index : Nat) : Form :=
  match s.radioButtons[index]? with
  | some (.placed path) => s.modify path (Control.setSelected false)
  | some (.elsewhere hash _) => { s with radioButtons := s.radioButtons.set index (.elsewhere hash false) }
  | none => s

def select (s : Form) (path : Path) (groupHash : UInt16) : Form :=
  let deselected := match s.radioButtons.findIdx? (s.isSelected groupHash) with
    | some index => s.deselect index
    | none => s
  deselected.modify path (Control.setSelected true)

def controlInput (s : Form) (path : Path) (own : Control) (c : Int) : Bool × Form :=
  match own.kind with
  | .label => (false, s)
  | .button => (decide (c = 13), s)
  | .textfield field =>
      match field.input own.text c with
      | some text => (true, s.modify path (Control.setText text))
      | none => (false, s)
  | .checkbox checked =>
      if c = 32 ∨ c = 13 then (true, s.modify path (Control.setChecked (!checked))) else (false, s)
  | .radioButton groupHash selected =>
      if c = 32 ∨ c = 13 then (true, if !selected then s.select path groupHash else s) else (false, s)

/-- There is no result when no component has the focus. -/
def input (s : Form) (c : Int) : Option Form :=
  match followCursor (shape s.tree) [] s.focus with
  | none => none
  | some path =>
      match s.leafAt path with
      | none => none
      | some own =>
          let answered := s.controlInput path own c
          (formInput (shape s.tree) c answered.1 answered.2.focus).map fun focus =>
            { answered.2 with focus := focus }

def maxStatusLength : Nat := 150

def displayStatus (s : Form) : Text :=
  getMove 0 (s.height - 1) ++ Color.standard.code ++ Color.standard.background ++
    s.status.take maxStatusLength

def paint (s : Form) (forceRepaint : Bool) : Form :=
  let cleared := if forceRepaint then s.terminal.print getClearAll else s.terminal
  let hidden := cleared.print getHideCursor
  let ret := paintComponent forceRepaint s.tree [] 1 1 s.focus
  { s with focus := ret.2, terminal := (hidden.print ret.1.string).print s.displayStatus }

def launch (base : Container) (components : List FormTree) (radioButtons : List RadioEntry)
    (height : Nat) (height_pos : 0 < height) (status : Text) (terminal : Terminal) : Form :=
  ⟨.node base components, formSet (shape (.node base components)) .fresh, radioButtons, height, status,
    height_pos, terminal⟩

end Form

end SpeFramework.TermForm
