import SpeFramework.TermForm.Terminal

/-!
The controls of a form: the text each paints, the size it reports, and what a key does to it.
-/

namespace SpeFramework.TermForm

structure Colors where
  color : Color
  background : Color
  colorSelected : Color
  backgroundSelected : Color
  deriving DecidableEq, Repr

def Colors.standard : Colors := ⟨.standard, .standard, .black, .white⟩

def Colors.paintColor (colors : Colors) (hasFocus : Bool) : Color :=
  if hasFocus then colors.colorSelected else colors.color

def Colors.paintBackground (colors : Colors) (hasFocus : Bool) : Color :=
  if hasFocus then colors.backgroundSelected else colors.background

structure Textfield where
  label : Text
  allowedCharacters : Text
  inputWidth : UInt16
  maxLength : UInt16
  /-- `pos`, an `int16_t`, never gets past a wider field or one built with a negative width, and
  `paint` does not end. -/
  bounded : inputWidth.toNat < 32767
  deriving DecidableEq

inductive ControlKind
  | label
  | button
  | textfield (field : Textfield)
  | checkbox (checked : Bool)
  | radioButton (groupHash : UInt16) (selected : Bool)
  deriving DecidableEq

structure Control where
  kind : ControlKind
  text : Text
  size : Boxsize
  colors : Colors
  deriving DecidableEq

namespace Textfield

def front (field : Textfield) : Text :=
  (if field.label ≠ [] then field.label ++ [':', ' '] else []) ++ ['_']

/-- `for (pos = text.size(); pos <= _input_width; ++pos) str += '_';` -/
def underscores (field : Textfield) (length : Nat) : Text :=
  List.replicate (field.inputWidth.toNat + 1 - asInt16 (UInt16.ofNat length)).toNat '_'

def paint (field : Textfield) (text : Text) : Text :=
  field.front ++ text ++ field.underscores text.length

def isAllowedCharactersStandard (c : Char) : Bool :=
  (32 ≤ c.toNat ∧ c.toNat ≤ 126) ∨ (128 ≤ c.toNat ∧ c.toNat ≤ 169) ∨
    (181 ≤ c.toNat ∧ c.toNat ≤ 183) ∨ (198 ≤ c.toNat ∧ c.toNat ≤ 199) ∨
    (224 ≤ c.toNat ∧ c.toNat ≤ 237)

/-- Whether a character goes to the end of the text. -/
def accepts (field : Textfield) (text : Text) (c : Char) : Bool :=
  (field.maxLength = 0 ∨ field.maxLength.toNat > text.length) ∧
    ((field.allowedCharacters.length = 0 ∧ isAllowedCharactersStandard c) ∨
      c ∈ field.allowedCharacters)

/-- `static_cast<char>(c)`, where a `char` has no sign -/
def charOf (c : Int) : Char := Char.ofNat (c % 256).toNat

def backspace : Char := '\x08'

def input (field : Textfield) (text : Text) (c : Int) : Option Text :=
  if c > 255 then none
  else if charOf c = backspace ∧ text.length > 0 then some text.dropLast
  else if field.accepts text (charOf c) then some (text ++ [charOf c])
  else none

end Textfield

namespace Control

def focusable (control : Control) : Bool :=
  match control.kind with
  | .label => false
  | _ => true

def paintSize (control : Control) : Boxsize :=
  match control.kind with
  | .label | .button => stringBoxsize control.text
  | .textfield _ | .checkbox _ | .radioButton _ _ => control.size

def string (control : Control) : Text :=
  match control.kind with
  | .label | .button => control.text
  | .textfield field => field.paint control.text
  | .checkbox checked => (if checked then ['[', 'X', ']', ' '] else ['[', ' ', ']', ' ']) ++ control.text
  | .radioButton _ selected =>
      (if selected then ['(', 'o', ')', ' '] else ['(', ' ', ')', ' ']) ++ control.text

/-! The changes that keys make. -/

def setText (text : Text) (control : Control) : Control :=
  match control.kind with
  | .textfield _ => { control with text := text }
  | _ => control

def setChecked (checked : Bool) (control : Control) : Control :=
  match control.kind with
  | .checkbox _ => { control with kind := .checkbox checked }
  | _ => control

def setSelected (selected : Bool) (control : Control) : Control :=
  match control.kind with
  | .radioButton groupHash _ => { control with kind := .radioButton groupHash selected }
  | _ => control

end Control

/-- A change that a key can make to a control leaves its size, and whether it takes the focus. -/
structure Keeps (change : Control → Control) : Prop where
  size : ∀ control, (change control).paintSize = control.paintSize
  focusable : ∀ control, (change control).focusable = control.focusable

theorem keeps_setText (text : Text) : Keeps (Control.setText text) := by
  constructor
  · rintro ⟨kind, text', size, colors⟩
    cases kind <;> rfl
  · rintro ⟨kind, text', size, colors⟩
    cases kind <;> rfl

theorem keeps_setChecked (checked : Bool) : Keeps (Control.setChecked checked) := by
  constructor
  · rintro ⟨kind, text, size, colors⟩
    cases kind <;> rfl
  · rintro ⟨kind, text, size, colors⟩
    cases kind <;> rfl

theorem keeps_setSelected (selected : Bool) : Keeps (Control.setSelected selected) := by
  constructor
  · rintro ⟨kind, text, size, colors⟩
    cases kind <;> rfl
  · rintro ⟨kind, text, size, colors⟩
    cases kind <;> rfl

end SpeFramework.TermForm
