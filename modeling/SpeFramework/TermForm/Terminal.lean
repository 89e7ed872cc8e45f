import SpeFramework.TermForm.Text
import SpeFramework.Lib.Overlay

/-!
The sequences of `ansi_escape_codes.h` that move the cursor, colour and clear, and a terminal that
reads them. What a text leaves on the screen is a layer, which depends on where it starts alone.
-/

namespace SpeFramework.TermForm

open Overlay

inductive Color
  | black | red | green | yellow | blue | magenta | cyan | white | standard | inherited
  deriving DecidableEq, Repr

/-- `"\033[" parameters final` -/
def sequence (parameters : Text) (final : Char) : Text := esc :: '[' :: (parameters ++ [final])

/-- `_color` -/
def Color.code : Color → Text
  | .black => sequence ['3', '0'] 'm'
  | .red => sequence ['3', '1'] 'm'
  | .green => sequence ['3', '2'] 'm'
  | .yellow => sequence ['3', '3'] 'm'
  | .blue => sequence ['3', '4'] 'm'
  | .magenta => sequence ['3', '5'] 'm'
  | .cyan => sequence ['3', '6'] 'm'
  | .white => sequence ['3', '7'] 'm'
  | .standard => sequence ['3', '9'] 'm'
  | .inherited => []

/-- `_background`, whose black is a text colour -/
def Color.background : Color → Text
  | .black => sequence ['3', '0'] 'm'
  | .red => sequence ['4', '1'] 'm'
  | .green => sequence ['4', '2'] 'm'
  | .yellow => sequence ['4', '3'] 'm'
  | .blue => sequence ['4', '4'] 'm'
  | .magenta => sequence ['4', '5'] 'm'
  | .cyan => sequence ['4', '6'] 'm'
  | .white => sequence ['4', '7'] 'm'
  | .standard => sequence ['4', '9'] 'm'
  | .inherited => []

def getMove (x y : Nat) : Text := sequence (Nat.toDigits 10 y ++ ';' :: Nat.toDigits 10 x) 'H'

def getColored (x y : Nat) (color background : Color) (s : Text) : Text :=
  getMove x y ++ color.code ++ background.background ++ s

def getClearAll : Text :=
  Color.standard.code ++ Color.standard.background ++ (sequence ['2'] 'J' ++ sequence [] 'H')

def getHideCursor : Text := sequence ['?', '2', '5'] 'l'

/-! The terminal. Its screen has no right or lower end. -/

/-- A column and a line, counted from 1. -/
abbrev Cell := Nat × Nat

/-- Where the next character goes, and what was read of a sequence after its escape. -/
structure Head where
  cell : Cell
  collected : Option Text
  deriving DecidableEq, Repr

namespace Head

def start (x y : Nat) : Head := ⟨(max 1 x, max 1 y), none⟩

def number (digits : Text) : Nat := Nat.ofDigitChars 10 digits 0

def finish (head : Head) (collected : Text) (final : Char) : Head :=
  if final = 'H' then
    let parameters := collected.drop 1
    .start (number ((parameters.dropWhile fun c => c ≠ ';').drop 1))
      (number (parameters.takeWhile fun c => c ≠ ';'))
  else { head with collected := none }

/-- An escape within a sequence begins another one. -/
def next (head : Head) (c : Char) : Head :=
  if c = esc then { head with collected := some [] }
  else match head.collected with
    | some collected =>
        if isalpha c then head.finish collected c
        else { head with collected := some (collected ++ [c]) }
    | none =>
        if c = '\n' then { head with cell := (head.cell.1, head.cell.2 + 1) }
        else { head with cell := (head.cell.1 + 1, head.cell.2) }

def layer (head : Head) (c : Char) : Layer Cell Char :=
  match head.collected with
  | some collected => fun _ => if c = 'J' ∧ collected = ['[', '2'] then some ' ' else none
  | none => fun cell => if c ≠ esc ∧ c ≠ '\n' ∧ cell = head.cell then some c else none

def after (head : Head) (s : Text) : Head := s.foldl next head

def written : Head → Text → Layer Cell Char
  | _, [] => fun _ => none
  | head, c :: rest => (written (head.next c) rest).atop (head.layer c)

end Head

structure Terminal where
  cells : Cell → Char
  head : Head

namespace Terminal

def blank : Terminal := ⟨fun _ => ' ', .start 1 1⟩

def put (t : Terminal) (c : Char) : Terminal := ⟨paint t.cells (t.head.layer c), t.head.next c⟩

def print (t : Terminal) (s : Text) : Terminal := s.foldl put t

end Terminal

theorem print_append (t : Terminal) (first second : Text) :
    t.print (first ++ second) = (t.print first).print second := List.foldl_append

theorem print_eq (t : Terminal) (s : Text) :
    t.print s = ⟨paint t.cells (t.head.written s), t.head.after s⟩ := by
  induction s generalizing t with
  | nil => rfl
  | cons c rest ih =>
      rw [Head.written, paint_atop]
      exact ih (t.put c)

namespace Head

theorem after_append (head : Head) (first second : Text) :
    head.after (first ++ second) = (head.after first).after second := List.foldl_append

theorem written_append (head : Head) (first second : Text) :
    head.written (first ++ second) = ((head.after first).written second).atop (head.written first) := by
  induction first generalizing head with
  | nil =>
      funext cell
      simp [written, Layer.atop, after]
  | cons c rest ih =>
      funext cell
      have later := congrFun (ih (head.next c)) cell
      simp only [List.cons_append, written, Layer.atop, after, List.foldl_cons] at later ⊢
      rw [later, Option.or_assoc]

/-- Characters that stand inside a sequence and do not end it. -/
def Inner (s : Text) : Prop := ∀ c ∈ s, c ≠ esc ∧ isalpha c = false

instance (s : Text) : Decidable (Inner s) :=
  decidable_of_iff ((s.all fun c => !decide (c = esc) && !isalpha c) = true) (by simp [Inner])

def Silent (head : Head) (s : Text) : Prop := head.written s = fun _ => none

theorem silent_append {head : Head} {first second : Text} (before : head.Silent first)
    (behind : (head.after first).Silent second) : head.Silent (first ++ second) := by
  rw [Silent, written_append, before, behind]
  rfl

theorem after_inner (head : Head) {s : Text} (inner : Inner s) (collected : Text)
    (opened : head.collected = some collected) :
    head.after s = { head with collected := some (collected ++ s) } ∧ head.Silent s := by
  induction s generalizing head collected with
  | nil => exact ⟨by simp [after, ← opened], rfl⟩
  | cons c rest ih =>
      obtain ⟨other, inside⟩ := inner c List.mem_cons_self
      have step : head.next c = { head with collected := some (collected ++ [c]) } := by
        simp [next, other, opened, inside]
      obtain ⟨reached, silent⟩ := ih (head.next c)
        (fun d later => inner d (List.mem_cons_of_mem _ later)) (collected ++ [c]) (by rw [step])
      have nothing : head.layer c = fun _ => none := by
        have letter : c ≠ 'J' := by
          rintro rfl
          exact absurd inside (by decide)
        simp [layer, opened, letter]
      constructor
      · rw [after, List.foldl_cons]
        refine reached.trans ?_
        rw [step, List.append_assoc]
        rfl
      · rw [Silent, written, silent, nothing]
        rfl

theorem inner_of_isDigit {c : Char} (digit : c.isDigit = true) : c ≠ esc ∧ isalpha c = false := by
  obtain ⟨least, most⟩ := Char.isDigit_iff_toNat.mp digit
  have most : c.val.toNat ≤ 57 := most
  have least : 48 ≤ c.val.toNat := least
  constructor
  · rintro rfl
    exact absurd digit (by decide)
  · rw [← Bool.not_eq_true]
    intro letter
    rcases Bool.or_eq_true_iff.mp letter with upper | lower
    · have bound : 65 ≤ c.val.toNat := (of_decide_eq_true upper).1
      omega
    · have bound : 97 ≤ c.val.toNat := of_decide_eq_true (Bool.and_eq_true_iff.mp lower).1
      omega

theorem inner_digits (n : Nat) : Inner (Nat.toDigits 10 n) := fun _ digit =>
  inner_of_isDigit (Nat.isDigit_of_mem_toDigits (by decide) (by decide) digit)

theorem after_sequence (head : Head) {parameters : Text} (inner : Inner parameters) (final : Char)
    (letter : isalpha final = true) (keeps : final ≠ 'J') :
    head.after (sequence parameters final) = head.finish ('[' :: parameters) final ∧
      head.Silent (sequence parameters final) := by
  have opened : Inner ('[' :: parameters) := by
    intro c inside
    rcases List.mem_cons.mp inside with rfl | later
    · decide
    · exact inner c later
  have other := isalpha_ne_esc letter
  let begun : Head := { head with collected := some [] }
  obtain ⟨reached, silent⟩ := begun.after_inner opened [] rfl
  have ended : (begun.after ('[' :: parameters)).next final =
      head.finish ('[' :: parameters) final := by
    rw [reached]
    simp [next, other, letter, finish, begun]
  have last : (begun.after ('[' :: parameters)).layer final = fun _ => none := by
    rw [reached]
    simp [layer, keeps]
  constructor
  · change begun.after ('[' :: parameters ++ [final]) = _
    rw [after_append]
    exact ended
  · have body : begun.Silent ('[' :: parameters ++ [final]) := by
      refine silent_append silent ?_
      rw [Silent, written, last]
      rfl
    have escape : head.layer esc = fun _ => none := by
      funext cell
      cases collected : head.collected with
      | none => simp [layer, collected]
      | some _ =>
          have letter : esc ≠ 'J' := by decide
          simp [layer, collected, letter]
    rw [Silent, sequence, written, escape]
    change Layer.atop (begun.written ('[' :: parameters ++ [final])) (fun _ => none) = _
    rw [body]
    rfl

theorem after_getMove (head : Head) (x y : Nat) :
    head.after (getMove x y) = .start x y ∧ head.Silent (getMove x y) := by
  have inner : Inner (Nat.toDigits 10 y ++ ';' :: Nat.toDigits 10 x) := by
    intro c inside
    rcases List.mem_append.mp inside with line | column
    · exact inner_digits y c line
    · rcases List.mem_cons.mp column with rfl | column
      · decide
      · exact inner_digits x c column
  obtain ⟨reached, silent⟩ := head.after_sequence inner 'H' (by decide) (by decide)
  refine ⟨reached.trans ?_, silent⟩
  have digits : ∀ c ∈ Nat.toDigits 10 y, decide (c ≠ ';') = true := by
    intro c digit
    refine decide_eq_true ?_
    rintro rfl
    exact absurd (Nat.isDigit_of_mem_toDigits (by decide) (by decide) digit) (by decide)
  rw [finish, if_pos rfl]
  simp only [List.drop_succ_cons, List.drop_zero, List.takeWhile_append_of_pos digits,
    List.dropWhile_append_of_pos digits]
  simp [number]

theorem after_other (head : Head) {parameters : Text} (inner : Inner parameters) (final : Char)
    (letter : isalpha final = true) (keeps : final ≠ 'J') (stays : final ≠ 'H') :
    head.after (sequence parameters final) = { head with collected := none } ∧
      head.Silent (sequence parameters final) := by
  obtain ⟨reached, silent⟩ := head.after_sequence inner final letter keeps
  exact ⟨reached.trans (if_neg stays), silent⟩

theorem after_style {head : Head} (closed : head.collected = none) {parameters : Text}
    (inner : Inner parameters) :
    head.after (sequence parameters 'm') = head ∧ head.Silent (sequence parameters 'm') := by
  obtain ⟨reached, silent⟩ := head.after_other inner 'm' (by decide) (by decide) (by decide)
  exact ⟨by rw [reached, ← closed], silent⟩

theorem after_color (head : Head) (closed : head.collected = none) (color : Color) :
    head.after color.code = head ∧ head.Silent color.code := by
  cases color <;> first | exact after_style closed (by decide) | exact ⟨rfl, rfl⟩

theorem after_background (head : Head) (closed : head.collected = none) (color : Color) :
    head.after color.background = head ∧ head.Silent color.background := by
  cases color <;> first | exact after_style closed (by decide) | exact ⟨rfl, rfl⟩

/-- Wherever the cursor was, a coloured text is written from its own place on. -/
theorem getColored_spec (head : Head) (x y : Nat) (color background : Color) (s : Text) :
    head.after (getColored x y color background s) = (start x y).after s ∧
      head.written (getColored x y color background s) = (start x y).written s := by
  obtain ⟨moved, silent⟩ := head.after_getMove x y
  obtain ⟨colored, silent_color⟩ := after_color (start x y) rfl color
  obtain ⟨backed, silent_back⟩ := after_background (start x y) rfl background
  have reached : head.after (getMove x y ++ color.code ++ background.background) = start x y := by
    rw [after_append, after_append, moved, colored, backed]
  have nothing : head.Silent (getMove x y ++ color.code ++ background.background) := by
    refine silent_append (silent_append silent ?_) ?_
    · rw [moved]
      exact silent_color
    · rw [after_append, moved, colored]
      exact silent_back
  constructor
  · rw [getColored, after_append, reached]
  · rw [getColored, written_append, reached, nothing]
    funext cell
    exact Option.or_none

/-! Where printed characters go. -/

/-- Printed characters, each in a cell. -/
def Plain (s : Text) : Prop := ∀ c ∈ s, c ≠ esc ∧ c ≠ '\n'

instance (s : Text) : Decidable (Plain s) :=
  decidable_of_iff ((s.all fun c => !decide (c = esc) && !decide (c = '\n')) = true) (by simp [Plain])

theorem after_plain {head : Head} (closed : head.collected = none) {s : Text} (plain : Plain s) :
    head.after s = ⟨(head.cell.1 + s.length, head.cell.2), none⟩ := by
  induction s generalizing head with
  | nil => exact closed ▸ rfl
  | cons c rest ih =>
      obtain ⟨other, inline⟩ := plain c List.mem_cons_self
      have step : head.next c = ⟨(head.cell.1 + 1, head.cell.2), none⟩ := by
        simp [next, other, inline, closed]
      have still : (head.next c).collected = none := by rw [step]
      have later := ih still fun d inside => plain d (List.mem_cons_of_mem _ inside)
      rw [after, List.foldl_cons]
      refine later.trans ?_
      rw [step, List.length_cons, Nat.add_assoc, Nat.add_comm 1]

theorem covers_plain {head : Head} (closed : head.collected = none) {s : Text} (plain : Plain s)
    (cell : Cell) :
    (head.written s).Covers cell ↔
      cell.2 = head.cell.2 ∧ head.cell.1 ≤ cell.1 ∧ cell.1 < head.cell.1 + s.length := by
  induction s generalizing head with
  | nil =>
      simp only [written, Layer.Covers, ne_eq, not_true_eq_false, List.length_nil, false_iff]
      omega
  | cons c rest ih =>
      obtain ⟨other, inline⟩ := plain c List.mem_cons_self
      have step : head.next c = ⟨(head.cell.1 + 1, head.cell.2), none⟩ := by
        simp [next, other, inline, closed]
      have here : (head.layer c).Covers cell ↔ cell = head.cell := by
        simp [Layer.Covers, layer, closed, other, inline]
      have still : (head.next c).collected = none := by rw [step]
      have later := ih still fun d inside => plain d (List.mem_cons_of_mem _ inside)
      rw [written, Layer.covers_atop, later, here, step, Prod.ext_iff, List.length_cons]
      simp only
      omega

theorem covers_append (head : Head) (first second : Text) (cell : Cell) :
    (head.written (first ++ second)).Covers cell ↔
      ((head.after first).written second).Covers cell ∨ (head.written first).Covers cell := by
  rw [written_append, Layer.covers_atop]

/-- The terminal and the scanners of a text agree on where sequences end. -/
theorem after_collected (head : Head) (s : Text) :
    (head.after s).collected.isSome = opensFrom head.collected.isSome s := by
  induction s generalizing head with
  | nil => simp [after, opensFrom]
  | cons c rest ih =>
      rw [after, List.foldl_cons]
      refine (ih (head.next c)).trans ?_
      by_cases escape : c = esc
      · have inside : isalpha esc = false := by decide
        rw [next, if_pos escape, escape]
        cases head.collected <;> simp [opensFrom, inside]
      · rw [next, if_neg escape]
        cases collected : head.collected with
        | none =>
            simp only [Option.isSome_none, opensFrom, escape, decide_false]
            split <;> simp
        | some before =>
            cases letter : isalpha c with
            | false => simp [opensFrom, letter]
            | true =>
                simp only [Option.isSome_some, opensFrom, letter, finish, if_true]
                split <;> rfl

end Head

/-- A sequence that neither clears nor moves only ends one that was open. -/
theorem print_other (t : Terminal) {parameters : Text} (inner : Head.Inner parameters) (final : Char)
    (letter : isalpha final = true) (keeps : final ≠ 'J') (stays : final ≠ 'H') :
    t.print (sequence parameters final) = { t with head := { t.head with collected := none } } := by
  obtain ⟨reached, silent⟩ := t.head.after_other inner final letter keeps stays
  rw [print_eq, reached, silent]
  rfl

theorem print_hideCursor (t : Terminal) :
    t.print getHideCursor = { t with head := { t.head with collected := none } } :=
  print_other t (by decide) 'l' (by decide) (by decide) (by decide)

theorem print_clear (t : Terminal) :
    t.print (sequence ['2'] 'J') = ⟨fun _ => ' ', { t.head with collected := none }⟩ := rfl

theorem print_home (t : Terminal) : t.print (sequence [] 'H') = { t with head := .start 1 1 } := by
  obtain ⟨reached, silent⟩ := t.head.after_sequence (fun _ absent => absurd absent List.not_mem_nil)
    'H' (by decide) (by decide)
  rw [print_eq, reached, silent]
  rfl

theorem print_clearAll (t : Terminal) : t.print getClearAll = .blank := by
  have foreground (t : Terminal) : t.print Color.standard.code =
      { t with head := { t.head with collected := none } } :=
    print_other t (by decide) 'm' (by decide) (by decide) (by decide)
  have background (t : Terminal) : t.print Color.standard.background =
      { t with head := { t.head with collected := none } } :=
    print_other t (by decide) 'm' (by decide) (by decide) (by decide)
  rw [getClearAll, print_append, print_append, print_append, foreground, background, print_clear,
    print_home]
  rfl

theorem print_getColored (t : Terminal) (x y : Nat) (color background : Color) (s : Text) :
    t.print (getColored x y color background s) =
      ⟨paint t.cells ((Head.start x y).written s), (Head.start x y).after s⟩ := by
  obtain ⟨reached, written⟩ := t.head.getColored_spec x y color background s
  rw [print_eq, reached, written]

end SpeFramework.TermForm
