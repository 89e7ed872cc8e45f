import Mathlib.Algebra.Ring.Nat
import Mathlib.Data.List.Induction

/-!
Texts with escape sequences: `ansi_escape_codes.cpp`, `tools.cpp` and the text of a control. One
scanner collects the complete sequences, one filters what is inside any, and the size of a text
is taken with either.
-/

namespace SpeFramework.TermForm

/-- A `std::string`, character by character. -/
abbrev Text := List Char

abbrev esc : Char := '\x1b'

/-- `isalpha` of the "C" locale -/
abbrev isalpha (c : Char) : Bool := c.isAlpha

/-- `find_all` from inside a sequence on, of which `some` characters were collected. -/
def findAllFrom : Option Text → Text → List Text
  | _, [] => []
  | none, c :: rest => if c = esc then findAllFrom (some []) rest else findAllFrom none rest
  | some collected, c :: rest =>
      if isalpha c then
        -- `--it` brings the outer loop to this letter once more
        (collected ++ [c]) ::
          if c = esc then findAllFrom (some []) rest else findAllFrom none rest
      else findAllFrom (some (collected ++ [c])) rest

def findAll (string : Text) : List Text := findAllFrom none string

def metadataLenght (string : Text) : Nat := ((findAll string).map fun s => s.length + 1).sum

def countNewlines (string : Text) : Nat := string.count '\n'

def stripFrom : Bool → Text → Text
  | _, [] => []
  | true, c :: rest => if c = esc then stripFrom false rest else c :: stripFrom true rest
  | false, c :: rest => stripFrom (isalpha c) rest

def strip (string : Text) : Text := stripFrom true string

structure Boxsize where
  width : UInt16
  height : UInt16
  deriving DecidableEq, Repr

/-- `if (cwidth > _string_size.width) _string_size.width = cwidth;` -/
def Boxsize.widen (size : Boxsize) (cwidth : UInt16) : Boxsize :=
  if cwidth > size.width then { size with width := cwidth } else size

def boxsizeFrom : Text → Boxsize → UInt16 → Boxsize
  | [], size, cwidth => size.widen cwidth
  | c :: rest, size, cwidth =>
      if c = '\n' then
        let size := size.widen cwidth
        boxsizeFrom rest { size with height := size.height + 1 } 0
      else boxsizeFrom rest size (cwidth + 1)

def stringBoxsize (s : Text) : Boxsize := boxsizeFrom (strip s) ⟨0, 1⟩ 0

/-! Labels and buttons: controls that leave `on_text_change` and `paint` as they are. -/

structure TextControl where
  text : Text
  width : UInt16
  height : UInt16
  deriving DecidableEq, Repr

def TextControl.fresh : TextControl := ⟨[], 1, 1⟩

/-- What `width()` and `height()` make of the `uint16_t` they return as an `int16_t`. -/
def asInt16 (value : UInt16) : Int :=
  if value.toNat < 32768 then value.toNat else value.toNat - 65536

namespace TextControl

def onTextChange (value : Text) (control : TextControl) : TextControl :=
  { control with
    text := value
    width := UInt16.ofNat (value.length - metadataLenght value)
    height := UInt16.ofNat (countNewlines value + 1) }

def setText (control : TextControl) (value : Text) : TextControl :=
  if control.text ≠ value then
    let size := stringBoxsize value
    { control with width := size.width, height := size.height }.onTextChange value
  else control

def paintSize (control : TextControl) : Boxsize := stringBoxsize control.text

end TextControl

/-! The collector counts what the filter removes, up to a sequence that never ends. -/

/-- Whether the end of the text lies inside a sequence. -/
def opensFrom : Bool → Text → Bool
  | inside, [] => inside
  | false, c :: rest => opensFrom (decide (c = esc)) rest
  | true, c :: rest => opensFrom (!isalpha c) rest

theorem isalpha_ne_esc {c : Char} (letter : isalpha c = true) : c ≠ esc := by
  rintro rfl
  exact absurd letter (by decide)

def collectedLength (sequences : List Text) : Nat := (sequences.map fun s => s.length + 1).sum

/-- The characters on the way: those collected of a sequence, and its escape. -/
def pending : Option Text → Nat
  | none => 0
  | some collected => collected.length + 1

def accountedFrom (state : Option Text) (s : Text) : Nat :=
  collectedLength (findAllFrom state s) + (stripFrom state.isNone s).length

theorem accountedFrom_starts (rest : Text) :
    accountedFrom none (esc :: rest) = accountedFrom (some []) rest := by
  simp [accountedFrom, findAllFrom, stripFrom]

theorem accountedFrom_plain {c : Char} (plain : c ≠ esc) (rest : Text) :
    accountedFrom none (c :: rest) = accountedFrom none rest + 1 := by
  simp [accountedFrom, findAllFrom, stripFrom, plain, Nat.add_assoc]

theorem accountedFrom_ends {c : Char} (letter : isalpha c = true) (collected rest : Text) :
    accountedFrom (some collected) (c :: rest) = accountedFrom none rest + collected.length + 2 := by
  have other := isalpha_ne_esc letter
  simp only [accountedFrom, findAllFrom, stripFrom, letter, if_true, other, if_false,
    Option.isNone_some, Option.isNone_none, collectedLength, List.map_cons, List.sum_cons,
    List.length_append, List.length_singleton]
  omega

theorem accountedFrom_inside {c : Char} (inside : isalpha c = false) (collected rest : Text) :
    accountedFrom (some collected) (c :: rest) = accountedFrom (some (collected ++ [c])) rest := by
  simp [accountedFrom, findAllFrom, stripFrom, inside]

theorem accountedFrom_spec (state : Option Text) (s : Text) :
    accountedFrom state s ≤ s.length + pending state ∧
      (accountedFrom state s = s.length + pending state ↔ opensFrom state.isSome s = false) := by
  induction s generalizing state with
  | nil =>
      cases state <;>
        simp [accountedFrom, findAllFrom, stripFrom, opensFrom, collectedLength, pending]
  | cons c rest ih =>
      cases state with
      | none =>
          by_cases starts : c = esc
          · subst starts
            obtain ⟨bound, exactly⟩ := ih (some [])
            have isEsc : decide (esc = esc) = true := decide_eq_true rfl
            rw [accountedFrom_starts, Option.isSome_none, opensFrom, isEsc]
            simp only [pending, List.length_nil, List.length_cons] at bound exactly ⊢
            exact ⟨by omega, Iff.trans (by omega) exactly⟩
          · obtain ⟨bound, exactly⟩ := ih none
            rw [accountedFrom_plain starts, Option.isSome_none, opensFrom, decide_eq_false starts]
            simp only [pending, List.length_cons] at bound exactly ⊢
            exact ⟨by omega, Iff.trans (by omega) exactly⟩
      | some collected =>
          cases letter : isalpha c with
          | true =>
              obtain ⟨bound, exactly⟩ := ih none
              rw [accountedFrom_ends letter, Option.isSome_some, opensFrom, letter]
              simp only [pending, List.length_cons] at bound exactly ⊢
              exact ⟨by omega, Iff.trans (by omega) exactly⟩
          | false =>
              obtain ⟨bound, exactly⟩ := ih (some (collected ++ [c]))
              rw [accountedFrom_inside letter, Option.isSome_some, opensFrom, letter]
              simp only [pending, List.length_append, List.length_cons, List.length_nil]
                at bound exactly ⊢
              exact ⟨by omega, Iff.trans (by omega) exactly⟩

theorem metadata_add_strip (s : Text) :
    metadataLenght s + (strip s).length ≤ s.length ∧
      (metadataLenght s + (strip s).length = s.length ↔ opensFrom false s = false) :=
  accountedFrom_spec none s

/-- An escape that no letter follows. -/
def OpenEscape (s : Text) : Prop :=
  ∃ before rest, s = before ++ esc :: rest ∧ ∀ c ∈ rest, isalpha c = false

theorem openEscape_cons (c : Char) (rest : Text) :
    OpenEscape (c :: rest) ↔ (c = esc ∧ ∀ d ∈ rest, isalpha d = false) ∨ OpenEscape rest := by
  constructor
  · rintro ⟨before, after, split, unlettered⟩
    cases before with
    | nil =>
        rw [List.nil_append, List.cons.injEq] at split
        exact .inl ⟨split.1, by rwa [split.2]⟩
    | cons first before =>
        rw [List.cons_append, List.cons.injEq] at split
        exact .inr ⟨before, after, split.2, unlettered⟩
  · rintro (⟨rfl, unlettered⟩ | ⟨before, after, rfl, unlettered⟩)
    · exact ⟨[], rest, rfl, unlettered⟩
    · exact ⟨c :: before, after, rfl, unlettered⟩

theorem opensFrom_iff (inside : Bool) (s : Text) :
    opensFrom inside s = true ↔ (inside = true ∧ ∀ c ∈ s, isalpha c = false) ∨ OpenEscape s := by
  induction s generalizing inside with
  | nil => simp [opensFrom, OpenEscape]
  | cons c rest ih =>
      rw [openEscape_cons]
      cases inside with
      | false => simp only [opensFrom, ih, decide_eq_true_eq, Bool.false_eq_true, false_and, false_or]
      | true =>
          simp only [opensFrom, ih, Bool.not_eq_true', true_and, List.forall_mem_cons]
          constructor
          · rintro (⟨other, unlettered⟩ | later)
            · exact .inl ⟨other, unlettered⟩
            · exact .inr (.inr later)
          · rintro (⟨other, unlettered⟩ | ⟨rfl, unlettered⟩ | later)
            · exact .inl ⟨other, unlettered⟩
            · exact .inl ⟨by decide, unlettered⟩
            · exact .inr later

theorem metadata_eq_iff (s : Text) :
    metadataLenght s + (strip s).length = s.length ↔ ¬ OpenEscape s := by
  rw [(metadata_add_strip s).2, ← Bool.not_eq_true, opensFrom_iff]
  simp

/-! The width of a text is its length when it is a single line. -/

/-- The longest line, of a text that goes on a line of `before` characters. -/
def longestLine : Nat → Text → Nat
  | before, [] => before
  | before, c :: rest =>
      if c = '\n' then max before (longestLine 0 rest) else longestLine (before + 1) rest

theorem longestLine_le (before : Nat) (s : Text) :
    longestLine before s ≤ before + s.length ∧
      (longestLine before s = before + s.length ↔ '\n' ∉ s) := by
  induction s generalizing before with
  | nil => simp [longestLine]
  | cons c rest ih =>
      by_cases newline : c = '\n'
      · have shorter := (ih 0).1
        simp only [longestLine, newline, if_true, List.length_cons, List.mem_cons, true_or,
          not_true_eq_false, iff_false]
        omega
      · obtain ⟨bound, exactly⟩ := ih (before + 1)
        have other : '\n' ≠ c := fun same => newline same.symm
        simp only [longestLine, newline, if_false, List.length_cons, List.mem_cons, other, false_or]
        exact ⟨by omega, Iff.trans (by omega) exactly⟩

theorem Boxsize.widen_width (size : Boxsize) (cwidth : UInt16) :
    (size.widen cwidth).width.toNat = max size.width.toNat cwidth.toNat := by
  rw [widen]
  split
  · have above : size.width.toNat < cwidth.toNat := by assumption
    exact (Nat.max_eq_right (Nat.le_of_lt above)).symm
  · have below : ¬ size.width.toNat < cwidth.toNat := by assumption
    exact (Nat.max_eq_left (Nat.not_lt.mp below)).symm

@[simp] theorem Boxsize.widen_height (size : Boxsize) (cwidth : UInt16) :
    (size.widen cwidth).height = size.height := by
  rw [widen]
  split <;> rfl

theorem boxsizeFrom_spec (s : Text) (size : Boxsize) (cwidth : UInt16)
    (fits : cwidth.toNat + s.length < 65536) :
    (boxsizeFrom s size cwidth).width.toNat =
        max size.width.toNat (longestLine cwidth.toNat s) ∧
      (boxsizeFrom s size cwidth).height = size.height + UInt16.ofNat (countNewlines s) := by
  induction s generalizing size cwidth with
  | nil => exact ⟨size.widen_width cwidth, by simp [boxsizeFrom, countNewlines]⟩
  | cons c rest ih =>
      rw [List.length_cons] at fits
      by_cases newline : c = '\n'
      · obtain ⟨width, height⟩ := ih { size.widen cwidth with height := (size.widen cwidth).height + 1 }
          0 (by simp; omega)
        simp only [boxsizeFrom, newline, if_true, longestLine, countNewlines, List.count_cons_self]
        constructor
        · rw [width]
          simp only [Boxsize.widen_width, UInt16.toNat_zero]
          exact Nat.max_assoc _ _ _
        · rw [height]
          simp only [Boxsize.widen_height, countNewlines, UInt16.ofNat_add]
          rw [UInt16.add_assoc, UInt16.add_comm 1]
          rfl
      · have next : (cwidth + 1).toNat = cwidth.toNat + 1 := by
          rw [UInt16.toNat_add, UInt16.toNat_one]
          exact Nat.mod_eq_of_lt (by omega)
        obtain ⟨width, height⟩ := ih size (cwidth + 1) (by omega)
        simp only [boxsizeFrom, newline, if_false, longestLine, countNewlines]
        rw [next] at width
        refine ⟨width, height.trans ?_⟩
        rw [countNewlines, List.count_cons_of_ne newline]

/-! The sizes of a label or button, stored when its text was set and returned when it is painted. -/

theorem mem_of_mem_strip {c : Char} (keep : Bool) {s : Text} (kept : c ∈ stripFrom keep s) : c ∈ s := by
  induction s generalizing keep with
  | nil => cases keep <;> exact kept
  | cons first rest ih =>
      cases keep with
      | false => exact List.mem_cons_of_mem _ (ih _ kept)
      | true =>
          by_cases starts : first = esc
          · rw [stripFrom, if_pos starts] at kept
            exact List.mem_cons_of_mem _ (ih _ kept)
          · rw [stripFrom, if_neg starts] at kept
            rcases List.mem_cons.mp kept with rfl | later
            · exact List.mem_cons_self
            · exact List.mem_cons_of_mem _ (ih _ later)

theorem stringBoxsize_width {s : Text} (short : s.length < 65536) :
    (stringBoxsize s).width.toNat = longestLine 0 (strip s) := by
  have stripped := (metadata_add_strip s).1
  rw [stringBoxsize, (boxsizeFrom_spec (strip s) ⟨0, 1⟩ 0 (by simp; omega)).1]
  exact Nat.max_eq_right (Nat.zero_le _)

theorem stringBoxsize_height {s : Text} (short : s.length < 65536) :
    (stringBoxsize s).height = 1 + UInt16.ofNat (countNewlines (strip s)) := by
  have stripped := (metadata_add_strip s).1
  rw [stringBoxsize, (boxsizeFrom_spec (strip s) ⟨0, 1⟩ 0 (by simp; omega)).2]

theorem asInt16_eq_iff (value : UInt16) (size : Nat) :
    asInt16 value = size ↔ value.toNat = size ∧ size < 32768 := by
  have bound := value.toNat_lt
  rw [asInt16]
  split <;> omega

namespace TextControl

/-- What is stored is what is painted, and the sequences counted are what is removed. -/
structure Agrees (control : TextControl) : Prop where
  width : asInt16 control.width = control.paintSize.width.toNat
  height : asInt16 control.height = control.paintSize.height.toNat
  removed : metadataLenght control.text = control.text.length - (strip control.text).length

end TextControl

/-- One line, every escape followed by a letter, and no more visible characters than an `int16_t`
can tell. -/
structure PlainLine (value : Text) : Prop where
  line : '\n' ∉ value
  closed : ¬ OpenEscape value
  narrow : (strip value).length < 32768

/-- Newlines inside sequences count for the stored height alone. -/
theorem heights_agree_iff {value : Text} (short : value.length < 65536) (line : '\n' ∉ strip value) :
    asInt16 (UInt16.ofNat (countNewlines value + 1)) = (stringBoxsize value).height.toNat ↔
      '\n' ∉ value := by
  have few : countNewlines value ≤ value.length := List.count_le_length
  have none : countNewlines (strip value) = 0 := List.count_eq_zero.mpr line
  have painted : (stringBoxsize value).height.toNat = 1 := by
    rw [stringBoxsize_height short, none]
    rfl
  have stored : (UInt16.ofNat (countNewlines value + 1)).toNat = (countNewlines value + 1) % 65536 :=
    UInt16.toNat_ofNat'
  rw [painted, asInt16_eq_iff, stored, ← List.count_eq_zero]
  change _ ↔ countNewlines value = 0
  omega

theorem sized_agrees_iff {value : Text} (short : value.length < 65536) :
    (TextControl.fresh.onTextChange value).Agrees ↔ PlainLine value := by
  obtain ⟨bound, exactly⟩ := metadata_add_strip value
  obtain ⟨visible, single⟩ := longestLine_le 0 (strip value)
  have width := stringBoxsize_width short
  have stored : (UInt16.ofNat (value.length - metadataLenght value)).toNat =
      value.length - metadataLenght value :=
    UInt16.toNat_ofNat_of_lt' (Nat.lt_of_le_of_lt (Nat.sub_le _ _) short)
  constructor
  · rintro ⟨wide, high, removed⟩
    have counted : metadataLenght value = value.length - (strip value).length := removed
    rw [asInt16_eq_iff] at wide
    simp only [TextControl.onTextChange, TextControl.paintSize] at wide high
    rw [stored, width] at wide
    have all : metadataLenght value + (strip value).length = value.length := by omega
    have line : '\n' ∉ strip value := single.mp (by omega)
    exact ⟨(heights_agree_iff short line).mp high, (metadata_eq_iff value).mp all, by omega⟩
  · rintro ⟨line, closed, narrow⟩
    have all := (metadata_eq_iff value).mpr closed
    have kept : '\n' ∉ strip value := fun kept => line (mem_of_mem_strip true kept)
    have lines := single.mpr kept
    refine ⟨?_, (heights_agree_iff short kept).mpr line, ?_⟩
    · rw [asInt16_eq_iff]
      simp only [TextControl.onTextChange, TextControl.paintSize]
      rw [stored, width]
      omega
    · have same : metadataLenght value = value.length - (strip value).length := by omega
      exact same

/-! Setting texts one after the other. A text that is already there changes nothing, so the size
that a control starts with stays for as long as its text is empty. -/

def labelAfter (values : List Text) : TextControl := values.foldl TextControl.setText .fresh

theorem setText_eq (control : TextControl) (value : Text) :
    control.setText value =
      if control.text = value then control else TextControl.fresh.onTextChange value := by
  rw [TextControl.setText]
  by_cases same : control.text = value <;> simp [same, TextControl.onTextChange]

theorem labelAfter_concat (earlier : List Text) (value : Text) :
    labelAfter (earlier ++ [value]) =
      if value = [] ∧ ∀ previous ∈ earlier, previous = [] then .fresh
      else TextControl.fresh.onTextChange value := by
  have step (last : List Text) (next : Text) :
      labelAfter (last ++ [next]) = (labelAfter last).setText next := by
    rw [labelAfter, List.foldl_append]
    rfl
  induction earlier using List.reverseRecOn generalizing value with
  | nil =>
      rw [step, setText_eq]
      simp [labelAfter, TextControl.fresh, eq_comm]
  | append_singleton earlier previous ih =>
      rw [step, ih, setText_eq]
      by_cases never : previous = [] ∧ ∀ older ∈ earlier, older = []
      · have all : ∀ older ∈ earlier ++ [previous], older = [] := by
          intro older member
          rcases List.mem_append.mp member with before | last
          · exact never.2 older before
          · rw [List.mem_singleton.mp last]
            exact never.1
        rw [if_pos never]
        by_cases empty : value = []
        · exact (if_pos empty.symm).trans (if_pos ⟨empty, all⟩).symm
        · exact (if_neg fun same => empty (Eq.symm same)).trans (if_neg fun both => empty both.1).symm
      · have some : ¬ (value = [] ∧ ∀ older ∈ earlier ++ [previous], older = []) := fun ⟨_, all⟩ =>
          never ⟨all previous (by simp), fun older member => all older (by simp [member])⟩
        rw [if_neg never, if_neg some]
        by_cases same : previous = value
        · rw [same]
          exact if_pos rfl
        · exact if_neg same

theorem label_agrees_iff (earlier : List Text) {value : Text} (short : value.length < 65536) :
    (labelAfter (earlier ++ [value])).Agrees ↔
      PlainLine value ∧ ¬ (value = [] ∧ ∀ previous ∈ earlier, previous = []) := by
  rw [labelAfter_concat]
  by_cases never : value = [] ∧ ∀ previous ∈ earlier, previous = []
  · have untouched : ¬ TextControl.fresh.Agrees := fun agrees => absurd agrees.width (by decide)
    rw [if_pos never]
    exact iff_of_false untouched fun both => both.2 never
  · rw [if_neg never, sized_agrees_iff short]
    exact (and_iff_left never).symm

/-! A coloured caption, and a caption of two lines. -/

theorem coloured_agrees :
    (labelAfter ([] ++ [['\x1b', '[', '3', '1', 'm', 'O', 'K']])).Agrees := by
  refine (label_agrees_iff [] (by decide)).mpr ⟨⟨by decide, ?_, by decide⟩, by decide⟩
  rw [← metadata_eq_iff]
  decide

theorem twoLines_disagree : ¬ (labelAfter ([] ++ [['O', 'n', '\n', 'O', 'f', 'f']])).Agrees :=
  fun agrees => absurd agrees.width (by decide)

end SpeFramework.TermForm
