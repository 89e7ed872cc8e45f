import SpeFramework.TermForm.Painting

/-!
What a painted container prints, as a list of draws: the controls and paddings, each with its
position. Children of a column are printed each time, controls in a row when they are flagged.
-/

namespace SpeFramework.TermForm

open OrderedTree Overlay

inductive Source
  | control (own : Control)
  | padding (count : Nat) (colors : Colors)

structure Draw where
  /-- A control that stands in a row. -/
  inRow : Bool
  /-- The component whose focus colours it. -/
  place : Path
  x : UInt16
  y : UInt16
  source : Source

namespace Draw

def text (draw : Draw) : Text :=
  match draw.source with
  | .control own => own.string
  | .padding count _ => List.replicate count ' '

def colors (draw : Draw) : Colors :=
  match draw.source with
  | .control own => own.colors
  | .padding _ colors => colors

def emitted (state : FocusState) (draw : Draw) : Text :=
  getColored draw.x.toNat draw.y.toNat (draw.colors.paintColor (state.hasFocus draw.place))
    (draw.colors.paintBackground (state.hasFocus draw.place)) draw.text

def layer (draw : Draw) : Layer Cell Char :=
  (Head.start draw.x.toNat draw.y.toNat).written draw.text

def painted (force : Bool) (state : FocusState) (draw : Draw) : Bool :=
  force || !draw.inRow || state.invalid draw.place

end Draw

/-- The draw of a control, or those within a container. -/
def drawn (component : FormTree) (inRow : Bool) (place : Path) (x y : UInt16) (within : List Draw) :
    List Draw :=
  match component with
  | .leaf own => [⟨inRow, place, x, y, .control own⟩]
  | .node _ _ => within

def paddingDraw (paddingRight : UInt8) (colors : Colors) (path : Path) (x y : UInt16) : List Draw :=
  if paddingRight > 0 then [⟨false, path, x, y, .padding paddingRight.toNat colors⟩] else []

mutual

def draws : FormTree → Path → UInt16 → UInt16 → List Draw
  | .leaf _, _, _, _ => []
  | .node (.row _) components, path, x, y => drawsRow components 0 path x y
  | .node (.column paddingRight colors) components, path, x, y =>
      drawsColumn paddingRight colors components 0 path x y

def drawsRow : List FormTree → Nat → Path → UInt16 → UInt16 → List Draw
  | [], _, _, _, _ => []
  | c :: rest, index, path, x, yPos =>
      drawn c true (path ++ [index]) x yPos (draws c (path ++ [index]) x yPos) ++
        drawsRow rest (index + 1) path x (yPos + (returned c x yPos).height)

def drawsColumn (paddingRight : UInt8) (colors : Colors) :
    List FormTree → Nat → Path → UInt16 → UInt16 → List Draw
  | [], _, _, _, _ => []
  | c :: rest, index, path, xPos, y =>
      drawn c false (path ++ [index]) xPos y (draws c (path ++ [index]) xPos y) ++
        (paddingDraw paddingRight colors path (xPos + (returned c xPos y).width) y ++
          drawsColumn paddingRight colors rest (index + 1) path
            (xPos + (returned c xPos y).width + paddingRight.toUInt16) y)

end

/-! Where the draws come from. -/

/-- It is a draw of the component at `path`. -/
def Draw.Of (draw : Draw) (tree : FormTree) (path : Path) : Prop :=
  ∃ rest, draw.place = path ++ rest ∧
    match draw.source with
    | .control own => subtree rest tree = some (.leaf own)
    | .padding _ _ => draw.inRow = false

theorem Draw.Of.child {draw : Draw} {container : Container} {components : List FormTree}
    {index : Nat} {c : FormTree} {path : Path} (there : components[index]? = some c)
    (below : draw.Of c (path ++ [index])) : draw.Of (.node container components) path := by
  obtain ⟨rest, place, source⟩ := below
  refine ⟨index :: rest, by rw [place, List.append_assoc]; rfl, ?_⟩
  cases kind : draw.source with
  | control own =>
      simp only [kind] at source
      simpa [subtree, there] using source
  | padding count colors =>
      simp only [kind] at source
      exact source

theorem drawn_of {c : FormTree} {inRow : Bool} {place : Path} {x y : UInt16} {within : List Draw}
    (inner : ∀ draw ∈ within, draw.Of c place) {draw : Draw}
    (member : draw ∈ drawn c inRow place x y within) : draw.Of c place := by
  cases c with
  | leaf own =>
      rw [List.mem_singleton.mp member]
      exact ⟨[], (List.append_nil place).symm, rfl⟩
  | node container components => exact inner draw member

mutual

theorem draws_of (tree : FormTree) (path : Path) (x y : UInt16) :
    ∀ draw ∈ draws tree path x y, draw.Of tree path := by
  intro draw member
  cases tree with
  | leaf own => simp [draws] at member
  | node container components =>
      cases container with
      | row colors =>
          obtain ⟨index, c, there, below⟩ := drawsRow_of components 0 path x y draw member
          rw [Nat.zero_add] at below
          exact below.child there
      | column paddingRight colors =>
          rcases drawsColumn_of paddingRight colors components 0 path x y draw member with
            ⟨inRow, place, count, filler, source⟩ | ⟨index, c, there, below⟩
          · refine ⟨[], place.trans (List.append_nil path).symm, ?_⟩
            rw [source]
            exact inRow
          · rw [Nat.zero_add] at below
            exact below.child there

theorem drawsRow_of (components : List FormTree) (start : Nat) (path : Path) (x yPos : UInt16) :
    ∀ draw ∈ drawsRow components start path x yPos,
      ∃ index c, components[index]? = some c ∧ draw.Of c (path ++ [start + index]) := by
  intro draw member
  cases components with
  | nil => simp [drawsRow] at member
  | cons c rest =>
      rcases List.mem_append.mp member with here | later
      · exact ⟨0, c, rfl, drawn_of (draws_of c (path ++ [start]) x yPos) here⟩
      · obtain ⟨index, c', there, below⟩ := drawsRow_of rest (start + 1) path x _ draw later
        refine ⟨index + 1, c', there, ?_⟩
        rwa [Nat.add_right_comm] at below

theorem drawsColumn_of (paddingRight : UInt8) (colors : Colors) (components : List FormTree)
    (start : Nat) (path : Path) (xPos y : UInt16) :
    ∀ draw ∈ drawsColumn paddingRight colors components start path xPos y,
      (draw.inRow = false ∧ draw.place = path ∧ ∃ count filler, draw.source = .padding count filler) ∨
        ∃ index c, components[index]? = some c ∧ draw.Of c (path ++ [start + index]) := by
  intro draw member
  cases components with
  | nil => simp [drawsColumn] at member
  | cons c rest =>
      rcases List.mem_append.mp member with here | later
      · exact .inr ⟨0, c, rfl, drawn_of (draws_of c (path ++ [start]) xPos y) here⟩
      · rcases List.mem_append.mp later with filler | later
        · rw [paddingDraw] at filler
          split at filler
          · rw [List.mem_singleton.mp filler]
            exact .inl ⟨rfl, rfl, _, _, rfl⟩
          · simp at filler
        · rcases drawsColumn_of paddingRight colors rest (start + 1) path _ y draw later with
            own | ⟨index, c', there, below⟩
          · exact .inl own
          · refine .inr ⟨index + 1, c', there, ?_⟩
            rwa [Nat.add_right_comm] at below

end

/-! Painting clears the flags of controls, and writes nothing else. -/

def ControlOf (tree : FormTree) (path place : Path) : Prop :=
  ∃ rest own, place = path ++ rest ∧ subtree rest tree = some (.leaf own)

/-- A control of the components number `start` and following. -/
def ControlAmong (components : List FormTree) (start : Nat) (path place : Path) : Prop :=
  ∃ index c, components[index]? = some c ∧ ControlOf c (path ++ [start + index]) place

theorem controlOf_node {container : Container} {components : List FormTree} {path place : Path} :
    ControlAmong components 0 path place → ControlOf (.node container components) path place := by
  rintro ⟨index, c, there, rest, own, rfl, below⟩
  refine ⟨index :: rest, own, ?_, by simpa [subtree, there] using below⟩
  rw [Nat.zero_add, List.append_assoc]
  rfl

theorem controlAmong_later {c : FormTree} {components : List FormTree} {start : Nat}
    {path place : Path} :
    ControlAmong components (start + 1) path place →
      ControlAmong (c :: components) start path place := by
  rintro ⟨index, c', there, below⟩
  refine ⟨index + 1, c', there, ?_⟩
  rwa [Nat.add_right_comm] at below

structure Clears (own : Path → Prop) (before after : FocusState) : Prop where
  hasFocus : after.hasFocus = before.hasFocus
  cursor : after.cursor = before.cursor
  invalid : ∀ place, ¬ own place → after.invalid place = before.invalid place

theorem Clears.refl (own : Path → Prop) (state : FocusState) : Clears own state state :=
  ⟨rfl, rfl, fun _ _ => rfl⟩

theorem Clears.trans {own : Path → Prop} {first second third : FocusState}
    (left : Clears own first second) (right : Clears own second third) : Clears own first third := by
  refine ⟨right.hasFocus.trans left.hasFocus, right.cursor.trans left.cursor, fun place other => ?_⟩
  exact (right.invalid place other).trans (left.invalid place other)

theorem Clears.mono {own others : Path → Prop} {before after : FocusState}
    (clears : Clears own before after) (more : ∀ place, own place → others place) :
    Clears others before after :=
  ⟨clears.hasFocus, clears.cursor, fun place other =>
    clears.invalid place fun inside => other (more place inside)⟩

mutual

theorem paintComponent_clears (force : Bool) (tree : FormTree) (path : Path) (x y : UInt16)
    (state : FocusState) :
    Clears (ControlOf tree path) state (paintComponent force tree path x y state).2 := by
  cases tree with
  | leaf own =>
      refine ⟨rfl, rfl, fun place other => Function.update_of_ne ?_ _ _⟩
      rintro rfl
      exact other ⟨[], own, (List.append_nil _).symm, rfl⟩
  | node container components =>
      cases container with
      | row colors =>
          exact (paintRow_clears force components 0 path x y state).mono fun _ => controlOf_node
      | column paddingRight colors =>
          exact (paintColumn_clears force paddingRight colors components 0 path x y state).mono
            fun _ => controlOf_node

theorem paintRow_clears (force : Bool) (components : List FormTree) (start : Nat) (path : Path)
    (x yPos : UInt16) (state : FocusState) :
    Clears (ControlAmong components start path) state
      (paintRow force components start path x yPos state).2 := by
  cases components with
  | nil => exact Clears.refl _ state
  | cons c rest =>
      have here := paintComponent_clears force c (path ++ [start]) x yPos state
      have later := paintRow_clears force rest (start + 1) path x
        (yPos + (paintComponent force c (path ++ [start]) x yPos state).1.height)
        (paintComponent force c (path ++ [start]) x yPos state).2
      exact (here.mono fun place inside => ⟨0, c, rfl, inside⟩).trans
        (later.mono fun _ => controlAmong_later)

theorem paintColumn_clears (force : Bool) (paddingRight : UInt8) (colors : Colors)
    (components : List FormTree) (start : Nat) (path : Path) (xPos y : UInt16) (state : FocusState) :
    Clears (ControlAmong components start path) state
      (paintColumn force paddingRight colors components start path xPos y state).2 := by
  cases components with
  | nil => exact Clears.refl _ state
  | cons c rest =>
      have here := paintComponent_clears force c (path ++ [start]) xPos y state
      have inside : Clears (ControlAmong (c :: rest) start path) state
          (paintComponent force c (path ++ [start]) xPos y state).2 :=
        here.mono fun place inside => ⟨0, c, rfl, inside⟩
      rw [paintColumn]
      split
      · exact inside.trans ((paintColumn_clears force paddingRight colors rest (start + 1) path _ y
          _).mono fun _ => controlAmong_later)
      · exact inside.trans ((paintColumn_clears force paddingRight colors rest (start + 1) path _ y
          _).mono fun _ => controlAmong_later)

end

/-! The string of a container. -/

def emittedAll (force : Bool) (state : FocusState) (list : List Draw) : Text :=
  (list.filter fun draw => draw.painted force state).flatMap fun draw => draw.emitted state

theorem emittedAll_append (force : Bool) (state : FocusState) (first second : List Draw) :
    emittedAll force state (first ++ second) =
      emittedAll force state first ++ emittedAll force state second := by
  simp [emittedAll]

theorem emittedAll_congr {force : Bool} {state other : FocusState} {list : List Draw}
    (hasFocus : other.hasFocus = state.hasFocus)
    (invalid : ∀ draw ∈ list, draw.inRow = true → other.invalid draw.place = state.invalid draw.place) :
    emittedAll force other list = emittedAll force state list := by
  induction list with
  | nil => rfl
  | cons draw list ih =>
      have here : draw.painted force other = draw.painted force state := by
        cases inRow : draw.inRow with
        | false => simp [Draw.painted, inRow]
        | true => rw [Draw.painted, Draw.painted, invalid draw List.mem_cons_self inRow]
      have text : draw.emitted other = draw.emitted state := by
        rw [Draw.emitted, Draw.emitted, hasFocus]
      have later := ih fun draw member => invalid draw (List.mem_cons_of_mem _ member)
      simp only [emittedAll, List.filter_cons, here] at later ⊢
      split
      · rw [List.flatMap_cons, List.flatMap_cons, text, later]
      · exact later

/-- The flags of containers are set by their constructor, and nothing clears them. -/
def ContainersFlagged (tree : FormTree) (path : Path) (state : FocusState) : Prop :=
  ∀ rest container components, subtree rest tree = some (.node container components) →
    state.invalid (path ++ rest) = true

def AmongFlagged (components : List FormTree) (start : Nat) (path : Path) (state : FocusState) : Prop :=
  ∀ index c, components[index]? = some c → ContainersFlagged c (path ++ [start + index]) state

theorem ContainersFlagged.among {container : Container} {components : List FormTree} {path : Path}
    {state : FocusState} (flagged : ContainersFlagged (.node container components) path state) :
    AmongFlagged components 0 path state := by
  intro index c there rest inner children below
  rw [Nat.zero_add, List.append_assoc]
  exact flagged (index :: rest) inner children (by simpa [subtree, there] using below)

theorem AmongFlagged.later {c : FormTree} {components : List FormTree} {start : Nat} {path : Path}
    {state : FocusState} (flagged : AmongFlagged (c :: components) start path state) :
    AmongFlagged components (start + 1) path state := by
  intro index c' there
  have place := flagged (index + 1) c' there
  rwa [← Nat.add_assoc, Nat.add_right_comm] at place

/-- What another component's painting leaves. -/
theorem AmongFlagged.kept {components : List FormTree} {start : Nat} {path : Path} {c : FormTree}
    {before after : FocusState} (clears : Clears (ControlOf c (path ++ [start])) before after)
    (flagged : AmongFlagged components (start + 1) path before) :
    AmongFlagged components (start + 1) path after := by
  intro index c' there rest container children below
  rw [clears.invalid _ ?_]
  · exact flagged index c' there rest container children below
  · rintro ⟨rest', own, same, -⟩
    simp only [List.append_assoc, List.append_cancel_left_eq, List.singleton_append,
      List.cons.injEq] at same
    omega

def strings (force : Bool) (state : FocusState) (tree : FormTree) (path : Path) (x y : UInt16) : Text :=
  match tree with
  | .leaf own => own.string
  | .node _ _ => emittedAll force state (draws tree path x y)

theorem row_added {force : Bool} {c : FormTree} {path : Path} {x y : UInt16} {before after : FocusState}
    (flagged : ContainersFlagged c path before) (hasFocus : after.hasFocus = before.hasFocus) :
    (if before.invalid path || force then piece c path x y (strings force before c path x y) after
      else []) =
      emittedAll force before (drawn c true path x y (draws c path x y)) := by
  cases c with
  | leaf own =>
      simp only [piece, strings, drawn, emittedAll, List.filter_cons, List.filter_nil, Draw.painted,
        Bool.not_true, Bool.or_false, Bool.or_comm, hasFocus]
      split
      · rw [List.flatMap_cons, List.flatMap_nil, List.append_nil]
        rfl
      · rfl
  | node container components =>
      have flag := flagged [] container components rfl
      rw [List.append_nil] at flag
      rw [flag, Bool.true_or, if_pos rfl]
      rfl

theorem column_added {force : Bool} {c : FormTree} {path : Path} {x y : UInt16}
    {before after : FocusState} (hasFocus : after.hasFocus = before.hasFocus) :
    piece c path x y (strings force before c path x y) after =
      emittedAll force before (drawn c false path x y (draws c path x y)) := by
  cases c with
  | leaf own =>
      simp only [piece, strings, drawn, emittedAll, List.filter_cons, List.filter_nil, Draw.painted,
        Bool.not_false, Bool.or_true, Bool.true_or, if_true, hasFocus]
      rw [List.flatMap_cons, List.flatMap_nil, List.append_nil]
      rfl
  | node container components => rfl

theorem padding_added {force : Bool} {paddingRight : UInt8} {colors : Colors} {path : Path}
    {x y : UInt16} {before after : FocusState} (hasFocus : after.hasFocus = before.hasFocus) :
    paddingPiece paddingRight colors path x y after =
      emittedAll force before (paddingDraw paddingRight colors path x y) := by
  rw [paddingPiece, paddingDraw, hasFocus]
  split
  · simp [emittedAll, Draw.painted, Draw.emitted, Draw.colors, Draw.text]
  · rfl

/-- A component's painting keeps the flags that its later siblings are asked by. -/
theorem emittedAll_later {force : Bool} {c : FormTree} {start : Nat} {path : Path}
    {before after : FocusState} (clears : Clears (ControlOf c (path ++ [start])) before after)
    {list : List Draw} (places : ∀ draw ∈ list, draw.inRow = true →
      ∃ index rest, draw.place = path ++ (start + 1 + index) :: rest) :
    emittedAll force after list = emittedAll force before list := by
  refine emittedAll_congr clears.hasFocus fun draw member inRow => clears.invalid _ ?_
  obtain ⟨index, rest, place⟩ := places draw member inRow
  rintro ⟨rest', own, same, -⟩
  simp only [place, List.append_assoc, List.append_cancel_left_eq, List.singleton_append,
    List.cons.injEq] at same
  omega

theorem Draw.Of.place_cons {draw : Draw} {c : FormTree} {path : Path} {index : Nat}
    (below : draw.Of c (path ++ [index])) : ∃ rest, draw.place = path ++ index :: rest := by
  obtain ⟨rest, place, -⟩ := below
  exact ⟨rest, by rw [place, List.append_assoc]; rfl⟩

mutual

theorem paintComponent_string (force : Bool) (tree : FormTree) (path : Path) (x y : UInt16)
    (state : FocusState) (flagged : ContainersFlagged tree path state) :
    (paintComponent force tree path x y state).1.string = strings force state tree path x y := by
  cases tree with
  | leaf own => rfl
  | node container components =>
      cases container with
      | row colors => exact paintRow_string force components 0 path x y state flagged.among
      | column paddingRight colors =>
          have own := flagged [] _ _ rfl
          rw [List.append_nil] at own
          exact paintColumn_string force paddingRight colors components 0 path x y state own
            flagged.among

theorem paintRow_string (force : Bool) (components : List FormTree) (start : Nat) (path : Path)
    (x yPos : UInt16) (state : FocusState) (flagged : AmongFlagged components start path state) :
    (paintRow force components start path x yPos state).1.1 =
      emittedAll force state (drawsRow components start path x yPos) := by
  cases components with
  | nil => rfl
  | cons c rest =>
      have here : ContainersFlagged c (path ++ [start]) state := flagged 0 c rfl
      have clears := paintComponent_clears force c (path ++ [start]) x yPos state
      have height : (paintComponent force c (path ++ [start]) x yPos state).1.height =
          (returned c x yPos).height :=
        congrArg Boxsize.height (paintComponent_size force c (path ++ [start]) x yPos state)
      rw [paintRow, drawsRow, emittedAll_append]
      simp only
      rw [paintComponent_string force c (path ++ [start]) x yPos state here,
        row_added here clears.hasFocus,
        paintRow_string force rest (start + 1) path x _ _ (flagged.later.kept clears), height]
      refine congrArg _ (emittedAll_later clears fun draw member _ => ?_)
      obtain ⟨index, _, _, below⟩ := drawsRow_of rest (start + 1) path x _ draw member
      exact ⟨index, below.place_cons⟩

theorem paintColumn_string (force : Bool) (paddingRight : UInt8) (colors : Colors)
    (components : List FormTree) (start : Nat) (path : Path) (xPos y : UInt16) (state : FocusState)
    (own : state.invalid path = true) (flagged : AmongFlagged components start path state) :
    (paintColumn force paddingRight colors components start path xPos y state).1.1 =
      emittedAll force state (drawsColumn paddingRight colors components start path xPos y) := by
  cases components with
  | nil => rfl
  | cons c rest =>
      have here : ContainersFlagged c (path ++ [start]) state := flagged 0 c rfl
      have clears := paintComponent_clears force c (path ++ [start]) xPos y state
      have width : (paintComponent force c (path ++ [start]) xPos y state).1.width =
          (returned c xPos y).width :=
        congrArg Boxsize.width (paintComponent_size force c (path ++ [start]) xPos y state)
      have still : (paintComponent force c (path ++ [start]) xPos y state).2.invalid path = true := by
        rw [clears.invalid path, own]
        rintro ⟨rest', control, same, -⟩
        simp at same
      rw [paintColumn, drawsColumn, emittedAll_append, emittedAll_append, still]
      simp only [Bool.true_or, if_true]
      rw [paintComponent_string force c (path ++ [start]) xPos y state here,
        column_added clears.hasFocus, padding_added clears.hasFocus, width,
        paintColumn_string force paddingRight colors rest (start + 1) path _ y _ still
          (flagged.later.kept clears), List.append_assoc]
      refine congrArg _ (congrArg _ (emittedAll_later clears fun draw member inRow => ?_))
      rcases drawsColumn_of paddingRight colors rest (start + 1) path _ y draw member with
        ⟨never, -⟩ | ⟨index, _, _, below⟩
      · rw [never] at inRow
        exact absurd inRow Bool.false_ne_true
      · exact ⟨index, below.place_cons⟩

end

/-! What it puts on the screen. -/

theorem print_emitted (t : Terminal) (state : FocusState) (list : List Draw) :
    (t.print (list.flatMap fun draw => draw.emitted state)).cells =
      paintAll (list.map Draw.layer) t.cells := by
  induction list generalizing t with
  | nil => rfl
  | cons draw list ih =>
      rw [List.flatMap_cons, print_append, ih, Draw.emitted, print_getColored]
      rfl

theorem print_emittedAll (t : Terminal) (force : Bool) (state : FocusState) (list : List Draw) :
    (t.print (emittedAll force state list)).cells =
      paintAll (repainted Draw.layer (fun draw => draw.painted force state) list) t.cells :=
  print_emitted t state _

/-! Other states of the same controls. -/

/-- The same draw of changed controls. -/
def Draw.changed (change : Path → Control → Control) (draw : Draw) : Draw :=
  match draw.source with
  | .control own => { draw with source := .control (change draw.place own) }
  | .padding _ _ => draw

theorem drawn_relabel (change : Path → Control → Control) (c : FormTree) (inRow : Bool) (path : Path)
    (x y : UInt16) (within : List Draw) :
    drawn (relabel change id path c) inRow path x y (within.map (Draw.changed change)) =
      (drawn c inRow path x y within).map (Draw.changed change) := by
  cases c with
  | leaf own => rfl
  | node container components => rfl

theorem paddingDraw_changed (change : Path → Control → Control) (paddingRight : UInt8)
    (colors : Colors) (path : Path) (x y : UInt16) :
    (paddingDraw paddingRight colors path x y).map (Draw.changed change) =
      paddingDraw paddingRight colors path x y := by
  rw [paddingDraw]
  split
  · rfl
  · rfl

section Relabel

variable {change : Path → Control → Control}

mutual

theorem returned_relabel (keeps : ∀ place, Keeps (change place)) (tree : FormTree) (path : Path)
    (x y : UInt16) :
    returned (relabel change id path tree) x y = returned tree x y := by
  cases tree with
  | leaf own => exact (keeps path).size own
  | node container components =>
      cases container with
      | row colors =>
          rw [relabel]
          simp only [id, returned, rowEnd_relabel keeps components path 0 x y]
      | column paddingRight colors =>
          rw [relabel]
          simp only [id, returned, columnEnd_relabel keeps paddingRight components path 0 x y]

theorem rowEnd_relabel (keeps : ∀ place, Keeps (change place)) (components : List FormTree)
    (path : Path) (index : Nat) (x yPos : UInt16) :
    rowEnd (relabelFrom change id path index components) x yPos = rowEnd components x yPos := by
  cases components with
  | nil => rfl
  | cons c rest =>
      rw [relabelFrom, rowEnd, rowEnd, returned_relabel keeps c (path ++ [index]) x yPos]
      exact rowEnd_relabel keeps rest path (index + 1) x _

theorem columnEnd_relabel (keeps : ∀ place, Keeps (change place)) (paddingRight : UInt8)
    (components : List FormTree) (path : Path) (index : Nat) (xPos y : UInt16) :
    columnEnd paddingRight (relabelFrom change id path index components) xPos y =
      columnEnd paddingRight components xPos y := by
  cases components with
  | nil => rfl
  | cons c rest =>
      rw [relabelFrom, columnEnd, columnEnd, returned_relabel keeps c (path ++ [index]) xPos y]
      exact columnEnd_relabel keeps paddingRight rest path (index + 1) _ y

end

mutual

theorem draws_relabel (keeps : ∀ place, Keeps (change place)) (tree : FormTree) (path : Path)
    (x y : UInt16) :
    draws (relabel change id path tree) path x y = (draws tree path x y).map (Draw.changed change) := by
  cases tree with
  | leaf own => rfl
  | node container components =>
      cases container with
      | row colors => exact drawsRow_relabel keeps components 0 path x y
      | column paddingRight colors =>
          exact drawsColumn_relabel keeps paddingRight colors components 0 path x y

theorem drawsRow_relabel (keeps : ∀ place, Keeps (change place)) (components : List FormTree)
    (index : Nat) (path : Path) (x yPos : UInt16) :
    drawsRow (relabelFrom change id path index components) index path x yPos =
      (drawsRow components index path x yPos).map (Draw.changed change) := by
  cases components with
  | nil => rfl
  | cons c rest =>
      rw [relabelFrom, drawsRow, drawsRow, List.map_append,
        draws_relabel keeps c (path ++ [index]) x yPos, drawn_relabel,
        returned_relabel keeps c (path ++ [index]) x yPos,
        drawsRow_relabel keeps rest (index + 1) path x _]

theorem drawsColumn_relabel (keeps : ∀ place, Keeps (change place)) (paddingRight : UInt8)
    (colors : Colors) (components : List FormTree) (index : Nat) (path : Path) (xPos y : UInt16) :
    drawsColumn paddingRight colors (relabelFrom change id path index components) index path xPos y =
      (drawsColumn paddingRight colors components index path xPos y).map (Draw.changed change) := by
  cases components with
  | nil => rfl
  | cons c rest =>
      rw [relabelFrom, drawsColumn, drawsColumn, List.map_append, List.map_append,
        draws_relabel keeps c (path ++ [index]) xPos y, drawn_relabel,
        returned_relabel keeps c (path ++ [index]) xPos y, paddingDraw_changed,
        drawsColumn_relabel keeps paddingRight colors rest (index + 1) path _ y]

end

end Relabel

end SpeFramework.TermForm
