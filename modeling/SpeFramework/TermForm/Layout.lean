import SpeFramework.TermForm.Painting

/-!
Where `paint` puts the components of a form: the positions of the loops in `row_container.h` and
`column_container.h`, and the sizes they return, against the extents of what is painted.
-/

namespace SpeFramework.TermForm

open OrderedTree

/-- The position used for a component, and the size of its `paint_return`. -/
structure Place where
  x : UInt16
  y : UInt16
  size : Boxsize
  deriving DecidableEq, Repr

def Place.Has (place : Place) (cell : Cell) : Prop :=
  (place.x.toNat ≤ cell.1 ∧ cell.1 < place.x.toNat + place.size.width.toNat) ∧
    place.y.toNat ≤ cell.2 ∧ cell.2 < place.y.toNat + place.size.height.toNat

def Place.Disjoint (first second : Place) : Prop := ∀ cell, ¬ (first.Has cell ∧ second.Has cell)

def placeOf (tree : FormTree) (x y : UInt16) : Place :=
  ⟨x, y, (paintComponent true tree [] x y .fresh).1.size⟩

mutual

def layout : FormTree → UInt16 → UInt16 → OrderedTree Place (Container × Place)
  | .leaf own, x, y => .leaf (placeOf (.leaf own) x y)
  | .node (.row colors) components, x, y =>
      .node (.row colors, placeOf (.node (.row colors) components) x y) (layoutRow components x y)
  | .node (.column paddingRight colors) components, x, y =>
      .node (.column paddingRight colors, placeOf (.node (.column paddingRight colors) components) x y)
        (layoutColumn paddingRight components x y)

def layoutRow : List FormTree → UInt16 → UInt16 → List (OrderedTree Place (Container × Place))
  | [], _, _ => []
  | c :: rest, x, yPos =>
      layout c x yPos :: layoutRow rest x (yPos + (placeOf c x yPos).size.height)

def layoutColumn (paddingRight : UInt8) :
    List FormTree → UInt16 → UInt16 → List (OrderedTree Place (Container × Place))
  | [], _, _ => []
  | c :: rest, xPos, y =>
      layout c xPos y ::
        layoutColumn paddingRight rest (xPos + (placeOf c xPos y).size.width + paddingRight.toUInt16) y

end

def placeAt : OrderedTree Place (Container × Place) → Place
  | .leaf place => place
  | .node label _ => label.2

/-! The layout that the sizes are for. -/

/-- From `y` on without a gap. -/
def Stacked (x : UInt16) : UInt16 → List Place → Prop
  | _, [] => True
  | y, place :: rest => place.x = x ∧ place.y = y ∧ Stacked x (y + place.size.height) rest

/-- From `x` on, with the padding behind each. -/
def InLine (paddingRight : UInt8) (y : UInt16) : UInt16 → List Place → Prop
  | _, [] => True
  | x, place :: rest =>
      place.x = x ∧ place.y = y ∧
        InLine paddingRight y (x + place.size.width + paddingRight.toUInt16) rest

def widths (places : List Place) : List Nat := places.map fun place => place.size.width.toNat

def heights (places : List Place) : List Nat := places.map fun place => place.size.height.toNat

def largest (sizes : List Nat) : Nat := sizes.foldr max 0

/-- The children of a container follow each other, and its size is the one they take. -/
def Arranged (label : Container × Place) (children : List (OrderedTree Place (Container × Place))) :
    Prop :=
  let places := children.map placeAt
  match label with
  | (.row _, place) =>
      Stacked place.x place.y places ∧ place.size.width.toNat = largest (widths places) ∧
        place.size.height.toNat = (heights places).sum
  | (.column paddingRight _, place) =>
      InLine paddingRight place.y place.x places ∧
        place.size.width.toNat = ((widths places).map (· + paddingRight.toNat)).sum ∧
        place.size.height.toNat = largest (heights places)

structure Laid (tree : FormTree) (x y : UInt16) : Prop where
  disjoint : (leafLabels (layout tree x y)).Pairwise Place.Disjoint
  arranged : EveryNode Arranged (layout tree x y)

/-! The extents of the components, as numbers without end. -/

structure Extent where
  width : Nat
  height : Nat
  deriving DecidableEq, Repr

def Extent.below (upper lower : Extent) : Extent :=
  ⟨max upper.width lower.width, upper.height + lower.height⟩

def Extent.beside (paddingRight : UInt8) (left right : Extent) : Extent :=
  ⟨left.width + paddingRight.toNat + right.width, max left.height right.height⟩

mutual

def extent : FormTree → Extent
  | .leaf own => ⟨own.paintSize.width.toNat, own.paintSize.height.toNat⟩
  | .node (.row _) components => rowExtent components
  | .node (.column paddingRight _) components => columnExtent paddingRight components

def rowExtent : List FormTree → Extent
  | [] => ⟨0, 0⟩
  | c :: rest => (extent c).below (rowExtent rest)

def columnExtent (paddingRight : UInt8) : List FormTree → Extent
  | [] => ⟨0, 0⟩
  | c :: rest => (extent c).beside paddingRight (columnExtent paddingRight rest)

end

structure Extent.Fits (extent : Extent) : Prop where
  width : extent.width < 65536
  height : extent.height < 65536

mutual

/-- Rows stand at a column equal to their width, and columns are of one cell. -/
def Matching : FormTree → UInt16 → Prop
  | .leaf _, _ => True
  | .node (.row _) components, x => x.toNat = (rowExtent components).width ∧ MatchingRow components x
  | .node (.column paddingRight _) components, x =>
      columnExtent paddingRight components = ⟨1, 1⟩ ∧ MatchingColumn paddingRight components x

def MatchingRow : List FormTree → UInt16 → Prop
  | [], _ => True
  | c :: rest, x => Matching c x ∧ MatchingRow rest x

def MatchingColumn (paddingRight : UInt8) : List FormTree → UInt16 → Prop
  | [], _ => True
  | c :: rest, xPos =>
      Matching c xPos ∧
        MatchingColumn paddingRight rest
          (xPos + UInt16.ofNat (extent c).width + paddingRight.toUInt16)

end

section Fits

variable {first second : Extent} {paddingRight : UInt8}

theorem Extent.Fits.upper (fits : (first.below second).Fits) : first.Fits :=
  ⟨Nat.lt_of_le_of_lt (Nat.le_max_left _ _) fits.width,
    Nat.lt_of_le_of_lt (Nat.le_add_right _ _) fits.height⟩

theorem Extent.Fits.lower (fits : (first.below second).Fits) : second.Fits :=
  ⟨Nat.lt_of_le_of_lt (Nat.le_max_right _ _) fits.width,
    Nat.lt_of_le_of_lt (Nat.le_add_left _ _) fits.height⟩

theorem Extent.Fits.left (fits : (first.beside paddingRight second).Fits) : first.Fits :=
  ⟨Nat.lt_of_le_of_lt (Nat.le_trans (Nat.le_add_right _ _) (Nat.le_add_right _ _)) fits.width,
    Nat.lt_of_le_of_lt (Nat.le_max_left _ _) fits.height⟩

theorem Extent.Fits.right (fits : (first.beside paddingRight second).Fits) : second.Fits :=
  ⟨Nat.lt_of_le_of_lt (Nat.le_add_left _ _) fits.width,
    Nat.lt_of_le_of_lt (Nat.le_max_right _ _) fits.height⟩

end Fits

theorem placeOf_eq (tree : FormTree) (x y : UInt16) : placeOf tree x y = ⟨x, y, returned tree x y⟩ := by
  rw [placeOf, paintComponent_size]

theorem placeAt_layout (tree : FormTree) (x y : UInt16) :
    placeAt (layout tree x y) = placeOf tree x y := by
  cases tree with
  | leaf own => rfl
  | node container components => cases container <;> rfl

/-! Whatever the sizes are, the loops put the children one after the other. -/

theorem stacked_layoutRow (components : List FormTree) (x yPos : UInt16) :
    Stacked x yPos ((layoutRow components x yPos).map placeAt) := by
  induction components generalizing yPos with
  | nil => exact trivial
  | cons c rest ih =>
      rw [layoutRow, List.map_cons, placeAt_layout]
      exact ⟨rfl, rfl, ih _⟩

theorem inLine_layoutColumn (paddingRight : UInt8) (components : List FormTree) (xPos y : UInt16) :
    InLine paddingRight y xPos ((layoutColumn paddingRight components xPos y).map placeAt) := by
  induction components generalizing xPos with
  | nil => exact trivial
  | cons c rest ih =>
      rw [layoutColumn, List.map_cons, placeAt_layout]
      exact ⟨rfl, rfl, ih _⟩

theorem rowEnd_eq (components : List FormTree) (x yPos : UInt16) :
    rowEnd components x yPos =
      yPos + UInt16.ofNat (heights ((layoutRow components x yPos).map placeAt)).sum := by
  induction components generalizing yPos with
  | nil => exact (UInt16.add_zero yPos).symm
  | cons c rest ih =>
      have size : (placeOf c x yPos).size = returned c x yPos := by rw [placeOf_eq]
      rw [rowEnd, layoutRow, List.map_cons, placeAt_layout, ← size, ih, heights, heights,
        List.map_cons, List.sum_cons, UInt16.ofNat_add, UInt16.ofNat_toNat, UInt16.add_assoc]

theorem columnEnd_eq (paddingRight : UInt8) (components : List FormTree) (xPos y : UInt16) :
    columnEnd paddingRight components xPos y =
      xPos + UInt16.ofNat
        ((widths ((layoutColumn paddingRight components xPos y).map placeAt)).map
          (· + paddingRight.toNat)).sum := by
  induction components generalizing xPos with
  | nil => exact (UInt16.add_zero xPos).symm
  | cons c rest ih =>
      have size : (placeOf c xPos y).size = returned c xPos y := by rw [placeOf_eq]
      rw [columnEnd, layoutColumn, List.map_cons, placeAt_layout, ← size, ih, widths, widths,
        List.map_cons, List.map_cons, List.sum_cons, UInt16.ofNat_add, UInt16.ofNat_add,
        UInt16.ofNat_toNat, UInt16.ofNat_uInt8ToNat]
      simp only [UInt16.add_assoc]

/-! Where every container returns the size its children take, that is its extent, and the row's
width and the column's sizes are what the code puts there. -/

structure Agrees (tree : FormTree) (x y : UInt16) : Prop where
  width : (placeOf tree x y).size.width.toNat = (extent tree).width
  height : (placeOf tree x y).size.height.toNat = (extent tree).height

theorem Agrees.width_eq {tree : FormTree} {x y : UInt16} (agrees : Agrees tree x y) :
    UInt16.ofNat (extent tree).width = (placeOf tree x y).size.width := by
  rw [← agrees.width, UInt16.ofNat_toNat]

theorem Agrees.height_eq {tree : FormTree} {x y : UInt16} (agrees : Agrees tree x y) :
    UInt16.ofNat (extent tree).height = (placeOf tree x y).size.height := by
  rw [← agrees.height, UInt16.ofNat_toNat]

/-- The children take the extent of a row, and return it one by one. -/
structure TakesRow (components : List FormTree) (x yPos : UInt16) : Prop where
  width : largest (widths ((layoutRow components x yPos).map placeAt)) = (rowExtent components).width
  height : (heights ((layoutRow components x yPos).map placeAt)).sum = (rowExtent components).height

theorem TakesRow.cons {c : FormTree} {rest : List FormTree} {x yPos : UInt16}
    (agrees : Agrees c x yPos) (later : TakesRow rest x (yPos + (placeOf c x yPos).size.height)) :
    TakesRow (c :: rest) x yPos := by
  constructor
  · rw [layoutRow, List.map_cons, placeAt_layout, rowExtent, Extent.below, ← later.width,
      ← agrees.width]
    rfl
  · rw [layoutRow, List.map_cons, placeAt_layout, rowExtent, Extent.below, ← later.height,
      ← agrees.height]
    rfl

structure TakesColumn (paddingRight : UInt8) (components : List FormTree) (xPos y : UInt16) :
    Prop where
  width : ((widths ((layoutColumn paddingRight components xPos y).map placeAt)).map
    (· + paddingRight.toNat)).sum = (columnExtent paddingRight components).width
  height : largest (heights ((layoutColumn paddingRight components xPos y).map placeAt)) =
    (columnExtent paddingRight components).height

theorem TakesColumn.cons {paddingRight : UInt8} {c : FormTree} {rest : List FormTree}
    {xPos y : UInt16} (agrees : Agrees c xPos y)
    (later : TakesColumn paddingRight rest
      (xPos + (placeOf c xPos y).size.width + paddingRight.toUInt16) y) :
    TakesColumn paddingRight (c :: rest) xPos y := by
  constructor
  · rw [layoutColumn, List.map_cons, placeAt_layout, columnExtent, Extent.beside, ← later.width,
      ← agrees.width]
    rfl
  · rw [layoutColumn, List.map_cons, placeAt_layout, columnExtent, Extent.beside, ← later.height,
      ← agrees.height]
    rfl

mutual

theorem matching_of_arranged (tree : FormTree) (x y : UInt16)
    (every : EveryNode Arranged (layout tree x y)) : Agrees tree x y ∧ Matching tree x := by
  cases tree with
  | leaf own =>
      have size : (placeOf (.leaf own) x y).size = own.paintSize := rfl
      exact ⟨⟨by rw [size, extent], by rw [size, extent]⟩, trivial⟩
  | node container components =>
      cases container with
      | row colors =>
          obtain ⟨⟨-, width, height⟩, children⟩ := everyNode_node.mp every
          obtain ⟨takes, matching⟩ := matching_of_arrangedRow components x y children
          refine ⟨⟨width.trans takes.width, height.trans takes.height⟩, ?_, matching⟩
          rw [← takes.width, ← width, placeOf_eq, returned]
      | column paddingRight colors =>
          obtain ⟨⟨-, width, height⟩, children⟩ := everyNode_node.mp every
          obtain ⟨takes, matching⟩ :=
            matching_of_arrangedColumn paddingRight components x y children
          refine ⟨⟨width.trans takes.width, height.trans takes.height⟩, ?_, matching⟩
          have one : (1 : UInt16).toNat = (columnExtent paddingRight components).width := by
            rw [← takes.width, ← width, placeOf_eq, returned]
          -- the height that is returned is the width that the children take
          have turned : (1 : UInt16).toNat = (columnExtent paddingRight components).height := by
            rw [← takes.height, ← height, placeOf_eq, returned, columnEnd_eq, takes.width, ← one,
              UInt16.ofNat_toNat, UInt16.add_comm, UInt16.add_sub_cancel]
          rw [← UInt16.toNat_one, Extent.mk.injEq]
          exact ⟨one.symm, turned.symm⟩

theorem matching_of_arrangedRow (components : List FormTree) (x yPos : UInt16)
    (every : ∀ child ∈ layoutRow components x yPos, EveryNode Arranged child) :
    TakesRow components x yPos ∧ MatchingRow components x := by
  cases components with
  | nil => exact ⟨⟨rfl, rfl⟩, trivial⟩
  | cons c rest =>
      obtain ⟨here, later⟩ := List.forall_mem_cons.mp every
      obtain ⟨agrees, matching⟩ := matching_of_arranged c x yPos here
      obtain ⟨takes, others⟩ := matching_of_arrangedRow rest x _ later
      exact ⟨.cons agrees takes, matching, others⟩

theorem matching_of_arrangedColumn (paddingRight : UInt8) (components : List FormTree)
    (xPos y : UInt16)
    (every : ∀ child ∈ layoutColumn paddingRight components xPos y, EveryNode Arranged child) :
    TakesColumn paddingRight components xPos y ∧ MatchingColumn paddingRight components xPos := by
  cases components with
  | nil => exact ⟨⟨rfl, rfl⟩, trivial⟩
  | cons c rest =>
      obtain ⟨here, later⟩ := List.forall_mem_cons.mp every
      obtain ⟨agrees, matching⟩ := matching_of_arranged c xPos y here
      obtain ⟨takes, others⟩ := matching_of_arrangedColumn paddingRight rest _ y later
      refine ⟨.cons agrees takes, matching, ?_⟩
      rw [agrees.width_eq]
      exact others

end

mutual

theorem arranged_of_matching (tree : FormTree) (x y : UInt16) (fits : (extent tree).Fits)
    (matching : Matching tree x) : Agrees tree x y ∧ EveryNode Arranged (layout tree x y) := by
  cases tree with
  | leaf own =>
      have size : (placeOf (.leaf own) x y).size = own.paintSize := rfl
      exact ⟨⟨by rw [size, extent], by rw [size, extent]⟩, everyNode_leaf _ _⟩
  | node container components =>
      cases container with
      | row colors =>
          obtain ⟨same, children⟩ := matching
          obtain ⟨takes, below⟩ := arranged_of_matchingRow components x y fits children
          have width : (placeOf (.node (.row colors) components) x y).size.width.toNat =
              (rowExtent components).width := by
            rw [placeOf_eq, returned, same]
          have height : (placeOf (.node (.row colors) components) x y).size.height.toNat =
              (rowExtent components).height := by
            rw [placeOf_eq, returned, rowEnd_eq, takes.height, UInt16.add_comm,
              UInt16.add_sub_cancel]
            exact UInt16.toNat_ofNat_of_lt' fits.height
          refine ⟨⟨width, height⟩, everyNode_node.mpr ⟨?_, below⟩⟩
          exact ⟨stacked_layoutRow components x y, width.trans takes.width.symm,
            height.trans takes.height.symm⟩
      | column paddingRight colors =>
          obtain ⟨cell, children⟩ := matching
          obtain ⟨takes, below⟩ :=
            arranged_of_matchingColumn paddingRight components x y fits children
          let column : FormTree := .node (.column paddingRight colors) components
          have width : (placeOf column x y).size.width.toNat =
              (columnExtent paddingRight components).width := by
            rw [placeOf_eq, returned, cell]
            rfl
          have height : (placeOf column x y).size.height.toNat =
              (columnExtent paddingRight components).height := by
            rw [placeOf_eq, returned, columnEnd_eq, takes.width, cell, UInt16.add_comm,
              UInt16.add_sub_cancel]
            rfl
          refine ⟨⟨width, height⟩, everyNode_node.mpr ⟨?_, below⟩⟩
          exact ⟨inLine_layoutColumn paddingRight components x y, width.trans takes.width.symm,
            height.trans takes.height.symm⟩

theorem arranged_of_matchingRow (components : List FormTree) (x yPos : UInt16)
    (fits : (rowExtent components).Fits) (matching : MatchingRow components x) :
    TakesRow components x yPos ∧
      ∀ child ∈ layoutRow components x yPos, EveryNode Arranged child := by
  cases components with
  | nil => exact ⟨⟨rfl, rfl⟩, by simp [layoutRow]⟩
  | cons c rest =>
      obtain ⟨here, later⟩ := matching
      obtain ⟨agrees, arranged⟩ := arranged_of_matching c x yPos fits.upper here
      obtain ⟨takes, others⟩ := arranged_of_matchingRow rest x
        (yPos + (placeOf c x yPos).size.height) fits.lower later
      exact ⟨.cons agrees takes, List.forall_mem_cons.mpr ⟨arranged, others⟩⟩

theorem arranged_of_matchingColumn (paddingRight : UInt8) (components : List FormTree)
    (xPos y : UInt16) (fits : (columnExtent paddingRight components).Fits)
    (matching : MatchingColumn paddingRight components xPos) :
    TakesColumn paddingRight components xPos y ∧
      ∀ child ∈ layoutColumn paddingRight components xPos y, EveryNode Arranged child := by
  cases components with
  | nil => exact ⟨⟨rfl, rfl⟩, by simp [layoutColumn]⟩
  | cons c rest =>
      obtain ⟨here, later⟩ := matching
      obtain ⟨agrees, arranged⟩ := arranged_of_matching c xPos y fits.left here
      rw [agrees.width_eq] at later
      obtain ⟨takes, others⟩ := arranged_of_matchingColumn paddingRight rest
        (xPos + (placeOf c xPos y).size.width + paddingRight.toUInt16) y fits.right later
      exact ⟨.cons agrees takes, List.forall_mem_cons.mpr ⟨arranged, others⟩⟩

end

/-! The controls within the extent of what holds them, wherever it wraps around. -/

def Place.Inside (place : Place) (x y : UInt16) (extent : Extent) : Prop :=
  ∃ right down : Nat, place.x = x + UInt16.ofNat right ∧ place.y = y + UInt16.ofNat down ∧
    right + place.size.width.toNat ≤ extent.width ∧ down + place.size.height.toNat ≤ extent.height

/-- Two stretches behind the same start, the second one from behind the first on. -/
theorem apart_from (start : UInt16) {near far length length' : Nat} (behind : near + length ≤ far)
    (fits : far + length' < 65536) (n : Nat) :
    ¬ (((start + UInt16.ofNat near).toNat ≤ n ∧ n < (start + UInt16.ofNat near).toNat + length) ∧
      (start + UInt16.ofNat far).toNat ≤ n ∧ n < (start + UInt16.ofNat far).toNat + length') := by
  have bound := start.toNat_lt
  simp only [UInt16.toNat_add, UInt16.toNat_ofNat']
  omega

theorem Place.Inside.below {place : Place} {x y : UInt16} {upper lower : Extent}
    (inside : place.Inside x (y + UInt16.ofNat upper.height) lower) :
    place.Inside x y (upper.below lower) := by
  obtain ⟨right, down, at_x, at_y, width, height⟩ := inside
  refine ⟨right, upper.height + down, at_x, ?_, Nat.le_trans width (Nat.le_max_right _ _), ?_⟩
  · rw [at_y, UInt16.ofNat_add, UInt16.add_assoc]
  · rw [Nat.add_assoc]
    exact Nat.add_le_add_left height _

theorem Place.Inside.above {place : Place} {x y : UInt16} {upper lower : Extent}
    (inside : place.Inside x y upper) : place.Inside x y (upper.below lower) := by
  obtain ⟨right, down, at_x, at_y, width, height⟩ := inside
  exact ⟨right, down, at_x, at_y, Nat.le_trans width (Nat.le_max_left _ _),
    Nat.le_trans height (Nat.le_add_right _ _)⟩

theorem Place.Inside.right {place : Place} {paddingRight : UInt8} {x y : UInt16} {left right : Extent}
    (inside : place.Inside (x + UInt16.ofNat left.width + paddingRight.toUInt16) y right) :
    place.Inside x y (left.beside paddingRight right) := by
  obtain ⟨along, down, at_x, at_y, width, height⟩ := inside
  refine ⟨left.width + paddingRight.toNat + along, down, ?_, at_y, ?_,
    Nat.le_trans height (Nat.le_max_right _ _)⟩
  · rw [at_x, UInt16.ofNat_add, UInt16.ofNat_add, UInt16.ofNat_uInt8ToNat, UInt16.add_assoc,
      UInt16.add_assoc, UInt16.add_assoc]
  · rw [Nat.add_assoc]
    exact Nat.add_le_add_left width _

theorem Place.Inside.left {place : Place} {paddingRight : UInt8} {x y : UInt16} {left right : Extent}
    (inside : place.Inside x y left) : place.Inside x y (left.beside paddingRight right) := by
  obtain ⟨along, down, at_x, at_y, width, height⟩ := inside
  refine ⟨along, down, at_x, at_y, Nat.le_trans width ?_, Nat.le_trans height (Nat.le_max_left _ _)⟩
  exact Nat.le_trans (Nat.le_add_right _ _) (Nat.le_add_right _ _)

theorem disjoint_below {first second : Place} {x y : UInt16} {upper lower : Extent}
    (fits : (upper.below lower).Fits) (above : first.Inside x y upper)
    (under : second.Inside x (y + UInt16.ofNat upper.height) lower) : first.Disjoint second := by
  rintro ⟨column, line⟩ ⟨⟨-, here⟩, -, there⟩
  obtain ⟨-, near, -, at_near, -, high⟩ := above
  obtain ⟨-, far, -, at_far, -, low⟩ := under
  have bound : upper.height + lower.height < 65536 := fits.height
  rw [UInt16.add_assoc, ← UInt16.ofNat_add] at at_far
  rw [at_near] at here
  rw [at_far] at there
  exact apart_from y (by omega) (by omega) line ⟨here, there⟩

theorem disjoint_beside {first second : Place} {paddingRight : UInt8} {x y : UInt16}
    {left right : Extent} (fits : (left.beside paddingRight right).Fits)
    (before : first.Inside x y left)
    (behind : second.Inside (x + UInt16.ofNat left.width + paddingRight.toUInt16) y right) :
    first.Disjoint second := by
  rintro ⟨column, line⟩ ⟨⟨here, -⟩, there, -⟩
  obtain ⟨near, -, at_near, -, wide, -⟩ := before
  obtain ⟨far, -, at_far, -, narrow, -⟩ := behind
  have bound : left.width + paddingRight.toNat + right.width < 65536 := fits.width
  rw [UInt16.add_assoc, UInt16.add_assoc, ← UInt16.ofNat_uInt8ToNat, ← UInt16.ofNat_add,
    ← UInt16.ofNat_add] at at_far
  rw [at_near] at here
  rw [at_far] at there
  exact apart_from x (by omega) (by omega) column ⟨here, there⟩

structure Apart (places : List Place) (x y : UInt16) (extent : Extent) : Prop where
  inside : ∀ place ∈ places, place.Inside x y extent
  disjoint : places.Pairwise Place.Disjoint

mutual

theorem apart_of_matching (tree : FormTree) (x y : UInt16) (fits : (extent tree).Fits)
    (matching : Matching tree x) : Apart (leafLabels (layout tree x y)) x y (extent tree) := by
  cases tree with
  | leaf own =>
      refine ⟨fun place member => ?_, List.pairwise_singleton _ _⟩
      rw [List.mem_singleton.mp member]
      exact ⟨0, 0, (UInt16.add_zero x).symm, (UInt16.add_zero y).symm, Nat.le_of_eq (Nat.zero_add _),
        Nat.le_of_eq (Nat.zero_add _)⟩
  | node container components =>
      cases container with
      | row colors => exact apart_of_matchingRow components x y fits matching.2
      | column paddingRight colors =>
          exact apart_of_matchingColumn paddingRight components x y fits matching.2

theorem apart_of_matchingRow (components : List FormTree) (x yPos : UInt16)
    (fits : (rowExtent components).Fits) (matching : MatchingRow components x) :
    Apart (leafLabelsFrom (layoutRow components x yPos)) x yPos (rowExtent components) := by
  cases components with
  | nil => exact ⟨by simp [layoutRow, leafLabelsFrom], List.Pairwise.nil⟩
  | cons c rest =>
      obtain ⟨here, later⟩ := matching
      have fits_here := fits.upper
      obtain ⟨agrees, -⟩ := arranged_of_matching c x yPos fits_here here
      obtain ⟨first, first_apart⟩ := apart_of_matching c x yPos fits_here here
      obtain ⟨others, others_apart⟩ := apart_of_matchingRow rest x
        (yPos + UInt16.ofNat (extent c).height) fits.lower later
      rw [layoutRow, leafLabelsFrom, rowExtent, ← agrees.height_eq]
      constructor
      · intro place member
        rcases List.mem_append.mp member with above | below
        · exact (first place above).above
        · exact (others place below).below
      · refine List.pairwise_append.mpr ⟨first_apart, others_apart, ?_⟩
        exact fun place above other below =>
          disjoint_below fits (first place above) (others other below)

theorem apart_of_matchingColumn (paddingRight : UInt8) (components : List FormTree) (xPos y : UInt16)
    (fits : (columnExtent paddingRight components).Fits)
    (matching : MatchingColumn paddingRight components xPos) :
    Apart (leafLabelsFrom (layoutColumn paddingRight components xPos y)) xPos y
      (columnExtent paddingRight components) := by
  cases components with
  | nil => exact ⟨by simp [layoutColumn, leafLabelsFrom], List.Pairwise.nil⟩
  | cons c rest =>
      obtain ⟨here, later⟩ := matching
      have fits_here := fits.left
      obtain ⟨agrees, -⟩ := arranged_of_matching c xPos y fits_here here
      obtain ⟨first, first_apart⟩ := apart_of_matching c xPos y fits_here here
      obtain ⟨others, others_apart⟩ := apart_of_matchingColumn paddingRight rest _ y fits.right later
      rw [layoutColumn, leafLabelsFrom, columnExtent, ← agrees.width_eq]
      constructor
      · intro place member
        rcases List.mem_append.mp member with before | behind
        · exact (first place before).left
        · exact (others place behind).right
      · refine List.pairwise_append.mpr ⟨first_apart, others_apart, ?_⟩
        exact fun place before other behind =>
          disjoint_beside fits (first place before) (others other behind)

end

/-- The controls are apart, the children in a row and the sizes those of the children, exactly for
the trees whose sizes happen to be the ones that are returned. Text fields are bounded: with a
negative width, or one of 32767, there is nothing returned. -/
theorem laid_iff (tree : FormTree) (x y : UInt16) (fits : (extent tree).Fits) :
    Laid tree x y ↔ Matching tree x := by
  constructor
  · intro laid
    exact (matching_of_arranged tree x y laid.arranged).2
  · intro matching
    exact ⟨(apart_of_matching tree x y fits matching).disjoint,
      (arranged_of_matching tree x y fits matching).2⟩

/-! Two labels one over the other, and two rows beside each other. -/

def labelOf (text : Text) : FormTree := .leaf ⟨.label, text, ⟨1, 1⟩, .standard⟩

def twoLabels : FormTree := .node (.row .standard) [labelOf ['a'], labelOf ['b']]

theorem twoLabels_laid : Laid twoLabels 1 1 ↔ Matching twoLabels 1 :=
  laid_iff twoLabels 1 1 ⟨by decide, by decide⟩

def rowsBeside : FormTree :=
  .node (.column 0 .standard)
    [.node (.row .standard) [labelOf ['a', 'b', 'c']], .node (.row .standard) [labelOf ['d']]]

/-- The second row is put at the width that the first one returned, which is its column. -/
theorem rowsBeside_overlap :
    ¬ ∀ (tree : FormTree) (x y : UInt16), (extent tree).Fits → Laid tree x y := by
  intro all
  have laid := all rowsBeside 1 1 ⟨by decide, by decide⟩
  have places : leafLabels (layout rowsBeside 1 1) = [⟨1, 1, ⟨3, 1⟩⟩, ⟨2, 1, ⟨1, 1⟩⟩] := by decide
  have disjoint := laid.disjoint
  rw [places, List.pairwise_cons] at disjoint
  exact disjoint.1 _ (List.mem_singleton.mpr rfl) (2, 1)
    ⟨⟨⟨by decide, by decide⟩, by decide, by decide⟩, ⟨by decide, by decide⟩, by decide, by decide⟩

end SpeFramework.TermForm
