import Mathlib.Data.List.Cycle

/-!
Finite trees with ordered children. The marked leaves are enumerated by their paths, from either
end of the tree, and an enumeration splits at every path into what lies before it, below it and
beyond it.
-/

inductive OrderedTree (α β : Type*)
  | leaf (label : α)
  | node (label : β) (children : List (OrderedTree α β))

namespace OrderedTree

/-- The indices of the children to descend into, from the root on. -/
abbrev Path := List Nat

inductive Direction
  | forward
  | backward
  deriving DecidableEq, Repr

def Direction.join {γ : Type*} : Direction → List γ → List γ → List γ
  | .forward, left, right => left ++ right
  | .backward, left, right => right ++ left

variable {α β : Type*}

def subtree : Path → OrderedTree α β → Option (OrderedTree α β)
  | [], tree => some tree
  | _ :: _, .leaf _ => none
  | index :: path, .node _ children => children[index]?.bind (subtree path)

section Leaves

variable (marked : α → Bool) (dir : Direction)

mutual

def leaves : OrderedTree α β → List Path
  | .leaf label => if marked label then [[]] else []
  | .node _ children => leavesFrom 0 children

/-- The marked leaves of trees that are children number `index` and following. -/
def leavesFrom : Nat → List (OrderedTree α β) → List Path
  | _, [] => []
  | index, child :: rest =>
      dir.join ((leaves child).map (index :: ·)) (leavesFrom (index + 1) rest)

end

/-- The marked leaves of the children on the far side of child `index`. -/
def beyond (index : Nat) (children : List (OrderedTree α β)) : List Path :=
  match dir with
  | .forward => leavesFrom marked dir (index + 1) (children.drop (index + 1))
  | .backward => leavesFrom marked dir 0 (children.take index)

/-- The marked leaves on the far side of the subtree at a path, nearest first. -/
def laterThan : Path → OrderedTree α β → List Path
  | [], _ => []
  | _ :: _, .leaf _ => []
  | index :: path, .node _ children =>
      (children[index]?.elim [] fun child => (laterThan path child).map (index :: ·)) ++
        beyond marked dir index children

end Leaves

theorem subtree_append (path rest : Path) (tree : OrderedTree α β) :
    subtree (path ++ rest) tree = (subtree path tree).bind (subtree rest) := by
  induction path generalizing tree with
  | nil => rfl
  | cons index path ih =>
      cases tree with
      | leaf label => rfl
      | node label children =>
          simp only [List.cons_append, subtree, Option.bind_assoc]
          congr 1
          funext child
          exact ih child

theorem subtree_concat {path : Path} {index : Nat} {tree child : OrderedTree α β}
    (there : subtree (path ++ [index]) tree = some child) :
    ∃ label children, subtree path tree = some (.node label children) ∧
      children[index]? = some child := by
  rw [subtree_append] at there
  cases parent : subtree path tree with
  | none => simp [parent] at there
  | some found =>
      cases found with
      | leaf label => simp [parent, subtree] at there
      | node label children =>
          refine ⟨label, children, rfl, ?_⟩
          simpa [parent, subtree] using there

/-- A recursion that steps along the children to one of them does there what it does to a tree. -/
theorem select_child {γ : Type*} (select : List (OrderedTree α β) → Nat → γ)
    (own : OrderedTree α β → γ) (here : ∀ child rest, select (child :: rest) 0 = own child)
    (later : ∀ child rest index, select (child :: rest) (index + 1) = select rest index)
    {children : List (OrderedTree α β)} {index : Nat} {child : OrderedTree α β}
    (there : children[index]? = some child) : select children index = own child := by
  induction children generalizing index with
  | nil => simp at there
  | cons first rest ih =>
      cases index with
      | zero =>
          obtain rfl := Option.some.inj there
          exact here first rest
      | succ index =>
          rw [later]
          exact ih there

section Relabel

variable {γ δ ε ζ : Type*}

mutual

/-- New labels for a tree at an address. -/
def relabel (onLeaf : Path → α → γ) (onNode : β → δ) : Path → OrderedTree α β → OrderedTree γ δ
  | path, .leaf label => .leaf (onLeaf path label)
  | path, .node label children => .node (onNode label) (relabelFrom onLeaf onNode path 0 children)

/-- The same for trees that are children number `index` and following. -/
def relabelFrom (onLeaf : Path → α → γ) (onNode : β → δ) :
    Path → Nat → List (OrderedTree α β) → List (OrderedTree γ δ)
  | _, _, [] => []
  | path, index, child :: rest =>
      relabel onLeaf onNode (path ++ [index]) child :: relabelFrom onLeaf onNode path (index + 1) rest

end

theorem relabelFrom_getElem? (onLeaf : Path → α → γ) (onNode : β → δ) (path : Path) (start : Nat)
    (children : List (OrderedTree α β)) (index : Nat) :
    (relabelFrom onLeaf onNode path start children)[index]? =
      children[index]?.map (relabel onLeaf onNode (path ++ [start + index])) := by
  induction children generalizing start index with
  | nil => rfl
  | cons child rest ih =>
      cases index with
      | zero => rfl
      | succ index =>
          rw [relabelFrom, List.getElem?_cons_succ, List.getElem?_cons_succ, ih, Nat.add_right_comm]
          rfl

theorem subtree_relabel (onLeaf : Path → α → γ) (onNode : β → δ) (path rest : Path)
    (tree : OrderedTree α β) :
    subtree rest (relabel onLeaf onNode path tree) =
      (subtree rest tree).map (relabel onLeaf onNode (path ++ rest)) := by
  induction rest generalizing path tree with
  | nil => simp [subtree]
  | cons index rest ih =>
      cases tree with
      | leaf label => rfl
      | node label children =>
          simp only [relabel, subtree, relabelFrom_getElem?, Nat.zero_add]
          cases children[index]? with
          | none => rfl
          | some child =>
              have below := ih (path ++ [index]) child
              rwa [List.append_assoc] at below

mutual

theorem relabel_relabel (onLeaf : Path → α → γ) (onNode : β → δ) (onLeaf' : Path → γ → ε)
    (onNode' : δ → ζ) (path : Path) (tree : OrderedTree α β) :
    relabel onLeaf' onNode' path (relabel onLeaf onNode path tree) =
      relabel (fun place label => onLeaf' place (onLeaf place label)) (onNode' ∘ onNode) path tree := by
  cases tree with
  | leaf label => rfl
  | node label children =>
      rw [relabel, relabel, relabel,
        relabelFrom_relabelFrom onLeaf onNode onLeaf' onNode' path 0 children]
      rfl

theorem relabelFrom_relabelFrom (onLeaf : Path → α → γ) (onNode : β → δ) (onLeaf' : Path → γ → ε)
    (onNode' : δ → ζ) (path : Path) (index : Nat) (children : List (OrderedTree α β)) :
    relabelFrom onLeaf' onNode' path index (relabelFrom onLeaf onNode path index children) =
      relabelFrom (fun place label => onLeaf' place (onLeaf place label)) (onNode' ∘ onNode) path index
        children := by
  cases children with
  | nil => rfl
  | cons child rest =>
      rw [relabelFrom, relabelFrom, relabelFrom,
        relabel_relabel onLeaf onNode onLeaf' onNode' (path ++ [index]) child,
        relabelFrom_relabelFrom onLeaf onNode onLeaf' onNode' path (index + 1) rest]

end

mutual

theorem relabel_self (path : Path) (tree : OrderedTree α β) :
    relabel (fun _ label => label) id path tree = tree := by
  cases tree with
  | leaf label => rfl
  | node label children => rw [relabel, relabelFrom_self path 0 children, id]

theorem relabelFrom_self (path : Path) (index : Nat) (children : List (OrderedTree α β)) :
    relabelFrom (fun _ label => label) id path index children = children := by
  cases children with
  | nil => rfl
  | cons child rest =>
      rw [relabelFrom, relabel_self (path ++ [index]) child, relabelFrom_self path (index + 1) rest]

end

end Relabel

section Nodes

def EveryNode (P : β → List (OrderedTree α β) → Prop) (tree : OrderedTree α β) : Prop :=
  ∀ path label children, subtree path tree = some (.node label children) → P label children

theorem everyNode_leaf (P : β → List (OrderedTree α β) → Prop) (label : α) :
    EveryNode P (.leaf label) := by
  intro path label' children there
  cases path with
  | nil => simp [subtree] at there
  | cons index path => simp [subtree] at there

theorem everyNode_node {P : β → List (OrderedTree α β) → Prop} {label : β}
    {children : List (OrderedTree α β)} :
    EveryNode P (.node label children) ↔ P label children ∧ ∀ child ∈ children, EveryNode P child := by
  constructor
  · intro every
    refine ⟨every [] label children rfl, fun child member path label' below there => ?_⟩
    obtain ⟨index, here⟩ := List.mem_iff_getElem?.mp member
    exact every (index :: path) label' below (by simpa [subtree, here] using there)
  · rintro ⟨root, below⟩ path label' children' there
    cases path with
    | nil =>
        simp only [subtree, Option.some.injEq, node.injEq] at there
        obtain ⟨rfl, rfl⟩ := there
        exact root
    | cons index path =>
        obtain ⟨child, here, there⟩ := Option.bind_eq_some_iff.mp there
        exact below child (List.mem_of_getElem? here) path label' children' there

mutual

def leafLabels : OrderedTree α β → List α
  | .leaf label => [label]
  | .node _ children => leafLabelsFrom children

def leafLabelsFrom : List (OrderedTree α β) → List α
  | [] => []
  | child :: rest => leafLabels child ++ leafLabelsFrom rest

end

end Nodes

section Splits

variable (marked : α → Bool) (dir : Direction)

theorem leavesFrom_append (start : Nat) (left right : List (OrderedTree α β)) :
    leavesFrom marked dir start (left ++ right) =
      dir.join (leavesFrom marked dir start left)
        (leavesFrom marked dir (start + left.length) right) := by
  induction left generalizing start with
  | nil => cases dir <;> simp [leavesFrom, Direction.join]
  | cons child left ih =>
      have next : start + 1 + left.length = start + (left.length + 1) := by omega
      rw [List.cons_append, leavesFrom, leavesFrom, ih, List.length_cons, next]
      cases dir <;> simp [Direction.join]

theorem leavesFrom_split {children : List (OrderedTree α β)} {index : Nat} {child : OrderedTree α β}
    (there : children[index]? = some child) :
    ∃ earlier, leavesFrom marked dir 0 children =
      earlier ++ ((leaves marked dir child).map (index :: ·) ++ beyond marked dir index children) := by
  obtain ⟨bound, here⟩ := List.getElem?_eq_some_iff.mp there
  have parts : children = children.take index ++ (child :: children.drop (index + 1)) := by
    rw [← here, List.getElem_cons_drop, List.take_append_drop]
  have whole := leavesFrom_append marked dir 0 (children.take index)
    (child :: children.drop (index + 1))
  rw [← parts, List.length_take_of_le (by omega), Nat.zero_add, leavesFrom] at whole
  cases dir with
  | forward => exact ⟨_, whole⟩
  | backward => exact ⟨_, whole.trans (List.append_assoc _ _ _)⟩

theorem leaves_split {path : Path} {tree found : OrderedTree α β}
    (there : subtree path tree = some found) :
    ∃ earlier, leaves marked dir tree =
      earlier ++ ((leaves marked dir found).map (path ++ ·) ++ laterThan marked dir path tree) := by
  induction path generalizing tree with
  | nil =>
      obtain rfl := Option.some.inj there
      exact ⟨[], by simp [laterThan]⟩
  | cons index path ih =>
      cases tree with
      | leaf label => simp [subtree] at there
      | node label children =>
          obtain ⟨child, here, below⟩ := Option.bind_eq_some_iff.mp there
          obtain ⟨outer, split⟩ := leavesFrom_split marked dir here
          obtain ⟨inner, below⟩ := ih below
          refine ⟨outer ++ inner.map (index :: ·), ?_⟩
          rw [leaves, split, below, laterThan, here]
          simp [Function.comp_def]

theorem laterThan_concat {path : Path} {index : Nat} {label : β} {tree : OrderedTree α β}
    {children : List (OrderedTree α β)} (there : subtree path tree = some (.node label children)) :
    laterThan marked dir (path ++ [index]) tree =
      (beyond marked dir index children).map (path ++ ·) ++ laterThan marked dir path tree := by
  induction path generalizing tree with
  | nil =>
      obtain rfl := Option.some.inj there
      cases here : children[index]? <;> simp [laterThan, here]
  | cons first path ih =>
      cases tree with
      | leaf label => simp [subtree] at there
      | node label' siblings =>
          obtain ⟨child, here, below⟩ := Option.bind_eq_some_iff.mp there
          simp [laterThan, here, ih below, Function.comp_def]

end Splits

section Order

variable (marked : α → Bool)

mutual

theorem leaves_backward (tree : OrderedTree α β) :
    leaves marked .backward tree = (leaves marked .forward tree).reverse := by
  cases tree with
  | leaf label =>
      rw [leaves, leaves]
      split <;> rfl
  | node label children => exact leavesFrom_backward 0 children

theorem leavesFrom_backward (start : Nat) (children : List (OrderedTree α β)) :
    leavesFrom marked .backward start children =
      (leavesFrom marked .forward start children).reverse := by
  cases children with
  | nil => rfl
  | cons child rest =>
      rw [leavesFrom, leavesFrom, leaves_backward child, leavesFrom_backward (start + 1) rest]
      simp [Direction.join]

end

theorem mem_leavesFrom (path : Path) (start : Nat) (children : List (OrderedTree α β)) :
    path ∈ leavesFrom marked .forward start children ↔
      ∃ index child, children[index]? = some child ∧
        ∃ rest ∈ leaves marked .forward child, path = (start + index) :: rest := by
  induction children generalizing start with
  | nil => simp [leavesFrom]
  | cons first children ih =>
      rw [leavesFrom, Direction.join, List.mem_append, ih, List.mem_map]
      constructor
      · rintro (⟨rest, member, rfl⟩ | ⟨index, child, here, rest, member, rfl⟩)
        · exact ⟨0, first, rfl, rest, member, rfl⟩
        · exact ⟨index + 1, child, here, rest, member, by rw [Nat.add_right_comm]; rfl⟩
      · rintro ⟨index, child, here, rest, member, rfl⟩
        cases index with
        | zero =>
            obtain rfl := Option.some.inj here
            exact .inl ⟨rest, member, rfl⟩
        | succ index => exact .inr ⟨index, child, here, rest, member, by rw [Nat.add_right_comm]; rfl⟩

theorem mem_leaves (path : Path) (tree : OrderedTree α β) :
    path ∈ leaves marked .forward tree ↔
      ∃ label, subtree path tree = some (.leaf label) ∧ marked label = true := by
  induction path generalizing tree with
  | nil =>
      cases tree with
      | leaf label => simp [leaves, subtree]
      | node label children => simp [leaves, mem_leavesFrom, subtree]
  | cons index path ih =>
      cases tree with
      | leaf label => simp [leaves, subtree]
      | node label children =>
          rw [leaves, mem_leavesFrom]
          constructor
          · rintro ⟨place, child, here, rest, member, same⟩
            obtain ⟨rfl, rfl⟩ := List.cons.inj same
            obtain ⟨found, below, chosen⟩ := (ih child).mp member
            exact ⟨found, by simpa [subtree, here] using below, chosen⟩
          · rintro ⟨found, there, chosen⟩
            obtain ⟨child, here, below⟩ := Option.bind_eq_some_iff.mp there
            exact ⟨index, child, here, path, (ih child).mpr ⟨found, below, chosen⟩, by simp⟩

mutual

theorem nodup_leaves (tree : OrderedTree α β) : (leaves marked .forward tree).Nodup := by
  cases tree with
  | leaf label =>
      rw [leaves]
      split
      · simp
      · exact List.nodup_nil
  | node label children => exact nodup_leavesFrom 0 children

theorem nodup_leavesFrom (start : Nat) (children : List (OrderedTree α β)) :
    (leavesFrom marked .forward start children).Nodup := by
  cases children with
  | nil => exact List.nodup_nil
  | cons child rest =>
      rw [leavesFrom, Direction.join]
      refine List.Nodup.append ?_ (nodup_leavesFrom (start + 1) rest) ?_
      · exact (nodup_leaves child).map fun _ _ same => (List.cons.inj same).2
      · intro path here later
        obtain ⟨_, _, rfl⟩ := List.mem_map.mp here
        obtain ⟨index, _, _, _, _, same⟩ := (mem_leavesFrom marked _ _ _).mp later
        have first := (List.cons.inj same).1
        omega

end

theorem mem_leaves_direction (dir : Direction) {path : Path} {tree : OrderedTree α β} :
    path ∈ leaves marked dir tree ↔ path ∈ leaves marked .forward tree := by
  cases dir with
  | forward => rfl
  | backward => rw [leaves_backward, List.mem_reverse]

theorem nodup_leaves_direction (dir : Direction) (tree : OrderedTree α β) :
    (leaves marked dir tree).Nodup := by
  cases dir with
  | forward => exact nodup_leaves marked tree
  | backward =>
      rw [leaves_backward, List.nodup_reverse]
      exact nodup_leaves marked tree

theorem mem_of_mem_laterThan {dir : Direction} {path later : Path} {tree found : OrderedTree α β}
    (there : subtree path tree = some found) (member : later ∈ laterThan marked dir path tree) :
    later ∈ leaves marked dir tree := by
  obtain ⟨earlier, split⟩ := leaves_split marked dir there
  rw [split]
  exact List.mem_append_right _ (List.mem_append_right _ member)

end Order

section Cycle

theorem next_front {γ : Type*} [DecidableEq γ] (x : γ) (others rest : List γ)
    (member : x ∈ x :: others) :
    (others ++ x :: rest).head? = some ((x :: others).next x member) := by
  cases others with
  | nil => simp
  | cons first others => rw [List.cons_append, List.head?_cons, List.next_cons_cons_eq]

theorem next_after {γ : Type*} [DecidableEq γ] {earlier later : List γ} {x : γ}
    (nodup : (earlier ++ x :: later).Nodup) (member : x ∈ earlier ++ x :: later) :
    (later ++ (earlier ++ x :: later)).head? = some ((earlier ++ x :: later).next x member) := by
  have turned : (x :: later) ++ earlier = x :: (later ++ earlier) := rfl
  have rotated : earlier ++ x :: later ~r x :: (later ++ earlier) := turned ▸ List.isRotated_append
  rw [List.isRotated_next_eq rotated nodup member, ← List.append_assoc]
  exact next_front x (later ++ earlier) later _

/-- Beyond a marked leaf, and then from the start again, comes its cyclic successor. -/
theorem head?_laterThan {marked : α → Bool} (dir : Direction) {path : Path} {label : α}
    {tree : OrderedTree α β} (there : subtree path tree = some (.leaf label))
    (chosen : marked label = true) (member : path ∈ leaves marked dir tree) :
    (laterThan marked dir path tree ++ leaves marked dir tree).head? =
      some ((leaves marked dir tree).next path member) := by
  obtain ⟨earlier, split⟩ := leaves_split marked dir there
  have nodup := nodup_leaves_direction marked dir tree
  have whole : leaves marked dir tree = earlier ++ path :: laterThan marked dir path tree := by
    simpa [leaves, chosen] using split
  revert nodup member
  rw [whole]
  intro member nodup
  exact next_after nodup member

end Cycle

end OrderedTree
