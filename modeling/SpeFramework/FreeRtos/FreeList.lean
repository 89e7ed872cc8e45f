import SpeFramework.Lib.Intervals
import SpeFramework.FreeRtos.Heap4

/-!
The free list of `heap_4.c` as a list of intervals: what its walks find, and what an insertion
makes of it.
-/

namespace SpeFramework.FreeRtos

open Intervals

def firstStart (nodes : List Interval) (stop : Nat) : Nat :=
  (nodes.head?.map Interval.start).getD stop

@[simp] theorem firstStart_nil (stop : Nat) : firstStart [] stop = stop := rfl

@[simp] theorem firstStart_cons (node : Interval) (nodes : List Interval) (stop : Nat) :
    firstStart (node :: nodes) stop = node.start := rfl

/-- Each node's header has its size and points to the next one, that of the last to `stop`. -/
def Linked (links : Links) : List Interval → Nat → Prop
  | [], _ => True
  | node :: rest, stop => links node.start = ⟨firstStart rest stop, node.size⟩ ∧ Linked links rest stop

variable {links : Links} {stop : Nat}

@[simp] theorem linked_nil : Linked links [] stop := trivial

@[simp] theorem linked_cons {node : Interval} {rest : List Interval} :
    Linked links (node :: rest) stop ↔
      links node.start = ⟨firstStart rest stop, node.size⟩ ∧ Linked links rest stop := Iff.rfl

theorem firstStart_append (first second : List Interval) :
    firstStart (first ++ second) stop = firstStart first (firstStart second stop) := by
  cases first <;> rfl

theorem linked_append {first second : List Interval} :
    Linked links (first ++ second) stop ↔
      Linked links first (firstStart second stop) ∧ Linked links second stop := by
  induction first with
  | nil => simp
  | cons node first ih => simp [ih, firstStart_append, and_assoc]

theorem Linked.congr {changed : Links} {nodes : List Interval} (linked : Linked links nodes stop)
    (same : ∀ node ∈ nodes, changed node.start = links node.start) : Linked changed nodes stop := by
  induction nodes with
  | nil => trivial
  | cons node nodes ih =>
      obtain ⟨here, rest⟩ := linked
      exact ⟨(same node (by simp)).trans here, ih rest fun other member => same other (by simp [member])⟩

theorem Linked.header {nodes : List Interval} (linked : Linked links nodes stop) {node : Interval}
    (member : node ∈ nodes) : (links node.start).xBlockSize = node.size := by
  induction nodes with
  | nil => simp at member
  | cons first rest ih =>
      rcases List.mem_cons.mp member with rfl | member
      · rw [linked.1]
      · exact ih linked.2 member

@[simp] theorem setNext_same (block next : Nat) (links : Links) :
    setNext block next links block = ⟨next, (links block).xBlockSize⟩ := by
  simp [setNext]

@[simp] theorem setSize_same (block size : Nat) (links : Links) :
    setSize block size links block = ⟨(links block).pxNextFreeBlock, size⟩ := by
  simp [setSize]

@[simp] theorem setNext_size (block next other : Nat) (links : Links) :
    (setNext block next links other).xBlockSize = (links other).xBlockSize := by
  by_cases same : other = block
  · subst same
    simp
  · rw [setNext, Links.set_other _ _ same]

theorem setNext_other {block other : Nat} (next : Nat) (links : Links) (different : other ≠ block) :
    setNext block next links other = links other :=
  Links.set_other _ _ different

theorem setSize_other {block other : Nat} (size : Nat) (links : Links) (different : other ≠ block) :
    setSize block size links other = links other :=
  Links.set_other _ _ different

/-! Insertion. -/

theorem absorbFollowing_other {block other following : Nat} (different : other ≠ block) :
    absorbFollowing stop block following links other = links other := by
  simp only [absorbFollowing]
  split
  · split
    · rw [setNext_other _ _ different, setSize_other _ _ different]
    · exact setNext_other _ _ different
  · exact setNext_other _ _ different

theorem absorbFollowing_linked (block : Interval) {after : List Interval}
    (linked : Linked links after stop) (size : (links block.start).xBlockSize = block.size)
    (fresh : ∀ node ∈ after, node.start ≠ block.start) (inside : ∀ node ∈ after, node.start ≠ stop) :
    Linked (absorbFollowing stop block.start (firstStart after stop) links) (join block after) stop := by
  have kept : ∀ node ∈ after,
      absorbFollowing stop block.start (firstStart after stop) links node.start = links node.start :=
    fun node member => absorbFollowing_other (fresh node member)
  cases after with
  | nil =>
      simp only [absorbFollowing, firstStart_nil, ne_eq, not_true_eq_false, if_false, ite_self, join,
        linked_cons, setNext_same, size, linked_nil, and_self]
  | cons next rest =>
      obtain ⟨nextHeader, restLinked⟩ := linked
      have restKept := restLinked.congr fun node member => kept node (by simp [member])
      simp only [join]
      split
      · rename_i touches
        simp only [Interval.stop] at touches
        refine ⟨?_, restKept⟩
        simp [absorbFollowing, size, touches, inside next (by simp), nextHeader]
      · rename_i gap
        simp only [Interval.stop] at gap
        refine ⟨?_, (kept next (by simp)).trans nextHeader, restKept⟩
        simp [absorbFollowing, size, gap]

theorem linkBlock_other {iterator block other : Nat} (notIterator : other ≠ iterator)
    (notBlock : other ≠ block) : linkBlock stop iterator block links other = links other := by
  simp only [linkBlock]
  split <;> split <;>
    simp [setNext_other, setSize_other, absorbFollowing_other, notIterator, notBlock]

theorem firstStart_join (block : Interval) (after : List Interval) :
    firstStart (join block after) stop = block.start := by
  cases after with
  | nil => rfl
  | cons next rest =>
      simp only [join]
      split <;> rfl

theorem linkBlock_linked {before after : List Interval} {last block : Interval}
    (linked : Linked links (before ++ last :: after) stop)
    (size : (links block.start).xBlockSize = block.size)
    (distinct : ((before ++ last :: after).map Interval.start).Nodup)
    (fresh : ∀ node ∈ before ++ last :: after, node.start ≠ block.start)
    (inside : ∀ node ∈ after, node.start ≠ stop) :
    Linked (linkBlock stop last.start block.start links) (before ++ glue last block after) stop := by
  obtain ⟨frontLinked, lastHeader, afterLinked⟩ := linked_append.mp linked
  have lastNew : last.start ≠ block.start := fresh last (by simp)
  simp only [List.map_append, List.map_cons, List.nodup_append, List.nodup_cons, List.mem_map,
    List.mem_cons] at distinct
  have frontNotLast : ∀ node ∈ before, node.start ≠ last.start := fun node member =>
    distinct.2.2 node.start ⟨node, member, rfl⟩ last.start (.inl rfl)
  have afterNotLast : ∀ node ∈ after, node.start ≠ last.start := fun node member same =>
    distinct.2.1.1 ⟨node, member, same⟩
  have frontKept : ∀ node ∈ before,
      linkBlock stop last.start block.start links node.start = links node.start :=
    fun node member => linkBlock_other (frontNotLast node member) (fresh node (by simp [member]))
  refine linked_append.mpr ⟨?_, ?_⟩
  · have first : firstStart (glue last block after) stop = last.start := by
      simp only [glue]
      split
      · exact firstStart_join _ _
      · rfl
    rw [first]
    exact frontLinked.congr frontKept
  · simp only [linkBlock, glue, lastHeader, size]
    by_cases touches : last.stop = block.start
    · have contiguous : last.start + last.size = block.start := touches
      simp only [if_pos contiguous, if_pos touches, ne_eq, not_true_eq_false, if_false, setSize_same,
        lastHeader]
      have grown : (setSize last.start (last.size + block.size) links last.start).xBlockSize =
          last.size + block.size := by simp
      exact absorbFollowing_linked ⟨last.start, last.size + block.size⟩
        (afterLinked.congr fun node member => setSize_other _ _ (afterNotLast node member)) grown
        afterNotLast inside
    · have apart : ¬ last.start + last.size = block.start := touches
      simp only [if_neg apart, if_neg touches, if_pos lastNew, ne_eq, lastHeader]
      have joined := absorbFollowing_linked block afterLinked size (fun node member => fresh node
        (by simp [member])) inside
      refine ⟨?_, joined.congr fun node member => ?_⟩
      · simp [firstStart_join, absorbFollowing_other lastNew, lastHeader]
      · rcases mem_join_cases member with same | member
        · exact setNext_other _ _ (by rw [same]; exact lastNew.symm)
        · exact setNext_other _ _ (afterNotLast node member)

/-! The two walks. -/

theorem findPosition_found {toInsert : Nat} {first : Interval} {rest : List Interval} {fuel : Nat}
    (linked : Linked links (first :: rest) stop) (beforeEnd : toInsert < stop)
    (ascending : rest.Pairwise fun one other => one.start < other.start)
    (enough : rest.length < fuel) :
    ∃ before last after, first :: rest = before ++ last :: after ∧
      findPosition links toInsert fuel first.start = some last.start ∧
      (∀ node ∈ (before ++ [last]).tail, node.start < toInsert) ∧
      ∀ node ∈ after, toInsert ≤ node.start := by
  induction rest generalizing first fuel with
  | nil =>
      obtain ⟨fuel, rfl⟩ : ∃ more, fuel = more + 1 := ⟨fuel - 1, by simp at enough; omega⟩
      refine ⟨[], first, [], rfl, ?_, by simp, by simp⟩
      simp [findPosition, linked.1, Nat.not_lt.mpr (Nat.le_of_lt beforeEnd)]
  | cons next rest ih =>
      obtain ⟨fuel, rfl⟩ : ∃ more, fuel = more + 1 := ⟨fuel - 1, by simp at enough; omega⟩
      obtain ⟨later, restAscending⟩ := List.pairwise_cons.mp ascending
      by_cases below : next.start < toInsert
      · obtain ⟨before, last, after, split, found, early, late⟩ :=
          ih linked.2 restAscending (by simp at enough; omega)
        refine ⟨first :: before, last, after, by rw [split, List.cons_append], ?_, ?_, late⟩
        · simpa [findPosition, linked.1, below] using found
        · intro node member
          simp only [List.cons_append, List.tail_cons] at member
          cases before with
          | nil =>
              obtain ⟨rfl, -⟩ := List.cons.inj split
              rw [List.mem_singleton.mp member]
              exact below
          | cons head before =>
              obtain ⟨rfl, -⟩ := List.cons.inj split
              rcases List.mem_cons.mp member with rfl | member
              · exact below
              · exact early node member
      · refine ⟨[], first, next :: rest, rfl, ?_, by simp, ?_⟩
        · simp [findPosition, linked.1, below]
        · intro node member
          rcases List.mem_cons.mp member with rfl | member
          · omega
          · have := later node member
            omega

def lastNode (first : Interval) : List Interval → Interval
  | [] => first
  | next :: rest => lastNode next rest

theorem lastNode_mem (first : Interval) (rest : List Interval) : lastNode first rest ∈ first :: rest := by
  induction rest generalizing first with
  | nil => simp [lastNode]
  | cons next rest ih => exact List.mem_cons_of_mem _ (ih next)

/-- The walk ends at the first free block that is large enough, or at the end marker. -/
theorem findBlock_found {wanted : Nat} {first : Interval} {rest : List Interval} {fuel : Nat}
    (linked : Linked links (first :: rest) stop) (notNull : ∀ node ∈ rest, node.start ≠ 0)
    (enough : rest.length < fuel) {early after : List Interval}
    {block : Interval} (split : rest = early ++ block :: after) (large : wanted ≤ block.size)
    (small : ∀ node ∈ early, node.size < wanted) :
    findBlock links wanted fuel first.start (firstStart rest stop) =
      some ((lastNode first early).start, block.start) := by
  subst split
  induction early generalizing first fuel with
  | nil =>
      obtain ⟨fuel, rfl⟩ : ∃ more, fuel = more + 1 := ⟨fuel - 1, by simp at enough; omega⟩
      have header : links block.start = ⟨firstStart after stop, block.size⟩ := linked.2.1
      simp [findBlock, lastNode, header, Nat.not_lt.mpr large]
  | cons next early ih =>
      obtain ⟨fuel, rfl⟩ : ∃ more, fuel = more + 1 := ⟨fuel - 1, by simp at enough; omega⟩
      have header : links next.start = ⟨firstStart (early ++ block :: after) stop, next.size⟩ :=
        linked.2.1
      have followed : firstStart (early ++ block :: after) stop ≠ 0 := by
        cases early with
        | nil => exact notNull block (by simp)
        | cons other early => exact notNull other (by simp)
      have rest := ih (fun node member => small node (by simp [member])) linked.2
        (fun node member => notNull node (List.mem_cons_of_mem _ member))
        (Nat.lt_of_succ_lt_succ enough)
      simpa [findBlock, header, small next (by simp), followed, lastNode] using rest

theorem findBlock_ended {wanted : Nat} {first : Interval} {rest : List Interval} {fuel : Nat}
    (linked : Linked links (first :: rest) stop) (marker : links stop = ⟨0, 0⟩) (stopNotNull : stop ≠ 0)
    (notNull : ∀ node ∈ rest, node.start ≠ 0) (enough : rest.length < fuel)
    (small : ∀ node ∈ rest, node.size < wanted) :
    ∃ last, findBlock links wanted fuel first.start (firstStart rest stop) = some (last, stop) := by
  induction rest generalizing first fuel with
  | nil =>
      obtain ⟨fuel, rfl⟩ : ∃ more, fuel = more + 1 := ⟨fuel - 1, by simp at enough; omega⟩
      exact ⟨first.start, by simp [findBlock, marker]⟩
  | cons next rest ih =>
      obtain ⟨fuel, rfl⟩ : ∃ more, fuel = more + 1 := ⟨fuel - 1, by simp at enough; omega⟩
      have header : links next.start = ⟨firstStart rest stop, next.size⟩ := linked.2.1
      have followed : firstStart rest stop ≠ 0 := by
        cases rest with
        | nil => exact stopNotNull
        | cons other rest => exact notNull other (by simp)
      obtain ⟨last, ended⟩ := ih linked.2 (fun node member => notNull node (by simp [member]))
        (by simp at enough; omega) fun node member => small node (by simp [member])
      exact ⟨last, by simpa [findBlock, header, small next (by simp), followed] using ended⟩

theorem Linked.next_of_lastNode {first block : Interval} {early after : List Interval}
    (linked : Linked links (first :: (early ++ block :: after)) stop) :
    (links (lastNode first early).start).pxNextFreeBlock = block.start := by
  induction early generalizing first with
  | nil =>
      rw [lastNode, linked.1]
      rfl
  | cons next early ih => exact ih linked.2

/-- A block is taken out by pointing its predecessor to its successor. -/
theorem Linked.unlink {first block : Interval} {early after : List Interval}
    (linked : Linked links (first :: (early ++ block :: after)) stop)
    (distinct : ((first :: (early ++ block :: after)).map Interval.start).Nodup) :
    Linked (setNext (lastNode first early).start (links block.start).pxNextFreeBlock links)
      (first :: (early ++ after)) stop := by
  induction early generalizing first with
  | nil =>
      simp only [List.nil_append, List.map_cons, List.nodup_cons] at distinct
      obtain ⟨firstHeader, blockHeader, afterLinked⟩ := linked
      refine ⟨by simp [lastNode, firstHeader, blockHeader], afterLinked.congr fun node member => ?_⟩
      refine setNext_other _ _ fun same => distinct.1 (List.mem_cons_of_mem _ ?_)
      exact List.mem_map.mpr ⟨node, member, same⟩
  | cons next early ih =>
      obtain ⟨firstHeader, restLinked⟩ := linked
      obtain ⟨firstNew, restDistinct⟩ := List.nodup_cons.mp (List.map_cons ▸ distinct)
      refine ⟨?_, ih restLinked restDistinct⟩
      have kept : first.start ≠ (lastNode next early).start := by
        intro same
        refine firstNew (List.mem_map.mpr ⟨lastNode next early, ?_, same.symm⟩)
        have member := lastNode_mem next early
        simp only [List.cons_append, List.mem_cons, List.mem_append] at member ⊢
        tauto
      rw [lastNode, setNext_other _ _ kept, firstHeader]
      rfl

end SpeFramework.FreeRtos
