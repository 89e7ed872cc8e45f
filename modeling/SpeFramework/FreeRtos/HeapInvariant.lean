import SpeFramework.FreeRtos.FreeList

/-!
What holds of the heap between two calls, and what each call makes of it.
-/

namespace SpeFramework.FreeRtos

open Intervals

/-! Where the heap's bytes are. -/

namespace Layout

variable (layout : Layout)

theorem ucHeap_le : layout.ucHeap ≤ layout.pucAlignedHeap := by
  simp only [pucAlignedHeap, portByteAlignment]
  split <;> omega

theorem pucAlignedHeap_aligned : layout.pucAlignedHeap % portByteAlignment = 0 := by
  simp only [pucAlignedHeap, portByteAlignment]
  split <;> omega

theorem pucAlignedHeap_lt : layout.pucAlignedHeap < layout.ucHeap + 8 := by
  simp only [pucAlignedHeap, portByteAlignment]
  split <;> omega

theorem pxEnd_aligned : layout.pxEnd % portByteAlignment = 0 := by
  simp [pxEnd]

theorem pxEnd_le : layout.pxEnd + xHeapStructSize ≤ layout.ucHeap + configTotalHeapSize := by
  have lower := layout.ucHeap_le
  have upper := layout.pucAlignedHeap_lt
  simp only [pxEnd, configTotalHeapSize, xHeapStructSize, portByteAlignment]
  omega

theorem pucAlignedHeap_lt_pxEnd : layout.pucAlignedHeap < layout.pxEnd := by
  have lower := layout.ucHeap_le
  have upper := layout.pucAlignedHeap_lt
  simp only [pxEnd, configTotalHeapSize, xHeapStructSize, portByteAlignment]
  omega

theorem xStart_outside {address : Nat} (lower : layout.pucAlignedHeap ≤ address)
    (upper : address ≤ layout.pxEnd) : address ≠ layout.xStart := by
  have := layout.ucHeap_le
  have := layout.pxEnd_le
  have := layout.apart
  simp only [xHeapStructSize] at *
  omega

theorem pxEnd_ne_zero : layout.pxEnd ≠ 0 := by
  have := layout.pucAlignedHeap_lt_pxEnd
  omega

end Layout

/-- `xStart` as the node in front of the free blocks. -/
def Layout.head (layout : Layout) : Interval := ⟨layout.xStart, 0⟩

def Aligned (block : Interval) : Prop :=
  block.start % portByteAlignment = 0 ∧ block.size % portByteAlignment = 0

theorem aligned_merges (one other : Interval) (first : Aligned one) (second : Aligned other) :
    Aligned ⟨one.start, one.size + other.size⟩ := by
  simp only [Aligned, portByteAlignment] at *
  omega

/-- The heap's bytes are split up between the free list and the blocks that are handed out. -/
structure HeapInvariant (layout : Layout) (heap : Heap) (free live : List Interval) : Prop where
  setUp : heap.pxEnd = layout.pxEnd
  linked : Linked heap.links (layout.head :: free) layout.pxEnd
  marker : heap.links layout.pxEnd = ⟨0, 0⟩
  separated : Separated free
  headers : ∀ block ∈ live, heap.links block.start = ⟨0, block.size ||| xBlockAllocatedBit⟩
  apart : live.Pairwise Interval.Apart
  disjoint : ∀ cell, Covers free cell → ¬ Covers live cell
  covered : ∀ cell, Covers free cell ∨ Covers live cell ↔
    layout.pucAlignedHeap ≤ cell ∧ cell < layout.pxEnd
  freeAligned : ∀ block ∈ free, Aligned block
  liveAligned : ∀ block ∈ live, Aligned block
  inhabited : ∀ block ∈ live, heapMinimumBlockSize ≤ block.size
  remaining : heap.xFreeBytesRemaining = total free
  whole : total free + total live = layout.pxEnd - layout.pucAlignedHeap

/-- An insertion makes one more interval free. -/
structure Inserted (layout : Layout) (block : Interval) (free : List Interval) (links : Links)
    (freeAfter : List Interval) (after : Links) : Prop where
  linked : Linked after (layout.head :: freeAfter) layout.pxEnd
  separated : Separated freeAfter
  covers : ∀ cell, Covers freeAfter cell ↔ block.Covers cell ∨ Covers free cell
  total : total freeAfter = block.size + total free
  aligned : Aligned block → (∀ node ∈ free, Aligned node) → ∀ node ∈ freeAfter, Aligned node
  others : ∀ address, address ≠ layout.xStart → address ≠ block.start →
    (∀ node ∈ free, address ≠ node.start) → after address = links address

theorem prvInsertBlockIntoFreeList_inserts (layout : Layout) (block : Interval) {links : Links}
    {free : List Interval} (linked : Linked links (layout.head :: free) layout.pxEnd)
    (separated : Separated free) (size : (links block.start).xBlockSize = block.size)
    (inhabited : 0 < block.size) (apart : ∀ node ∈ free, node.Apart block)
    (inHeap : ∀ node ∈ block :: free, layout.pucAlignedHeap ≤ node.start ∧ node.stop ≤ layout.pxEnd)
    (enough : free.length < walkFuel) :
    ∃ after freeAfter,
      prvInsertBlockIntoFreeList layout layout.pxEnd block.start links = some after ∧
        Inserted layout block free links freeAfter after := by
  have bounds (node : Interval) (member : node ∈ block :: free) :
      layout.pucAlignedHeap ≤ node.start ∧ node.start < layout.pxEnd := by
    have inside := inHeap node member
    have positive : 0 < node.size := by
      rcases List.mem_cons.mp member with rfl | member
      · exact inhabited
      · exact separated.inhabited node member
    simp only [Interval.stop] at inside
    omega
  have notHead (node : Interval) (member : node ∈ block :: free) : node.start ≠ layout.xStart :=
    layout.xStart_outside (bounds node member).1 (Nat.le_of_lt (bounds node member).2)
  obtain ⟨before, last, after, split, found, early, late⟩ :=
    findPosition_found linked (bounds block (by simp)).2 separated.starts_ascending enough
  have distinct : ((layout.head :: free).map Interval.start).Nodup := by
    rw [List.map_cons, List.nodup_cons]
    constructor
    · intro member
      obtain ⟨node, member, same⟩ := List.mem_map.mp member
      exact notHead node (by simp [member]) same
    · exact (List.pairwise_map.mpr separated.starts_ascending).imp Nat.ne_of_lt
  have fresh : ∀ node ∈ layout.head :: free, node.start ≠ block.start := by
    intro node member same
    rcases List.mem_cons.mp member with rfl | member
    · exact notHead block (by simp) same.symm
    · have positive := separated.inhabited node member
      have := apart node member
      simp only [Interval.Apart, Interval.stop] at this
      omega
  have inside : ∀ node ∈ after, node.start ≠ layout.pxEnd := by
    intro node member same
    have within : node ∈ layout.head :: free := by rw [split]; simp [member]
    rcases List.mem_cons.mp within with rfl | within
    · exact layout.xStart_outside (Nat.le_of_lt layout.pucAlignedHeap_lt_pxEnd) (Nat.le_refl _) same.symm
    · exact absurd (bounds node (by simp [within])).2 (by omega)
  have relinked := linkBlock_linked (split ▸ linked) size (split ▸ distinct) (split ▸ fresh) inside
  have others : ∀ address, address ≠ layout.xStart → address ≠ block.start →
      (∀ node ∈ free, address ≠ node.start) →
      linkBlock layout.pxEnd last.start block.start links address = links address := by
    intro address notStart notBlock notFree
    refine linkBlock_other ?_ notBlock
    have within : last ∈ layout.head :: free := by rw [split]; simp
    rcases List.mem_cons.mp within with rfl | within
    · exact notStart
    · exact notFree last within
  have later : ∀ next ∈ after, next ∈ free → block.stop ≤ next.start := by
    intro next member within
    have positive := separated.inhabited next within
    have order := late next member
    have := apart next within
    simp only [Interval.Apart, Interval.stop] at *
    omega
  have returned : prvInsertBlockIntoFreeList layout layout.pxEnd block.start links =
      some (linkBlock layout.pxEnd last.start block.start links) := by
    rw [prvInsertBlockIntoFreeList]
    exact congrArg (Option.map _) found
  cases before with
  | nil =>
      obtain ⟨rfl, rfl⟩ := List.cons.inj split
      have headApart : ¬ layout.head.stop = block.start := fun touches => fresh layout.head (by simp)
        (by simpa [Layout.head] using touches)
      have later := fun next member => later next member member
      rw [List.nil_append, glue, if_neg headApart] at relinked
      exact ⟨_, _, returned,
        ⟨relinked, separated.join inhabited later, join_covers block free, total_join block free,
          forall_mem_join aligned_merges, others⟩⟩
  | cons first before =>
      rw [List.cons_append] at split
      obtain ⟨rfl, rfl⟩ := List.cons.inj split
      have order := early last (by simp)
      have touching : last.stop ≤ block.start := by
        have := apart last (by simp)
        simp only [Interval.Apart, Interval.stop] at *
        omega
      refine ⟨_, before ++ glue last block after, returned,
        ⟨relinked, separated.glue inhabited touching fun next member => later next member (by simp [member]),
          fun cell => ?_, ?_, fun here all => ?_, others⟩⟩
      · simp only [covers_append, glue_covers, covers_cons]
        grind
      · simp only [total_append, total_glue, total_cons]
        omega
      · obtain ⟨front, back⟩ := List.forall_mem_append.mp all
        obtain ⟨lastAligned, afterAligned⟩ := List.forall_mem_cons.mp back
        exact List.forall_mem_append.mpr
          ⟨front, forall_mem_glue aligned_merges lastAligned here afterAligned⟩

namespace HeapInvariant

variable {layout : Layout} {heap : Heap} {free live : List Interval}

theorem bytes (inv : HeapInvariant layout heap free live) :
    total free + total live < configTotalHeapSize := by
  have := inv.whole
  have := layout.pxEnd_le
  have := layout.ucHeap_le
  simp only [configTotalHeapSize, xHeapStructSize] at *
  omega

theorem enough (inv : HeapInvariant layout heap free live) : free.length < walkFuel := by
  have := inv.separated.length_le_total
  have := inv.bytes
  simp only [walkFuel]
  omega

theorem freeInside (inv : HeapInvariant layout heap free live) {node : Interval} (member : node ∈ free) :
    layout.pucAlignedHeap ≤ node.start ∧ node.stop ≤ layout.pxEnd := by
  have positive := inv.separated.inhabited node member
  have within (cell : Nat) (inNode : node.Covers cell) := (inv.covered cell).mp (.inl ⟨node, member, inNode⟩)
  have first := within node.start (by simp only [Interval.Covers, Interval.stop]; omega)
  have last := within (node.stop - 1) (by simp only [Interval.Covers, Interval.stop]; omega)
  simp only [Interval.stop] at *
  omega

theorem livePositive (inv : HeapInvariant layout heap free live) {block : Interval}
    (member : block ∈ live) : 0 < block.size := by
  have := inv.inhabited block member
  simp only [heapMinimumBlockSize] at this
  omega

theorem liveInside (inv : HeapInvariant layout heap free live) {block : Interval} (member : block ∈ live) :
    layout.pucAlignedHeap ≤ block.start ∧ block.stop ≤ layout.pxEnd := by
  have positive := inv.livePositive member
  have within (cell : Nat) (inBlock : block.Covers cell) :=
    (inv.covered cell).mp (.inr ⟨block, member, inBlock⟩)
  have first := within block.start (by simp only [Interval.Covers, Interval.stop]; omega)
  have last := within (block.stop - 1) (by simp only [Interval.Covers, Interval.stop]; omega)
  simp only [Interval.stop] at *
  omega

theorem freeApart (inv : HeapInvariant layout heap free live) {node block : Interval}
    (inFree : node ∈ free) (inLive : block ∈ live) : node.Apart block :=
  (Interval.apart_iff (inv.separated.inhabited node inFree) (inv.livePositive inLive)).mpr
    fun cell inNode inBlock => inv.disjoint cell ⟨node, inFree, inNode⟩ ⟨block, inLive, inBlock⟩

theorem eq_or_apart (inv : HeapInvariant layout heap free live) {one other : Interval}
    (inLive : one ∈ live) (otherInLive : other ∈ live) : one = other ∨ one.Apart other := by
  by_cases same : one = other
  · exact .inl same
  · exact .inr (inv.apart.forall inLive otherInLive same)

theorem liveSize_lt (inv : HeapInvariant layout heap free live) {block : Interval}
    (member : block ∈ live) : block.size < xBlockAllocatedBit := by
  have := size_le_total member
  have := inv.bytes
  have : configTotalHeapSize < xBlockAllocatedBit := by decide
  omega

theorem notNull (inv : HeapInvariant layout heap free live) {node : Interval} (member : node ∈ free) :
    node.start ≠ 0 := by
  have := (inv.freeInside member).1
  have := layout.ucHeap_le
  have := layout.notNull
  omega

theorem first (inv : HeapInvariant layout heap free live) :
    (heap.links layout.xStart).pxNextFreeBlock = firstStart free layout.pxEnd :=
  congrArg BlockLink.pxNextFreeBlock inv.linked.1

theorem free_ne_end (inv : HeapInvariant layout heap free live) {node : Interval} (member : node ∈ free) :
    layout.pxEnd ≠ node.start := by
  have inside := inv.freeInside member
  have positive := inv.separated.inhabited node member
  simp only [Interval.stop] at inside
  omega

theorem live_ne_end (inv : HeapInvariant layout heap free live) {block : Interval}
    (member : block ∈ live) : layout.pxEnd ≠ block.start := by
  have inside := inv.liveInside member
  have positive := inv.livePositive member
  simp only [Interval.stop] at inside
  omega

theorem distinct (inv : HeapInvariant layout heap free live) :
    ((layout.head :: free).map Interval.start).Nodup := by
  rw [List.map_cons, List.nodup_cons]
  constructor
  · intro member
    obtain ⟨node, member, same⟩ := List.mem_map.mp member
    have inside := inv.freeInside member
    simp only [Interval.stop] at inside
    exact layout.xStart_outside inside.1 (by omega) same
  · exact (List.pairwise_map.mpr inv.separated.starts_ascending).imp Nat.ne_of_lt

theorem live_ne_start (inv : HeapInvariant layout heap free live) {block : Interval}
    (member : block ∈ live) : block.start ≠ layout.xStart := by
  have inside := inv.liveInside member
  simp only [Interval.stop] at inside
  exact layout.xStart_outside inside.1 (by omega)

theorem live_ne_free (inv : HeapInvariant layout heap free live) {block node : Interval}
    (inLive : block ∈ live) (inFree : node ∈ free) : block.start ≠ node.start := by
  have apart := inv.freeApart inFree inLive
  have := inv.livePositive inLive
  have := inv.separated.inhabited node inFree
  simp only [Interval.Apart, Interval.stop] at apart
  omega

theorem perm (inv : HeapInvariant layout heap free live) {other : List Interval}
    (same : live.Perm other) : HeapInvariant layout heap free other where
  setUp := inv.setUp
  linked := inv.linked
  marker := inv.marker
  separated := inv.separated
  headers block member := inv.headers block (same.mem_iff.mpr member)
  apart := (same.pairwise_iff fun apart => apart.symm).mp inv.apart
  disjoint cell inFree inLive := by
    obtain ⟨block, member, covers⟩ := inLive
    exact inv.disjoint cell inFree ⟨block, same.mem_iff.mpr member, covers⟩
  covered cell := by
    rw [← inv.covered cell]
    simp only [Covers, same.mem_iff]
  freeAligned := inv.freeAligned
  liveAligned block member := inv.liveAligned block (same.mem_iff.mpr member)
  inhabited block member := inv.inhabited block (same.mem_iff.mpr member)
  remaining := inv.remaining
  whole := by
    rw [← inv.whole, total_perm same]

/-- The blocks that are handed out determine the free list. -/
theorem free_unique {other : Heap} {otherFree : List Interval}
    (inv : HeapInvariant layout heap free live) (otherInv : HeapInvariant layout other otherFree live) :
    free = otherFree := by
  refine inv.separated.ext otherInv.separated fun cell => ?_
  have here := inv.covered cell
  have there := otherInv.covered cell
  have apartHere := inv.disjoint cell
  have apartThere := otherInv.disjoint cell
  tauto

end HeapInvariant

/-! `prvHeapInit` -/

theorem prvHeapInit_invariant (layout : Layout) (heap : Heap) :
    HeapInvariant layout (prvHeapInit layout heap)
      [⟨layout.pucAlignedHeap, layout.pxEnd - layout.pucAlignedHeap⟩] [] where
  setUp := rfl
  linked := by
    have order := layout.pucAlignedHeap_lt_pxEnd
    have first := layout.xStart_outside (Nat.le_refl _) (Nat.le_of_lt order)
    have last := layout.xStart_outside (Nat.le_of_lt order) (Nat.le_refl _)
    simp [prvHeapInit, Layout.head, Links.set_other, first.symm, last.symm]
  marker := by
    have order := layout.pucAlignedHeap_lt_pxEnd
    simp [prvHeapInit, Links.set_other, Nat.ne_of_gt order]
  separated := by
    have order := layout.pucAlignedHeap_lt_pxEnd
    simp [separated_cons, Nat.sub_pos_of_lt order]
  headers := by simp
  apart := List.Pairwise.nil
  disjoint := by simp
  covered cell := by
    have order := layout.pucAlignedHeap_lt_pxEnd
    simp only [covers_cons, covers_nil, or_false, Interval.Covers, Interval.stop]
    omega
  freeAligned := by
    have first := layout.pucAlignedHeap_aligned
    have last := layout.pxEnd_aligned
    simp only [List.mem_singleton, forall_eq, Aligned, portByteAlignment] at *
    omega
  liveAligned := by simp
  inhabited := by simp
  remaining := by simp [prvHeapInit]
  whole := by simp

/-! The allocated bit. -/

theorem allocatedBit_eq : xBlockAllocatedBit = 2 ^ 31 := rfl

theorem allocated_and (size : Nat) : (size ||| xBlockAllocatedBit) &&& xBlockAllocatedBit ≠ 0 := by
  intro zero
  have bit := congrArg (Nat.testBit · 31) zero
  simp only [allocatedBit_eq, Nat.testBit_and, Nat.testBit_or, Nat.testBit_two_pow_self,
    Nat.zero_testBit] at bit
  simp at bit

theorem allocated_clear {size : Nat} (small : size < xBlockAllocatedBit) :
    (size ||| xBlockAllocatedBit) &&& (xBlockAllocatedBit - 1) = size := by
  rw [allocatedBit_eq] at *
  rw [Nat.and_two_pow_sub_one_eq_mod, Nat.or_mod_two_pow, Nat.mod_self, Nat.or_zero,
    Nat.mod_eq_of_lt small]

/-! `vPortFree` -/

theorem vPortFree_frees {layout : Layout} {heap : Heap} {free live : List Interval} {block : Interval}
    (inv : HeapInvariant layout heap free (block :: live)) :
    ∃ after freeAfter, vPortFree layout (block.start + xHeapStructSize) heap = some after ∧
      HeapInvariant layout after freeAfter live ∧
      (∀ address, Covers live address → after.links address = heap.links address) ∧
      after.xMinimumEverFreeBytesRemaining = heap.xMinimumEverFreeBytesRemaining ∧
      after.xNumberOfSuccessfulAllocations = heap.xNumberOfSuccessfulAllocations ∧
      after.xNumberOfSuccessfulFrees = heap.xNumberOfSuccessfulFrees + 1 := by
  have here : block ∈ block :: live := by simp
  have header := inv.headers block here
  have notHead := inv.live_ne_start here
  have linked : Linked (setSize block.start block.size heap.links) (layout.head :: free) layout.pxEnd := by
    refine inv.linked.congr fun node member => setSize_other _ _ ?_
    rcases List.mem_cons.mp member with rfl | member
    · exact notHead.symm
    · exact (inv.live_ne_free here member).symm
  obtain ⟨links, freeAfter, returned, inserted⟩ :=
    prvInsertBlockIntoFreeList_inserts layout block linked inv.separated (by simp) (inv.livePositive here)
      (fun node member => inv.freeApart member here)
      (List.forall_mem_cons.mpr ⟨inv.liveInside here, fun node member => inv.freeInside member⟩)
      inv.enough
  obtain ⟨blockApart, liveApart⟩ := List.pairwise_cons.mp inv.apart
  have kept : ∀ address, address ≠ layout.xStart → address ≠ block.start →
      (∀ node ∈ free, address ≠ node.start) → links address = heap.links address := by
    intro address notStart notBlock notFree
    rw [inserted.others address notStart notBlock notFree, setSize_other _ _ notBlock]
  refine ⟨{ heap with
    links := links
    xFreeBytesRemaining := heap.xFreeBytesRemaining + block.size
    xNumberOfSuccessfulFrees := heap.xNumberOfSuccessfulFrees + 1 }, freeAfter, ?_, ?_, ?_, rfl, rfl, rfl⟩
  · have notNull : block.start + xHeapStructSize ≠ 0 := by simp
    simp only [vPortFree, if_neg notNull, Nat.add_sub_cancel, header, allocated_and,
      allocated_clear (inv.liveSize_lt here), inv.setUp, returned, ne_eq, not_false_eq_true, and_self,
      if_true, Option.map_some]
  · constructor
    · exact inv.setUp
    · exact inserted.linked
    · have order := layout.pucAlignedHeap_lt_pxEnd
      exact (kept layout.pxEnd (layout.xStart_outside (Nat.le_of_lt order) (Nat.le_refl _))
        (inv.live_ne_end here) fun node member => inv.free_ne_end member).trans inv.marker
    · exact inserted.separated
    · intro other member
      have member' : other ∈ block :: live := by simp [member]
      rw [kept other.start (inv.live_ne_start member') _ fun node inFree =>
        inv.live_ne_free member' inFree]
      · exact inv.headers other member'
      · have apart := blockApart other member
        have := inv.livePositive here
        have := inv.livePositive member'
        simp only [Interval.Apart, Interval.stop] at apart
        omega
    · exact liveApart
    · intro cell inFree inLive
      rcases (inserted.covers cell).mp inFree with inBlock | inFree
      · obtain ⟨other, member, inOther⟩ := inLive
        exact (Interval.apart_iff (inv.livePositive here) (inv.livePositive (by simp [member]))).mp
          (blockApart other member) cell inBlock inOther
      · exact inv.disjoint cell inFree ((covers_cons ..).mpr (.inr inLive))
    · intro cell
      rw [← inv.covered cell, inserted.covers cell, covers_cons]
      tauto
    · exact inserted.aligned (inv.liveAligned block here) inv.freeAligned
    · exact fun other member => inv.liveAligned other (by simp [member])
    · exact fun other member => inv.inhabited other (by simp [member])
    · simp only [inserted.total, inv.remaining]
      omega
    · have whole := inv.whole
      simp only [inserted.total, total_cons] at *
      omega
  · intro address covered
    obtain ⟨other, member, inOther⟩ := covered
    have member' : other ∈ block :: live := by simp [member]
    have inside := inv.liveInside member'
    refine kept address ?_ ?_ ?_
    · exact layout.xStart_outside (Nat.le_trans inside.1 inOther.1)
        (Nat.le_of_lt (Nat.lt_of_lt_of_le inOther.2 inside.2))
    · rintro rfl
      exact (Interval.apart_iff (inv.livePositive here) (inv.livePositive member')).mp
        (blockApart other member) _ (Interval.covers_own_start (inv.livePositive here)) inOther
    · rintro node inFree rfl
      exact inv.disjoint _ (covers_start inFree (inv.separated.inhabited node inFree))
        ⟨other, member', inOther⟩

/-! `pvPortMalloc` -/

theorem blockSizeFor_aligned (xWantedSize : Nat) : blockSizeFor xWantedSize % portByteAlignment = 0 := by
  simp only [blockSizeFor, portByteAlignment, xHeapStructSize]
  split <;> omega

theorem le_blockSizeFor (xWantedSize : Nat) : xWantedSize + xHeapStructSize ≤ blockSizeFor xWantedSize := by
  simp only [blockSizeFor]
  split <;> omega

/-- How much of a free block is handed out. -/
def takenSize (need size : Nat) : Nat := if size - need > heapMinimumBlockSize then need else size

/-- The front of a free block is taken off the list. -/
structure Carved (layout : Layout) (block : Interval) (free : List Interval) (links : Links)
    (freeAfter : List Interval) (after : Links) : Prop where
  linked : Linked after (layout.head :: freeAfter) layout.pxEnd
  separated : Separated freeAfter
  covers : ∀ cell, Covers freeAfter cell ↔ Covers free cell ∧ ¬ block.Covers cell
  total : total freeAfter + block.size = total free
  aligned : ∀ node ∈ freeAfter, Aligned node
  size : (after block.start).xBlockSize = block.size
  others : ∀ address, address ≠ layout.xStart → ¬ Covers free address → after address = links address

section Carving

variable {layout : Layout} {heap : Heap} {early after live : List Interval} {block : Interval}

theorem carve_whole (inv : HeapInvariant layout heap (early ++ block :: after) live) :
    Carved layout block (early ++ block :: after) heap.links (early ++ after)
      (setNext (lastNode layout.head early).start (heap.links block.start).pxNextFreeBlock heap.links) where
  linked := inv.linked.unlink inv.distinct
  separated := inv.separated.sublist (by simp)
  covers cell := by
    have apart : block.Covers cell → ¬ Covers (early ++ after) cell := inv.separated.not_covers
    simp only [covers_append, covers_cons] at *
    tauto
  total := by
    simp only [total_append, total_cons]
    omega
  aligned node member := inv.freeAligned node (by
    simp only [List.mem_append, List.mem_cons] at member ⊢
    tauto)
  size := by
    rw [setNext_size]
    exact inv.linked.header (by simp)
  others address notStart notFree := by
    refine setNext_other _ _ fun same => ?_
    rcases List.mem_cons.mp (lastNode_mem layout.head early) with isHead | member
    · rw [isHead] at same
      exact notStart same
    · have inFree : lastNode layout.head early ∈ early ++ block :: after := by simp [member]
      exact notFree (same ▸ covers_start inFree (inv.separated.inhabited _ inFree))

theorem carve_split {need : Nat} (inv : HeapInvariant layout heap (early ++ block :: after) live)
    (aligned : need % portByteAlignment = 0) (positive : 0 < need) (smaller : need < block.size) :
    ∃ links freeAfter,
      prvInsertBlockIntoFreeList layout layout.pxEnd (block.start + need)
          (setSize block.start need (setSize (block.start + need) (block.size - need)
            (setNext (lastNode layout.head early).start (heap.links block.start).pxNextFreeBlock
              heap.links))) = some links ∧
        Carved layout ⟨block.start, need⟩ (early ++ block :: after) heap.links freeAfter links := by
  have whole := carve_whole inv
  have here : block ∈ early ++ block :: after := by simp
  have inside := inv.freeInside here
  have blockAligned := inv.freeAligned block here
  let rest : Interval := ⟨block.start + need, block.size - need⟩
  have restInBlock (cell : Nat) (inRest : rest.Covers cell) : block.Covers cell := by
    simp only [rest, Interval.Covers, Interval.stop] at *
    omega
  have notBlock (node : Interval) (member : node ∈ layout.head :: (early ++ after)) :
      ¬ block.Covers node.start := by
    intro inBlock
    rcases List.mem_cons.mp member with rfl | member
    · have upper := inBlock.2
      exact layout.xStart_outside (Nat.le_trans inside.1 inBlock.1) (by omega) rfl
    · exact inv.separated.not_covers inBlock (covers_start member (whole.separated.inhabited _ member))
  have sized : ∀ address, address ≠ block.start → address ≠ rest.start →
      setSize block.start need (setSize rest.start rest.size
        (setNext (lastNode layout.head early).start (heap.links block.start).pxNextFreeBlock
          heap.links)) address =
        setNext (lastNode layout.head early).start (heap.links block.start).pxNextFreeBlock
          heap.links address := by
    intro address notBlock notRest
    rw [setSize_other _ _ notBlock, setSize_other _ _ notRest]
  have linked := whole.linked.congr fun node member => by
    have outside := notBlock node member
    simp only [Interval.Covers, Interval.stop] at outside
    exact sized node.start (by omega) (by simp only [rest]; omega)
  have restSize : (setSize block.start need (setSize rest.start rest.size
      (setNext (lastNode layout.head early).start (heap.links block.start).pxNextFreeBlock
        heap.links)) rest.start).xBlockSize = rest.size := by
    have different : rest.start ≠ block.start := by simp [rest, Nat.ne_of_gt positive]
    rw [setSize_other _ _ different, setSize_same]
  have inhabited : 0 < rest.size := Nat.sub_pos_of_lt smaller
  have apart : ∀ node ∈ early ++ after, node.Apart rest := by
    intro node member
    have nodeSize := whole.separated.inhabited node member
    refine (Interval.apart_iff nodeSize inhabited).mpr fun cell inNode inRest => ?_
    exact inv.separated.not_covers (restInBlock cell inRest) ⟨node, member, inNode⟩
  have inHeap : ∀ node ∈ rest :: (early ++ after),
      layout.pucAlignedHeap ≤ node.start ∧ node.stop ≤ layout.pxEnd := by
    refine List.forall_mem_cons.mpr ⟨?_, fun node member => inv.freeInside ?_⟩
    · simp only [rest, Interval.stop] at *
      omega
    · simp only [List.mem_append, List.mem_cons] at member ⊢
      tauto
  have enough : (early ++ after).length < walkFuel := by
    have := inv.enough
    simp only [List.length_append, List.length_cons] at *
    omega
  obtain ⟨links, freeAfter, returned, inserted⟩ := prvInsertBlockIntoFreeList_inserts layout rest linked
    whole.separated restSize inhabited apart inHeap enough
  have startInFree : Covers (early ++ block :: after) block.start :=
    covers_start here (inv.separated.inhabited block here)
  refine ⟨links, freeAfter, returned, inserted.linked, inserted.separated, fun cell => ?_, ?_, ?_, ?_, ?_⟩
  · rw [inserted.covers, whole.covers]
    have inside := restInBlock cell
    have covered : block.Covers cell → Covers (early ++ block :: after) cell :=
      fun inBlock => ⟨block, here, inBlock⟩
    simp only [rest, Interval.Covers, Interval.stop] at *
    grind
  · have := whole.total
    have := inserted.total
    simp only [rest] at *
    omega
  · refine inserted.aligned ?_ whole.aligned
    simp only [Aligned, rest, portByteAlignment] at *
    omega
  · have notHead := notBlock layout.head (by simp)
    have blockSize := inv.separated.inhabited block here
    simp only [Interval.Covers, Interval.stop, Layout.head] at notHead
    rw [inserted.others block.start (by omega) (by simp only [rest]; omega), setSize_same]
    intro node member same
    exact notBlock node (by simp [member]) (by simp only [Interval.Covers, Interval.stop]; omega)
  · intro address notStart notFree
    have notBlockStart : address ≠ block.start := fun same => notFree (same ▸ startInFree)
    have notRest : address ≠ rest.start := fun same => notFree ⟨block, here, restInBlock address (by
      simp only [same, Interval.Covers, Interval.stop]; omega)⟩
    rw [inserted.others address notStart notRest, sized address notBlockStart notRest]
    · exact whole.others address notStart notFree
    · intro node member same
      refine notFree (same ▸ covers_start ?_ (whole.separated.inhabited node member))
      simp only [List.mem_append, List.mem_cons] at member ⊢
      tauto

/-- The invariant once the header of the block that was taken off the list is written. -/
theorem Carved.invariant {taken : Nat} {free freeAfter : List Interval} {links : Links} {minimum : Nat}
    {allocations frees : UInt32} (inv : HeapInvariant layout heap free live) (here : block ∈ free)
    (carved : Carved layout ⟨block.start, taken⟩ free heap.links freeAfter links)
    (aligned : taken % portByteAlignment = 0) (room : heapMinimumBlockSize ≤ taken)
    (fits : taken ≤ block.size) :
    HeapInvariant layout
      { links := links.set block.start ⟨0, taken ||| xBlockAllocatedBit⟩
        pxEnd := heap.pxEnd
        xFreeBytesRemaining := heap.xFreeBytesRemaining - taken
        xMinimumEverFreeBytesRemaining := minimum
        xNumberOfSuccessfulAllocations := allocations
        xNumberOfSuccessfulFrees := frees }
      freeAfter (⟨block.start, taken⟩ :: live) := by
  have positive : 0 < taken := by
    simp only [heapMinimumBlockSize] at room
    omega
  have startTaken : (Interval.mk block.start taken).Covers block.start := by
    simp only [Interval.Covers, Interval.stop]
    omega
  have takenInFree (cell : Nat) (inTaken : (Interval.mk block.start taken).Covers cell) :
      Covers free cell := by
    refine ⟨block, here, ?_⟩
    simp only [Interval.Covers, Interval.stop] at *
    omega
  have inside := inv.freeInside here
  have blockSize := inv.separated.inhabited block here
  simp only [Interval.stop] at inside
  have notHead : block.start ≠ layout.xStart := layout.xStart_outside inside.1 (by omega)
  have endUncovered : ¬ Covers free layout.pxEnd := fun covered =>
    absurd ((inv.covered layout.pxEnd).mp (.inl covered)).2 (Nat.lt_irrefl _)
  have atEnd := layout.xStart_outside (Nat.le_of_lt layout.pucAlignedHeap_lt_pxEnd) (Nat.le_refl _)
  constructor
  · exact inv.setUp
  · refine carved.linked.congr fun node member => Links.set_other _ _ fun same => ?_
    rcases List.mem_cons.mp member with rfl | member
    · exact notHead same.symm
    · have inFree := covers_start member (carved.separated.inhabited node member)
      exact ((carved.covers node.start).mp inFree).2 (same ▸ startTaken)
  · rw [Links.set_other _ _ (inv.free_ne_end here), carved.others _ atEnd endUncovered]
    exact inv.marker
  · exact carved.separated
  · refine List.forall_mem_cons.mpr ⟨Links.set_same _ _ _, fun other member => ?_⟩
    have otherStart := covers_start member (inv.livePositive member)
    rw [Links.set_other _ _ (inv.live_ne_free member here),
      carved.others _ (inv.live_ne_start member) fun inFree => inv.disjoint _ inFree otherStart]
    exact inv.headers other member
  · refine List.pairwise_cons.mpr ⟨fun other member => ?_, inv.apart⟩
    exact (Interval.apart_iff positive (inv.livePositive member)).mpr fun cell inTaken inOther =>
      inv.disjoint cell (takenInFree cell inTaken) ⟨other, member, inOther⟩
  · intro cell inFree inLive
    obtain ⟨stillFree, notTaken⟩ := (carved.covers cell).mp inFree
    rcases (covers_cons ..).mp inLive with inTaken | inLive
    · exact notTaken inTaken
    · exact inv.disjoint cell stillFree inLive
  · intro cell
    have := takenInFree cell
    rw [← inv.covered cell, carved.covers cell, covers_cons]
    tauto
  · exact carved.aligned
  · exact List.forall_mem_cons.mpr ⟨⟨(inv.freeAligned block here).1, aligned⟩, inv.liveAligned⟩
  · exact List.forall_mem_cons.mpr ⟨room, inv.inhabited⟩
  · have := carved.total
    have := inv.remaining
    simp only at *
    omega
  · have := carved.total
    have := inv.whole
    simp only [total_cons] at *
    omega

end Carving

theorem malloc_bit {wanted : Nat} (small : wanted < xBlockAllocatedBit) :
    wanted &&& xBlockAllocatedBit = 0 := by
  apply Nat.eq_of_testBit_eq
  intro bit
  rw [allocatedBit_eq] at *
  rw [Nat.testBit_and, Nat.testBit_two_pow, Nat.zero_testBit]
  by_cases top : 31 = bit
  · subst top
    simp [Nat.testBit_lt_two_pow small]
  · simp [top]

theorem mallocSetUp_refuses {layout : Layout} {heap : Heap} {free live : List Interval} {wanted : Nat}
    (inv : HeapInvariant layout heap free live)
    (none : wanted = 0 ∨ ∀ block ∈ free, block.size < blockSizeFor wanted) :
    mallocSetUp layout wanted heap = some (0, heap) := by
  rcases none with rfl | small
  · simp [mallocSetUp]
  · obtain ⟨last, ended⟩ := findBlock_ended inv.linked inv.marker layout.pxEnd_ne_zero
      (fun node => inv.notNull) inv.enough small
    simp only [Layout.head] at ended
    simp only [mallocSetUp, inv.first]
    split
    · by_cases zero : wanted = 0
      · simp [zero]
      · simp [Nat.pos_of_ne_zero zero, ended, inv.setUp]
    · rfl

/-- What is handed out is carved off the block that was found. -/
theorem takeBlock_takes {layout : Layout} {heap : Heap} {early after live : List Interval} {need : Nat}
    {block : Interval} (inv : HeapInvariant layout heap (early ++ block :: after) live)
    (aligned : need % portByteAlignment = 0) (room : heapMinimumBlockSize ≤ need)
    (fits : need ≤ block.size) :
    ∃ links freeAfter, takeBlock layout need (lastNode layout.head early).start block.start heap =
        some (block.start + xHeapStructSize,
          { links := links.set block.start ⟨0, takenSize need block.size ||| xBlockAllocatedBit⟩
            pxEnd := heap.pxEnd
            xFreeBytesRemaining := heap.xFreeBytesRemaining - takenSize need block.size
            xMinimumEverFreeBytesRemaining := min heap.xMinimumEverFreeBytesRemaining
              (heap.xFreeBytesRemaining - takenSize need block.size)
            xNumberOfSuccessfulAllocations := heap.xNumberOfSuccessfulAllocations + 1
            xNumberOfSuccessfulFrees := heap.xNumberOfSuccessfulFrees }) ∧
      Carved layout ⟨block.start, takenSize need block.size⟩ (early ++ block :: after) heap.links
        freeAfter links := by
  have whole := carve_whole inv
  have start := (inv.freeAligned block (by simp)).1
  have returned : (block.start + xHeapStructSize) % portByteAlignment = 0 := by
    simp only [portByteAlignment, xHeapStructSize] at *
    omega
  have lowest (remaining minimum : Nat) :
      (if remaining < minimum then remaining else minimum) = min minimum remaining := by
    split <;> omega
  have size := whole.size
  by_cases larger : block.size - need > heapMinimumBlockSize
  · have smaller : need < block.size := by omega
    have positive : 0 < need := Nat.lt_of_lt_of_le (by decide) room
    have newAligned : (block.start + need) % portByteAlignment = 0 := by
      simp only [portByteAlignment] at *
      omega
    obtain ⟨links, freeAfter, inserted, carved⟩ := carve_split inv aligned positive smaller
    rw [show takenSize need block.size = need from if_pos larger]
    refine ⟨links, freeAfter, ?_, carved⟩
    have carvedSize := carved.size
    simp only at carvedSize
    simp only [takeBlock, inv.linked.next_of_lastNode, size, if_pos larger, if_pos newAligned, inv.setUp,
      inserted, carvedSize, if_pos returned, lowest]
  · rw [show takenSize need block.size = block.size from if_neg larger]
    refine ⟨_, _, ?_, whole⟩
    simp only [takeBlock, inv.linked.next_of_lastNode, size, if_neg larger, if_pos returned, lowest]

theorem mallocSetUp_grants {layout : Layout} {heap : Heap} {free live : List Interval} {wanted : Nat}
    {block : Interval} (inv : HeapInvariant layout heap free live) (positive : 0 < wanted)
    (found : free.find? (blockSizeFor wanted ≤ ·.size) = some block) :
    ∃ after freeAfter, mallocSetUp layout wanted heap = some (block.start + xHeapStructSize, after) ∧
      HeapInvariant layout after freeAfter
        (⟨block.start, takenSize (blockSizeFor wanted) block.size⟩ :: live) ∧
      (∀ address, Covers live address → after.links address = heap.links address) ∧
      after.xMinimumEverFreeBytesRemaining =
        min heap.xMinimumEverFreeBytesRemaining after.xFreeBytesRemaining ∧
      after.xNumberOfSuccessfulAllocations = heap.xNumberOfSuccessfulAllocations + 1 ∧
      after.xNumberOfSuccessfulFrees = heap.xNumberOfSuccessfulFrees := by
  obtain ⟨large, early, rest, rfl, small⟩ := List.find?_eq_some_iff_append.mp found
  simp only [decide_eq_true_eq] at large
  simp only [Bool.not_eq_true', decide_eq_false_iff_not, Nat.not_le] at small
  have here : block ∈ early ++ block :: rest := by simp
  have aligned := blockSizeFor_aligned wanted
  have room : heapMinimumBlockSize ≤ blockSizeFor wanted := by
    have := le_blockSizeFor wanted
    simp only [heapMinimumBlockSize, xHeapStructSize, portByteAlignment] at *
    omega
  have fits : blockSizeFor wanted ≤ heap.xFreeBytesRemaining := by
    have := size_le_total here
    have := inv.remaining
    omega
  have bit : wanted &&& xBlockAllocatedBit = 0 := by
    refine malloc_bit ?_
    have := le_blockSizeFor wanted
    have := inv.remaining
    have := inv.bytes
    have : configTotalHeapSize < xBlockAllocatedBit := by decide
    omega
  have walked := findBlock_found inv.linked (fun node => inv.notNull) inv.enough rfl large small
  have notEnd : block.start ≠ heap.pxEnd := inv.setUp ▸ (inv.free_ne_end here).symm
  obtain ⟨links, freeAfter, took, carved⟩ := takeBlock_takes inv aligned room large
  have takenAligned : takenSize (blockSizeFor wanted) block.size % portByteAlignment = 0 := by
    rw [takenSize]
    split
    · exact aligned
    · exact (inv.freeAligned block here).2
  have takenRoom : heapMinimumBlockSize ≤ takenSize (blockSizeFor wanted) block.size := by
    rw [takenSize]
    split <;> omega
  have takenFits : takenSize (blockSizeFor wanted) block.size ≤ block.size := by
    rw [takenSize]
    split <;> omega
  have reached : mallocSetUp layout wanted heap =
      takeBlock layout (blockSizeFor wanted) (lastNode layout.head early).start block.start heap := by
    simp only [Layout.head] at walked
    simp only [mallocSetUp, if_pos bit, if_pos positive, inv.first, walked]
    rw [if_pos ⟨Nat.lt_of_lt_of_le (by decide) room, fits⟩, if_pos notEnd]
    rfl
  have kept : ∀ address, Covers live address →
      links.set block.start ⟨0, takenSize (blockSizeFor wanted) block.size ||| xBlockAllocatedBit⟩ address =
        heap.links address := by
    intro address covered
    have notFree : ¬ Covers (early ++ block :: rest) address := fun inFree =>
      inv.disjoint address inFree covered
    have bounds := (inv.covered address).mp (.inr covered)
    have startFree : Covers (early ++ block :: rest) block.start :=
      covers_start here (inv.separated.inhabited _ here)
    have notStart : address ≠ block.start := by
      rintro rfl
      exact notFree startFree
    rw [Links.set_other _ _ notStart,
      carved.others address (layout.xStart_outside bounds.1 (Nat.le_of_lt bounds.2)) notFree]
  exact ⟨_, freeAfter, reached.trans took,
    carved.invariant inv here takenAligned takenRoom takenFits, kept, rfl, rfl, rfl⟩

end SpeFramework.FreeRtos
