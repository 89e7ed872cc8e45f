import Mathlib.Order.MinMax
import SpeFramework.FreeRtos.HeapRuns

/-!
What a request is answered, by the blocks that are held alone, and what the heap says of itself.
-/

namespace SpeFramework.FreeRtos

open Intervals Runs

section Answers

variable {layout : Layout} {use : HeapUse} {free : List Interval} {links : Links}
  {events : List HeapEvent}

/-- The bytes from `address` on are in the heap, and in no block that is held. -/
def Room (layout : Layout) (use : HeapUse) (size address : Nat) : Prop :=
  layout.pucAlignedHeap ≤ address ∧ address + size ≤ layout.pxEnd ∧
    ∀ held ∈ use.held, held.block.Apart ⟨address, size⟩

theorem UseInvariant.room_iff (inv : UseInvariant layout use free) {size address : Nat}
    (positive : 0 < size) :
    Room layout use size address ↔ ∃ block ∈ free, block.start ≤ address ∧ address + size ≤ block.stop := by
  let run : Interval := ⟨address, size⟩
  constructor
  · rintro ⟨lower, upper, apart⟩
    refine inv.heap.separated.contains run positive fun cell inRun => ?_
    have inHeap : layout.pucAlignedHeap ≤ cell ∧ cell < layout.pxEnd := by
      simp only [run, Interval.Covers, Interval.stop] at inRun
      omega
    rcases (inv.heap.covered cell).mpr inHeap with inFree | ⟨block, inLive, inBlock⟩
    · exact inFree
    · obtain ⟨held, member, rfl⟩ := List.mem_map.mp inLive
      exact absurd inRun
        ((Interval.apart_iff (inv.heap.livePositive inLive) positive).mp (apart held member) cell inBlock)
  · rintro ⟨block, inFree, lower, upper⟩
    have inside := inv.heap.freeInside inFree
    refine ⟨Nat.le_trans inside.1 lower, Nat.le_trans upper inside.2, fun held member => ?_⟩
    have apart := inv.heap.freeApart inFree (UseInvariant.block_mem member)
    simp only [Interval.Apart, Interval.stop] at *
    omega

theorem UseInvariant.firstFit (inv : UseInvariant layout use free) {size : Nat} (positive : 0 < size)
    {block : Interval} (found : free.find? (size ≤ ·.size) = some block) :
    IsLeast {address | Room layout use size address} block.start := by
  obtain ⟨large, early, rest, rfl, small⟩ := List.find?_eq_some_iff_append.mp found
  simp only [decide_eq_true_eq] at large
  simp only [Bool.not_eq_true', decide_eq_false_iff_not, Nat.not_le] at small
  constructor
  · refine (inv.room_iff positive).mpr ⟨block, by simp, Nat.le_refl _, ?_⟩
    simp only [Interval.stop]
    omega
  · intro address room
    obtain ⟨other, member, lower, upper⟩ := (inv.room_iff positive).mp room
    simp only [Interval.stop] at upper
    rcases List.mem_append.mp member with inEarly | member
    · have := small other inEarly
      omega
    · rcases List.mem_cons.mp member with rfl | inRest
      · exact lower
      · obtain ⟨-, ascending, -⟩ := List.pairwise_append.mp inv.heap.separated.starts_ascending
        have := (List.pairwise_cons.mp ascending).1 other inRest
        omega

theorem blockSizeFor_pos (xWantedSize : Nat) : 0 < blockSizeFor xWantedSize := by
  have := le_blockSizeFor xWantedSize
  simp only [xHeapStructSize] at this
  omega

theorem UseInvariant.answered (inv : UseInvariant layout use free) (xWantedSize : Nat) :
    ∃ pv after, pvPortMalloc layout xWantedSize use.heap = some (pv, after) ∧
      (pv = 0 ↔ xWantedSize = 0 ∨ ∀ address, ¬ Room layout use (blockSizeFor xWantedSize) address) ∧
      (pv ≠ 0 → ∃ address, pv = address + xHeapStructSize ∧
        IsLeast {address | Room layout use (blockSizeFor xWantedSize) address} address) := by
  have positive := blockSizeFor_pos xWantedSize
  rw [pvPortMalloc, if_neg inv.setUp_ne]
  by_cases small : xWantedSize = 0 ∨ ∀ block ∈ free, block.size < blockSizeFor xWantedSize
  · refine ⟨0, _, mallocSetUp_refuses inv.heap small, ?_, fun granted => absurd rfl granted⟩
    refine ⟨fun _ => small.imp_right fun small address here => ?_, fun _ => rfl⟩
    obtain ⟨block, inFree, lower, upper⟩ := (inv.room_iff positive).mp here
    have := small block inFree
    simp only [Interval.stop] at upper
    omega
  · obtain ⟨wanted, block, found⟩ := not_small_iff.mp small
    obtain ⟨after, freeAfter, granted, -⟩ := mallocSetUp_grants inv.heap wanted found
    have lowest := inv.firstFit positive found
    refine ⟨_, after, granted, ⟨fun none => absurd none (by simp), ?_⟩, fun _ => ?_⟩
    · rintro (zero | none)
      · exact absurd zero (Nat.ne_of_gt wanted)
      · exact absurd lowest.1 (none block.start)
    · exact ⟨block.start, rfl, lowest⟩

/-- A request is refused exactly where no room is left in one piece, and answered with the lowest
room there is. -/
theorem heapRun_firstFit (allowed : AllowedRun layout links events) (xWantedSize : Nat) :
    ∃ use pv after, heapRun layout links events = some use ∧
      pvPortMalloc layout xWantedSize use.heap = some (pv, after) ∧
      (pv = 0 ↔ xWantedSize = 0 ∨ ∀ address, ¬ Room layout use (blockSizeFor xWantedSize) address) ∧
      (pv ≠ 0 → ∃ address, pv = address + xHeapStructSize ∧
        IsLeast {address | Room layout use (blockSizeFor xWantedSize) address} address) := by
  obtain ⟨use, reached, sound⟩ := heapRun_sound allowed
  obtain ⟨same, free, inv⟩ := sound.setUp
  have room (address : Nat) : Room layout (use.setUp layout) (blockSizeFor xWantedSize) address ↔
      Room layout use (blockSizeFor xWantedSize) address := by rw [Room, Room, same]
  obtain ⟨pv, after, answered⟩ := inv.answered xWantedSize
  simp only [room, pvPortMalloc_setUp] at answered
  exact ⟨use, pv, after, reached, answered⟩

theorem heapRun_firstFit_sram :
    ∃ use pv after, heapRun sramLayout zeroLinks [.malloc 8, .malloc 20, .free 0x24000010] = some use ∧
      pvPortMalloc sramLayout 12 use.heap = some (pv, after) ∧
      (pv = 0 ↔ 12 = 0 ∨ ∀ address, ¬ Room sramLayout use (blockSizeFor 12) address) ∧
      (pv ≠ 0 → ∃ address, pv = address + xHeapStructSize ∧
        IsLeast {address | Room sramLayout use (blockSizeFor 12) address} address) :=
  heapRun_firstFit (by decide +kernel) 12

/-! Two heaps in which the same blocks are held. -/

/-- The pointer that a request returns, 0 for the events that return none. -/
def answer (layout : Layout) (state : Option HeapUse) : HeapEvent → Option Nat
  | .malloc xWantedSize => state.bind fun use => (pvPortMalloc layout xWantedSize use.heap).map Prod.fst
  | .free _ => some 0
  | .write _ _ => some 0

def answers (layout : Layout) : Option HeapUse → List HeapEvent → List (Option Nat)
  | _, [] => []
  | state, event :: events =>
      answer layout state event :: answers layout (useStep layout state event) events

theorem UseInvariant.free_eq {other : HeapUse} {otherFree : List Interval}
    (inv : UseInvariant layout use free) (otherInv : UseInvariant layout other otherFree)
    (same : use.held.Perm other.held) : free = otherFree :=
  inv.heap.free_unique (otherInv.heap.perm (same.map Held.block).symm)

theorem UseInvariant.held_eq (inv : UseInvariant layout use free) {one other : Held}
    (member : one ∈ use.held) (otherMember : other ∈ use.held) (same : one.pointer = other.pointer) :
    one = other := by
  by_contra different
  have apart := inv.held_apart member otherMember different
  have := inv.heap.livePositive (block_mem member)
  have := inv.heap.livePositive (block_mem otherMember)
  simp only [Interval.Apart, Interval.stop, Held.block, same] at *
  omega

theorem Served.held_perm {other next otherNext : HeapUse} {event : HeapEvent}
    (inv : UseInvariant layout use free) (same : use.held.Perm other.held)
    (served : Served use free event next) (otherServed : Served other free event otherNext) :
    next.held.Perm otherNext.held := by
  cases served with
  | null =>
      cases otherServed with
      | null => exact same
      | freed pointer taken =>
          exact absurd pointer (inv.pointer_pos ((same.trans taken).mem_iff.mpr (List.mem_cons_self ..)))
  | refused small =>
      cases otherServed with
      | refused => exact same
      | granted positive found => exact absurd small (not_small_iff.mpr ⟨positive, _, found⟩)
  | granted positive found =>
      cases otherServed with
      | refused small => exact absurd small (not_small_iff.mpr ⟨positive, _, found⟩)
      | granted _ again =>
          obtain rfl := Option.some.inj (found.symm.trans again)
          exact same.cons _
  | @freed pv held rest after pointer taken =>
      cases otherServed with
      | null => exact absurd pointer (inv.pointer_pos (taken.mem_iff.mpr (List.mem_cons_self ..)))
      | @freed _ otherHeld otherRest _ otherPointer otherTaken =>
          have member : held ∈ use.held := taken.mem_iff.mpr (List.mem_cons_self ..)
          have otherMember : otherHeld ∈ use.held :=
            (same.trans otherTaken).mem_iff.mpr (List.mem_cons_self ..)
          obtain rfl := inv.held_eq member otherMember (pointer.trans otherPointer.symm)
          exact (taken.symm.trans (same.trans otherTaken)).cons_inv
  | stored =>
      cases otherServed with
      | stored => exact same

theorem UseInvariant.answer_eq {other : HeapUse} {otherFree : List Interval}
    (inv : UseInvariant layout use free) (otherInv : UseInvariant layout other otherFree)
    (same : use.held.Perm other.held) (event : HeapEvent) :
    answer layout (some use) event = answer layout (some other) event := by
  cases event with
  | free => rfl
  | write => rfl
  | malloc xWantedSize =>
      have room : Room layout other = Room layout use := by
        funext size address
        simp only [Room, same.mem_iff]
      obtain ⟨pv, after, answered, refused, granted⟩ := inv.answered xWantedSize
      obtain ⟨otherPv, otherAfter, otherAnswered, otherRefused, otherGranted⟩ :=
        otherInv.answered xWantedSize
      rw [room] at otherRefused otherGranted
      have equal : pv = otherPv := by
        by_cases zero : pv = 0
        · rw [zero, otherRefused.mpr (refused.mp zero)]
        · have otherNotZero : otherPv ≠ 0 := fun otherZero => zero (refused.mpr (otherRefused.mp otherZero))
          obtain ⟨address, rfl, lowest⟩ := granted zero
          obtain ⟨otherAddress, rfl, otherLowest⟩ := otherGranted otherNotZero
          rw [lowest.unique otherLowest]
      simp [answer, answered, otherAnswered, equal]

theorem allowed_perm {other : HeapUse} {event : HeapEvent} (same : use.held.Perm other.held)
    (allowed : Allowed (some use) event) : Allowed (some other) event := by
  intro state isOther
  obtain rfl := Option.some.inj isOther
  have allowed := allowed use rfl
  cases event <;> simp_all only [same.mem_iff]

theorem answer_setUp (event : HeapEvent) :
    answer layout (some (use.setUp layout)) event = answer layout (some use) event := by
  cases event with
  | malloc xWantedSize => simp [answer, pvPortMalloc_setUp]
  | free => rfl
  | write => rfl

theorem Sound.step_alike {other : HeapUse} {event : HeapEvent} (sound : Sound layout use)
    (otherSound : Sound layout other) (same : use.held.Perm other.held)
    (allowed : Allowed (some use) event) :
    ∃ next otherNext, useStep layout (some use) event = some next ∧
      useStep layout (some other) event = some otherNext ∧ Sound layout next ∧ Sound layout otherNext ∧
      next.held.Perm otherNext.held ∧
      answer layout (some use) event = answer layout (some other) event := by
  obtain ⟨next, free, _, returned, nextSound, inv, -, served⟩ := sound.step_setUp allowed
  obtain ⟨otherNext, otherFree, _, otherReturned, otherNextSound, otherInv, -, otherServed⟩ :=
    otherSound.step_setUp (allowed_perm same allowed)
  have sameSetUp : (use.setUp layout).held.Perm (other.setUp layout).held := by
    rw [sound.setUp.1, otherSound.setUp.1]
    exact same
  obtain rfl := inv.free_eq otherInv sameSetUp
  have answered := inv.answer_eq otherInv sameSetUp event
  have sameNext := served.held_perm inv sameSetUp otherServed
  rw [answer_setUp, answer_setUp] at answered
  rw [nextSound.setUp.1, otherNextSound.setUp.1] at sameNext
  exact ⟨next, otherNext, returned, otherReturned, nextSound, otherNextSound, sameNext, answered⟩

theorem Sound.answers_eq {other : HeapUse} (sound : Sound layout use) (otherSound : Sound layout other)
    (same : use.held.Perm other.held)
    (allowed : Throughout (useStep layout) Allowed (some use) events) :
    answers layout (some use) events = answers layout (some other) events := by
  induction events generalizing use other with
  | nil => rfl
  | cons event events ih =>
      obtain ⟨here, later⟩ := allowed
      obtain ⟨next, otherNext, returned, otherReturned, nextSound, otherNextSound, sameNext, answered⟩ :=
        sound.step_alike otherSound same here
      rw [returned] at later
      rw [answers, answers, returned, otherReturned, answered, ih nextSound otherNextSound sameNext later]

def heldAfter (layout : Layout) (links : Links) (events : List HeapEvent) : List Held :=
  match heapRun layout links events with
  | none => []
  | some use => use.held

/-- The blocks that are held decide every later answer, however they came to be held. -/
theorem heapRun_canonical {otherLinks : Links} {otherEvents more : List HeapEvent}
    (allowed : AllowedRun layout links (events ++ more))
    (otherAllowed : AllowedRun layout otherLinks otherEvents)
    (same : (heldAfter layout links events).Perm (heldAfter layout otherLinks otherEvents)) :
    answers layout (heapRun layout links events) more =
      answers layout (heapRun layout otherLinks otherEvents) more := by
  obtain ⟨early, late⟩ := (throughout_append ..).mp allowed
  obtain ⟨use, reached, sound⟩ := heapRun_sound early
  obtain ⟨other, otherReached, otherSound⟩ := heapRun_sound otherAllowed
  rw [← heapRun, reached] at late
  simp only [heldAfter, reached, otherReached] at same
  rw [reached, otherReached]
  exact sound.answers_eq otherSound same late

theorem heapRun_canonical_sram :
    answers sramLayout
        (heapRun sramLayout zeroLinks [.malloc 8, .malloc 20, .free 0x24000010, .malloc 4, .free 0x24000010])
        [.malloc 100] =
      answers sramLayout (heapRun sramLayout zeroLinks [.malloc 8, .malloc 20, .free 0x24000010])
        [.malloc 100] :=
  heapRun_canonical (by decide +kernel) (by decide +kernel) (by decide +kernel)

/-! What `vPortGetHeapStats` reports. -/

def sizes (blocks : List Interval) : Set Nat := {size | ∃ block ∈ blocks, block.size = size}

@[simp] theorem sizes_nil : sizes [] = ∅ := by simp [sizes]

@[simp] theorem sizes_cons (block : Interval) (blocks : List Interval) :
    sizes (block :: blocks) = insert block.size (sizes blocks) := by
  ext size
  simp [sizes, eq_comm]

theorem isGreatest_insert_max {one other greatest : Nat} {all : Set Nat}
    (isGreatest : IsGreatest (insert (max one other) all) greatest) :
    IsGreatest (insert one (insert other all)) greatest := by
  obtain ⟨member, bound⟩ := isGreatest
  simp only [upperBounds_insert, Set.mem_inter_iff, Set.mem_Ici, max_le_iff] at bound
  refine ⟨?_, by simp [upperBounds_insert, bound]⟩
  simp only [Set.mem_insert_iff] at member ⊢
  rcases member with rfl | member
  · rcases max_choice one other with same | same <;> simp [same]
  · exact .inr (.inr member)

theorem isLeast_insert_min {one other least : Nat} {all : Set Nat}
    (isLeast : IsLeast (insert (min one other) all) least) :
    IsLeast (insert one (insert other all)) least := by
  obtain ⟨member, bound⟩ := isLeast
  simp only [lowerBounds_insert, Set.mem_inter_iff, Set.mem_Iic, le_min_iff] at bound
  refine ⟨?_, by simp [lowerBounds_insert, bound]⟩
  simp only [Set.mem_insert_iff] at member ⊢
  rcases member with rfl | member
  · rcases min_choice one other with same | same <;> simp [same]
  · exact .inr (.inr member)

theorem isGreatest_of_insert {low size greatest : Nat} {all : Set Nat}
    (isGreatest : IsGreatest (insert low all) greatest) (member : size ∈ all) (above : low < size) :
    IsGreatest all greatest := by
  have bound := fun other (inside : other ∈ all) => isGreatest.2 (.inr inside)
  refine ⟨isGreatest.1.resolve_left ?_, bound⟩
  rintro rfl
  exact absurd (bound size member) (Nat.not_le.mpr above)

theorem isLeast_of_insert {high size least : Nat} {all : Set Nat}
    (isLeast : IsLeast (insert high all) least) (member : size ∈ all) (below : size < high) :
    IsLeast all least := by
  have bound := fun other (inside : other ∈ all) => isLeast.2 (.inr inside)
  refine ⟨isLeast.1.resolve_left ?_, bound⟩
  rintro rfl
  exact absurd (bound size member) (Nat.not_le.mpr below)

theorem countBlocks_step (stop fuel block counted largest smallest : Nat) :
    countBlocks links stop (fuel + 1) block counted largest smallest =
      if block = 0 then none
      else if (links block).pxNextFreeBlock ≠ stop then
        countBlocks links stop fuel (links block).pxNextFreeBlock (counted + 1)
          (max largest (links block).xBlockSize) (min smallest (links block).xBlockSize)
      else some (counted + 1, max largest (links block).xBlockSize,
        min smallest (links block).xBlockSize) := by
  have larger (size : Nat) : (if size > largest then size else largest) = max largest size := by
    rw [max_def]
    split <;> split <;> omega
  have smaller (size : Nat) : (if size < smallest then size else smallest) = min smallest size := by
    rw [min_def]
    split <;> split <;> omega
  simp only [countBlocks, larger, smaller]

theorem countBlocks_counts {first : Interval} {rest : List Interval} {fuel : Nat}
    (linked : Linked links (first :: rest) layout.pxEnd) (notNull : ∀ node ∈ first :: rest, node.start ≠ 0)
    (notEnd : ∀ node ∈ rest, node.start ≠ layout.pxEnd) (enough : rest.length < fuel)
    (counted largest smallest : Nat) :
    ∃ xMaxSize xMinSize,
      countBlocks links layout.pxEnd fuel first.start counted largest smallest =
        some (counted + (rest.length + 1), xMaxSize, xMinSize) ∧
      IsGreatest (insert largest (sizes (first :: rest))) xMaxSize ∧
      IsLeast (insert smallest (sizes (first :: rest))) xMinSize := by
  obtain ⟨notNullHere, notNullLater⟩ := List.forall_mem_cons.mp notNull
  induction rest generalizing first fuel counted largest smallest with
  | nil =>
      obtain ⟨fuel, rfl⟩ : ∃ more, fuel = more + 1 := ⟨fuel - 1, by simp at enough; omega⟩
      have header : links first.start = ⟨layout.pxEnd, first.size⟩ := linked.1
      rw [sizes_cons]
      refine ⟨max largest first.size, min smallest first.size, ?_, isGreatest_insert_max ?_,
        isLeast_insert_min ?_⟩
      · simp only [countBlocks_step, if_neg notNullHere, header, ne_eq, not_true, if_false]
        rfl
      · simp
      · simp
  | cons next rest ih =>
      obtain ⟨fuel, rfl⟩ : ∃ more, fuel = more + 1 := ⟨fuel - 1, by simp at enough; omega⟩
      have header : links first.start = ⟨next.start, first.size⟩ := linked.1
      obtain ⟨notEndHere, notEndLater⟩ := List.forall_mem_cons.mp notEnd
      obtain ⟨xMaxSize, xMinSize, returned, greatest, least⟩ := ih linked.2 notNullLater notEndLater
        (Nat.lt_of_succ_lt_succ enough) (counted + 1) (max largest first.size) (min smallest first.size)
        (List.forall_mem_cons.mp notNullLater).1 (List.forall_mem_cons.mp notNullLater).2
      rw [sizes_cons first]
      refine ⟨xMaxSize, xMinSize, ?_, isGreatest_insert_max greatest, isLeast_insert_min least⟩
      rw [countBlocks_step, if_neg notNullHere, header, if_pos notEndHere, returned, List.length_cons]
      congr 2
      omega

/-- From the end marker the loop goes on to the block at `NULL`. -/
theorem countBlocks_lost {stop : Nat} (marker : links stop = ⟨0, 0⟩) (notNull : stop ≠ 0)
    (fuel counted largest smallest : Nat) :
    countBlocks links stop (fuel + 2) stop counted largest smallest = none := by
  rw [countBlocks_step, if_neg notNull, marker, if_pos notNull.symm, countBlocks_step, if_pos rfl]

theorem UseInvariant.stats_full (inv : UseInvariant layout use []) :
    vPortGetHeapStats layout use.heap = none := by
  have first := inv.heap.first
  have lost := countBlocks_lost inv.heap.marker layout.pxEnd_ne_zero 262142 0 0 portMaxDelay
  rw [firstStart_nil] at first
  simp only [vPortGetHeapStats, first, inv.heap.setUp, ne_eq, layout.pxEnd_ne_zero, not_false_eq_true, if_true]
  rw [show walkFuel = 262142 + 2 from rfl, lost, Option.map_none]

theorem UseInvariant.stats (inv : UseInvariant layout use free) (notFull : free ≠ []) :
    ∃ stats, vPortGetHeapStats layout use.heap = some stats ∧
      stats.xAvailableHeapSpaceInBytes = total free ∧ stats.xNumberOfFreeBlocks = free.length ∧
      IsGreatest (sizes free) stats.xSizeOfLargestFreeBlockInBytes ∧
      IsLeast (sizes free) stats.xSizeOfSmallestFreeBlockInBytes := by
  obtain ⟨first, rest, rfl⟩ := List.exists_cons_of_ne_nil notFull
  have enough := inv.heap.enough
  obtain ⟨xMaxSize, xMinSize, counted, greatest, least⟩ :=
    countBlocks_counts inv.heap.linked.2 (fun node => inv.heap.notNull)
      (fun node member => (inv.heap.free_ne_end (List.mem_cons_of_mem _ member)).symm)
      (Nat.lt_of_succ_lt enough) 0 0 portMaxDelay
  have here : first.size ∈ sizes (first :: rest) := ⟨first, by simp, rfl⟩
  have above : 0 < first.size := inv.heap.separated.inhabited first (by simp)
  have below : first.size < portMaxDelay := by
    have := inv.heap.bytes
    have : configTotalHeapSize < portMaxDelay := by decide
    simp only [total_cons] at *
    omega
  have entry : (use.heap.links layout.xStart).pxNextFreeBlock = first.start := inv.heap.first
  have notNull : first.start ≠ 0 := inv.heap.notNull (List.mem_cons_self ..)
  rw [Nat.zero_add, ← inv.heap.setUp] at counted
  let stats : HeapStats :=
    ⟨use.heap.xFreeBytesRemaining, xMaxSize, xMinSize, rest.length + 1,
      use.heap.xMinimumEverFreeBytesRemaining, use.heap.xNumberOfSuccessfulAllocations,
      use.heap.xNumberOfSuccessfulFrees⟩
  have reported : vPortGetHeapStats layout use.heap = some stats := by
    simp only [vPortGetHeapStats, entry, ne_eq, notNull, not_false_eq_true, if_true, counted]
    rfl
  exact ⟨stats, reported, inv.heap.remaining, rfl, isGreatest_of_insert greatest here above,
    isLeast_of_insert least here below⟩

/-- The statistics are right as long as some byte is free. On a heap that is full the walk
reads on behind the end marker. -/
theorem heapRun_stats (allowed : AllowedRun layout links events) :
    ∃ use, heapRun layout links events = some use ∧ (use.heap.pxEnd ≠ 0 →
      ∃ free, UseInvariant layout use free ∧
        (use.heap.xFreeBytesRemaining = 0 → vPortGetHeapStats layout use.heap = none) ∧
        (use.heap.xFreeBytesRemaining ≠ 0 → ∃ stats, vPortGetHeapStats layout use.heap = some stats ∧
          stats.xAvailableHeapSpaceInBytes = total free ∧ stats.xNumberOfFreeBlocks = free.length ∧
          IsGreatest (sizes free) stats.xSizeOfLargestFreeBlockInBytes ∧
          IsLeast (sizes free) stats.xSizeOfSmallestFreeBlockInBytes)) := by
  obtain ⟨use, reached, ⟨unused, -⟩ | ⟨free, inv⟩⟩ := heapRun_sound allowed
  · exact ⟨use, reached, fun ready => absurd unused ready⟩
  · refine ⟨use, reached, fun _ => ⟨free, inv, fun full => ?_, fun notFull => inv.stats ?_⟩⟩
    · have empty : free = [] := by
        have := inv.heap.separated.length_le_total
        rw [← List.length_eq_zero_iff]
        rw [inv.heap.remaining] at full
        omega
      subst empty
      exact inv.stats_full
    · rintro rfl
      exact notFull inv.heap.remaining

theorem heapRun_stats_sram :
    ∃ use, heapRun sramLayout zeroLinks [.malloc 8] = some use ∧ (use.heap.pxEnd ≠ 0 →
      ∃ free, UseInvariant sramLayout use free ∧
        (use.heap.xFreeBytesRemaining = 0 → vPortGetHeapStats sramLayout use.heap = none) ∧
        (use.heap.xFreeBytesRemaining ≠ 0 → ∃ stats, vPortGetHeapStats sramLayout use.heap = some stats ∧
          stats.xAvailableHeapSpaceInBytes = total free ∧ stats.xNumberOfFreeBlocks = free.length ∧
          IsGreatest (sizes free) stats.xSizeOfLargestFreeBlockInBytes ∧
          IsLeast (sizes free) stats.xSizeOfSmallestFreeBlockInBytes)) :=
  heapRun_stats (by decide +kernel)

end Answers

end SpeFramework.FreeRtos
