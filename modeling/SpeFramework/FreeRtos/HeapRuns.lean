import Mathlib.Data.List.Induction
import Mathlib.Order.Bounds.Basic
import SpeFramework.FreeRtos.HeapInvariant
import SpeFramework.Lib.Runs

/-!
The heap and the tasks that use it, over whole runs: who holds which block, what is written into
the blocks, and what the next request is answered.
-/

namespace SpeFramework.FreeRtos

open Intervals Runs

/-- A pointer that was handed out, the size that was asked for, and the size in its header. -/
structure Held where
  pointer : Nat
  wanted : Nat
  size : Nat
  deriving DecidableEq

def Held.block (held : Held) : Interval := ⟨held.pointer - xHeapStructSize, held.size⟩

structure HeapUse where
  heap : Heap
  held : List Held

inductive HeapEvent
  | malloc (xWantedSize : Nat)
  | free (pv : Nat)
  | write (held : Held) (contents : Nat → BlockLink)

/-- The words that lie in the bytes, or reach into them, hold something else. -/
def Links.overwrite (bytes : Interval) (contents : Nat → BlockLink) (links : Links) : Links :=
  ⟨fun address =>
    if address < bytes.stop ∧ bytes.start < address + xHeapStructSize then contents address
    else links address⟩

def Held.bytes (held : Held) : Interval := ⟨held.pointer, held.wanted⟩

def allocatedSize (links : Links) (pv : Nat) : Nat :=
  (links (pv - xHeapStructSize)).xBlockSize &&& (xBlockAllocatedBit - 1)

def useStep (layout : Layout) (state : Option HeapUse) (event : HeapEvent) : Option HeapUse :=
  state.bind fun use =>
    match event with
    | .malloc xWantedSize =>
        (pvPortMalloc layout xWantedSize use.heap).map fun (pv, heap) =>
          ⟨heap, if pv = 0 then use.held
            else ⟨pv, xWantedSize, allocatedSize heap.links pv⟩ :: use.held⟩
    | .free pv =>
        (vPortFree layout pv use.heap).map fun heap =>
          ⟨heap, use.held.eraseP (·.pointer = pv)⟩
    | .write held contents =>
        some ⟨{ use.heap with links := use.heap.links.overwrite held.bytes contents }, use.held⟩

/-- Tasks free only what they hold, or `NULL`, and store only into what they hold. -/
def Allowed (state : Option HeapUse) (event : HeapEvent) : Prop :=
  ∀ use ∈ state, match event with
    | .malloc _ => True
    | .free pv => pv = 0 ∨ ∃ held ∈ use.held, held.pointer = pv
    | .write held _ => held ∈ use.held

instance (state : Option HeapUse) (event : HeapEvent) : Decidable (Allowed state event) :=
  match state, event with
  | none, _ => isTrue fun _ absent => nomatch absent
  | some _, .malloc _ => isTrue fun _ _ => trivial
  | some use, .free pv =>
      decidable_of_iff (pv = 0 ∨ ∃ held ∈ use.held, held.pointer = pv) (by simp [Allowed])
  | some use, .write held _ => decidable_of_iff (held ∈ use.held) (by simp [Allowed])

structure UseInvariant (layout : Layout) (use : HeapUse) (free : List Interval) : Prop where
  heap : HeapInvariant layout use.heap free (use.held.map Held.block)
  behindHeader : ∀ held ∈ use.held, xHeapStructSize ≤ held.pointer
  roomy : ∀ held ∈ use.held, held.wanted + xHeapStructSize ≤ held.size

/-- The heap is not set up yet and nobody holds anything, or the invariant holds of it. -/
def Sound (layout : Layout) (use : HeapUse) : Prop :=
  use.heap.pxEnd = 0 ∧ use.held = [] ∨ ∃ free, UseInvariant layout use free

theorem overwrite_other {bytes : Interval} {contents : Nat → BlockLink} {links : Links} {address : Nat}
    (outside : bytes.stop ≤ address ∨ address + xHeapStructSize ≤ bytes.start) :
    links.overwrite bytes contents address = links address := by
  have notInside : ¬ (address < bytes.stop ∧ bytes.start < address + xHeapStructSize) := by omega
  simp only [Links.overwrite, if_neg notInside]

namespace UseInvariant

variable {layout : Layout} {use : HeapUse} {free : List Interval}

theorem block_mem {held : Held} (member : held ∈ use.held) : held.block ∈ use.held.map Held.block :=
  List.mem_map_of_mem member

theorem pointer_eq (inv : UseInvariant layout use free) {held : Held} (member : held ∈ use.held) :
    held.block.start + xHeapStructSize = held.pointer :=
  Nat.sub_add_cancel (inv.behindHeader held member)

theorem pointer_pos (inv : UseInvariant layout use free) {held : Held} (member : held ∈ use.held) :
    held.pointer ≠ 0 := by
  have := inv.behindHeader held member
  simp only [xHeapStructSize] at this
  omega

theorem bytes_inside (inv : UseInvariant layout use free) {held : Held} (member : held ∈ use.held) :
    held.block.start + xHeapStructSize = held.bytes.start ∧ held.bytes.stop ≤ held.block.stop := by
  have roomy := inv.roomy held member
  have pointer := inv.pointer_eq member
  simp only [Held.bytes, Held.block, Interval.stop] at *
  omega

/-- A header outside the heap's blocks or at the start of one is not reached by a store. -/
theorem header_outside (inv : UseInvariant layout use free) {held : Held} (member : held ∈ use.held)
    {address : Nat} (aligned : address % portByteAlignment = 0)
    (notInner : held.block.Covers address → address = held.block.start) :
    held.bytes.stop ≤ address ∨ address + xHeapStructSize ≤ held.bytes.start := by
  have inside := inv.bytes_inside member
  have blockAligned := inv.heap.liveAligned held.block (block_mem member)
  simp only [Aligned, Interval.Covers, Interval.stop, portByteAlignment, xHeapStructSize] at *
  omega

theorem setUp_ne (inv : UseInvariant layout use free) : use.heap.pxEnd ≠ 0 := by
  rw [inv.heap.setUp]
  exact layout.pxEnd_ne_zero

theorem sound (inv : UseInvariant layout use free) : Sound layout use := .inr ⟨free, inv⟩

end UseInvariant

theorem HeapInvariant.relink {layout : Layout} {heap : Heap} {free live : List Interval} {links : Links}
    (inv : HeapInvariant layout heap free live) (atStart : links layout.xStart = heap.links layout.xStart)
    (atEnd : links layout.pxEnd = heap.links layout.pxEnd)
    (atFree : ∀ node ∈ free, links node.start = heap.links node.start)
    (atLive : ∀ block ∈ live, links block.start = heap.links block.start) :
    HeapInvariant layout { heap with links := links } free live where
  setUp := inv.setUp
  linked := inv.linked.congr (List.forall_mem_cons.mpr ⟨atStart, atFree⟩)
  marker := atEnd.trans inv.marker
  separated := inv.separated
  headers block member := (atLive block member).trans (inv.headers block member)
  apart := inv.apart
  disjoint := inv.disjoint
  covered := inv.covered
  freeAligned := inv.freeAligned
  liveAligned := inv.liveAligned
  inhabited := inv.inhabited
  remaining := inv.remaining
  whole := inv.whole

/-- What an event makes of a heap that is set up. -/
inductive Served (use : HeapUse) (free : List Interval) : HeapEvent → HeapUse → Prop
  | refused {xWantedSize : Nat}
      (small : xWantedSize = 0 ∨ ∀ block ∈ free, block.size < blockSizeFor xWantedSize) :
      Served use free (.malloc xWantedSize) use
  | granted {xWantedSize : Nat} {block : Interval} {after : Heap} (positive : 0 < xWantedSize)
      (found : free.find? (blockSizeFor xWantedSize ≤ ·.size) = some block)
      (kept : ∀ address, Covers (use.held.map Held.block) address →
        after.links address = use.heap.links address)
      (minimum : after.xMinimumEverFreeBytesRemaining =
        min use.heap.xMinimumEverFreeBytesRemaining after.xFreeBytesRemaining)
      (allocations : after.xNumberOfSuccessfulAllocations = use.heap.xNumberOfSuccessfulAllocations + 1)
      (frees : after.xNumberOfSuccessfulFrees = use.heap.xNumberOfSuccessfulFrees) :
      Served use free (.malloc xWantedSize)
        ⟨after, ⟨block.start + xHeapStructSize, xWantedSize,
          takenSize (blockSizeFor xWantedSize) block.size⟩ :: use.held⟩
  | null : Served use free (.free 0) use
  | freed {pv : Nat} {held : Held} {rest : List Held} {after : Heap} (pointer : held.pointer = pv)
      (taken : use.held.Perm (held :: rest))
      (kept : ∀ address, Covers (rest.map Held.block) address →
        after.links address = use.heap.links address)
      (minimum : after.xMinimumEverFreeBytesRemaining = use.heap.xMinimumEverFreeBytesRemaining)
      (allocations : after.xNumberOfSuccessfulAllocations = use.heap.xNumberOfSuccessfulAllocations)
      (frees : after.xNumberOfSuccessfulFrees = use.heap.xNumberOfSuccessfulFrees + 1) :
      Served use free (.free pv) ⟨after, rest⟩
  | stored {held : Held} {contents : Nat → BlockLink} (member : held ∈ use.held) :
      Served use free (.write held contents)
        ⟨{ use.heap with links := use.heap.links.overwrite held.bytes contents }, use.held⟩

section Steps

variable {layout : Layout} {use : HeapUse} {free : List Interval}

theorem UseInvariant.afterStore (inv : UseInvariant layout use free) {held : Held}
    (member : held ∈ use.held) (contents : Nat → BlockLink) :
    UseInvariant layout
      ⟨{ use.heap with links := use.heap.links.overwrite held.bytes contents }, use.held⟩ free := by
  have inside := inv.heap.liveInside (UseInvariant.block_mem member)
  have bytes := inv.bytes_inside member
  have size := inv.heap.livePositive (UseInvariant.block_mem member)
  have notInner (address : Nat) (outside : ¬ held.block.Covers address) :
      held.block.Covers address → address = held.block.start := fun inner => absurd inner outside
  refine ⟨inv.heap.relink ?_ ?_ ?_ ?_, inv.behindHeader, inv.roomy⟩
  · refine overwrite_other ?_
    have lower := layout.ucHeap_le
    have upper := layout.pxEnd_le
    have apart := layout.apart
    omega
  · refine overwrite_other (.inl ?_)
    omega
  · intro node inFree
    refine overwrite_other (inv.header_outside member (inv.heap.freeAligned node inFree).1 ?_)
    refine notInner node.start fun inner => inv.heap.disjoint node.start ?_ ?_
    · exact covers_start inFree (inv.heap.separated.inhabited node inFree)
    · exact ⟨held.block, UseInvariant.block_mem member, inner⟩
  · intro other inLive
    refine overwrite_other (inv.header_outside member (inv.heap.liveAligned other inLive).1 fun inner => ?_)
    rcases inv.heap.eq_or_apart inLive (UseInvariant.block_mem member) with rfl | apart
    · rfl
    · exact absurd inner ((Interval.apart_iff (inv.heap.livePositive inLive) size).mp apart _
        (Interval.covers_own_start (inv.heap.livePositive inLive)))

theorem not_small_iff {xWantedSize : Nat} :
    ¬ (xWantedSize = 0 ∨ ∀ block ∈ free, block.size < blockSizeFor xWantedSize) ↔
      0 < xWantedSize ∧ ∃ block, free.find? (blockSizeFor xWantedSize ≤ ·.size) = some block := by
  rw [← Option.isSome_iff_exists, List.find?_isSome]
  simp [Nat.pos_iff_ne_zero]

theorem UseInvariant.afterMalloc (inv : UseInvariant layout use free) (xWantedSize : Nat) :
    ∃ next freeAfter, useStep layout (some use) (.malloc xWantedSize) = some next ∧
      UseInvariant layout next freeAfter ∧ Served use free (.malloc xWantedSize) next := by
  have entered : pvPortMalloc layout xWantedSize use.heap = mallocSetUp layout xWantedSize use.heap := by
    rw [pvPortMalloc, if_neg inv.setUp_ne]
  by_cases small : xWantedSize = 0 ∨ ∀ block ∈ free, block.size < blockSizeFor xWantedSize
  · refine ⟨use, free, ?_, inv, .refused small⟩
    simp [useStep, entered, mallocSetUp_refuses inv.heap small]
  · obtain ⟨positive, block, found⟩ := not_small_iff.mp small
    obtain ⟨after, freeAfter, granted, afterInv, kept, minimum, allocations, frees⟩ :=
      mallocSetUp_grants inv.heap positive found
    have header := afterInv.headers _ (List.mem_cons_self ..)
    have sizeLt := afterInv.liveSize_lt (List.mem_cons_self ..)
    have size : allocatedSize after.links (block.start + xHeapStructSize) =
        takenSize (blockSizeFor xWantedSize) block.size := by
      rw [allocatedSize, Nat.add_sub_cancel, header, allocated_clear sizeLt]
    refine ⟨_, freeAfter, ?_, ⟨?_, ?_, ?_⟩, .granted positive found kept minimum allocations frees⟩
    · simp [useStep, entered, granted, size]
    · simpa [Held.block] using afterInv
    · simpa using inv.behindHeader
    · refine List.forall_mem_cons.mpr ⟨?_, inv.roomy⟩
      have large := List.find?_some found
      have := le_blockSizeFor xWantedSize
      simp only [decide_eq_true_eq, takenSize] at *
      split <;> omega

theorem UseInvariant.afterFree (inv : UseInvariant layout use free) {held : Held} (member : held ∈ use.held) :
    ∃ next freeAfter, useStep layout (some use) (.free held.pointer) = some next ∧
      UseInvariant layout next freeAfter ∧ Served use free (.free held.pointer) next := by
  obtain ⟨same, early, late, -, pointer, split, erased⟩ :=
    List.exists_of_eraseP (p := (·.pointer = held.pointer)) member (by simp)
  simp only [decide_eq_true_eq] at pointer
  have taken : use.held.Perm (same :: (early ++ late)) := split ▸ List.perm_middle
  have here : same ∈ use.held := by simp [split]
  obtain ⟨after, freeAfter, freed, afterInv, kept, minimum, allocations, frees⟩ :=
    vPortFree_frees (inv.heap.perm (taken.map Held.block))
  rw [inv.pointer_eq here, pointer] at freed
  refine ⟨⟨after, early ++ late⟩, freeAfter, ?_, ⟨afterInv, ?_, ?_⟩, ?_⟩
  · simp [useStep, freed, erased]
  · exact fun other inRest => inv.behindHeader other (taken.mem_iff.mpr (by simp [inRest]))
  · exact fun other inRest => inv.roomy other (taken.mem_iff.mpr (by simp [inRest]))
  · exact .freed pointer taken kept minimum allocations frees

theorem UseInvariant.step (inv : UseInvariant layout use free) {event : HeapEvent}
    (allowed : Allowed (some use) event) :
    ∃ next freeAfter, useStep layout (some use) event = some next ∧
      UseInvariant layout next freeAfter ∧ Served use free event next := by
  have allowed := allowed use rfl
  cases event with
  | malloc xWantedSize => exact inv.afterMalloc xWantedSize
  | free pv =>
      rcases allowed with rfl | ⟨held, member, rfl⟩
      · refine ⟨use, free, ?_, inv, .null⟩
        have erased : use.held.eraseP (·.pointer = 0) = use.held :=
          List.eraseP_of_forall_not fun held member => by simp [inv.pointer_pos member]
        simp [useStep, vPortFree, erased]
      · exact inv.afterFree member
  | write held contents =>
      exact ⟨_, free, rfl, inv.afterStore allowed contents, .stored allowed⟩

end Steps

/-! Runs from the first call on. -/

/-- As the first request finds it, behind `prvHeapInit`. -/
def HeapUse.setUp (layout : Layout) (use : HeapUse) : HeapUse :=
  if use.heap.pxEnd = 0 then ⟨prvHeapInit layout use.heap, use.held⟩ else use

def heapRun (layout : Layout) (links : Links) (events : List HeapEvent) : Option HeapUse :=
  events.foldl (useStep layout) (some ⟨Heap.unused links, []⟩)

def AllowedRun (layout : Layout) (links : Links) (events : List HeapEvent) : Prop :=
  Throughout (useStep layout) Allowed (some ⟨Heap.unused links, []⟩) events

section Runs

variable {layout : Layout} {use : HeapUse} {links : Links} {events : List HeapEvent}

theorem UseInvariant.setUp_eq {free : List Interval} (inv : UseInvariant layout use free) :
    use.setUp layout = use := if_neg inv.setUp_ne

theorem Sound.setUp (sound : Sound layout use) :
    (use.setUp layout).held = use.held ∧ ∃ free, UseInvariant layout (use.setUp layout) free := by
  rcases sound with ⟨unused, nothing⟩ | ⟨free, inv⟩
  · rw [HeapUse.setUp, if_pos unused]
    have inv := prvHeapInit_invariant layout use.heap
    exact ⟨rfl, _, by simpa [nothing] using inv, by simp [nothing], by simp [nothing]⟩
  · rw [inv.setUp_eq]
    exact ⟨rfl, free, inv⟩

theorem pvPortMalloc_setUp (xWantedSize : Nat) :
    pvPortMalloc layout xWantedSize (use.setUp layout).heap = pvPortMalloc layout xWantedSize use.heap := by
  by_cases unused : use.heap.pxEnd = 0
  · have ready : (prvHeapInit layout use.heap).pxEnd ≠ 0 := layout.pxEnd_ne_zero
    simp only [HeapUse.setUp, if_pos unused, pvPortMalloc, if_neg ready]
  · simp only [HeapUse.setUp, if_neg unused]

/-- An event finds the heap set up, or it frees `NULL` and changes nothing. -/
theorem Sound.step (sound : Sound layout use) {event : HeapEvent} (allowed : Allowed (some use) event) :
    ∃ next, useStep layout (some use) event = some next ∧
      (next = use ∧ event = .free 0 ∨ ∃ free freeAfter, UseInvariant layout (use.setUp layout) free ∧
        UseInvariant layout next freeAfter ∧ Served (use.setUp layout) free event next) := by
  rcases sound with ⟨unused, nothing⟩ | ⟨free, inv⟩
  · cases event with
    | malloc xWantedSize =>
        obtain ⟨same, free, inv⟩ := Sound.setUp (.inl ⟨unused, nothing⟩ : Sound layout use)
        obtain ⟨next, freeAfter, returned, nextInv, served⟩ := inv.afterMalloc xWantedSize
        refine ⟨next, ?_, .inr ⟨free, freeAfter, inv, nextInv, served⟩⟩
        simpa [useStep, pvPortMalloc_setUp, same] using returned
    | free pv =>
        have allowed := allowed use rfl
        simp only [nothing, List.not_mem_nil, false_and, exists_false, or_false] at allowed
        subst allowed
        refine ⟨use, ?_, .inl ⟨rfl, rfl⟩⟩
        obtain ⟨heap, held⟩ := use
        simp only at nothing
        simp [useStep, vPortFree, nothing]
    | write held contents =>
        have allowed := allowed use rfl
        simp [nothing] at allowed
  · obtain ⟨next, freeAfter, returned, nextInv, served⟩ := inv.step allowed
    rw [inv.setUp_eq]
    exact ⟨next, returned, .inr ⟨free, freeAfter, inv, nextInv, served⟩⟩

theorem Sound.step_sound (sound : Sound layout use) {event : HeapEvent}
    (allowed : Allowed (some use) event) :
    ∃ next, useStep layout (some use) event = some next ∧ Sound layout next := by
  obtain ⟨next, returned, ⟨rfl, -⟩ | ⟨free, freeAfter, -, nextInv, -⟩⟩ := sound.step allowed
  · exact ⟨next, returned, sound⟩
  · exact ⟨next, returned, nextInv.sound⟩

theorem Sound.step_setUp (sound : Sound layout use) {event : HeapEvent}
    (allowed : Allowed (some use) event) :
    ∃ next free freeAfter, useStep layout (some use) event = some next ∧ Sound layout next ∧
      UseInvariant layout (use.setUp layout) free ∧ UseInvariant layout (next.setUp layout) freeAfter ∧
        Served (use.setUp layout) free event (next.setUp layout) := by
  obtain ⟨next, returned, ⟨rfl, rfl⟩ | ⟨free, freeAfter, inv, nextInv, served⟩⟩ := sound.step allowed
  · obtain ⟨-, free, inv⟩ := sound.setUp
    exact ⟨next, free, free, returned, sound, inv, inv, .null⟩
  · refine ⟨next, free, freeAfter, returned, nextInv.sound, inv, ?_, ?_⟩
    · rw [nextInv.setUp_eq]
      exact nextInv
    · rw [nextInv.setUp_eq]
      exact served

theorem sound_run (sound : Sound layout use)
    (allowed : Throughout (useStep layout) Allowed (some use) events) :
    ∃ final, events.foldl (useStep layout) (some use) = some final ∧ Sound layout final := by
  have keeps : ∀ (state : Option HeapUse) (event : HeapEvent),
      (∃ use, state = some use ∧ Sound layout use) → Allowed state event →
        ∃ use, useStep layout state event = some use ∧ Sound layout use := by
    rintro _ event ⟨use, rfl, sound⟩ allowed
    exact sound.step_sound allowed
  exact invariant_run keeps ⟨use, rfl, sound⟩ allowed

theorem heapRun_sound (allowed : AllowedRun layout links events) :
    ∃ use, heapRun layout links events = some use ∧ Sound layout use :=
  sound_run (.inl ⟨rfl, rfl⟩) allowed

instance (layout : Layout) (links : Links) (events : List HeapEvent) :
    Decidable (AllowedRun layout links events) :=
  inferInstanceAs (Decidable (Throughout ..))

/-- The heap at the start of a RAM, whose first block is at 0x24000008. -/
def sramLayout : Layout := ⟨0x24000004, 0x20000010, by decide, by decide⟩

def zeroLinks : Links := ⟨fun _ => ⟨0, 0⟩⟩

/-! Where the blocks are. -/

def Held.extent (held : Held) : Interval :=
  ⟨held.pointer - xHeapStructSize, xHeapStructSize + held.wanted⟩

structure WellPlaced (layout : Layout) (use : HeapUse) : Prop where
  aligned : ∀ held ∈ use.held, held.pointer % portByteAlignment = 0
  inHeap : ∀ held ∈ use.held, layout.ucHeap + xHeapStructSize ≤ held.pointer ∧
    held.pointer + held.wanted ≤ layout.ucHeap + configTotalHeapSize
  apart : use.held.Pairwise fun one other => one.extent.Apart other.extent

theorem UseInvariant.wellPlaced {free : List Interval} (inv : UseInvariant layout use free) :
    WellPlaced layout use where
  aligned held member := by
    have aligned := (inv.heap.liveAligned _ (block_mem member)).1
    have pointer := inv.pointer_eq member
    simp only [portByteAlignment, xHeapStructSize] at *
    omega
  inHeap held member := by
    have inside := inv.heap.liveInside (block_mem member)
    have bytes := inv.bytes_inside member
    have lower := layout.ucHeap_le
    have upper := layout.pxEnd_le
    simp only [Held.bytes, Interval.stop_mk] at bytes
    omega
  apart := by
    refine (List.pairwise_map.mp inv.heap.apart).imp_of_mem fun {one other} inOne inOther apart => ?_
    have first := inv.roomy one inOne
    have second := inv.roomy other inOther
    simp only [Interval.Apart, Interval.stop, Held.block, Held.extent] at *
    omega

/-- No request and no return ends in an assertion or runs on, and the blocks that are held lie
aligned in the heap, none on the header or the bytes of another. -/
theorem heapRun_wellPlaced (allowed : AllowedRun layout links events) :
    ∃ use, heapRun layout links events = some use ∧ WellPlaced layout use := by
  obtain ⟨use, reached, ⟨-, nothing⟩ | ⟨free, inv⟩⟩ := heapRun_sound allowed
  · exact ⟨use, reached, by simp [nothing], by simp [nothing], by simp [nothing]⟩
  · exact ⟨use, reached, inv.wellPlaced⟩

theorem heapRun_wellPlaced_sram :
    ∃ use, heapRun sramLayout zeroLinks [.malloc 8, .malloc 20, .free 0x24000010, .malloc 300] = some use ∧
      WellPlaced sramLayout use :=
  heapRun_wellPlaced (by decide +kernel)

/-! What is stored in the blocks. -/

theorem UseInvariant.held_apart {free : List Interval} (inv : UseInvariant layout use free)
    {one other : Held} (member : one ∈ use.held) (otherMember : other ∈ use.held)
    (different : one ≠ other) : one.block.Apart other.block := by
  have : Std.Symm fun one other : Held => one.block.Apart other.block := ⟨fun _ _ => Interval.Apart.symm⟩
  exact (List.pairwise_map.mp inv.heap.apart).forall member otherMember different

/-- The event takes nothing from this holder and stores nothing in its name. -/
def LeavesAlone (held : Held) (event : HeapEvent) : Prop :=
  event ≠ .free held.pointer ∧ ∀ contents, event ≠ .write held contents

def SameWords (held : Held) (before after : Links) : Prop :=
  ∀ address, held.bytes.start ≤ address → address + xHeapStructSize ≤ held.bytes.stop →
    after address = before address

theorem Served.sameWords {free : List Interval} {event : HeapEvent} {next : HeapUse} {held : Held}
    (served : Served use free event next) (inv : UseInvariant layout use free)
    (member : held ∈ use.held) (alone : LeavesAlone held event) :
    held ∈ next.held ∧ SameWords held use.heap.links next.heap.links := by
  have bytes := inv.bytes_inside member
  have inBlock (address : Nat) (lower : held.bytes.start ≤ address)
      (upper : address + xHeapStructSize ≤ held.bytes.stop) : held.block.Covers address := by
    simp only [Interval.Covers, xHeapStructSize] at *
    omega
  cases served with
  | refused => exact ⟨member, fun _ _ _ => rfl⟩
  | null => exact ⟨member, fun _ _ _ => rfl⟩
  | granted _ _ kept =>
      refine ⟨by simp [member], fun address lower upper => kept address ?_⟩
      exact ⟨held.block, UseInvariant.block_mem member, inBlock address lower upper⟩
  | freed pointer taken kept =>
      rcases List.mem_cons.mp (taken.mem_iff.mp member) with rfl | inRest
      · exact absurd (congrArg HeapEvent.free pointer.symm) alone.1
      · refine ⟨inRest, fun address lower upper => kept address ?_⟩
        exact ⟨held.block, List.mem_map_of_mem inRest, inBlock address lower upper⟩
  | @stored other contents otherMember =>
      refine ⟨member, fun address lower upper => overwrite_other ?_⟩
      have different : held ≠ other := by
        rintro rfl
        exact alone.2 contents rfl
      have apart := inv.held_apart member otherMember different
      have otherBytes := inv.bytes_inside otherMember
      simp only [Interval.Apart] at apart
      omega

theorem sameWords_run {held : Held} (sound : Sound layout use) (member : held ∈ use.held)
    (allowed : Throughout (useStep layout) Allowed (some use) events)
    (alone : ∀ event ∈ events, LeavesAlone held event) :
    ∃ final, events.foldl (useStep layout) (some use) = some final ∧ held ∈ final.held ∧
      SameWords held use.heap.links final.heap.links := by
  induction events generalizing use with
  | nil => exact ⟨use, rfl, member, fun _ _ _ => rfl⟩
  | cons event events ih =>
      obtain ⟨here, later⟩ := allowed
      obtain ⟨aloneHere, aloneLater⟩ := List.forall_mem_cons.mp alone
      obtain ⟨next, returned, nextSound⟩ := sound.step_sound here
      obtain ⟨nextMember, words⟩ : held ∈ next.held ∧ SameWords held use.heap.links next.heap.links := by
        rcases sound with ⟨-, nothing⟩ | ⟨free, inv⟩
        · simp [nothing] at member
        · obtain ⟨_, _, again, -, served⟩ := inv.step here
          obtain rfl := Option.some.inj (again.symm.trans returned)
          exact served.sameWords inv member aloneHere
      rw [returned] at later
      obtain ⟨final, reached, finalMember, finalWords⟩ := ih nextSound nextMember later aloneLater
      refine ⟨final, by rw [List.foldl_cons, returned, reached], finalMember, ?_⟩
      exact fun address lower upper => (finalWords address lower upper).trans (words address lower upper)

/-- What a holder stored is there as long as it keeps the block and stores nothing else. -/
theorem heapRun_readBack (before : List HeapEvent) {later : List HeapEvent} {held : Held}
    {contents : Nat → BlockLink}
    (allowed : AllowedRun layout links (before ++ .write held contents :: later))
    (alone : ∀ event ∈ later, LeavesAlone held event) :
    ∃ use, heapRun layout links (before ++ .write held contents :: later) = some use ∧
      held ∈ use.held ∧ ∀ address, held.pointer ≤ address →
        address + xHeapStructSize ≤ held.pointer + held.wanted → use.heap.links address = contents address := by
  obtain ⟨early, here, late⟩ := (throughout_append ..).mp allowed
  obtain ⟨use, reached, sound⟩ := heapRun_sound early
  rw [← heapRun, reached] at here late
  have member : held ∈ use.held := here use rfl
  obtain ⟨free, inv⟩ : ∃ free, UseInvariant layout use free := by
    rcases sound with ⟨-, nothing⟩ | inv
    · simp [nothing] at member
    · exact inv
  have stored := inv.afterStore member contents
  obtain ⟨final, finished, stillHeld, words⟩ := sameWords_run stored.sound member late alone
  refine ⟨final, ?_, stillHeld, fun address lower upper => ?_⟩
  · rw [heapRun, List.foldl_append, ← heapRun, reached]
    exact finished
  · rw [words address lower upper]
    have inside : address < held.bytes.stop ∧ held.bytes.start < address + xHeapStructSize := by
      simp only [Held.bytes, Interval.stop, xHeapStructSize] at *
      omega
    simp only [Links.overwrite, if_pos inside]

theorem heapRun_readBack_sram :
    ∃ use, heapRun sramLayout zeroLinks
        [.malloc 8, .write ⟨0x24000010, 8, 16⟩ fun _ => ⟨1, 2⟩, .malloc 20, .free 0] = some use ∧
      ⟨0x24000010, 8, 16⟩ ∈ use.held ∧ ∀ address, 0x24000010 ≤ address →
        address + xHeapStructSize ≤ 0x24000010 + 8 → use.heap.links address = ⟨1, 2⟩ :=
  heapRun_readBack [.malloc 8] (by decide +kernel) (by simp [LeavesAlone])

/-! The statistics. -/

def heldBytes (held : List Held) : Nat := total (held.map Held.block)

theorem UseInvariant.bytes {free : List Interval} (inv : UseInvariant layout use free) :
    use.heap.xFreeBytesRemaining + heldBytes use.held = layout.pxEnd - layout.pucAlignedHeap := by
  have whole := inv.heap.whole
  rw [inv.heap.remaining, ← whole, heldBytes]

theorem Served.counters {free : List Interval} {event : HeapEvent} {next : HeapUse}
    (served : Served use free event next)
    (counted : use.heap.xNumberOfSuccessfulAllocations - use.heap.xNumberOfSuccessfulFrees =
      UInt32.ofNat use.held.length) :
    next.heap.xNumberOfSuccessfulAllocations - next.heap.xNumberOfSuccessfulFrees =
      UInt32.ofNat next.held.length := by
  cases served with
  | refused => exact counted
  | null => exact counted
  | stored => exact counted
  | granted _ _ _ _ allocations frees =>
      simp only [allocations, frees, List.length_cons, UInt32.ofNat_add, ← counted]
      grind
  | freed _ taken _ _ allocations frees =>
      simp only [taken.length_eq, List.length_cons, UInt32.ofNat_add] at counted
      simp only [allocations, frees]
      grind

theorem Served.minimum {free freeAfter : List Interval} {event : HeapEvent} {next : HeapUse}
    (served : Served use free event next) (inv : UseInvariant layout use free)
    (nextInv : UseInvariant layout next freeAfter)
    (low : use.heap.xMinimumEverFreeBytesRemaining ≤ use.heap.xFreeBytesRemaining) :
    next.heap.xMinimumEverFreeBytesRemaining =
      min use.heap.xMinimumEverFreeBytesRemaining next.heap.xFreeBytesRemaining := by
  cases served with
  | refused => exact (Nat.min_eq_left low).symm
  | null => exact (Nat.min_eq_left low).symm
  | stored => exact (Nat.min_eq_left low).symm
  | granted _ _ _ minimum => exact minimum
  | freed _ taken _ minimum =>
      have before := inv.bytes
      have after := nextInv.bytes
      have fewer := total_perm (taken.map Held.block)
      rw [minimum]
      refine (Nat.min_eq_left (Nat.le_trans low ?_)).symm
      simp only [List.map_cons, total_cons, heldBytes] at *
      omega

/-- What was free at some time of the run, once the heap was set up. -/
def remained (layout : Layout) (links : Links) (events : List HeapEvent) : Set Nat :=
  {bytes | ∃ before after use, events = before ++ after ∧ heapRun layout links before = some use ∧
    use.heap.pxEnd ≠ 0 ∧ use.heap.xFreeBytesRemaining = bytes}

theorem mem_remained_snoc {event : HeapEvent} {bytes : Nat} :
    bytes ∈ remained layout links (events ++ [event]) ↔ bytes ∈ remained layout links events ∨
      ∃ use, heapRun layout links (events ++ [event]) = some use ∧ use.heap.pxEnd ≠ 0 ∧
        use.heap.xFreeBytesRemaining = bytes := by
  constructor
  · rintro ⟨before, after, use, split, reached, ready, same⟩
    rcases List.eq_nil_or_concat after with rfl | ⟨front, last, rfl⟩
    · rw [List.append_nil] at split
      exact .inr ⟨use, split ▸ reached, ready, same⟩
    · rw [List.concat_eq_append, ← List.append_assoc] at split
      obtain ⟨rfl, -⟩ := List.append_inj' split rfl
      exact .inl ⟨before, front, use, rfl, reached, ready, same⟩
  · rintro (⟨before, after, use, rfl, reached, ready, same⟩ | ⟨use, reached, ready, same⟩)
    · exact ⟨before, after ++ [event], use, by simp, reached, ready, same⟩
    · exact ⟨events ++ [event], [], use, by simp, reached, ready, same⟩

theorem setUp_counters (layout : Layout) (use : HeapUse) : (use.setUp layout).heap.xNumberOfSuccessfulAllocations =
      use.heap.xNumberOfSuccessfulAllocations ∧
    (use.setUp layout).heap.xNumberOfSuccessfulFrees = use.heap.xNumberOfSuccessfulFrees := by
  rw [HeapUse.setUp]
  split <;> exact ⟨rfl, rfl⟩

theorem heapRun_counters (allowed : AllowedRun layout links events) :
    ∃ use, heapRun layout links events = some use ∧ Sound layout use ∧
      use.heap.xNumberOfSuccessfulAllocations - use.heap.xNumberOfSuccessfulFrees =
        UInt32.ofNat use.held.length := by
  have keeps : ∀ (state : Option HeapUse) (event : HeapEvent),
      (∃ use, state = some use ∧ Sound layout use ∧
        use.heap.xNumberOfSuccessfulAllocations - use.heap.xNumberOfSuccessfulFrees =
          UInt32.ofNat use.held.length) → Allowed state event →
        ∃ use, useStep layout state event = some use ∧ Sound layout use ∧
          use.heap.xNumberOfSuccessfulAllocations - use.heap.xNumberOfSuccessfulFrees =
            UInt32.ofNat use.held.length := by
    rintro _ event ⟨use, rfl, sound, counted⟩ allowed
    obtain ⟨next, _, _, returned, nextSound, -, -, served⟩ := sound.step_setUp allowed
    obtain ⟨allocations, frees⟩ := setUp_counters layout use
    obtain ⟨nextAllocations, nextFrees⟩ := setUp_counters layout next
    have nextCounted := served.counters (by rw [allocations, frees, sound.setUp.1, counted])
    rw [nextAllocations, nextFrees, nextSound.setUp.1] at nextCounted
    exact ⟨next, returned, nextSound, nextCounted⟩
  exact invariant_run keeps ⟨_, rfl, .inl ⟨rfl, rfl⟩, by simp [Heap.unused]⟩ allowed

/-- `xMinimumEverFreeBytesRemaining` is the least that was ever free since `prvHeapInit`. -/
theorem heapRun_lowest (allowed : AllowedRun layout links events) :
    ∃ use, heapRun layout links events = some use ∧ Sound layout use ∧
      (use.heap.pxEnd = 0 → remained layout links events = ∅) ∧
      (use.heap.pxEnd ≠ 0 →
        IsLeast (remained layout links events) use.heap.xMinimumEverFreeBytesRemaining) := by
  induction events using List.reverseRecOn with
  | nil =>
      refine ⟨_, rfl, .inl ⟨rfl, rfl⟩, fun _ => ?_, fun ready => absurd rfl ready⟩
      refine Set.eq_empty_of_forall_notMem ?_
      rintro bytes ⟨before, after, use, split, reached, ready, -⟩
      obtain ⟨rfl, -⟩ := List.append_eq_nil_iff.mp split.symm
      obtain rfl := Option.some.inj reached
      exact ready rfl
  | append_singleton events event ih =>
      obtain ⟨early, here, -⟩ := (throughout_append ..).mp allowed
      obtain ⟨use, reached, sound, unused, least⟩ := ih early
      rw [← heapRun, reached] at here
      obtain ⟨next, returned, step⟩ := sound.step here
      have reachedNext : heapRun layout links (events ++ [event]) = some next := by
        rw [heapRun, List.foldl_append, ← heapRun, reached]
        exact returned
      have current (ready : use.heap.pxEnd ≠ 0) :
          use.heap.xFreeBytesRemaining ∈ remained layout links events :=
        ⟨events, [], use, by simp, reached, ready, rfl⟩
      refine ⟨next, reachedNext, ?_⟩
      rcases step with ⟨rfl, rfl⟩ | ⟨free, freeAfter, inv, nextInv, served⟩
      · have same : remained layout links (events ++ [.free 0]) = remained layout links events := by
          ext bytes
          simp only [mem_remained_snoc, reachedNext, Option.some.injEq, exists_eq_left', or_iff_left_iff_imp]
          rintro ⟨ready, rfl⟩
          exact current ready
        rw [same]
        exact ⟨sound, unused, least⟩
      · have added : remained layout links (events ++ [event]) =
            remained layout links events ∪ {next.heap.xFreeBytesRemaining} := by
          ext bytes
          rw [Set.union_singleton, Set.mem_insert_iff, mem_remained_snoc]
          simp [reachedNext, nextInv.setUp_ne, or_comm, eq_comm]
        refine ⟨nextInv.sound, fun notReady => absurd notReady nextInv.setUp_ne, fun _ => ?_⟩
        rw [added]
        by_cases ready : use.heap.pxEnd = 0
        · have below : next.heap.xFreeBytesRemaining ≤
              (use.setUp layout).heap.xMinimumEverFreeBytesRemaining := by
            have := nextInv.bytes
            simp only [HeapUse.setUp, if_pos ready, prvHeapInit]
            omega
          have minimum := served.minimum inv nextInv (by simp [HeapUse.setUp, ready, prvHeapInit])
          rw [unused ready, Set.empty_union, minimum, Nat.min_eq_right below]
          exact isLeast_singleton
        · rw [HeapUse.setUp, if_neg ready] at inv served
          rw [served.minimum inv nextInv ((least ready).2 (current ready))]
          exact (least ready).union isLeast_singleton

/-- No byte is lost: what is free and what is held is all of the heap, as many blocks are held as
were handed out and not taken back, and the low-water mark is right. -/
theorem heapRun_accounts (allowed : AllowedRun layout links events) :
    ∃ use, heapRun layout links events = some use ∧
      use.heap.xNumberOfSuccessfulAllocations - use.heap.xNumberOfSuccessfulFrees =
        UInt32.ofNat use.held.length ∧
      (use.heap.pxEnd ≠ 0 →
        use.heap.xFreeBytesRemaining + heldBytes use.held = layout.pxEnd - layout.pucAlignedHeap ∧
        IsLeast (remained layout links events) use.heap.xMinimumEverFreeBytesRemaining) := by
  obtain ⟨use, reached, sound, -, least⟩ := heapRun_lowest allowed
  obtain ⟨same, again, -, counted⟩ := heapRun_counters allowed
  obtain rfl := Option.some.inj (again.symm.trans reached)
  refine ⟨same, reached, counted, fun ready => ⟨?_, least ready⟩⟩
  rcases sound with ⟨unused, -⟩ | ⟨free, inv⟩
  · exact absurd unused ready
  · exact inv.bytes

theorem heapRun_accounts_sram :
    ∃ use, heapRun sramLayout zeroLinks [.malloc 8, .malloc 20, .free 0x24000010] = some use ∧
      use.heap.xNumberOfSuccessfulAllocations - use.heap.xNumberOfSuccessfulFrees =
        UInt32.ofNat use.held.length ∧
      (use.heap.pxEnd ≠ 0 →
        use.heap.xFreeBytesRemaining + heldBytes use.held = sramLayout.pxEnd - sramLayout.pucAlignedHeap ∧
        IsLeast (remained sramLayout zeroLinks [.malloc 8, .malloc 20, .free 0x24000010])
          use.heap.xMinimumEverFreeBytesRemaining) :=
  heapRun_accounts (by decide +kernel)

end Runs

end SpeFramework.FreeRtos
