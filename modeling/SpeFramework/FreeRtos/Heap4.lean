import Mathlib.Logic.Function.Basic

/-!
`heap_4.c`, the heap behind `pvPortMalloc` and `vPortFree`. Memory is seen by the headers that
may lie in it: a word of eight bytes at every address, read as a `BlockLink_t`. A call answers
`none` where it does not return, in a `configASSERT` or in a walk along the free list that does
not end. The scheduler is suspended during a call, so calls are atomic.
-/

namespace SpeFramework.FreeRtos

abbrev configTotalHeapSize : Nat := 262144
abbrev portByteAlignment : Nat := 8
abbrev xHeapStructSize : Nat := 8
abbrev heapMinimumBlockSize : Nat := 16

abbrev xBlockAllocatedBit : Nat := 1 <<< 31

structure BlockLink where
  pxNextFreeBlock : Nat
  xBlockSize : Nat
  deriving DecidableEq, Repr

structure Links where
  header : Nat → BlockLink

instance : CoeFun Links fun _ => Nat → BlockLink := ⟨Links.header⟩

def Links.set (block : Nat) (header : BlockLink) (links : Links) : Links :=
  ⟨Function.update links block header⟩

@[simp] theorem Links.set_same (block : Nat) (header : BlockLink) (links : Links) :
    links.set block header block = header := by
  simp [Links.set]

theorem Links.set_other {block other : Nat} (header : BlockLink) (links : Links)
    (different : other ≠ block) : links.set block header other = links other := by
  simp [Links.set, different]

structure Layout where
  ucHeap : Nat
  xStart : Nat
  notNull : 0 < ucHeap
  apart : xStart + xHeapStructSize ≤ ucHeap ∨ ucHeap + configTotalHeapSize ≤ xStart

structure Heap where
  links : Links
  pxEnd : Nat
  xFreeBytesRemaining : Nat
  xMinimumEverFreeBytesRemaining : Nat
  xNumberOfSuccessfulAllocations : UInt32
  xNumberOfSuccessfulFrees : UInt32

/-- The static variables before the first call, over whatever the memory holds. -/
def Heap.unused (links : Links) : Heap where
  links := links
  pxEnd := 0
  xFreeBytesRemaining := 0
  xMinimumEverFreeBytesRemaining := 0
  xNumberOfSuccessfulAllocations := 0
  xNumberOfSuccessfulFrees := 0

def setNext (block next : Nat) (links : Links) : Links :=
  links.set block { links block with pxNextFreeBlock := next }

def setSize (block size : Nat) (links : Links) : Links :=
  links.set block { links block with xBlockSize := size }

/-- No list of free blocks is longer than the heap. -/
abbrev walkFuel : Nat := configTotalHeapSize

def Layout.pucAlignedHeap (layout : Layout) : Nat :=
  if layout.ucHeap % portByteAlignment ≠ 0 then
    (layout.ucHeap + (portByteAlignment - 1)) / portByteAlignment * portByteAlignment
  else layout.ucHeap

def Layout.pxEnd (layout : Layout) : Nat :=
  let xTotalHeapSize := configTotalHeapSize - (layout.pucAlignedHeap - layout.ucHeap)
  (layout.pucAlignedHeap + xTotalHeapSize - xHeapStructSize) / portByteAlignment * portByteAlignment

def prvHeapInit (layout : Layout) (heap : Heap) : Heap :=
  let pucAlignedHeap := layout.pucAlignedHeap
  let pxEnd := layout.pxEnd
  let links := heap.links.set layout.xStart ⟨pucAlignedHeap, 0⟩
  let links := links.set pxEnd ⟨0, 0⟩
  let links := links.set pucAlignedHeap ⟨pxEnd, pxEnd - pucAlignedHeap⟩
  { heap with
    links := links
    pxEnd := pxEnd
    xFreeBytesRemaining := pxEnd - pucAlignedHeap
    xMinimumEverFreeBytesRemaining := pxEnd - pucAlignedHeap }

/-- The `for` loop of `prvInsertBlockIntoFreeList`. -/
def findPosition (links : Links) (pxBlockToInsert : Nat) : Nat → Nat → Option Nat
  | 0, _ => none
  | fuel + 1, pxIterator =>
      if (links pxIterator).pxNextFreeBlock < pxBlockToInsert then
        findPosition links pxBlockToInsert fuel (links pxIterator).pxNextFreeBlock
      else some pxIterator

/-- The block as one with the block that follows it in the list, if they are contiguous. -/
def absorbFollowing (pxEnd pxBlockToInsert following : Nat) (links : Links) : Links :=
  if pxBlockToInsert + (links pxBlockToInsert).xBlockSize = following then
    if following ≠ pxEnd then
      setNext pxBlockToInsert (links following).pxNextFreeBlock
        (setSize pxBlockToInsert ((links pxBlockToInsert).xBlockSize + (links following).xBlockSize)
          links)
    else setNext pxBlockToInsert pxEnd links
  else setNext pxBlockToInsert following links

def linkBlock (pxEnd pxIterator pxBlockToInsert : Nat) (links : Links) : Links :=
  let contiguous := pxIterator + (links pxIterator).xBlockSize = pxBlockToInsert
  let links :=
    if contiguous then
      setSize pxIterator ((links pxIterator).xBlockSize + (links pxBlockToInsert).xBlockSize) links
    else links
  let pxBlockToInsert := if contiguous then pxIterator else pxBlockToInsert
  let links := absorbFollowing pxEnd pxBlockToInsert (links pxIterator).pxNextFreeBlock links
  if pxIterator ≠ pxBlockToInsert then setNext pxIterator pxBlockToInsert links else links

def prvInsertBlockIntoFreeList (layout : Layout) (pxEnd pxBlockToInsert : Nat) (links : Links) :
    Option Links :=
  (findPosition links pxBlockToInsert walkFuel layout.xStart).map fun pxIterator =>
    linkBlock pxEnd pxIterator pxBlockToInsert links

/-- The `while` loop of `pvPortMalloc`: `pxPreviousBlock` and `pxBlock` at its end. -/
def findBlock (links : Links) (xWantedSize : Nat) : Nat → Nat → Nat → Option (Nat × Nat)
  | 0, _, _ => none
  | fuel + 1, pxPreviousBlock, pxBlock =>
      if (links pxBlock).xBlockSize < xWantedSize ∧ (links pxBlock).pxNextFreeBlock ≠ 0 then
        findBlock links xWantedSize fuel pxBlock (links pxBlock).pxNextFreeBlock
      else some (pxPreviousBlock, pxBlock)

def blockSizeFor (xWantedSize : Nat) : Nat :=
  let xWantedSize := xWantedSize + xHeapStructSize
  if xWantedSize % portByteAlignment ≠ 0 then
    xWantedSize + (portByteAlignment - xWantedSize % portByteAlignment)
  else xWantedSize

def takeBlock (layout : Layout) (xWantedSize pxPreviousBlock pxBlock : Nat) (heap : Heap) :
    Option (Nat × Heap) :=
  let pvReturn := (heap.links pxPreviousBlock).pxNextFreeBlock + xHeapStructSize
  let links := setNext pxPreviousBlock (heap.links pxBlock).pxNextFreeBlock heap.links
  let split : Option Links :=
    if (links pxBlock).xBlockSize - xWantedSize > heapMinimumBlockSize then
      let pxNewBlockLink := pxBlock + xWantedSize
      if pxNewBlockLink % portByteAlignment = 0 then
        let links := setSize pxNewBlockLink ((links pxBlock).xBlockSize - xWantedSize) links
        let links := setSize pxBlock xWantedSize links
        prvInsertBlockIntoFreeList layout heap.pxEnd pxNewBlockLink links
      else none
    else some links
  match split with
  | none => none
  | some links =>
      let size := (links pxBlock).xBlockSize
      let xFreeBytesRemaining := heap.xFreeBytesRemaining - size
      if pvReturn % portByteAlignment = 0 then
        some (pvReturn,
          { links := links.set pxBlock ⟨0, size ||| xBlockAllocatedBit⟩
            pxEnd := heap.pxEnd
            xFreeBytesRemaining := xFreeBytesRemaining
            xMinimumEverFreeBytesRemaining :=
              if xFreeBytesRemaining < heap.xMinimumEverFreeBytesRemaining then xFreeBytesRemaining
              else heap.xMinimumEverFreeBytesRemaining
            xNumberOfSuccessfulAllocations := heap.xNumberOfSuccessfulAllocations + 1
            xNumberOfSuccessfulFrees := heap.xNumberOfSuccessfulFrees })
      else none

def mallocSetUp (layout : Layout) (xWantedSize : Nat) (heap : Heap) : Option (Nat × Heap) :=
  if xWantedSize &&& xBlockAllocatedBit = 0 then
    let xWantedSize := if 0 < xWantedSize then blockSizeFor xWantedSize else xWantedSize
    if 0 < xWantedSize ∧ xWantedSize ≤ heap.xFreeBytesRemaining then
      match findBlock heap.links xWantedSize walkFuel layout.xStart
          (heap.links layout.xStart).pxNextFreeBlock with
      | none => none
      | some (pxPreviousBlock, pxBlock) =>
          if pxBlock ≠ heap.pxEnd then takeBlock layout xWantedSize pxPreviousBlock pxBlock heap
          else some (0, heap)
    else some (0, heap)
  else some (0, heap)

/-- The pointer is 0 where the call answers `NULL`. -/
def pvPortMalloc (layout : Layout) (xWantedSize : Nat) (heap : Heap) : Option (Nat × Heap) :=
  mallocSetUp layout xWantedSize (if heap.pxEnd = 0 then prvHeapInit layout heap else heap)

def vPortFree (layout : Layout) (pv : Nat) (heap : Heap) : Option Heap :=
  if pv = 0 then some heap
  else
    let pxLink := pv - xHeapStructSize
    let header := heap.links pxLink
    if header.xBlockSize &&& xBlockAllocatedBit ≠ 0 ∧ header.pxNextFreeBlock = 0 then
      -- ~xBlockAllocatedBit, in 32 bits
      let size := header.xBlockSize &&& (xBlockAllocatedBit - 1)
      (prvInsertBlockIntoFreeList layout heap.pxEnd pxLink (setSize pxLink size heap.links)).map
        fun links =>
          { heap with
            links := links
            xFreeBytesRemaining := heap.xFreeBytesRemaining + size
            xNumberOfSuccessfulFrees := heap.xNumberOfSuccessfulFrees + 1 }
    else none

structure HeapStats where
  xAvailableHeapSpaceInBytes : Nat
  xSizeOfLargestFreeBlockInBytes : Nat
  xSizeOfSmallestFreeBlockInBytes : Nat
  xNumberOfFreeBlocks : Nat
  xMinimumEverFreeBytesRemaining : Nat
  xNumberOfSuccessfulAllocations : UInt32
  xNumberOfSuccessfulFrees : UInt32
  deriving DecidableEq, Repr

abbrev portMaxDelay : Nat := 0xFFFFFFFF

/-- The `do` loop of `vPortGetHeapStats`, with `xBlocks`, `xMaxSize` and `xMinSize`. It is lost
once it reads a block at `NULL`. -/
def countBlocks (links : Links) (pxEnd : Nat) : Nat → Nat → Nat → Nat → Nat → Option (Nat × Nat × Nat)
  | 0, _, _, _, _ => none
  | fuel + 1, pxBlock, xBlocks, xMaxSize, xMinSize =>
      if pxBlock = 0 then none
      else
        let block := links pxBlock
        let xMaxSize := if block.xBlockSize > xMaxSize then block.xBlockSize else xMaxSize
        let xMinSize := if block.xBlockSize < xMinSize then block.xBlockSize else xMinSize
        if block.pxNextFreeBlock ≠ pxEnd then
          countBlocks links pxEnd fuel block.pxNextFreeBlock (xBlocks + 1) xMaxSize xMinSize
        else some (xBlocks + 1, xMaxSize, xMinSize)

def vPortGetHeapStats (layout : Layout) (heap : Heap) : Option HeapStats :=
  let pxBlock := (heap.links layout.xStart).pxNextFreeBlock
  let counted :=
    if pxBlock ≠ 0 then countBlocks heap.links heap.pxEnd walkFuel pxBlock 0 0 portMaxDelay
    else some (0, 0, portMaxDelay)
  counted.map fun (xBlocks, xMaxSize, xMinSize) =>
    { xAvailableHeapSpaceInBytes := heap.xFreeBytesRemaining
      xSizeOfLargestFreeBlockInBytes := xMaxSize
      xSizeOfSmallestFreeBlockInBytes := xMinSize
      xNumberOfFreeBlocks := xBlocks
      xMinimumEverFreeBytesRemaining := heap.xMinimumEverFreeBytesRemaining
      xNumberOfSuccessfulAllocations := heap.xNumberOfSuccessfulAllocations
      xNumberOfSuccessfulFrees := heap.xNumberOfSuccessfulFrees }

end SpeFramework.FreeRtos
