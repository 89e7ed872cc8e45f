import Mathlib.Data.List.Pairwise
import Mathlib.Algebra.BigOperators.Group.List.Basic

/-!
Intervals of natural numbers, and lists of them in ascending order with a gap between any two.
Such a list is determined by the cells it covers. Adding an interval beside its neighbours
merges it with those it touches.
-/

namespace Intervals

structure Interval where
  start : Nat
  size : Nat
  deriving DecidableEq, Repr

namespace Interval

def stop (interval : Interval) : Nat := interval.start + interval.size

def Covers (interval : Interval) (cell : Nat) : Prop :=
  interval.start ≤ cell ∧ cell < interval.stop

def Apart (first second : Interval) : Prop :=
  first.stop ≤ second.start ∨ second.stop ≤ first.start

@[simp] theorem stop_mk (start size : Nat) : (Interval.mk start size).stop = start + size := rfl

theorem Apart.symm {first second : Interval} (apart : first.Apart second) : second.Apart first :=
  Or.symm apart

instance : Std.Symm Apart := ⟨fun _ _ => Apart.symm⟩

theorem apart_iff {first second : Interval} (firstSize : 0 < first.size) (secondSize : 0 < second.size) :
    first.Apart second ↔ ∀ cell, first.Covers cell → ¬ second.Covers cell := by
  simp only [Apart, Covers, stop]
  constructor
  · intro apart cell inFirst inSecond
    omega
  · intro disjoint
    have atFirst := disjoint first.start
    have atSecond := disjoint second.start
    omega

theorem covers_own_start {interval : Interval} (inhabited : 0 < interval.size) :
    interval.Covers interval.start :=
  ⟨Nat.le_refl _, Nat.lt_add_of_pos_right inhabited⟩

end Interval

open Intervals.Interval

def Covers (intervals : List Interval) (cell : Nat) : Prop :=
  ∃ interval ∈ intervals, interval.Covers cell

def total : List Interval → Nat
  | [] => 0
  | interval :: intervals => interval.size + total intervals

structure Separated (intervals : List Interval) : Prop where
  inhabited : ∀ interval ∈ intervals, 0 < interval.size
  ascending : intervals.Pairwise fun first second => first.stop < second.start

@[simp] theorem covers_nil (cell : Nat) : ¬ Covers [] cell := by simp [Covers]

@[simp] theorem covers_cons (interval : Interval) (intervals : List Interval) (cell : Nat) :
    Covers (interval :: intervals) cell ↔ interval.Covers cell ∨ Covers intervals cell := by
  simp [Covers]

@[simp] theorem covers_append (first second : List Interval) (cell : Nat) :
    Covers (first ++ second) cell ↔ Covers first cell ∨ Covers second cell := by
  simp [Covers, or_and_right, exists_or]

@[simp] theorem total_nil : total [] = 0 := rfl

@[simp] theorem total_cons (interval : Interval) (intervals : List Interval) :
    total (interval :: intervals) = interval.size + total intervals := rfl

@[simp] theorem total_append (first second : List Interval) :
    total (first ++ second) = total first + total second := by
  induction first with
  | nil => simp
  | cons interval first ih => simp [ih, Nat.add_assoc]

theorem total_perm {first second : List Interval} (same : first.Perm second) :
    total first = total second := by
  induction same with
  | nil => rfl
  | cons interval _ ih => rw [total_cons, total_cons, ih]
  | swap one other rest => simp only [total_cons, Nat.add_left_comm]
  | trans _ _ first second => exact first.trans second

@[simp] theorem separated_nil : Separated [] := ⟨by simp, List.Pairwise.nil⟩

theorem separated_cons {interval : Interval} {intervals : List Interval} :
    Separated (interval :: intervals) ↔
      0 < interval.size ∧ (∀ later ∈ intervals, interval.stop < later.start) ∧
        Separated intervals := by
  constructor
  · intro separated
    obtain ⟨here, ascending⟩ := List.pairwise_cons.mp separated.ascending
    exact ⟨separated.inhabited _ (by simp), here,
      fun later member => separated.inhabited later (by simp [member]), ascending⟩
  · rintro ⟨inhabited, here, rest⟩
    refine ⟨?_, List.pairwise_cons.mpr ⟨here, rest.ascending⟩⟩
    simpa using ⟨inhabited, rest.inhabited⟩

theorem separated_append {first second : List Interval} :
    Separated (first ++ second) ↔
      Separated first ∧ Separated second ∧
        ∀ early ∈ first, ∀ late ∈ second, early.stop < late.start := by
  constructor
  · intro separated
    obtain ⟨front, back, across⟩ := List.pairwise_append.mp separated.ascending
    exact ⟨⟨fun one member => separated.inhabited one (by simp [member]), front⟩,
      ⟨fun one member => separated.inhabited one (by simp [member]), back⟩, across⟩
  · rintro ⟨front, back, across⟩
    refine ⟨fun one member => ?_, List.pairwise_append.mpr ⟨front.ascending, back.ascending, across⟩⟩
    rcases List.mem_append.mp member with member | member
    · exact front.inhabited one member
    · exact back.inhabited one member

theorem covers_start {intervals : List Interval} {interval : Interval} (member : interval ∈ intervals)
    (inhabited : 0 < interval.size) : Covers intervals interval.start :=
  ⟨interval, member, covers_own_start inhabited⟩

theorem Covers.beyond {interval : Interval} {intervals : List Interval} {cell : Nat}
    (later : ∀ other ∈ intervals, interval.stop < other.start) (covered : Covers intervals cell) :
    interval.stop < cell := by
  obtain ⟨other, member, lower, -⟩ := covered
  exact Nat.lt_of_lt_of_le (later other member) lower

/-- The cells that a separated list covers determine the list. -/
theorem Separated.ext {first second : List Interval} (left : Separated first)
    (right : Separated second) (same : ∀ cell, Covers first cell ↔ Covers second cell) :
    first = second := by
  induction first generalizing second with
  | nil =>
      cases second with
      | nil => rfl
      | cons head rest =>
          have inhabited := (separated_cons.mp right).1
          exact absurd ((same head.start).mpr (by simp [Interval.Covers, stop, inhabited])) (by simp)
  | cons head rest ih =>
      obtain ⟨headSize, headLater, restSeparated⟩ := separated_cons.mp left
      cases second with
      | nil =>
          exact absurd ((same head.start).mp (by simp [Interval.Covers, stop, headSize])) (by simp)
      | cons other others =>
          obtain ⟨otherSize, otherLater, othersSeparated⟩ := separated_cons.mp right
          simp only [covers_cons] at same
          have beyondHead (cell : Nat) : Covers rest cell → head.stop < cell := Covers.beyond headLater
          have beyondOther (cell : Nat) : Covers others cell → other.stop < cell :=
            Covers.beyond otherLater
          -- the two lists start at the same cell, and their first gaps are at the same cell
          have starts : head.start = other.start := by
            have atHead := same head.start
            have atOther := same other.start
            have := beyondHead other.start
            have := beyondOther head.start
            simp only [Interval.Covers, stop] at *
            grind
          have stops : head.stop = other.stop := by
            have atHead := same head.stop
            have atOther := same other.stop
            have := beyondHead other.stop
            have := beyondOther head.stop
            have := beyondHead head.stop
            have := beyondOther other.stop
            simp only [Interval.Covers, stop] at *
            grind
          have equal : head = other := by
            obtain ⟨start, size⟩ := head
            obtain ⟨otherStart, otherSize'⟩ := other
            simp only [stop_mk] at stops starts
            simp only [Interval.mk.injEq]
            omega
          subst equal
          congr 1
          refine ih restSeparated othersSeparated fun cell => ?_
          have here := same cell
          have := beyondHead cell
          have := beyondOther cell
          simp only [Interval.Covers] at *
          grind

theorem Separated.length_le_total {intervals : List Interval} (separated : Separated intervals) :
    intervals.length ≤ total intervals := by
  induction intervals with
  | nil => simp
  | cons head rest ih =>
      obtain ⟨inhabited, -, restSeparated⟩ := separated_cons.mp separated
      have := ih restSeparated
      simp only [List.length_cons, total_cons]
      omega

theorem size_le_total {interval : Interval} {intervals : List Interval}
    (member : interval ∈ intervals) : interval.size ≤ total intervals := by
  obtain ⟨before, after, rfl⟩ := List.append_of_mem member
  simp only [total_append, total_cons]
  omega

theorem Separated.sublist {some all : List Interval} (separated : Separated all)
    (sublist : some.Sublist all) : Separated some :=
  ⟨fun interval member => separated.inhabited interval (sublist.subset member),
    separated.ascending.sublist sublist⟩

/-- No two elements cover the same cell. -/
theorem Separated.not_covers {before after : List Interval} {interval : Interval} {cell : Nat}
    (separated : Separated (before ++ interval :: after)) (inside : interval.Covers cell) :
    ¬ Covers (before ++ after) cell := by
  obtain ⟨-, back, across⟩ := separated_append.mp separated
  obtain ⟨-, later, -⟩ := separated_cons.mp back
  rintro ⟨other, member, inOther⟩
  obtain ⟨lower, upper⟩ := inside
  obtain ⟨otherLower, otherUpper⟩ := inOther
  rcases List.mem_append.mp member with member | member
  · have := across other member interval (by simp)
    omega
  · have := later other member
    omega

theorem Separated.starts_ascending {intervals : List Interval} (separated : Separated intervals) :
    intervals.Pairwise fun one other => one.start < other.start :=
  separated.ascending.imp fun apart => Nat.lt_of_le_of_lt (Nat.le_add_right _ _) apart

/-- Consecutive covered cells lie in one element. -/
theorem Separated.contains {intervals : List Interval} (separated : Separated intervals)
    (run : Interval) (inhabited : 0 < run.size)
    (covered : ∀ cell, run.Covers cell → Covers intervals cell) :
    ∃ interval ∈ intervals, interval.start ≤ run.start ∧ run.stop ≤ interval.stop := by
  induction intervals with
  | nil =>
      exact absurd (covered run.start (by simp [Interval.Covers, stop, inhabited])) (by simp)
  | cons head rest ih =>
      obtain ⟨-, later, restSeparated⟩ := separated_cons.mp separated
      simp only [covers_cons] at covered
      by_cases inHead : head.Covers run.start
      · refine ⟨head, by simp, inHead.1, ?_⟩
        by_contra longer
        -- the cell behind the first element lies in the gap
        have behind := covered head.stop (by simp only [Interval.Covers, stop] at *; omega)
        rcases behind with behind | behind
        · exact absurd behind.2 (by omega)
        · exact absurd (Covers.beyond later behind) (by omega)
      · have first := (covered run.start (by simp [Interval.Covers, stop, inhabited])).resolve_left inHead
        have beyond := Covers.beyond later first
        obtain ⟨interval, member, inside⟩ := ih restSeparated fun cell inRun => by
          refine (covered cell inRun).resolve_left fun inFirst => ?_
          have lower := inRun.1
          have upper := inFirst.2
          omega
        exact ⟨interval, by simp [member], inside⟩

/-! An interval added to a separated list, none of whose cells it covers. -/

/-- `interval` in front of the list, as one with the first element if they touch. -/
def join (interval : Interval) : List Interval → List Interval
  | [] => [interval]
  | next :: rest =>
      if interval.stop = next.start then ⟨interval.start, interval.size + next.size⟩ :: rest
      else interval :: next :: rest

/-- `interval` between `last` and the list, as one with those it touches. -/
def glue (last interval : Interval) (after : List Interval) : List Interval :=
  if last.stop = interval.start then join ⟨last.start, last.size + interval.size⟩ after
  else last :: join interval after

theorem join_covers (interval : Interval) (after : List Interval) (cell : Nat) :
    Covers (join interval after) cell ↔ interval.Covers cell ∨ Covers after cell := by
  cases after with
  | nil => simp [join]
  | cons next rest =>
      simp only [join]
      split
      · rename_i touches
        simp only [stop] at touches
        simp only [covers_cons, Interval.Covers, stop]
        grind
      · simp

theorem glue_covers (last interval : Interval) (after : List Interval) (cell : Nat) :
    Covers (glue last interval after) cell ↔
      last.Covers cell ∨ interval.Covers cell ∨ Covers after cell := by
  simp only [glue]
  split
  · rename_i touches
    simp only [stop] at touches
    simp only [join_covers, Interval.Covers, stop]
    grind
  · simp [join_covers]

@[simp] theorem total_join (interval : Interval) (after : List Interval) :
    total (join interval after) = interval.size + total after := by
  cases after with
  | nil => simp [join]
  | cons next rest =>
      simp only [join]
      split <;> simp [Nat.add_assoc]

@[simp] theorem total_glue (last interval : Interval) (after : List Interval) :
    total (glue last interval after) = last.size + interval.size + total after := by
  simp only [glue]
  split <;> simp [Nat.add_assoc]

theorem mem_join_cases {interval other : Interval} {after : List Interval}
    (member : other ∈ join interval after) : other.start = interval.start ∨ other ∈ after := by
  cases after with
  | nil => simp_all [join]
  | cons next rest =>
      simp only [join] at member
      split at member
      all_goals
        simp only [List.mem_cons] at member ⊢
        grind

theorem start_le_of_mem_join {interval other : Interval} {after : List Interval}
    (later : ∀ next ∈ after, interval.stop ≤ next.start) (member : other ∈ join interval after) :
    interval.start ≤ other.start := by
  rcases mem_join_cases member with same | member
  · exact Nat.le_of_eq same.symm
  · exact Nat.le_trans (Nat.le_add_right _ _) (later other member)

/-- What holds of intervals and of two that are one holds of all that are in the list then. -/
theorem forall_mem_join {p : Interval → Prop} {interval : Interval} {after : List Interval}
    (merges : ∀ one other, p one → p other → p ⟨one.start, one.size + other.size⟩) (here : p interval)
    (all : ∀ next ∈ after, p next) : ∀ next ∈ Intervals.join interval after, p next := by
  cases after with
  | nil => simpa [Intervals.join] using here
  | cons next rest =>
      simp only [List.forall_mem_cons] at all
      simp only [Intervals.join]
      split
      · exact List.forall_mem_cons.mpr ⟨merges _ _ here all.1, all.2⟩
      · exact List.forall_mem_cons.mpr ⟨here, List.forall_mem_cons.mpr all⟩

theorem forall_mem_glue {p : Interval → Prop} {last interval : Interval} {after : List Interval}
    (merges : ∀ one other, p one → p other → p ⟨one.start, one.size + other.size⟩) (front : p last)
    (here : p interval) (all : ∀ next ∈ after, p next) :
    ∀ next ∈ Intervals.glue last interval after, p next := by
  simp only [Intervals.glue]
  split
  · exact forall_mem_join merges (merges _ _ front here) all
  · exact List.forall_mem_cons.mpr ⟨front, forall_mem_join merges here all⟩

theorem Separated.join {interval : Interval} {after : List Interval} (separated : Separated after)
    (inhabited : 0 < interval.size) (later : ∀ next ∈ after, interval.stop ≤ next.start) :
    Separated (join interval after) := by
  cases after with
  | nil => simpa [Intervals.join, separated_cons] using inhabited
  | cons next rest =>
      obtain ⟨nextSize, nextLater, restSeparated⟩ := separated_cons.mp separated
      have here := later next (by simp)
      simp only [Intervals.join]
      split
      · rename_i touches
        refine separated_cons.mpr ⟨Nat.add_pos_left inhabited _, ?_, restSeparated⟩
        intro other member
        have := nextLater other member
        simp only [stop] at *
        omega
      · rename_i gap
        refine separated_cons.mpr ⟨inhabited, ?_, separated⟩
        intro other member
        rcases List.mem_cons.mp member with rfl | member
        · omega
        · have := nextLater other member
          simp only [stop] at *
          omega

theorem Separated.glue {before after : List Interval} {last interval : Interval}
    (separated : Separated (before ++ last :: after)) (inhabited : 0 < interval.size)
    (earlier : last.stop ≤ interval.start) (later : ∀ next ∈ after, interval.stop ≤ next.start) :
    Separated (before ++ glue last interval after) := by
  obtain ⟨front, back, across⟩ := separated_append.mp separated
  obtain ⟨lastSize, lastLater, afterSeparated⟩ := separated_cons.mp back
  rw [Intervals.glue]
  split
  · rename_i touches
    have joinedLater : ∀ next ∈ after,
        (Interval.mk last.start (last.size + interval.size)).stop ≤ next.start := by
      intro next member
      have := later next member
      simp only [stop] at *
      omega
    refine separated_append.mpr ⟨front, afterSeparated.join
      (Nat.add_pos_left lastSize _) joinedLater, ?_⟩
    intro early early_mem late late_mem
    have := across early early_mem last (by simp)
    have := start_le_of_mem_join joinedLater late_mem
    simp only at this
    omega
  · rename_i gap
    have joined := afterSeparated.join inhabited later
    refine separated_append.mpr ⟨front, separated_cons.mpr ⟨lastSize, ?_, joined⟩, ?_⟩
    · intro next member
      have := start_le_of_mem_join later member
      omega
    · intro early early_mem late late_mem
      have here := across early early_mem last (by simp)
      rcases List.mem_cons.mp late_mem with rfl | late_mem
      · exact here
      · have := start_le_of_mem_join later late_mem
        simp only [stop] at *
        omega

end Intervals
