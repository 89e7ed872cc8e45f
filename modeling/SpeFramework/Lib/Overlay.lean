import Mathlib.Data.List.Induction

/-!
Layers painted one over the other. A picture can be brought up to date by painting some of its
layers again, when each new layer covers the one it replaces and none goes over a layer that is
left as it is.
-/

namespace Overlay

variable {P V ι : Type*}

abbrev Layer (P V : Type*) := P → Option V

def paint (screen : P → V) (layer : Layer P V) : P → V := fun p => (layer p).getD (screen p)

def Layer.atop (upper lower : Layer P V) : Layer P V := fun p => (upper p).or (lower p)

def Layer.Covers (layer : Layer P V) (p : P) : Prop := layer p ≠ none

def paintAll (layers : List (Layer P V)) (screen : P → V) : P → V := layers.foldl paint screen

theorem Layer.covers_atop (upper lower : Layer P V) (p : P) :
    (upper.atop lower).Covers p ↔ upper.Covers p ∨ lower.Covers p := by
  simp only [Covers, Layer.atop, ne_eq, Option.or_eq_none_iff]
  exact not_and_or

theorem paint_atop (screen : P → V) (upper lower : Layer P V) :
    paint screen (upper.atop lower) = paint (paint screen lower) upper := by
  funext p
  simp only [paint, Layer.atop]
  cases upper p <;> rfl

theorem paint_uncovered {layer : Layer P V} {p : P} (free : ¬ layer.Covers p) (screen : P → V) :
    paint screen layer p = screen p := by
  rw [Layer.Covers, not_not] at free
  rw [paint, free, Option.getD_none]

theorem paint_covered {layer : Layer P V} {p : P} (covered : layer.Covers p) (screen other : P → V) :
    paint screen layer p = paint other layer p := by
  obtain ⟨value, here⟩ := Option.ne_none_iff_exists'.mp covered
  simp only [paint, here, Option.getD_some]

theorem paintAll_append (first second : List (Layer P V)) (screen : P → V) :
    paintAll (first ++ second) screen = paintAll second (paintAll first screen) :=
  List.foldl_append

/-- What a point shows depends on what it showed before, and on nothing beside it. -/
theorem paintAll_congr {screen other : P → V} {p : P} (same : screen p = other p)
    (layers : List (Layer P V)) : paintAll layers screen p = paintAll layers other p := by
  induction layers generalizing screen other with
  | nil => exact same
  | cons layer layers ih =>
      apply ih
      rw [paint, paint, same]

theorem paintAll_uncovered {layers : List (Layer P V)} {p : P}
    (free : ∀ layer ∈ layers, ¬ layer.Covers p) (screen : P → V) :
    paintAll layers screen p = screen p := by
  induction layers generalizing screen with
  | nil => rfl
  | cons layer layers ih =>
      have here := paint_uncovered (free layer List.mem_cons_self) screen
      exact (ih (fun other later => free other (List.mem_cons_of_mem _ later)) _).trans here

/-- The last layer that covers a point is the one it shows. -/
theorem paintAll_top {before after : List (Layer P V)} {top : Layer P V} {p : P} {value : V}
    (here : top p = some value) (free : ∀ layer ∈ after, ¬ layer.Covers p) (screen : P → V) :
    paintAll (before ++ top :: after) screen p = value := by
  rw [paintAll_append]
  refine (paintAll_uncovered free _).trans ?_
  rw [paint, here, Option.getD_some]

/-- Some painted layers show one value at a point, and the screen or one of them does. -/
theorem paintAll_value {layers : List (Layer P V)} {p : P} {value : V}
    (same : ∀ layer ∈ layers, layer.Covers p → layer p = some value) {screen : P → V}
    (shown : screen p = value ∨ ∃ layer ∈ layers, layer.Covers p) :
    paintAll layers screen p = value := by
  induction layers generalizing screen with
  | nil => exact shown.resolve_right (by simp)
  | cons layer layers ih =>
      apply ih fun other later => same other (List.mem_cons_of_mem _ later)
      by_cases covered : layer.Covers p
      · refine .inl ?_
        rw [paint, same layer List.mem_cons_self covered, Option.getD_some]
      · rcases shown with before | ⟨other, member, covers⟩
        · exact .inl ((paint_uncovered covered screen).trans before)
        · rcases List.mem_cons.mp member with rfl | later
          · exact absurd covers covered
          · exact .inr ⟨other, later, covers⟩

theorem uncovered_or_top (new : ι → Layer P V) (items : List ι) (p : P) :
    (∀ item ∈ items, ¬ (new item).Covers p) ∨ ∃ before top after, items = before ++ top :: after ∧
      (new top).Covers p ∧ ∀ later ∈ after, ¬ (new later).Covers p := by
  induction items with
  | nil => exact .inl fun _ absent => absurd absent List.not_mem_nil
  | cons item items ih =>
      rcases ih with free | ⟨before, top, after, rfl, covers, free⟩
      · by_cases covered : (new item).Covers p
        · exact .inr ⟨[], item, items, rfl, covered, free⟩
        · exact .inl (List.forall_mem_cons.mpr ⟨covered, free⟩)
      · exact .inr ⟨item :: before, top, after, rfl, covers, free⟩

section Repaint

variable (old new : ι → Layer P V) (again : ι → Bool)

def repainted (items : List ι) : List (Layer P V) := (items.filter again).map new

/-- Where a layer covered a point, the new one does, or some layer that is painted again. -/
def StaysCovered (items : List ι) : Prop :=
  ∀ item ∈ items, ∀ p, (old item).Covers p →
    (new item).Covers p ∨ ∃ other ∈ items, again other = true ∧ (new other).Covers p

/-- Where a layer that is left as it is lies on top, those painted again below it show the same. -/
def TopsKept (items : List ι) : Prop :=
  ∀ before top after, items = before ++ top :: after → again top = false →
    ∀ p, (new top).Covers p → (∀ later ∈ after, ¬ (new later).Covers p) →
      ∀ earlier ∈ before, again earlier = true → (new earlier).Covers p → new earlier p = new top p

variable {old new again} {items : List ι}

theorem TopsKept.of_map {κ : Type*} {f : ι → κ} {new : κ → Layer P V} {again : κ → Bool}
    (tops : TopsKept new again (items.map f)) :
    TopsKept (fun item => new (f item)) (fun item => again (f item)) items := by
  rintro before top after rfl left p covered free earlier member chosen here
  refine tops (before.map f) (f top) (after.map f) (by simp) left p covered ?_ (f earlier)
    (List.mem_map_of_mem member) chosen here
  intro later inside
  obtain ⟨item, among, rfl⟩ := List.mem_map.mp inside
  exact free item among

theorem mem_repainted {layer : Layer P V} :
    layer ∈ repainted new again items ↔ ∃ item ∈ items, again item = true ∧ new item = layer := by
  simp only [repainted, List.mem_map, List.mem_filter, and_assoc]

theorem repainted_split (before after : List ι) (top : ι) :
    repainted new again (before ++ top :: after) = repainted new again before ++
      ((if again top = true then [new top] else []) ++ repainted new again after) := by
  rw [repainted, List.filter_append, List.map_append, List.filter_cons]
  split <;> rfl

theorem repainted_free {p : P} (free : ∀ item ∈ items, ¬ (new item).Covers p) :
    ∀ layer ∈ repainted new again items, ¬ layer.Covers p := by
  intro layer member
  obtain ⟨item, inside, -, rfl⟩ := mem_repainted.mp member
  exact free item inside

theorem StaysCovered.free (covers : StaysCovered old new again items) {p : P}
    (none : ∀ layer ∈ repainted new again items, ¬ layer.Covers p) {item : ι} (member : item ∈ items)
    (free : ¬ (new item).Covers p) : ¬ (old item).Covers p := by
  intro was
  rcases covers item member p was with is | ⟨other, among, chosen, is⟩
  · exact free is
  · exact none (new other) (mem_repainted.mpr ⟨other, among, chosen, rfl⟩) is

theorem repaint_uncovered (screen : P → V) (covers : StaysCovered old new again items) {p : P}
    (free : ∀ item ∈ items, ¬ (new item).Covers p) :
    paintAll (repainted new again items) (paintAll (items.map old) screen) p = screen p := by
  have none : ∀ layer ∈ repainted new again items, ¬ layer.Covers p := repainted_free free
  have free_old : ∀ layer ∈ items.map old, ¬ layer.Covers p :=
    List.forall_mem_map.mpr fun item inside => covers.free none inside (free item inside)
  rw [paintAll_uncovered none, paintAll_uncovered free_old]

theorem repaint_left (screen : P → V) {before after : List ι} {top : ι}
    (kept : new top = old top) (covers : StaysCovered old new again (before ++ top :: after))
    (left : again top = false) {p : P} {value : V} (here : new top p = some value)
    (free : ∀ later ∈ after, ¬ (new later).Covers p)
    (same : ∀ earlier ∈ before, again earlier = true → (new earlier).Covers p →
      new earlier p = new top p) :
    paintAll (repainted new again (before ++ top :: after))
      (paintAll ((before ++ top :: after).map old) screen) p = value := by
  have parts : repainted new again (before ++ top :: after) =
      repainted new again before ++ repainted new again after := by
    rw [repainted_split, if_neg (left ▸ Bool.false_ne_true), List.nil_append]
  have free_again : ∀ layer ∈ repainted new again after, ¬ layer.Covers p := repainted_free free
  rw [parts, paintAll_append, paintAll_uncovered free_again]
  have shown : ∀ layer ∈ repainted new again before, layer.Covers p → layer p = some value := by
    intro layer member below
    obtain ⟨item, inside, chosen, rfl⟩ := mem_repainted.mp member
    rw [same item inside chosen below, here]
  refine paintAll_value shown ?_
  by_cases below : ∃ layer ∈ repainted new again before, layer.Covers p
  · exact .inr below
  · -- no layer is painted again here, so the old ones show what they showed
    refine .inl ?_
    have none : ∀ layer ∈ repainted new again (before ++ top :: after), ¬ layer.Covers p := by
      intro layer member is
      rw [parts] at member
      rcases List.mem_append.mp member with earlier | later
      · exact below ⟨layer, earlier, is⟩
      · exact free_again layer later is
    have free_old : ∀ layer ∈ after.map old, ¬ layer.Covers p :=
      List.forall_mem_map.mpr fun item inside =>
        covers.free none (List.mem_append_right _ (List.mem_cons_of_mem _ inside)) (free item inside)
    rw [List.map_append, List.map_cons]
    refine paintAll_top ?_ free_old screen
    rw [← kept, here]

theorem repaint_eq (screen : P → V) (kept : ∀ item ∈ items, again item = false → new item = old item)
    (covers : StaysCovered old new again items) (tops : TopsKept new again items) :
    paintAll (repainted new again items) (paintAll (items.map old) screen) =
      paintAll (items.map new) screen := by
  funext p
  rcases uncovered_or_top new items p with free | ⟨before, top, after, rfl, covered, free⟩
  · rw [repaint_uncovered screen covers free, paintAll_uncovered (List.forall_mem_map.mpr free)]
  · obtain ⟨value, here⟩ := Option.ne_none_iff_exists'.mp covered
    have shown : paintAll ((before ++ top :: after).map new) screen p = value := by
      rw [List.map_append, List.map_cons]
      exact paintAll_top here (List.forall_mem_map.mpr free) screen
    rw [shown]
    cases painted : again top with
    | true =>
        rw [repainted_split, if_pos painted]
        exact paintAll_top here (repainted_free free) _
    | false =>
        have same := kept top (List.mem_append_right _ List.mem_cons_self) painted
        exact repaint_left screen same covers painted here free
          (tops before top after rfl painted p covered free)

theorem repaint_under (screen : P → V) (top : Layer P V)
    (kept : ∀ item ∈ items, again item = false → new item = old item)
    (covers : StaysCovered old new again items) (tops : TopsKept new again items) :
    paint (paintAll (repainted new again items) (paint (paintAll (items.map old) screen) top)) top =
      paint (paintAll (items.map new) screen) top := by
  funext p
  by_cases covered : top.Covers p
  · exact paint_covered covered _ _
  · rw [paint_uncovered covered, paint_uncovered covered, ← repaint_eq screen kept covers tops]
    exact paintAll_congr (paint_uncovered covered _) _

end Repaint

end Overlay
