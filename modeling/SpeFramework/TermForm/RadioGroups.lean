import SpeFramework.TermForm.Text
import SpeFramework.Lib.Runs
import Mathlib.Data.List.Nodup

/-!
The radio buttons of `radio_button.h`. What ties the buttons of one group together is a global
list of all buttons, in the order of their construction, and a 16 bit hash of the group's name.
-/

namespace SpeFramework.TermForm

structure RadioButton where
  /-- The address, which nothing else has while the button exists. -/
  id : Nat
  /-- The name it was created with. The code keeps the hash alone. -/
  group : Text
  groupHash : UInt16
  selected : Bool
  deriving DecidableEq, Repr

/-- `_radio_buttons`, and the address of the next button. -/
structure Registry where
  buttons : List RadioButton
  next : Nat
  deriving DecidableEq, Repr

inductive Operation
  | construct (group : Text)
  | copyConstruct (other : Nat)
  | copyAssign (target other : Nat)
  | input (button : Nat) (c : Int)
  | destroy (button : Nat)
  deriving DecidableEq, Repr

namespace RadioButton

def isSelected (button : RadioButton) : Bool := button.selected

def setSelected (selected : Bool) (button : RadioButton) : RadioButton :=
  if button.selected ≠ selected then { button with selected := selected } else button

def copyOf (other button : RadioButton) : RadioButton :=
  { button with group := other.group, groupHash := other.groupHash, selected := other.selected }

end RadioButton

namespace Registry

def empty : Registry := ⟨[], 0⟩

def find (s : Registry) (button : Nat) : Option RadioButton := s.buttons.find? fun e => e.id = button

def groupHasSelected (s : Registry) (groupHash : UInt16) : Bool :=
  s.buttons.any fun e => e.groupHash = groupHash && e.isSelected

def getSelected (s : Registry) (groupHash : UInt16) : Option RadioButton :=
  s.buttons.find? fun e => e.groupHash = groupHash && e.isSelected

def update (s : Registry) (button : Nat) (change : RadioButton → RadioButton) : Registry :=
  { s with buttons := s.buttons.map fun e => if e.id = button then change e else e }

def pushBack (s : Registry) (button : RadioButton) : Registry := ⟨s.buttons ++ [button], s.next + 1⟩

def erase (s : Registry) (button : Nat) : Registry :=
  { s with buttons := s.buttons.filter fun e => e.id ≠ button }

def select (s : Registry) (me : RadioButton) : Registry :=
  if !me.selected then
    let deselected := match s.getSelected me.groupHash with
      | some previous => s.update previous.id (RadioButton.setSelected false)
      | none => s
    deselected.update me.id (RadioButton.setSelected true)
  else s

variable (stringHash16 : Text → UInt16)

/-- One operation on the buttons. One on a button that does not exist is none. -/
def step (s : Registry) : Operation → Registry
  | .construct group =>
      let groupHash := stringHash16 group
      s.pushBack ⟨s.next, group, groupHash, !s.groupHasSelected groupHash⟩
  | .copyConstruct other =>
      match s.find other with
      | some other => s.pushBack (RadioButton.copyOf other ⟨s.next, [], 0, false⟩)
      | none => s
  | .copyAssign target other =>
      match s.find other with
      | some other => s.update target (RadioButton.copyOf other)
      | none => s
  | .input button c =>
      match s.find button with
      | some me => if c = 32 ∨ c = 13 then s.select me else s
      | none => s
  | .destroy button => s.erase button

def selectedIn (s : Registry) (group : Text) : Nat :=
  s.buttons.countP fun e => e.group = group && e.selected

/-- Every group with a button has exactly one selected. -/
def OneSelected (s : Registry) : Prop := ∀ b ∈ s.buttons, s.selectedIn b.group = 1

def operated (s : Registry) : Operation → Option Text
  | .construct group => some group
  | .copyConstruct button | .copyAssign button _ | .input button _ | .destroy button =>
      (s.find button).map RadioButton.group

/-- After the operation every group has its one selected button, and no button of another group
than the one operated on changed its flag. -/
structure Exclusive (s : Registry) (operation : Operation) : Prop where
  one : (s.step stringHash16 operation).OneSelected
  others : ∀ b ∈ s.buttons, some b.group ≠ s.operated operation →
    ∀ after ∈ (s.step stringHash16 operation).buttons, after.id = b.id → after.selected = b.selected

def Alone (s : Registry) (me : RadioButton) : Prop := ∀ b ∈ s.buttons, b.group = me.group → b.id = me.id

/-- Its own group's selected button is the first in the list that is selected under its hash. -/
def OwnFirst (s : Registry) (me : RadioButton) : Prop :=
  ∃ before own after, s.buttons = before ++ own :: after ∧ own.selected = true ∧
    own.group = me.group ∧ ∀ b ∈ before, b.groupHash = me.groupHash → b.selected = false

/-- A new group's name has a hash of its own, a selected button is neither copied nor taken from
its group, and a button's own group comes first among those of its hash. -/
def Allowed (s : Registry) : Operation → Prop
  | .construct group =>
      (∃ b ∈ s.buttons, b.group = group) ∨ ∀ b ∈ s.buttons, b.groupHash ≠ stringHash16 group
  | .copyConstruct other => ∀ o ∈ s.buttons, o.id = other → o.selected = false
  | .copyAssign target other =>
      target = other ∨ ∀ t ∈ s.buttons, t.id = target → ∀ o ∈ s.buttons, o.id = other →
        o.selected = false ∧ (t.selected = true → s.Alone t)
  | .input button c =>
      c = 32 ∨ c = 13 → ∀ b ∈ s.buttons, b.id = button → b.selected = true ∨ s.OwnFirst b
  | .destroy button => ∀ b ∈ s.buttons, b.id = button → b.selected = true → s.Alone b

structure WellFormed (s : Registry) : Prop where
  hashed : ∀ b ∈ s.buttons, b.groupHash = stringHash16 b.group
  distinct : (s.buttons.map RadioButton.id).Nodup
  fresh : ∀ b ∈ s.buttons, b.id < s.next

variable {stringHash16 : Text → UInt16} {s : Registry}

/-! What the buttons are after a change to one of them. -/

theorem eq_of_id (distinct : (s.buttons.map RadioButton.id).Nodup) {b c : RadioButton}
    (left : b ∈ s.buttons) (right : c ∈ s.buttons) (same : b.id = c.id) : b = c :=
  List.inj_on_of_nodup_map distinct left right same

theorem find_eq_some (distinct : (s.buttons.map RadioButton.id).Nodup) {b : RadioButton}
    (mem : b ∈ s.buttons) : s.find b.id = some b := by
  cases found : s.find b.id with
  | none =>
      have absent := List.find?_eq_none.mp found b mem
      simp at absent
  | some c =>
      have same := List.find?_some found
      rw [eq_of_id distinct (List.mem_of_find?_eq_some found) mem (by simpa using same)]

theorem find_spec {button : Nat} {b : RadioButton} (found : s.find button = some b) :
    b ∈ s.buttons ∧ b.id = button := by
  have same := List.find?_some found
  exact ⟨List.mem_of_find?_eq_some found, by simpa using same⟩

theorem find_none {button : Nat} (found : s.find button = none) {b : RadioButton}
    (mem : b ∈ s.buttons) : b.id ≠ button := by
  have absent := List.find?_eq_none.mp found b mem
  simpa using absent

theorem mem_update {button : Nat} {change : RadioButton → RadioButton} {b : RadioButton} :
    b ∈ (s.update button change).buttons ↔
      (b ∈ s.buttons ∧ b.id ≠ button) ∨ ∃ e ∈ s.buttons, e.id = button ∧ b = change e := by
  simp only [update, List.mem_map]
  constructor
  · rintro ⟨e, mem, rfl⟩
    by_cases here : e.id = button
    · exact .inr ⟨e, mem, here, if_pos here⟩
    · rw [if_neg here]
      exact .inl ⟨mem, here⟩
  · rintro (⟨mem, other⟩ | ⟨e, mem, here, rfl⟩)
    · exact ⟨b, mem, if_neg other⟩
    · exact ⟨e, mem, if_pos here⟩

theorem update_ids (s : Registry) (button : Nat) {change : RadioButton → RadioButton}
    (id : ∀ e, (change e).id = e.id) :
    (s.update button change).buttons.map RadioButton.id = s.buttons.map RadioButton.id := by
  rw [update, List.map_map]
  refine List.map_congr_left fun e _ => ?_
  rw [Function.comp_apply]
  split
  · exact id e
  · rfl

theorem split_at (distinct : (s.buttons.map RadioButton.id).Nodup) {t : RadioButton}
    (mem : t ∈ s.buttons) : ∃ before after, s.buttons = before ++ t :: after ∧
      (∀ b ∈ before, b.id ≠ t.id) ∧ ∀ b ∈ after, b.id ≠ t.id := by
  obtain ⟨before, after, split⟩ := List.append_of_mem mem
  rw [split, List.map_append, List.map_cons, List.nodup_append] at distinct
  obtain ⟨-, right, apart⟩ := distinct
  refine ⟨before, after, split, ?_, ?_⟩
  · intro b earlier
    exact apart b.id (List.mem_map_of_mem earlier) t.id List.mem_cons_self
  · intro b later same
    exact (List.nodup_cons.mp right).1 (same ▸ List.mem_map_of_mem later)

/-! How many buttons are selected after it. -/

def counts (b : RadioButton) (group : Text) : Nat := if b.group = group && b.selected then 1 else 0

theorem counts_eq_zero (b : RadioButton) (group : Text) :
    counts b group = 0 ↔ (b.group = group → b.selected = false) := by
  rw [counts]
  cases b.selected <;> simp

theorem selectedIn_pushBack (s : Registry) (b : RadioButton) (group : Text) :
    (s.pushBack b).selectedIn group = s.selectedIn group + counts b group := by
  simp [selectedIn, pushBack, counts, List.countP_cons]

theorem selectedIn_update (distinct : (s.buttons.map RadioButton.id).Nodup) {t : RadioButton}
    (mem : t ∈ s.buttons) (change : RadioButton → RadioButton) (group : Text) :
    (s.update t.id change).selectedIn group + counts t group =
      s.selectedIn group + counts (change t) group := by
  obtain ⟨before, after, split, earlier, later⟩ := split_at distinct mem
  have same {l : List RadioButton} (others : ∀ b ∈ l, b.id ≠ t.id) :
      (l.map fun e => if e.id = t.id then change e else e) = l :=
    (List.map_congr_left fun e inside => if_neg (others e inside)).trans (List.map_id' l)
  simp only [selectedIn, update, split, List.map_append, List.map_cons, same earlier, same later,
    if_true, List.countP_append, List.countP_cons, counts]
  omega

theorem selectedIn_erase (distinct : (s.buttons.map RadioButton.id).Nodup) {t : RadioButton}
    (mem : t ∈ s.buttons) (group : Text) :
    (s.erase t.id).selectedIn group + counts t group = s.selectedIn group := by
  obtain ⟨before, after, split, earlier, later⟩ := split_at distinct mem
  have same {l : List RadioButton} (others : ∀ b ∈ l, b.id ≠ t.id) :
      (l.filter fun e => e.id ≠ t.id) = l :=
    List.filter_eq_self.mpr fun e inside => decide_eq_true (others e inside)
  simp only [selectedIn, erase, split, List.filter_append, List.filter_cons, same earlier, same later,
    List.countP_append, List.countP_cons, counts]
  simp only [ne_eq, not_true_eq_false, decide_false, Bool.false_eq_true, if_false]
  omega

theorem selectedIn_eq_zero (s : Registry) (group : Text) :
    s.selectedIn group = 0 ↔ ∀ b ∈ s.buttons, b.group = group → b.selected = false := by
  simp [selectedIn, List.countP_eq_zero]

theorem OneSelected.unique (one : s.OneSelected) (distinct : (s.buttons.map RadioButton.id).Nodup)
    {b c : RadioButton} (left : b ∈ s.buttons) (right : c ∈ s.buttons) (group : b.group = c.group)
    (first : b.selected = true) (second : c.selected = true) : b.id = c.id := by
  by_contra apart
  have erased := selectedIn_erase distinct left b.group
  have here : counts b b.group = 1 := by simp [counts, first]
  have none : (s.erase b.id).selectedIn b.group = 0 := by
    have single := one b left
    omega
  have stays : c ∈ (s.erase b.id).buttons :=
    List.mem_filter.mpr ⟨right, decide_eq_true fun same => apart same.symm⟩
  have unselected := (selectedIn_eq_zero _ _).mp none c stays group.symm
  rw [second] at unselected
  exact absurd unselected (by simp)

theorem OneSelected.exists_selected (one : s.OneSelected) {b : RadioButton} (mem : b ∈ s.buttons) :
    ∃ c ∈ s.buttons, c.group = b.group ∧ c.selected = true := by
  have some : 0 < s.selectedIn b.group := by
    rw [one b mem]
    exact Nat.one_pos
  obtain ⟨c, inside, counted⟩ := List.countP_pos_iff.mp some
  exact ⟨c, inside, by simpa using counted⟩

/-! What every operation keeps. -/

theorem WellFormed.pushBack (formed : s.WellFormed stringHash16) (b : RadioButton)
    (id : b.id = s.next) (hashed : b.groupHash = stringHash16 b.group) :
    (s.pushBack b).WellFormed stringHash16 := by
  constructor
  · intro e mem
    rcases List.mem_append.mp mem with earlier | last
    · exact formed.hashed e earlier
    · rw [List.mem_singleton.mp last]
      exact hashed
  · rw [Registry.pushBack, List.map_append, List.nodup_append]
    refine ⟨formed.distinct, List.nodup_singleton _, ?_⟩
    intro other mem last new same
    obtain ⟨e, earlier, rfl⟩ := List.mem_map.mp mem
    have below := formed.fresh e earlier
    rw [List.map_singleton, List.mem_singleton] at new
    omega
  · intro e mem
    rcases List.mem_append.mp mem with earlier | last
    · exact Nat.lt_succ_of_lt (formed.fresh e earlier)
    · rw [List.mem_singleton.mp last, id]
      exact Nat.lt_succ_self _

theorem WellFormed.update (formed : s.WellFormed stringHash16) (button : Nat)
    (change : RadioButton → RadioButton) (id : ∀ e, (change e).id = e.id)
    (hashed : ∀ e ∈ s.buttons, (change e).groupHash = stringHash16 (change e).group) :
    (s.update button change).WellFormed stringHash16 := by
  constructor
  · intro b mem
    rcases mem_update.mp mem with ⟨same, -⟩ | ⟨e, inside, -, rfl⟩
    · exact formed.hashed b same
    · exact hashed e inside
  · rw [update_ids s button id]
    exact formed.distinct
  · intro b mem
    rcases mem_update.mp mem with ⟨same, -⟩ | ⟨e, inside, -, rfl⟩
    · exact formed.fresh b same
    · rw [id]
      exact formed.fresh e inside

theorem setSelected_id (selected : Bool) (b : RadioButton) : (b.setSelected selected).id = b.id := by
  rw [RadioButton.setSelected]
  split <;> rfl

theorem setSelected_group (selected : Bool) (b : RadioButton) :
    (b.setSelected selected).group = b.group := by
  rw [RadioButton.setSelected]
  split <;> rfl

theorem setSelected_groupHash (selected : Bool) (b : RadioButton) :
    (b.setSelected selected).groupHash = b.groupHash := by
  rw [RadioButton.setSelected]
  split <;> rfl

theorem setSelected_selected (selected : Bool) (b : RadioButton) :
    (b.setSelected selected).selected = selected := by
  rw [RadioButton.setSelected]
  split
  · rfl
  · exact Decidable.not_not.mp ‹_›

theorem WellFormed.setSelected (formed : s.WellFormed stringHash16) (button : Nat) (selected : Bool) :
    (s.update button (RadioButton.setSelected selected)).WellFormed stringHash16 := by
  refine formed.update button _ (setSelected_id selected) ?_
  intro e mem
  rw [setSelected_groupHash, setSelected_group]
  exact formed.hashed e mem

theorem WellFormed.select (formed : s.WellFormed stringHash16) (me : RadioButton) :
    (s.select me).WellFormed stringHash16 := by
  rw [Registry.select]
  split
  · split
    · exact (formed.setSelected _ false).setSelected _ true
    · exact formed.setSelected _ true
  · exact formed

theorem WellFormed.step (formed : s.WellFormed stringHash16) (operation : Operation) :
    (s.step stringHash16 operation).WellFormed stringHash16 := by
  cases operation with
  | construct group => exact formed.pushBack _ rfl rfl
  | copyConstruct other =>
      cases found : s.find other with
      | none => simpa only [Registry.step, found] using formed
      | some o =>
          have hashed := formed.hashed o (find_spec found).1
          simpa only [Registry.step, found] using
            formed.pushBack (RadioButton.copyOf o ⟨s.next, [], 0, false⟩) rfl hashed
  | copyAssign target other =>
      cases found : s.find other with
      | none => simpa only [Registry.step, found] using formed
      | some o =>
          have hashed := formed.hashed o (find_spec found).1
          simpa only [Registry.step, found] using
            formed.update target (RadioButton.copyOf o) (fun _ => rfl) fun _ _ => hashed
  | input button c =>
      cases found : s.find button with
      | none => simpa only [Registry.step, found] using formed
      | some me =>
          simp only [Registry.step, found]
          split
          · exact formed.select me
          · exact formed
  | destroy button =>
      constructor
      · exact fun b mem => formed.hashed b (List.mem_filter.mp mem).1
      · exact formed.distinct.sublist (List.filter_sublist.map _)
      · exact fun b mem => formed.fresh b (List.mem_filter.mp mem).1

/-! One operation: whether every group is left with one selected button. -/

theorem pushBack_shares_iff (one : s.OneSelected) (b : RadioButton) :
    (s.pushBack b).OneSelected ↔ (∀ e ∈ s.buttons, counts b e.group = 0) ∧
      s.selectedIn b.group + counts b b.group = 1 := by
  simp only [OneSelected, selectedIn_pushBack]
  constructor
  · intro all
    constructor
    · intro e mem
      have after := all e (List.mem_append_left _ mem)
      have before := one e mem
      omega
    · exact all b (List.mem_append_right _ List.mem_cons_self)
  · rintro ⟨others, new⟩ e mem
    rcases List.mem_append.mp mem with earlier | last
    · rw [one e earlier, others e earlier]
    · rw [List.mem_singleton.mp last]
      exact new

theorem pushBack_one_iff (one : s.OneSelected) (b : RadioButton) :
    (s.pushBack b).OneSelected ↔ (b.selected = false ↔ ∃ e ∈ s.buttons, e.group = b.group) := by
  have counted : counts b b.group = if b.selected then 1 else 0 := by simp [counts]
  rw [pushBack_shares_iff one]
  by_cases member : ∃ e ∈ s.buttons, e.group = b.group
  · obtain ⟨e, mem, same⟩ := member
    have single := one e mem
    rw [same] at single
    constructor
    · rintro ⟨-, total⟩
      have unselected : b.selected = false := by
        cases flag : b.selected with
        | false => rfl
        | true => simp [counted, flag, single] at total
      exact ⟨fun _ => ⟨e, mem, same⟩, fun _ => unselected⟩
    · intro agrees
      have unselected := agrees.mpr ⟨e, mem, same⟩
      refine ⟨fun e _ => (counts_eq_zero b _).mpr fun _ => unselected, ?_⟩
      simp [counted, unselected, single]
  · have new : ∀ e ∈ s.buttons, e.group ≠ b.group := fun e mem same => member ⟨e, mem, same⟩
    have empty : s.selectedIn b.group = 0 :=
      (s.selectedIn_eq_zero _).mpr fun e mem same => absurd same (new e mem)
    constructor
    · rintro ⟨-, total⟩
      refine ⟨fun unselected => ?_, fun some => absurd some member⟩
      simp [counted, unselected, empty] at total
    · intro agrees
      have selected : b.selected = true := by
        cases flag : b.selected with
        | false => exact absurd (agrees.mp flag) member
        | true => rfl
      refine ⟨fun e mem => (counts_eq_zero b _).mpr fun same => absurd same.symm (new e mem), ?_⟩
      simp [counted, selected, empty]

theorem groupHasSelected_iff (formed : s.WellFormed stringHash16) (one : s.OneSelected)
    (groupHash : UInt16) :
    s.groupHasSelected groupHash = true ↔ ∃ b ∈ s.buttons, b.groupHash = groupHash := by
  simp only [groupHasSelected, RadioButton.isSelected, List.any_eq_true, Bool.and_eq_true,
    decide_eq_true_eq]
  constructor
  · rintro ⟨b, mem, same, -⟩
    exact ⟨b, mem, same⟩
  · rintro ⟨b, mem, same⟩
    obtain ⟨c, inside, group, selected⟩ := one.exists_selected mem
    refine ⟨c, inside, ?_, selected⟩
    rw [formed.hashed c inside, group, ← formed.hashed b mem, same]

theorem construct_one_iff (formed : s.WellFormed stringHash16) (one : s.OneSelected) (group : Text) :
    (s.step stringHash16 (.construct group)).OneSelected ↔
      s.Allowed stringHash16 (.construct group) := by
  have shared : (∃ b ∈ s.buttons, b.group = group) →
      ∃ b ∈ s.buttons, b.groupHash = stringHash16 group := by
    rintro ⟨b, mem, same⟩
    exact ⟨b, mem, by rw [formed.hashed b mem, same]⟩
  simp only [step, Allowed, pushBack_one_iff one, Bool.not_eq_false',
    groupHasSelected_iff formed one]
  constructor
  · intro agrees
    by_cases hashed : ∃ b ∈ s.buttons, b.groupHash = stringHash16 group
    · exact .inl (agrees.mp hashed)
    · exact .inr fun b mem same => hashed ⟨b, mem, same⟩
  · rintro (member | none)
    · exact ⟨fun _ => member, shared⟩
    · exact ⟨fun ⟨b, mem, same⟩ => absurd same (none b mem), shared⟩

theorem copyConstruct_one_iff (formed : s.WellFormed stringHash16) (one : s.OneSelected)
    (other : Nat) :
    (s.step stringHash16 (.copyConstruct other)).OneSelected ↔
      s.Allowed stringHash16 (.copyConstruct other) := by
  cases found : s.find other with
  | none =>
      simp only [step, found, Allowed]
      exact ⟨fun _ o mem same => absurd same (find_none found mem), fun _ => one⟩
  | some o =>
      obtain ⟨mem, same⟩ := find_spec found
      simp only [step, found, Allowed, pushBack_one_iff one, RadioButton.copyOf]
      constructor
      · intro agrees e inside here
        rw [eq_of_id formed.distinct inside mem (here.trans same.symm)]
        exact agrees.mpr ⟨o, mem, rfl⟩
      · intro unselected
        exact ⟨fun _ => ⟨o, mem, rfl⟩, fun _ => unselected o mem same⟩

theorem update_find_none {button : Nat} (found : s.find button = none)
    (change : RadioButton → RadioButton) : s.update button change = s := by
  have same : (s.update button change).buttons = s.buttons :=
    (List.map_congr_left fun e mem => if_neg (find_none found mem)).trans (List.map_id' _)
  exact congrArg (fun buttons => Registry.mk buttons s.next) same

/-- A button assigned to: the groups of the other buttons are all there are afterwards. -/
theorem assign_one_iff (distinct : (s.buttons.map RadioButton.id).Nodup) (one : s.OneSelected)
    {t o : RadioButton} (target : t ∈ s.buttons) (other : o ∈ s.buttons) (apart : o.id ≠ t.id) :
    (s.update t.id (RadioButton.copyOf o)).OneSelected ↔
      ∀ b ∈ s.buttons, b.id ≠ t.id → counts t b.group = counts (RadioButton.copyOf o t) b.group := by
  have count (b : RadioButton) (mem : b ∈ s.buttons) :
      (s.update t.id (RadioButton.copyOf o)).selectedIn b.group = 1 ↔
        counts t b.group = counts (RadioButton.copyOf o t) b.group := by
    have total := selectedIn_update distinct target (RadioButton.copyOf o) b.group
    have single := one b mem
    omega
  constructor
  · intro all b mem different
    exact (count b mem).mp (all b (mem_update.mpr (.inl ⟨mem, different⟩)))
  · intro agrees b mem
    rcases mem_update.mp mem with ⟨inside, different⟩ | ⟨e, inside, here, rfl⟩
    · exact (count b inside).mpr (agrees b inside different)
    · exact (count o other).mpr (agrees o other apart)

theorem update_copyOf_self (distinct : (s.buttons.map RadioButton.id).Nodup) {o : RadioButton}
    (mem : o ∈ s.buttons) : (s.update o.id (RadioButton.copyOf o)).buttons = s.buttons := by
  refine Eq.trans (List.map_congr_left fun e member => ?_) (List.map_id' _)
  split
  · rename_i here
    rw [eq_of_id distinct member mem here]
    rfl
  · rfl

/-- What the share of a button becomes when it takes over those of another. -/
theorem shares_copyOf_iff (distinct : (s.buttons.map RadioButton.id).Nodup) (one : s.OneSelected)
    {t o : RadioButton} (target : t ∈ s.buttons) (other : o ∈ s.buttons) (apart : t.id ≠ o.id) :
    (∀ b ∈ s.buttons, b.id ≠ t.id → counts t b.group = counts (RadioButton.copyOf o t) b.group) ↔
      o.selected = false ∧ (t.selected = true → s.Alone t) := by
  constructor
  · intro agrees
    have unselected : o.selected = false := by
      -- a second selected button would have to be the target already
      by_contra selected
      rw [Bool.not_eq_false] at selected
      have share := agrees o other (Ne.symm apart)
      have member : t.group = o.group ∧ t.selected = true := by
        simpa [counts, RadioButton.copyOf, selected] using share
      exact apart (one.unique distinct target other member.1 member.2 selected)
    refine ⟨unselected, fun selected b member group => ?_⟩
    by_contra different
    have share := agrees b member different
    rw [(counts_eq_zero (RadioButton.copyOf o t) _).mpr fun _ => unselected, counts_eq_zero] at share
    rw [share group.symm] at selected
    exact absurd selected (by simp)
  · rintro ⟨unselected, alone⟩ b member different
    rw [(counts_eq_zero (RadioButton.copyOf o t) _).mpr fun _ => unselected, counts_eq_zero]
    intro group
    cases flag : t.selected with
    | false => rfl
    | true => exact absurd (alone flag b member group.symm) different

theorem copyAssign_one_iff (formed : s.WellFormed stringHash16) (one : s.OneSelected)
    (target other : Nat) :
    (s.step stringHash16 (.copyAssign target other)).OneSelected ↔
      s.Allowed stringHash16 (.copyAssign target other) := by
  cases source : s.find other with
  | none =>
      simp only [step, source, Allowed]
      exact ⟨fun _ => .inr fun t _ _ o mem same => absurd same (find_none source mem), fun _ => one⟩
  | some o =>
      obtain ⟨inside, rfl⟩ := find_spec source
      simp only [step, source, Allowed]
      cases found : s.find target with
      | none =>
          rw [update_find_none found]
          exact ⟨fun _ => .inr fun t mem same => absurd same (find_none found mem), fun _ => one⟩
      | some t =>
          obtain ⟨mem, rfl⟩ := find_spec found
          by_cases self : t.id = o.id
          · have kept := update_copyOf_self formed.distinct inside
            have same : (s.update t.id (RadioButton.copyOf o)).OneSelected ↔ s.OneSelected := by
              rw [self]
              simp only [OneSelected, selectedIn, kept]
            exact ⟨fun _ => .inl self, fun _ => same.mpr one⟩
          · rw [assign_one_iff formed.distinct one mem inside (Ne.symm self),
              shares_copyOf_iff formed.distinct one mem inside self]
            constructor
            · intro allowed
              refine .inr fun t' mem' same' o' inside' here' => ?_
              rw [eq_of_id formed.distinct mem' mem same',
                eq_of_id formed.distinct inside' inside here']
              exact allowed
            · rintro (same | allowed)
              · exact absurd same self
              · exact allowed t mem rfl o inside rfl

theorem destroy_one_iff (formed : s.WellFormed stringHash16) (one : s.OneSelected) (button : Nat) :
    (s.step stringHash16 (.destroy button)).OneSelected ↔
      s.Allowed stringHash16 (.destroy button) := by
  have stays {b : RadioButton} : b ∈ (s.erase button).buttons ↔ b ∈ s.buttons ∧ b.id ≠ button := by
    simp [erase]
  cases found : s.find button with
  | none =>
      have kept : (s.erase button).buttons = s.buttons :=
        List.filter_eq_self.mpr fun e mem => decide_eq_true (find_none found mem)
      simp only [step, Allowed, OneSelected, selectedIn, kept]
      exact ⟨fun _ b mem same => absurd same (find_none found mem), fun _ => one⟩
  | some t =>
      obtain ⟨mem, rfl⟩ := find_spec found
      have count (b : RadioButton) (member : b ∈ s.buttons) :
          (s.erase t.id).selectedIn b.group = 1 ↔ counts t b.group = 0 := by
        have total := selectedIn_erase formed.distinct mem b.group
        have single := one b member
        omega
      simp only [step, Allowed, OneSelected]
      constructor
      · intro all b member same selected e inside group
        rw [eq_of_id formed.distinct member mem same] at selected group ⊢
        by_contra different
        have none := (count e inside).mp (all e (stays.mpr ⟨inside, different⟩))
        rw [(counts_eq_zero t _).mp none group.symm] at selected
        exact absurd selected (by simp)
      · intro allowed b member
        obtain ⟨inside, different⟩ := stays.mp member
        refine (count b inside).mpr ((counts_eq_zero t _).mpr fun group => ?_)
        cases flag : t.selected with
        | false => rfl
        | true => exact absurd (allowed t mem rfl flag b inside group.symm) different

/-! Selecting: the first selected button under the hash gives way. -/

theorem getSelected_spec {groupHash : UInt16} {previous : RadioButton}
    (found : s.getSelected groupHash = some previous) :
    previous ∈ s.buttons ∧ previous.groupHash = groupHash ∧ previous.selected = true := by
  have facts := List.find?_some found
  rw [Bool.and_eq_true, decide_eq_true_eq] at facts
  exact ⟨List.mem_of_find?_eq_some found, facts⟩

theorem exists_getSelected (formed : s.WellFormed stringHash16) (one : s.OneSelected)
    {me : RadioButton} (mem : me ∈ s.buttons) :
    ∃ previous, s.getSelected me.groupHash = some previous := by
  obtain ⟨c, inside, group, selected⟩ := one.exists_selected mem
  cases found : s.getSelected me.groupHash with
  | some previous => exact ⟨previous, rfl⟩
  | none =>
      have absent := List.find?_eq_none.mp found c inside
      simp [RadioButton.isSelected, selected, formed.hashed c inside, group, formed.hashed me mem]
        at absent

theorem ownFirst_iff (formed : s.WellFormed stringHash16) {me previous : RadioButton}
    (mem : me ∈ s.buttons) (found : s.getSelected me.groupHash = some previous) :
    s.OwnFirst me ↔ previous.group = me.group := by
  constructor
  · rintro ⟨before, own, after, split, selected, group, first⟩
    have inside : own ∈ s.buttons := split ▸ List.mem_append_right _ List.mem_cons_self
    have own_found : s.getSelected me.groupHash = some own := by
      refine List.find?_eq_some_iff_append.mpr ⟨?_, before, after, split, fun b earlier => ?_⟩
      · simp [RadioButton.isSelected, selected, formed.hashed own inside, group, formed.hashed me mem]
      · by_cases same : b.groupHash = me.groupHash
        · simp [RadioButton.isSelected, first b earlier same]
        · simp [same]
    rw [Option.some.inj (found.symm.trans own_found)]
    exact group
  · intro group
    obtain ⟨counted, before, after, split, first⟩ := List.find?_eq_some_iff_append.mp found
    rw [Bool.and_eq_true] at counted
    refine ⟨before, previous, after, split, counted.2, group, fun b earlier same => ?_⟩
    simpa [RadioButton.isSelected, same] using first b earlier

/-- The count of every group after `me` took over from `previous`. -/
theorem selectedIn_select (distinct : (s.buttons.map RadioButton.id).Nodup) {me previous : RadioButton}
    (mem : me ∈ s.buttons) (unselected : me.selected = false)
    (found : s.getSelected me.groupHash = some previous) (group : Text) :
    (s.select me).selectedIn group + (if previous.group = group then 1 else 0) =
      s.selectedIn group + (if me.group = group then 1 else 0) := by
  obtain ⟨inside, -, selected⟩ := getSelected_spec found
  have apart : me.id ≠ previous.id := by
    intro same
    rw [eq_of_id distinct mem inside same, selected] at unselected
    exact absurd unselected (by simp)
  have kept : ((s.update previous.id (RadioButton.setSelected false)).buttons.map
      RadioButton.id).Nodup := by
    rw [update_ids s previous.id (setSelected_id false)]
    exact distinct
  have still : me ∈ (s.update previous.id (RadioButton.setSelected false)).buttons :=
    mem_update.mpr (.inl ⟨mem, apart⟩)
  have first := selectedIn_update distinct inside (RadioButton.setSelected false) group
  have second := selectedIn_update kept still (RadioButton.setSelected true) group
  have here : s.select me = (s.update previous.id (RadioButton.setSelected false)).update me.id
      (RadioButton.setSelected true) := by
    simp only [select, unselected, found, Bool.not_false, if_true]
  rw [here]
  simp only [counts, setSelected_group, setSelected_selected, unselected, selected, Bool.and_false,
    Bool.and_true, Bool.false_eq_true, if_false, decide_eq_true_eq] at first second
  omega

theorem mem_select {me b : RadioButton} (mem : b ∈ (s.select me).buttons) :
    ∃ e ∈ s.buttons, e.id = b.id ∧ e.group = b.group := by
  have back (s : Registry) (button : Nat) (selected : Bool) {b : RadioButton}
      (mem : b ∈ (s.update button (RadioButton.setSelected selected)).buttons) :
      ∃ e ∈ s.buttons, e.id = b.id ∧ e.group = b.group := by
    rcases mem_update.mp mem with ⟨inside, -⟩ | ⟨e, inside, -, rfl⟩
    · exact ⟨b, inside, rfl, rfl⟩
    · exact ⟨e, inside, (setSelected_id _ e).symm, (setSelected_group _ e).symm⟩
  rw [select] at mem
  split at mem
  · obtain ⟨e, inside, id, group⟩ := back _ _ _ mem
    split at inside
    · obtain ⟨e', inside', id', group'⟩ := back _ _ _ inside
      exact ⟨e', inside', id'.trans id, group'.trans group⟩
    · exact ⟨e, inside, id, group⟩
  · exact ⟨b, mem, rfl, rfl⟩

theorem select_one_iff (formed : s.WellFormed stringHash16) (one : s.OneSelected) {me : RadioButton}
    (mem : me ∈ s.buttons) :
    (s.select me).OneSelected ↔ me.selected = true ∨ s.OwnFirst me := by
  cases flag : me.selected with
  | true => simpa [select, flag] using one
  | false =>
      obtain ⟨previous, found⟩ := exists_getSelected formed one mem
      obtain ⟨inside, -, selected⟩ := getSelected_spec found
      have total := selectedIn_select formed.distinct mem flag found
      rw [ownFirst_iff formed mem found]
      simp only [Bool.false_eq_true, false_or]
      constructor
      · intro all
        by_contra other
        have itself : me ∈ (s.update previous.id (RadioButton.setSelected false)).buttons := by
          refine mem_update.mpr (.inl ⟨mem, fun same => other ?_⟩)
          rw [eq_of_id formed.distinct mem inside same]
        have after : me.setSelected true ∈ (s.select me).buttons := by
          simp only [select, flag, found, Bool.not_false, if_true]
          exact mem_update.mpr (.inr ⟨me, itself, rfl, rfl⟩)
        have counted := all _ after
        have before := one me mem
        have here := total me.group
        rw [setSelected_group] at counted
        rw [if_neg other, if_pos rfl] at here
        omega
      · intro group b after
        obtain ⟨e, earlier, -, same⟩ := mem_select after
        have before := one e earlier
        have here := total b.group
        rw [group] at here
        rw [← same] at here ⊢
        omega

theorem input_one_iff (formed : s.WellFormed stringHash16) (one : s.OneSelected) (button : Nat)
    (c : Int) :
    (s.step stringHash16 (.input button c)).OneSelected ↔
      s.Allowed stringHash16 (.input button c) := by
  cases found : s.find button with
  | none =>
      simp only [step, found, Allowed]
      exact ⟨fun _ _ b mem same => absurd same (find_none found mem), fun _ => one⟩
  | some me =>
      obtain ⟨mem, rfl⟩ := find_spec found
      simp only [step, found, Allowed]
      by_cases key : c = 32 ∨ c = 13
      · rw [if_pos key, select_one_iff formed one mem]
        constructor
        · intro own _ b member same
          rw [eq_of_id formed.distinct member mem same]
          exact own
        · exact fun allowed => allowed key me mem rfl
      · rw [if_neg key]
        exact ⟨fun _ pressed => absurd pressed key, fun _ => one⟩

/-! One operation: what it leaves of the other groups' flags. -/

theorem selected_kept (distinct : (s.buttons.map RadioButton.id).Nodup) {b after : RadioButton}
    (mem : b ∈ s.buttons) (inside : after ∈ s.buttons) (same : after.id = b.id) :
    after.selected = b.selected := by
  rw [eq_of_id distinct inside mem same]

theorem eq_of_mem_update (distinct : (s.buttons.map RadioButton.id).Nodup) {button : Nat}
    {change : RadioButton → RadioButton} (id : ∀ e, (change e).id = e.id) {b after : RadioButton}
    (mem : b ∈ s.buttons) (other : b.id ≠ button)
    (inside : after ∈ (s.update button change).buttons) (same : after.id = b.id) : after = b := by
  rcases mem_update.mp inside with ⟨kept, -⟩ | ⟨e, -, here, rfl⟩
  · exact eq_of_id distinct kept mem same
  · rw [id, here] at same
    exact absurd same.symm other

theorem others_select (formed : s.WellFormed stringHash16) {me b after : RadioButton}
    (own : me.selected = true ∨ s.OwnFirst me) (mem : me ∈ s.buttons) (inside : b ∈ s.buttons)
    (other : b.group ≠ me.group) (left : after ∈ (s.select me).buttons) (same : after.id = b.id) :
    after.selected = b.selected := by
  cases flag : me.selected with
  | true =>
      simp only [select, flag, Bool.not_true, Bool.false_eq_true, if_false] at left
      exact selected_kept formed.distinct inside left same
  | false =>
      have first := own.resolve_left (by simp [flag])
      have different : b.id ≠ me.id := fun here =>
        other (by rw [eq_of_id formed.distinct inside mem here])
      simp only [select, flag, Bool.not_false, if_true] at left
      cases found : s.getSelected me.groupHash with
      | none =>
          rw [found] at left
          rw [eq_of_mem_update formed.distinct (setSelected_id true) inside different left same]
      | some previous =>
          have group := (ownFirst_iff formed mem found).mp first
          have apart : b.id ≠ previous.id := fun here => other (by
            rw [eq_of_id formed.distinct inside (getSelected_spec found).1 here, group])
          rw [found] at left
          have still : b ∈ (s.update previous.id (RadioButton.setSelected false)).buttons :=
            mem_update.mpr (.inl ⟨inside, apart⟩)
          rw [eq_of_mem_update (formed.setSelected _ false).distinct (setSelected_id true) still different
            left same]

theorem others_step (formed : s.WellFormed stringHash16) {operation : Operation}
    (allowed : s.Allowed stringHash16 operation) {b after : RadioButton} (inside : b ∈ s.buttons)
    (other : some b.group ≠ s.operated operation)
    (left : after ∈ (s.step stringHash16 operation).buttons) (same : after.id = b.id) :
    after.selected = b.selected := by
  have pushed {new : RadioButton} (id : new.id = s.next) (left : after ∈ (s.pushBack new).buttons) :
      after.selected = b.selected := by
    rcases List.mem_append.mp left with earlier | last
    · exact selected_kept formed.distinct inside earlier same
    · have below := formed.fresh b inside
      rw [List.mem_singleton.mp last] at same
      omega
  cases operation with
  | construct group => exact pushed rfl left
  | copyConstruct source =>
      cases found : s.find source with
      | none =>
          simp only [step, found] at left
          exact selected_kept formed.distinct inside left same
      | some o =>
          simp only [step, found] at left
          refine pushed ?_ left
          rfl
  | copyAssign target source =>
      cases found : s.find source with
      | none =>
          simp only [step, found] at left
          exact selected_kept formed.distinct inside left same
      | some o =>
          simp only [step, found] at left
          have different : b.id ≠ target := by
            rintro rfl
            rw [operated, find_eq_some formed.distinct inside] at other
            exact other rfl
          have id (e : RadioButton) : (RadioButton.copyOf o e).id = e.id := rfl
          rw [eq_of_mem_update formed.distinct id inside different left same]
  | input button c =>
      cases found : s.find button with
      | none =>
          simp only [step, found] at left
          exact selected_kept formed.distinct inside left same
      | some me =>
          obtain ⟨mem, rfl⟩ := find_spec found
          simp only [step, found] at left
          have apart : b.group ≠ me.group := by
            intro group
            rw [operated, found, group] at other
            exact other rfl
          by_cases key : c = 32 ∨ c = 13
          · rw [if_pos key] at left
            exact others_select formed (allowed key me mem rfl) mem inside apart left same
          · rw [if_neg key] at left
            exact selected_kept formed.distinct inside left same
  | destroy button => exact selected_kept formed.distinct inside (List.mem_filter.mp left).1 same

theorem step_one_iff (formed : s.WellFormed stringHash16) (one : s.OneSelected)
    (operation : Operation) :
    (s.step stringHash16 operation).OneSelected ↔ s.Allowed stringHash16 operation := by
  cases operation with
  | construct group => exact construct_one_iff formed one group
  | copyConstruct other => exact copyConstruct_one_iff formed one other
  | copyAssign target other => exact copyAssign_one_iff formed one target other
  | input button c => exact input_one_iff formed one button c
  | destroy button => exact destroy_one_iff formed one button

theorem exclusive_iff (formed : s.WellFormed stringHash16) (one : s.OneSelected)
    (operation : Operation) :
    s.Exclusive stringHash16 operation ↔ s.Allowed stringHash16 operation := by
  constructor
  · intro exclusive
    exact (step_one_iff formed one operation).mp exclusive.one
  · intro allowed
    exact ⟨(step_one_iff formed one operation).mpr allowed,
      fun b inside other after left same => others_step formed allowed inside other left same⟩

end Registry

open Registry

/-- From the first button on, the groups stay exclusive exactly as long as every operation is
allowed. -/
theorem radio_exclusive_iff (stringHash16 : Text → UInt16) (operations : List Operation) :
    Runs.Throughout (step stringHash16) (Exclusive stringHash16) .empty operations ↔
      Runs.Throughout (step stringHash16) (Allowed stringHash16) .empty operations := by
  have same (s : Registry) (operation : Operation) (kept : s.WellFormed stringHash16 ∧ s.OneSelected) :
      s.Exclusive stringHash16 operation ↔ s.Allowed stringHash16 operation :=
    exclusive_iff kept.1 kept.2 operation
  have keeps (s : Registry) (operation : Operation) (kept : s.WellFormed stringHash16 ∧ s.OneSelected)
      (allowed : s.Allowed stringHash16 operation) :
      (s.step stringHash16 operation).WellFormed stringHash16 ∧
        (s.step stringHash16 operation).OneSelected :=
    ⟨kept.1.step operation, (step_one_iff kept.1 kept.2 operation).mpr allowed⟩
  have start : empty.WellFormed stringHash16 ∧ empty.OneSelected :=
    ⟨⟨fun b absent => absurd absent List.not_mem_nil, List.nodup_nil,
      fun b absent => absurd absent List.not_mem_nil⟩, fun b absent => absurd absent List.not_mem_nil⟩
  exact Runs.throughout_congr same keeps start operations

/-- A button, which is the selected one of its group, and a copy of it. -/
theorem copied_both_selected : ¬ ∀ (stringHash16 : Text → UInt16) (operations : List Operation),
    Runs.Throughout (step stringHash16) (Exclusive stringHash16) .empty operations := by
  intro all
  obtain ⟨-, copied, -⟩ := all (fun _ => 0) [.construct ['g'], .copyConstruct 0]
  have counted := copied.one ⟨0, ['g'], 0, true⟩ (by decide)
  exact absurd counted (by decide)

end SpeFramework.TermForm
