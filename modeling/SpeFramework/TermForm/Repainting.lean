import SpeFramework.TermForm.Forms
import SpeFramework.Lib.Runs

/-!
A form that is painted again after each key, against the same form painted once on a cleared
terminal. A changed control is flagged, and its new text has to cover the old one.
-/

namespace SpeFramework.TermForm

open OrderedTree Overlay

/-! Texts that cover others. -/

/-- Painted in the same place, the new text leaves nothing of the old one. -/
def CoversText (old new : Text) : Prop :=
  ∀ x y cell, ((Head.start x y).written old).Covers cell → ((Head.start x y).written new).Covers cell

theorem CoversText.refl (text : Text) : CoversText text text := fun _ _ _ covered => covered

theorem coversText_front {old new : Text} (text : Text) (plain : Head.Plain old)
    (plain' : Head.Plain new) (same : old.length = new.length) :
    CoversText (old ++ text) (new ++ text) := by
  intro x y cell covered
  have closed : (Head.start x y).collected = none := rfl
  rw [Head.covers_append, Head.covers_plain closed plain, Head.after_plain closed plain,
    same] at covered
  rwa [Head.covers_append, Head.covers_plain closed plain', Head.after_plain closed plain']

theorem coversText_back {before old new : Text} (closed : opensFrom false before = false)
    (plain : Head.Plain old) (plain' : Head.Plain new) (longer : old.length ≤ new.length) :
    CoversText (before ++ old) (before ++ new) := by
  intro x y cell covered
  have ground : ((Head.start x y).after before).collected = none := by
    have state := Head.after_collected (Head.start x y) before
    rw [← Option.not_isSome_iff_eq_none, state]
    exact Bool.eq_false_iff.mp closed
  rw [Head.covers_append, Head.covers_plain ground plain] at covered
  rw [Head.covers_append, Head.covers_plain ground plain']
  rcases covered with ⟨line, least, most⟩ | earlier
  · exact .inl ⟨line, least, by omega⟩
  · exact .inr earlier

namespace Textfield

structure PrintsBehind (before : Text) (c : Char) : Prop where
  closed : opensFrom false before = false
  other : c ≠ esc
  inline : c ≠ '\n'

theorem plain_underscores (field : Textfield) (length : Nat) :
    Head.Plain (field.underscores length) := by
  intro c member
  rw [List.eq_of_mem_replicate member]
  decide

theorem PrintsBehind.plain {before : Text} {c : Char} (prints : PrintsBehind before c) {rest : Text}
    (plain : Head.Plain rest) : Head.Plain (c :: rest) :=
  List.forall_mem_cons.mpr ⟨⟨prints.other, prints.inline⟩, plain⟩

theorem underscores_length (field : Textfield) (length : Nat) :
    (field.underscores length).length =
      (field.inputWidth.toNat + 1 - asInt16 (UInt16.ofNat length)).toNat := List.length_replicate

/-- The place that a character more takes is that of an underscore at most. -/
theorem underscores_typed (field : Textfield) (length : Nat) :
    (field.underscores length).length ≤ (field.underscores (length + 1)).length + 1 := by
  have bounded := field.bounded
  simp only [underscores_length, asInt16, UInt16.toNat_ofNat']
  split <;> split <;> omega

theorem underscores_erased (field : Textfield) (length : Nat)
    (short : asInt16 (UInt16.ofNat length) ≤ field.inputWidth.toNat) :
    (field.underscores (length + 1)).length + 1 ≤ (field.underscores length).length := by
  have bounded := field.bounded
  simp only [underscores_length, asInt16, UInt16.toNat_ofNat'] at short ⊢
  split at short <;> split <;> omega

theorem typed_covers {field : Textfield} {text : Text} {c : Char}
    (prints : PrintsBehind (field.front ++ text) c) :
    CoversText (field.paint text) (field.paint (text ++ [c])) := by
  rw [paint, paint, List.length_append, List.length_singleton, ← List.append_assoc,
    List.append_assoc _ [c]]
  exact coversText_back prints.closed (field.plain_underscores _)
    (prints.plain (field.plain_underscores _)) (field.underscores_typed text.length)

theorem erased_covers {field : Textfield} {rest : Text} {last : Char}
    (prints : PrintsBehind (field.front ++ rest) last)
    (short : asInt16 (UInt16.ofNat rest.length) ≤ field.inputWidth.toNat) :
    CoversText (field.paint (rest ++ [last])) (field.paint rest) := by
  rw [paint, paint, List.length_append, List.length_singleton, ← List.append_assoc,
    List.append_assoc _ [last]]
  exact coversText_back prints.closed (prints.plain (field.plain_underscores _))
    (field.plain_underscores _) (field.underscores_erased rest.length short)

end Textfield

/-! What a key asks of the form. -/

namespace Form

/-- What the control at `path` paints behind some text goes to cells that the text covers too, or a
child of a column or a padding. -/
def CoveredBehind (s : Form) (path : Path) (before behind : Text) : Prop :=
  ∀ draw ∈ draws s.tree [] 1 1, draw.place = path → ∀ cell,
    (((Head.start draw.x.toNat draw.y.toNat).after before).written behind).Covers cell →
      ((Head.start draw.x.toNat draw.y.toNat).written before).Covers cell ∨
        ∃ other ∈ draws s.tree [] 1 1,
          other.place ≠ path ∧ other.inRow = false ∧ other.layer.Covers cell

/-- What is painted behind the text that stays is printed there again, or its cells are covered all
the same. -/
structure KeyFits (s : Form) (path : Path) (field : Textfield) (text : Text) (c : Int) : Prop where
  erases : c ≤ 255 → Textfield.charOf c = Textfield.backspace → ∀ rest last, text = rest ++ [last] →
    Textfield.PrintsBehind (field.front ++ rest) last ∧
        asInt16 (UInt16.ofNat rest.length) ≤ field.inputWidth.toNat ∨
      s.CoveredBehind path (field.front ++ rest) (last :: field.underscores text.length)
  types : c ≤ 255 → ¬ (Textfield.charOf c = Textfield.backspace ∧ text.length > 0) →
    field.accepts text (Textfield.charOf c) = true →
      Textfield.PrintsBehind (field.front ++ text) (Textfield.charOf c) ∨
        s.CoveredBehind path (field.front ++ text) (field.underscores text.length)

def KeyMeets (s : Form) (c : Int) : Prop :=
  ∀ path own field, followCursor (shape s.tree) [] s.focus = some path → s.leafAt path = some own →
    own.kind = .textfield field → s.KeyFits path field own.text c

/-- With a new text for the control at `path`, the cells of the old one are covered. -/
def PaintedOver (s : Form) (path : Path) (old new : Text) : Prop :=
  CoversText old new ∨ ∃ before behind, old = before ++ behind ∧ CoversText before new ∧
    s.CoveredBehind path before behind

end Form

theorem Form.PaintedOver.covered {s : Form} {path : Path} {old new : Text}
    (painted : s.PaintedOver path old new) {draw : Draw} (member : draw ∈ draws s.tree [] 1 1)
    (here : draw.place = path) {cell : Cell}
    (covered : ((Head.start draw.x.toNat draw.y.toNat).written old).Covers cell) :
    ((Head.start draw.x.toNat draw.y.toNat).written new).Covers cell ∨
      ∃ other ∈ draws s.tree [] 1 1,
        other.place ≠ path ∧ other.inRow = false ∧ other.layer.Covers cell := by
  rcases painted with covers | ⟨before, behind, split, covers, elsewhere⟩
  · exact .inl (covers _ _ cell covered)
  · rw [split, Head.covers_append] at covered
    rcases covered with later | earlier
    · rcases elsewhere draw member here cell later with earlier | other
      · exact .inl (covers _ _ cell earlier)
      · exact .inr other
    · exact .inl (covers _ _ cell earlier)

theorem coversText_append (first second : Text) : CoversText first (first ++ second) := by
  intro x y cell covered
  rw [Head.covers_append]
  exact .inr covered

theorem input_paintedOver {s : Form} {path : Path} {field : Textfield} {text after : Text} {c : Int}
    (fits : s.KeyFits path field text c) (typed : field.input text c = some after) :
    s.PaintedOver path (field.paint text) (field.paint after) := by
  rw [Textfield.input] at typed
  split at typed
  · simp at typed
  · rename_i small
    split at typed
    · rename_i erasing
      obtain rfl := Option.some.inj typed
      obtain ⟨rest, last, rfl⟩ := List.eq_nil_or_concat' text |>.resolve_left
        (List.ne_nil_of_length_pos erasing.2)
      rcases fits.erases (by omega) erasing.1 rest last rfl with ⟨prints, short⟩ | covered
      · rw [List.dropLast_concat]
        exact .inl (Textfield.erased_covers prints short)
      · rw [List.dropLast_concat]
        refine .inr ⟨field.front ++ rest, last :: field.underscores (rest ++ [last]).length, ?_, ?_,
          covered⟩
        · rw [Textfield.paint, ← List.append_assoc, List.append_assoc _ [last]]
          rfl
        · exact coversText_append _ _
    · rename_i typing
      split at typed
      · rename_i accepted
        obtain rfl := Option.some.inj typed
        rcases fits.types (by omega) typing accepted with prints | covered
        · exact .inl (Textfield.typed_covers prints)
        · refine .inr ⟨field.front ++ text, field.underscores text.length, rfl, ?_, covered⟩
          rw [Textfield.paint, ← List.append_assoc field.front text, List.append_assoc _ [_]]
          exact coversText_append _ _
      · simp at typed

/-! What a key changes. -/

/-- Controls that are not as before are flagged, and the cells that were covered still are, by the
same draw or by one that is painted each time. -/
structure ChangesTo (change : Path → Control → Control) (s after : Form) : Prop where
  keeps : ∀ place, Keeps (change place)
  tree : after.tree = relabel change id [] s.tree
  flagged : ∀ place own, s.leafAt place = some own →
    change place own = own ∨ after.focus.invalid place = true
  covered : ∀ draw ∈ draws s.tree [] 1 1, ∀ cell, draw.layer.Covers cell →
    ∃ other ∈ draws s.tree [] 1 1, (other = draw ∨ other.inRow = false) ∧
      (other.changed change).layer.Covers cell
  flags : KeepsFlags s.focus after.focus
  height : after.height = s.height
  status : after.status = s.status
  terminal : after.terminal = s.terminal

def Follows (s after : Form) : Prop := ∃ change, ChangesTo change s after

theorem keeps_self : Keeps fun own => own := ⟨fun _ => rfl, fun _ => rfl⟩

theorem changed_eq {change : Path → Control → Control} {draw : Draw}
    (same : ∀ own, draw.source = .control own → change draw.place own = own) :
    draw.changed change = draw := by
  rw [Draw.changed]
  split
  · rename_i own control
    simp only [same own control, ← control]
  · rfl

theorem leafAt_of_draw {s : Form} {draw : Draw} {own : Control} (member : draw ∈ draws s.tree [] 1 1)
    (control : draw.source = .control own) : s.leafAt draw.place = some own := by
  obtain ⟨rest, place, source⟩ := draws_of s.tree [] 1 1 draw member
  simp only [control] at source
  rw [Form.leafAt, place, List.nil_append, source]

theorem ChangesTo.draws {change : Path → Control → Control} {s after : Form}
    (changes : ChangesTo change s after) :
    draws after.tree [] 1 1 = (TermForm.draws s.tree [] 1 1).map (Draw.changed change) := by
  rw [changes.tree, draws_relabel changes.keeps]

theorem Follows.of_tree {s after : Form} (tree : after.tree = s.tree)
    (flags : KeepsFlags s.focus after.focus) (height : after.height = s.height)
    (status : after.status = s.status) (terminal : after.terminal = s.terminal) : Follows s after := by
  refine ⟨fun _ own => own, fun _ => keeps_self, by rw [relabel_self, tree], fun _ _ _ => .inl rfl, ?_,
    flags, height, status, terminal⟩
  intro draw member cell covered
  exact ⟨draw, member, .inl rfl, by rwa [changed_eq fun _ _ => rfl]⟩

theorem Follows.refl (s : Form) : Follows s s :=
  .of_tree rfl (KeepsFlags.refl s.focus) rfl rfl rfl

theorem leafAt_relabel {s after : Form} {change : Path → Control → Control}
    (tree : after.tree = relabel change id [] s.tree) (place : Path) :
    after.leafAt place = (s.leafAt place).map (change place) := by
  rw [Form.leafAt, Form.leafAt, tree, subtree_relabel, List.nil_append]
  cases subtree place s.tree with
  | none => rfl
  | some found => cases found <;> rfl

theorem changed_changed (first second : Path → Control → Control) (draw : Draw) :
    (draw.changed first).changed second =
      draw.changed fun place own => second place (first place own) := by
  obtain ⟨inRow, place, x, y, source⟩ := draw
  cases source <;> rfl

theorem changed_inRow (change : Path → Control → Control) (draw : Draw) :
    (draw.changed change).inRow = draw.inRow := by
  rw [Draw.changed]
  split <;> rfl

theorem Follows.trans {first second third : Form} (left : Follows first second)
    (right : Follows second third) : Follows first third := by
  obtain ⟨change, left⟩ := left
  obtain ⟨change', right⟩ := right
  refine ⟨fun place own => change' place (change place own), fun place => ?_, ?_, ?_, ?_,
    left.flags.trans right.flags, right.height.trans left.height, right.status.trans left.status,
    right.terminal.trans left.terminal⟩
  · constructor
    · exact fun own => ((right.keeps place).size _).trans ((left.keeps place).size own)
    · exact fun own => ((right.keeps place).focusable _).trans ((left.keeps place).focusable own)
  · rw [right.tree, left.tree, relabel_relabel]
    rfl
  · intro place own there
    have between : second.leafAt place = some (change place own) := by
      rw [leafAt_relabel left.tree, there]
      rfl
    rcases left.flagged place own there with same | flag
    · rw [same] at between
      rw [same]
      exact right.flagged place own between
    · exact .inr (right.flags place flag)
  · intro draw member cell covered
    obtain ⟨other, among, which, still⟩ := left.covered draw member cell covered
    have changed : other.changed change ∈ draws second.tree [] 1 1 := by
      rw [left.draws]
      exact List.mem_map_of_mem among
    obtain ⟨later, among', which', covers⟩ := right.covered _ changed cell still
    rw [left.draws] at among'
    obtain ⟨source, inside, rfl⟩ := List.mem_map.mp among'
    rw [changed_changed] at covers
    rw [changed_inRow] at which'
    rcases which' with same | always
    · -- the second change keeps the cell to the draw that the first one left it to
      refine ⟨other, among, which, ?_⟩
      rwa [← changed_changed, ← same, changed_changed]
    · exact ⟨source, inside, .inr always, covers⟩

theorem modify_follows {s : Form} {path : Path} {change : Control → Control} (keeps : Keeps change)
    (painted : ∀ own, s.leafAt path = some own → s.PaintedOver path own.string (change own).string) :
    Follows s (s.modify path change) := by
  refine ⟨_, fun place => ?_, rfl, ?_, ?_, invalidate_keepsFlags path s.focus, rfl, rfl, rfl⟩
  · by_cases here : place = path
    · simpa [here] using keeps
    · simpa [here] using keeps_self
  · intro place own there
    by_cases here : place = path
    · subst here
      exact .inr (invalidate_self place s.focus)
    · exact .inl (if_neg here)
  · intro draw member cell covered
    have others (other : Draw) (apart : other.place ≠ path) :
        other.changed (fun place own => if place = path then change own else own) = other :=
      changed_eq fun _ _ => if_neg apart
    by_cases here : draw.place = path
    · cases kind : draw.source with
      | padding count colors =>
          refine ⟨draw, member, .inl rfl, ?_⟩
          rwa [Draw.changed, kind]
      | control own =>
          have there : s.leafAt path = some own := here ▸ leafAt_of_draw member kind
          have old : draw.layer = (Head.start draw.x.toNat draw.y.toNat).written own.string := by
            rw [Draw.layer, Draw.text, kind]
          have new : (draw.changed fun place own => if place = path then change own else own).layer =
              (Head.start draw.x.toNat draw.y.toNat).written (change own).string := by
            simp only [Draw.changed, kind, here, if_true]
            rfl
          rw [old] at covered
          rcases (painted own there).covered member here covered with
            same | ⟨other, among, apart, always, covers⟩
          · exact ⟨draw, member, .inl rfl, by rwa [new]⟩
          · exact ⟨other, among, .inr always, by rwa [others other apart]⟩
    · exact ⟨draw, member, .inl rfl, by rwa [others draw here]⟩

theorem setChecked_covers (checked : Bool) (own : Control) :
    CoversText own.string (own.setChecked checked).string := by
  obtain ⟨kind, text, size, colors⟩ := own
  cases kind with
  | checkbox before =>
      refine coversText_front text ?_ ?_ ?_ <;> cases before <;> cases checked <;> decide
  | _ => exact CoversText.refl _

theorem setSelected_covers (selected : Bool) (own : Control) :
    CoversText own.string (own.setSelected selected).string := by
  obtain ⟨kind, text, size, colors⟩ := own
  cases kind with
  | radioButton groupHash before =>
      refine coversText_front text ?_ ?_ ?_ <;> cases before <;> cases selected <;> decide
  | _ => exact CoversText.refl _

theorem setSelected_follows (s : Form) (path : Path) (selected : Bool) :
    Follows s (s.modify path (Control.setSelected selected)) :=
  modify_follows (keeps_setSelected selected) fun own _ => .inl (setSelected_covers selected own)

theorem deselect_follows (s : Form) (index : Nat) : Follows s (s.deselect index) := by
  rw [Form.deselect]
  split
  · exact setSelected_follows s _ false
  · exact .of_tree rfl (KeepsFlags.refl s.focus) rfl rfl rfl
  · exact Follows.refl s

theorem select_follows (s : Form) (path : Path) (groupHash : UInt16) :
    Follows s (s.select path groupHash) := by
  rw [Form.select]
  refine Follows.trans ?_ (setSelected_follows _ path true)
  split
  · exact deselect_follows s _
  · exact Follows.refl s

theorem controlInput_follows {s : Form} {path : Path} {own : Control} {c : Int}
    (there : s.leafAt path = some own)
    (fits : ∀ field, own.kind = .textfield field → s.KeyFits path field own.text c) :
    Follows s (s.controlInput path own c).2 := by
  rw [Form.controlInput]
  split
  · exact Follows.refl s
  · exact Follows.refl s
  · rename_i field kind
    split
    · rename_i text typed
      refine modify_follows (keeps_setText text) fun found same => ?_
      obtain rfl := Option.some.inj (there.symm.trans same)
      have painted := input_paintedOver (fits field kind) typed
      simpa [Control.string, Control.setText, kind] using painted
    · exact Follows.refl s
  · split
    · exact modify_follows (keeps_setChecked _) fun found _ => .inl (setChecked_covers _ found)
    · exact Follows.refl s
  · split
    · simp only
      split
      · exact select_follows s path _
      · exact Follows.refl s
    · exact Follows.refl s

/-! Forms with the focus on one of their controls. -/

structure Ready (s : Form) : Prop where
  based : ∃ base components, s.tree = .node base components
  flagged : ContainersFlagged s.tree [] s.focus
  focused : WellFocused (shape s.tree) s.focus

theorem wellFocused_congr {base : Component} {state after : FocusState}
    (hasFocus : after.hasFocus = state.hasFocus) (cursor : after.cursor = state.cursor)
    (focused : WellFocused base state) : WellFocused base after := by
  obtain ⟨target, member, only, aimed⟩ := focused
  refine ⟨target, member, ⟨fun path => by rw [hasFocus]; exact only path, ?_⟩⟩
  intro way index rest split
  rw [cursor]
  exact aimed way index rest split

theorem shape_relabel {change : Path → Control → Control} (keeps : ∀ place, Keeps (change place))
    (tree : FormTree) : shape (relabel change id [] tree) = shape tree := by
  rw [shape, shape, relabel_relabel]
  congr 1
  funext place own
  exact (keeps place).focusable own

theorem relabel_node {change : Path → Control → Control} {place : Path} {tree : FormTree}
    {container : Container} {components : List FormTree}
    (there : subtree place (relabel change id [] tree) = some (.node container components)) :
    ∃ within, subtree place tree = some (.node container within) := by
  rw [subtree_relabel] at there
  cases before : subtree place tree with
  | none => simp [before] at there
  | some found =>
      cases found with
      | leaf own => simp [before, relabel] at there
      | node label within =>
          simp only [before, Option.map_some, relabel, Option.some.injEq, node.injEq, id] at there
          exact ⟨within, by rw [there.1]⟩

theorem Follows.ready {s after : Form} (follows : Follows s after) (ready : Ready s)
    (focused : WellFocused (shape s.tree) after.focus) : Ready after := by
  obtain ⟨change, changes⟩ := follows
  constructor
  · obtain ⟨base, components, node⟩ := ready.based
    exact ⟨base, relabelFrom change id [] 0 components, by rw [changes.tree, node]; rfl⟩
  · intro rest container components there
    rw [changes.tree] at there
    obtain ⟨within, before⟩ := relabel_node there
    exact changes.flags _ (ready.flagged rest container within before)
  · rw [changes.tree, shape_relabel changes.keeps]
    exact focused

theorem controlInput_focus (s : Form) (path : Path) (own : Control) (c : Int) :
    (s.controlInput path own c).2.focus.hasFocus = s.focus.hasFocus ∧
      (s.controlInput path own c).2.focus.cursor = s.focus.cursor := by
  have deselected (index : Nat) : (s.deselect index).focus.hasFocus = s.focus.hasFocus ∧
      (s.deselect index).focus.cursor = s.focus.cursor := by
    rw [Form.deselect]
    split <;> exact ⟨rfl, rfl⟩
  have selected (groupHash : UInt16) : (s.select path groupHash).focus.hasFocus = s.focus.hasFocus ∧
      (s.select path groupHash).focus.cursor = s.focus.cursor := by
    rw [Form.select]
    split
    · exact deselected _
    · exact ⟨rfl, rfl⟩
  rw [Form.controlInput]
  split
  · exact ⟨rfl, rfl⟩
  · exact ⟨rfl, rfl⟩
  · split <;> exact ⟨rfl, rfl⟩
  · split <;> exact ⟨rfl, rfl⟩
  · split
    · simp only
      split
      · exact selected _
      · exact ⟨rfl, rfl⟩
    · exact ⟨rfl, rfl⟩

theorem leafAt_focusable {s : Form} {target : Path} (member : target ∈ focusables (shape s.tree)) :
    ∃ own, s.leafAt target = some own := by
  have there := mem_focusables.mp member
  rw [shape, subtree_relabel] at there
  cases found : subtree target s.tree with
  | none => simp [found] at there
  | some component =>
      cases component with
      | leaf own => exact ⟨own, by rw [Form.leafAt, found]⟩
      | node container components => simp [found, relabel] at there

theorem input_ready {s : Form} {c : Int} (ready : Ready s) (meets : s.KeyMeets c) :
    ∃ after, s.input c = some after ∧ Follows s after ∧ Ready after := by
  obtain ⟨target, member, focused⟩ := ready.focused
  obtain ⟨own, there⟩ := leafAt_focusable member
  have reached := (focused.focusOn member).reached
  have answered := controlInput_follows there fun field kind =>
    meets target own field reached there kind
  obtain ⟨hasFocus, cursor⟩ := controlInput_focus s target own c
  have still := wellFocused_congr hasFocus cursor ready.focused
  obtain ⟨base, components, node⟩ := ready.based
  have shaped : shape s.tree = container base.kind
      (relabelFrom (fun _ own => own.focusable) Container.kind [] 0 components) := by
    rw [node]
    rfl
  rw [shaped] at still
  obtain ⟨focus, asked, moved⟩ := formCall_wellFocused (.key c (s.controlInput target own c).1) still
  rw [← shaped] at moved
  have called : formInput (shape s.tree) c (s.controlInput target own c).1
      (s.controlInput target own c).2.focus = some focus := by
    rw [shaped]
    exact asked
  have follows : Follows s { (s.controlInput target own c).2 with focus := focus } :=
    answered.trans (.of_tree rfl (formInput_keepsFlags called) rfl rfl rfl)
  refine ⟨_, ?_, follows, follows.ready ready moved⟩
  simp only [Form.input, reached, there, called, Option.map_some]

/-! What is on the terminal. -/

namespace Form

def statusLayer (s : Form) : Layer Cell Char :=
  (Head.start 0 (s.height - 1)).written (s.status.take maxStatusLength)

def screen (s : Form) : Cell → Char :=
  Overlay.paint (paintAll ((draws s.tree [] 1 1).map Draw.layer) fun _ => ' ') s.statusLayer

end Form

theorem paint_cells {s : Form} (ready : Ready s) (force : Bool) :
    (s.paint force).terminal.cells =
      Overlay.paint (paintAll (repainted Draw.layer (fun draw => draw.painted force s.focus)
        (draws s.tree [] 1 1)) (if force then fun _ => ' ' else s.terminal.cells)) s.statusLayer := by
  have string : (paintComponent force s.tree [] 1 1 s.focus).1.string =
      emittedAll force s.focus (draws s.tree [] 1 1) := by
    rw [paintComponent_string force s.tree [] 1 1 s.focus ready.flagged]
    obtain ⟨base, components, node⟩ := ready.based
    rw [node]
    rfl
  have cleared : ((if force then s.terminal.print getClearAll else s.terminal).print
      getHideCursor).cells = if force then fun _ => ' ' else s.terminal.cells := by
    rw [print_hideCursor]
    split
    · rw [print_clearAll]
      rfl
    · rfl
  rw [Form.paint, Form.displayStatus, string]
  change (Terminal.print _ (getColored 0 (s.height - 1) .standard .standard _)).cells = _
  rw [print_getColored]
  simp only
  rw [print_emittedAll, cleared]
  rfl

theorem paint_ready {s : Form} (ready : Ready s) (force : Bool) : Ready (s.paint force) := by
  have clears := paintComponent_clears force s.tree [] 1 1 s.focus
  refine ⟨ready.based, fun rest container components there => ?_,
    wellFocused_congr clears.hasFocus clears.cursor ready.focused⟩
  refine (clears.invalid _ ?_).trans (ready.flagged rest container components there)
  rintro ⟨rest', own, same, leaf⟩
  rw [List.append_cancel_left same] at there
  exact absurd (there.symm.trans leaf) (by simp)

theorem paint_true_cells {s : Form} (ready : Ready s) : (s.paint true).terminal.cells = s.screen := by
  have all : (fun draw : Draw => draw.painted true s.focus) = fun _ => true := by
    funext draw
    simp [Draw.painted]
  rw [paint_cells ready, repainted, all, List.filter_true]
  rfl

/-! One key and the painting after it. -/

/-- Where a control that is left out lies on top, what is painted again below shows the same. -/
def Form.TopsStay (s : Form) : Prop :=
  TopsKept Draw.layer (fun draw => draw.painted false s.focus) (draws s.tree [] 1 1)

theorem painted_changed (change : Path → Control → Control) (force : Bool) (state : FocusState)
    (draw : Draw) : (draw.changed change).painted force state = draw.painted force state := by
  rw [Draw.changed]
  split <;> rfl

theorem repainted_changed (change : Path → Control → Control) (state : FocusState) (list : List Draw) :
    repainted Draw.layer (fun draw => draw.painted false state) (list.map (Draw.changed change)) =
      repainted (fun draw => (draw.changed change).layer) (fun draw => draw.painted false state)
        list := by
  have same : ((fun draw => draw.painted false state) ∘ Draw.changed change) =
      fun draw => draw.painted false state := funext fun draw => painted_changed change false state draw
  rw [repainted, repainted, List.filter_map, List.map_map, same]
  rfl

/-- A draw that is left out is the one that was painted before. -/
theorem left_out_same {s after : Form} {change : Path → Control → Control}
    (changes : ChangesTo change s after) {draw : Draw} (member : draw ∈ draws s.tree [] 1 1)
    (left : draw.painted false after.focus = false) : draw.changed change = draw := by
  refine changed_eq fun own control => ?_
  rcases changes.flagged draw.place own (leafAt_of_draw member control) with same | flag
  · exact same
  · simp [Draw.painted, flag] at left

theorem repaint_agrees {s after : Form} (ready : Ready after) (follows : Follows s after)
    (shown : s.terminal.cells = s.screen) (tops : after.TopsStay) :
    (after.paint false).terminal.cells = after.screen := by
  obtain ⟨change, changes⟩ := follows
  have top : after.statusLayer = s.statusLayer := by
    rw [Form.statusLayer, Form.statusLayer, changes.height, changes.status]
  rw [Form.TopsStay, changes.draws] at tops
  rw [paint_cells ready, if_neg Bool.false_ne_true, changes.terminal, shown, Form.screen, Form.screen,
    changes.draws, repainted_changed, List.map_map, top]
  refine repaint_under _ s.statusLayer ?_ ?_ ?_
  · intro draw member left
    rw [left_out_same changes member left]
  · intro draw member cell covered
    obtain ⟨other, among, same | always, covers⟩ := changes.covered draw member cell covered
    · exact .inl (same ▸ covers)
    · exact .inr ⟨other, among, by simp [Draw.painted, always], covers⟩
  · have same := tops.of_map
    simp only [painted_changed] at same
    exact same

/-! Runs. -/

inductive Stroke
  | key (c : Int)
  | paint
  deriving DecidableEq, Repr

def Form.call (s : Form) : Stroke → Option Form
  | .key c => s.input c
  | .paint => some (s.paint false)

def formStep (s : Option Form) (stroke : Stroke) : Option Form := s.bind fun s => s.call stroke

/-- What a key asks of the form it finds, and what a painting asks. -/
def StrokeMeets : Option Form → Stroke → Prop
  | none, _ => True
  | some s, .key c => s.KeyMeets c
  | some s, .paint => s.TopsStay

def strokes (keys : List Int) : List Stroke := keys.flatMap fun c => [.key c, .paint]

/-- The terminal shows what painting the form once on a cleared terminal does. -/
def Form.Shown (s : Form) : Prop :=
  s.terminal.cells = (({ s with terminal := .blank } : Form).paint true).terminal.cells

theorem shown_of_screen {s : Form} (ready : Ready s) (screen : s.terminal.cells = s.screen) :
    s.Shown := by
  have blank : Ready { s with terminal := .blank } := ⟨ready.based, ready.flagged, ready.focused⟩
  exact screen.trans (paint_true_cells blank).symm

theorem strokes_agree {s : Form} (keys : List Int) (ready : Ready s)
    (shown : s.terminal.cells = s.screen)
    (meets : Runs.Throughout formStep StrokeMeets (some s) (strokes keys)) :
    ∃ last, (strokes keys).foldl formStep (some s) = some last ∧ last.Shown := by
  induction keys generalizing s with
  | nil => exact ⟨s, rfl, shown_of_screen ready shown⟩
  | cons c keys ih =>
      obtain ⟨key, painting, later⟩ := meets
      obtain ⟨typed, called, follows, ready_typed⟩ := input_ready ready key
      have first : formStep (some s) (.key c) = some typed := called
      have second : formStep (some typed) .paint = some (typed.paint false) := rfl
      rw [first] at painting later
      rw [second] at later
      have up_to_date := repaint_agrees ready_typed follows shown painting
      obtain ⟨last, run, agrees⟩ := ih (paint_ready ready_typed false) up_to_date later
      refine ⟨last, ?_, agrees⟩
      rw [strokes, List.flatMap_cons, List.foldl_append, List.foldl_cons, List.foldl_cons, first,
        second]
      exact run

theorem launch_ready {base : Container} {components : List FormTree} {radioButtons : List RadioEntry}
    {height : Nat} {height_pos : 0 < height} {status : Text} {terminal : Terminal}
    (some_focusable : focusables (shape (.node base components)) ≠ []) :
    Ready (.launch base components radioButtons height height_pos status terminal) := by
  refine ⟨⟨base, components, rfl⟩, ?_, giveFocus_wellFocused some_focusable fresh_quiet⟩
  intro rest container within there
  exact giveFocus_keepsFlags .forward (shape (.node base components)) [] .fresh rest rfl

/-- Every key is answered, and what is painted after it is what the form would be painted as, in
a form whose text fields are all bounded. -/
theorem form_repaints (base : Container) (components : List FormTree) (radioButtons : List RadioEntry)
    (height : Nat) (height_pos : 0 < height) (status : Text) (terminal : Terminal) (keys : List Int)
    (some_focusable : focusables (shape (.node base components)) ≠ [])
    (meets : Runs.Throughout formStep StrokeMeets
      (some ((Form.launch base components radioButtons height height_pos status terminal).paint true))
      (strokes keys)) :
    ∃ last, (strokes keys).foldl formStep
      (some ((Form.launch base components radioButtons height height_pos status terminal).paint
        true)) = some last ∧ last.Shown := by
  have ready : Ready (.launch base components radioButtons height height_pos status terminal) :=
    launch_ready some_focusable
  have painted := paint_true_cells ready
  exact strokes_agree keys (paint_ready ready true) painted meets

/-! A text field without width, in a row. -/

def narrowField : Textfield := ⟨[], [], 0, 0, by decide⟩

def narrowRow : List FormTree := [.leaf ⟨.textfield narrowField, [], ⟨0, 1⟩, .standard⟩]

def narrowForm : Form := .launch (.row .standard) narrowRow [] 24 (by decide) [] .blank

theorem single_topsStay {s : Form} {colors : Colors} {own : Control}
    (tree : s.tree = .node (.row colors) [.leaf own]) : s.TopsStay := by
  have list : draws s.tree [] 1 1 = [⟨true, [0], 1, 1, .control own⟩] := by
    rw [tree]
    rfl
  rw [Form.TopsStay, list]
  intro before top after split
  have length := congrArg List.length split
  have none : before = [] := by
    rw [List.length_singleton, List.length_append, List.length_cons] at length
    exact List.length_eq_zero_iff.mp (by omega)
  rw [none]
  intro _ _ _ _ earlier absent
  exact absurd absent List.not_mem_nil

theorem narrow_repaints : ∃ last,
    (strokes [97]).foldl formStep (some (narrowForm.paint true)) = some last ∧ last.Shown := by
  have key : StrokeMeets (some (narrowForm.paint true)) (.key 97) := by
    intro path own field reached there kind
    have focus : followCursor (shape (narrowForm.paint true).tree) [] (narrowForm.paint true).focus =
        some [0] := rfl
    obtain rfl := Option.some.inj (focus.symm.trans reached)
    obtain rfl := Option.some.inj there
    obtain rfl := ControlKind.textfield.inj kind
    refine ⟨fun _ erasing => absurd erasing (by decide), fun _ _ _ => .inl ?_⟩
    exact ⟨by decide, by decide, by decide⟩
  have painting : StrokeMeets (formStep (some (narrowForm.paint true)) (.key 97)) .paint := by
    have tree : (formStep (some (narrowForm.paint true)) (.key 97)).map Form.tree =
        some (.node (.row .standard) [.leaf ⟨.textfield narrowField, ['a'], ⟨0, 1⟩, .standard⟩]) := rfl
    obtain ⟨typed, called, tree⟩ := Option.map_eq_some_iff.mp tree
    rw [called]
    exact single_topsStay tree
  exact form_repaints (.row .standard) narrowRow [] 24 (by decide) [] .blank [97] (by decide)
    ⟨key, painting, trivial⟩

/-- The lines above the status. -/
def Form.InComponentArea (s : Form) (cell : Cell) : Prop :=
  1 ≤ cell.1 ∧ 1 ≤ cell.2 ∧ cell.2 < s.height - 1

/-- Two characters typed, the second one erased: it stays on the terminal. -/
theorem erased_stays : ¬ ∀ (base : Container) (components : List FormTree)
    (radioButtons : List RadioEntry) (height : Nat) (height_pos : 0 < height) (status : Text)
    (terminal : Terminal) (keys : List Int) (last : Form),
    focusables (shape (.node base components)) ≠ [] →
    (strokes keys).foldl formStep
      (some ((Form.launch base components radioButtons height height_pos status terminal).paint
        true)) = some last →
    ∀ cell, last.InComponentArea cell →
      last.terminal.cells cell =
        (({ last with terminal := .blank } : Form).paint true).terminal.cells cell := by
  intro all
  have facts : ((strokes [97, 98, 8]).foldl formStep (some (narrowForm.paint true))).map
      (fun s => (s.height, s.terminal.cells (3, 1),
        (({ s with terminal := .blank } : Form).paint true).terminal.cells (3, 1))) =
      some (24, 'b', ' ') := by decide +kernel
  obtain ⟨last, run, shown⟩ := Option.map_eq_some_iff.mp facts
  obtain ⟨height, before, after⟩ : last.height = 24 ∧ last.terminal.cells (3, 1) = 'b' ∧
      (({ last with terminal := .blank } : Form).paint true).terminal.cells (3, 1) = ' ' := by
    simpa only [Prod.mk.injEq] using shown
  have area : last.InComponentArea (3, 1) := by
    rw [Form.InComponentArea, height]
    decide
  have same := all (.row .standard) narrowRow [] 24 (by decide) [] .blank [97, 98, 8] last (by decide)
    run (3, 1) area
  rw [before, after] at same
  exact absurd same (by decide)

end SpeFramework.TermForm
