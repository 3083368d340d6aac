import Phrasebook.Proofs.Tree.Edits
import Phrasebook.Proofs.Wrap.Rewriting

/-! The new text of literals: what the nodes put in their place print as. Such a node is texts, nodes
made of texts, and expressions of the source, which it takes up as they print. -/

namespace Phrasebook

def Slot.spans (slots : List Slot) : List (Nat × Nat) :=
  slots.filterMap fun
    | .text _ => none
    | .span a b => some (a, b)

namespace Node

open Piece

mutual

/-- What a new node consists of: a node with a span is that span, any other is its items. -/
def slots : Node → List Slot
  | text t => [.text t]
  | branch i items =>
    match i.start, i.stop with
    | some m, some e => [.span m.offset e]
    | _, _ => slotsIn items

def slotsIn : List Node → List Slot
  | [] => []
  | n :: rest => slots n ++ slotsIn rest

end

mutual

def isFresh : Node → Bool
  | text _ => true
  | branch i items =>
    i.built && i.start.isNone && i.field.isNone && i.standing == .full && areFresh items

def areFresh : List Node → Bool
  | [] => true
  | n :: rest => isFresh n && areFresh rest

end

@[simp] theorem slotsIn_append (xs ys : List Node) :
    slotsIn (xs ++ ys) = slotsIn xs ++ slotsIn ys := by
  induction xs with
  | nil => rfl
  | cons n xs ih => rw [List.cons_append, slotsIn, slotsIn, ih, List.append_assoc]

theorem slots_of_hasSpan {n : Node} {a b : Nat} (h : n.HasSpan a b) : n.slots = [.span a b] := by
  cases n with
  | text t => cases h.1
  | branch i items =>
    obtain ⟨m, hm, rfl⟩ := Option.map_eq_some_iff.1 h.1
    have hs : i.stop = some b := h.2
    change i.start = some m at hm
    rw [slots, hm, hs]

theorem slotsIn_map_full (items : List Node) :
    slotsIn (items.map (mapInfo fun i => { i with standing := .full })) = slotsIn items := by
  induction items with
  | nil => rfl
  | cons n items ih =>
    rw [List.map_cons, slotsIn, ih, slotsIn]
    cases n <;> rfl

theorem slots_built {i : Info} {items : List Node} (h : i.start = none) :
    (branch i items).slots = slotsIn items := by
  rw [slots, h]

mutual

theorem spans_areFresh : ∀ {items : List Node}, areFresh items = true → Slot.spans (slotsIn items) = []
  | [], _ => rfl
  | n :: rest, h => by
    rw [areFresh, Bool.and_eq_true] at h
    rw [slotsIn, Slot.spans, List.filterMap_append]
    exact List.append_eq_nil_iff.2 ⟨spans_isFresh h.1, spans_areFresh h.2⟩

theorem spans_isFresh : ∀ {n : Node}, n.isFresh = true → Slot.spans n.slots = []
  | text _, _ => rfl
  | branch i items, h => by
    simp only [isFresh, Bool.and_eq_true, Option.isNone_iff_eq_none] at h
    rw [slots_built h.1.1.1.2]
    exact spans_areFresh h.2

end

theorem Emits.append {xs ys : List Node} {es fs : List Piece} (hx : Emits xs es) (hy : Emits ys fs) :
    Emits (xs ++ ys) (es ++ fs) := by
  induction xs generalizing es with
  | nil =>
    cases hx
    exact hy
  | cons n xs ih =>
    cases hx with
    | text h => exact .text (ih h)
    | hidden hn h => exact .hidden hn (ih h)
    | built hprinted hbuilt hfield hi h =>
      rw [List.append_assoc]
      exact .built hprinted hbuilt hfield hi (ih h)
    | expression hprinted hn h => exact .expression hprinted hn (ih h)

mutual

theorem emits_of_areFresh : ∀ {items : List Node}, areFresh items = true →
    ∃ es, Emits items es ∧ Piece.slots es = slotsIn items ∧ literalsOf es = []
  | [], _ => ⟨[], .nil, rfl, rfl⟩
  | n :: rest, h => by
    rw [areFresh, Bool.and_eq_true] at h
    obtain ⟨fs, hfs, hslots, hlit⟩ := emits_of_areFresh h.2
    obtain ⟨es, hes, hslots', hlit'⟩ := emits_of_isFresh h.1
    exact ⟨es ++ fs, hes.append hfs, by rw [Piece.slots_append, hslots, hslots', slotsIn],
      by rw [literalsOf_append, hlit, hlit', List.nil_append]⟩

theorem emits_of_isFresh : ∀ {n : Node}, n.isFresh = true →
    ∃ es, Emits [n] es ∧ Piece.slots es = n.slots ∧ literalsOf es = []
  | text t, _ => ⟨[.inserted t], .text .nil, rfl, rfl⟩
  | branch i items, h => by
    simp only [isFresh, Bool.and_eq_true, Option.isNone_iff_eq_none, beq_iff_eq] at h
    obtain ⟨⟨⟨⟨hbuilt, hstart⟩, hfield⟩, hfull⟩, hitems⟩ := h
    obtain ⟨es, hes, hslots, hlit⟩ := emits_of_areFresh hitems
    refine ⟨es, ?_, hslots.trans (slots_built hstart).symm, hlit⟩
    have := Emits.built (by simp [isPrinted, hfull]) hbuilt hfield hes .nil
    rwa [List.append_nil] at this

end

theorem prints_inPlaceOf {i : Info} {items : List Node} {n : Node} {a b : Nat} {es : List Piece}
    (hbuilt : i.built = true) (hstart : i.start = none) (hn : n.HasSpan a b) (hle : a ≤ b)
    (he : Emits items es) : Prints ((branch i items).inPlaceOf n) a b [.replaced a b es] := by
  have hinherit : i.inherit n.info = { i with start := n.info.start, stop := n.info.stop } := by
    rw [Info.inherit, hstart]
  rw [inPlaceOf, mapInfo, hinherit]
  exact .literal hbuilt hn hle he

theorem prints_inPlaceOfRun {i : Info} {items : List Node} {first last : Node} {a b : Nat}
    {es : List Piece} {standing : Standing} (hbuilt : i.built = true) (hstart : i.start = none)
    (ha : first.info.start.map (·.offset) = some a) (hb : last.info.stop = some b) (hle : a ≤ b)
    (he : Emits items es) :
    Prints ((branch i items).inPlaceOfRun first last standing) a b [.replaced a b es] := by
  have hinherit : i.inherit first.info =
      { i with start := first.info.start, stop := first.info.stop } := by
    rw [Info.inherit, hstart]
  rw [inPlaceOfRun, mapInfo, hinherit]
  exact .literal hbuilt ⟨ha, hb⟩ hle he

theorem prints_placedRun {new first : Node} {more : List Node} {a b : Nat}
    (hnew : new.isFresh = true) (hchild : new.isChild = true)
    (ha : first.info.start.map (·.offset) = some a)
    (hb : (more.getLastD first).info.stop = some b) (hle : a ≤ b) :
    ∃ es, Prints (Pass.placedRun new first more) a b [.replaced a b es] ∧
      Piece.slots es = new.slots ∧ literalsOf es = [] := by
  cases new with
  | text t => simp [isChild] at hchild
  | branch i items =>
    simp only [isFresh, Bool.and_eq_true, Option.isNone_iff_eq_none, beq_iff_eq] at hnew
    obtain ⟨⟨⟨⟨hbuilt, hstart⟩, -⟩, -⟩, hitems⟩ := hnew
    obtain ⟨es, hes, hslots, hlit⟩ := emits_of_areFresh hitems
    refine ⟨es, ?_, hslots.trans (slots_built hstart).symm, hlit⟩
    cases more with
    | nil => exact prints_inPlaceOf hbuilt hstart ⟨ha, hb⟩ hle hes
    | cons m more => exact prints_inPlaceOfRun hbuilt hstart ha hb hle hes

end Node

namespace Wrap

open Node Piece

abbrev OptionsPrint : List (Text × Node) → List (Nat × Nat × List Piece) → Prop :=
  List.Forall₂ fun o q => o.2.isChild = true ∧ Prints o.2 q.1 q.2.1 q.2.2

abbrev OptionsSpan : List (Text × Node) → List (Nat × Nat) → Prop :=
  List.Forall₂ fun o span => o.2.HasSpan span.1 span.2

theorem isFresh_ofString (function value : Text) (inAttribute : Bool) :
    (ofString function value inAttribute).isFresh = true := by
  unfold ofString
  cases inAttribute <;> rfl

theorem isFresh_ofJsxText (function raw value : Text) :
    (ofJsxText function raw value).isFresh = true := rfl

theorem emits_optionItems {options : List (Text × Node)} {qs : List (Nat × Nat × List Piece)}
    (h : OptionsPrint options qs) :
    ∃ es, Emits ((optionItems options).map (mapInfo fun i => { i with standing := .full })) es ∧
      Piece.slots es = slotsIn (optionItems options) ∧
      literalsOf es = qs.flatMap fun q => literalsOf q.2.2 := by
  induction h with
  | nil => exact ⟨[], .nil, rfl, rfl⟩
  | @cons o q options qs hq hrest ih =>
    obtain ⟨name, e⟩ := o
    obtain ⟨a, b, ps⟩ := q
    obtain ⟨es, hes, hslots, hlit⟩ := ih
    have hspan := slots_of_hasSpan hq.2.hasSpan
    have he : Emits [e.mapInfo fun i => { i with standing := .full }] [.reemitted a b ps] :=
      .expression (isPrinted_full hq.1) hq.2.full .nil
    -- A comma follows every member but the last, so the last is a case of its own.
    cases options with
    | nil =>
      cases hrest
      refine ⟨_, .text he, ?_, ?_⟩
      · simp [optionItems, slotsIn, Node.slots, Piece.slots, hspan]
      · simp [literalsOf, literals]
    | cons o' options =>
      refine ⟨_, .text (he.append (.text hes)), ?_, ?_⟩
      · simp [optionItems, slotsIn, Node.slots, Piece.slots, hspan, hslots]
      · simp [literalsOf, literals, hlit]

theorem items_lookupCall_cons (function key : Text) (o : Text × Node) (options : List (Text × Node)) :
    (lookupCall function key (o :: options)).items =
      .text (function ++ "(") :: .text (Escape.encode key) :: .text ", \x7b " ::
        ((optionItems (o :: options)).map (mapInfo fun i => { i with standing := .full }) ++
          [.text " \x7d", .text ")"]) := by
  simp [lookupCall, callWith, build, items, mapInfo]

theorem spans_optionItems {options : List (Text × Node)} {spans : List (Nat × Nat)}
    (h : OptionsSpan options spans) :
    Slot.spans (slotsIn (optionItems options)) = spans := by
  induction h with
  | nil => rfl
  | @cons o span options spans ho hrest ih =>
    obtain ⟨name, e⟩ := o
    have hspan := slots_of_hasSpan ho
    cases hrest with
    | nil => simp [optionItems, slotsIn, Node.slots, hspan, Slot.spans]
    | cons _ _ =>
      simp only [optionItems, slotsIn, hspan]
      exact congrArg (span :: ·) ih

theorem spans_lookupCall {options : List (Text × Node)} {spans : List (Nat × Nat)} (function key : Text)
    (h : OptionsSpan options spans) :
    Slot.spans (lookupCall function key options).slots = spans := by
  have hoptions := spans_optionItems h
  show Slot.spans (slotsIn (lookupCall function key options).items) = spans
  cases h with
  | nil => rfl
  | cons _ _ =>
    rw [items_lookupCall_cons]
    simpa [slotsIn, slotsIn_map_full, Node.slots, Slot.spans] using hoptions

theorem slotsIn_optionItems_congr {options options' : List (Text × Node)}
    (h : List.Forall₂ (fun o o' => o.1 = o'.1 ∧ o.2.slots = o'.2.slots) options options') :
    slotsIn (optionItems options) = slotsIn (optionItems options') := by
  induction h with
  | nil => rfl
  | @cons o o' options options' ho hrest ih =>
    obtain ⟨name, e⟩ := o
    obtain ⟨name', e'⟩ := o'
    obtain ⟨rfl, he⟩ := ho
    cases hrest with
    | nil => simp only [optionItems, slotsIn, he]
    | cons _ _ => simp only [optionItems, slotsIn, he, ih]

theorem slots_lookupCall_congr {function key : Text} {options options' : List (Text × Node)}
    (h : List.Forall₂ (fun o o' => o.1 = o'.1 ∧ o.2.slots = o'.2.slots) options options') :
    (lookupCall function key options).slots = (lookupCall function key options').slots := by
  have hitems := slotsIn_optionItems_congr h
  show slotsIn (lookupCall function key options).items = slotsIn (lookupCall function key options').items
  cases h with
  | nil => rfl
  | cons _ _ =>
    rw [items_lookupCall_cons, items_lookupCall_cons]
    simp only [slotsIn, slotsIn_append, slotsIn_map_full, hitems]

theorem emits_lookupCall (function key : Text) {options : List (Text × Node)}
    {qs : List (Nat × Nat × List Piece)} (h : OptionsPrint options qs) :
    ∃ es, Emits (lookupCall function key options).items es ∧
      Piece.slots es = (lookupCall function key options).slots ∧
      literalsOf es = qs.flatMap fun q => literalsOf q.2.2 := by
  obtain ⟨es, hes, hslots, hlit⟩ := emits_optionItems h
  cases options with
  | nil =>
    cases h
    exact ⟨_, .text (.text (.text .nil)), rfl, rfl⟩
  | cons o options =>
    rw [items_lookupCall_cons]
    refine ⟨_, .text (.text (.text (hes.append (.text (.text .nil))))), ?_, ?_⟩
    · rw [show (lookupCall function key (o :: options)).slots =
        slotsIn (lookupCall function key (o :: options)).items from slots_built rfl,
        items_lookupCall_cons]
      simp [Piece.slots, slotsIn, Node.slots, hslots, slotsIn_map_full]
    · simp [literalsOf, literals, hlit]

end Wrap

end Phrasebook
