import Phrasebook.Proofs.Tree.Leading

/-! Trees that print without running words together. In a tidy tree what is put in ends with a character
of no word, and so does what stands before a span of the source in new text; edits keep a tree tidy. A
name put into an import may end with a word, but something of the source stands behind it. -/

namespace Phrasebook

open Piece

namespace Node

section Definitions

variable (word : CodePoint → Bool)

mutual

/-- A tree whose texts end with a character of no word before every span of the source that follows them,
and at the end of everything that was put in. -/
inductive Tidy : Node → Prop
  | source {i : Info} {items : List Node} (hbuilt : i.built = false) (hstart : i.start ≠ none)
      (h : ∀ n ∈ items, Tidy n) : Tidy (branch i items)
  | new {i : Info} {items : List Node} (hbuilt : i.built = true) (hfield : i.start = none → i.field = none)
      (h : TidyItems false items true) : Tidy (branch i items)

inductive TidyItems : Bool → List Node → Bool → Prop
  | nil {f : Bool} : TidyItems f [] f
  | text {f g g' : Bool} {t : Text} {rest : List Node}
      (ht : g = true → Closes word t ∨ (t = [] ∧ f = true)) (h : TidyItems g rest g') :
      TidyItems f (.text t :: rest) g'
  | hidden {f g : Bool} {n : Node} {rest : List Node} (hn : n.isPrinted = false)
      (h : TidyItems f rest g) : TidyItems f (n :: rest) g
  | built {f g g' : Bool} {i : Info} {items rest : List Node} (hprinted : (branch i items).isPrinted = true)
      (hbuilt : i.built = true) (hstart : i.start = none) (hfield : i.field = none)
      (hitems : TidyItems f items g) (h : TidyItems g rest g') : TidyItems f (branch i items :: rest) g'
  | span {g : Bool} {n : Node} {rest : List Node} (hprinted : n.isPrinted = true)
      (hstart : n.info.start ≠ none) (hn : Tidy n) (h : TidyItems false rest g) :
      TidyItems true (n :: rest) g

end

end Definitions

section Adequacy

variable {word : CodePoint → Bool} {source : Bytes}

theorem tidyItems_of_new {i : Info} {items : List Node} (hbuilt : i.built = true)
    (h : Tidy word (branch i items)) : TidyItems word false items true := by
  cases h with
  | source hsource => rw [hbuilt] at hsource; cases hsource
  | new _ _ h => exact h

mutual

theorem Prints.safe : ∀ {n : Node} {a b : Nat} {ps : List Piece}, Prints n a b ps → Tidy word n →
    Safe word source a b ps
  | _, _, _, _, .clean h, _ => safe_kept (le_of_laidAt h)
  | _, _, _, _, .spliced hbuilt _ _ h, hn => by
    cases hn with
    | source _ _ hitems => exact h.safe hitems
    | new hnew => rw [hbuilt] at hnew; cases hnew
  | _, _, _, _, .literal hbuilt _ _ h, hn => safe_replaced (h.chain (tidyItems_of_new hbuilt hn))
  | _, _, _, _, .around hbuilt _ h hf hg, hn => safe_around (h.chain (tidyItems_of_new hbuilt hn)) hf hg

theorem PrintsItems.safe : ∀ {items : List Node} {a b : Nat} {ps : List Piece}, PrintsItems a b items ps →
    (∀ n ∈ items, Tidy word n) → Safe word source a b ps
  | _, _, _, _, .nil h, _ => safe_kept h
  | _, _, _, _, .child hac hn hrest, h => by
    obtain ⟨hfirst, h⟩ := List.forall_mem_cons.1 h
    exact (safe_kept hac).append ((hn.safe hfirst).append (hrest.safe h))
  | _, _, _, _, .added hbuilt _ _ he ht hrest, h => by
    obtain ⟨hfirst, h⟩ := List.forall_mem_cons.1 h
    exact (safe_texts (he.chain (tidyItems_of_new hbuilt hfirst)) ht _).append (hrest.safe h)

theorem Emits.chain : ∀ {items : List Node} {es : List Piece} {f g : Bool}, Emits items es →
    TidyItems word f items g → Chain word source f es g
  | _, _, _, _, .nil, h => by
    cases h
    exact .nil id
  | _, _, _, _, .text he, h => by
    cases h with
    | text ht h => exact .text ht (he.chain h)
    | hidden hn => cases hn
    | span _ hstart => exact (hstart rfl).elim
  | _, _, _, _, .hidden hn he, h => by
    cases h with
    | text => cases hn
    | hidden _ h => exact he.chain h
    | built hprinted => rw [hprinted] at hn; cases hn
    | span hprinted => rw [hprinted] at hn; cases hn
  | _, _, _, _, .built hprinted hbuilt hfield hi he, h => by
    cases h with
    | hidden hn => rw [hprinted] at hn; cases hn
    | built _ _ _ _ hitems h => exact (hi.chain hitems).append (he.chain h)
    | span _ _ hn h =>
      have hnew : Chain word source true _ true := (hi.chain (tidyItems_of_new hbuilt hn)).mono fun _ => rfl
      exact hnew.append ((he.chain h).mono fun _ => rfl)
  | _, _, _, _, .expression hprinted hn he, h => by
    cases h with
    | text => cases hn.hasSpan.1
    | hidden hn => rw [hprinted] at hn; cases hn
    | built _ _ hstart =>
      obtain ⟨m, hm, -⟩ := Option.map_eq_some_iff.1 hn.hasSpan.1
      cases hm.symm.trans hstart
    | span _ _ hn' h => exact .span (hn.safe hn') (he.chain h)

end

end Adequacy


section Editing

variable {word : CodePoint → Bool} {n n' c root root' : Node} {path : Path} {i : Info} {t : Text}
  {items items' xs ys : List Node} {f g : Bool}

mutual

theorem tidy_of_isLaid : ∀ {n : Node}, n.isLaid = true → Tidy word n
  | .text t, h => by cases h
  | .branch i items, h => by
    obtain ⟨hbuilt, -, -, m, e, hm, -, hitems⟩ := isLaid_branch.1 h
    exact .source hbuilt (by rw [hm]; simp) (tidy_of_areLaid hitems)

theorem tidy_of_areLaid : ∀ {items : List Node} {a b : Nat}, areLaid a b items = true →
    ∀ n ∈ items, Tidy word n
  | [], _, _, _ => by simp
  | n :: rest, _, _, h => by
    obtain ⟨c, d, hn, -, hrest⟩ := areLaid_cons.1 h
    exact List.forall_mem_cons.2 ⟨tidy_of_isLaid hn.1, tidy_of_areLaid hrest⟩

end

theorem Tidy.start_ne (h : Tidy word n) (hfield : n.field ≠ none) : n.info.start ≠ none := by
  cases h with
  | source _ hstart => exact hstart
  | new _ hnone => exact fun hstart => hfield (hnone hstart)

theorem tidyItems_append :
    TidyItems word f (xs ++ ys) g ↔ ∃ m, TidyItems word f xs m ∧ TidyItems word m ys g := by
  constructor
  · intro h
    induction xs generalizing f with
    | nil => exact ⟨f, .nil, h⟩
    | cons n xs ih =>
      cases h with
      | text ht h =>
        obtain ⟨m, hxs, hys⟩ := ih h
        exact ⟨m, .text ht hxs, hys⟩
      | hidden hn h =>
        obtain ⟨m, hxs, hys⟩ := ih h
        exact ⟨m, .hidden hn hxs, hys⟩
      | built hprinted hbuilt hstart hfield hitems h =>
        obtain ⟨m, hxs, hys⟩ := ih h
        exact ⟨m, .built hprinted hbuilt hstart hfield hitems hxs, hys⟩
      | span hprinted hstart hn h =>
        obtain ⟨m, hxs, hys⟩ := ih h
        exact ⟨m, .span hprinted hstart hn hxs, hys⟩
  · rintro ⟨m, hxs, hys⟩
    induction xs generalizing f with
    | nil =>
      cases hxs
      exact hys
    | cons n xs ih =>
      cases hxs with
      | text ht h => exact .text ht (ih h)
      | hidden hn h => exact .hidden hn (ih h)
      | built hprinted hbuilt hstart hfield hitems h =>
        exact .built hprinted hbuilt hstart hfield hitems (ih h)
      | span hprinted hstart hn h => exact .span hprinted hstart hn (ih h)

theorem tidyItems_texts (ts : List Text) {last : Text} (h : Closes word last) :
    TidyItems word f ((ts ++ [last]).map .text) true := by
  induction ts generalizing f with
  | nil => exact .text (fun _ => .inl h) .nil
  | cons t ts ih => exact .text (fun hg => Bool.noConfusion hg) (ih (f := false))

theorem tidy_leaf (ht : Closes word t) (standing : Standing) :
    Tidy word ((leaf t).mapInfo fun i => { i with standing }) :=
  .new rfl (fun _ => rfl) (.text (fun _ => .inl ht) .nil)

/-- Items of a node that stay tidy whatever stands around the node. -/
structure KeepsTidy (word : CodePoint → Bool) (i : Info) (items items' : List Node) : Prop where
  source : i.built = false → (∀ n ∈ items, Tidy word n) → ∀ n ∈ items', Tidy word n
  new : i.built = true → ∀ f g, TidyItems word f items g → TidyItems word f items' g

theorem KeepsTidy.tidy (h : KeepsTidy word i items items') (hn : Tidy word (branch i items)) :
    Tidy word (branch { i with dirty := true } items') := by
  cases hn with
  | source hbuilt hstart hitems => exact .source hbuilt hstart (h.source hbuilt hitems)
  | new hbuilt hfield hitems => exact .new hbuilt hfield (h.new hbuilt _ _ hitems)

theorem KeepsTidy.replaced {before after : List Node} {j : Info} (h : KeepsTidy word j items items') :
    KeepsTidy word i (before ++ branch j items :: after)
      (before ++ branch { j with dirty := true } items' :: after) where
  source _ hitems := by
    obtain ⟨hbefore, hafter⟩ := List.forall_mem_append.1 hitems
    obtain ⟨hc, hafter⟩ := List.forall_mem_cons.1 hafter
    exact List.forall_mem_append.2 ⟨hbefore, List.forall_mem_cons.2 ⟨h.tidy hc, hafter⟩⟩
  new _ f g hitems := by
    obtain ⟨m, hbefore, hafter⟩ := tidyItems_append.1 hitems
    refine tidyItems_append.2 ⟨m, hbefore, ?_⟩
    cases hafter with
    | hidden hn hafter => exact .hidden hn hafter
    | built hprinted hbuilt hstart hfield hinside hafter =>
      exact .built hprinted hbuilt hstart hfield (h.new hbuilt _ _ hinside) hafter
    | span hprinted hstart hn hafter => exact .span hprinted hstart (h.tidy hn) hafter

theorem keepsTidy_of_editAt {edit : Info → List Node → Option (List Node)}
    (hedit : ∀ i items items', n.at? path = some (branch i items) → edit i items = some items' →
      KeepsTidy word i items items')
    (h : editAt edit path n = some n') : ∃ i items items', n = branch i items ∧
      n' = branch { i with dirty := true } items' ∧ KeepsTidy word i items items' := by
  induction path generalizing n n' with
  | nil =>
    cases n with
    | text t => cases h
    | branch i items =>
      obtain ⟨items', hitems, rfl⟩ := Option.map_eq_some_iff.1 h
      exact ⟨i, items, items', rfl, rfl, hedit i items items' rfl hitems⟩
  | cons k path ih =>
    obtain ⟨i, before, c, c', after, rfl, rfl, hk, hc, -, hbelow⟩ := editAt_cons h
    refine ⟨i, _, _, rfl, rfl, ?_⟩
    subst hk
    have hchild : (branch i (before ++ c :: after)).children[before.countP isChild]? = some c :=
      getElem?_filter_isChild hc
    obtain ⟨j, items, items', rfl, rfl, hkeeps⟩ := ih (fun j js js' hj => hedit j js js' (by
      rw [at?, hchild]
      exact hj)) hbelow
    exact hkeeps.replaced

theorem tidy_of_editAt {edit : Info → List Node → Option (List Node)}
    (hedit : ∀ i items items', root.at? path = some (branch i items) → edit i items = some items' →
      KeepsTidy word i items items')
    (h : editAt edit path root = some root') (hroot : Tidy word root) : Tidy word root' := by
  obtain ⟨i, items, items', rfl, rfl, hkeeps⟩ := keepsTidy_of_editAt hedit h
  exact hkeeps.tidy hroot

theorem keepsTidy_insertItem (ht : Closes word t) (i : Info) (k : Nat) (items : List Node) :
    KeepsTidy word i items
      (insertItem ((leaf t).mapInfo fun j => { j with standing := sideStanding i }) k items) := by
  obtain ⟨before, after, rfl, hnew⟩ := insertItem_eq
    ((leaf t).mapInfo fun j => { j with standing := sideStanding i }) k items
  rw [hnew]
  constructor
  · intro _ hitems
    obtain ⟨hbefore, hafter⟩ := List.forall_mem_append.1 hitems
    exact List.forall_mem_append.2 ⟨hbefore, List.forall_mem_cons.2 ⟨tidy_leaf ht _, hafter⟩⟩
  · intro hbuilt f g hitems
    obtain ⟨m, hbefore, hafter⟩ := tidyItems_append.1 hitems
    refine tidyItems_append.2 ⟨m, hbefore, .hidden ?_ hafter⟩
    simp [leaf, build, mapInfo, sideStanding, hbuilt, isPrinted]

theorem tidy_insertAt {index : Int} (ht : Closes word t)
    (h : root.insertAt path index (leaf t) = some root') (hroot : Tidy word root) : Tidy word root' := by
  refine tidy_of_editAt (fun i items items' _ hitems => ?_) h hroot
  cases hitems
  exact keepsTidy_insertItem ht i _ items

theorem Tidy.full (h : Tidy word n) : Tidy word (n.mapInfo fun i => { i with standing := .full }) := by
  cases h with
  | source hbuilt hstart hitems => exact .source hbuilt hstart hitems
  | new hbuilt hfield hitems => exact .new hbuilt hfield hitems

theorem start_surround {kind : String} {before after : List Node} (c : Node) :
    ((surround kind before after c).inPlaceOf c).info.start = c.info.start := by
  cases c <;> rfl

theorem isPrinted_surround {kind : String} {before after : List Node} (hchild : c.isChild = true) :
    ((surround kind before after c).inPlaceOf c).isPrinted = c.isPrinted := by
  cases c with
  | text t => cases hchild
  | branch i items => rfl

theorem tidy_surround {kind : String} {fs gs : List Text} {first last : Text} (hfirst : Closes word first)
    (hlast : Closes word last) (hc : Tidy word c) (hchild : c.isChild = true) (hfield : c.field ≠ none) :
    Tidy word ((surround kind ((fs ++ [first]).map text) ((gs ++ [last]).map text) c).inPlaceOf c) := by
  have hstart := hc.start_ne hfield
  have hinside : TidyItems word false ((fs ++ [first]).map .text ++
      (c.mapInfo fun i => { i with standing := .full }) :: (gs ++ [last]).map .text) true := by
    refine tidyItems_append.2 ⟨true, tidyItems_texts fs hfirst, .span (isPrinted_full hchild) ?_ hc.full
      (tidyItems_texts gs hlast)⟩
    cases c with
    | text t => cases hchild
    | branch i items => exact hstart
  rw [← map_printedOnly (fs ++ [first]), ← map_printedOnly (gs ++ [last])] at hinside
  refine .new rfl (fun hnone => ?_) hinside
  exact (hstart (by simpa [Info.inherit] using hnone)).elim

theorem tidy_wrapAt {k : Nat} {kind : String} {fs gs : List Text} {first last : Text}
    (hbody : ∀ n c, root.at? path = some n → n.children[k]? = some c → c.field ≠ none)
    (hfirst : Closes word first) (hlast : Closes word last)
    (h : root.wrapAt (path ++ [k]) kind ((fs ++ [first]).map text) ((gs ++ [last]).map text) = .ok root')
    (hroot : Tidy word root) : Tidy word root' := by
  rw [wrapAt, splitPath, List.getLast?_concat, List.dropLast_concat] at h
  dsimp only [Option.map_some] at h
  split at h
  next root'' hedit =>
    cases h
    refine tidy_of_editAt (fun i items items' hat hitems => ?_) hedit hroot
    obtain ⟨before, c, c', after, rfl, rfl, rfl, hc, hc'⟩ := updateChild_eq_some hitems
    cases hc'
    have hfield := hbody _ c hat (getElem?_filter_isChild hc)
    constructor
    · intro _ hitems
      obtain ⟨hbefore, hafter⟩ := List.forall_mem_append.1 hitems
      obtain ⟨htidy, hafter⟩ := List.forall_mem_cons.1 hafter
      exact List.forall_mem_append.2 ⟨hbefore, List.forall_mem_cons.2
        ⟨tidy_surround hfirst hlast htidy hc hfield, hafter⟩⟩
    · intro _ f g hitems
      obtain ⟨m, hbefore, hafter⟩ := tidyItems_append.1 hitems
      refine tidyItems_append.2 ⟨m, hbefore, ?_⟩
      cases hafter with
      | text => cases hc
      | hidden hn hafter => exact .hidden ((isPrinted_surround hc).trans hn) hafter
      | built _ _ _ hnone => exact (hfield hnone).elim
      | span hprinted hstart htidy hafter =>
        exact .span ((isPrinted_surround hc).trans hprinted) (by rwa [start_surround])
          (tidy_surround hfirst hlast htidy hc hfield) hafter
  next => cases h

end Editing


section Heads

variable (word : CodePoint → Bool) (source : Bytes)

/-- Whether what is printed up to an offset of the source is settled, or ends with a text that was put
in. -/
def Loose (x : Bytes) (a : Nat) : Prop :=
  Settled word source x a ∨ ∃ front t y, x = front ++ y ∧ Utf8.encode? t = some y ∧ t ≠ []

structure Calm (a b : Nat) (ps : List Piece) : Prop where
  ends : ∀ x y, Loose word source x a → octetsOf source ps = some y → Loose word source (x ++ y) b
  literals : literalsOf ps = []

/-- Pieces without a literal, for the source from `a` to `b`, behind which what is printed is settled. -/
structure Settling (a b : Nat) (ps : List Piece) : Prop where
  ends : ∀ x y, Loose word source x a → octetsOf source ps = some y → Settled word source (x ++ y) b
  literals : literalsOf ps = []

/-- A tree in which nothing that was built stands for a span of the source. -/
inductive Quiet : Node → Prop
  | source {i : Info} {items : List Node} (hbuilt : i.built = false) (h : ∀ n ∈ items, Quiet n) :
      Quiet (branch i items)
  | added {i : Info} {items : List Node} (hbuilt : i.built = true) (hstart : i.start = none) :
      Quiet (branch i items)

def Encloses (s : Node) : Prop :=
  ∃ i front last c d, s = branch i (front ++ [last]) ∧ i.built = false ∧ (∀ n ∈ front, Quiet n) ∧
    last.LaidAt c d ∧ source.slice (some c) (some d) ≠ [] ∧ last.kind ≠ "import_clause"

end Heads

section Calming

variable {word : CodePoint → Bool} {source x y : Bytes} {a b m c d : Nat} {n s : Node} {items : List Node}
  {t : Text} {ps qs : List Piece}

theorem Loose.kept (h : Loose word source x a) (hab : a ≤ b) :
    (source.slice (some a) (some b) ≠ [] → Settled word source (x ++ source.slice (some a) (some b)) b) ∧
      Loose word source (x ++ source.slice (some a) (some b)) b := by
  obtain h | ⟨front, t, y, rfl, hy, hne⟩ := h
  · exact ⟨fun _ => h.kept hab, .inl (h.kept hab)⟩
  · have hsettled (hslice : source.slice (some a) (some b) ≠ []) :
        Settled word source (front ++ y ++ source.slice (some a) (some b)) b := by
      rintro u ⟨hu, e, bytes, he, hbytes, hprefix⟩ hux
      obtain hux | ⟨v, hv, rfl, hvx⟩ := suffix_append_cases hux
      · rw [← take_append_slice hab]
        exact hux.trans (List.suffix_append _ _)
      · -- The part in front of the source would be a whole character.
        obtain ⟨last, hlast⟩ := Option.ne_none_iff_exists'.1 (fun h => hne (List.getLast?_eq_none_iff.1 h))
        have hpart : v <+: bytes := (List.prefix_append v _).trans hprefix
        obtain ⟨-, rfl⟩ := Utf8.eq_last_of_suffix hbytes hpart hv hy hlast hvx
        have hlength := hprefix.length_le
        rw [List.length_append] at hlength
        exact (hslice (List.length_eq_zero_iff.1 (by omega))).elim
    refine ⟨hsettled, ?_⟩
    by_cases hslice : source.slice (some a) (some b) = []
    · rw [hslice, List.append_nil]
      exact .inr ⟨front, t, y, rfl, hy, hne⟩
    · exact .inl (hsettled hslice)

theorem Loose.text (h : Loose word source x a) (hy : Utf8.encode? t = some y) :
    Loose word source (x ++ y) a := by
  cases t with
  | nil =>
    cases hy
    rwa [List.append_nil]
  | cons e t => exact .inr ⟨x, e :: t, y, rfl, hy, by simp⟩

theorem Calm.append (hp : Calm word source a m ps) (hq : Calm word source m b qs) :
    Calm word source a b (ps ++ qs) where
  ends x y hx hy := by
    rw [octetsOf_append, Option.bind_eq_some_iff] at hy
    obtain ⟨v, hv, hy⟩ := hy
    obtain ⟨w, hw, rfl⟩ := Option.map_eq_some_iff.1 hy
    rw [← List.append_assoc]
    exact hq.ends _ _ (hp.ends x v hx hv) hw
  literals := by rw [literalsOf_append, hp.literals, hq.literals, List.append_nil]

theorem calm_kept (hab : a ≤ b) : Calm word source a b [.kept a b] where
  ends x y hx hy := by
    rw [octetsOf_singleton, octets] at hy
    cases hy
    exact (hx.kept hab).2
  literals := rfl

theorem calm_texts (ht : ∀ p ∈ ps, p.isText = true) (a : Nat) : Calm word source a a ps := by
  induction ps with
  | nil =>
    refine ⟨fun x y hx hy => ?_, rfl⟩
    cases hy
    rwa [List.append_nil]
  | cons p ps ih =>
    obtain ⟨hp, ht⟩ := List.forall_mem_cons.1 ht
    have hfirst : Calm word source a a [p] := by
      refine ⟨fun x y hx hy => ?_, literalsOf_texts (List.forall_mem_singleton.2 hp)⟩
      cases p with
      | inserted t =>
        rw [octetsOf_singleton, octets] at hy
        exact hx.text hy
      | kept => cases hp
      | replaced => cases hp
      | reemitted => cases hp
    exact hfirst.append (ih ht)

theorem not_quiet_of_hasSpan {i : Info} (hbuilt : i.built = true) (hspan : (branch i items).HasSpan a b) :
    ¬ Quiet (branch i items) := by
  intro h
  cases h with
  | source hsource => rw [hbuilt] at hsource; cases hsource
  | added _ hstart =>
    obtain ⟨m, hm, -⟩ := Option.map_eq_some_iff.1 hspan.1
    cases hm.symm.trans hstart

mutual

theorem Prints.calm : ∀ {n : Node} {a b : Nat} {ps : List Piece}, Prints n a b ps → Quiet n →
    Calm word source a b ps
  | _, _, _, _, .clean h, _ => calm_kept (le_of_laidAt h)
  | _, _, _, _, .spliced hbuilt _ _ h, hn => by
    cases hn with
    | source _ hitems => exact h.calm hitems
    | added hnew => rw [hbuilt] at hnew; cases hnew
  | _, _, _, _, .literal hbuilt hspan _ _, hn => (not_quiet_of_hasSpan hbuilt hspan hn).elim
  | _, _, _, _, .around hbuilt hspan _ _ _, hn => (not_quiet_of_hasSpan hbuilt hspan hn).elim

theorem PrintsItems.calm : ∀ {items : List Node} {a b : Nat} {ps : List Piece}, PrintsItems a b items ps →
    (∀ n ∈ items, Quiet n) → Calm word source a b ps
  | _, _, _, _, .nil h, _ => calm_kept h
  | _, _, _, _, .child hac hn hrest, h => by
    obtain ⟨hfirst, h⟩ := List.forall_mem_cons.1 h
    exact (calm_kept hac).append ((hn.calm hfirst).append (hrest.calm h))
  | _, _, _, _, .added _ _ _ _ ht hrest, h =>
    (calm_texts ht _).append (hrest.calm (List.forall_mem_cons.1 h).2)

end

mutual

theorem quiet_of_isLaid : ∀ {n : Node}, n.isLaid = true → Quiet n
  | .text t, h => by cases h
  | .branch i items, h => by
    obtain ⟨hbuilt, -, -, m, e, -, -, hitems⟩ := isLaid_branch.1 h
    exact .source hbuilt (quiet_of_areLaid hitems)

theorem quiet_of_areLaid : ∀ {items : List Node} {a b : Nat}, areLaid a b items = true →
    ∀ n ∈ items, Quiet n
  | [], _, _, _ => by simp
  | n :: rest, _, _, h => by
    obtain ⟨c, d, hn, -, hrest⟩ := areLaid_cons.1 h
    exact List.forall_mem_cons.2 ⟨quiet_of_isLaid hn.1, quiet_of_areLaid hrest⟩

end

theorem encloses_of_isLaid {last : Node} (hs : s.isLaid = true) (hlast : s.children.getLast? = some last)
    (hkind : last.kind ≠ "import_clause")
    (hroom : source.slice (last.info.start.map (·.offset)) last.info.stop ≠ []) : Encloses source s := by
  rw [children_of_isLaid hs] at hlast
  cases s with
  | text t => cases hs
  | branch i items =>
    obtain ⟨front, rfl⟩ := List.getLast?_eq_some_iff.1 hlast
    obtain ⟨hbuilt, -, -, m, e, -, -, hitems⟩ := isLaid_branch.1 hs
    obtain ⟨c, d, hlaid⟩ := exists_laidAt
      (isLaid_of_mem hitems (List.mem_append_right front List.mem_cons_self))
    rw [hlaid.2.1, hlaid.2.2] at hroom
    exact ⟨i, front, last, c, d, rfl, hbuilt, fun n hn =>
      quiet_of_areLaid hitems n (List.mem_append_left _ hn), hlaid, hroom, hkind⟩

theorem prints_of_laidAt (hn : n.LaidAt c d) (h : Prints n a b ps) : a = c ∧ b = d ∧ ps = [.kept c d] := by
  have hstart {a b : Nat} (h : n.HasSpan a b) : a = c ∧ b = d :=
    ⟨Option.some.inj (h.1.symm.trans hn.2.1), Option.some.inj (h.2.symm.trans hn.2.2)⟩
  cases h with
  | clean h =>
    obtain ⟨rfl, rfl⟩ := hstart h.2
    exact ⟨rfl, rfl, rfl⟩
  | spliced _ hdirty =>
    rw [(isLaid_branch.1 hn.1).2.1] at hdirty
    cases hdirty
  | literal hbuilt =>
    rw [(isLaid_branch.1 hn.1).1] at hbuilt
    cases hbuilt
  | around hbuilt =>
    rw [(isLaid_branch.1 hn.1).1] at hbuilt
    cases hbuilt

theorem Calm.settling (hp : Calm word source a m ps) (hq : Settling word source m b qs) :
    Settling word source a b (ps ++ qs) where
  ends x y hx hy := by
    rw [octetsOf_append, Option.bind_eq_some_iff] at hy
    obtain ⟨v, hv, hy⟩ := hy
    obtain ⟨w, hw, rfl⟩ := Option.map_eq_some_iff.1 hy
    rw [← List.append_assoc]
    exact hq.ends _ _ (hp.ends x v hx hv) hw
  literals := by rw [literalsOf_append, hp.literals, hq.literals, List.append_nil]

theorem settling_kept (hab : a ≤ b) (hbc : b ≤ c) (hroom : source.slice (some a) (some b) ≠ []) :
    Settling word source a c [.kept a b, .kept b c] where
  ends x y hx hy := by
    obtain rfl : source.slice (some a) (some b) ++ source.slice (some b) (some c) = y := by
      simpa [octetsOf, Piece.octets] using hy
    rw [← List.append_assoc]
    exact ((hx.kept hab).1 hroom).kept hbc
  literals := rfl

theorem settling_of_encloses {front : List Node} {last : Node} (hfront : ∀ n ∈ front, Quiet n)
    (hlast : last.LaidAt c d) (hroom : source.slice (some c) (some d) ≠ [])
    (h : PrintsItems a b (front ++ [last]) ps) : Settling word source a b ps := by
  induction front generalizing a ps with
  | nil =>
    cases h with
    | child hac hn hrest =>
      obtain ⟨rfl, rfl, rfl⟩ := prints_of_laidAt hlast hn
      cases hrest with
      | nil hdb => exact (calm_kept hac).settling (settling_kept (le_of_laidAt hlast) hdb hroom)
    | added _ hspan =>
      obtain ⟨m, hm, -⟩ := Option.map_eq_some_iff.1 hlast.2.1
      cases hm.symm.trans hspan
  | cons n front ih =>
    obtain ⟨hfirst, hmore⟩ := List.forall_mem_cons.1 hfront
    cases h with
    | child hac hprints hrest =>
      exact (calm_kept hac).settling ((hprints.calm hfirst).settling (ih hmore hrest))
    | added _ _ _ _ ht hrest => exact (calm_texts ht a).settling (ih hmore hrest)

theorem safe_of_encloses (hs : Encloses source s) (h : Prints s a b ps) : Safe word source a b ps := by
  obtain ⟨i, front, last, c, d, rfl, hsource, hfront, hlast, hroom, -⟩ := hs
  cases h with
  | clean h => exact safe_kept (le_of_laidAt h)
  | spliced _ _ _ h =>
    have hsettling : Settling word source a b _ := settling_of_encloses hfront hlast hroom h
    refine ⟨fun x y hx hy => hsettling.ends x y (.inl hx) hy, fun x before c d new z _ hleads _ => ?_⟩
    have hmem := hleads.mem_literals
    rw [hsettling.literals] at hmem
    cases hmem
  | literal hbuilt => rw [hsource] at hbuilt; cases hbuilt
  | around hbuilt => rw [hsource] at hbuilt; cases hbuilt

theorem safe_of_heads {i : Info} (hsource : i.built = false)
    (hitems : ∀ n ∈ items, Tidy word n ∨ Encloses source n) (h : Prints (branch i items) a b ps) :
    Safe word source a b ps := by
  have hsafe {items : List Node} (hitems : ∀ n ∈ items, Tidy word n ∨ Encloses source n) {a b : Nat}
      {ps : List Piece} (h : PrintsItems a b items ps) : Safe word source a b ps := by
    induction items generalizing a ps with
    | nil =>
      cases h with
      | nil hab => exact safe_kept hab
    | cons n rest ih =>
      obtain ⟨hn, hrest⟩ := List.forall_mem_cons.1 hitems
      cases h with
      | child hac hprints h =>
        have hfirst := hn.elim hprints.safe fun hn => safe_of_encloses hn hprints
        exact (safe_kept hac).append (hfirst.append (ih hrest h))
      | added hbuilt _ _ he ht h =>
        obtain hn | ⟨j, front, last, c, d, heq, hj, -⟩ := hn
        · exact (safe_texts (he.chain (tidyItems_of_new hbuilt hn)) ht _).append (ih hrest h)
        · cases heq
          rw [hj] at hbuilt
          cases hbuilt
  cases h with
  | clean h => exact safe_kept (le_of_laidAt h)
  | spliced _ _ _ h => exact hsafe hitems h
  | literal hbuilt => rw [hsource] at hbuilt; cases hbuilt
  | around hbuilt => rw [hsource] at hbuilt; cases hbuilt

theorem quiet_insertAt {n' : Node} {path : Path} {index : Int} (h : n.insertAt path index (leaf t) = some n')
    (hn : Quiet n) : Quiet n' := by
  rw [insertAt] at h
  induction path generalizing n n' with
  | nil =>
    cases n with
    | text t => cases h
    | branch i items =>
      obtain ⟨items', hitems, rfl⟩ := Option.map_eq_some_iff.1 h
      cases hitems
      cases hn with
      | added hbuilt hstart => exact .added hbuilt hstart
      | source hbuilt hitems =>
        obtain ⟨before, after, rfl, hnew⟩ := insertItem_eq
          ((leaf t).mapInfo fun j => { j with standing := sideStanding i })
          (clampIndex index (items.countP isChild)) items
        rw [hnew]
        obtain ⟨hbefore, hafter⟩ := List.forall_mem_append.1 hitems
        exact .source hbuilt (List.forall_mem_append.2
          ⟨hbefore, List.forall_mem_cons.2 ⟨.added rfl rfl, hafter⟩⟩)
  | cons k path ih =>
    obtain ⟨i, before, c, c', after, rfl, rfl, -, -, -, hbelow⟩ := editAt_cons h
    cases hn with
    | added hbuilt hstart => exact .added hbuilt hstart
    | source hbuilt hitems =>
      obtain ⟨hbefore, hafter⟩ := List.forall_mem_append.1 hitems
      obtain ⟨hc, hafter⟩ := List.forall_mem_cons.1 hafter
      exact .source hbuilt (List.forall_mem_append.2
        ⟨hbefore, List.forall_mem_cons.2 ⟨ih hbelow hc, hafter⟩⟩)

theorem encloses_insertAt {s' clause : Node} {j : Nat} {path : Path} {index : Int}
    (hclause : s.children[j]? = some clause) (hkind : clause.kind = "import_clause")
    (h : s.insertAt (j :: path) index (leaf t) = some s') (hs : Encloses source s) : Encloses source s' := by
  obtain ⟨i, before, e, e', after, heq, rfl, rfl, he, -, hbelow⟩ := editAt_cons h
  subst heq
  obtain rfl : e = clause := Option.some.inj ((getElem?_filter_isChild he).symm.trans hclause)
  obtain ⟨i', front, last, c, d, heq, hsource, hfront, hlast, hroom, hother⟩ := hs
  obtain ⟨rfl, hsplit⟩ := Node.branch.inj heq
  obtain rfl | ⟨more, last', rfl⟩ := List.eq_nil_or_concat after
  · obtain ⟨-, hsame⟩ := List.append_inj' hsplit rfl
    exact (hother ((List.singleton_inj.1 hsame) ▸ hkind)).elim
  · have hends : (before ++ e :: more) ++ [last'] = front ++ [last] := by
      rw [← hsplit, List.append_assoc, List.cons_append, List.concat_eq_append]
    obtain ⟨rfl, hsame⟩ := List.append_inj' hends rfl
    obtain rfl := List.singleton_inj.1 hsame
    obtain ⟨hbefore, hmore⟩ := List.forall_mem_append.1 hfront
    obtain ⟨he, hmore⟩ := List.forall_mem_cons.1 hmore
    refine ⟨{ i with dirty := true }, before ++ e' :: more, last', c, d, ?_, hsource, ?_, hlast, hroom, hother⟩
    · rw [List.append_assoc, List.cons_append, List.concat_eq_append]
    · exact List.forall_mem_append.2 ⟨hbefore, List.forall_mem_cons.2
        ⟨quiet_insertAt hbelow he, hmore⟩⟩

end Calming

end Node

end Phrasebook
