import Phrasebook.Proofs.Tree.Parsed
import Phrasebook.Proofs.Tree.Pieces
import Phrasebook.Tree.Edit

/-! How an edited tree prints in terms of the source. A node that stands for a span of the source
prints as pieces that account for that span, whether it is clean, was edited below, took the place
of a literal or was put around what stood there. Edits that only put text in keep it so, and they
leave the replaced literals as they are. -/

namespace Phrasebook.Node

open Piece

def HasSpan (n : Node) (a b : Nat) : Prop :=
  n.info.start.map (·.offset) = some a ∧ n.info.stop = some b

mutual

/-- A node that stands for the source from `a` to `b` and prints as the given pieces. -/
inductive Prints : Node → Nat → Nat → List Piece → Prop
  | clean {n : Node} {a b : Nat} (h : n.LaidAt a b) : Prints n a b [.kept a b]
  | spliced {i : Info} {items : List Node} {a b : Nat} {ps : List Piece} (hbuilt : i.built = false)
      (hdirty : i.dirty = true) (hspan : (branch i items).HasSpan a b)
      (h : PrintsItems a b items ps) : Prints (branch i items) a b ps
  | literal {i : Info} {items : List Node} {a b : Nat} {es : List Piece} (hbuilt : i.built = true)
      (hspan : (branch i items).HasSpan a b) (hle : a ≤ b) (h : Emits items es) :
      Prints (branch i items) a b [.replaced a b es]
  | around {i : Info} {items : List Node} {a b : Nat} {fs gs qs : List Piece}
      (hbuilt : i.built = true) (hspan : (branch i items).HasSpan a b)
      (h : Emits items (fs ++ .reemitted a b qs :: gs)) (hf : ∀ p ∈ fs, p.isText = true)
      (hg : ∀ p ∈ gs, p.isText = true) : Prints (branch i items) a b (fs ++ (qs ++ gs))

/-- Items that stand for the source from `a` to `b` inside a node of the source. -/
inductive PrintsItems : Nat → Nat → List Node → List Piece → Prop
  | nil {a b : Nat} (h : a ≤ b) : PrintsItems a b [] [.kept a b]
  | child {a b c d : Nat} {n : Node} {rest : List Node} {ps qs : List Piece} (hac : a ≤ c)
      (hn : Prints n c d ps) (hrest : PrintsItems d b rest qs) :
      PrintsItems a b (n :: rest) (.kept a c :: (ps ++ qs))
  | added {a b : Nat} {i : Info} {items rest : List Node} {es qs : List Piece}
      (hbuilt : i.built = true) (hspan : i.start = none) (hfield : i.field = none)
      (he : Emits items es) (ht : ∀ p ∈ es, p.isText = true) (hrest : PrintsItems a b rest qs) :
      PrintsItems a b (branch i items :: rest) (es ++ qs)

/-- Items that print one after the other inside a built node. -/
inductive Emits : List Node → List Piece → Prop
  | nil : Emits [] []
  | text {t : Text} {rest : List Node} {es : List Piece} (h : Emits rest es) :
      Emits (.text t :: rest) (.inserted t :: es)
  | hidden {n : Node} {rest : List Node} {es : List Piece} (hn : n.isPrinted = false)
      (h : Emits rest es) : Emits (n :: rest) es
  | built {i : Info} {items rest : List Node} {fs es : List Piece}
      (hprinted : (branch i items).isPrinted = true) (hbuilt : i.built = true)
      (hfield : i.field = none) (hi : Emits items fs) (h : Emits rest es) :
      Emits (branch i items :: rest) (fs ++ es)
  | expression {n : Node} {a b : Nat} {qs : List Piece} {rest : List Node} {es : List Piece}
      (hprinted : n.isPrinted = true) (hn : Prints n a b qs) (h : Emits rest es) :
      Emits (n :: rest) (.reemitted a b qs :: es)

end

theorem Prints.hasSpan {n : Node} {a b : Nat} {ps : List Piece} (h : Prints n a b ps) :
    n.HasSpan a b := by
  cases h with
  | clean h => exact h.2
  | spliced _ _ h _ => exact h
  | literal _ h _ _ => exact h
  | around _ h _ _ _ => exact h

mutual

theorem Prints.tiles {n : Node} {a b : Nat} {ps : List Piece} : Prints n a b ps → Tiles a b ps
  | .clean h => tiles_kept.2 ⟨rfl, le_of_laidAt h, tiles_nil.2 rfl⟩
  | .spliced _ _ _ h => h.tiles
  | .literal _ _ hle h => tiles_replaced.2 ⟨rfl, hle, h.emitted, tiles_nil.2 rfl⟩
  | .around _ _ h hf hg => by
    have hgs := tiles_of_texts hg (tiles_nil.2 (Eq.refl b))
    rw [List.append_nil] at hgs
    exact tiles_of_texts hf (tiles_append (tiles_of_emitted h.emitted) hgs)

theorem PrintsItems.tiles {a b : Nat} {items : List Node} {ps : List Piece} :
    PrintsItems a b items ps → Tiles a b ps
  | .nil h => tiles_kept.2 ⟨rfl, h, tiles_nil.2 rfl⟩
  | .child hac hn hrest => tiles_kept.2 ⟨rfl, hac, tiles_append hn.tiles hrest.tiles⟩
  | .added _ _ _ _ ht hrest => tiles_of_texts ht hrest.tiles

theorem Emits.emitted {items : List Node} {es : List Piece} : Emits items es → Emitted es
  | .nil => emitted_nil
  | .text h => emitted_inserted.2 h.emitted
  | .hidden _ h => h.emitted
  | .built _ _ _ hi h => emitted_append hi.emitted h.emitted
  | .expression _ hn h => emitted_reemitted.2 ⟨hn.tiles, h.emitted⟩

end

section Rendering

variable {source : Bytes} {i : Info} {n : Node} {items rest : List Node} {a b c d : Nat}
  {bytes : Bytes}

theorem render_clean (h : n.LaidAt a b) :
    render source n = .ok (source.slice (some a) (some b)) := by
  cases n with
  | text t => simp [LaidAt, isLaid] at h
  | branch i items =>
    obtain ⟨hbuilt, hdirty, -⟩ := isLaid_branch.1 h.1
    obtain ⟨m, hm, rfl⟩ := Option.map_eq_some_iff.1 h.2.1
    have hs : i.stop = some b := h.2.2
    change i.start = some m at hm
    rw [render, hbuilt, hdirty, hm, hs]
    rfl

theorem render_spliced (hbuilt : i.built = false) (hdirty : i.dirty = true)
    (hspan : (branch i items).HasSpan a b) :
    render source (branch i items) = renderSpliced source (some a) (some b) items := by
  rw [render, hbuilt, hdirty, show i.start.map (·.offset) = some a from hspan.1,
    show i.stop = some b from hspan.2]
  rfl

theorem render_built (hbuilt : i.built = true) :
    render source (branch i items) = renderItems source items := by
  rw [render, hbuilt]
  rfl

theorem renderItems_cons (h : renderItems source (n :: rest) = .ok bytes) :
    ∃ x y, (if n.isPrinted then render source n else .ok []) = .ok x ∧
      renderItems source rest = .ok y ∧ bytes = x ++ y := by
  rw [renderItems] at h
  split at h
  all_goals
    next hp =>
      obtain ⟨x, hx, h⟩ := except_bind_eq_ok.1 h
      obtain ⟨y, hy, h⟩ := except_bind_eq_ok.1 h
      cases h
      exact ⟨x, y, by simpa [hp] using hx, hy, rfl⟩

theorem renderSpliced_child (hn : n.HasSpan c d)
    (h : renderSpliced source (some a) (some b) (n :: rest) = .ok bytes) :
    ∃ x y, render source n = .ok x ∧ renderSpliced source (some d) (some b) rest = .ok y ∧
      bytes = source.slice (some a) (some c) ++ (x ++ y) := by
  obtain ⟨m, hm, rfl⟩ := Option.map_eq_some_iff.1 hn.1
  rw [renderSpliced, hm] at h
  obtain ⟨x, hx, h⟩ := except_bind_eq_ok.1 h
  obtain ⟨y, hy, h⟩ := except_bind_eq_ok.1 h
  cases h
  exact ⟨x, y, hx, hn.2 ▸ hy, rfl⟩

theorem renderSpliced_added (hn : n.info.start = none)
    (h : renderSpliced source (some a) (some b) (n :: rest) = .ok bytes) :
    ∃ x y, render source n = .ok x ∧ renderSpliced source (some a) (some b) rest = .ok y ∧
      bytes = x ++ y := by
  rw [renderSpliced, hn] at h
  obtain ⟨x, hx, h⟩ := except_bind_eq_ok.1 h
  obtain ⟨y, hy, h⟩ := except_bind_eq_ok.1 h
  cases h
  exact ⟨x, y, hx, hy, rfl⟩

theorem infix_of_renderSpliced {cursor stop : Option Nat}
    (h : renderSpliced source cursor stop items = .ok bytes) (hn : n ∈ items) :
    ∃ x, render source n = .ok x ∧ x <:+: bytes := by
  induction items generalizing cursor bytes with
  | nil => cases hn
  | cons m rest ih =>
    rw [renderSpliced] at h
    split at h
    all_goals
      obtain ⟨x, hx, h⟩ := except_bind_eq_ok.1 h
      obtain ⟨y, hy, h⟩ := except_bind_eq_ok.1 h
      cases h
      rcases List.mem_cons.1 hn with rfl | hn
    · exact ⟨x, hx, _, y, List.append_assoc _ x y⟩
    · obtain ⟨z, hz, hzy⟩ := ih hy hn
      exact ⟨z, hz, (hzy.trans (List.suffix_append x y).isInfix).trans (List.suffix_append _ _).isInfix⟩
    · exact ⟨x, hx, (List.prefix_append x y).isInfix⟩
    · obtain ⟨z, hz, hzy⟩ := ih hy hn
      exact ⟨z, hz, hzy.trans (List.suffix_append x y).isInfix⟩

end Rendering

mutual

theorem Prints.octets {source : Bytes} {n : Node} {a b : Nat} {ps : List Piece} {bytes : Bytes} :
    Prints n a b ps → render source n = .ok bytes → octetsOf source ps = some bytes
  | .clean h, hr => by
    rw [render_clean h] at hr
    cases hr
    rw [octetsOf_singleton, Piece.octets]
  | .spliced hbuilt hdirty hspan h, hr => h.octets (render_spliced hbuilt hdirty hspan ▸ hr)
  | .literal hbuilt hspan hle h, hr => by
    rw [octetsOf_singleton, Piece.octets]
    exact h.octets (render_built hbuilt ▸ hr)
  | .around hbuilt hspan h hf hg, hr => by
    rw [← h.octets (render_built hbuilt ▸ hr)]
    exact (octetsOf_reemitted _ _ _).symm

theorem PrintsItems.octets {source : Bytes} {a b : Nat} {items : List Node} {ps : List Piece}
    {bytes : Bytes} : PrintsItems a b items ps →
      renderSpliced source (some a) (some b) items = .ok bytes → octetsOf source ps = some bytes
  | .nil h, hr => by
    rw [renderSpliced] at hr
    cases hr
    rw [octetsOf_singleton, Piece.octets]
  | .child hac hn hrest, hr => by
    obtain ⟨x, y, hx, hy, rfl⟩ := renderSpliced_child hn.hasSpan hr
    exact octetsOf_cons_eq (by rw [Piece.octets]) (octetsOf_append_eq (hn.octets hx) (hrest.octets hy))
  | .added hbuilt hspan hfield he ht hrest, hr => by
    obtain ⟨x, y, hx, hy, rfl⟩ := renderSpliced_added (n := branch _ _) hspan hr
    exact octetsOf_append_eq (he.octets (render_built hbuilt ▸ hx)) (hrest.octets hy)

theorem Emits.octets {source : Bytes} {items : List Node} {es : List Piece} {bytes : Bytes} :
    Emits items es → renderItems source items = .ok bytes → octetsOf source es = some bytes
  | .nil, hr => by
    rw [renderItems] at hr
    cases hr
    rfl
  | .text h, hr => by
    obtain ⟨x, y, hx, hy, rfl⟩ := renderItems_cons hr
    refine octetsOf_cons_eq ?_ (h.octets hy)
    rw [Piece.octets]
    exact Utf8.encode_eq_ok.1 (by simpa [isPrinted, render] using hx)
  | .hidden hn h, hr => by
    obtain ⟨x, y, hx, hy, rfl⟩ := renderItems_cons hr
    rw [hn] at hx
    cases hx
    exact h.octets hy
  | .built hprinted hbuilt hfield hi h, hr => by
    obtain ⟨x, y, hx, hy, rfl⟩ := renderItems_cons hr
    rw [hprinted, if_pos rfl] at hx
    exact octetsOf_append_eq (hi.octets (render_built hbuilt ▸ hx)) (h.octets hy)
  | .expression hprinted hn h, hr => by
    obtain ⟨x, y, hx, hy, rfl⟩ := renderItems_cons hr
    rw [hprinted, if_pos rfl] at hx
    refine octetsOf_cons_eq ?_ (h.octets hy)
    rw [Piece.octets]
    exact hn.octets hx

end

theorem printsItems_of_areLaid {a b : Nat} {items : List Node} (h : areLaid a b items = true) :
    ∃ ps, PrintsItems a b items ps ∧ literalsOf ps = [] := by
  induction items generalizing a with
  | nil => exact ⟨_, .nil (areLaid_nil.1 h), rfl⟩
  | cons n rest ih =>
    obtain ⟨c, d, hn, hac, hrest⟩ := areLaid_cons.1 h
    obtain ⟨qs, hqs, hl⟩ := ih hrest
    exact ⟨_, .child hac (.clean hn) hqs, by simp [literalsOf, literals, hl]⟩

def SameLiterals (ps qs : List Piece) : Prop := literalsOf qs = literalsOf ps

def SameNew (es fs : List Piece) : Prop := slots fs = slots es ∧ literalsOf fs = literalsOf es

structure Alters (n n' : Node) : Prop where
  prints : ∀ {a b : Nat} {ps : List Piece}, Prints n a b ps → ∃ qs, Prints n' a b qs ∧
    SameLiterals ps qs
  emits : ∀ {i : Info} {items : List Node} {es : List Piece}, n = branch i items →
    i.built = true → i.field = none → Emits items es → ∃ j items' fs, n' = branch j items' ∧
      j.built = true ∧ j.start = i.start ∧ j.field = none ∧ Emits items' fs ∧ SameNew es fs
  isPrinted : n'.isPrinted = n.isPrinted

theorem Alters.refl (n : Node) : Alters n n where
  prints h := ⟨_, h, rfl⟩
  emits hn hbuilt hfield h := ⟨_, _, _, hn, hbuilt, rfl, hfield, h, rfl, rfl⟩
  isPrinted := rfl

theorem Alters.trans {n n' n'' : Node} (h : Alters n n') (h' : Alters n' n'') : Alters n n'' where
  prints := by
    intro a b ps hp
    obtain ⟨qs, hqs, hsame⟩ := h.prints hp
    obtain ⟨rs, hrs, hsame'⟩ := h'.prints hqs
    exact ⟨rs, hrs, hsame'.trans hsame⟩
  emits := by
    intro i items es hn hbuilt hfield he
    obtain ⟨j, items', fs, hn', hbuilt', hstart, hfield', hfs, hslots, hlit⟩ :=
      h.emits hn hbuilt hfield he
    obtain ⟨j', items'', gs, hn'', hbuilt'', hstart', hfield'', hgs, hslots', hlit'⟩ :=
      h'.emits hn' hbuilt' hfield' hfs
    exact ⟨j', items'', gs, hn'', hbuilt'', hstart'.trans hstart, hfield'', hgs,
      hslots'.trans hslots, hlit'.trans hlit⟩
  isPrinted := h'.isPrinted.trans h.isPrinted

/-- Items of a node, built or not, that print like others, up to texts put in. -/
structure ItemsAlter (built : Bool) (items items' : List Node) : Prop where
  prints : built = false → ∀ {a b : Nat} {ps : List Piece}, PrintsItems a b items ps →
    ∃ qs, PrintsItems a b items' qs ∧ SameLiterals ps qs
  emits : built = true → ∀ {es : List Piece}, Emits items es → ∃ fs, Emits items' fs ∧
    SameNew es fs

theorem ItemsAlter.branch {i : Info} {items items' : List Node}
    (h : ItemsAlter i.built items items') :
    Alters (.branch i items) (.branch { i with dirty := true } items') where
  prints := by
    intro a b ps hp
    cases hp with
    | clean hn =>
      -- The node was printed as its span, and from now on by its items, which lie in order in it.
      obtain ⟨hbuilt, -, -, m, e, hm, he, hitems⟩ := isLaid_branch.1 hn.1
      obtain ⟨ps, hps, hl⟩ := printsItems_of_areLaid hitems
      obtain ⟨qs, hqs, hsame⟩ := h.prints hbuilt hps
      obtain ⟨-, ha, hb⟩ := hn
      simp only [info, hm, he, Option.map_some, Option.some.injEq] at ha hb
      subst ha hb
      refine ⟨qs, .spliced hbuilt rfl ⟨by simp [info, hm], by simp [info, he]⟩ hqs, ?_⟩
      exact hsame.trans hl
    | spliced hbuilt hdirty hspan hitems =>
      obtain ⟨qs, hqs, hsame⟩ := h.prints hbuilt hitems
      exact ⟨qs, .spliced hbuilt rfl hspan hqs, hsame⟩
    | literal hbuilt hspan hle hitems =>
      obtain ⟨fs, hfs, hslots, hlit⟩ := h.emits hbuilt hitems
      refine ⟨_, .literal hbuilt hspan hle hfs, ?_⟩
      simp only [SameLiterals, literalsOf, literals, hslots, hlit]
    | around hbuilt hspan hitems hf hg =>
      obtain ⟨es, hes, hslots, hlit⟩ := h.emits hbuilt hitems
      obtain ⟨fs', qs', gs', rfl, hf', hg'⟩ := split_of_slots hes.emitted hslots hf hg
      refine ⟨_, .around hbuilt hspan hes hf' hg', ?_⟩
      simpa only [SameLiterals, literalsOf_append, literalsOf, literals, literalsOf_texts hf,
        literalsOf_texts hg, literalsOf_texts hf', literalsOf_texts hg', List.nil_append,
        List.append_nil] using hlit
  emits := by
    rintro j items₀ es ⟨⟩ hbuilt hfield hes
    obtain ⟨fs, hfs, hsame⟩ := h.emits hbuilt hes
    exact ⟨_, _, fs, rfl, hbuilt, rfl, hfield, hfs, hsame⟩
  isPrinted := rfl

theorem Alters.printsItems {n n' : Node} (h : Alters n n') {before after : List Node} {a b : Nat}
    {ps : List Piece} (hp : PrintsItems a b (before ++ n :: after) ps) :
    ∃ qs, PrintsItems a b (before ++ n' :: after) qs ∧ SameLiterals ps qs := by
  induction before generalizing a ps with
  | nil =>
    cases hp with
    | child hac hn hrest =>
      obtain ⟨qs, hqs, hsame⟩ := h.prints hn
      refine ⟨_, .child hac hqs hrest, ?_⟩
      simp only [SameLiterals, literalsOf, literals, literalsOf_append] at hsame ⊢
      rw [hsame]
    | added hbuilt hspan hfield he ht hrest =>
      obtain ⟨j, items', fs, rfl, hj, hs, hf, hfs, hslots, hlit⟩ := h.emits rfl hbuilt hfield he
      refine ⟨_, .added hj (hs.trans hspan) hf hfs (texts_of_slots hslots hfs.emitted ht) hrest, ?_⟩
      simp only [SameLiterals, literalsOf_append, hlit]
  | cons m before ih =>
    cases hp with
    | child hac hn hrest =>
      obtain ⟨qs, hqs, hsame⟩ := ih hrest
      refine ⟨_, .child hac hn hqs, ?_⟩
      simp only [SameLiterals, literalsOf, literals, literalsOf_append] at hsame ⊢
      rw [hsame]
    | added hbuilt hspan hfield he ht hrest =>
      obtain ⟨qs, hqs, hsame⟩ := ih hrest
      refine ⟨_, .added hbuilt hspan hfield he ht hqs, ?_⟩
      simp only [SameLiterals, literalsOf_append] at hsame ⊢
      rw [hsame]

theorem Alters.emitsItems {n n' : Node} (h : Alters n n') (hn : n.isChild = true)
    {before after : List Node} {es : List Piece} (hp : Emits (before ++ n :: after) es) :
    ∃ fs, Emits (before ++ n' :: after) fs ∧ SameNew es fs := by
  induction before generalizing es with
  | nil =>
    cases hp with
    | text h => simp [isChild] at hn
    | hidden hhidden hrest => exact ⟨_, .hidden (h.isPrinted.trans hhidden) hrest, rfl, rfl⟩
    | built hprinted hbuilt hfield hi hrest =>
      obtain ⟨j, items', fs, rfl, hj, -, hf, hfs, hslots, hlit⟩ := h.emits rfl hbuilt hfield hi
      refine ⟨_, .built (h.isPrinted.trans hprinted) hj hf hfs hrest, ?_⟩
      simp only [SameNew, slots_append, literalsOf_append, hslots, hlit, and_self]
    | expression hprinted hn hrest =>
      obtain ⟨qs, hqs, hsame⟩ := h.prints hn
      refine ⟨_, .expression (h.isPrinted.trans hprinted) hqs hrest, rfl, ?_⟩
      simp only [SameLiterals, literalsOf, literals] at hsame ⊢
      rw [hsame]
  | cons m before ih =>
    cases hp with
    | text hrest =>
      obtain ⟨fs, hfs, hslots, hlit⟩ := ih hrest
      refine ⟨_, .text hfs, ?_⟩
      simp only [SameNew, slots, literalsOf, hslots, hlit, and_self]
    | hidden hhidden hrest =>
      obtain ⟨fs, hfs, hsame⟩ := ih hrest
      exact ⟨_, .hidden hhidden hfs, hsame⟩
    | built hprinted hbuilt hfield hi hrest =>
      obtain ⟨fs, hfs, hslots, hlit⟩ := ih hrest
      refine ⟨_, .built hprinted hbuilt hfield hi hfs, ?_⟩
      simp only [SameNew, slots_append, literalsOf_append, hslots, hlit, and_self]
    | expression hprinted hn hrest =>
      obtain ⟨fs, hfs, hslots, hlit⟩ := ih hrest
      refine ⟨_, .expression hprinted hn hfs, ?_⟩
      simp only [SameNew, slots, literalsOf, hslots, hlit, and_self]

theorem Alters.items {n n' : Node} (h : Alters n n') (hn : n.isChild = true)
    (before after : List Node) (built : Bool) :
    ItemsAlter built (before ++ n :: after) (before ++ n' :: after) :=
  ⟨fun _ _ _ _ => h.printsItems, fun _ _ => h.emitsItems hn⟩

end Phrasebook.Node
