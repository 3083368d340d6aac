import Mathlib.Data.List.Forall2
import Phrasebook.Proofs.Wrap.Module
import Phrasebook.Proofs.Wrap.NewText
import Phrasebook.Proofs.Wrap.Visit

/-! A pass edits the source in place. The text it gives is the source with the literals it wrapped
replaced and with texts put in; inside the new text of a template its expressions are taken up. -/

namespace Phrasebook

open Node Piece

/-- Nodes of the source and what the walk left of them, with the pieces these print as. -/
inductive Printed : List Node → List Node → List (Nat × Nat × List Piece) → Prop
  | nil : Printed [] [] []
  | node {n n' : Node} {rest rest' : List Node} {a b : Nat} {ps : List Piece}
      {qs : List (Nat × Nat × List Piece)} (hn : n.LaidAt a b) (hp : Prints n' a b ps)
      (hchild : n'.isChild = true) (h : Printed rest rest' qs) :
      Printed (n :: rest) (n' :: rest') ((a, b, ps) :: qs)
  | run {first new : Node} {more rest rest' : List Node} {a b : Nat} {ps : List Piece}
      {qs : List (Nat × Nat × List Piece)} (hjsx : Literal.isJsxText first = true)
      (ha : first.info.start.map (·.offset) = some a)
      (hb : (more.getLastD first).info.stop = some b) (hp : Prints new a b ps)
      (h : Printed rest rest' qs) :
      Printed (first :: (more ++ rest)) (new :: rest') ((a, b, ps) :: qs)

namespace Printed

variable {items items' : List Node} {qs : List (Nat × Nat × List Piece)}

theorem areLaid_run {first : Node} {more rest : List Node} {a b c d : Nat}
    (h : areLaid a b (first :: (more ++ rest)) = true)
    (hc : first.info.start.map (·.offset) = some c)
    (hd : (more.getLastD first).info.stop = some d) :
    a ≤ c ∧ c ≤ d ∧ areLaid d b rest = true := by
  -- The second node of a run is the first of a shorter run, which ends where the run ends.
  induction more generalizing first a c with
  | nil =>
    obtain ⟨c', d', hlaid, hac, hrest⟩ := areLaid_cons.1 h
    cases hc.symm.trans hlaid.2.1
    cases hd.symm.trans hlaid.2.2
    exact ⟨hac, le_of_laidAt hlaid, hrest⟩
  | cons m more ih =>
    obtain ⟨c', d', hlaid, hac, hrest⟩ := areLaid_cons.1 h
    cases hc.symm.trans hlaid.2.1
    obtain ⟨e, e', hm, -, -⟩ := areLaid_cons.1 hrest
    obtain ⟨hde, hed, hrest⟩ := ih hrest hm.2.1 (by rwa [List.getLastD_cons] at hd)
    have hcd := le_of_laidAt hlaid
    exact ⟨hac, by omega, hrest⟩

theorem printsItems (h : Printed items items' qs) {a b : Nat} (hlaid : areLaid a b items = true) :
    ∃ ps, PrintsItems a b items' ps ∧ literalsOf ps = qs.flatMap fun q => literalsOf q.2.2 := by
  induction h generalizing a with
  | nil => exact ⟨_, .nil (areLaid_nil.1 hlaid), rfl⟩
  | node hn hp _ _ ih =>
    obtain ⟨c, d, hn', hac, hrest⟩ := areLaid_cons.1 hlaid
    cases hn.2.1.symm.trans hn'.2.1
    cases hn.2.2.symm.trans hn'.2.2
    obtain ⟨ps, hps, hlit⟩ := ih hrest
    refine ⟨_, .child hac hp hps, ?_⟩
    simp [literalsOf, literals, hlit]
  | run _ ha hb hp _ ih =>
    obtain ⟨hac, -, hrest⟩ := areLaid_run hlaid ha hb
    obtain ⟨ps, hps, hlit⟩ := ih hrest
    refine ⟨_, .child hac hp hps, ?_⟩
    simp [literalsOf, literals, hlit]

theorem optionsPrint (h : Printed items items' qs)
    (hjsx : ∀ n ∈ items, Literal.isJsxText n = false) (names : List Text)
    (hlength : names.length = items.length) :
    Wrap.OptionsPrint (names.zip items') qs ∧
      List.Forall₂ (fun o o' => o.1 = o'.1 ∧ o.2.slots = o'.2.slots) (names.zip items')
        (names.zip items) := by
  induction h generalizing names with
  | nil =>
    rw [List.zip_nil_right]
    exact ⟨.nil, .nil⟩
  | run hrun => exact absurd (hjsx _ List.mem_cons_self) (by simp [hrun])
  | node hn hp hchild _ ih =>
    cases names with
    | nil => simp at hlength
    | cons name names =>
      obtain ⟨hoptions, hslots⟩ := ih (fun n hn => hjsx n (List.mem_cons_of_mem _ hn)) names
        (by simpa using hlength)
      have hspan := slots_of_hasSpan hp.hasSpan
      exact ⟨.cons ⟨hchild, hp⟩ hoptions,
        .cons ⟨rfl, hspan.trans (slots_of_hasSpan hn.2).symm⟩ hslots⟩

theorem append {xs xs' ys ys' : List Node} {ps qs : List (Nat × Nat × List Piece)}
    (hx : Printed xs xs' ps) (hy : Printed ys ys' qs) : Printed (xs ++ ys) (xs' ++ ys') (ps ++ qs) := by
  induction hx with
  | nil => exact hy
  | node hn hp hchild _ ih => exact .node hn hp hchild ih
  | run hjsx ha hb hp _ ih =>
    rw [List.cons_append, List.append_assoc]
    exact .run hjsx ha hb hp ih

theorem clean {places : List Focus} (h : ∀ p ∈ places, p.node.Parsed) :
    ∃ qs, Printed (places.map (·.node)) (places.map (·.node)) qs ∧
      (qs.flatMap fun q => literalsOf q.2.2) = [] := by
  induction places with
  | nil => exact ⟨[], .nil, rfl⟩
  | cons p rest ih =>
    rw [List.forall_mem_cons] at h
    obtain ⟨qs, hqs, hlit⟩ := ih h.2
    obtain ⟨a, b, hn⟩ := exists_laidAt h.1.laid
    exact ⟨_, .node hn (.clean hn) (isChild_of_isLaid h.1.laid) hqs,
      by simp [literalsOf, literals, hlit]⟩

end Printed

namespace Pass

structure Made.IsSame {α : Type} (made : Made α) (part : α) : Prop where
  part_eq : made.part = part
  touched : made.touched = false
  components : ∀ c ∈ made.components, c.modified = false

theorem part_of_isSame {env : Env} {owner : Option Text} {frames : List Frame} {f : Focus}
    {below : Made (List Node)} (hsees : Sees env owner frames f)
    (hsame : below.IsSame (f.children.map (·.node))) (hchanged : below.changed = false) :
    (reassemble f.node.info below).part = f.node := by
  rw [Focus.map_node_children hsees.parsed.laid] at hsame
  obtain ⟨node, was⟩ := f
  cases node with
  | text t => simpa [isLaid] using hsees.parsed.laid
  | branch i items =>
    simp only [reassemble, hchanged, Bool.or_false, hsame.part_eq]
    rfl

mutual

theorem Visit.changed {env : Env} {owner : Option Text} {frames : List Frame} {f : Focus}
    {made : Made Node} {ws : List Wrapped} :
    Visit env owner frames f made ws → made.changed = !ws.isEmpty
  | .skipped _ _ => rfl
  | .otherString _ _ _ _ _ => rfl
  | .string _ _ _ _ _ => rfl
  | .template _ _ _ _ _ _ => rfl
  | .component _ _ _ _ hbelow => by
    rw [List.isEmpty_map]
    exact hbelow.changed
  | .entered _ _ hbelow => hbelow.changed

theorem Visits.changed {env : Env} {owner : Option Text} {parent : Info} {frames : List Frame}
    {before : List Node} {k : Nat} {places : List Focus} {made : Made (List Node)}
    {ws : List Wrapped} :
    Visits env owner parent frames before k places made ws → made.changed = !ws.isEmpty
  | .nil => rfl
  | .run _ _ _ _ _ _ => rfl
  | .otherRun _ _ _ hrest => hrest.changed
  | .node _ hfirst hrest => by
    show (_ || _) = _
    rw [hfirst.changed, hrest.changed, ← Bool.not_and, Bool.eq_iff_iff]
    simp [imp_iff_not_or]

end

mutual

theorem Visit.isSame {env : Env} {owner : Option Text} {frames : List Frame} {f : Focus}
    {made : Made Node} {ws : List Wrapped} :
    Visit env owner frames f made ws → ws = [] → made.IsSame f.node
  | .skipped _ _, _ => ⟨rfl, rfl, by simp [Made.same]⟩
  | .otherString _ _ _ _ _, _ => ⟨rfl, rfl, by simp [Made.same]⟩
  | .component hsees _ _ _ hbelow, h => by
    have h' := List.map_eq_nil_iff.1 h
    have hsame := hbelow.isSame h'
    refine ⟨part_of_isSame hsees hsame (by rw [hbelow.changed, h']; rfl), rfl, ?_⟩
    exact List.forall_mem_cons.2 ⟨hsame.touched, hsame.components⟩
  | .entered hsees _ hbelow, h => by
    have hsame := hbelow.isSame h
    exact ⟨part_of_isSame hsees hsame (by rw [hbelow.changed, h]; rfl), hsame.touched,
      hsame.components⟩
  | .string _ _ _ _ _, h => by cases h
  | .template _ _ _ _ _ _, h => by cases h

theorem Visits.isSame {env : Env} {owner : Option Text} {parent : Info} {frames : List Frame}
    {before : List Node} {k : Nat} {places : List Focus} {made : Made (List Node)}
    {ws : List Wrapped} :
    Visits env owner parent frames before k places made ws → ws = [] →
      made.IsSame (places.map (·.node))
  | .nil, _ => ⟨rfl, rfl, by simp [Made.same]⟩
  | .run _ _ _ _ _ _, h => by cases h
  | .otherRun _ hmore _ hrest, h => by
    have hsame := hrest.isSame h
    refine ⟨?_, hsame.touched, hsame.components⟩
    rw [← append_drop_takeWhile hmore, List.map_cons, List.map_append, ← List.cons_append]
    rw [← hsame.part_eq]
  | .node _ hfirst hrest, h => by
    obtain ⟨hus, hws⟩ := List.append_eq_nil_iff.1 h
    have hfirst := hfirst.isSame (List.map_eq_nil_iff.1 hus)
    have hrest := hrest.isSame hws
    refine ⟨by rw [hfirst.part_eq, hrest.part_eq]; rfl, by
      rw [hfirst.touched, hrest.touched]; rfl, fun c hc => ?_⟩
    rcases List.mem_append.1 hc with hc | hc
    · obtain ⟨d, hd, rfl⟩ := List.mem_map.1 hc
      exact hfirst.components d hd
    · exact hrest.components c hc

end

namespace Wrapped

def last (w : Wrapped) : Node := (w.more.map (·.node)).getLastD w.focus.node

def rewriting (env : Env) (w : Wrapped) : Except Fault Node :=
  if w.focus.node.kind == "string" then
    (Literal.stringValue env.source w.focus).map fun value =>
      Wrap.ofString env.function.spelling value (Literal.inAttribute w.focus)
  else if w.focus.node.kind == "template_string" then do
    Wrap.ofTemplate env.source env.function.spelling
      (← Literal.templateParts env.source w.focus.node)
  else
    let raw := Literal.runSource env.source (w.focus.node :: w.more.map (·.node))
    (Literal.jsxValue raw).map (Wrap.ofJsxText env.function.spelling raw)

/-- The span and the new text of a wrapped literal: that of the literal as parsed, and what this is
rewritten to. -/
def Edits (env : Env) (w : Wrapped) (edit : Nat × Nat × List Slot) : Prop :=
  w.focus.node.info.start.map (·.offset) = some edit.1 ∧ w.last.info.stop = some edit.2.1 ∧
    ∃ new, w.rewriting env = .ok new ∧ edit.2.2 = new.slots

end Wrapped

theorem kind_of_isJsxText {n : Node} (h : Literal.isJsxText n = true) :
    n.kind ≠ "string" ∧ n.kind ≠ "template_string" := by
  constructor
  all_goals
    intro hkind
    rw [Literal.isJsxText, hkind] at h
    exact absurd h (by decide)

section Literals

variable {env : Env} {frames : List Frame} {f : Focus} {name : Text} {a b : Nat}

theorem prints_string {new : Node} (hsees : Sees env (some name) frames f)
    (hkind : f.node.kind = "string")
    (hwrap : (wrapString? env name ⟨f.node, frames⟩).result = .ok (some new))
    (hf : f.node.LaidAt a b) :
    ∃ ps, Prints new a b ps ∧
      List.Forall₂ (Wrapped.Edits env) [⟨f, [], [], none⟩] (literalsOf ps) := by
  obtain ⟨value, hvalue, -, -, rfl⟩ := wrapString?_eq_some hwrap
  -- The walk tells an attribute by its own frames, and so does the tree as parsed.
  rw [Literal.stringValue, hsees.around.inAttribute] at hvalue
  rw [hsees.around.inAttribute]
  obtain ⟨es, hes, hslots, hlit⟩ := @prints_placedRun _ f.node [] a b (Wrap.isFresh_ofString _ _ _)
    (isChild_ofString _ _ _) hf.2.1 hf.2.2 (le_of_laidAt hf)
  refine ⟨_, hes, ?_⟩
  rw [literalsOf, literals, hlit]
  refine .cons ⟨hf.2.1, hf.2.2, _, ?_, hslots⟩ .nil
  rw [Wrapped.rewriting, hkind, beq_self_eq_true, if_pos rfl, Literal.stringValue, hvalue]
  rfl

theorem prints_run {more : List Focus} {new : Node} {k : Nat}
    (hjsx : Literal.isJsxText f.node = true)
    (hwrap : (wrapRun? env name ⟨f.node, frames⟩ (more.map (·.node))).result = .ok (some new))
    (ha : f.node.info.start.map (·.offset) = some a)
    (hb : ((more.map (·.node)).getLastD f.node).info.stop = some b) (hle : a ≤ b) :
    ∃ ps, Prints new a b ps ∧
      List.Forall₂ (Wrapped.Edits env) [⟨f, more, [k], none⟩] (literalsOf ps) := by
  obtain ⟨value, hvalue, -, -, rfl⟩ := wrapRun?_eq_some hwrap
  obtain ⟨es, hes, hslots, hlit⟩ := prints_placedRun (Wrap.isFresh_ofJsxText env.function.spelling
    (Literal.runSource env.source (f.node :: more.map (·.node))) value) rfl ha hb hle
  refine ⟨_, hes, ?_⟩
  rw [literalsOf, literals, hlit]
  refine .cons ⟨ha, hb, _, ?_, hslots⟩ .nil
  obtain ⟨hstring, htemplate⟩ := kind_of_isJsxText hjsx
  rw [Wrapped.rewriting, if_neg (by simpa using hstring), if_neg (by simpa using htemplate)]
  show (Literal.jsxValue _).map _ = _
  rw [hvalue]
  rfl

theorem keptExpressions_eq {source : Bytes} {n : Node} {parts : Literal.Template}
    (h : Literal.templateParts source n = .ok parts) :
    keptExpressions source n.items =
      Placeholder.firstUses [] ((Placeholder.names source parts.expressions).zip parts.expressions) := by
  unfold Literal.templateParts at h
  obtain ⟨quasis, -, h⟩ := except_bind_eq_ok.1 h
  cases h
  rfl

theorem prints_template {key : Text} {below : Made (List Node)} {ws : List Wrapped}
    {qs : List (Nat × Nat × List Piece)} (hsees : Sees env (some name) frames f)
    (hkind : f.node.kind = "template_string")
    (hkey : (templateKey? env name ⟨f.node, frames⟩).result = .ok (some key))
    (hf : f.node.LaidAt a b)
    (hkept : Printed (((keptFoci env.source f).map (·.2)).map (·.node)) below.part qs)
    (hws : List.Forall₂ (Wrapped.Edits env) ws (qs.flatMap fun q => literalsOf q.2.2)) :
    ∃ ps, Prints (ofTemplate env key f.node ((keptExpressions env.source f.node.items).map (·.1))
        below).part a b ps ∧
      List.Forall₂ (Wrapped.Edits env) (⟨f, [], [], none⟩ :: ws) (literalsOf ps) := by
  obtain ⟨parts, hparts, -, -, hkey⟩ := templateKey?_eq_some hkey
  have hnodes : ((keptFoci env.source f).map (·.2)).map (·.node) =
      (keptExpressions env.source f.node.items).map (·.2) := by
    rw [← map_keptFoci hsees.parsed.laid, List.map_map, List.map_map]
    rfl
  have hjsx : ∀ n ∈ ((keptFoci env.source f).map (·.2)).map (·.node),
      Literal.isJsxText n = false := by
    intro n hn
    obtain ⟨p, hp, rfl⟩ := List.mem_map.1 hn
    exact hsees.isJsxText_kept p hp
  obtain ⟨hoptions, hsame⟩ := hkept.optionsPrint hjsx
    ((keptExpressions env.source f.node.items).map (·.1)) (by rw [hnodes]; simp)
  rw [hnodes, ← List.zip_of_prod rfl rfl] at hsame
  obtain ⟨es, hes, hslots, hlit⟩ := Wrap.emits_lookupCall env.function.spelling key hoptions
  refine ⟨[.replaced a b es], .literal rfl ⟨hf.2.1, hf.2.2⟩ (le_of_laidAt hf) hes, ?_⟩
  rw [literalsOf, literals, hlit, literalsOf, List.append_nil]
  -- The expressions may have calls in them by now, but they are where they were, so the new text of
  -- the template is the one it has as parsed.
  refine .cons ⟨hf.2.1, hf.2.2, _, ?_, hslots.trans (Wrap.slots_lookupCall_congr hsame)⟩ hws
  have hstring : ¬ (f.node.kind == "string") = true := by rw [hkind]; decide
  rw [Wrapped.rewriting, if_neg hstring, hkind, beq_self_eq_true, if_pos rfl, hparts]
  show Wrap.ofTemplate env.source env.function.spelling parts = _
  rw [Wrap.ofTemplate, hkey, keptExpressions_eq hparts]
  rfl

end Literals

theorem prints_reassemble {env : Env} {owner owner' : Option Text} {frames : List Frame} {f : Focus}
    {below : Made (List Node)} {ws : List Wrapped} {qs : List (Nat × Nat × List Piece)} {a b : Nat}
    (hsees : Sees env owner frames f)
    (hbelow : Visits env owner' f.node.info frames [] 0 f.children below ws)
    (hprinted : Printed (f.children.map (·.node)) below.part qs)
    (hws : List.Forall₂ (Wrapped.Edits env) ws (qs.flatMap fun q => literalsOf q.2.2))
    (hf : f.node.LaidAt a b) :
    ∃ ps, Prints (reassemble f.node.info below).part a b ps ∧
      List.Forall₂ (Wrapped.Edits env) ws (literalsOf ps) := by
  -- Only a node below which something was wrapped is dirty and printed by its items.
  cases hchanged : below.changed with
  | false =>
    have hnil : ws = [] := by simpa [hbelow.changed] using hchanged
    rw [part_of_isSame hsees (hbelow.isSame hnil) hchanged, hnil]
    exact ⟨_, .clean hf, .nil⟩
  | true =>
    rw [Focus.map_node_children hsees.parsed.laid] at hprinted
    obtain ⟨node, was⟩ := f
    cases node with
    | text t => simpa [isLaid] using hsees.parsed.laid
    | branch i items =>
      obtain ⟨hbuilt, -, -, m, e, hm, he, hitems⟩ := isLaid_branch.1 hf.1
      obtain ⟨-, ha, hb⟩ := hf
      simp only [info, hm, he, Option.map_some, Option.some.injEq] at ha hb
      subst ha hb
      obtain ⟨ps, hps, hlit⟩ := hprinted.printsItems hitems
      refine ⟨ps, ?_, hlit ▸ hws⟩
      refine .spliced hbuilt ?_ ⟨by simp [info, hm], he⟩ hps
      simp only [info, hchanged, Bool.or_true]

def InOrder (places : List Focus) : Prop :=
  (∃ a b, areLaid a b (places.map (·.node)) = true) ∨
    ∀ p ∈ places, Literal.isJsxText p.node = false

theorem InOrder.tail {f : Focus} {places : List Focus} (h : InOrder (f :: places)) :
    InOrder places := by
  rcases h with ⟨a, b, h⟩ | h
  · obtain ⟨c, d, -, -, hrest⟩ := areLaid_cons.1 h
    exact .inl ⟨d, b, hrest⟩
  · exact .inr fun p hp => h p (List.mem_cons_of_mem _ hp)

theorem InOrder.drop {places : List Focus} (h : InOrder places) (k : Nat) :
    InOrder (places.drop k) := by
  induction k generalizing places with
  | zero => exact h
  | succ k ih =>
    cases places with
    | nil => exact h
    | cons f places => exact ih h.tail

theorem inOrder_children {f : Focus} (h : f.node.Parsed) : InOrder f.children := by
  rw [InOrder, Focus.map_node_children h.laid]
  obtain ⟨node, was⟩ := f
  cases node with
  | text t => simpa [isLaid] using h.laid
  | branch i items =>
    obtain ⟨-, -, -, m, e, -, -, hitems⟩ := isLaid_branch.1 h.laid
    exact .inl ⟨_, _, hitems⟩

theorem InOrder.run {f : Focus} {more rest : List Focus} (h : InOrder (f :: (more ++ rest)))
    (hjsx : Literal.isJsxText f.node = true) :
    ∃ a b, f.node.info.start.map (·.offset) = some a ∧
      ((more.map (·.node)).getLastD f.node).info.stop = some b ∧ a ≤ b := by
  rcases h with ⟨a, b, h⟩ | h
  · rw [List.map_cons, List.map_append] at h
    obtain ⟨c, d, hf, -, hrest⟩ := areLaid_cons.1 h
    have hlast : ((more.map (·.node)).getLastD f.node).isLaid = true := by
      refine isLaid_of_mem h ?_
      rw [List.getLastD_eq_getLast?, ← List.cons_append]
      refine List.mem_append_left _ ?_
      cases hlast : (more.map (·.node)).getLast? with
      | none => exact List.mem_cons_self
      | some n => exact List.mem_cons_of_mem _ (List.mem_of_getLast? hlast)
    obtain ⟨c', d', hlast⟩ := exists_laidAt hlast
    obtain ⟨-, hle, -⟩ := Printed.areLaid_run h hf.2.1 hlast.2.2
    exact ⟨c, d', hf.2.1, hlast.2.2, hle⟩
  · rw [h f List.mem_cons_self] at hjsx
    cases hjsx

mutual

theorem Visit.prints {env : Env} {owner : Option Text} {frames : List Frame} {f : Focus}
    {made : Made Node} {ws : List Wrapped} : Visit env owner frames f made ws →
      ∀ {a b : Nat}, f.node.LaidAt a b → ∃ ps, Prints made.part a b ps ∧
        List.Forall₂ (Wrapped.Edits env) ws (literalsOf ps)
  | .skipped _ _, _, _, hf => ⟨_, .clean hf, .nil⟩
  | .otherString _ _ _ _ _, _, _, hf => ⟨_, .clean hf, .nil⟩
  | .string hsees _ _ hkind hwrap, _, _, hf => prints_string hsees hkind hwrap hf
  | .entered hsees _ hbelow, _, _, hf => by
    obtain ⟨qs, hqs, hws⟩ := hbelow.prints (parsed_children hsees.parsed) (inOrder_children hsees.parsed)
    exact prints_reassemble hsees hbelow hqs hws hf
  | .component hsees _ _ _ hbelow, _, _, hf => by
    obtain ⟨qs, hqs, hws⟩ := hbelow.prints (parsed_children hsees.parsed) (inOrder_children hsees.parsed)
    obtain ⟨ps, hps, hlit⟩ := prints_reassemble hsees hbelow hqs hws hf
    exact ⟨ps, hps, List.forall₂_map_left_iff.2 hlit⟩
  | .template hsees _ _ hkind hkey hbelow, _, _, hf => by
    obtain ⟨qs, hqs, hws⟩ := hbelow.prints hsees.parsed_kept (.inr hsees.isJsxText_kept)
    exact prints_template hsees hkind hkey hf hqs hws

theorem Visits.prints {env : Env} {owner : Option Text} {parent : Info} {frames : List Frame}
    {before : List Node} {k : Nat} {places : List Focus} {made : Made (List Node)}
    {ws : List Wrapped} : Visits env owner parent frames before k places made ws →
      (∀ p ∈ places, p.node.Parsed) → InOrder places →
      ∃ qs, Printed (places.map (·.node)) made.part qs ∧
        List.Forall₂ (Wrapped.Edits env) ws (qs.flatMap fun q => literalsOf q.2.2)
  | .nil, _, _ => ⟨[], .nil, .nil⟩
  | .node _ hfirst hrest, hparsed, horder => by
    rw [List.forall_mem_cons] at hparsed
    obtain ⟨qs, hqs, hws⟩ := hrest.prints hparsed.2 horder.tail
    obtain ⟨a, b, hf⟩ := exists_laidAt hparsed.1.laid
    obtain ⟨ps, hps, hus⟩ := hfirst.prints hf
    have hchild := hfirst.stays.isChild.trans (isChild_of_isLaid hparsed.1.laid)
    have hbelow : List.Forall₂ (Wrapped.Edits env) (List.map (Wrapped.below k) _) (literalsOf ps) :=
      List.forall₂_map_left_iff.2 hus
    exact ⟨_, .node hf hps hchild hqs, List.rel_append hbelow hws⟩
  | .otherRun _ hmore _ hrest, hparsed, horder => by
    rw [← append_drop_takeWhile hmore, ← List.cons_append, List.forall_mem_append] at hparsed
    obtain ⟨qs, hqs, hws⟩ := hrest.prints hparsed.2 (horder.tail.drop _)
    obtain ⟨ps, hps, hlit⟩ := Printed.clean hparsed.1
    rw [← append_drop_takeWhile hmore, ← List.cons_append, List.map_append]
    refine ⟨ps ++ qs, hps.append hqs, ?_⟩
    rw [List.flatMap_append, hlit]
    exact hws
  | .run _ _ hjsx hmore hwrap hrest, hparsed, horder => by
    rw [← append_drop_takeWhile hmore, ← List.cons_append, List.forall_mem_append] at hparsed
    obtain ⟨qs, hqs, hws⟩ := hrest.prints hparsed.2 (horder.tail.drop _)
    rw [← append_drop_takeWhile hmore] at horder
    obtain ⟨a, b, ha, hb, hle⟩ := horder.run hjsx
    obtain ⟨ps, hps, hlit⟩ := prints_run hjsx hwrap ha hb hle
    rw [← append_drop_takeWhile hmore, List.map_cons, List.map_append]
    exact ⟨_, .run hjsx ha hb hps hqs, List.rel_append hlit hws⟩

end

end Pass
end Phrasebook
