import Mathlib.Data.List.Forall2
import Phrasebook.Proofs.Literal.Quoting
import Phrasebook.Proofs.Wrap.Situation
import Phrasebook.Proofs.Wrap.Template

/-! What a parser reads in the text of an edited tree. A node that was not built is read as a node of
its kind, and a call that was put in as a call of a name with a string and an object of options. Among
what is read stand the statements that a pass adds, and blank JSX text beside the braces it puts in.
The walk leaves all of it alone as soon as it leaves what stands for nodes of the edited tree. -/

namespace Phrasebook

open Node

namespace Node

/-- Whether there is no literal at a node or below it. -/
def isBare (n : Node) : Bool := n.preorder.all fun m => !literalKinds.contains m.kind

def isSilent (n : Node) : Bool := Pass.skippedKinds.contains n.kind || n.isBare

def isNamed (n : Node) : Bool := n.field.any Literal.nameFields.contains

def holdsFunction (n : Node) : Bool := n.preorder.any Scope.isFunction

end Node

/-- The texts of a template around its substitutions. -/
def Literal.quasis (source : Bytes) (n : Node) : Except Fault (List Text) :=
  (templateParts source n).map (·.quasis)

namespace Pass

/-- Kinds of nodes that the text of a call, or of a block around a body, puts around a node. -/
def enclosingKinds : List String := ["object", "pair", "statement_block", "return_statement"]

/-- The text of a run of JSX text from one of its nodes on. -/
def runText (source : Bytes) (f : Focus) : Text :=
  Literal.runSource source (f.node :: f.siblingsAfter.takeWhile Literal.isJsxText)

def followsText (f : Focus) : Bool := f.siblingsBefore.head?.any Literal.isJsxText

/-- What is the same of a node and of the one that its text is read as. -/
structure Resembles (env env' : Env) (spot : Option Mark → Focus) (e m : Focus) : Prop where
  kind : m.node.kind = e.node.kind
  named : m.node.named = e.node.named
  text : e.node.kind = "string" ∨ tokenKinds.contains e.node.kind = true →
    m.node.textD env'.source = e.node.textD env.source
  quasis : e.node.kind = "template_string" →
    Literal.quasis env'.source m.node = Literal.quasis env.source e.node
  spot : literalKinds.contains e.node.kind = true → spot e.node.info.start = m

mutual

/-- A place of an edited tree and the place that its text is read as. -/
inductive Reads (env env' : Env) (spot : Option Mark → Focus) : Focus → Focus → Prop
  | skipped {e m : Focus} (hbuilt : e.node.info.built = false)
      (hskip : skippedKinds.contains e.node.kind = true) (hkind : m.node.kind = e.node.kind) :
      Reads env env' spot e m
  | text {e m : Focus} (hbuilt : e.node.info.built = false) (he : Literal.isJsxText e.node = true)
      (hm : Literal.isJsxText m.node = true) (hleaf : e.node.items = [] ∧ m.node.items = [])
      (hrun : runText env'.source m = runText env.source e)
      (hfollows : followsText m = followsText e) (hspot : spot e.node.info.start = m) :
      Reads env env' spot e m
  | same {e m : Focus} (hbuilt : e.node.info.built = false)
      (hjsx : Literal.isJsxText e.node = false) (h : Resembles env env' spot e m)
      (hitems : ReadsItems env env' spot e.children m.children) : Reads env env' spot e m
  | call {e m callee arguments opening key : Focus} {function literal : Text} {tail : List Node}
      {more : List Focus} (hbuilt : e.node.info.built = true) (he : e.node.kind = "call_expression")
      (htexts : e.node.items = .text (function ++ "(") :: .text literal :: tail)
      (hm : m.node.kind = "call_expression") (hchildren : m.children = [callee, arguments])
      (hcallee : callee.node.kind = "identifier") (hfield : callee.node.field = some "function")
      (hname : callee.node.textD env'.source = function) (harguments : arguments.node.kind = "arguments")
      (hlist : arguments.children = opening :: key :: more) (hopening : opening.node.isBare = true)
      (hkey : key.node.kind = "string") (hliteral : key.node.textD env'.source = literal)
      (hmore : Encloses env env' spot e.children more) : Reads env env' spot e m
  | braced {e c m opening n closing : Focus} (hbuilt : e.node.info.built = true)
      (he : e.node.kind = "jsx_expression") (hchild : e.children = [c])
      (hm : m.node.kind = "jsx_expression") (hchildren : m.children = [opening, n, closing])
      (hopening : opening.node.isBare = true) (hclosing : closing.node.isBare = true)
      (h : Reads env env' spot c n) : Reads env env' spot e m
  | spaced {e c m : Focus} (hbuilt : e.node.info.built = true) (he : e.node.kind = "synthetic")
      (hchild : e.children = [c]) (hm : m.node.kind = "jsx_expression") (h : Reads env env' spot c m) :
      Reads env env' spot e m

/-- Children in an edited tree and the children that their text is read as. -/
inductive ReadsItems (env env' : Env) (spot : Option Mark → Focus) : List Focus → List Focus → Prop
  | nil : ReadsItems env env' spot [] []
  | node {e m : Focus} {es ms : List Focus} (hfield : m.node.field = e.node.field)
      (h : Reads env env' spot e m) (hrest : ReadsItems env env' spot es ms) :
      ReadsItems env env' spot (e :: es) (m :: ms)
  /-- A concise body, read in the block that a pass puts around it. -/
  | body {e m : Focus} {es ms : List Focus} (hparent : m.parentKind? = some "arrow_function")
      (hbody : e.node.field = some "body") (hfield : m.node.field = e.node.field)
      (hm : m.node.kind = "statement_block") (h : Encloses env env' spot [e] m.children)
      (hrest : ReadsItems env env' spot es ms) : ReadsItems env env' spot (e :: es) (m :: ms)
  | added {m : Focus} {es ms : List Focus} (hm : m.node.isSilent = true) (hfield : m.node.field = none)
      (hrest : ReadsItems env env' spot es ms) : ReadsItems env env' spot es (m :: ms)
  /-- A directive: it may hold a string, but is in no component. -/
  | directive {m : Focus} {es ms : List Focus} (hin : Scope.inComponent env'.source m = false)
      (hm : m.node.holdsFunction = false) (hfield : m.node.field = none)
      (hrest : ReadsItems env env' spot es ms) : ReadsItems env env' spot es (m :: ms)
  | blank {m : Focus} {es ms : List Focus} (hm : Literal.isJsxText m.node = true)
      (hleaf : m.node.items = []) (hblank : Text.isBlank (runText env'.source m) = true)
      (hfield : m.node.field = none) (hrest : ReadsItems env env' spot es ms) :
      ReadsItems env env' spot es (m :: ms)

/-- Places of an edited tree that are read inside nodes for which there is none in the edited tree. -/
inductive Encloses (env env' : Env) (spot : Option Mark → Focus) : List Focus → List Focus → Prop
  | nil : Encloses env env' spot [] []
  | added {m : Focus} {es ms : List Focus} (hm : m.node.isSilent = true)
      (hrest : Encloses env env' spot es ms) : Encloses env env' spot es (m :: ms)
  | value {e m : Focus} {es ms : List Focus}
      (hparent : m.parentKind?.any enclosingKinds.contains = true) (he : e.node.isNamed = false)
      (hm : m.node.isNamed = false) (h : Reads env env' spot e m) (hrest : Encloses env env' spot es ms) :
      Encloses env env' spot (e :: es) (m :: ms)
  | within {m : Focus} {es es' ms : List Focus}
      (hkind : enclosingKinds.contains m.node.kind = true) (h : Encloses env env' spot es m.children)
      (hrest : Encloses env env' spot es' ms) : Encloses env env' spot (es ++ es') (m :: ms)

end

section Still

variable {env : Env} {f g : Focus}

/-- A place from which on the walk leaves everything as it is. -/
def Still (env : Env) (f : Focus) : Prop := ∀ g, Reaches env f g → Rests env g

def Covers (env : Env) (ds qs : List Focus) : Prop := (∀ d ∈ ds, Still env d) ↔ ∀ q ∈ qs, Still env q

theorem still_of_skipped (h : skippedKinds.contains f.node.kind = true) : Still env f := by
  intro g hg
  cases hg with
  | here => exact rests_of_skipped h
  | step hskip _ _ _ =>
    rw [h] at hskip
    cases hskip

theorem still_iff_of_literal (hin : Scope.inComponent env.source f = true)
    (h : f.node.kind = "string" ∨ Literal.isJsxText f.node = true) : Still env f ↔ Rests env f := by
  refine ⟨fun hstill => hstill f (.here f), fun hrests g hg => ?_⟩
  cases hg with
  | here => exact hrests
  | step _ hliteral _ _ =>
    rcases h with h | h
    · exact ((hliteral hin).1 h).elim
    · rw [(hliteral hin).2] at h
      cases h

theorem still_iff (hskip : skippedKinds.contains f.node.kind = false)
    (hliteral : Scope.inComponent env.source f = true →
      f.node.kind ≠ "string" ∧ Literal.isJsxText f.node = false) :
    Still env f ↔ Rests env f ∧ ∀ c ∈ f.children, Still env c := by
  constructor
  · intro h
    exact ⟨h f (.here f), fun c hc g hg => h g (.step hskip hliteral hc hg)⟩
  · rintro ⟨hrests, hchildren⟩ g hg
    cases hg with
    | here => exact hrests
    | step _ _ hc h => exact hchildren _ hc _ h

theorem rests_of_kind (hkind : literalKinds.contains f.node.kind = false) : Rests env f := by
  rintro - more (⟨h, -⟩ | ⟨h, -⟩ | ⟨h, -, -⟩)
  · rw [h] at hkind
    exact absurd hkind (by decide)
  · rw [h] at hkind
    exact absurd hkind (by decide)
  · simp only [literalKinds, List.contains_cons, Bool.or_eq_false_iff] at hkind
    rw [Literal.isJsxText, hkind.2.2] at h
    cases h

theorem still_iff_children (hskip : skippedKinds.contains f.node.kind = false)
    (hkind : literalKinds.contains f.node.kind = false) :
    Still env f ↔ ∀ c ∈ f.children, Still env c := by
  have hliteral : f.node.kind ≠ "string" ∧ Literal.isJsxText f.node = false := by
    simp only [literalKinds, List.contains_cons, Bool.or_eq_false_iff, beq_eq_false_iff_ne] at hkind
    exact ⟨hkind.1, hkind.2.2⟩
  rw [still_iff hskip fun _ => hliteral]
  exact ⟨And.right, fun h => ⟨rests_of_kind hkind, h⟩⟩

theorem preorder_subset_of_mem_children {c : Focus} (hf : f.node.Parsed) (hc : c ∈ f.children) :
    c.node.Parsed ∧ c.node.preorder ⊆ f.node.preorder := by
  have hmem : c.node ∈ f.node.items := by
    rw [← Focus.map_node_children hf.laid]
    exact List.mem_map_of_mem hc
  have hparsed := hf.of_mem_items hmem
  refine ⟨hparsed, fun n hn => ?_⟩
  have hn' := mem_preorderItems hmem (isChild_of_isLaid hparsed.laid) hn
  obtain ⟨n, frames⟩ := f
  cases n with
  | text t => cases hmem
  | branch i items =>
    rw [preorder]
    exact List.mem_cons_of_mem _ hn'

theorem mem_preorder_of_parsed {n : Node} (h : n.Parsed) : n ∈ n.preorder := by
  cases n with
  | text t => simpa [isLaid] using h.laid
  | branch i items => exact mem_preorder_self

theorem mem_preorder_of_reaches (h : Reaches env f g) (hf : f.node.Parsed) :
    g.node ∈ f.node.preorder := by
  induction h with
  | here f => exact mem_preorder_of_parsed hf
  | step _ _ hc _ ih =>
    obtain ⟨hparsed, hsub⟩ := preorder_subset_of_mem_children hf hc
    exact hsub (ih hparsed)

theorem still_of_isSilent (h : f.node.isSilent = true) (hf : f.node.Parsed) : Still env f := by
  rcases Bool.or_eq_true_iff.1 h with hskip | hbare
  · exact still_of_skipped hskip
  · intro g hg
    have := List.all_eq_true.1 hbare _ (mem_preorder_of_reaches hg hf)
    exact rests_of_kind (by simpa using this)

theorem still_of_isBare (h : f.node.isBare = true) (hf : f.node.Parsed) : Still env f :=
  still_of_isSilent (by rw [isSilent, h, Bool.or_true]) hf

theorem still_of_holdsFunction (hf : f.node.Parsed) (hin : Scope.inComponent env.source f = false)
    (hfn : f.node.holdsFunction = false) : Still env f := by
  intro g hg
  induction hg with
  | here f =>
    intro hin'
    rw [hin] at hin'
    cases hin'
  | step _ _ hc _ ih =>
    obtain ⟨hparsed, hsub⟩ := preorder_subset_of_mem_children hf hc
    have hnone := List.any_eq_false.1 hfn
    refine ih hparsed ?_ (List.any_eq_false.2 fun n hn => hnone n (hsub hn))
    rw [inComponent_child hc, hin, Bool.or_false, Bool.and_eq_false_iff]
    exact .inl (by simpa using hnone _ (mem_preorder_of_parsed hf))

theorem rests_of_text (hjsx : Literal.isJsxText f.node = true)
    (h : Scope.inComponent env.source f = true → followsText f = false →
      ∃ value phrase, Literal.jsxValue (runText env.source f) = .ok value ∧
        Literal.isPhrase env.script [value] = .ok phrase ∧ (phrase && !env.isExcluded f) = false) :
    Rests env f := by
  obtain ⟨hstring, htemplate⟩ := kind_of_isJsxText hjsx
  rintro hin more (⟨hkind, -⟩ | ⟨hkind, -⟩ | ⟨-, hmore, hfirst⟩)
  · exact (hstring hkind).elim
  · exact (htemplate hkind).elim
  obtain ⟨value, phrase, hvalue, hphrase, hsettled⟩ := h hin hfirst
  refine ⟨[value], phrase, ?_, hphrase, hsettled⟩
  rw [shown, if_neg (by simpa using hstring), if_neg (by simpa using htemplate), hmore,
    show Literal.runSource env.source _ = runText env.source f from rfl, hvalue]
  rfl

theorem still_of_leaf (hf : f.node.items = []) (h : Rests env f) : Still env f := by
  intro g hg
  cases hg with
  | here => exact h
  | step _ _ hc _ =>
    rw [Focus.children, hf] at hc
    cases hc

theorem still_of_blank (hjsx : Literal.isJsxText f.node = true) (hf : f.node.items = [])
    (hblank : Text.isBlank (runText env.source f) = true) : Still env f := by
  refine still_of_leaf hf (rests_of_text hjsx fun _ _ => ?_)
  have hvalue : ∃ value, Literal.jsxValue (runText env.source f) = .ok value := by
    rw [Literal.jsxValue, decode_of_isBlank hblank]
    exact ⟨_, rfl⟩
  obtain ⟨value, hvalue⟩ := hvalue
  exact ⟨value, false, hvalue, isPhrase_jsxValue_of_isBlank hblank hvalue, rfl⟩

section Covering

variable {d q : Focus} {ds qs qs' : List Focus}

theorem Covers.nil (env : Env) : Covers env [] [] := Iff.rfl

theorem Covers.cons (h : Covers env ds qs) (d : Focus) : Covers env (d :: ds) (d :: qs) := by
  rw [Covers, List.forall_mem_cons, List.forall_mem_cons]
  exact and_congr_right fun _ => h

theorem Covers.cons_still (h : Covers env ds qs) (hd : Still env d) : Covers env (d :: ds) qs := by
  rw [Covers, List.forall_mem_cons]
  exact (and_iff_right hd).trans h

theorem Covers.cons_children (h : Covers env ds qs) (hd : Covers env d.children qs')
    (hskip : skippedKinds.contains d.node.kind = false)
    (hkind : literalKinds.contains d.node.kind = false) : Covers env (d :: ds) (qs' ++ qs) := by
  rw [Covers, List.forall_mem_cons, List.forall_mem_append, still_iff_children hskip hkind]
  exact and_congr hd h

end Covering

end Still

section Traits

variable {env env' : Env} {spot : Option Mark → Focus} {e m : Focus}

theorem Reads.text_of_token (h : Reads env env' spot e m) (hm : tokenKinds.contains m.node.kind = true) :
    m.node.kind = e.node.kind ∧ m.node.textD env'.source = e.node.textD env.source := by
  have hnot (kind : String) (hkind : tokenKinds.contains kind = false) : m.node.kind ≠ kind := by
    rintro h
    rw [h, hkind] at hm
    cases hm
  cases h with
  | skipped _ hskip hkind =>
    have hkinds := of_contains (p := fun k => !skippedKinds.contains k) hm (by decide)
    rw [hkind, hskip] at hkinds
    cases hkinds
  | text _ _ htext _ _ _ _ =>
    have hkinds := of_contains (p := fun k => !Literal.jsxTextKinds.contains k) hm (by decide)
    rw [show Literal.jsxTextKinds.contains m.node.kind = true from htext] at hkinds
    cases hkinds
  | same _ _ h _ => exact ⟨h.kind, h.text (.inr (h.kind ▸ hm))⟩
  | call _ _ _ hcall _ _ _ _ _ _ _ _ _ _ => exact (hnot _ (by decide) hcall).elim
  | braced _ _ _ hbraces _ _ _ _ => exact (hnot _ (by decide) hbraces).elim
  | spaced _ _ _ hbraces _ => exact (hnot _ (by decide) hbraces).elim

/-- Kinds of nodes that are not read as nodes of the same kind. -/
def textualKinds : List String := "synthetic" :: "jsx_expression" :: Literal.jsxTextKinds

theorem Reads.kind_iff (h : Reads env env' spot e m) {kind : String}
    (hkind : textualKinds.contains kind = false) : m.node.kind = kind ↔ e.node.kind = kind := by
  have hnot (n : Node) (hn : textualKinds.contains n.kind = true) : n.kind ≠ kind := by
    rintro rfl
    rw [hkind] at hn
    cases hn
  have htext (n : Node) (hn : Literal.isJsxText n = true) : n.kind ≠ kind := by
    refine hnot n ?_
    rw [textualKinds, List.contains_cons, List.contains_cons]
    rw [show Literal.jsxTextKinds.contains n.kind = true from hn, Bool.or_true, Bool.or_true]
  cases h with
  | skipped _ _ h => rw [h]
  | text _ he hm _ _ _ _ => exact iff_of_false (htext _ hm) (htext _ he)
  | same _ _ h _ => rw [h.kind]
  | call _ he _ hm _ _ _ _ _ _ _ _ _ _ => rw [he, hm]
  | braced _ he _ hm _ _ _ _ => rw [he, hm]
  | spaced _ he _ hm _ =>
    exact iff_of_false (hnot _ (by rw [hm]; decide)) (hnot _ (by rw [he]; decide))

theorem Reads.resembles (h : Reads env env' spot e m)
    (hold : e.node.info.built = false ∨ newKinds.contains e.node.kind = false)
    (hskip : skippedKinds.contains e.node.kind = false) (hjsx : Literal.isJsxText e.node = false) :
    Resembles env env' spot e m ∧ ReadsItems env env' spot e.children m.children := by
  have hnot (hbuilt : e.node.info.built = true) (hnew : newKinds.contains e.node.kind = true) :
      False := by
    rcases hold with hold | hold
    · rw [hold] at hbuilt
      cases hbuilt
    · rw [hold] at hnew
      cases hnew
  cases h with
  | skipped _ h _ =>
    rw [h] at hskip
    cases hskip
  | text _ he _ _ _ _ _ =>
    rw [he] at hjsx
    cases hjsx
  | same _ _ h hitems => exact ⟨h, hitems⟩
  | call hbuilt he _ _ _ _ _ _ _ _ _ _ _ _ => exact (hnot hbuilt (by rw [he]; decide)).elim
  | braced hbuilt he _ _ _ _ _ _ => exact (hnot hbuilt (by rw [he]; decide)).elim
  | spaced hbuilt he _ _ _ => exact (hnot hbuilt (by rw [he]; decide)).elim

theorem Reads.of_text (h : Reads env env' spot e m) (hclean : e.node.info.built = false)
    (hjsx : Literal.isJsxText e.node = true) : Literal.isJsxText m.node = true ∧
      m.node.items = [] ∧ runText env'.source m = runText env.source e ∧
      followsText m = followsText e ∧ spot e.node.info.start = m := by
  cases h with
  | skipped _ hskip _ =>
    have hkinds := of_contains (p := fun k => !skippedKinds.contains k) hjsx (by decide)
    rw [hskip] at hkinds
    cases hkinds
  | text _ _ hm hleaf hrun hfollows hspot => exact ⟨hm, hleaf.2, hrun, hfollows, hspot⟩
  | same _ hnot _ _ =>
    rw [hjsx] at hnot
    cases hnot
  | call hbuilt _ _ _ _ _ _ _ _ _ _ _ _ _ =>
    rw [hclean] at hbuilt
    cases hbuilt
  | braced hbuilt _ _ _ _ _ _ _ =>
    rw [hclean] at hbuilt
    cases hbuilt
  | spaced hbuilt _ _ _ _ =>
    rw [hclean] at hbuilt
    cases hbuilt

theorem ReadsItems.find? {es ms : List Focus} (h : ReadsItems env env' spot es ms) {name : String}
    (hname : name ≠ "body") : Option.Rel (Reads env env' spot)
      (es.find? fun c => c.node.field == some name) (ms.find? fun c => c.node.field == some name) := by
  have hpass {m : Focus} (ms : List Focus) (hfield : m.node.field ≠ some name) :
      ((m :: ms).find? fun c => c.node.field == some name) =
        ms.find? fun c => c.node.field == some name :=
    List.find?_cons_of_neg (by simpa using hfield)
  match h with
  | .nil => exact .none
  | .node hfield h hrest =>
    rw [List.find?_cons, List.find?_cons, hfield]
    split
    · exact .some h
    · exact hrest.find? hname
  | .body _ hbody hfield _ _ hrest =>
    have hother : some "body" ≠ some name := fun h => hname (Option.some.inj h).symm
    rw [hpass _ (hbody ▸ hother), hpass _ (hfield ▸ hbody ▸ hother)]
    exact hrest.find? hname
  | .added _ hfield hrest =>
    rw [hpass _ (by simp [hfield])]
    exact hrest.find? hname
  | .directive _ _ hfield hrest =>
    rw [hpass _ (by simp [hfield])]
    exact hrest.find? hname
  | .blank _ _ _ hfield hrest =>
    rw [hpass _ (by simp [hfield])]
    exact hrest.find? hname

theorem node_childByField? (f : Focus) (name : String) :
    f.node.childByField? name = (f.children.find? fun c => c.node.field == some name).map (·.node) := by
  rw [Node.childByField?, Node.children, ← Focus.map_node_ofItems f.node.info f.frames [], List.find?_map]
  rfl

theorem Reads.childByField? (h : ReadsItems env env' spot e.children m.children) (hm : m.node.Parsed)
    {name : String} (hname : name ≠ "body") :
    Option.Rel (fun n n' => n'.Parsed ∧ ∃ frames frames', Reads env env' spot ⟨n, frames⟩ ⟨n', frames'⟩)
      (e.node.childByField? name) (m.node.childByField? name) := by
  have hrel := h.find? hname
  rw [node_childByField?, node_childByField?]
  cases hfound : m.children.find? fun c => c.node.field == some name with
  | none =>
    rw [hfound] at hrel
    cases he : e.children.find? fun c => c.node.field == some name with
    | none => exact .none
    | some c =>
      rw [he] at hrel
      cases hrel
  | some c' =>
    have hc' := (preorder_subset_of_mem_children hm (List.mem_of_find?_eq_some hfound)).1
    rw [hfound] at hrel
    cases he : e.children.find? fun c => c.node.field == some name with
    | none =>
      rw [he] at hrel
      cases hrel
    | some c =>
      rw [he] at hrel
      cases hrel with
      | some h => exact .some ⟨hc', c.frames, c'.frames, h⟩

theorem identifier?_of_reads {n n' : Node} {frames frames' : List Frame}
    (h : Reads env env' spot ⟨n, frames⟩ ⟨n', frames'⟩) :
    n'.identifier? env'.source = n.identifier? env.source := by
  by_cases hkind : n'.kind = "identifier"
  · obtain ⟨hsame, htext⟩ := h.text_of_token (by rw [hkind]; decide)
    rw [identifier?, identifier?, show n.kind = n'.kind from hsame.symm,
      show n'.textD env'.source = n.textD env.source from htext]
  · have hkind' : n.kind ≠ "identifier" := fun hn => hkind ((h.kind_iff (by decide)).2 hn)
    rw [identifier?, identifier?, beq_false_of_ne hkind, beq_false_of_ne hkind']
    rfl

theorem property_of_reads {n n' : Node} {frames frames' : List Frame} (hn' : n'.Parsed)
    (h : Reads env env' spot ⟨n, frames⟩ ⟨n', frames'⟩) (hkind : n'.kind = "member_expression") :
    (n'.childByField? "property").map (·.textD env'.source) =
      (n.childByField? "property").map (·.textD env.source) := by
  have hn : n.kind = "member_expression" := (h.kind_iff (by decide)).1 hkind
  obtain ⟨-, hitems⟩ := h.resembles (.inr (by rw [hn]; decide)) (by rw [hn]; decide)
    (by rw [Literal.isJsxText, hn]; decide)
  have hrel := Reads.childByField? (e := ⟨n, frames⟩) (m := ⟨n', frames'⟩) hitems hn'
    (show "property" ≠ "body" by decide)
  have htoken := fun c => hn'.property_token (c := c) hkind
  generalize n'.childByField? "property" = found' at hrel htoken ⊢
  generalize n.childByField? "property" = found at hrel ⊢
  cases hrel with
  | none => rfl
  | some hc =>
    obtain ⟨-, _, _, hc⟩ := hc
    exact congrArg some (hc.text_of_token (htoken _ rfl)).2

theorem isCallOf_eq (source : Bytes) (function : Word) (n : Node) :
    Literal.isCallOf source function n = (n.kind == "call_expression" &&
      (n.childByField? "function").any fun callee =>
        ((callee.identifier? source).any function.names ||
          (callee.kind == "member_expression" &&
            ((callee.childByField? "property").map (·.textD source)).any function.names))) := by
  rw [Literal.isCallOf]
  congr 1
  cases n.childByField? "function" with
  | none => rfl
  | some callee =>
    rw [Option.any_some, identifier?]
    by_cases hid : callee.kind = "identifier"
    · simp [hid]
    · by_cases hmember : callee.kind = "member_expression"
      · cases hproperty : callee.childByField? "property" <;> simp [hmember, hproperty]
      · simp [hid, hmember]

theorem isCallOf_of_reads {function : Word} (h : ReadsItems env env' spot e.children m.children)
    (hm : m.node.Parsed) (hkind : m.node.kind = e.node.kind) :
    Literal.isCallOf env'.source function m.node = Literal.isCallOf env.source function e.node := by
  have hrel := Reads.childByField? h hm (show "function" ≠ "body" by decide)
  rw [isCallOf_eq, isCallOf_eq, hkind]
  congr 1
  generalize m.node.childByField? "function" = found' at hrel ⊢
  generalize e.node.childByField? "function" = found at hrel ⊢
  cases hrel with
  | none => rfl
  | @some callee callee' hcallee =>
    obtain ⟨hparsed, _, _, hcallee⟩ := hcallee
    rw [Option.any_some, Option.any_some, identifier?_of_reads hcallee]
    congr 1
    by_cases hmember : callee'.kind = "member_expression"
    · rw [property_of_reads hparsed hcallee hmember, hmember,
        show callee.kind = "member_expression" from (hcallee.kind_iff (by decide)).1 hmember]
    · have hmember' : callee.kind ≠ "member_expression" := fun hc =>
        hmember ((hcallee.kind_iff (by decide)).2 hc)
      rw [beq_false_of_ne hmember, beq_false_of_ne hmember', Bool.false_and, Bool.false_and]

theorem traits_of_reads {function : Word} (h : ReadsItems env env' spot e.children m.children)
    (hm : m.node.Parsed) (hkind : m.node.kind = e.node.kind) (hnamed : m.node.named = e.node.named) :
    m.node.traits env'.source function = e.node.traits env.source function := by
  have hrel := Reads.childByField? h hm (show "name" ≠ "body" by decide)
  have hname (hdeclared : Scope.declaredKinds.contains e.node.kind = true) :
      (m.node.childByField? "name").map (·.textD env'.source) =
        (e.node.childByField? "name").map (·.textD env.source) := by
    have htoken := fun c => hm.name_token (c := c)
      (hkind ▸ namedKinds_of_declaredKinds hdeclared)
    generalize m.node.childByField? "name" = found' at hrel htoken ⊢
    generalize e.node.childByField? "name" = found at hrel ⊢
    cases hrel with
    | none => rfl
    | some hc =>
      obtain ⟨-, _, _, hc⟩ := hc
      exact congrArg some (hc.text_of_token (htoken _ rfl)).2
  have hdeclares : (m.node.childByField? "name").bind (identifier? env'.source) =
      (e.node.childByField? "name").bind (identifier? env.source) := by
    generalize m.node.childByField? "name" = found' at hrel ⊢
    generalize e.node.childByField? "name" = found at hrel ⊢
    cases hrel with
    | none => rfl
    | some hc =>
      obtain ⟨-, _, _, hc⟩ := hc
      exact identifier?_of_reads hc
  simp only [Node.traits, Traits.mk.injEq]
  refine ⟨hkind, hnamed, isCallOf_of_reads h hm hkind, ?_, by rw [hkind, hdeclares]⟩
  rw [hkind]
  split
  next hdeclared => exact hname hdeclared
  next => rfl

end Traits

/-- A place of an edited tree and one that its text is read as, where it stands in a given situation. -/
structure Twin (env env' : Env) (spot : Option Mark → Focus) (s : Situation) (e q : Focus) : Prop where
  reads : Reads env env' spot e q
  parsed : q.node.Parsed
  situation : q.situation env'.source env'.function = s
  suits : s.Suits e.node.field q.node.field

section Twins

variable {env env' : Env} {spot : Option Mark → Focus} {s : Situation}

theorem parentKind?_of_mem_children {g c : Focus} (hc : c ∈ g.children) :
    c.parentKind? = some g.node.kind := by
  obtain ⟨past, after, hframes⟩ := Focus.frames_of_mem_children hc
  rw [Focus.parentKind?, hframes]
  rfl

theorem Encloses.twins {g : Focus} {es ms : List Focus} (h : Encloses env env' spot es ms)
    (hg : g.node.Parsed) (hkind : freeKinds.contains g.node.kind = true)
    (hs : (g.situation env'.source env'.function).plain = s) (hms : ms ⊆ g.children) :
    ∃ qs, List.Forall₂ (Twin env env' spot s) es qs ∧ Covers env' ms qs := by
  match h with
  | .nil => exact ⟨[], .nil, .nil env'⟩
  | .added (m := m) hm hrest =>
    rw [List.cons_subset] at hms
    obtain ⟨qs, htwins, hcovers⟩ := hrest.twins hg hkind hs hms.2
    have hparsed := (preorder_subset_of_mem_children hg hms.1).1
    exact ⟨qs, htwins, hcovers.cons_still (still_of_isSilent hm hparsed)⟩
  | .value (e := e) (m := m) hparent he hm h hrest =>
    rw [List.cons_subset] at hms
    obtain ⟨qs, htwins, hcovers⟩ := hrest.twins hg hkind hs hms.2
    have hparsed := (preorder_subset_of_mem_children hg hms.1).1
    rw [parentKind?_of_mem_children hms.1, Option.any_some] at hparent
    have hplain := of_contains (p := plainKinds.contains) hparent (by decide)
    have hsituation : m.situation env'.source env'.function = s := by
      rw [Focus.situation_child hms.1, Situation.below_of_plainKinds _ hplain, hs]
    have htwin : Twin env env' spot s e m := ⟨h, hparsed, hsituation, .inr ⟨by rw [← hs]; rfl, he, hm⟩⟩
    exact ⟨m :: qs, .cons htwin htwins, hcovers.cons m⟩
  | .within (m := m) hm h hrest =>
    rw [List.cons_subset] at hms
    obtain ⟨qs, htwins, hcovers⟩ := hrest.twins hg hkind hs hms.2
    have hparsed := (preorder_subset_of_mem_children hg hms.1).1
    have hsituation : (m.situation env'.source env'.function).plain = s := by
      rw [Focus.situation_child hms.1, Situation.plain_below_of_free _ hkind, hs]
    have hkinds := of_contains (p := fun k => freeKinds.contains k && !skippedKinds.contains k &&
      !literalKinds.contains k) hm (by decide)
    simp only [Bool.and_eq_true, Bool.not_eq_true'] at hkinds
    obtain ⟨⟨hfree, hskip⟩, hliteral⟩ := hkinds
    obtain ⟨qs', htwins', hcovers'⟩ := h.twins hparsed hfree hsituation (List.Subset.refl _)
    exact ⟨qs' ++ qs, List.rel_append htwins' htwins,
      hcovers.cons_children hcovers' hskip hliteral⟩

theorem ReadsItems.twins {g : Focus} {es ms : List Focus} (h : ReadsItems env env' spot es ms)
    (hg : g.node.Parsed)
    (hs : (g.situation env'.source env'.function).below (g.node.traits env'.source env'.function)
      g.node.field = s) (hms : ms ⊆ g.children) :
    ∃ qs, List.Forall₂ (Twin env env' spot s) es qs ∧ Covers env' ms qs := by
  have hsituation (m : Focus) (hm : m ∈ g.children) : m.situation env'.source env'.function = s := by
    rw [Focus.situation_child hm, hs]
  match h with
  | .nil => exact ⟨[], .nil, .nil env'⟩
  | .node (e := e) (m := m) hfield h hrest =>
    rw [List.cons_subset] at hms
    obtain ⟨qs, htwins, hcovers⟩ := hrest.twins hg hs hms.2
    have hparsed := (preorder_subset_of_mem_children hg hms.1).1
    exact ⟨m :: qs, .cons ⟨h, hparsed, hsituation m hms.1, .inl hfield⟩ htwins, hcovers.cons m⟩
  | .body (e := e) (m := m) hparent hbody hfield hm h hrest =>
    rw [List.cons_subset] at hms
    obtain ⟨qs, htwins, hcovers⟩ := hrest.twins hg hs hms.2
    have hparsed := (preorder_subset_of_mem_children hg hms.1).1
    have harrow : g.node.kind = "arrow_function" :=
      Option.some.inj ((parentKind?_of_mem_children hms.1).symm.trans hparent)
    have hplain : (m.situation env'.source env'.function).plain = s := by
      rw [Focus.situation_child hms.1, Situation.plain_below _ (by rw [harrow]; decide), hs]
    obtain ⟨qs', htwins', hcovers'⟩ := h.twins hparsed (by rw [hm]; decide) hplain
      (List.Subset.refl _)
    exact ⟨qs' ++ qs, List.rel_append htwins' htwins,
      hcovers.cons_children hcovers' (by rw [hm]; decide) (by rw [hm]; decide)⟩
  | .added (m := m) hm hfield hrest =>
    rw [List.cons_subset] at hms
    obtain ⟨qs, htwins, hcovers⟩ := hrest.twins hg hs hms.2
    have hparsed := (preorder_subset_of_mem_children hg hms.1).1
    exact ⟨qs, htwins, hcovers.cons_still (still_of_isSilent hm hparsed)⟩
  | .directive (m := m) hin hm hfield hrest =>
    rw [List.cons_subset] at hms
    obtain ⟨qs, htwins, hcovers⟩ := hrest.twins hg hs hms.2
    have hparsed := (preorder_subset_of_mem_children hg hms.1).1
    exact ⟨qs, htwins, hcovers.cons_still (still_of_holdsFunction hparsed hin hm)⟩
  | .blank (m := m) hm hleaf hblank hfield hrest =>
    rw [List.cons_subset] at hms
    obtain ⟨qs, htwins, hcovers⟩ := hrest.twins hg hs hms.2
    exact ⟨qs, htwins, hcovers.cons_still (still_of_blank hm hleaf hblank)⟩

end Twins

end Pass
end Phrasebook
