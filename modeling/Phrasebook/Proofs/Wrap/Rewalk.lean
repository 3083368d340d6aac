import Phrasebook.Proofs.Wrap.Completeness
import Phrasebook.Proofs.Wrap.Echo

/-! The walk over a tree that is read from what a walk left. It changes nothing exactly when every
phrase that the first walk left, and that nothing but a marker can exclude, has its marker there. The
induction is over the first walk: each place it comes to goes with the place that its outcome is read
as, in the same situation. -/

namespace Phrasebook

open Node

namespace Pass

section Reaching

variable {env : Env} {f c p g : Focus}

theorem Reaches.cases (h : Reaches env f g) : g = f ∨ ∃ c ∈ f.children, Reaches env c g := by
  cases h with
  | here => exact .inl rfl
  | step _ _ hc h => exact .inr ⟨_, hc, h⟩

theorem below_of_reaches (h : Reaches env f g) : f.Below g := by
  induction h with
  | here f => exact .refl f
  | step _ _ hc _ ih => exact .of_child hc ih

theorem Reaches.of_le (h : Reaches env f g) (hc : c ∈ f.children) (hle : c.path <+: g.path) :
    Reaches env c g := by
  rcases h.cases with rfl | ⟨d, hd, hdg⟩
  · obtain ⟨hup, hne⟩ := Focus.prefix_path_of_mem_children hc
    exact (hne (hle.eq_of_length_le hup.length_le)).elim
  · rw [Focus.eq_of_pairwise_apart (Focus.pairwise_apart_ofItems _ _ _ _) hc hd hle
      (below_of_reaches hdg).prefix_path]
    exact hdg

theorem eq_of_reaches_literal (h : Reaches env f g) (hin : Scope.inComponent env.source f = true)
    (hf : f.node.kind = "string" ∨ Literal.isJsxText f.node = true) : g = f := by
  cases h with
  | here => rfl
  | step _ hliteral _ _ =>
    obtain ⟨hstring, hjsx⟩ := hliteral hin
    rcases hf with hf | hf
    · exact (hstring hf).elim
    · rw [hjsx] at hf
      cases hf

theorem reaches_of_kept (hkind : f.node.kind = "template_string")
    (hp : p ∈ (keptFoci env.source f).map (·.2)) (h : Reaches env p g) : Reaches env f g := by
  have hstep {n c : Focus} (hn : ["template_string", "template_substitution"].contains n.node.kind = true)
      (hc : c ∈ n.children) (h : Reaches env c g) : Reaches env n g := by
    have hkinds := of_contains (p := fun k => !skippedKinds.contains k && !(k == "string") &&
      !Literal.jsxTextKinds.contains k) hn (by decide)
    simp only [Bool.and_eq_true, Bool.not_eq_true', beq_eq_false_iff_ne] at hkinds
    exact .step hkinds.1.1 (fun _ => ⟨hkinds.1.2, hkinds.2⟩) hc h
  obtain ⟨s, hs, hsubst, hps | rfl⟩ := keptFoci_cases hp
  · exact hstep (by rw [hkind]; decide) hs (hstep (by rw [hsubst]; decide) hps h)
  · exact hstep (by rw [hkind]; decide) hs h

theorem reaches_kept (h : Reaches env f g) (hp : p ∈ (keptFoci env.source f).map (·.2))
    (hle : p.path <+: g.path) : Reaches env p g := by
  obtain ⟨s, hs, -, hps | rfl⟩ := keptFoci_cases hp
  · exact (h.of_le hs ((Focus.prefix_path_of_mem_children hps).1.trans hle)).of_le hps hle
  · exact h.of_le hs hle

theorem exists_kept_of_left {us vs : List Focus} (hkind : f.node.kind = "template_string")
    (h : Reaches env f g) (hleft : Left env us (f :: vs) g) :
    ∃ p ∈ (keptFoci env.source f).map (·.2), p.path <+: g.path := by
  by_contra! hnone
  rcases h.cases with rfl | ⟨c, hc, hcg⟩
  · exact hleft.unwrapped List.mem_cons_self
  · obtain ⟨hup, hne⟩ := Focus.prefix_path_of_mem_children hc
    have hle := (below_of_reaches hcg).prefix_path
    refine hleft.kept ⟨f, List.mem_cons_self, hkind, hup.trans hle, fun heq => ?_, hnone⟩
    exact hne ((heq ▸ hle).eq_of_length_le hup.length_le)

theorem Once.not_above {places nodes : List Focus} (h : Once places nodes)
    (hg : ∀ p ∈ places, ¬ p.path <+: g.path) : ∀ w ∈ nodes, ¬ w.path <+: g.path := by
  intro w hw hle
  obtain ⟨p, hp, hpw⟩ := h.under w hw
  exact hg p hp (hpw.trans hle)

theorem mem_covered {ws : List Wrapped} : ∀ g ∈ ws.map (·.focus), g ∈ covered ws := by
  intro g hg
  obtain ⟨w, hw, rfl⟩ := List.mem_map.1 hg
  exact focus_mem_covered hw

end Reaching

/-- Whether the walk from a place on changes nothing but what the first one left to the markers. -/
def Echoes (env env' : Env) (spot : Option Mark → Focus) (us : List Focus) (f : Focus)
    (vs : List Focus) (q : Focus) : Prop :=
  Still env' q ↔ ∀ g, Reaches env f g → Left env us vs g → Marked env' spot g

def EchoesIn (env env' : Env) (spot : Option Mark → Focus) (us places vs qs : List Focus) : Prop :=
  (∀ q ∈ qs, Still env' q) ↔ ∀ p ∈ places, ∀ g, Reaches env p g → Left env us vs g → Marked env' spot g

section Steps

variable {env env' : Env} {spot : Option Mark → Focus} {us vs : List Focus} {f e q : Focus}
  {frames : List Frame} {owner : Option Text} {below : Made (List Node)} {ws : List Wrapped}

theorem echoes_of_leaf (hreaches : ∀ g, Reaches env f g → g = f)
    (h : Still env' q ↔ (Left env us vs f → Marked env' spot f)) :
    Echoes env env' spot us f vs q := by
  refine h.trans ⟨fun h g hg => ?_, fun h => h f (.here f)⟩
  rw [hreaches g hg]
  exact h

theorem traits_of_twin {dirty : Bool} {s : Situation} (hagain : Again env env')
    (hparsed : f.node.Parsed) (hbeside : Beside f.node.items below.part)
    (hnode : e.node = .branch { f.node.info with dirty } below.part) (htwin : Twin env env' spot s e q)
    (hitems : ReadsItems env env' spot e.children q.children) (hsame : Resembles env env' spot e q) :
    q.node.traits env'.source env'.function = f.node.traits env.source env.function := by
  rw [traits_of_reads hitems htwin.parsed hsame.kind hsame.named, hagain.function, hnode]
  obtain ⟨n, frames⟩ := f
  cases n with
  | text t => simpa [isLaid] using hparsed.laid
  | branch i items => exact traits_of_beside dirty hbeside hparsed

theorem echoes_of_children {dirty : Bool} (hagain : Again env env') (hsees : Sees env owner frames f)
    (hskip : skippedKinds.contains f.node.kind = false)
    (hliteral : Scope.inComponent env.source f = true →
      f.node.kind ≠ "string" ∧ Literal.isJsxText f.node = false) {owner' : Option Text}
    (hbelow : Visits env owner' f.node.info frames [] 0 f.children below ws)
    (hnode : e.node = .branch { f.node.info with dirty } below.part)
    (htwin : Twin env env' spot (f.situation env.source env.function) e q)
    (hrests : Rests env' q ↔ (Left env us (ws.map (·.focus)) f → Marked env' spot f))
    (htidy : f.node.areTidy = true)
    (hecho : ∀ {es qs : List Focus} {s : Situation}, (∀ p ∈ f.children,
      p.situation env.source env.function = s) → Sited [] es → es.map (·.node) = below.part →
      List.Forall₂ (Twin env env' spot s) es qs →
      EchoesIn env env' spot us f.children (ws.map (·.focus)) qs) :
    Echoes env env' spot us f (ws.map (·.focus)) q := by
  have hparsed := hsees.parsed
  have hkind : e.node.kind = f.node.kind := by rw [hnode]; rfl
  have hbuilt : e.node.info.built = false := by
    rw [hnode]
    exact (show f.node.info.built = false from built_of_parsed hparsed)
  by_cases hjsx : Literal.isJsxText f.node = true
  · -- JSX text has nothing below it.
    have hitems := (isTidy_iff.1 (isTidy_of_areTidy htidy hparsed.laid)).1 hjsx
    have hnone : f.children = [] := by
      rw [← List.map_eq_nil_iff, Focus.map_node_children hparsed.laid, hitems]
    obtain ⟨-, hleaf, -⟩ := htwin.reads.of_text hbuilt (by rw [Literal.isJsxText, hkind]; exact hjsx)
    refine echoes_of_leaf (fun g hg => ?_) ((Iff.intro (fun h => h q (.here q))
      (still_of_leaf hleaf)).trans hrests)
    rcases hg.cases with rfl | ⟨c, hc, -⟩
    · rfl
    · rw [hnone] at hc
      cases hc
  have hjsx' : Literal.isJsxText f.node = false := by simpa using hjsx
  obtain ⟨hsame, hitems⟩ := htwin.reads.resembles (.inl hbuilt) (hkind ▸ hskip)
    (by rw [Literal.isJsxText, hkind]; exact hjsx')
  have hq : q.node.kind = f.node.kind := hsame.kind.trans hkind
  have htraits := traits_of_twin hagain hparsed
    (beside_of_children hsees hbelow hbelow.beside).1 hnode htwin hitems hsame
  obtain ⟨qs, htwins, hcovers⟩ := hitems.twins htwin.parsed rfl (List.Subset.refl _)
  have hsituation : ∀ p ∈ f.children, p.situation env.source env.function =
      (q.situation env'.source env'.function).below (q.node.traits env'.source env'.function)
        q.node.field := by
    intro p hp
    have hsuits : (f.situation env.source env.function).Suits f.node.field q.node.field := by
      have := htwin.suits
      rwa [hnode] at this
    rw [Focus.situation_child hp, htwin.situation, htraits, Situation.below_of_suits hsuits]
  have hmap : e.children.map (·.node) = below.part := by
    rw [map_node_eq, hnode]
    exact children_of_isFull (hbelow.placed (parsed_children hparsed)).full
  have hechoes := hecho hsituation (.of_ofItems rfl) hmap htwins
  have hstill : Still env' q ↔ Rests env' q ∧ ∀ c ∈ q.children, Still env' c := by
    refine still_iff (hq ▸ hskip) fun h => ?_
    rw [inComponent_of_twin htwin] at h
    rw [hq, Literal.isJsxText, hq]
    exact hliteral h
  rw [EchoesIn] at hechoes
  rw [Covers, hechoes] at hcovers
  rw [Echoes, hstill, hrests, hcovers]
  constructor
  · rintro ⟨hself, hchildren⟩ g hg
    rcases hg.cases with rfl | ⟨c, hc, hcg⟩
    · exact hself
    · exact hchildren c hc g hcg
  · exact fun h => ⟨h f (.here f), fun c hc g hg => h g (.step hskip hliteral hc hg)⟩

theorem echoes_of_template {key : Text} {names : List Text} (hagain : Again env env')
    (hkind : f.node.kind = "template_string") (hin : Scope.inComponent env.source f = true)
    (hfull : ∀ n ∈ below.part, n.IsFull) (hlength : below.part.length ≤ names.length)
    (hnode : e.node = (ofTemplate env key f.node names below).part)
    (htwin : Twin env env' spot (f.situation env.source env.function) e q)
    (hecho : ∀ {es qs : List Focus} {s : Situation}, (∀ p ∈ (keptFoci env.source f).map (·.2),
      p.situation env.source env.function = s) → Sited [] es → es.map (·.node) = below.part →
      List.Forall₂ (Twin env env' spot s) es qs →
      EchoesIn env env' spot (f :: us) ((keptFoci env.source f).map (·.2)) vs qs) :
    Echoes env env' spot us f (f :: vs) q := by
  have hinside : Scope.inComponent env'.source q = true := (inComponent_of_twin htwin).trans hin
  have hlookup : IsLookup env.function.spelling e.node := by
    rw [hnode]
    exact ⟨rfl, rfl, key, _, rfl⟩
  obtain ⟨qs, htwins, hstill⟩ := htwin.reads.call_twins hagain htwin.parsed hinside hlookup
  rw [htwin.situation] at htwins
  have hmap : e.children.map (·.node) = below.part := by
    rw [map_node_eq, hnode]
    exact children_ofTemplate hlength hfull
  have hechoes := hecho (fun p hp => situation_kept hkind hp) (.of_ofItems rfl) hmap htwins
  rw [EchoesIn] at hechoes
  rw [Echoes, hstill, hechoes]
  constructor
  · intro h g hg hleft
    obtain ⟨p, hp, hle⟩ := exists_kept_of_left hkind hg hleft
    exact h p hp g (reaches_kept hg hp hle) ((left_template hp hle).1 hleft)
  · intro h p hp g hg hleft
    exact h g (reaches_of_kept hkind hp hg) ((left_template hp (below_of_reaches hg).prefix_path).2 hleft)

end Steps

section Runs

variable {env env' : Env} {spot : Option Mark → Focus} {us vs : List Focus} {frames : List Frame}
  {before : List Node}

theorem followsText_of_sited {run rest : List Focus} (h : Sited before (run ++ rest))
    (hbefore : (before.filter isChild).head?.any Literal.isJsxText = true)
    (hrun : ∀ e ∈ run, e.node.isChild = true ∧ Literal.isJsxText e.node = true) :
    ∀ e ∈ run, followsText e = true := by
  induction run generalizing before with
  | nil => simp
  | cons e run ih =>
    rw [List.forall_mem_cons] at hrun
    refine List.forall_mem_cons.2 ⟨?_, ih h.2.2 ?_ hrun.2⟩
    · rw [followsText, h.1]
      exact hbefore
    · rw [List.filter_cons_of_pos hrun.1.1]
      exact hrun.1.2

theorem still_of_texts {es qs : List Focus} {s : Situation}
    (h : List.Forall₂ (Twin env env' spot s) es qs)
    (hes : ∀ e ∈ es, e.node.info.built = false ∧ Literal.isJsxText e.node = true ∧
      followsText e = true) : ∀ q ∈ qs, Still env' q := by
  induction h with
  | nil => simp
  | @cons e q _ _ htwin _ ih =>
    rw [List.forall_mem_cons] at hes
    obtain ⟨⟨hbuilt, hjsx, hfollows⟩, hes⟩ := hes
    obtain ⟨hqjsx, hleaf, -, hfollows', -⟩ := htwin.reads.of_text hbuilt hjsx
    refine List.forall_mem_cons.2 ⟨still_of_leaf hleaf (rests_inside_run hqjsx ?_), ih hes⟩
    exact hfollows'.trans hfollows

end Runs

section Appending

variable {env env' : Env} {spot : Option Mark → Focus} {us vs vs' : List Focus} {p g : Focus}
  {places places' qs qs' : List Focus}

theorem Echoes.singleton {f q : Focus} (h : Echoes env env' spot us f vs q) :
    EchoesIn env env' spot us [f] vs [q] := by
  rw [EchoesIn, List.forall_mem_singleton, List.forall_mem_singleton]
  exact h

theorem EchoesIn.append (h : EchoesIn env env' spot us places vs qs)
    (h' : EchoesIn env env' spot us places' vs' qs')
    (hpairwise : (places ++ places').Pairwise Focus.Apart)
    (hvs : ∀ w ∈ vs, ∃ p ∈ places, p.path <+: w.path)
    (hvs' : ∀ w ∈ vs', ∃ p ∈ places', p.path <+: w.path) :
    EchoesIn env env' spot us (places ++ places') (vs ++ vs') (qs ++ qs') := by
  have hapart := (List.pairwise_append.1 hpairwise).2.2
  have hleft {p g : Focus} (hp : p ∈ places) (hg : Reaches env p g) :
      Left env us (vs ++ vs') g ↔ Left env us vs g := by
    refine left_append_left fun w hw hle => ?_
    obtain ⟨p', hp', hpw⟩ := hvs' w hw
    exact ((hapart p hp p' hp').below (below_of_reaches hg).prefix_path (hpw.trans hle)).ne rfl
  have hright {p g : Focus} (hp : p ∈ places') (hg : Reaches env p g) :
      Left env us (vs ++ vs') g ↔ Left env us vs' g := by
    refine left_append_right fun w hw hle => ?_
    obtain ⟨p', hp', hpw⟩ := hvs w hw
    exact ((hapart p' hp' p hp).below (hpw.trans hle) (below_of_reaches hg).prefix_path).ne rfl
  rw [EchoesIn] at h h' ⊢
  rw [List.forall_mem_append, List.forall_mem_append, h, h']
  constructor
  · rintro ⟨hfirst, hrest⟩
    exact ⟨fun p hp g hg hg' => hfirst p hp g hg ((hleft hp hg).1 hg'),
      fun p hp g hg hg' => hrest p hp g hg ((hright hp hg).1 hg')⟩
  · rintro ⟨hfirst, hrest⟩
    exact ⟨fun p hp g hg hg' => hfirst p hp g hg ((hleft hp hg).2 hg'),
      fun p hp g hg hg' => hrest p hp g hg ((hright hp hg).2 hg')⟩

theorem not_left_inside_run (hjsx : Literal.isJsxText g.node = true)
    (hbefore : g.siblingsBefore.head?.any Literal.isJsxText = true) : ¬ Left env us vs g := by
  rintro ⟨⟨more, hexposed⟩, -, -, -⟩
  obtain ⟨hstring, htemplate⟩ := kind_of_isJsxText hjsx
  rcases hexposed.whole with ⟨hkind, -⟩ | ⟨hkind, -⟩ | ⟨-, -, hfirst⟩
  · exact hstring hkind
  · exact htemplate hkind
  · rw [hbefore] at hfirst
    cases hfirst

end Appending

section Kinds

theorem literalKinds_of_ne {n : Node} (hstring : n.kind ≠ "string")
    (htemplate : n.kind ≠ "template_string") (hjsx : Literal.isJsxText n = false) :
    literalKinds.contains n.kind = false := by
  rw [literalKinds, List.contains_cons, List.contains_cons, beq_false_of_ne hstring,
    beq_false_of_ne htemplate, Bool.false_or, Bool.false_or]
  exact hjsx

theorem function_kind {n : Node} (h : Scope.isFunction n = true) :
    textualKinds.contains n.kind = false ∧ literalKinds.contains n.kind = false := by
  have hkinds := of_contains (p := fun k => !textualKinds.contains k && !literalKinds.contains k)
    (Bool.and_eq_true_iff.1 h).2 (by decide)
  simpa using hkinds

theorem skipped_kind {n : Node} (h : skippedKinds.contains n.kind = true) :
    textualKinds.contains n.kind = false ∧ literalKinds.contains n.kind = false := by
  have hkinds := of_contains (p := fun k => !textualKinds.contains k && !literalKinds.contains k) h
    (by decide)
  simpa using hkinds

theorem ne_of_literalKinds {n : Node} (h : literalKinds.contains n.kind = false) :
    n.kind ≠ "string" ∧ Literal.isJsxText n = false := by
  simp only [literalKinds, List.contains_cons, Bool.or_eq_false_iff, beq_eq_false_iff_ne] at h
  exact ⟨h.1, h.2.2⟩

theorem isJsxText_of_stays {n n' : Node} (h : Stays n n') (hn : Literal.isJsxText n = false) :
    Literal.isJsxText n' = false := by
  rcases h.kind with hkind | hnew
  · rw [Literal.isJsxText, hkind]
    exact hn
  · refine Bool.eq_false_iff.2 fun hjsx => ?_
    have hkinds := of_contains (p := fun k => !newKinds.contains k) hjsx (by decide)
    rw [hnew] at hkinds
    cases hkinds

end Kinds

section Walks

variable {env env' : Env} {spot : Option Mark → Focus} {us vs : List Focus} {owner : Option Text}
  {frames : List Frame} {f e q : Focus}

theorem rests_iff_of_twin_kind (hkinds : textualKinds.contains f.node.kind = false ∧
      literalKinds.contains f.node.kind = false) (hkind : e.node.kind = f.node.kind) {s : Situation}
    (htwin : Twin env env' spot s e q) :
    Rests env' q ↔ (Left env us vs f → Marked env' spot f) := by
  have hq : q.node.kind = f.node.kind := (htwin.reads.kind_iff hkinds.1).2 hkind
  exact rests_iff_of_kind hkinds.2 (hq ▸ hkinds.2)

theorem Enters.rests_iff_left {dirty : Bool} {items : List Node} (hagain : Again env env')
    (henter : Enters env owner frames f.node) (haround : Around env.source us f frames)
    (hin : Scope.inComponent env.source f = owner.isSome)
    (hjsx : owner.isSome = true → Literal.isJsxText f.node = false)
    (hbecame : Became env.source f.node e.node)
    (hnode : e.node = .branch { f.node.info with dirty } items)
    (htwin : Twin env env' spot (f.situation env.source env.function) e q)
    (hvs : ∀ w ∈ vs, ¬ w.path <+: f.path) :
    Rests env' q ↔ (Left env us vs f → Marked env' spot f) := by
  have hparsed := haround.sound.1
  have hkind : e.node.kind = f.node.kind := by rw [hnode]; rfl
  rcases henter.2 with ⟨hfn, -⟩ | ⟨-, hliteral⟩
  · exact rests_iff_of_twin_kind (function_kind hfn) hkind htwin
  cases howner : owner with
  | none =>
    rw [howner] at hin
    exact rests_iff_of_outside hin ((inComponent_of_twin htwin).trans hin)
  | some name =>
    rw [howner] at hin hjsx
    obtain ⟨hstring, htemplate⟩ := hliteral name howner
    have hbuilt : e.node.info.built = false := by
      rw [hnode]
      exact (show f.node.info.built = false from built_of_parsed hparsed)
    obtain ⟨hsame, -⟩ := htwin.reads.resembles (.inl hbuilt) (hkind ▸ henter.1)
      (by rw [Literal.isJsxText, hkind]; exact hjsx rfl)
    have hq : q.node.kind = f.node.kind := hsame.kind.trans hkind
    by_cases hfkind : f.node.kind = "template_string"
    · have hekind := hkind.trans hfkind
      have hqkind := hq.trans hfkind
      have hsettled := (settled_template (f := ⟨f.node, frames⟩) name hfkind).2 (htemplate hfkind)
      refine rests_iff_of_settled hagain haround hin (.inr (.inl ⟨hfkind, rfl⟩)) hsettled hvs htwin
        (.inr (.inl ⟨hqkind, rfl⟩)) (by rw [hnode]; rfl) (by rw [hq]) ?_ ?_
      · have hspot := hsame.spot (by rw [hekind]; decide)
        rwa [hnode] at hspot
      · rw [shown_template hqkind, shown_template hfkind, hsame.quasis hekind]
        exact hbecame.quasis hparsed.laid hekind
    · have hplain := literalKinds_of_ne hstring hfkind (hjsx rfl)
      exact rests_iff_of_kind hplain (hq ▸ hplain)

/-- What is known when the walk comes to places under one parent, of which the edited tree has `es`
and the second one `qs`. -/
structure Meets (env env' : Env) (spot : Option Mark → Focus) (us : List Focus) (owner : Option Text)
    (parent : Info) (frames : List Frame) (before : List Node) (places es qs : List Focus)
    (s : Situation) : Prop where
  queued : Queued env.source us parent frames before places
  lined : Lined owner.isSome parent frames before places
  apart : places.Pairwise Focus.Apart
  within : ∀ p ∈ places, Scope.inComponent env.source p = owner.isSome
  situation : ∀ p ∈ places, p.situation env.source env.function = s
  first : owner.isSome = true → (before.filter isChild).head?.any Literal.isJsxText = true →
    (places.map (·.node)).head?.any Literal.isJsxText = false
  sited : Sited before es
  twins : List.Forall₂ (Twin env env' spot s) es qs

section Meeting

variable {parent : Info} {before before' : List Node} {rest more places es es' qs qs' : List Focus}
  {s : Situation} {name : Text}

theorem Meets.past (es qs : List Focus)
    (h : Meets env env' spot us owner parent frames before places (es ++ es') (qs ++ qs') s)
    (hrest : rest.Sublist places) (hqueued : Queued env.source us parent frames before' rest)
    (hlined : Lined owner.isSome parent frames before' rest)
    (hfirst : owner.isSome = true → (before'.filter isChild).head?.any Literal.isJsxText = true →
      (rest.map (·.node)).head?.any Literal.isJsxText = false)
    (hbefore : before' = (es.map (·.node)).reverse ++ before)
    (htwins : List.Forall₂ (Twin env env' spot s) es' qs') :
    Meets env env' spot us owner parent frames before' rest es' qs' s where
  queued := hqueued
  lined := hlined
  apart := h.apart.sublist hrest
  within p hp := h.within p (hrest.subset hp)
  situation p hp := h.situation p (hrest.subset hp)
  first := hfirst
  sited := hbefore ▸ h.sited.append
  twins := htwins

theorem Queued.head?_drop {source : Bytes} (h : Queued source us parent frames before (f :: rest))
    (hmore : more = rest.takeWhile fun p => isRunItem p.node) :
    ((rest.drop more.length).map (·.node)).head?.any Literal.isJsxText = false := by
  have hlaid : ∀ n ∈ rest.map (·.node), n.isLaid = true := by
    intro n hn
    obtain ⟨p, hp, rfl⟩ := List.mem_map.1 hn
    exact (h.sound p (List.mem_cons_of_mem _ hp)).1.laid
  have hsplit : (rest.map (·.node)).takeWhile isRunItem ++ (rest.drop more.length).map (·.node) =
      (rest.map (·.node)).takeWhile isRunItem ++ (rest.map (·.node)).dropWhile isRunItem := by
    rw [List.takeWhile_append_dropWhile, ← map_node_takeWhile hmore, ← List.map_append,
      append_drop_takeWhile hmore]
  rw [List.append_cancel_left hsplit]
  exact Lined.head?_dropWhile_isRunItem hlaid

theorem head?_part {k : Nat} {made : Made (List Node)} {ws : List Wrapped}
    (h : Visits env owner parent frames before k places made ws)
    (hplaces : (places.map (·.node)).head?.any Literal.isJsxText = false) :
    made.part.head?.any Literal.isJsxText = false := by
  cases h with
  | nil => rfl
  | run _ _ hjsx _ _ _ =>
    rw [List.map_cons, List.head?_cons, Option.any_some, hjsx] at hplaces
    cases hplaces
  | otherRun hjsx _ _ _ =>
    rw [List.map_cons, List.head?_cons, Option.any_some, hjsx] at hplaces
    cases hplaces
  | node _ hfirst _ =>
    rw [List.map_cons, List.head?_cons, Option.any_some] at hplaces
    exact isJsxText_of_stays hfirst.stays hplaces

theorem takeWhile_run {run rest : List Node} (hrun : ∀ n ∈ run, Literal.isJsxText n = true)
    (hrest : rest.head?.any Literal.isJsxText = false) :
    (run ++ rest).takeWhile Literal.isJsxText = run := by
  rw [List.takeWhile_append_of_pos hrun]
  cases rest with
  | nil => simp
  | cons n rest =>
    rw [List.head?_cons, Option.any_some] at hrest
    rw [List.takeWhile_cons_of_neg (by simp [hrest]), List.append_nil]

theorem Meets.still_iff_left (hagain : Again env env')
    (h : Meets env env' spot us (some name) parent frames before (f :: rest) (e :: es) (q :: qs) s)
    (hjsx : Literal.isJsxText f.node = true)
    (hmore : more = rest.takeWhile fun p => isRunItem p.node)
    (hwrap : (wrapRun? env name ⟨f.node, ⟨parent, before, rest.map (·.node)⟩ :: frames⟩
      (more.map (·.node))).result = .ok none)
    (hnode : e.node = f.node)
    (hafter : e.siblingsAfter.takeWhile Literal.isJsxText = more.map (·.node)) :
    Still env' q ↔ (Left env us [] f → Marked env' spot f) := by
  obtain ⟨htwin, -⟩ := List.forall₂_cons.1 h.twins
  obtain rfl := h.situation f List.mem_cons_self
  have haround := h.queued.head
  have hejsx : Literal.isJsxText e.node = true := by rw [hnode]; exact hjsx
  have hbuilt : e.node.info.built = false := hnode ▸ built_of_parsed haround.sound.1
  obtain ⟨hqjsx, hleaf, htext, hfollows, hspot⟩ := htwin.reads.of_text hbuilt hejsx
  have hfirst : followsText q = false := by
    rw [hfollows, followsText, h.sited.1]
    by_contra hbefore
    have := h.first rfl (by simpa using hbefore)
    rw [List.map_cons, List.head?_cons, Option.any_some, hjsx] at this
    cases this
  have hwhole : Wrapped.IsWhole f more :=
    .inr (.inr ⟨hjsx, siblings_of_run h.lined hjsx hmore, h.lined.first_of_run hjsx⟩)
  have hwhole' : Wrapped.IsWhole q
      ((q.siblingsAfter.takeWhile Literal.isJsxText).map Focus.ofRoot) := by
    have hnodes : ((q.siblingsAfter.takeWhile Literal.isJsxText).map Focus.ofRoot).map (·.node) =
        q.siblingsAfter.takeWhile Literal.isJsxText := by
      rw [List.map_map]
      exact List.map_id _
    exact .inr (.inr ⟨hqjsx, hnodes, hfirst⟩)
  have hnot {g : Focus} (hg : Literal.isJsxText g.node = true) :
      (g.node.kind == "template_string") = false := beq_false_of_ne (kind_of_isJsxText hg).2
  let here : Focus := ⟨f.node, ⟨parent, before, rest.map (·.node)⟩ :: frames⟩
  have hsettled : Settled env here more := (settled_run (f := here) name hjsx).2 hwrap
  have hrun : runText env.source e = Literal.runSource env.source (f.node :: more.map (·.node)) := by
    rw [runText, hafter, hnode]
  have hshown : shown env'.source q ((q.siblingsAfter.takeWhile Literal.isJsxText).map Focus.ofRoot) =
      shown env.source f more := by
    rw [shown_text hqjsx, shown_text hjsx, ← hrun, ← htext, runText, List.map_map,
      show (fun g : Focus => g.node) ∘ Focus.ofRoot = id from rfl, List.map_id]
  have hstill : Still env' q ↔ Rests env' q := ⟨fun h => h q (.here q), still_of_leaf hleaf⟩
  rw [hstill]
  rw [hnode] at hspot
  have hin := h.within f List.mem_cons_self
  have hkind := (hnot hqjsx).trans (hnot hjsx).symm
  exact rests_iff_of_settled hagain haround hin hwhole hsettled (by simp)
    htwin hwhole' (by rw [hnode]) hkind hspot hshown

theorem Meets.echoes_otherRun (hagain : Again env env')
    (h : Meets env env' spot us (some name) parent frames before (f :: rest) (es ++ es') (qs ++ qs') s)
    (hjsx : Literal.isJsxText f.node = true)
    (hmore : more = rest.takeWhile fun p => isRunItem p.node)
    (hwrap : (wrapRun? env name ⟨f.node, ⟨parent, before, rest.map (·.node)⟩ :: frames⟩
      (more.map (·.node))).result = .ok none)
    (hrun : es.map (·.node) = f.node :: more.map (·.node))
    (hrest : (es'.map (·.node)).head?.any Literal.isJsxText = false)
    (htwins : List.Forall₂ (Twin env env' spot s) es qs) :
    EchoesIn env env' spot us (f :: more) [] qs := by
  obtain ⟨e, es, rfl, hnode, hnodes⟩ := List.map_eq_cons_iff.1 hrun
  obtain ⟨q, qs, -, hothers, rfl⟩ := List.forall₂_cons_left_iff.1 htwins
  have hmem (p : Focus) (hp : p ∈ f :: more) : p ∈ f :: rest :=
    mem_of_mem_run (append_drop_takeWhile hmore) hp
  have hjsxs := isJsxText_of_run hjsx hmore
  have hparsed : ∀ n ∈ f.node :: more.map (·.node), n.Parsed := by
    intro n hn
    obtain ⟨p, hp, rfl⟩ := List.mem_map.1 (show n ∈ (f :: more).map (·.node) from hn)
    exact (h.queued.sound p (hmem p hp)).1
  rw [List.forall_mem_cons] at hjsxs hparsed
  have hsited : Sited before (e :: (es ++ es')) := h.sited
  have hafter : e.siblingsAfter.takeWhile Literal.isJsxText = more.map (·.node) := by
    rw [hsited.2.1, List.map_append, hnodes, takeWhile_run hjsxs.2 hrest]
  have hfirst := h.still_iff_left hagain hjsx hmore hwrap hnode hafter
  have hfollows := followsText_of_sited hsited.2.2 (by
    rw [hnode, List.filter_cons_of_pos (isChild_of_isLaid hparsed.1.laid)]
    exact hjsx) fun c hc => by
      have hc := hnodes ▸ List.mem_map_of_mem hc
      exact ⟨isChild_of_isLaid (hparsed.2 _ hc).laid, hjsxs.2 _ hc⟩
  replace hothers := still_of_texts hothers fun c hc => by
    have hmem := hnodes ▸ List.mem_map_of_mem hc
    exact ⟨built_of_parsed (hparsed.2 _ hmem), hjsxs.2 _ hmem, hfollows c hc⟩
  have hreaches {p g : Focus} (hp : p ∈ f :: more) (hg : Reaches env p g) : g = p :=
    eq_of_reaches_literal hg (h.within p (hmem p hp))
      (.inr (isJsxText_of_run hjsx hmore _ (List.mem_map_of_mem hp)))
  rw [EchoesIn, List.forall_mem_cons, and_iff_left hothers, hfirst, List.forall_mem_cons]
  constructor
  · intro hf
    refine ⟨fun g hg => ?_, fun p hp g hg hleft => ?_⟩
    · rw [hreaches List.mem_cons_self hg]
      exact hf
    · obtain ⟨hpjsx, hbefore⟩ := (h.queued.siblings_of_run hjsx hmore).2 p hp
      rw [hreaches (List.mem_cons_of_mem _ hp) hg] at hleft
      exact (not_left_inside_run hpjsx hbefore hleft).elim
  · exact fun hf => hf.1 f (.here f)

theorem Meets.echoes_run (h : Meets env env' spot us (some name) parent frames before (f :: rest)
      (e :: es) (q :: qs) s) (hagain : Again env env') (hjsx : Literal.isJsxText f.node = true)
    (hmore : more = rest.takeWhile fun p => isRunItem p.node)
    (hlookup : LooksUp env.function.spelling e.node) :
    EchoesIn env env' spot us (f :: more) [f] [q] := by
  obtain ⟨htwin, -⟩ := List.forall₂_cons.1 h.twins
  have hin : Scope.inComponent env'.source q = true := by
    rw [inComponent_of_twin htwin, ← h.situation f List.mem_cons_self]
    exact h.within f List.mem_cons_self
  have hstill := htwin.reads.still hagain htwin.parsed hin hlookup
  refine iff_of_true (by simpa using hstill) fun p hp g hg hleft => ?_
  have hmem := mem_of_mem_run (append_drop_takeWhile hmore) hp
  rw [eq_of_reaches_literal hg (h.within p hmem)
    (.inr (isJsxText_of_run hjsx hmore _ (List.mem_map_of_mem hp)))] at hleft
  rcases List.mem_cons.1 hp with rfl | hp
  · exact (hleft.unwrapped List.mem_cons_self).elim
  · obtain ⟨hpjsx, hbefore⟩ := (h.queued.siblings_of_run hjsx hmore).2 p hp
    exact (not_left_inside_run hpjsx hbefore hleft).elim

end Meeting

theorem not_above_of_children {ws : List Wrapped} (h : Once f.children (covered ws)) :
    ∀ w ∈ ws.map (·.focus), ¬ w.path <+: f.path := by
  intro w hw
  refine h.not_above (fun c hc hle => ?_) w (mem_covered w hw)
  obtain ⟨hup, hne⟩ := Focus.prefix_path_of_mem_children hc
  exact hne (hle.eq_of_length_le hup.length_le)

mutual

theorem Visit.echo {env env' : Env} {spot : Option Mark → Focus} {us : List Focus}
    {owner : Option Text} {frames : List Frame} {f e q : Focus} {made : Made Node} {ws : List Wrapped}
    (hagain : Again env env') : Visit env owner frames f made ws → Around env.source us f frames →
      Scope.inComponent env.source f = owner.isSome →
      (owner.isSome = true → Literal.isJsxText f.node = false) → e.node = made.part →
      Twin env env' spot (f.situation env.source env.function) e q →
      Echoes env env' spot us f (ws.map (·.focus)) q
  | .skipped _ hskip, _, _, _, hnode, htwin => by
    have hkinds := skipped_kind hskip
    have hkind : e.node.kind = f.node.kind := congrArg Node.kind hnode
    have hq : q.node.kind = f.node.kind := (htwin.reads.kind_iff hkinds.1).2 hkind
    have hstill : Still env' q := still_of_skipped (hq ▸ hskip)
    refine echoes_of_leaf (fun g hg => ?_) ((iff_of_true hstill (hstill q (.here q))).trans
      (rests_iff_of_twin_kind hkinds hkind htwin))
    cases hg with
    | here => rfl
    | step hskip' _ _ _ =>
      rw [hskip] at hskip'
      cases hskip'
  | .component hsees hskip hfn hname hbelow, haround, _, _, hnode, htwin => by
    have hkinds := function_kind hfn
    have hkind : e.node.kind = f.node.kind := by rw [hnode]; rfl
    rw [List.map_map]
    refine echoes_of_children hagain hsees hskip (fun _ => ne_of_literalKinds hkinds.2) hbelow hnode htwin
      (rests_iff_of_twin_kind hkinds hkind htwin) haround.sound.2 fun hsituation hsited hmap htwins => ?_
    refine hbelow.echo hagain ⟨.of_children haround, hsees.lined_children _,
      Focus.pairwise_apart_ofItems _ _ _ _, fun p hp => ?_, hsituation, ?_, hsited, htwins⟩ hmap
    · exact Scope.inComponent_of_component hp hfn (haround.matches.componentName?.symm.trans hname)
    · rintro - ⟨⟩
  | .entered hsees henter hbelow, haround, hin, hjsx, hnode, htwin => by
    have hvisit := Visit.entered hsees henter hbelow
    have hbecame := hvisit.became haround.sound.2
    have honce := hbelow.once (Focus.pairwise_apart_ofItems _ _ _ _)
    have hrests := henter.rests_iff_left hagain haround hin hjsx (hnode ▸ hbecame) hnode htwin
      (not_above_of_children honce)
    refine echoes_of_children hagain hsees henter.1 (fun hinside => ?_) hbelow hnode htwin hrests
      haround.sound.2 fun hsituation hsited hmap htwins => ?_
    · rcases henter.2 with ⟨hfn, -⟩ | ⟨-, hliteral⟩
      · exact ne_of_literalKinds (function_kind hfn).2
      · obtain ⟨name, rfl⟩ := Option.isSome_iff_exists.1 (hin.symm.trans hinside)
        exact ⟨(hliteral name rfl).1, hjsx rfl⟩
    refine hbelow.echo hagain ⟨.of_children haround, hsees.lined_children _,
      Focus.pairwise_apart_ofItems _ _ _ _, fun p hp => ?_, hsituation, ?_, hsited, htwins⟩ hmap
    · rw [inComponent_child hp, ← hin]
      rcases henter.2 with ⟨-, hnone⟩ | ⟨hfn, -⟩
      · rw [← haround.matches.componentName?, hnone, Option.isSome_none, Bool.and_false, Bool.false_or]
      · rw [hfn, Bool.false_and, Bool.false_or]
    · rintro - ⟨⟩
  | .string _ _ _ hkind hwrap, _, hin, _, hnode, htwin => by
    obtain ⟨value, -, -, -, rfl⟩ := wrapString?_eq_some hwrap
    have hlookup := looksUp_ofString env.function.spelling value (Literal.inAttribute ⟨f.node, frames⟩)
      f.node
    have hstill := htwin.reads.still hagain htwin.parsed ((inComponent_of_twin htwin).trans hin)
      (hnode ▸ hlookup)
    exact echoes_of_leaf (fun g hg => eq_of_reaches_literal hg hin (.inl hkind))
      (iff_of_true hstill fun hleft => (hleft.unwrapped List.mem_cons_self).elim)
  | .otherString _ _ _ hkind hwrap, haround, hin, _, hnode, htwin => by
    have hekind : e.node.kind = "string" := (congrArg Node.kind hnode).trans hkind
    have hbuilt : e.node.info.built = false := hnode ▸ built_of_parsed haround.sound.1
    obtain ⟨hsame, -⟩ := htwin.reads.resembles (.inl hbuilt) (by rw [hekind]; decide)
      (by rw [Literal.isJsxText, hekind]; decide)
    have hq : q.node.kind = "string" := hsame.kind.trans hekind
    have hsettled := (settled_string (f := ⟨f.node, frames⟩) _ hkind).2 hwrap
    have hspot := hsame.spot (by rw [hekind]; decide)
    have htext := hsame.text (.inl hekind)
    rw [hnode] at hspot htext
    have hrests : Rests env' q ↔ (Left env us [] f → Marked env' spot f) :=
      rests_iff_of_settled hagain haround hin (.inl ⟨hkind, rfl⟩) hsettled (by simp) htwin
        (.inl ⟨hq, rfl⟩) (by rw [hnode]; rfl) (by rw [hq, hkind]) hspot
        (shown_string hkind hq htext (congrArg Situation.inTag htwin.situation))
    exact echoes_of_leaf (fun g hg => eq_of_reaches_literal hg hin (.inl hkind))
      ((still_iff_of_literal ((inComponent_of_twin htwin).trans hin) (.inl hq)).trans hrests)
  | .template hsees _ _ hkind _ hbelow, haround, hin, _, hnode, htwin => by
    refine echoes_of_template hagain hkind hin (hbelow.placed hsees.parsed_kept).full
      (Nat.le_of_eq ?_) hnode htwin fun hsituation hsited hmap htwins => ?_
    · rw [hbelow.length_part hsees.isJsxText_kept, ← map_keptFoci hsees.parsed.laid]
      simp
    refine hbelow.echo hagain ⟨.of_kept haround hkind rfl, hsees.lined_kept hkind rfl _,
      pairwise_apart_kept _ _, hsees.within_kept rfl, hsituation, ?_, hsited, htwins⟩ hmap
    rintro - ⟨⟩

theorem Visits.echo {env env' : Env} {spot : Option Mark → Focus} {us : List Focus}
    {owner : Option Text} {parent : Info} {frames : List Frame} {before : List Node} {k : Nat}
    {places es qs : List Focus} {s : Situation} {made : Made (List Node)} {ws : List Wrapped}
    (hagain : Again env env') : Visits env owner parent frames before k places made ws →
      Meets env env' spot us owner parent frames before places es qs s →
      es.map (·.node) = made.part → EchoesIn env env' spot us places (ws.map (·.focus)) qs
  | .nil, hmeets, hmap => by
    obtain rfl := List.map_eq_nil_iff.1 hmap
    obtain rfl := List.forall₂_nil_left_iff.1 hmeets.twins
    exact iff_of_true (by simp) (by simp)
  | .run hsees _ hjsx hmore hwrap hrest, hmeets, hmap => by
    obtain ⟨e, es, rfl, hnode, hmap⟩ := List.map_eq_cons_iff.1 hmap
    obtain ⟨q, qs, -, htwins, rfl⟩ := List.forall₂_cons_left_iff.1 hmeets.twins
    have hsplit := append_drop_takeWhile hmore
    have hnodes := map_node_takeWhile hmore
    have hdropped := hmeets.queued.head?_drop hmore
    have hfields := hmeets.lined.field_of_run hjsx hnodes
    obtain ⟨value, -, -, -, hnew⟩ := wrapRun?_eq_some hwrap
    have hfirst := hmeets.echoes_run hagain hjsx hmore (by
      rw [hnode, hnew]
      exact looksUp_placedRun _ _ _ _ _)
    have hqueued := hmeets.queued.drop hjsx hmore fun past hpast hpairs hfields =>
      hpast.of_wrapRun? hwrap hsees.parsed.laid (isJsxText_of_run hjsx hmore) hpairs hfields
    have hlined := hmeets.lined.drop hjsx hnodes (by
      have hnew : _ = none := (congrArg Node.field hnew).trans ((field_placedRun rfl).trans
        (hfields _ List.mem_cons_self))
      simpa using Beside.run hfields hnew .nil)
    rw [List.length_map] at hlined
    have hdrop := hrest.echo hagain (hmeets.past [e] [q]
      ((List.drop_sublist _ _).trans (List.sublist_cons_self _ _)) hqueued hlined
      (fun _ _ => hdropped) (by rw [← hnode]; rfl) htwins) hmap
    have hpairwise := hmeets.apart
    rw [← hsplit, ← List.cons_append] at hpairwise ⊢
    refine hfirst.append hdrop hpairwise (fun w hw => ⟨_, List.mem_cons_self, ?_⟩) fun w hw => ?_
    · obtain rfl := List.mem_singleton.1 hw
      exact List.prefix_rfl
    · exact (hrest.once (List.pairwise_append.1 hpairwise).2.1).under w (mem_covered w hw)
  | .otherRun hjsx hmore hwrap hrest, hmeets, hmap => by
    obtain ⟨es₁, es₂, rfl, hrun, htail⟩ := List.map_eq_append_iff.1 hmap
    obtain ⟨qs₁, qs₂, rfl, htwins₁, htwins₂⟩ := exists_append_of_forall₂ hmeets.twins
    have hsplit := append_drop_takeWhile hmore
    have hdropped := hmeets.queued.head?_drop hmore
    have hfirst := hmeets.echoes_otherRun hagain hjsx hmore hwrap hrun
      (htail ▸ head?_part hrest hdropped) htwins₁
    have hqueued := hmeets.queued.drop hjsx hmore fun past hpast _ _ => hpast.append_same _
    have hlined := hmeets.lined.drop hjsx (map_node_takeWhile hmore)
      (Beside.refl (_ :: _))
    rw [List.length_map] at hlined
    have hdrop := hrest.echo hagain (hmeets.past es₁ qs₁
      ((List.drop_sublist _ _).trans (List.sublist_cons_self _ _)) hqueued hlined
      (fun _ _ => hdropped) (by rw [hrun]) htwins₂) htail
    have hpairwise := hmeets.apart
    rw [← hsplit, ← List.cons_append] at hpairwise ⊢
    refine hfirst.append hdrop hpairwise (by simp) fun w hw => ?_
    exact (hrest.once (List.pairwise_append.1 hpairwise).2.1).under w (mem_covered w hw)
  | .node hjsx hfirst hrest, hmeets, hmap => by
    obtain ⟨e, es, rfl, hnode, hmap⟩ := List.map_eq_cons_iff.1 hmap
    obtain ⟨q, qs, htwin, htwins, rfl⟩ := List.forall₂_cons_left_iff.1 hmeets.twins
    have hhead := hfirst.echo hagain hmeets.queued.head (hmeets.within _ List.mem_cons_self) hjsx hnode
      (hmeets.situation _ List.mem_cons_self ▸ htwin)
    have htidy := (hmeets.queued.sound _ List.mem_cons_self).2
    have hqueued := hmeets.queued.tail hfirst.stays (hfirst.became htidy)
    have htail := hrest.echo hagain (hmeets.past [e] [q] (List.sublist_cons_self _ _)
      hqueued (hmeets.lined.tail hfirst.stays hjsx) (fun howner hbefore => by
        rw [List.filter_cons_of_pos hfirst.placed.full.isChild, List.head?_cons, Option.any_some,
          isJsxText_of_stays hfirst.stays (hjsx howner)] at hbefore
        cases hbefore) (by rw [← hnode]; rfl) htwins) hmap
    rw [List.map_append, List.map_map]
    refine hhead.singleton.append htail hmeets.apart (fun w hw => ?_) fun w hw => ?_
    · exact hfirst.once.under w (mem_covered w hw)
    · exact (hrest.once hmeets.apart.tail).under w (mem_covered w hw)

end

end Walks

theorem isSettled_iff_marked {env env' : Env} {spot : Option Mark → Focus} {root root' : Node}
    {made : Made Node} {ws : List Wrapped} (hagain : Again env env') (hroot : root.Parsed)
    (htidy : root.areTidy = true) (hroot' : root'.Parsed) (hfield : root'.field = root.field)
    (hvisit : Visit env none [] (Focus.ofRoot root) made ws)
    (hreads : Reads env env' spot (Focus.ofRoot made.part) (Focus.ofRoot root')) :
    IsSettled env' root' ↔ ∀ g, Reaches env (Focus.ofRoot root) g →
      Left env [] (ws.map (·.focus)) g → Marked env' spot g := by
  have htwin : Twin env env' spot ((Focus.ofRoot root).situation env.source env.function)
      (Focus.ofRoot made.part) (Focus.ofRoot root') :=
    ⟨hreads, hroot', rfl, .inl (hfield.trans hvisit.stays.field.symm)⟩
  exact hvisit.echo hagain (.root hroot htidy) rfl (fun h => by cases h) rfl htwin

end Pass
end Phrasebook
