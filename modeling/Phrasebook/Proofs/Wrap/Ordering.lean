import Phrasebook.Proofs.Tree.Context
import Phrasebook.Proofs.Tree.Leading
import Phrasebook.Proofs.Wrap.Finishing

/-! Where finishing the head of a module puts what it adds. A directive goes right behind a hash-bang
line, new imports go behind the prologue, and names go into imports that come later. What has been put in
ends the prologue for whoever looks for it next, so later insertions find the same places. -/

namespace Phrasebook

open Node

namespace Header

def isLead (n : Node) : Bool := isHashBang n || isDirective n

def isComment (n : Node) : Bool := n.kind == "comment"

def StartsBody (items : List Node) : Prop :=
  ∀ n, items.find? (fun c => !isComment c) = some n → isLead n = false

/-- The statements of a module: a hash-bang line at the front, if there is one, what else there is of
the prologue with the comments in it, and what comes after. -/
structure Heading (items bang front back : List Node) : Prop where
  split : items = bang ++ (front ++ back)
  hashBang : (items.take 1).filter isHashBang = bang
  members : ∀ n ∈ front, isLead n = true ∨ isComment n = true
  last : ∀ n, front.getLast? = some n → isLead n = true
  body : StartsBody back

/-- A new statement on a line of its own, behind the last of some statements if there are any. -/
def ownLine (lead : List Node) (t : Text) : Text := if lead.isEmpty then t ++ "\n" else "\n" ++ t

section Prologues

variable {items bang front back rest : List Node} {n c c' : Node}

theorem isLead_of_isComment (h : isComment n = true) : isLead n = false := by
  have hkind : n.kind = "comment" := by simpa [isComment] using h
  simp [isLead, isHashBang, isDirective, hkind]

theorem isComment_leaf (t : Text) : isComment (leaf t) = false := rfl

theorem isLead_leaf (t : Text) : isLead (leaf t) = false := rfl

theorem startsBody_cons (h : isComment n = false) : StartsBody (n :: items) ↔ isLead n = false := by
  simp [StartsBody, h]

theorem startsBody_comment (h : isComment n = true) : StartsBody (n :: items) ↔ StartsBody items := by
  simp [StartsBody, h]

theorem StartsBody.replace {before after : List Node} (h : StartsBody (before ++ c :: after))
    (hc' : isComment c' = false) (hlead : isLead c' = false) :
    StartsBody (before ++ c' :: after) := by
  induction before with
  | nil => exact (startsBody_cons hc').2 hlead
  | cons m before ih =>
    rw [List.cons_append] at h ⊢
    cases hm : isComment m with
    | true => exact (startsBody_comment hm).2 (ih ((startsBody_comment hm).1 h))
    | false => exact (startsBody_cons hm).2 ((startsBody_cons hm).1 h)

theorem startsBody_leaves (ts : List Text) (h : StartsBody items) :
    StartsBody (ts.map leaf ++ items) := by
  cases ts with
  | nil => exact h
  | cons t ts => exact (startsBody_cons (isComment_leaf t)).2 (isLead_leaf t)

theorem prologueFrom_cons (k : Nat) : prologueFrom k (n :: items) =
    if isLead n then (k, n) :: prologueFrom (k + 1) items
    else if isComment n then prologueFrom (k + 1) items else [] := rfl

theorem prologueFrom_of_startsBody (h : StartsBody items) (k : Nat) : prologueFrom k items = [] := by
  induction items generalizing k with
  | nil => rfl
  | cons n items ih =>
    rw [prologueFrom_cons]
    cases hn : isComment n with
    | true =>
      rw [isLead_of_isComment hn, if_neg Bool.false_ne_true, if_pos rfl]
      exact ih ((startsBody_comment hn).1 h) (k + 1)
    | false => rw [(startsBody_cons hn).1 h, if_neg Bool.false_ne_true, if_neg Bool.false_ne_true]

theorem prologueFrom_append (hfront : ∀ n ∈ front, isLead n = true ∨ isComment n = true)
    (hrest : StartsBody rest) (k : Nat) : prologueFrom k (front ++ rest) = prologueFrom k front := by
  induction front generalizing k with
  | nil => exact prologueFrom_of_startsBody hrest k
  | cons n front ih =>
    rw [List.cons_append, prologueFrom_cons, prologueFrom_cons, ih (List.forall_mem_cons.1 hfront).2]

theorem getLast?_prologueFrom (hfront : ∀ n ∈ front, isLead n = true ∨ isComment n = true)
    (hn : isLead n = true) (k : Nat) :
    (prologueFrom k (front ++ [n])).getLast? = some (k + front.length, n) := by
  induction front generalizing k with
  | nil => simp [prologueFrom_cons, hn, prologueFrom]
  | cons m front ih =>
    obtain ⟨hm, hfront⟩ := List.forall_mem_cons.1 hfront
    have hlast := ih hfront (k + 1)
    rw [Nat.add_right_comm, Nat.add_assoc] at hlast
    rw [List.cons_append, prologueFrom_cons, List.length_cons]
    cases hlead : isLead m with
    | true => rw [if_pos rfl, List.getLast?_cons, hlast, Option.getD_some]
    | false =>
      rw [if_neg Bool.false_ne_true, if_pos (hm.resolve_left (by rw [hlead]; exact Bool.false_ne_true)),
        hlast]

theorem statementInsertion_prologueFrom (hfront : ∀ n ∈ front, isLead n = true ∨ isComment n = true)
    (hlast : ∀ n, front.getLast? = some n → isLead n = true) (t note : Text) :
    statementInsertion (prologueFrom 0 front) t note = ⟨[], front.length, ownLine front t, note⟩ := by
  rcases List.eq_nil_or_concat front with rfl | ⟨past, n, rfl⟩
  · rfl
  · rw [List.concat_eq_append] at hfront hlast ⊢
    have hpast := (List.forall_mem_append.1 hfront).1
    have hn : isLead n = true := hlast n (by simp)
    have hempty : (past ++ [n]).isEmpty = false := by simp
    rw [statementInsertion, getLast?_prologueFrom hpast hn 0, ownLine, hempty, if_neg Bool.false_ne_true,
      List.length_append, Nat.zero_add]
    rfl

theorem exists_prologue (items : List Node) : ∃ front back, items = front ++ back ∧
    (∀ n ∈ front, isLead n = true ∨ isComment n = true) ∧
    (∀ n, front.getLast? = some n → isLead n = true) ∧ StartsBody back := by
  induction items with
  | nil => exact ⟨[], [], rfl, by simp, by simp, by simp [StartsBody]⟩
  | cons n items ih =>
    obtain ⟨front, back, rfl, hfront, hlast, hback⟩ := ih
    cases hlead : isLead n with
    | true =>
      refine ⟨n :: front, back, rfl, List.forall_mem_cons.2 ⟨.inl hlead, hfront⟩, fun m hm => ?_, hback⟩
      cases front with
      | nil =>
        obtain rfl : n = m := by simpa using hm
        exact hlead
      | cons c front => exact hlast m (by simpa using hm)
    | false =>
      cases hcomment : isComment n with
      | false => exact ⟨[], _, rfl, by simp, by simp, (startsBody_cons hcomment).2 hlead⟩
      | true =>
        cases front with
        | nil => exact ⟨[], _, rfl, by simp, by simp, (startsBody_comment hcomment).2 hback⟩
        | cons c front =>
          refine ⟨n :: c :: front, back, rfl, List.forall_mem_cons.2 ⟨.inr hcomment, hfront⟩,
            fun m hm => hlast m (by simpa using hm), hback⟩

theorem isHashBang_of_startsBody (h : StartsBody items) : (items.take 1).filter isHashBang = [] := by
  cases items with
  | nil => rfl
  | cons n items =>
    have hlead : isLead n = false := by
      cases hn : isComment n with
      | true => exact isLead_of_isComment hn
      | false => exact (startsBody_cons hn).1 h
    simpa using (Bool.or_eq_false_iff.1 hlead).1

theorem exists_heading (items : List Node) : ∃ bang front back, Heading items bang front back := by
  obtain ⟨front, back, rfl, hfront, hlast, hback⟩ := exists_prologue items
  cases front with
  | nil => exact ⟨[], [], back, rfl, isHashBang_of_startsBody hback, hfront, hlast, hback⟩
  | cons n front =>
    cases hn : isHashBang n with
    | false => exact ⟨[], n :: front, back, rfl, by simp [hn], hfront, hlast, hback⟩
    | true =>
      refine ⟨[n], front, back, rfl, by simp [hn], (List.forall_mem_cons.1 hfront).2, fun m hm => ?_, hback⟩
      cases front with
      | nil => cases hm
      | cons c front => exact hlast m (by simpa using hm)

namespace Heading

theorem filter_take (h : Heading items bang front back) (hrest : StartsBody rest) :
    ((bang ++ (front ++ rest)).take 1).filter isHashBang = bang := by
  have hbang := h.hashBang
  rw [h.split] at hbang
  cases bang with
  | nil =>
    cases front with
    | nil => exact isHashBang_of_startsBody hrest
    | cons n front => exact hbang
  | cons n bang => exact hbang

theorem isHashBang_of_mem (h : Heading items bang front back) (hn : n ∈ bang) : isHashBang n = true := by
  rw [← h.hashBang] at hn
  exact (List.mem_filter.1 hn).2

theorem lead (h : Heading items bang front back) :
    (∀ n ∈ bang ++ front, isLead n = true ∨ isComment n = true) ∧
      ∀ n, (bang ++ front).getLast? = some n → isLead n = true := by
  have hbang (n : Node) (hn : n ∈ bang) : isLead n = true :=
    Bool.or_eq_true_iff.2 (.inl (h.isHashBang_of_mem hn))
  refine ⟨List.forall_mem_append.2 ⟨fun n hn => .inl (hbang n hn), h.members⟩, fun n hn => ?_⟩
  rw [List.getLast?_append] at hn
  cases hlast : front.getLast? with
  | some m =>
    rw [hlast] at hn
    cases hn
    exact h.last _ hlast
  | none =>
    rw [hlast] at hn
    exact hbang n (List.mem_of_getLast? hn)

end Heading

theorem leads_eq_prologueFrom (items : List Node) : ((items.take 1).zipIdx.filterMap fun (n, k) =>
    if isHashBang n then some (k, n) else none) = prologueFrom 0 ((items.take 1).filter isHashBang) := by
  cases items with
  | nil => rfl
  | cons n items =>
    cases hn : isHashBang n with
    | true => simp [hn, prologueFrom_cons, isLead, prologueFrom]
    | false => simp [hn, prologueFrom]

end Prologues

/-- A program that stands for the source between two offsets, all of it within reach. -/
structure Covers (root : Node) (a b : Nat) : Prop where
  program : IsProgram root
  items : ∀ n ∈ root.items, n.isChild = true
  prints : ∃ ps, Prints root a b ps

def nameTexts (name : Text) : List Text := [joiner name, lone name, besides name]

section Insertions

variable {source : Bytes} {root : Node} {a b : Nat} {before after : List Node} {name module : Text}

theorem Covers.children (hroot : Covers root a b) : root.children = root.items :=
  List.filter_eq_self.2 hroot.items

theorem Covers.isShown (hroot : Covers root a b) : root.IsShown := by
  obtain ⟨ps, hps⟩ := hroot.prints
  exact hps.isShown

theorem Covers.hasSpan (hroot : Covers root a b) : root.HasSpan a b := by
  obtain ⟨ps, hps⟩ := hroot.prints
  exact hps.hasSpan

theorem Covers.prints_apply (hroot : Covers root a b) (insertion : Insertion) :
    ∃ ps, Prints (insertion.apply root) a b ps := by
  obtain ⟨ps, hps⟩ := hroot.prints
  obtain ⟨qs, hqs, -⟩ := (grows_apply insertion root).alters.prints hps
  exact ⟨qs, hqs⟩

theorem Covers.insert (hroot : Covers root a b) (hitems : root.items = before ++ after) (t note : Text) :
    Covers ((Insertion.mk [] before.length t note).apply root) a b ∧
      ((Insertion.mk [] before.length t note).apply root).items = before ++ leaf t :: after := by
  have hall := hroot.items
  have hle : before.length ≤ root.children.length := by
    rw [hroot.children, hitems, List.length_append]
    omega
  have hgains : Gains before.length t root ((Insertion.mk [] before.length t note).apply root) :=
    gainsAt_apply [] t note rfl hroot.program.isChild hroot.program.built hle
  have hnew : ((Insertion.mk [] before.length t note).apply root).items = before ++ leaf t :: after := by
    cases root with
    | text s => exact absurd hroot.program.isChild Bool.false_ne_true
    | branch i items =>
      obtain rfl : items = before ++ after := hitems
      have hinsert := insertAt_beside t (show i.built = false from hroot.program.built) hall
      exact congrArg (fun n => (n.getD (branch i (before ++ after))).items) hinsert
  refine ⟨⟨hroot.program.of_gains hgains, fun n hn => ?_, hroot.prints_apply _⟩, hnew⟩
  rw [hnew] at hn
  rw [hitems] at hall
  obtain ⟨hbefore, hafter⟩ := List.forall_mem_append.1 hall
  exact List.forall_mem_append.2 ⟨hbefore, List.forall_mem_cons.2 ⟨rfl, hafter⟩⟩ n hn

theorem place_of_extension? {k : Nat} {s : Node} {insertion : Insertion} (hbuilt : s.info.built = false)
    (hplain : IsPlain s) (h : extension? name module k s = some insertion) :
    ∃ path i items, insertion.path = k :: path ∧ s.at? path = some (branch i items) ∧ i.built = false ∧
      IsPrintedAlong path s ∧ insertion.text ∈ nameTexts name := by
  have hbranch {c : Node} {n : Node} {j : Nat} (hc : n.children[j]? = some c) :
      ∃ i items, c = branch i items := by
    have hchild := isChild_of_getElem? hc
    cases c with
    | text t => cases hchild
    | branch i items => exact ⟨i, items, rfl⟩
  obtain ⟨-, j, clause, -, hclause, hkind, h⟩ := cases_of_extension? h
  have hmem := List.mem_of_getElem? hclause
  have habove {n c : Node} (hn : n.info.built = false) : n.info.built = true → c.isPrinted = true :=
    fun h => absurd (hn.symm.trans h) Bool.false_ne_true
  have hfirst : ∀ c, s.children[j]? = some c → c = clause :=
    fun c hc => Option.some.inj (hc.symm.trans hclause)
  rcases h with ⟨i, named, -, hnamed, hnkind, hpath, htext⟩ | ⟨i, -, -, -, hpath, -, htext⟩
  · obtain ⟨l, items, rfl⟩ := hbranch hnamed
    refine ⟨[j, i], l, items, hpath, by simp [at?, hclause, hnamed],
      (hplain.braces clause hmem hkind _ (List.mem_of_getElem? hnamed) hnkind).1, ?_, ?_⟩
    · rintro c hc
      obtain rfl := hfirst c hc
      exact ⟨habove hbuilt, fun d _ => ⟨habove (hplain.clause c hmem hkind), trivial⟩⟩
    · rcases htext with ⟨last, -, -, htext⟩ | ⟨-, -, htext⟩ <;> simp [nameTexts, htext]
  · obtain ⟨l, items, rfl⟩ := hbranch hclause
    refine ⟨[j], l, items, hpath, by simp [at?, hclause], hplain.clause _ hmem hkind, ?_, ?_⟩
    · rintro c hc
      exact ⟨habove hbuilt, trivial⟩
    · simp [nameTexts, htext]

theorem Covers.extend {k : Nat} {s : Node} {insertion : Insertion} (hroot : Covers root a b)
    (hk : root.children[k]? = some s) (hkind : s.kind = "import_statement")
    (h : extension? name module k s = some insertion) :
    ∃ before after s', root.items = before ++ s :: after ∧
      (insertion.apply root).items = before ++ s' :: after ∧ Covers (insertion.apply root) a b ∧
      s'.kind = s.kind ∧ TakesPlace s s' ∧
      insertion.text ∈ nameTexts name ∧ Relates source (Framed (Puts insertion.text)) s s' := by
  obtain ⟨hbuilt, hplain⟩ := hroot.program.plain s (List.mem_of_getElem? hk) hkind
  have hwithin := extended_of_extension? hplain hk h
  have hprogram := hroot.program.of_extended (hwithin.of_child hk fun _ hs' => ⟨hkind, hs'⟩)
  obtain ⟨path, i, items, hpath, hat, hsource, halong, htext⟩ := place_of_extension? hbuilt hplain h
  have hplace : root.at? (k :: path) = some (branch i items) := by
    rw [at?, hk]
    exact hat
  obtain ⟨root', hroot'⟩ : ∃ root', root.insertAt (k :: path) insertion.index (leaf insertion.text) =
      some root' := editAt_isSome hplace rfl
  have happly : insertion.apply root = root' := by
    rw [Insertion.apply, hpath]
    exact congrArg (·.getD root) hroot'
  have hprints := hroot.prints_apply insertion
  rw [happly] at hprints hprogram ⊢
  obtain ⟨j, before, c, c', after, rfl, rfl, rfl, hc, hc', hedit⟩ := editAt_cons hroot'
  obtain rfl : s = c := Option.some.inj (hk.symm.trans (getElem?_filter_isChild hc))
  obtain ⟨l, js, js', rfl, rfl⟩ := branch_of_editAt hedit
  have hshown : (branch l js).IsShown := hroot.isShown.of_mem_items (by simp [Node.items]) hc
    fun h => absurd (hroot.program.built.symm.trans h) Bool.false_ne_true
  refine ⟨before, after, _, rfl, rfl, ⟨hprogram, ?_, hprints⟩, rfl,
    Edits.takesPlace ⟨_, _, _, rfl, rfl⟩, htext,
    relates_insertAt hshown halong hedit hat hsource⟩
  obtain ⟨hbefore, hrest⟩ := List.forall_mem_append.1 hroot.items
  exact List.forall_mem_append.2 ⟨hbefore, List.forall_mem_cons.2 ⟨hc', (List.forall_mem_cons.1 hrest).2⟩⟩

end Insertions

/-- What finishing the head of a module adds to it: a directive, import statements, and names in import
statements that were there. -/
structure Additions where
  directive : List Text
  created : List Text
  names : List Text

/-- Additions that are called for: the directive when the module needs it and its prologue lacks it, and
imports and names for the sides that the module makes use of. -/
structure Additions.AreFor (source : Bytes) (v : Vocabulary) (needs : Needs) (root : Node)
    (bang front : List Node) (x : Additions) : Prop where
  unneeded : needs.directive = false → x.directive = []
  directive : needs.directive = true → ∃ values, directives source root = .ok values ∧ x.directive =
    if clientDirective ∈ values then [] else [ownLine bang ("\"" ++ clientDirective ++ "\";")]
  created : ∀ t ∈ x.created, ∃ side, needs.of side = true ∧ t =
    ownLine (bang ++ front) (importStatement (symbol v side).spelling (origin v side).spelling)
  names : ∀ t ∈ x.names, ∃ side, needs.of side = true ∧ t ∈ nameTexts (symbol v side).spelling

/-- The octets of a module before and after its head was finished. The source in front of the root and
a hash-bang line are followed by the directive, the rest of the prologue with its comments by the new
imports, and names are put in in what comes after. -/
inductive Ordered (source : Bytes) (a b : Nat) (bang front back : List Node) (x : Additions) :
    Bytes → Bytes → Prop
  | mk {c d : Option Nat} {start lead rest rest' directive created : Bytes}
      (hbang : renderFront source (some a) bang = .ok (start, c))
      (hfront : renderFront source c front = .ok (lead, d))
      (hback : renderSpliced source d (some b) back = .ok rest)
      (hdirective : Utf8.encode? x.directive.flatten = some directive)
      (hcreated : Utf8.encode? x.created.flatten = some created) (hnames : PutIn x.names rest rest') :
      Ordered source a b bang front back x
        (source.take a ++ (start ++ (lead ++ (rest ++ source.drop b))))
        (source.take a ++ (start ++ (directive ++ (lead ++ (created ++ (rest' ++ source.drop b))))))

structure Progress (source : Bytes) (v : Vocabulary) (needs : Needs) (a b : Nat)
    (bang front back : List Node) (created names : List Text) (root : Node) : Prop where
  covers : Covers root a b
  items : ∃ rest, root.items = bang ++ (front ++ (created.map leaf ++ rest)) ∧ StartsBody rest ∧
    ∀ cursor stop x', renderSpliced source cursor stop rest = .ok x' →
      ∃ x, renderSpliced source cursor stop back = .ok x ∧ PutIn names x x'
  created : ∀ t ∈ created, ∃ side, needs.of side = true ∧ t =
    ownLine (bang ++ front) (importStatement (symbol v side).spelling (origin v side).spelling)
  names : ∀ t ∈ names, ∃ side, needs.of side = true ∧ t ∈ nameTexts (symbol v side).spelling

section Finishing

variable {source : Bytes} {v : Vocabulary} {needs : Needs} {root root₁ root₂ root' : Node} {a b : Nat}
  {bang front back : List Node} {created names : List Text} {code : Text}

theorem cases_of_ensureImport {name module : Word} {added : Bool}
    (h : (ensureImport source name module root).result = .ok (root', added)) : root' = root ∨
      (∃ k s insertion, root.children[k]? = some s ∧ s.kind = "import_statement" ∧
        extension? name.spelling module.spelling k s = some insertion ∧ root' = insertion.apply root) ∨
      ∃ note, root' = (statementInsertion (prologue root)
        (importStatement name.spelling module.spelling) note).apply root := by
  unfold ensureImport at h
  obtain ⟨insertion?, hinsertion, h⟩ := Logged.result_bind_eq_ok.1 h
  cases insertion? with
  | none =>
    cases h
    exact .inl rfl
  | some insertion =>
    obtain ⟨-, -, h⟩ := Logged.result_bind_eq_ok.1 h
    cases h
    unfold importInsertion? at hinsertion
    obtain ⟨found, -, hinsertion⟩ := except_bind_eq_ok.1 hinsertion
    cases found with
    | true => cases hinsertion
    | false =>
      obtain ⟨statements, hstatements, hinsertion⟩ := except_bind_eq_ok.1 hinsertion
      dsimp only at hinsertion
      split at hinsertion
      next insertion hextension =>
        cases hinsertion
        obtain ⟨⟨k, s⟩, hs, hextension⟩ := List.exists_of_findSome?_eq_some hextension
        obtain ⟨hk, hkind, -⟩ := mem_importsFrom hstatements hs
        exact .inr (.inl ⟨k, s, insertion, hk, hkind, hextension, rfl⟩)
      next =>
        cases hinsertion
        exact .inr (.inr ⟨_, rfl⟩)

theorem cases_of_ensureDirective {directive : Word} {added : Bool}
    (h : ensureDirective source directive root = .ok (root', added)) :
    ∃ values, directives source root = .ok values ∧ root' = if values.any directive.names then root
      else (statementInsertion (prologueFrom 0 ((root.children.take 1).filter isHashBang))
        ("\"" ++ directive.spelling ++ "\";") []).apply root := by
  unfold ensureDirective at h
  obtain ⟨values, hvalues, h⟩ := except_bind_eq_ok.1 h
  refine ⟨values, hvalues, ?_⟩
  split at h
  next hany =>
    cases h
    rw [if_pos hany]
  next hany =>
    rw [leads_eq_prologueFrom] at h
    cases h
    rw [if_neg hany]

theorem exists_of_append_eq {front rest before after : List Node} {s : Node}
    (h : front ++ rest = before ++ s :: after) (hs : s ∉ front) :
    ∃ more, before = front ++ more ∧ rest = more ++ s :: after := by
  rcases List.append_eq_append_iff.1 h with ⟨more, hbefore, hrest⟩ | ⟨more, hfront, hrest⟩
  · exact ⟨more, hbefore, hrest⟩
  · cases more with
    | nil => exact ⟨[], by simpa using hfront.symm, by simpa using hrest.symm⟩
    | cons m more =>
      obtain ⟨rfl, -⟩ := List.cons.inj hrest
      exact absurd (by rw [hfront]; simp) hs

theorem Heading.not_mem_of_import {items : List Node} (h : Heading items bang front back) {s : Node}
    (hs : s.kind = "import_statement") (ts : List Text) : s ∉ bang ++ (front ++ ts.map leaf) := by
  have hlead : isLead s = false := by simp [isLead, isHashBang, isDirective, hs]
  have hcomment : isComment s = false := by simp [isComment, hs]
  rw [← List.append_assoc]
  intro hmem
  rcases List.mem_append.1 hmem with hmem | hmem
  · rcases h.lead.1 s hmem with h | h
    · exact Bool.false_ne_true (hlead.symm.trans h)
    · exact Bool.false_ne_true (hcomment.symm.trans h)
  · obtain ⟨t, -, rfl⟩ := List.mem_map.1 hmem
    exact absurd hs (by decide : "synthetic" ≠ "import_statement")

theorem Progress.prologue_eq (h : Progress source v needs a b bang front back created names root₁)
    {items : List Node} (hitems : Heading items bang front back) :
    prologue root₁ = prologueFrom 0 (bang ++ front) := by
  obtain ⟨rest, hroot, hrest, -⟩ := h.items
  rw [prologue, h.covers.children, hroot, ← List.append_assoc]
  exact prologueFrom_append hitems.lead.1 (startsBody_leaves created hrest) 0

theorem Progress.import {items : List Node} {added : Bool} (side : Side)
    (hitems : Heading items bang front back)
    (h : Progress source v needs a b bang front back created names root₁)
    (himport : (if needs.of side then ensureImport source (symbol v side) (origin v side) root₁
      else pure (root₁, false)).result = .ok (root₂, added)) :
    ∃ created' names', Progress source v needs a b bang front back created' names' root₂ := by
  cases hneeds : needs.of side with
  | false =>
    rw [hneeds] at himport
    cases himport
    exact ⟨created, names, h⟩
  | true =>
    rw [hneeds, if_pos rfl] at himport
    obtain ⟨rest, hroot, hrest, hprints⟩ := h.items
    rcases cases_of_ensureImport himport with
      rfl | ⟨k, s, insertion, hk, hkind, hextension, rfl⟩ | ⟨note, rfl⟩
    · exact ⟨created, names, h⟩
    · obtain ⟨before, after, s', hsplit, hnew, hcovers, hkind', hplace, htext, hrelates⟩ :=
        h.covers.extend hk hkind hextension
      rw [hroot, ← List.append_assoc, ← List.append_assoc, List.append_assoc bang] at hsplit
      obtain ⟨more, rfl, rfl⟩ := exists_of_append_eq hsplit (hitems.not_mem_of_import hkind created)
      have hs' : isComment s' = false ∧ isLead s' = false := by
        simp [isComment, isLead, isHashBang, isDirective, hkind', hkind]
      refine ⟨created, insertion.text :: names, hcovers, ⟨more ++ s' :: after, ?_, ?_, ?_⟩, h.created,
        List.forall_mem_cons.2 ⟨⟨side, hneeds, htext⟩, h.names⟩⟩
      · rw [hnew]
        simp only [List.append_assoc]
      · exact hrest.replace hs'.1 hs'.2
      · intro cursor stop x' hx'
        obtain ⟨y, hy, hframed⟩ := framed_of_renderSpliced hplace hrelates hx'
        obtain ⟨x, hx, hput⟩ := hprints cursor stop y hy
        exact ⟨x, hx, hput.cons hframed.join⟩
    · rw [h.prologue_eq hitems, statementInsertion_prologueFrom hitems.lead.1 hitems.lead.2]
      rw [← List.append_assoc] at hroot
      obtain ⟨hcovers, hnew⟩ := h.covers.insert hroot _ note
      refine ⟨_ :: created, names, hcovers, ⟨rest, ?_, hrest, hprints⟩,
        List.forall_mem_cons.2 ⟨⟨side, hneeds, rfl⟩, h.created⟩, h.names⟩
      rw [hnew, List.append_assoc]
      rfl

theorem Progress.directive {items : List Node} {added : Bool} (hroot : prologue root = prologueFrom 0 (bang ++ front))
    (hitems : Heading items bang front back)
    (h : Progress source v needs a b bang front back created names root₁)
    (hdirective : (if needs.directive then Logged.of (ensureDirective source clientDirective root₁)
      else pure (root₁, false)).result = .ok (root', added)) :
    ∃ ts rest, Additions.AreFor source v needs root bang front ⟨ts, created, names⟩ ∧ Covers root' a b ∧
      root'.items = bang ++ (ts.map leaf ++ (front ++ (created.map leaf ++ rest))) ∧
      ∀ cursor stop x', renderSpliced source cursor stop rest = .ok x' →
        ∃ x, renderSpliced source cursor stop back = .ok x ∧ PutIn names x x' := by
  obtain ⟨rest, hitems₁, hrest, hprints⟩ := h.items
  cases hneeds : needs.directive with
  | false =>
    rw [hneeds] at hdirective
    cases hdirective
    exact ⟨[], rest, ⟨fun _ => rfl, fun h => absurd (hneeds.symm.trans h) Bool.false_ne_true, h.created,
      h.names⟩, h.covers, hitems₁, hprints⟩
  | true =>
    rw [hneeds, if_pos rfl] at hdirective
    obtain ⟨values, hvalues, hroot'⟩ := cases_of_ensureDirective hdirective
    have hsame : directives source root = .ok values := by
      rw [← hvalues, directives, directives, hroot, h.prologue_eq hitems]
    have hany : values.any (Word.text clientDirective).names = decide (clientDirective ∈ values) := by
      simp [List.any_eq, Word.names]
    have hfor {ts : List Text} (hts : ts = if clientDirective ∈ values then [] else
        [ownLine bang ("\"" ++ clientDirective ++ "\";")]) :
        Additions.AreFor source v needs root bang front ⟨ts, created, names⟩ :=
      ⟨fun h => absurd (h.symm.trans hneeds) Bool.false_ne_true, fun _ => ⟨values, hsame, hts⟩, h.created,
        h.names⟩
    by_cases hmem : clientDirective ∈ values
    · rw [hany, decide_eq_true hmem, if_pos rfl] at hroot'
      subst hroot'
      exact ⟨[], rest, hfor (if_pos hmem).symm, h.covers, hitems₁, hprints⟩
    · have hlead : ((root₁.children.take 1).filter isHashBang) = bang := by
        rw [h.covers.children, hitems₁]
        exact hitems.filter_take (startsBody_leaves created hrest)
      have hbang : ∀ n ∈ bang, isLead n = true := fun n hn =>
        Bool.or_eq_true_iff.2 (.inl (hitems.isHashBang_of_mem hn))
      rw [hany, decide_eq_false hmem, if_neg Bool.false_ne_true, hlead,
        statementInsertion_prologueFrom (fun n hn => .inl (hbang n hn))
          (fun n hn => hbang n (List.mem_of_getLast? hn))] at hroot'
      subst hroot'
      obtain ⟨hcovers, hnew⟩ := h.covers.insert hitems₁ (ownLine bang ("\"" ++ clientDirective ++ "\";")) []
      exact ⟨_, rest, hfor (if_neg hmem).symm, hcovers, hnew, hprints⟩

theorem Covers.octets_of_print (hroot : Covers root a b) (h : Tree.print ⟨source, root⟩ = .ok code) :
    ∃ inside, renderSpliced source (some a) (some b) root.items = .ok inside ∧
      Utf8.encode? code = some (source.take a ++ (inside ++ source.drop b)) := by
  obtain ⟨ps, hps⟩ := hroot.prints
  obtain ⟨inside, hinside, hcode⟩ := Tree.print_around hps hroot.program.built h
  rw [hps.isShown.render_eq hroot.program.built, hps.hasSpan.1, hps.hasSpan.2] at hinside
  exact ⟨inside, hinside, hcode⟩

/-- **The order of a finished head.** A directive that is added has nothing before it but the source in
front of the root and a hash-bang line. Imports that are added stand behind the directive and the whole
prologue, and in front of the first statement that is neither of the prologue nor a comment. A directive
that the prologue has is not added again. Without what was added the text is as it was before. -/
theorem finalize_ordered {changes : List Text} {code' : Text} (hroot : Covers root a b)
    (h : (finalize source v needs root).result = .ok (root', changes))
    (hcode : Tree.print ⟨source, root⟩ = .ok code) (hcode' : Tree.print ⟨source, root'⟩ = .ok code') :
    ∃ bang front back x octets octets', Heading root.children bang front back ∧
      x.AreFor source v needs root bang front ∧ Utf8.encode? code = some octets ∧
      Utf8.encode? code' = some octets' ∧ Ordered source a b bang front back x octets octets' := by
  obtain ⟨bang, front, back, hitems⟩ := exists_heading root.children
  unfold finalize at h
  obtain ⟨⟨root₁, _⟩, h₁, h⟩ := Logged.result_ite_bind_eq_ok.1 h
  obtain ⟨⟨root₂, _⟩, h₂, h⟩ := Logged.result_ite_bind_eq_ok.1 h
  obtain ⟨⟨root₃, _⟩, h₃, h⟩ := Logged.result_ite_bind_eq_ok.1 h
  cases h
  have hstart : Progress source v needs a b bang front back [] [] root :=
    ⟨hroot, ⟨back, hroot.children.symm.trans hitems.split, hitems.body, fun _ _ x hx => ⟨x, hx, .nil x⟩⟩,
      by simp, by simp⟩
  obtain ⟨_, _, hclient⟩ := hstart.import .client hitems h₁
  obtain ⟨created, names, hserver⟩ := hclient.import .server hitems h₂
  obtain ⟨directive, rest, hfor, hcovers, hnew, hprints⟩ :=
    hserver.directive (hstart.prologue_eq hitems) hitems h₃
  obtain ⟨inside, hinside, hoctets⟩ := hroot.octets_of_print hcode
  obtain ⟨inside', hinside', hoctets'⟩ := hcovers.octets_of_print hcode'
  rw [hnew] at hinside'
  obtain ⟨start, c, y, hbang, hy, rfl⟩ := renderSpliced_append.1 hinside'
  obtain ⟨d, z, hd, hz, rfl⟩ := renderSpliced_leaves hy
  obtain ⟨lead, e, w, hfront, hw, rfl⟩ := renderSpliced_append.1 hz
  obtain ⟨i, x', hi, hx', rfl⟩ := renderSpliced_leaves hw
  obtain ⟨x, hx, hput⟩ := hprints _ _ _ hx'
  have hbefore : renderSpliced source (some a) (some b) root.items = .ok (start ++ (lead ++ x)) := by
    rw [← hroot.children, hitems.split]
    exact renderSpliced_append.2 ⟨_, _, _, hbang, renderSpliced_append.2 ⟨_, _, _, hfront, hx, rfl⟩, rfl⟩
  obtain rfl : start ++ (lead ++ x) = inside := Except.ok.inj (hbefore.symm.trans hinside)
  refine ⟨bang, front, back, ⟨directive, created, names⟩, _, _, hitems, hfor, hoctets, hoctets', ?_⟩
  simp only [List.append_assoc]
  exact .mk hbang hfront hx hd hi hput

end Finishing

theorem covers_of_parsed {tree : Tree} (htree : tree.Parsed) (hmodule : IsModule tree.root) :
    ∃ a b, Covers tree.root a b := by
  obtain ⟨a, b, hlaid⟩ := exists_laidAt htree.root.laid
  exact ⟨a, b, isProgram_of_parsed htree.root hmodule,
    fun n hn => isChild_of_isLaid (isLaid_of_mem_items htree.root.laid hn), _, .clean hlaid⟩

end Header

open Header

namespace Sample

/-- A module with a hash-bang line, a comment, a directive and a statement. -/
def headed : Tree where
  source := (Utf8.encode? "#!x\n// a\n\"use strict\";\nf;").getD []
  root := node "program" true 0 25 [node "hash_bang_line" true 0 3 [], node "comment" true 4 8 [],
    node "expression_statement" true 9 22 [node "string" true 9 21 [token "\"" 9 10,
      node "string_fragment" true 10 20 [], token "\"" 20 21], token ";" 21 22],
    node "expression_statement" true 23 25 [node "identifier" true 23 24 [], token ";" 24 25]]

/-- That module with both imports and the directive. -/
def finished : Text := Text.ofString ("#!x\n\"use client\";\n// a\n\"use strict\";\n" ++
  "import \x7b getServerTranslation \x7d from \"i18nexus\";\n" ++
  "import \x7b useTranslation \x7d from \"i18nexus\";\nf;")

theorem headed_parsed : headed.Parsed := by decide +kernel

end Sample

/-- The directive goes behind the hash-bang line, the imports go behind the directive that was there. -/
theorem finalize_ordered_headed : Covers Sample.headed.root 0 25 ∧ ∃ root' changes code,
    (finalize Sample.headed.source {} ⟨true, true, true⟩ Sample.headed.root).result =
      .ok (root', changes) ∧
    Tree.print Sample.headed = .ok code ∧
    Tree.print ⟨Sample.headed.source, root'⟩ = .ok Sample.finished ∧
    ∃ bang front back x octets octets', Heading Sample.headed.root.children bang front back ∧
      x.AreFor Sample.headed.source {} ⟨true, true, true⟩ Sample.headed.root bang front ∧
      Utf8.encode? code = some octets ∧ Utf8.encode? Sample.finished = some octets' ∧
      Ordered Sample.headed.source 0 25 bang front back x octets octets' := by
  have hmodule : IsModule Sample.headed.root := ⟨rfl, by decide +kernel⟩
  have hcovers : Covers Sample.headed.root 0 25 :=
    ⟨isProgram_of_parsed Sample.headed_parsed.root hmodule,
      fun n hn => isChild_of_isLaid (isLaid_of_mem_items Sample.headed_parsed.root.laid hn),
      _, .clean ⟨Sample.headed_parsed.root.laid, rfl, rfl⟩⟩
  obtain ⟨p, h, hout⟩ : ∃ p,
      (finalize Sample.headed.source {} ⟨true, true, true⟩ Sample.headed.root).result = .ok p ∧
        (Tree.print ⟨Sample.headed.source, p.1⟩).toOption = some Sample.finished :=
    Logged.exists_of_any (by decide +kernel)
  have hcode' := except_eq_ok_of_toOption hout
  have hbefore : (Tree.print Sample.headed).isOk = true := by decide +kernel
  cases hcode : Tree.print Sample.headed with
  | error e =>
    rw [hcode] at hbefore
    cases hbefore
  | ok code => exact ⟨hcovers, p.1, p.2, code, h, rfl, hcode', finalize_ordered hcovers h hcode hcode'⟩

end Phrasebook
