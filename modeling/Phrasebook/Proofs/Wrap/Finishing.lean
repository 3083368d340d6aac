import Phrasebook.Proofs.Wrap.Clauses
import Phrasebook.Proofs.Wrap.Importable

/-! What finishing the head of a module leaves among its statements. A clause that names were put into
is one list in one pair of braces, unless two of them met in braces without a specifier; a statement
that was put in names the other module by a literal that reads back to it whenever the name needs no
escape. -/

namespace Phrasebook

open Node

namespace Header

inductive ExtendedBy : List Text → Node → Node → Prop
  | nil (s : Node) : ExtendedBy [] s s
  | cons {name : Text} {names : List Text} {s s' s'' : Node} (hnames : ExtendedBy names s s')
      (hname : Extended name s' s'') : ExtendedBy (name :: names) s s''

/-- What became of an import statement that listed its specifiers when names were put into it: it still
says the same, and lists the names beside its specifiers, unless several met in empty braces. -/
structure Lengthened (source : Bytes) (names : List Text) (s s' : Node) : Prop where
  head : SameHead source s s'
  listed : Listed s ((specifiers s).map .old) →
    ((∃ es, Listed s' es ∧ (es.filterMap Entry.new?).Perm names) ↔
      names.length ≤ 1 ∨ ¬ HasEmptyBraces s)

section Lengthening

variable {source : Bytes} {names : List Text} {name other : Text} {s s' s'' : Node} {es : List Entry}

theorem ExtendedBy.sameHead (h : ExtendedBy names s s') : SameHead source s s' := by
  induction h with
  | nil => exact .refl _
  | cons _ hname ih => exact ih.trans hname.sameHead

theorem hasEmptyBraces_extended (h : Extended name s s') : HasEmptyBraces s' ↔ HasEmptyBraces s := by
  have hleaf (t : Text) : (leaf t).kind ≠ "import_specifier" :=
    (by decide : "synthetic" ≠ "import_specifier")
  rcases namedImports?_extended h with ⟨hnone, hnone'⟩ | ⟨named, named', hsome, hsome', hfilled⟩
  · rw [HasEmptyBraces, HasEmptyBraces, hnone, hnone']
  · obtain ⟨k, t, hgains⟩ := hfilled.gains
    constructor
    · rintro ⟨found, hfound, hempty⟩
      obtain rfl := Option.some.inj (hfound.symm.trans hsome')
      exact ⟨named, hsome, fun c hc => hempty c (hgains.mem hc)⟩
    · rintro ⟨found, hfound, hempty⟩
      obtain rfl := Option.some.inj (hfound.symm.trans hsome)
      refine ⟨named', hsome', fun c hc => ?_⟩
      obtain rfl | hc := hgains.eq_or_mem hc
      · exact hleaf t
      · exact hempty c hc

theorem ExtendedBy.hasEmptyBraces (h : ExtendedBy names s s') : HasEmptyBraces s' ↔ HasEmptyBraces s := by
  induction h with
  | nil => exact Iff.rfl
  | cons _ hname ih => exact (hasEmptyBraces_extended hname).trans ih

theorem Extended.namedImports?_empty (h : Extended name s s') (hplain : IsPlain s)
    (hempty : HasEmptyBraces s) : ∃ named named' brace rest, namedImports? s = some named ∧
      namedImports? s' = some named' ∧ named.children = brace :: rest ∧
        named'.children = brace :: leaf (lone name) :: rest := by
  obtain ⟨found, hfound, hnone⟩ := hempty
  rcases namedImports?_extended h with ⟨hsome, -⟩ | ⟨named, named', hsome, hsome', hfilled⟩
  · rw [hfound] at hsome
    cases hsome
  · obtain rfl := Option.some.inj (hfound.symm.trans hsome)
    obtain ⟨clause, hclause, hnamed⟩ := Option.bind_eq_some_iff.1 hsome
    obtain ⟨hclause, hckind⟩ := childOfKind?_mem hclause
    obtain ⟨hnamed, hnkind⟩ := childOfKind?_mem hnamed
    obtain ⟨-, brace, rest, hchildren, -⟩ := hplain.braces clause hclause hckind found hnamed hnkind
    refine ⟨found, named', brace, rest, hsome, hsome', hchildren, ?_⟩
    cases hfilled with
    | joined hlast _ =>
      obtain ⟨past, c, after, hsplit, -, hkind, -⟩ := split_of_lastOfKind? hlast
      exact absurd hkind (hnone c (by rw [hsplit]; simp))
    | alone _ h => exact h.children_of_append [brace] hchildren rfl

theorem not_listed_of_hasEmptyBraces (hfirst : Extended name s s') (hsecond : Extended other s' s'')
    (hname : IsWord name) (hother : IsWord other) (hplain : IsPlain s) (hempty : HasEmptyBraces s) :
    ¬ Listed s'' es := by
  intro hs
  have hhead : SameHead [] s s' := hfirst.sameHead
  obtain ⟨-, named, brace, rest, -, hsome, -, hchildren⟩ := hfirst.namedImports?_empty hplain hempty
  obtain ⟨found, named', brace', rest', hfound, hsome', hchildren₁, hchildren'⟩ :=
    hsecond.namedImports?_empty (hhead.plain hplain) ((hasEmptyBraces_extended hfirst).2 hempty)
  obtain rfl := Option.some.inj (hfound.symm.trans hsome)
  obtain ⟨rfl, rfl⟩ := List.cons.inj (hchildren.symm.trans hchildren₁)
  obtain ⟨clause, hclause, hnamed⟩ := Option.bind_eq_some_iff.1 hsome'
  obtain ⟨hcmem, hckind⟩ := childOfKind?_mem hclause
  obtain ⟨hnmem, hnkind⟩ := childOfKind?_mem hnamed
  obtain ⟨⟨opening, more, hopening, hkind⟩, hparts⟩ := (hs.clause clause hcmem hckind).braces named' hnmem
    hnkind
  obtain ⟨rfl, -⟩ := List.cons.inj (hchildren'.symm.trans hopening)
  obtain ⟨hbuilt, hunnamed⟩ := (hparts brace (by rw [hchildren']; simp)).2 hkind
  obtain ⟨past, after, hsplit⟩ := List.append_of_mem hnmem
  have hpart : partTokens named' = .opening :: .entry (.new other) :: .entry (.new name) ::
      rest.flatMap tokensOf := by
    rw [partTokens, hnkind, if_pos (beq_self_eq_true _), hchildren']
    simp [tokensOf_brace hkind hbuilt hunnamed, tokensOf_lone hname, tokensOf_lone hother]
  have htokens : clauseTokens clause = past.flatMap partTokens ++
      .opening :: .entry (.new other) :: .entry (.new name) ::
        (rest.flatMap tokensOf ++ after.flatMap partTokens) := by
    rw [clauseTokens, hsplit]
    simp [hpart]
  have hlists := hs.lists clause hclause
  rw [htokens] at hlists
  exact not_lists_pair hlists

theorem ExtendedBy.listed (h : ExtendedBy names s s') (hwords : ∀ name ∈ names, IsWord name)
    (hs : Listed s ((specifiers s).map .old)) (hmeet : names.length ≤ 1 ∨ ¬ HasEmptyBraces s) :
    ∃ es, Listed s' es ∧ (es.filterMap Entry.new?).Perm names := by
  induction h with
  | nil =>
    refine ⟨_, hs, ?_⟩
    have hnone : ∀ specs : List Node, (specs.map Entry.old).filterMap Entry.new? = [] := by
      simp [List.filterMap_map, Function.comp_def, Entry.new?]
    rw [hnone]
  | @cons name names _ _ _ hnames hname ih =>
    obtain ⟨hword, hwords⟩ := List.forall_mem_cons.1 hwords
    obtain ⟨es, hes, hperm⟩ := ih hwords hs (hmeet.imp (fun h => by rw [List.length_cons] at h; omega) id)
    obtain ⟨es', hes', hadds⟩ := hname.listed hword hes fun hempty => by
      have hlength := hmeet.resolve_right fun h => h (hnames.hasEmptyBraces.1 hempty)
      rw [List.length_cons] at hlength
      obtain rfl := List.length_eq_zero_iff.1 (show names.length = 0 by omega)
      exact hperm.eq_nil
    exact ⟨es', hes', hadds.news.trans (hperm.cons _)⟩

theorem ExtendedBy.lengthened (h : ExtendedBy names s s') (hwords : ∀ name ∈ names, IsWord name)
    (hplain : IsPlain s) : Lengthened source names s s' where
  head := h.sameHead
  listed hs := by
    refine ⟨?_, h.listed hwords hs⟩
    rintro ⟨es, hes, -⟩
    by_contra hmeet
    obtain ⟨hlength, hempty⟩ := not_or.1 hmeet
    replace hempty := not_not.1 hempty
    cases h with
    | nil => simp at hlength
    | cons hnames hname =>
      cases hnames with
      | nil => simp at hlength
      | cons hmore hother =>
        have hhead : SameHead [] s _ := hmore.sameHead
        exact not_listed_of_hasEmptyBraces hother hname (hwords _ (by simp)) (hwords _ (by simp))
          (hhead.plain hplain) (hmore.hasEmptyBraces.2 hempty) hes

end Lengthening

/-- A child of a module whose head was finished for some sides: it stood there, names were put into it,
or it is a statement that was put in. -/
inductive Emits (source : Bytes) (v : Vocabulary) (root : Node) (done : Side → Prop) : Node → Prop
  | kept {c : Node} (hc : c ∈ root.children) : Emits source v root done c
  | extended {s s' : Node} {names : List Text} {module : Text} (hs : s ∈ root.children)
      (himport : IsImport source module s) (hextended : ExtendedBy names s s')
      (hlengthened : Lengthened source names s s') (hnonempty : names ≠ []) (hnodup : names.Nodup)
      (hsides : ∀ name ∈ names, ∃ side, done side ∧ symbol v side = .text name ∧
        origin v side = .text module)
      (hnew : ∀ name ∈ names, ∀ spec ∈ specifiers s, exportsName source name spec = false) :
      Emits source v root done s'
  | created {side : Side} {name module t : Text} (hside : done side)
      (hname : symbol v side = .text name) (hmodule : origin v side = .text module)
      (ht : t = "\n" ++ ("import \x7b " ++ name ++ " \x7d from " ++ Escape.quote module ++ ";") ∨
        t = "import \x7b " ++ name ++ " \x7d from " ++ Escape.quote module ++ ";" ++ "\n")
      (hreads : (Escape.StringToken (Escape.quote module) ∧
        Escape.decode (Text.inner 1 (Escape.quote module)) = .ok module) ↔ Escape.Verbatim module) :
      Emits source v root done (leaf t)
  | directive {t : Text} (ht : t = "\n\"use client\";" ∨ t = "\"use client\";\n") :
      Emits source v root done (leaf t)

section Emitting

variable {source : Bytes} {v : Vocabulary} {needs : Needs} {name module : Text}
  {root root₁ root₂ root' : Node} {done done' : Side → Prop} {c : Node} {side : Side}

theorem Emits.mono (h : Emits source v root done c) (hdone : ∀ side, done side → done' side) :
    Emits source v root done' c := by
  cases h with
  | kept hc => exact .kept hc
  | extended hs himport hextended hlengthened hnonempty hnodup hsides hnew =>
    refine .extended hs himport hextended hlengthened hnonempty hnodup (fun name hname => ?_) hnew
    obtain ⟨side, hside, hsymbol⟩ := hsides name hname
    exact ⟨side, hdone side hside, hsymbol⟩
  | created hside hname hmodule ht hreads => exact .created (hdone _ hside) hname hmodule ht hreads
  | directive ht => exact .directive ht

theorem importStatement_eq (name module : Text) : importStatement name module =
    "import \x7b " ++ name ++ " \x7d from " ++ Escape.quote module ++ ";" := by
  have hopen : Text.ofString " \x7d from \"" = Text.ofString " \x7d from " ++ Text.ofString "\"" := by
    decide
  have hclose : Text.ofString "\";" = Text.ofString "\"" ++ Text.ofString ";" := by decide
  rw [importStatement, Escape.quote, hopen, hclose]
  simp only [List.append_assoc]

theorem not_exports_of_ensureImport
    (h : (ensureImport source (.text name) (.text module) root).result = .ok (root', true)) {s : Node}
    (hs : s ∈ root.children) (himport : IsImport source module s) :
    ∀ spec ∈ specifiers s, exportsName source name spec = false := by
  unfold ensureImport at h
  obtain ⟨insertion?, hinsertion, h⟩ := Logged.result_bind_eq_ok.1 h
  unfold importInsertion? at hinsertion
  obtain ⟨found, hfound, hinsertion⟩ := except_bind_eq_ok.1 hinsertion
  cases found with
  | true =>
    cases hinsertion
    cases h
  | false => exact fun spec hspec => not_exports_of_hasImport hfound hs himport hspec

theorem Emits.extend {s s' : Node} (hroot : IsProgram root) (hdistinct : v.hook ≠ v.serverFunction)
    (hwords : ∀ side name, symbol v side = .text name → IsWord name) (hside : ¬ done side)
    (hname : symbol v side = .text name) (hmodule : origin v side = .text module)
    (hs : Emits source v root done s) (himport : IsImport source module s) (hextended : Extended name s s')
    (hnew : ∀ spec ∈ specifiers s, exportsName source name spec = false) :
    Emits source v root (fun s => s = side ∨ done s) s' := by
  cases hs with
  | kept hs =>
    have hby : ExtendedBy [name] s s' := .cons (.nil s) hextended
    have hword : ∀ n ∈ [name], IsWord n := List.forall_mem_singleton.2 (hwords side name hname)
    exact .extended hs himport hby (hby.lengthened hword (hroot.plain s hs himport.kind).2) (by simp)
      (by simp) (List.forall_mem_singleton.2 ⟨side, .inl rfl, hname, hmodule⟩)
      (List.forall_mem_singleton.2 hnew)
  | @extended s₀ _ names module₀ hs₀ himport₀ hextended₀ hlengthened₀ _ hnodup hsides hnew₀ =>
    have hby : ExtendedBy (name :: names) s₀ s' := .cons hextended₀ hextended
    have hsides' : ∀ n ∈ name :: names, ∃ s, (s = side ∨ done s) ∧ symbol v s = .text n ∧
        origin v s = .text module₀ := by
      refine List.forall_mem_cons.2 ⟨⟨side, .inl rfl, hname, ?_⟩, fun n hn => ?_⟩
      · have hsource := (hlengthened₀.head.isImport.2 himport₀).origin
        rw [himport.origin] at hsource
        rw [hmodule, Option.some.inj (Except.ok.inj hsource)]
      · obtain ⟨s, hs, hsymbol⟩ := hsides n hn
        exact ⟨s, .inr hs, hsymbol⟩
    have hwords' : ∀ n ∈ name :: names, IsWord n := fun n hn => by
      obtain ⟨s, -, hsymbol, -⟩ := hsides' n hn
      exact hwords s n hsymbol
    have hfresh : name ∉ names := fun hmem => by
      obtain ⟨s, hdone, hsymbol, -⟩ := hsides name hmem
      have hother : s ≠ side := fun h => hside (h ▸ hdone)
      cases s <;> cases side
      · exact hother rfl
      · exact hdistinct (hsymbol.trans hname.symm)
      · exact hdistinct (hname.trans hsymbol.symm)
      · exact hother rfl
    rw [hlengthened₀.head.specifiers] at hnew
    exact .extended hs₀ himport₀ hby (hby.lengthened hwords' (hroot.plain s₀ hs₀ himport₀.kind).2)
      (by simp) (List.nodup_cons.2 ⟨hfresh, hnodup⟩) hsides' (List.forall_mem_cons.2 ⟨hnew, hnew₀⟩)
  | created => exact absurd himport.kind (by decide : "synthetic" ≠ "import_statement")
  | directive => exact absurd himport.kind (by decide : "synthetic" ≠ "import_statement")

theorem emits_of_ensureImport {added : Bool} (hroot : IsProgram root) (hroot₁ : IsProgram root₁)
    (hdistinct : v.hook ≠ v.serverFunction)
    (hwords : ∀ side name, symbol v side = .text name → IsWord name)
    (hemits : ∀ c ∈ root₁.children, Emits source v root done c) (hside : ¬ done side)
    (hname : symbol v side = .text name) (hmodule : origin v side = .text module)
    (h : (ensureImport source (.text name) (.text module) root₁).result = .ok (root₂, added)) :
    ∀ c ∈ root₂.children, Emits source v root (fun s => s = side ∨ done s) c := by
  have hmono (c : Node) (hc : c ∈ root₁.children) : Emits source v root (fun s => s = side ∨ done s) c :=
    (hemits c hc).mono fun _ => .inr
  obtain ⟨hensures, hsame⟩ := ensures_of_ensureImport hroot₁ h
  cases added with
  | false =>
    obtain ⟨rfl, -⟩ := hsame rfl
    exact hmono
  | true =>
    intro c hc
    cases hensures with
    | present => exact hmono c hc
    | created ht hgains =>
      obtain rfl | hc := hgains.eq_or_mem hc
      · rw [importStatement_eq] at ht
        exact .created (.inl rfl) hname hmodule ht Escape.reads_quote_iff
      · exact hmono c hc
    | extended hwithin =>
      obtain ⟨s, s', hs, ⟨himport, hextended⟩, hchildren⟩ := hwithin.child
      have hmem := List.mem_of_getElem? hs
      rw [hchildren] at hc
      obtain hc | rfl := List.mem_or_eq_of_mem_set hc
      · exact hmono c hc
      · exact (hemits s hmem).extend hroot hdistinct hwords hside hname hmodule himport hextended
          (not_exports_of_ensureImport h hmem himport)

/-- What stands of a module whose head is being finished, some sides done. -/
structure Stage (source : Bytes) (v : Vocabulary) (root : Node) (done : Side → Prop) (root' : Node) :
    Prop where
  program : IsProgram root'
  edits : root' = root ∨ Edits root root'
  emits : ∀ c ∈ root'.children, Emits source v root done c

theorem edits_trans (h : root₁ = root ∨ Edits root root₁) (h' : root₂ = root₁ ∨ Edits root₁ root₂) :
    root₂ = root ∨ Edits root root₂ := by
  rcases h' with rfl | h'
  · exact h
  · rcases h with rfl | h
    · exact .inr h'
    · exact .inr (h.trans h')

theorem Ensures.edits (h : Ensures source name module root root') : root' = root ∨ Edits root root' := by
  cases h with
  | present => exact .inl rfl
  | extended h => exact .inr h.edits
  | created _ h => exact .inr h.edits

theorem Stage.import {side : Side} {added : Bool} (hroot : IsProgram root)
    (hdistinct : v.hook ≠ v.serverFunction)
    (hwords : ∀ side, ∃ name module, symbol v side = .text name ∧ IsWord name ∧ origin v side = .text module)
    (hstage : Stage source v root done root₁) (hside : ¬ done side)
    (h : (if needs.of side then ensureImport source (symbol v side) (origin v side) root₁
      else pure (root₁, false)).result = .ok (root₂, added)) :
    Stage source v root (fun s => (s = side ∧ needs.of s = true) ∨ done s) root₂ := by
  cases hneeds : needs.of side with
  | false =>
    rw [hneeds] at h
    cases h
    exact ⟨hstage.program, hstage.edits, fun c hc => (hstage.emits c hc).mono fun _ => .inr⟩
  | true =>
    obtain ⟨name, module, hname, -, hmodule⟩ := hwords side
    rw [hneeds, if_pos rfl, hname, hmodule] at h
    obtain ⟨hensures, -⟩ := ensures_of_ensureImport hstage.program h
    have hemits := emits_of_ensureImport hroot hstage.program hdistinct (fun side n hn => by
      obtain ⟨n', -, hn', hword, -⟩ := hwords side
      obtain rfl : n' = n := by simpa [hn] using hn'.symm
      exact hword) hstage.emits hside hname hmodule h
    refine ⟨hstage.program.of_ensures hensures, edits_trans hstage.edits hensures.edits, fun c hc => ?_⟩
    exact (hemits c hc).mono fun s hs => hs.imp (fun h => ⟨h, h ▸ hneeds⟩) id

theorem infix_of_print (hbuilt : root.info.built = false) (hdirty : root.info.dirty = true) {code : Text}
    (h : Tree.print ⟨source, root⟩ = .ok code) : ∃ octets, Utf8.encode? code = some octets ∧
      ∀ c ∈ root.children, ∃ bytes, c.render source = .ok bytes ∧ bytes <:+: octets := by
  have hmodified : (Tree.mk source root).isModified = true := hdirty
  rw [Tree.print, if_pos hmodified] at h
  obtain ⟨before, hbefore, h⟩ := except_bind_eq_ok.1 h
  obtain ⟨middle, hmiddle, h⟩ := except_bind_eq_ok.1 h
  obtain ⟨after, hafter, h⟩ := except_bind_eq_ok.1 h
  cases h
  obtain ⟨inside, hinside, hdecode⟩ := except_bind_eq_ok.1 hmiddle
  refine ⟨_, Utf8.encode?_append (Utf8.encode?_append (Utf8.decodeFault_eq_ok.1 hbefore)
    (Utf8.decodeFault_eq_ok.1 hdecode)) (Utf8.decodeFault_eq_ok.1 hafter), fun c hc => ?_⟩
  cases root with
  | text t => cases hc
  | branch i items =>
    have hsource : i.built = false := hbuilt
    have hedited : i.dirty = true := hdirty
    rw [render, hsource, if_neg Bool.false_ne_true, if_pos hedited] at hinside
    obtain ⟨bytes, hbytes, hinfix⟩ := infix_of_renderSpliced hinside (List.mem_filter.1 hc).1
    exact ⟨bytes, hbytes, hinfix.trans ⟨_, _, rfl⟩⟩

/-- **Finished heads.** Every child of a module whose head was finished stood there before, is an import
statement that names were put into, or was put in whole. A statement that names were put into keeps its
source and its specifiers, and lists each of the names once beside them, in one pair of braces with
commas between, exactly when they are not several in braces that held no specifier. A statement that was
put in has its source in a literal that reads back to it exactly when the source holds nothing that
needs an escape. What is printed holds all of that as it is. -/
theorem finalize_emits {changes : List Text} (hroot : IsProgram root)
    (hdistinct : v.hook ≠ v.serverFunction)
    (hwords : ∀ side, ∃ name module, symbol v side = .text name ∧ IsWord name ∧ origin v side = .text module)
    (h : (finalize source v needs root).result = .ok (root', changes)) :
    (∀ c ∈ root'.children, Emits source v root (fun side => needs.of side = true) c) ∧
      (root' = root ∨ ∀ code, Tree.print ⟨source, root'⟩ = .ok code → ∃ octets,
        Utf8.encode? code = some octets ∧ ∀ c ∈ root'.children, ∃ bytes, c.render source = .ok bytes ∧
          bytes <:+: octets) := by
  unfold finalize at h
  obtain ⟨⟨root₁, _⟩, h₁, h⟩ := Logged.result_ite_bind_eq_ok.1 h
  obtain ⟨⟨root₂, _⟩, h₂, h⟩ := Logged.result_ite_bind_eq_ok.1 h
  obtain ⟨⟨root₃, _⟩, h₃, h⟩ := Logged.result_ite_bind_eq_ok.1 h
  cases h
  have hstart : Stage source v root (fun _ => False) root := ⟨hroot, .inl rfl, fun c hc => .kept hc⟩
  have hclient : Stage source v root (fun s => (s = .client ∧ needs.of s = true) ∨ False) root₁ :=
    hstart.import hroot hdistinct hwords id h₁
  have hserver : Stage source v root
      (fun s => (s = .server ∧ needs.of s = true) ∨ (s = .client ∧ needs.of s = true) ∨ False) root₂ :=
    hclient.import hroot hdistinct hwords (by simp) h₂
  have hneeds (c : Node) (hc : c ∈ root₂.children) :
      Emits source v root (fun side => needs.of side = true) c :=
    (hserver.emits c hc).mono fun side hside => by
      obtain ⟨-, h⟩ | ⟨-, h⟩ | h := hside
      · exact h
      · exact h
      · exact h.elim
  have hlast : (root' = root₂ ∨ Edits root₂ root') ∧ IsProgram root' ∧
      ∀ c ∈ root'.children, Emits source v root (fun side => needs.of side = true) c := by
    split at h₃
    next =>
      rcases gains_of_ensureDirective hserver.program h₃ with rfl | ⟨k, t, ht, hgains⟩
      · exact ⟨.inl rfl, hserver.program, hneeds⟩
      · refine ⟨.inr hgains.edits, hserver.program.of_gains hgains, fun c hc => ?_⟩
        obtain rfl | hc := hgains.eq_or_mem hc
        · exact .directive ht
        · exact hneeds c hc
    next =>
      cases h₃
      exact ⟨.inl rfl, hserver.program, hneeds⟩
  obtain ⟨hedits, hprogram, hemits⟩ := hlast
  refine ⟨hemits, (edits_trans hserver.edits hedits).imp id fun hedits code hcode => ?_⟩
  obtain ⟨i, items, items', rfl, rfl⟩ := hedits
  exact infix_of_print hprogram.built rfl hcode

end Emitting

end Header

open Header

namespace Sample

def bracing (code : String) (specs : List Node) (a : Nat) : Tree where
  source := (Utf8.encode? code).getD []
  root := node "program" true 0 (a + 17) [importing (node "import_clause" true 7 a [
    node "named_imports" true 7 a (token "\x7b" 7 8 :: (specs ++ [token "\x7d" (a - 1) a]))]) a]

def listing : Tree := bracing "import \x7b a \x7d from \"i18nexus\";"
  [node "import_specifier" true 9 10 [inField "name" (node "identifier" true 9 10 [])]] 12

def bare : Tree := bracing "import \x7b\x7d from \"i18nexus\";" [] 9

theorem isProgram_listing : IsProgram listing.root :=
  isProgram_of_parsed ⟨by decide +kernel, by decide +kernel⟩ ⟨rfl, by decide +kernel⟩

end Sample

theorem isWord_default (side : Side) : ∃ name module : Text, symbol {} side = .text name ∧ IsWord name ∧
    origin {} side = .text module := by
  cases side with
  | client => exact ⟨"useTranslation", _, rfl, ⟨by decide, by decide⟩, rfl⟩
  | server => exact ⟨"getServerTranslation", _, rfl, ⟨by decide, by decide⟩, rfl⟩

/-- Two names go behind the last specifier, and the directive before everything. -/
theorem finalize_emits_both : (∀ s ∈ Sample.listing.root.children, Listed s ((specifiers s).map .old)) ∧
    ∃ root' changes, (finalize Sample.listing.source {} ⟨true, true, true⟩
      Sample.listing.root).result = .ok (root', changes) ∧
      Tree.print ⟨Sample.listing.source, root'⟩ = .ok (Text.ofString ("\"use client\";\n" ++
        "import \x7b a, getServerTranslation, useTranslation \x7d from \"i18nexus\";")) ∧
      ∀ c ∈ root'.children, Emits Sample.listing.source {} Sample.listing.root (fun _ => True) c := by
  refine ⟨List.forall_mem_singleton.2 ⟨by decide +kernel, ?_, rfl⟩, ?_⟩
  · rintro _ ⟨⟩
    exact .braces rfl
  obtain ⟨p, h, hprint⟩ : ∃ p,
      (finalize Sample.listing.source {} ⟨true, true, true⟩ Sample.listing.root).result = .ok p ∧
        (Tree.print ⟨Sample.listing.source, p.1⟩).toOption = some (Text.ofString ("\"use client\";\n" ++
          "import \x7b a, getServerTranslation, useTranslation \x7d from \"i18nexus\";")) :=
    Logged.exists_of_any (by decide +kernel)
  obtain ⟨hemits, -⟩ := finalize_emits Sample.isProgram_listing (by decide) isWord_default h
  exact ⟨p.1, p.2, h, except_eq_ok_of_toOption hprint, fun c hc => (hemits c hc).mono fun _ _ => trivial⟩

/-- Two names that are put into braces that hold nothing stand there without a comma. -/
theorem finalize_not_listed_bare : (∀ s ∈ Sample.bare.root.children, Listed s []) ∧
    ∃ root' changes, (finalize Sample.bare.source {} ⟨true, true, false⟩
      Sample.bare.root).result = .ok (root', changes) ∧
      changes = [Text.ofString "import useTranslation", Text.ofString "import getServerTranslation"] ∧
      Tree.print ⟨Sample.bare.source, root'⟩ = .ok
        (Text.ofString "import \x7b getServerTranslation  useTranslation \x7d from \"i18nexus\";") ∧
      ∀ s ∈ root'.children, ∀ es, ¬ Listed s es := by
  refine ⟨List.forall_mem_singleton.2 ⟨by decide +kernel, ?_, rfl⟩, ?_⟩
  · rintro _ ⟨⟩
    exact .braces rfl
  obtain ⟨p, h, hchanges, hcode, hclauses⟩ : ∃ p,
      (finalize Sample.bare.source {} ⟨true, true, false⟩ Sample.bare.root).result = .ok p ∧
        p.2 = [Text.ofString "import useTranslation", Text.ofString "import getServerTranslation"] ∧
        (Tree.print ⟨Sample.bare.source, p.1⟩).toOption = some (Text.ofString
          "import \x7b getServerTranslation  useTranslation \x7d from \"i18nexus\";") ∧
        ∀ s ∈ p.1.children, ((s.childOfKind? ["import_clause"]).any fun clause =>
          !isList (clauseTokens clause)) = true :=
    Logged.exists_of_any (by decide +kernel)
  refine ⟨p.1, p.2, h, hchanges, except_eq_ok_of_toOption hcode, fun s hs es hlisted => ?_⟩
  obtain ⟨clause, hclause, hlist⟩ := Option.any_eq_true _ _ |>.1 (hclauses s hs)
  rw [isList_iff.2 ⟨es, hlisted.lists clause hclause⟩] at hlist
  cases hlist

end Phrasebook
