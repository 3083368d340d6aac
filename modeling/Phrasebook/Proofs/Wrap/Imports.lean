import Phrasebook.Proofs.Wrap.Ensuring

/-! What a finished module imports. What was put into the head of a module for one side does not undo what
was there for the other. -/

namespace Phrasebook

open Node

namespace Header

section Modules

variable {source : Bytes} {name other module origin shown : Text} {root root' : Node}

def NoTypes (source : Bytes) (name module : Text) (root : Node) : Prop :=
  ∀ s ∈ root.children, IsImport source module s → ∀ spec ∈ specifiers s,
    exportsName source name spec = true → isTypeOnly spec = false

def NoEmptyBraces (source : Bytes) (module : Text) (root : Node) : Prop :=
  ∀ s ∈ root.children, IsImport source module s → (namedImports? s).isSome = true → specifiers s ≠ []

theorem SameHead.isImport {s s' : Node} (h : SameHead source s s') :
    IsImport source module s' ↔ IsImport source module s :=
  ⟨fun ⟨hkind, horigin, hvalue⟩ => ⟨h.kind ▸ hkind, h.origin ▸ horigin, h.value ▸ hvalue⟩,
    fun ⟨hkind, horigin, hvalue⟩ => ⟨h.kind.trans hkind, h.origin.trans horigin, h.value.trans hvalue⟩⟩

theorem NoTypes.follows (hroot : NoTypes source name module root) (h : Follows source root root') :
    NoTypes source name module root' := by
  intro s' hs' himport
  obtain ⟨s, hs, hhead⟩ := h s' hs' himport.kind
  rw [hhead.specifiers]
  exact hroot s hs (hhead.isImport.1 himport)

theorem NoEmptyBraces.follows (hroot : NoEmptyBraces source module root)
    (h : Follows source root root') : NoEmptyBraces source module root' := by
  intro s' hs' himport
  obtain ⟨s, hs, hhead⟩ := h s' hs' himport.kind
  rw [hhead.specifiers, hhead.braces]
  exact hroot s hs (hhead.isImport.1 himport)

def Quotable (t : Text) : Prop :=
  ∀ c ∈ t, c.val ≠ 0x22 ∧ c.val ≠ 0x5C ∧ 0x20 ≤ c.val ∧ c.isSurrogate = false

theorem encode_of_quotable {t : Text} (h : Quotable t) : Escape.encode t = "\"" ++ t ++ "\"" := by
  have hbody : t.flatMap Escape.encodeChar = t := by
    induction t with
    | nil => rfl
    | cons c rest ih =>
      obtain ⟨⟨hquote, hslash, hcontrol, hsurrogate⟩, hrest⟩ := List.forall_mem_cons.1 h
      have hfeed : c.val ≠ 0x0A ∧ c.val ≠ 0x0D ∧ c.val ≠ 0x09 ∧ c.val ≠ 0x0C ∧ c.val ≠ 0x08 ∧
          ¬ c.val < 0x20 := by omega
      have hchar : Escape.encodeChar c = [c] := by
        simp only [Escape.encodeChar, hsurrogate, Json.escapeChar, hquote, hslash, hfeed, if_false,
          Bool.false_eq_true]
      rw [List.flatMap_cons, hchar, ih hrest]
      rfl
  rw [Escape.encode, hbody]

theorem specifierName?_of_exportsName {spec : Node} (hkind : spec.kind = "import_specifier")
    (h : exportsName source name spec = true) :
    ∃ shown, Scope.specifierName? source spec = some shown := by
  obtain ⟨c, hc, -⟩ := Option.any_eq_true _ _ |>.1 h
  rw [Scope.specifierName?, if_pos (by rw [hkind]; rfl), hc]
  cases spec.childByField? "alias" with
  | none => exact ⟨_, rfl⟩
  | some local' => exact ⟨_, rfl⟩

theorem imports_of_specifier (hroot : NoTypes source name module root) {s spec : Node}
    (hs : s ∈ root.children) (himport : IsImport source module s) (hspec : spec ∈ specifiers s)
    (hname : exportsName source name spec = true) :
    ∃ shown, Imports source root name module shown := by
  have htype := hroot s hs himport spec hspec hname
  cases hbraces : namedImports? s with
  | none => simp [specifiers, hbraces] at hspec
  | some named =>
    rw [specifiers, hbraces, Option.map_some, Option.getD_some] at hspec
    obtain ⟨hmem, hkind⟩ := List.mem_filter.1 hspec
    have hkind' : spec.kind = "import_specifier" := by simpa using hkind
    obtain ⟨clause, hclause, hnamed⟩ := Option.bind_eq_some_iff.1 hbraces
    obtain ⟨hcmem, hckind⟩ := childOfKind?_mem hclause
    obtain ⟨hnmem, hnkind⟩ := childOfKind?_mem hnamed
    obtain ⟨shown, hshown⟩ := specifierName?_of_exportsName hkind' hname
    refine ⟨shown, .statement hs ⟨himport.kind, himport.origin, himport.value, clause, hcmem, hckind, ?_⟩⟩
    exact .braces hnmem hnkind
      (.specifier (List.mem_filter.1 hmem).1 hkind' htype hname hshown)

theorem Ensures.imports (hroot : IsProgram root) (htypes : NoTypes source name module root)
    (hmodule : Quotable module) (h : Ensures source name module root root') :
    ∃ shown, Imports source root' name module shown := by
  cases h with
  | present hs himport hspec hname => exact imports_of_specifier htypes hs himport hspec hname
  | extended h =>
    obtain ⟨s, s', hs, ⟨himport, hextended⟩, hchildren⟩ := h.child
    have hplain := (hroot.plain s (List.mem_of_getElem? hs) himport.kind).2
    refine ⟨name, .statement (s := s') ?_
      (hextended.importsBy himport.kind himport.origin himport.value hplain)⟩
    rw [hchildren]
    exact List.mem_of_getElem? (getElem?_set_of_getElem? hs)
  | @created k t _ ht h =>
    have hunpaired : Utf16.Unpaired module := Utf16.unpaired_of_isHigh fun c hc => by
      have hsurrogate := (hmodule c hc).2.2.2
      simp only [CodePoint.isSurrogate, CodePoint.isHigh, Bool.and_eq_false_iff,
        decide_eq_false_iff_not] at hsurrogate ⊢
      omega
    have hvalue : Escape.decode (Text.inner 1 (Escape.encode module)) = .ok module := by
      rw [Escape.decode_inner_encode, Utf16.joinPairs_of_unpaired hunpaired]
    refine ⟨name, .created h.leaf_mem ?_ (Escape.stringToken_encode module) hvalue⟩
    have hstatement : importStatement name module =
        "import \x7b " ++ name ++ " \x7d from " ++ Escape.encode module ++ ";" := by
      have hopen : Text.ofString " \x7d from \"" = Text.ofString " \x7d from " ++ Text.ofString "\"" := by
        decide
      have hclose : Text.ofString "\";" = Text.ofString "\"" ++ Text.ofString ";" := by decide
      rw [encode_of_quotable hmodule, importStatement, hopen, hclose]
      simp only [List.append_assoc]
    rwa [hstatement] at ht

theorem Imports.gains {k : Nat} {t : Text} (himports : Imports source root name module shown)
    (h : Gains k t root root') : Imports source root' name module shown := by
  cases himports with
  | statement hs himport => exact .statement (h.mem hs) himport
  | created hleaf ht htoken hvalue => exact .created (h.mem hleaf) ht htoken hvalue

theorem Imports.ensures (himports : Imports source root other origin shown) (hother : other ≠ name)
    (hbraces : origin = module → NoEmptyBraces source module root)
    (h : Ensures source name module root root') : Imports source root' other origin shown := by
  cases h with
  | present => exact himports
  | created _ h => exact himports.gains h
  | extended h =>
    obtain ⟨s, s', hs, ⟨himport, hextended⟩, hchildren⟩ := h.child
    cases himports with
    | @statement d _ hd hby =>
      rcases mem_set_of_ne (y := s') hs hd with rfl | hd
      · have horigin : origin = module := by
          have := hby.origin.symm.trans himport.origin
          simpa using this
        have hspec := hbraces horigin d hd himport
        refine .statement (s := s') ?_ (hextended.keeps hother hspec hby)
        rw [hchildren]
        exact List.mem_of_getElem? (getElem?_set_of_getElem? hs)
      · exact .statement (hchildren ▸ hd) hby
    | created hleaf ht htoken hvalue =>
      rcases mem_set_of_ne (y := s') hs hleaf with hsame | hleaf
      · have hkind := himport.kind
        rw [← hsame] at hkind
        exact absurd hkind (by decide : "synthetic" ≠ "import_statement")
      · exact .created (hchildren ▸ hleaf) ht htoken hvalue

end Modules

section Heads

variable {source : Bytes} {v : Vocabulary} {needs : Needs} {root root' : Node}

/-- The name that the statement of a side calls. -/
def symbol (v : Vocabulary) : Side → Word
  | .client => v.hook
  | .server => v.serverFunction

/-- The module that the name comes from. -/
def origin (v : Vocabulary) : Side → Word
  | .client => v.importSource
  | .server => v.serverImportSource

/-- Whether a module makes use of the statement of a side. -/
def Needs.of (needs : Needs) : Side → Bool
  | .client => needs.client
  | .server => needs.server

/-- What the settings and a module have to be like for an import to be told by its text: the names are
texts, a module name can stand between quotes, and no specifier brings in the name as a type. -/
def CanImport (source : Bytes) (v : Vocabulary) (root : Node) : Prop :=
  ∀ side, ∃ name module, symbol v side = .text name ∧ origin v side = .text module ∧
    Quotable module ∧ NoTypes source name module root

/-- What has to hold for two imports to go into one module: they are of different names, and they do
not meet in braces that hold nothing. -/
def CanImportBoth (source : Bytes) (v : Vocabulary) (root : Node) : Prop :=
  v.hook ≠ v.serverFunction ∧ (v.importSource = v.serverImportSource →
    ∀ module, v.importSource = .text module → NoEmptyBraces source module root)

theorem gains_of_ensureDirective {directive : Word} {added : Bool} (hroot : IsProgram root)
    (h : ensureDirective source directive root = .ok (root', added)) :
    root' = root ∨ ∃ k t, (t = "\n" ++ ("\"" ++ directive.spelling ++ "\";") ∨
      t = "\"" ++ directive.spelling ++ "\";" ++ "\n") ∧ Gains k t root root' := by
  unfold ensureDirective at h
  obtain ⟨values, -, h⟩ := except_bind_eq_ok.1 h
  split at h
  next =>
    cases h
    exact .inl rfl
  next =>
    cases h
    refine .inr (gains_statementInsertion hroot _ _ _ fun j n hj => ?_)
    obtain ⟨⟨m, l⟩, hm, hjn⟩ := List.mem_filterMap.1 hj
    dsimp only at hjn
    split at hjn
    next =>
      cases hjn
      obtain ⟨hlt, -⟩ := List.getElem?_eq_some_iff.1 (List.mem_zipIdx_iff_getElem?.1 hm)
      rw [List.length_take] at hlt
      omega
    next => cases hjn

theorem imports_of_finalize {changes : List Text} (hroot : IsProgram root)
    (hcan : CanImport source v root)
    (hboth : needs.client = true → needs.server = true → CanImportBoth source v root)
    (h : (finalize source v needs root).result = .ok (root', changes)) {side : Side}
    (hside : needs.of side = true) {name module : Text} (hname : symbol v side = .text name)
    (hmodule : origin v side = .text module) :
    ∃ shown, Imports source root' name module shown := by
  obtain ⟨hook, client, hhook, hclient, hclientQuotable, hclientTypes⟩ := hcan .client
  obtain ⟨function, server, hfunction, hserver, hserverQuotable, hserverTypes⟩ := hcan .server
  unfold finalize at h
  obtain ⟨⟨root₁, _⟩, h₁, h⟩ := Logged.result_ite_bind_eq_ok.1 h
  obtain ⟨⟨root₂, _⟩, h₂, h⟩ := Logged.result_ite_bind_eq_ok.1 h
  obtain ⟨⟨root₃, _⟩, h₃, h⟩ := Logged.result_ite_bind_eq_ok.1 h
  cases h
  have hfirst : (needs.client = false ∧ root₁ = root) ∨
      (needs.client = true ∧ Ensures source hook client root root₁) := by
    cases hneeds : needs.client with
    | false =>
      rw [hneeds] at h₁
      cases h₁
      exact .inl ⟨rfl, rfl⟩
    | true =>
      rw [hneeds, show v.hook = .text hook from hhook,
        show v.importSource = .text client from hclient] at h₁
      exact .inr ⟨rfl, (ensures_of_ensureImport hroot h₁).1⟩
  have hroot₁ : IsProgram root₁ := by
    rcases hfirst with ⟨-, rfl⟩ | ⟨-, h⟩
    · exact hroot
    · exact hroot.of_ensures h
  have hfollows : Follows source root root₁ := by
    rcases hfirst with ⟨-, rfl⟩ | ⟨-, h⟩
    · exact .refl root₁
    · exact h.follows
  have hsecond : (needs.server = false ∧ root₂ = root₁) ∨
      (needs.server = true ∧ Ensures source function server root₁ root₂) := by
    cases hneeds : needs.server with
    | false =>
      rw [hneeds] at h₂
      cases h₂
      exact .inl ⟨rfl, rfl⟩
    | true =>
      rw [hneeds, show v.serverFunction = .text function from hfunction,
        show v.serverImportSource = .text server from hserver] at h₂
      exact .inr ⟨rfl, (ensures_of_ensureImport hroot₁ h₂).1⟩
  have hroot₂ : IsProgram root₂ := by
    rcases hsecond with ⟨-, rfl⟩ | ⟨-, h⟩
    · exact hroot₁
    · exact hroot₁.of_ensures h
  -- The directive is a statement of its own, and takes nothing away.
  have hlast {shown : Text} (himports : Imports source root₂ name module shown) :
      ∃ shown, Imports source root' name module shown := by
    split at h₃
    next =>
      rcases gains_of_ensureDirective hroot₂ h₃ with rfl | ⟨k, t, -, hgains⟩
      · exact ⟨_, himports⟩
      · exact ⟨_, himports.gains hgains⟩
    next =>
      cases h₃
      exact ⟨_, himports⟩
  cases side with
  | client =>
    obtain rfl : hook = name := by simpa [hhook] using hname
    obtain rfl : client = module := by simpa [hclient] using hmodule
    obtain ⟨hneeds, -⟩ | ⟨hneeds, hensures⟩ := hfirst
    · rw [Needs.of, hneeds] at hside
      cases hside
    obtain ⟨shown, himports⟩ := hensures.imports hroot hclientTypes hclientQuotable
    obtain ⟨-, rfl⟩ | ⟨hneeds', hensures'⟩ := hsecond
    · exact hlast himports
    · obtain ⟨hne, hbraces⟩ := hboth hneeds hneeds'
      refine hlast (himports.ensures ?_ (fun horigin => ?_) hensures')
      · rintro rfl
        exact hne (hhook.trans hfunction.symm)
      · subst horigin
        exact (hbraces (hclient.trans hserver.symm) client hclient).follows hfollows
  | server =>
    obtain rfl : function = name := by simpa [hfunction] using hname
    obtain rfl : server = module := by simpa [hserver] using hmodule
    obtain ⟨hneeds, -⟩ | ⟨-, hensures⟩ := hsecond
    · rw [Needs.of, hneeds] at hside
      cases hside
    obtain ⟨shown, himports⟩ := hensures.imports hroot₁ (hserverTypes.follows hfollows)
      hserverQuotable
    exact hlast himports

end Heads

end Header

end Phrasebook
