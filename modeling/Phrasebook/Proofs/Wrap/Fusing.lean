import Phrasebook.Proofs.Wrap.Importable
import Phrasebook.Proofs.Wrap.Tidiness

/-! No call runs into a name. The bindings and the head of a module keep apart what a pass puts in and
the source, so in the text of a pass a call stands behind a character of a name only where the source has
one right before the literal. -/

namespace Phrasebook

open Node Piece

namespace Binding

variable {source : Bytes} {lines : List Text} {v : Vocabulary} {mode : Option Side} {injected : List Path}
  {root root' : Node} {target : Target} {outcome : Outcome} {t : Text} {path : Path}

theorem endsName_call : EndsName ("();" : Text) := endsName_of_getLast? (v := 0x3B) rfl (by decide)

theorem endsName_clientStatement (hook function : Text) : EndsName (clientStatement hook function) :=
  endsName_append _ endsName_call

theorem endsName_serverStatement (serverFunction function : Text) :
    EndsName (serverStatement serverFunction function) :=
  endsName_append _ endsName_call

theorem endsName_firstStatementText (brace : Node) (following : Option Node) (ht : EndsName t) :
    EndsName (firstStatementText lines brace following t) := by
  cases following with
  | none => exact endsName_append _ endsName_blank
  | some next =>
    refine iteInduction (motive := EndsName) (fun _ => endsName_append _ ht) fun _ => ?_
    exact iteInduction (motive := EndsName) (fun _ => endsName_append _ endsName_blank)
      fun _ => endsName_append _ ht

theorem tidy_insertFirst (ht : EndsName t) (h : insertFirst lines root path t = .ok root')
    (hroot : Tidy CodePoint.extendsName root) : Tidy CodePoint.extendsName root' := by
  unfold insertFirst at h
  split at h
  next brace rest hchildren =>
    dsimp only at h
    split at h
    next root'' hroot' =>
      cases h
      exact tidy_insertAt (endsName_firstStatementText _ _ ht) hroot' hroot
    next => cases h
  next => cases h

theorem MadeAsync.tidy {k k₁ : Nat} (h : MadeAsync root path k root' k₁)
    (hroot : Tidy CodePoint.extendsName root) : Tidy CodePoint.extendsName root' := by
  cases h with
  | already => exact hroot
  | now h => exact tidy_insertAt (endsName_of_getLast? (v := 0x20) rfl (by decide)) h hroot

theorem tidy_expandBody {indent : Text} {k : Nat}
    (hbody : ∀ n c, root.at? path = some n → n.children[k]? = some c → c.field ≠ none)
    (h : expandBody indent root (path ++ [k]) t = .ok root') (hroot : Tidy CodePoint.extendsName root) :
    Tidy CodePoint.extendsName root' := by
  let front : List Text := ["\x7b\n", indent ++ indentUnit, t, "\n", indent ++ indentUnit]
  let tail : List Text := [";\n", indent]
  have hwrap : root.wrapAt (path ++ [k]) "statement_block" ((front ++ [("return " : Text)]).map text)
      ((tail ++ [("\x7d" : Text)]).map text) = .ok root' := h
  exact tidy_wrapAt hbody (endsName_of_getLast? (v := 0x20) rfl (by decide)) endsName_brace hwrap hroot

theorem tidy_inject
    (h : (inject source lines v mode injected root target).result = .ok (root', outcome))
    (hroot : Tidy CodePoint.extendsName root) : Tidy CodePoint.extendsName root' := by
  have hfocus := Focus.map_node_at? (Focus.ofRoot root) target.path
  unfold inject at h
  dsimp only at h
  split at h
  next =>
    obtain ⟨-, -, h⟩ := Logged.result_bind_eq_ok.1 h
    cases h
    exact hroot
  next =>
  cases hat : (Focus.ofRoot root).at? target.path with
  | none =>
    rw [hat] at h
    cases h
    exact hroot
  | some focus =>
    rw [hat] at h hfocus
    replace hfocus : root.at? target.path = some focus.node := hfocus.symm
    dsimp only at h
    split at h
    next k body hk hbody =>
      cases hside : chooseSide mode target.serverBound with
      | client =>
        rw [hside] at h
        dsimp only at h
        split at h
        next =>
          cases h
          exact hroot
        next =>
        split at h
        next =>
          obtain ⟨-, -, h⟩ := Logged.result_bind_eq_ok.1 h
          cases h
          exact hroot
        next =>
          obtain ⟨root₁, hroot₁, h⟩ := Logged.result_bind_eq_ok.1 h
          cases h
          exact tidy_insertFirst (endsName_clientStatement _ _) hroot₁ hroot
      | server =>
        rw [hside] at h
        dsimp only at h
        have hasync := madeAsync_ensureAsync hfocus hk
        split at h
        next =>
          obtain ⟨root₂, hroot₂, h⟩ := Logged.result_bind_eq_ok.1 h
          cases h
          exact tidy_insertFirst (endsName_serverStatement _ _) hroot₂ (hasync.tidy hroot)
        next =>
          obtain ⟨root₂, hroot₂, h⟩ := Logged.result_bind_eq_ok.1 h
          cases h
          refine tidy_expandBody (fun n c hn hc => ?_) hroot₂ (hasync.tidy hroot)
          obtain ⟨fn₁, hat₁, -, hchild⟩ := hasync.body hfocus hk
          obtain ⟨body, hbody, -, hfield⟩ := body_of_bodyIndex? hk
          cases hn.symm.trans hat₁
          cases hc.symm.trans (hchild.trans hbody)
          rw [hfield]
          exact Option.some_ne_none _
    next =>
      cases h
      exact hroot

end Binding

theorem tidy_bindComponents {tree : Tree} {settings : Settings} {b b' : Bindings}
    {components : List Pass.Component} {reports : List Report}
    (h : (bindComponents tree settings b components).result = .ok (b', reports))
    (hb : Tidy CodePoint.extendsName b.root) : Tidy CodePoint.extendsName b'.root := by
  induction components generalizing b b' reports with
  | nil =>
    cases h
    exact hb
  | cons c rest ih =>
    obtain ⟨b₁, outcome, reports', -, hrest, ⟨-, rfl, -⟩ | ⟨-, root, hinject, rfl⟩⟩ :=
      bindComponents_cons h
    · exact ih hrest hb
    · exact ih hrest (Binding.tidy_inject hinject hb)

namespace Header

/-- A module whose statements are tidy, or where a name may go into one, have something of the source
behind that place. -/
structure IsApart (source : Bytes) (root : Node) : Prop where
  built : root.info.built = false
  items : ∀ n ∈ root.items, Tidy CodePoint.extendsName n ∨ Encloses source n
  imports : ∀ s ∈ root.items, s.isChild = true → s.kind = "import_statement" → Encloses source s

section Heads

variable {source : Bytes} {root root' : Node} {t : Text}

theorem IsApart.statement (lead : List (Nat × Node)) (note : Text) (ht : EndsName t)
    (hroot : IsApart source root) : IsApart source ((statementInsertion lead t note).apply root) := by
  obtain ⟨index, text, hinsertion, htext⟩ : ∃ index text,
      statementInsertion lead t note = ⟨[], index, text, note⟩ ∧ EndsName text := by
    rw [statementInsertion]
    split
    · exact ⟨_, _, rfl, endsName_append _ ht⟩
    · exact ⟨_, _, rfl, endsName_append _ endsName_lineFeed⟩
  rw [hinsertion]
  cases root with
  | text t => exact hroot
  | branch i items =>
    obtain ⟨before, after, rfl, hnew⟩ := insertItem_eq
      ((leaf text).mapInfo fun j => { j with standing := sideStanding i })
      (clampIndex index (items.countP isChild)) items
    have happly : (Insertion.mk [] index text note).apply (branch i (before ++ after)) =
        branch { i with dirty := true } (before ++
          (leaf text).mapInfo (fun j => { j with standing := sideStanding i }) :: after) := by
      rw [← hnew]
      rfl
    rw [happly]
    obtain ⟨hbefore, hafter⟩ := List.forall_mem_append.1 hroot.items
    obtain ⟨hbefore', hafter'⟩ := List.forall_mem_append.1 hroot.imports
    refine ⟨hroot.built, List.forall_mem_append.2 ⟨hbefore, List.forall_mem_cons.2 ⟨.inl ?_, hafter⟩⟩,
      List.forall_mem_append.2 ⟨hbefore', List.forall_mem_cons.2 ⟨fun _ hkind => ?_, hafter'⟩⟩⟩
    · exact tidy_leaf htext _
    · exact absurd hkind (by decide : "synthetic" ≠ "import_statement")

theorem IsApart.extension {name module : Text} {k : Nat} {s : Node} {insertion : Insertion}
    (hk : root.children[k]? = some s) (hkind : s.kind = "import_statement")
    (h : extension? name module k s = some insertion) (hroot : IsApart source root) :
    IsApart source (insertion.apply root) := by
  obtain ⟨j, clause, more, hpath, hclause, hclauseKind⟩ := path_of_extension? h
  rw [Insertion.apply, hpath]
  cases hinsert : root.insertAt (k :: j :: more) insertion.index (leaf insertion.text) with
  | none => exact hroot
  | some root' =>
    obtain ⟨i, before, c, c', after, rfl, rfl, rfl, hc, hc', hbelow⟩ := editAt_cons hinsert
    obtain rfl : c = s := Option.some.inj ((getElem?_filter_isChild hc).symm.trans hk)
    have hs : Encloses source c := hroot.imports c (List.mem_append_right _ List.mem_cons_self) hc hkind
    have hs' : Encloses source c' := encloses_insertAt hclause hclauseKind hbelow hs
    obtain ⟨hbefore, hafter⟩ := List.forall_mem_append.1 hroot.items
    obtain ⟨hbefore', hafter'⟩ := List.forall_mem_append.1 hroot.imports
    exact ⟨hroot.built, List.forall_mem_append.2 ⟨hbefore, List.forall_mem_cons.2
        ⟨.inr hs', (List.forall_mem_cons.1 hafter).2⟩⟩,
      List.forall_mem_append.2 ⟨hbefore', List.forall_mem_cons.2
        ⟨fun _ _ => hs', (List.forall_mem_cons.1 hafter').2⟩⟩⟩

theorem endsName_importStatement (name module : Text) : EndsName (importStatement name module) :=
  endsName_append _ (endsName_of_getLast? (v := 0x3B) rfl (by decide))

theorem IsApart.ensureImport {name module : Word} {added : Bool} (hroot : IsApart source root)
    (h : (Header.ensureImport source name module root).result = .ok (root', added)) :
    IsApart source root' := by
  unfold Header.ensureImport at h
  obtain ⟨insertion?, hinsertion, h⟩ := Logged.result_bind_eq_ok.1 h
  unfold importInsertion? at hinsertion
  obtain ⟨found, -, hinsertion⟩ := except_bind_eq_ok.1 hinsertion
  cases found with
  | true =>
    cases hinsertion
    cases h
    exact hroot
  | false =>
    obtain ⟨statements, hstatements, hinsertion⟩ := except_bind_eq_ok.1 hinsertion
    dsimp only at hinsertion
    split at hinsertion
    next insertion hextension =>
      cases hinsertion
      obtain ⟨-, -, h⟩ := Logged.result_bind_eq_ok.1 h
      cases h
      obtain ⟨⟨k, s⟩, hs, hinsertion⟩ := List.exists_of_findSome?_eq_some hextension
      obtain ⟨hk, hkind, -⟩ := mem_importsFrom hstatements hs
      exact hroot.extension hk hkind hinsertion
    next =>
      cases hinsertion
      obtain ⟨-, -, h⟩ := Logged.result_bind_eq_ok.1 h
      cases h
      exact hroot.statement _ _ (endsName_importStatement _ _)

theorem IsApart.ensureDirective {directive : Word} {added : Bool} (hroot : IsApart source root)
    (h : Header.ensureDirective source directive root = .ok (root', added)) : IsApart source root' := by
  unfold Header.ensureDirective at h
  obtain ⟨values, -, h⟩ := except_bind_eq_ok.1 h
  split at h
  next =>
    cases h
    exact hroot
  next =>
    cases h
    exact hroot.statement _ _ (endsName_append _ (endsName_of_getLast? (v := 0x3B) rfl (by decide)))

theorem IsApart.finalize {v : Vocabulary} {needs : Needs} {changes : List Text}
    (hroot : IsApart source root)
    (h : (Header.finalize source v needs root).result = .ok (root', changes)) : IsApart source root' := by
  unfold Header.finalize at h
  obtain ⟨⟨root₁, _⟩, h₁, h⟩ := Logged.result_ite_bind_eq_ok.1 h
  obtain ⟨⟨root₂, _⟩, h₂, h⟩ := Logged.result_ite_bind_eq_ok.1 h
  obtain ⟨⟨root₃, _⟩, h₃, h⟩ := Logged.result_ite_bind_eq_ok.1 h
  cases h
  have hclient : IsApart source root₁ := by
    split at h₁
    · exact hroot.ensureImport h₁
    · cases h₁
      exact hroot
  have hserver : IsApart source root₂ := by
    split at h₂
    · exact hclient.ensureImport h₂
    · cases h₂
      exact hclient
  split at h₃
  · exact hserver.ensureDirective h₃
  · cases h₃
    exact hserver

end Heads

end Header

namespace Header

/-- An import statement whose last child takes room in the source and is not its clause. -/
def IsEnded (source : Bytes) (s : Node) : Prop :=
  ∃ last, s.children.getLast? = some last ∧ last.kind ≠ "import_clause" ∧
    source.slice (last.info.start.map (·.offset)) last.info.stop ≠ []

instance (source : Bytes) (s : Node) : Decidable (IsEnded source s) :=
  decidable_of_iff ((s.children.getLast?).any (fun last => last.kind != "import_clause" &&
    source.slice (last.info.start.map (·.offset)) last.info.stop != []) = true)
    (by simp [IsEnded, Option.any_eq_true])

theorem isApart_of_passes {settings : Settings} {tree : Tree} {out : Transformed}
    {made : Pass.Made Node} {b : Bindings} {root : Node} (htree : tree.Parsed)
    (hmodule : IsModule tree.root)
    (hended : ∀ s ∈ tree.root.children, s.kind = "import_statement" → IsEnded tree.source s)
    (hpass : Passes settings tree out made b root)
    (hbinds : (bindComponents tree settings ⟨made.part, []⟩ made.components).result =
      .ok (b, out.reports)) : IsApart tree.source b.root := by
  obtain ⟨ws, hvisit⟩ := Pass.visit_of_walk htree.root hpass.walk
  have htidy : Tidy CodePoint.extendsName b.root := tidy_bindComponents hbinds hvisit.isTidy.tidy
  obtain ⟨hprogram, himports⟩ := isProgram_of_passes htree hmodule hpass
  refine ⟨hprogram.built, ?_, fun s hs hchild hkind => ?_⟩
  · have hbuilt := hprogram.built
    generalize b.root = m at htidy hbuilt ⊢
    cases htidy with
    | source _ _ hitems => exact fun n hn => .inl (hitems n hn)
    | new hnew =>
      rw [info, hnew] at hbuilt
      cases hbuilt
  · have hmem := himports s (List.mem_filter.2 ⟨hs, hchild⟩) hkind
    obtain ⟨last, hlast, hother, hroom⟩ := hended s hmem hkind
    have hlaid := isLaid_of_mem_items htree.root.laid (List.mem_filter.1 hmem).1
    exact encloses_of_isLaid hlaid hlast hother hroom

end Header

section Calls

variable {source : Bytes} {new : List Piece} {ts : List Text} {rest : List Slot} {y : Bytes}

theorem exists_octets_of_slots (h : Emitted new) (hslots : Piece.slots new = ts.map .text ++ rest)
    (hy : octetsOf source new = some y) : ∃ x z, Utf8.encode? ts.flatten = some x ∧ y = x ++ z := by
  induction ts generalizing new y with
  | nil => exact ⟨[], y, rfl, rfl⟩
  | cons t ts ih =>
    cases new with
    | nil => cases hslots
    | cons p new =>
      cases p with
      | kept => simp only [Emitted] at h
      | replaced => simp only [Emitted] at h
      | reemitted => cases hslots
      | inserted u =>
        obtain ⟨hu, hmore⟩ := List.cons.inj hslots
        cases hu
        rw [octetsOf, Option.bind_eq_some_iff] at hy
        obtain ⟨v, hv, hy⟩ := hy
        obtain ⟨w, hw, rfl⟩ := Option.map_eq_some_iff.1 hy
        obtain ⟨x, z, hx, rfl⟩ := ih (emitted_inserted.1 h) hmore hw
        exact ⟨v ++ x, z, Utf8.encode?_append hv hx, (List.append_assoc _ _ _).symm⟩

theorem exists_slots_lookupCall (function key : Text) (options : List (Text × Node)) :
    ∃ rest, (Wrap.lookupCall function key options).slots = .text (function ++ "(") :: rest := by
  rw [show (Wrap.lookupCall function key options).slots =
    slotsIn (Wrap.lookupCall function key options).items from slots_built rfl]
  cases options with
  | nil => exact ⟨_, rfl⟩
  | cons o options =>
    rw [Wrap.items_lookupCall_cons]
    exact ⟨_, rfl⟩

/-- What can stand in front of a call in the new text of a literal: nothing, or blanks and a brace. -/
def IsOpening (opening : Text) : Prop :=
  opening = [] ∨ ∃ lead, opening = lead ++ "\x7b" ∧ ∀ c ∈ lead, c.isBlank = true

theorem exists_opening {env : Pass.Env} {w : Pass.Wrapped} {n : Node} (h : w.rewriting env = .ok n) :
    ∃ openings rest, IsOpening openings.flatten ∧
      n.slots = (openings ++ [env.function.spelling ++ "("]).map .text ++ rest := by
  unfold Pass.Wrapped.rewriting at h
  split at h
  next =>
    obtain ⟨value, -, rfl⟩ := except_map_eq_ok.1 h
    cases Literal.inAttribute w.focus with
    | false => exact ⟨[], _, .inl rfl, rfl⟩
    | true => exact ⟨["\x7b"], _, .inr ⟨[], rfl, by simp⟩, rfl⟩
  next =>
    split at h
    next =>
      obtain ⟨parts, -, h⟩ := except_bind_eq_ok.1 h
      obtain ⟨key, -, h⟩ := except_bind_eq_ok.1 h
      cases h
      obtain ⟨rest, hrest⟩ := exists_slots_lookupCall env.function.spelling key _
      exact ⟨[], rest, .inl rfl, hrest⟩
    next =>
      obtain ⟨value, -, rfl⟩ := except_map_eq_ok.1 h
      generalize Literal.runSource env.source (w.focus.node :: w.more.map (·.node)) = raw
      exact ⟨[raw.takeWhile CodePoint.isBlank, "\x7b"], _, .inr ⟨raw.takeWhile CodePoint.isBlank, rfl,
        fun c hc => List.all_eq_true.1 List.all_takeWhile c hc⟩, rfl⟩

end Calls

/-- **Calls stand apart.** In the text of a pass, the call for a literal stands behind what is printed in
front of the literal's place and an opening of its own. Of these only the first can end with a character
of a name, and it does so only where the source has that character right before the literal. -/
theorem transform_unfused {settings : Settings} {tree : Tree} {out : Transformed} (htree : tree.Parsed)
    (hmodule : Header.IsModule tree.root)
    (hended : ∀ s ∈ tree.root.children, s.kind = "import_statement" → Header.IsEnded tree.source s)
    (h : (transform settings tree).result = .ok out) :
    ∃ ws pieces, Splices settings tree out ws pieces ∧
      ∀ before a b new, Leads pieces before (.replaced a b new) →
        ∃ w ∈ ws, w.Edits (settings.env tree) (a, b, Piece.slots new) ∧
          ∃ front opening behind, octetsOf tree.source before = Utf8.encode? front ∧ IsOpening opening ∧
            out.code = front ++ opening ++ (settings.vocabulary.function.spelling ++ "(" ++ behind) ∧
            ∀ c, (front ++ opening).getLast? = some c → c.extendsName = true →
              opening = [] ∧ ∃ bytes, Utf8.encodePoint c = some bytes ∧ bytes <:+ tree.source.take a := by
  obtain ⟨made, b, root, hpass, hbinds, hfinal, -, -⟩ := stages_of_transform h
  obtain ⟨ws, hvisit⟩ := Pass.visit_of_walk htree.root hpass.walk
  obtain ⟨pieces, hsplices, hpieces⟩ := hpass.exists_pieces htree hvisit
  have hsafe : Safe CodePoint.extendsName tree.source 0 tree.source.length pieces := by
    obtain rfl | ⟨hchanged, c, d, ps, hps, hstop, rfl⟩ := hpieces
    · exact safe_kept (Nat.zero_le _)
    · have hapart := (Header.isApart_of_passes htree hmodule hended hpass hbinds).finalize
        (hfinal hchanged)
      refine (safe_kept (Nat.zero_le c)).append (Safe.append ?_ (safe_kept hstop))
      cases root with
      | text t =>
        cases hps with
        | clean hlaid => cases hlaid.1
      | branch i items => exact safe_of_heads hapart.built hapart.items hps
  refine ⟨ws, pieces, hsplices, fun before a b new hleads => ?_⟩
  obtain ⟨w, hw, hedits⟩ := exists_mem_of_forall₂ hsplices.literals hleads.mem_literals
  refine ⟨w, hw, hedits, ?_⟩
  obtain ⟨-, -, n, hn, hslots⟩ := hedits
  obtain ⟨openings, rest, hopening, hn⟩ := exists_opening hn
  obtain ⟨bytes, hbytes, hcode⟩ := hsplices.octets
  obtain ⟨x, y, z, hx, hy, rfl⟩ := hleads.octets hbytes
  have hemitted := hleads.emitted (.inl ⟨_, _, hsplices.tiles⟩)
  obtain ⟨u, v, hu, rfl⟩ := exists_octets_of_slots hemitted (hslots.trans hn) hy
  rw [List.append_assoc] at hcode
  have hu' : Utf8.encode? (openings.flatten ++ (settings.vocabulary.function.spelling ++ "(")) = some u := by
    rw [← hu]
    simp [Settings.env]
  have hcall : (settings.vocabulary.function.spelling ++ "(" : Text) ≠ [] :=
    fun hnil => absurd (List.append_eq_nil_iff.1 hnil).2 (by decide)
  obtain ⟨front, behind, hout, hfront⟩ := Utf8.exists_split_of_encode? hu'
    (fun hnil => hcall (List.append_eq_nil_iff.1 hnil).2) hcode
  refine ⟨front, openings.flatten, behind, hx.trans hfront.symm, hopening, ?_, fun c hlast hc => ?_⟩
  · rw [hout]
    simp only [List.append_assoc]
  · obtain hnil | ⟨lead, hlead, -⟩ := hopening
    · rw [hnil, List.append_nil] at hlast
      obtain ⟨first, more, rfl, hmore⟩ := Utf8.exists_last_of_encode? hfront hlast
      obtain ⟨e, tail, rfl, -⟩ := Utf8.exists_lead hmore
      have hsettled := hsafe.leads [] before a b new _ (settled_nil 0) hleads hx
      exact ⟨hnil, _, hmore, hsettled _ ⟨by simp, c, _, hc, hmore, List.prefix_refl _⟩
        (List.suffix_append _ _)⟩
    · have hbrace : EndsName (front ++ openings.flatten) := by
        rw [hlead, ← List.append_assoc]
        exact endsName_append _ ⟨_, rfl, by decide +kernel⟩
      obtain ⟨d, hd, hnot⟩ := hbrace
      cases hlast.symm.trans hd
      rw [hc] at hnot
      cases hnot

namespace Sample

/-- A component that returns a string with nothing between the keyword and the quotation mark. -/
def abutting : Tree where
  source := (Utf8.encode? "function A()\x7breturn\"가\";\x7d").getD []
  root := node "program" true 0 26 [node "function_declaration" true 0 26 [
    token "function" 0 8, inField "name" (node "identifier" true 9 10 []),
    inField "parameters" (node "formal_parameters" true 10 12 [token "(" 10 11, token ")" 11 12]),
    inField "body" (node "statement_block" true 12 26 [token "\x7b" 12 13,
      node "return_statement" true 13 25 [token "return" 13 19,
        node "string" true 19 24 [token "\"" 19 20, node "string_fragment" true 20 23 [],
          token "\"" 23 24],
        token ";" 24 25],
      token "\x7d" 25 26])]]

theorem abutting_parsed : abutting.Parsed := by decide

end Sample

/-- Behind a default import and a blank, the calls of a module stand apart. -/
theorem transform_unfused_default :
    (∀ s ∈ Sample.defaulted.root.children, s.kind = "import_statement" →
      Header.IsEnded Sample.defaulted.source s) ∧
    ∃ out, (transform { sourcePattern := .null } Sample.defaulted).result = .ok out ∧ out.modified = true ∧
      ∃ ws pieces, Splices { sourcePattern := .null } Sample.defaulted out ws pieces ∧
        ∀ before a b new, Leads pieces before (.replaced a b new) → ∃ w ∈ ws, ∃ front opening behind,
          octetsOf Sample.defaulted.source before = Utf8.encode? front ∧ IsOpening opening ∧
            out.code = front ++ opening ++ (Text.ofString "t(" ++ behind) ∧
            ∀ c, (front ++ opening).getLast? = some c → c.extendsName = true →
              opening = [] ∧ ∃ bytes, Utf8.encodePoint c = some bytes ∧
                bytes <:+ Sample.defaulted.source.take a := by
  have hended : ∀ s ∈ Sample.defaulted.root.children, s.kind = "import_statement" →
      Header.IsEnded Sample.defaulted.source s := by decide +kernel
  refine ⟨hended, ?_⟩
  have hmodule : Header.IsModule Sample.defaulted.root := ⟨rfl, by decide +kernel⟩
  obtain ⟨out, hout, hmodified, -⟩ := Sample.transformed_defaulted
  obtain ⟨ws, pieces, hsplices, hcalls⟩ := transform_unfused Sample.defaulted_parsed hmodule hended hout
  refine ⟨out, hout, hmodified, ws, pieces, hsplices, fun before a b new hleads => ?_⟩
  obtain ⟨w, hw, -, hcall⟩ := hcalls before a b new hleads
  exact ⟨w, hw, hcall⟩

/-- Where a keyword stands right before a quotation mark, the call runs into it. -/
theorem transform_fuses_abutting :
    Sample.abutting.Parsed ∧ (Text.ofString "t").isIdentifier = true ∧
    ∃ out front, (transform { sourcePattern := .null } Sample.abutting).result = .ok out ∧
      front = Text.ofString ("import \x7b useTranslation \x7d from \"i18nexus\";\n" ++
        "function A()\x7b const \x7b t \x7d = useTranslation();return") ∧
      out.code = front ++ Text.ofString "t(\"가\");\x7d" ∧
      ∃ c, front.getLast? = some c ∧ c.extendsName = true := by
  obtain ⟨out, hout, hcode⟩ : ∃ out,
      (transform { sourcePattern := .null } Sample.abutting).result = .ok out ∧
        out.code = Text.ofString ("import \x7b useTranslation \x7d from \"i18nexus\";\n" ++
          "function A()\x7b const \x7b t \x7d = useTranslation();return") ++
            Text.ofString "t(\"가\");\x7d" :=
    Logged.exists_of_any (by decide +kernel)
  exact ⟨Sample.abutting_parsed, by decide +kernel, out, _, hout, rfl, hcode, _, rfl, by decide +kernel⟩

end Phrasebook
