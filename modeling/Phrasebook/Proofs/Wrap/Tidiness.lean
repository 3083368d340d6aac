import Phrasebook.Proofs.Tree.Tidy
import Phrasebook.Proofs.Wrap.Locality
import Phrasebook.Proofs.Wrap.Imports
import Phrasebook.Text.Identifier

/-! What stands before a call that a pass puts in. Whatever else a pass puts in ends with a character of
no name, so a call can only run into a name that the source has right before the literal. -/

namespace Phrasebook

open Node Piece

/-- Whether a character can go on with a name of a script. -/
def CodePoint.extendsName (c : CodePoint) : Bool :=
  c.continuesName || c.val == 0x24 || c.val == 0x200C || c.val == 0x200D

section Closing

variable {t u : Text}

abbrev EndsName (t : Text) : Prop := Closes CodePoint.extendsName t

theorem endsName_append (t : Text) (hu : EndsName u) : EndsName (t ++ u) := by
  obtain ⟨c, hlast, hc⟩ := hu
  refine ⟨c, ?_, hc⟩
  rw [List.getLast?_append, hlast, Option.some_or]

/-- The runs of characters that close what a pass puts in: blank ones, `)`, `:`, `;` and the braces. -/
def closingRuns : List (Nat × Nat) :=
  [(0x09, 0x0D), (0x1C, 0x20), (0x29, 0x29), (0x3A, 0x3B), (0x7B, 0x7B), (0x7D, 0x7D), (0x85, 0x85),
    (0xA0, 0xA0), (0x1680, 0x1680), (0x2000, 0x200A), (0x2028, 0x2029), (0x202F, 0x202F),
    (0x205F, 0x205F), (0x3000, 0x3000)]

def areApart (runs others : List (Nat × Nat)) : Bool :=
  runs.all fun r => others.all fun s => Nat.blt r.2 s.1 || Nat.blt s.2 r.1

theorem not_inRuns_of_areApart {c : CodePoint} {runs others : List (Nat × Nat)}
    (hapart : areApart runs others = true) (h : c.inRuns runs = true) : c.inRuns others = false := by
  obtain ⟨r, hr, hc⟩ := List.any_eq_true.1 h
  refine List.any_eq_false.2 fun s hs hc' => ?_
  have hrs := List.all_eq_true.1 (List.all_eq_true.1 hapart r hr) s hs
  simp only [Bool.and_eq_true, Bool.or_eq_true, decide_eq_true_eq, Nat.blt_eq] at hc hc' hrs
  omega

theorem extendsName_of_inRuns {c : CodePoint} (h : c.inRuns closingRuns = true) :
    c.extendsName = false := by
  have hletter : c.inRuns CodePoint.letterRuns = false := not_inRuns_of_areApart (by decide +kernel) h
  have hstart : c.inRuns CodePoint.startExceptions = false := not_inRuns_of_areApart (by decide +kernel) h
  have hcontinued : c.inRuns CodePoint.continuationRuns = false :=
    not_inRuns_of_areApart (by decide +kernel) h
  have hmarks : c.inRuns [(0x24, 0x24), (0x200C, 0x200D)] = false := not_inRuns_of_areApart (by decide) h
  simp only [CodePoint.inRuns, List.any_cons, List.any_nil, Bool.or_eq_false_iff, Bool.and_eq_false_iff,
    decide_eq_false_iff_not] at hmarks
  rw [CodePoint.extendsName, CodePoint.continuesName, CodePoint.startsName, CodePoint.isLetter, hletter,
    hstart, hcontinued]
  simp only [bne_self_eq_false, Bool.false_or, Bool.or_eq_false_iff, beq_eq_false_iff_ne]
  omega

theorem extendsName_of_isBlank {c : CodePoint} (h : c.isBlank = true) : c.extendsName = false := by
  apply extendsName_of_inRuns
  simp only [CodePoint.isBlank, Bool.or_eq_true, Bool.and_eq_true, decide_eq_true_eq, beq_iff_eq] at h
  rcases h with (((((((((h | h) | h) | h) | h) | h) | h) | h) | h) | h) | h <;>
    simp [CodePoint.inRuns, closingRuns, h]

theorem endsName_of_getLast? {v : Nat} (hlast : t.getLast? = some (CodePoint.ofNat v))
    (h : (CodePoint.ofNat v).inRuns closingRuns = true) : EndsName t :=
  ⟨_, hlast, extendsName_of_inRuns h⟩

theorem endsName_blank : EndsName (" " : Text) := endsName_of_getLast? (v := 0x20) rfl (by decide)

theorem endsName_lineFeed : EndsName ("\n" : Text) := endsName_of_getLast? (v := 0x0A) rfl (by decide)

theorem endsName_paren : EndsName (")" : Text) := endsName_of_getLast? (v := 0x29) rfl (by decide)

theorem endsName_brace : EndsName ("\x7d" : Text) := endsName_of_getLast? (v := 0x7D) rfl (by decide)

theorem drop_trim (raw : Text) : ∃ trail : Text, raw.drop ((raw.takeWhile CodePoint.isBlank).length +
    (Text.trim raw).length) = trail ∧ ∀ c ∈ trail, c.isBlank = true := by
  have hright : Text.trimLeft raw =
      Text.trim raw ++ ((Text.trimLeft raw).reverse.takeWhile CodePoint.isBlank).reverse := by
    rw [Text.trim, Text.trimRight, ← List.reverse_append, List.takeWhile_append_dropWhile,
      List.reverse_reverse]
  have hraw : raw = (raw.takeWhile CodePoint.isBlank ++ Text.trim raw) ++
      ((Text.trimLeft raw).reverse.takeWhile CodePoint.isBlank).reverse := by
    rw [List.append_assoc, ← hright, Text.trimLeft, List.takeWhile_append_dropWhile]
  refine ⟨_, rfl, fun c hc => ?_⟩
  rw [← List.length_append] at hc
  have hdrop := congrArg (List.drop (raw.takeWhile CodePoint.isBlank ++ Text.trim raw).length) hraw
  rw [List.drop_left] at hdrop
  rw [hdrop, List.mem_reverse] at hc
  exact List.all_eq_true.1 List.all_takeWhile c hc

end Closing


section Literals

variable {n first : Node} {more : List Node} {function key : Text} {options : List (Text × Node)}

structure IsTidy (n : Node) : Prop where
  tidy : Tidy CodePoint.extendsName n
  start : n.info.start ≠ none
  isChild : n.isChild = true

theorem isTidy_of_isLaid (h : n.isLaid = true) : IsTidy n := by
  refine ⟨tidy_of_isLaid h, ?_, isChild_of_isLaid h⟩
  obtain ⟨a, b, -, hstart, -⟩ := exists_laidAt h
  exact fun hnone => by simp [hnone] at hstart

theorem isTidy_placedRun (more : List Node) {i : Info} {items : List Node} (hbuilt : i.built = true)
    (hstart : i.start = none) (h : TidyItems CodePoint.extendsName false items true) (hfirst : IsTidy first) :
    IsTidy (Pass.placedRun (branch i items) first more) := by
  have hinherit : i.inherit first.info =
      { i with start := first.info.start, stop := first.info.stop } := by
    rw [Info.inherit, hstart]
  rw [Pass.placedRun]
  split
  · rw [inPlaceOf, mapInfo, hinherit]
    refine ⟨.new hbuilt (fun hnone => (hfirst.start hnone).elim) h, hfirst.start, ?_⟩
    cases first with
    | text t => exact absurd hfirst.isChild Bool.false_ne_true
    | branch j js => exact hfirst.isChild
  · rw [inPlaceOfRun, mapInfo, hinherit]
    exact ⟨.new hbuilt (fun hnone => (hfirst.start hnone).elim) h, hfirst.start, rfl⟩

theorem endsName_colon (name : Text) : EndsName (name ++ ": ") :=
  endsName_append name (endsName_of_getLast? (v := 0x20) rfl (by decide))

theorem tidyItems_options (h : ∀ o ∈ options, IsTidy o.2) (hne : options ≠ []) (f : Bool) :
    TidyItems CodePoint.extendsName f
      ((Wrap.optionItems options).map (mapInfo fun i => { i with standing := .full })) false := by
  have hfull {e : Node} (h : e.info.start ≠ none) :
      (e.mapInfo fun i => { i with standing := .full }).info.start ≠ none := by
    cases e with
    | text t => exact h
    | branch i items => exact h
  induction options generalizing f with
  | nil => exact (hne rfl).elim
  | cons o rest ih =>
    obtain ⟨name, e⟩ := o
    obtain ⟨⟨htidy, hstart, hchild⟩, hrest⟩ := List.forall_mem_cons.1 h
    cases rest with
    | nil =>
      exact .text (fun _ => .inl (endsName_colon name))
        (.span (isPrinted_full hchild) (hfull hstart) htidy.full .nil)
    | cons o' rest =>
      exact .text (fun _ => .inl (endsName_colon name)) (.span (isPrinted_full hchild) (hfull hstart)
        htidy.full (.text (fun hg => Bool.noConfusion hg) (ih hrest (by simp) false)))

theorem tidyItems_lookupCall (h : ∀ o ∈ options, IsTidy o.2) :
    TidyItems CodePoint.extendsName false (Wrap.lookupCall function key options).items true := by
  cases options with
  | nil => exact tidyItems_texts [function ++ "(", Escape.encode key] endsName_paren
  | cons o rest =>
    rw [Wrap.items_lookupCall_cons]
    have hends : TidyItems CodePoint.extendsName false ([" \x7d", ")"].map .text) true :=
      tidyItems_texts [" \x7d"] endsName_paren
    have hoptions := tidyItems_append.2 ⟨false, tidyItems_options h (by simp) false, hends⟩
    refine .text (g := false) (fun hg => Bool.noConfusion hg) (.text (g := false)
      (fun hg => Bool.noConfusion hg) (.text (g := false) (fun hg => Bool.noConfusion hg) hoptions))

theorem tidyItems_braced {f : Bool} (value : Text) :
    TidyItems CodePoint.extendsName f [Wrap.braced (Wrap.lookupCall function value [])] true := by
  refine .built rfl rfl rfl rfl ?_ .nil
  refine .text (g := false) (fun hg => Bool.noConfusion hg) (.built rfl rfl rfl rfl
    (tidyItems_lookupCall (by simp)) (.text (fun _ => .inl endsName_brace) .nil))

theorem isTidy_ofString (value : Text) (inAttribute : Bool) (hn : IsTidy n) :
    IsTidy ((Wrap.ofString function value inAttribute).inPlaceOf n) := by
  cases inAttribute with
  | false => exact isTidy_placedRun [] rfl rfl (tidyItems_lookupCall (by simp)) hn
  | true =>
    refine isTidy_placedRun [] rfl rfl ?_ hn
    exact .text (g := false) (fun hg => Bool.noConfusion hg) (.built rfl rfl rfl rfl
      (tidyItems_lookupCall (by simp)) (.text (fun _ => .inl endsName_brace) .nil))

theorem isTidy_ofJsxText (raw value : Text) (hfirst : IsTidy first) :
    IsTidy (Pass.placedRun (Wrap.ofJsxText function raw value) first more) := by
  obtain ⟨trail, htrail, hblank⟩ := drop_trim raw
  refine isTidy_placedRun more rfl rfl (.text (g := false) (fun hg => Bool.noConfusion hg) ?_) hfirst
  refine tidyItems_append.2 ⟨true, tidyItems_braced value, .text (fun _ => ?_) .nil⟩
  rw [htrail]
  cases hlast : trail.getLast? with
  | none => exact .inr ⟨List.getLast?_eq_none_iff.1 hlast, rfl⟩
  | some c => exact .inl ⟨c, hlast, extendsName_of_isBlank (hblank c (List.mem_of_getLast? hlast))⟩

end Literals


namespace Pass

variable {env : Env} {owner : Option Text} {frames : List Frame} {name : Text} {f : Focus} {new : Node}

theorem isTidy_reassemble {n : Node} {below : Made (List Node)} (hn : n.isLaid = true)
    (h : ∀ c ∈ below.part, IsTidy c) : IsTidy (reassemble n.info below).part := by
  obtain ⟨-, hstart, hchild⟩ := isTidy_of_isLaid hn
  cases n with
  | text t => cases hn
  | branch i items =>
    exact ⟨.source (isLaid_branch.1 hn).1 hstart fun c hc => (h c hc).tidy, hstart, hchild⟩

theorem isTidy_ofTemplate {key : Text} {n : Node} {names : List Text} {below : Made (List Node)}
    (hn : IsTidy n) (h : ∀ c ∈ below.part, IsTidy c) : IsTidy (ofTemplate env key n names below).part := by
  have hoptions : ∀ o ∈ names.zip below.part, IsTidy o.2 := fun o ho => h o.2 (List.of_mem_zip ho).2
  have hitems : TidyItems CodePoint.extendsName false
      (Wrap.lookupCall env.function.spelling key (names.zip below.part)).items true :=
    tidyItems_lookupCall hoptions
  obtain ⟨htidy, hstart, hchild⟩ := isTidy_placedRun [] (i := { kind := "call_expression", built := true })
    rfl rfl hitems hn
  refine ⟨?_, hstart, hchild⟩
  generalize hcall : Pass.placedRun _ n [] = call at htidy
  cases htidy with
  | source hbuilt =>
    cases hcall
    cases hbuilt
  | new hbuilt hfield hprinted =>
    cases hcall
    exact .new hbuilt hfield hprinted

theorem isTidy_string (hn : IsTidy f.node)
    (h : (wrapString? env name ⟨f.node, frames⟩).result = .ok (some new)) : IsTidy new := by
  obtain ⟨value, -, -, -, rfl⟩ := wrapString?_eq_some h
  exact isTidy_ofString value _ hn

theorem isTidy_run {more : List Node} (hn : IsTidy f.node)
    (h : (wrapRun? env name ⟨f.node, frames⟩ more).result = .ok (some new)) : IsTidy new := by
  obtain ⟨value, -, -, -, rfl⟩ := wrapRun?_eq_some h
  exact isTidy_ofJsxText _ value hn

mutual

theorem Visit.isTidy {owner : Option Text} {frames : List Frame} {f : Focus} {made : Made Node}
    {ws : List Wrapped} : Visit env owner frames f made ws → IsTidy made.part
  | .skipped hsees _ => isTidy_of_isLaid hsees.parsed.laid
  | .otherString hsees _ _ _ _ => isTidy_of_isLaid hsees.parsed.laid
  | .string hsees _ _ _ hwrap => isTidy_string (isTidy_of_isLaid hsees.parsed.laid) hwrap
  | .component hsees _ _ _ hbelow =>
    isTidy_reassemble hsees.parsed.laid (hbelow.isTidy (parsed_children hsees.parsed))
  | .entered hsees _ hbelow =>
    isTidy_reassemble hsees.parsed.laid (hbelow.isTidy (parsed_children hsees.parsed))
  | .template hsees _ _ _ _ hbelow =>
    isTidy_ofTemplate (isTidy_of_isLaid hsees.parsed.laid) (hbelow.isTidy hsees.parsed_kept)

theorem Visits.isTidy {owner : Option Text} {parent : Info} {frames : List Frame} {before : List Node}
    {k : Nat} {places : List Focus} {made : Made (List Node)} {ws : List Wrapped} :
    Visits env owner parent frames before k places made ws → (∀ p ∈ places, p.node.Parsed) →
      ∀ n ∈ made.part, IsTidy n
  | .nil, _ => by simp [Made.same]
  | .node _ hfirst hrest, h =>
    List.forall_mem_cons.2 ⟨hfirst.isTidy, hrest.isTidy (List.forall_mem_cons.1 h).2⟩
  | .otherRun _ hmore _ hrest, h => by
    rw [← append_drop_takeWhile hmore, ← List.cons_append, List.forall_mem_append] at h
    refine List.forall_mem_append.2 ⟨fun n hn => ?_, hrest.isTidy h.2⟩
    rw [← List.map_cons] at hn
    obtain ⟨p, hp, rfl⟩ := List.mem_map.1 hn
    exact isTidy_of_isLaid (h.1 p hp).laid
  | .run hsees _ _ hmore hwrap hrest, h => by
    refine List.forall_mem_cons.2 ⟨isTidy_run (isTidy_of_isLaid hsees.parsed.laid) hwrap,
      hrest.isTidy fun p hp => ?_⟩
    exact (List.forall_mem_cons.1 h).2 p (List.mem_of_mem_drop hp)

end

end Pass

end Phrasebook
