import Phrasebook.Proofs.Diff.Patch
import Phrasebook.Proofs.Text.Lines

/-! Diffs as texts. Cut at its line feeds, a diff is the rows that were printed as long as each of them but
the last ends in a line feed. -/

namespace Phrasebook

namespace Diff

open Text

def nameRow (lead path : Text) : Text := lead ++ path ++ "\n"

/-- The rows of all hunks of two texts. -/
def bodyRows (a b : Text) : List Text := (hunks (lines a) (lines b)).flatMap (hunkRows (lines a) (lines b))

/-- The rows of the diff of two texts. -/
def rows (a b path : Text) : List Text :=
  nameRow "--- a/" path :: nameRow "+++ b/" path :: bodyRows a b

/-- A diff, cut at its line feeds, applied to a text. -/
def patch? (diff a : Text) : Option Text :=
  match fedLines diff with
  | old :: new :: rows =>
    if startsWith old "--- " && startsWith new "+++ " then (applied? rows (fedLines a)).map List.flatten
    else none
  | _ => none

variable {a b path : Text}

theorem applied?_bodyRows (a b : Text) : applied? (bodyRows a b) (lines a) = some (lines b) :=
  applied?_hunks (lines a) (lines b)

theorem unified_eq_nil_iff (a b path : Text) : unified a b path = [] ↔ a = b := by
  constructor
  · intro h
    have happly := applied?_hunks (lines a) (lines b)
    have hnone : hunks (lines a) (lines b) = [] := by
      unfold unified at h
      dsimp only at h
      split at h
      next hnone => exact hnone
      next => cases h
    rw [hnone] at happly
    have hlines : lines a = lines b := Option.some.inj happly
    rw [← flatten_lines a, hlines, flatten_lines]
  · rintro rfl
    unfold unified
    dsimp only
    rw [hunks_self]

theorem unified_eq_flatten (hne : a ≠ b) (path : Text) : unified a b path = (rows a b path).flatten := by
  have hsome := mt (unified_eq_nil_iff a b path).1 hne
  unfold rows bodyRows
  rw [List.flatten_cons, List.flatten_cons, flatten_flatMap _ _ (flatten_hunkRows (lines a) (lines b))]
  unfold unified at hsome ⊢
  dsimp only at hsome ⊢
  generalize hunks (lines a) (lines b) = found at hsome ⊢
  cases found with
  | nil => exact (hsome rfl).elim
  | cons hunk rest =>
    simp only [nameRow, List.append_assoc]
    rfl

theorem isLine_concat {t : Text} (h : feed ∉ t) : IsLine (t ++ "\n") := by
  refine ⟨List.append_ne_nil_of_right_ne_nil _ (by decide), ?_⟩
  show feed ∉ (t ++ [feed]).dropLast
  rwa [List.dropLast_concat]

theorem feed_not_mem_ofNat (n : Nat) : feed ∉ Text.ofNat n := fun h => by
  have hdigit := (Text.ofNat_spec n).2.1 feed h
  revert hdigit
  decide

theorem feed_not_mem_range (start stop : Nat) : feed ∉ range start stop := by
  unfold range
  dsimp only
  split
  · exact feed_not_mem_ofNat _
  · simp only [List.mem_append, not_or]
    exact ⟨⟨feed_not_mem_ofNat _, by decide⟩, feed_not_mem_ofNat _⟩

theorem isLine_heading (first last : Stretch) : IsLine (heading first last) := by
  have hrange := feed_not_mem_range first.leftStart last.leftStop
  have hrange' := feed_not_mem_range first.rightStart last.rightStop
  have hsplit : heading first last = "@@ -" ++ range first.leftStart last.leftStop ++ " +" ++
      range first.rightStart last.rightStop ++ " @@" ++ "\n" := by
    simp only [heading, List.append_assoc]
    rfl
  rw [hsplit]
  refine isLine_concat ?_
  simp only [List.mem_append, not_or]
  exact ⟨⟨⟨⟨by decide, hrange⟩, by decide⟩, hrange'⟩, by decide⟩

theorem isFed_heading (first last : Stretch) : IsFed (heading first last) := by
  exact IsFed.append_left (by decide) _

/-- What a line of a hunk begins with. -/
def marks : List Text := [" ", "-", "+"]

theorem mem_marks {mark : Text} (h : mark ∈ marks) : mark = " " ∨ mark = "-" ∨ mark = "+" := by
  simpa only [marks, List.mem_cons, List.not_mem_nil, or_false] using h

theorem mem_markedRows {mark row : Text} {ls : List Text} {start stop : Nat}
    (h : row ∈ markedRows mark ls start stop) : ∃ line ∈ ls, row = mark ++ line := by
  obtain ⟨line, hline, rfl⟩ := List.mem_map.1 h
  exact ⟨line, List.mem_of_mem_drop (List.mem_of_mem_take hline), rfl⟩

theorem of_mem_bodyRows {row : Text} (h : row ∈ bodyRows a b) : (∃ first last, row = heading first last) ∨
    ∃ mark ∈ marks, ∃ line, (line ∈ lines a ∨ line ∈ lines b) ∧ row = mark ++ line := by
  obtain ⟨hunk, -, h⟩ := List.mem_flatMap.1 h
  unfold hunkRows at h
  split at h
  next first last _ _ =>
    rcases List.mem_cons.1 h with rfl | h
    · exact .inl ⟨first, last, rfl⟩
    obtain ⟨s, -, h⟩ := List.mem_flatMap.1 h
    refine .inr ?_
    unfold Stretch.rows at h
    split at h
    next =>
      obtain ⟨line, hline, heq⟩ := mem_markedRows h
      exact ⟨" ", by decide, line, .inl hline, heq⟩
    next =>
      rcases List.mem_append.1 h with h | h
      · obtain ⟨line, hline, heq⟩ := mem_markedRows h
        exact ⟨"-", by decide, line, .inl hline, heq⟩
      · obtain ⟨line, hline, heq⟩ := mem_markedRows h
        exact ⟨"+", by decide, line, .inr hline, heq⟩
  next => cases h

theorem isLine_of_mem_bodyRows {row : Text} (h : row ∈ bodyRows a b) : IsLine row := by
  rcases of_mem_bodyRows h with ⟨first, last, rfl⟩ | ⟨mark, hmark, line, hline, rfl⟩
  · exact isLine_heading first last
  · have hline : IsLine line := hline.elim isLine_of_mem_lines isLine_of_mem_lines
    rcases mem_marks hmark with rfl | rfl | rfl <;> exact isLine_cons (by decide) hline

theorem isLine_nameRow {lead : Text} (hlead : feed ∉ lead) (hpath : feed ∉ path) : IsLine (nameRow lead path) := by
  refine isLine_concat fun hmem => ?_
  rcases List.mem_append.1 hmem with hmem | hmem
  · exact hlead hmem
  · exact hpath hmem

theorem isFed_nameRow (lead path : Text) : IsFed (nameRow lead path) := List.getLast?_concat

theorem startsWith_nameRow (lead more path : Text) : startsWith (nameRow (lead ++ more) path) lead = true := by
  unfold startsWith nameRow
  rw [List.isPrefixOf_iff_prefix, List.append_assoc, List.append_assoc]
  exact List.prefix_append _ _

theorem fedLines_unified (hne : a ≠ b) (hpath : feed ∉ path) : fedLines (unified a b path) =
    nameRow "--- a/" path :: nameRow "+++ b/" path :: fedLines (bodyRows a b).flatten := by
  have hold : IsLine (nameRow "--- a/" path) := isLine_nameRow (by decide) hpath
  have hnew : IsLine (nameRow "+++ b/" path) := isLine_nameRow (by decide) hpath
  rw [unified_eq_flatten hne, rows, List.flatten_cons, List.flatten_cons, fedLines_append hold (isFed_nameRow _ _),
    fedLines_append hnew (isFed_nameRow _ _)]

theorem fedLines_unified_iff (hne : a ≠ b) (hpath : feed ∉ path) :
    fedLines (unified a b path) = rows a b path ↔ ∀ row ∈ (bodyRows a b).dropLast, IsFed row := by
  rw [← fedLines_flatten_iff fun row => isLine_of_mem_bodyRows, fedLines_unified hne hpath, rows, List.cons_inj_right,
    List.cons_inj_right]

theorem patch?_unified (hne : a ≠ b) (hpath : feed ∉ path) : patch? (unified a b path) a =
    (applied? (fedLines (bodyRows a b).flatten) (fedLines a)).map List.flatten := by
  have hold : startsWith (nameRow "--- a/" path) "--- " = true := startsWith_nameRow "--- " "a/" path
  have hnew : startsWith (nameRow "+++ b/" path) "+++ " = true := startsWith_nameRow "+++ " "b/" path
  unfold patch?
  rw [fedLines_unified hne hpath]
  dsimp only
  rw [hold, hnew]
  rfl

theorem isFed_of_after? {row rest : Text} (h : row ∈ bodyRows a b) (hheading : after? "@@ -" row = some rest) :
    IsFed row := by
  rcases of_mem_bodyRows h with ⟨first, last, rfl⟩ | ⟨mark, hmark, line, -, rfl⟩
  · exact isFed_heading first last
  · have hnone : after? "@@ -" (mark ++ line) = none := by
      rcases mem_marks hmark with rfl | rfl | rfl <;> rfl
    rw [hnone] at hheading
    cases hheading

theorem fedLines_eq_lines {t : Text} (h : ∀ line ∈ (lines t).dropLast, IsFed line) : fedLines t = lines t := by
  have hcut := fedLines_flatten (fun line => isLine_of_mem_lines) h
  rwa [flatten_lines] at hcut

/-- Texts in which only the last line may be without a line feed: their diff gives the one from the other as
long as no row of it but the last is without a line feed. -/
theorem patch?_unified_iff (hne : a ≠ b) (hpath : feed ∉ path) (ha : ∀ line ∈ (lines a).dropLast, IsFed line)
    (hb : ∀ line ∈ (lines b).dropLast, IsFed line) :
    patch? (unified a b path) a = some b ↔ ∀ row ∈ (bodyRows a b).dropLast, IsFed row := by
  have hgood := applied?_bodyRows a b
  rw [patch?_unified hne hpath, fedLines_eq_lines ha]
  constructor
  · intro hpatch
    by_contra hopen
    obtain ⟨new, hnew, hflat⟩ := Option.map_eq_some_iff.1 hpatch
    obtain ⟨pre, row, post, more, rest, hrows, hrow, hmore, hcut⟩ :=
      exists_fedLines_flatten (fun row => isLine_of_mem_bodyRows) hopen
    have hmem : row ∈ bodyRows a b := by
      rw [hrows]
      exact List.mem_append_right _ List.mem_cons_self
    have hbody : after? "@@ -" row = none := by
      cases hheading : after? "@@ -" row with
      | none => rfl
      | some rest => exact (hrow (isFed_of_after? hmem hheading)).elim
    rw [hrows] at hgood
    rw [hcut] at hnew
    obtain ⟨line, front, back, back', rfl, hlines, rfl⟩ := applied?_append hbody hgood hmore hnew
    -- an added line that is not ended is the last one of its text
    have hback : back = [] := by
      by_contra hback
      refine hrow (IsFed.append_left (isFed_of_mem_dropLast (t := b) ?_) "+")
      rw [fedLines_eq_lines hb, hlines, List.dropLast_append_of_ne_nil (List.cons_ne_nil line back),
        List.dropLast_cons_of_ne_nil hback]
      exact List.mem_append_right _ List.mem_cons_self
    have hlength := congrArg List.length (hflat.trans (flatten_lines b).symm)
    have hpos := List.length_pos_iff.2 hmore
    rw [hlines, hback] at hlength
    simp only [List.flatten_append, List.flatten_cons, List.length_append, List.flatten_nil, List.length_nil] at hlength
    omega
  · intro hrows
    rw [fedLines_flatten (fun row => isLine_of_mem_bodyRows) hrows, hgood]
    exact congrArg some (flatten_lines b)

theorem bodyRows_isFed (ha : ∀ line ∈ lines a, IsFed line) (hb : ∀ line ∈ lines b, IsFed line) :
    ∀ row ∈ bodyRows a b, IsFed row := by
  intro row h
  rcases of_mem_bodyRows h with ⟨first, last, rfl⟩ | ⟨mark, -, line, hline, rfl⟩
  · exact isFed_heading first last
  · exact (hline.elim (ha line) (hb line)).append_left mark

theorem patch?_unified_of_isFed (hne : a ≠ b) (hpath : feed ∉ path) (ha : ∀ line ∈ lines a, IsFed line)
    (hb : ∀ line ∈ lines b, IsFed line) :
    fedLines (unified a b path) = rows a b path ∧ patch? (unified a b path) a = some b := by
  have hrows : ∀ row ∈ (bodyRows a b).dropLast, IsFed row := fun row h =>
    bodyRows_isFed ha hb row (List.dropLast_subset _ h)
  have ha' : ∀ line ∈ (lines a).dropLast, IsFed line := fun line h => ha line (List.dropLast_subset _ h)
  have hb' : ∀ line ∈ (lines b).dropLast, IsFed line := fun line h => hb line (List.dropLast_subset _ h)
  exact ⟨(fedLines_unified_iff hne hpath).2 hrows, (patch?_unified_iff hne hpath ha' hb').2 hrows⟩

/-- The diff of two texts: its rows lead from the lines of the one to those of the other, each behind its mark,
and it can be read back as these rows where all of them but the last are ended by line feeds. -/
theorem unified_faithful (a b path : Text) :
    (unified a b path = [] ↔ a = b) ∧ applied? (bodyRows a b) (lines a) = some (lines b) ∧
    (∀ row ∈ bodyRows a b, ∃ mark ∈ ("@@ -" : Text) :: marks, mark <+: row) ∧
    (a ≠ b → unified a b path = (rows a b path).flatten) ∧
    (a ≠ b → feed ∉ path →
      (fedLines (unified a b path) = rows a b path ↔ ∀ row ∈ (bodyRows a b).dropLast, IsFed row)) ∧
    (a ≠ b → feed ∉ path →
      (∀ line ∈ (lines a).dropLast, IsFed line) → (∀ line ∈ (lines b).dropLast, IsFed line) →
      (patch? (unified a b path) a = some b ↔ ∀ row ∈ (bodyRows a b).dropLast, IsFed row)) := by
  refine ⟨unified_eq_nil_iff a b path, applied?_bodyRows a b, fun row h => ?_, fun hne => unified_eq_flatten hne path,
    fedLines_unified_iff, patch?_unified_iff⟩
  rcases of_mem_bodyRows h with ⟨first, last, rfl⟩ | ⟨mark, hmark, line, -, rfl⟩
  · refine ⟨_, List.mem_cons_self, ?_⟩
    unfold heading
    simp only [List.append_assoc]
    exact List.prefix_append _ _
  · exact ⟨mark, List.mem_cons_of_mem _ hmark, List.prefix_append _ _⟩

theorem unified_faithful_a_b : patch? (unified "a\n" "b\n" "x") "a\n" = some "b\n" := by
  obtain ⟨-, -, -, -, -, hpatch⟩ := unified_faithful "a\n" "b\n" "x"
  exact (hpatch (by decide) (by decide) (by decide) (by decide)).2 (by decide +kernel)

/-- The last line of the old text runs into the first one of the new text. -/
theorem unified_open : fedLines (unified "a" "b" "x") = [("--- a/x\n" : Text), "+++ b/x\n", "@@ -1 +1 @@\n", "-a+b"] ∧
    patch? (unified "a" "b" "x") "a" = none := by
  decide +kernel

example : fedLines (unified "a\u2028b\n" "a\u2028c\n" "x") =
    [("--- a/x\n" : Text), "+++ b/x\n", "@@ -1,2 +1,2 @@\n", " a\u2028-b\n", "+c\n"] := by
  decide +kernel

end Diff

end Phrasebook
