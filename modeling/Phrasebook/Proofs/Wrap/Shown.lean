import Mathlib.Data.List.TakeWhile
import Phrasebook.Proofs.Literal.References
import Phrasebook.Proofs.Wrap.Comments

/-! What JSX text shows, and what a pass keeps of it. The blanks around the text are taken from the source
as it is written, the key is trimmed after its references have been read; a blank that is written as a
reference at one of the ends is therefore in neither of them. -/

namespace Phrasebook

namespace Text

variable {t lead trail : Text}

def IsTrimmed (t : Text) : Prop :=
  (∀ c ∈ t.head?, c.isBlank = false) ∧ ∀ c ∈ t.getLast?, c.isBlank = false

theorem not_isBlank_of_mem_head?_dropWhile {c : CodePoint}
    (h : c ∈ (t.dropWhile CodePoint.isBlank).head?) : c.isBlank = false := by
  have hnot := List.head?_dropWhile_not CodePoint.isBlank t
  rwa [Option.mem_def.1 h] at hnot

theorem exists_trimLeft_eq (t : Text) :
    ∃ trail, trimLeft t = trim t ++ trail ∧ ∀ c ∈ trail, c.isBlank = true := by
  refine ⟨((trimLeft t).reverse.takeWhile CodePoint.isBlank).reverse, ?_, fun c hc => ?_⟩
  · rw [trim, trimRight, ← List.reverse_append, List.takeWhile_append_dropWhile, List.reverse_reverse]
  · exact List.all_eq_true.1 List.all_takeWhile c (List.mem_reverse.1 hc)

theorem exists_eq_trim (t : Text) : ∃ trail,
    t = t.takeWhile CodePoint.isBlank ++ trim t ++ trail ∧ ∀ c ∈ trail, c.isBlank = true := by
  obtain ⟨trail, hleft, hblank⟩ := exists_trimLeft_eq t
  refine ⟨trail, ?_, hblank⟩
  rw [List.append_assoc, ← hleft, trimLeft, List.takeWhile_append_dropWhile]

theorem isTrimmed_trim (t : Text) : IsTrimmed (trim t) := by
  constructor
  · intro c hc
    obtain ⟨trail, hleft, -⟩ := exists_trimLeft_eq t
    refine not_isBlank_of_mem_head?_dropWhile (t := t) ?_
    rw [← trimLeft, hleft, List.head?_append, Option.mem_def.1 hc]
    rfl
  · intro c hc
    rw [trim, trimRight, List.getLast?_reverse] at hc
    exact not_isBlank_of_mem_head?_dropWhile hc

theorem trim_append (hlead : ∀ c ∈ lead, c.isBlank = true) (htrail : ∀ c ∈ trail, c.isBlank = true)
    (t : Text) : trim (lead ++ t ++ trail) = trim t := by
  have hleft : trimLeft (lead ++ t ++ trail) = trimLeft (t ++ trail) := by
    rw [trimLeft, List.append_assoc, List.dropWhile_append_of_pos hlead, trimLeft]
  have hblank : trimRight trail = [] := by
    have hreverse : ∀ c ∈ trail.reverse, c.isBlank = true :=
      fun c hc => htrail c (List.mem_reverse.1 hc)
    rw [trimRight, List.dropWhile_eq_nil_iff.2 hreverse, List.reverse_nil]
  have hright (u : Text) : trimRight (u ++ trail) = trimRight u := by
    rw [trimRight, List.reverse_append, List.dropWhile_append_of_pos, trimRight]
    exact fun c hc => htrail c (List.mem_reverse.1 hc)
  rw [trim, hleft, trimLeft, List.dropWhile_append]
  split
  next hempty =>
    rw [List.dropWhile_eq_nil_iff.2 htrail, trim, trimLeft, List.isEmpty_iff.1 hempty]
  next => rw [hright, trim, trimLeft]

theorem IsTrimmed.trim_eq (h : IsTrimmed t) : trim t = t := by
  have hleft : trimLeft t = t := by
    cases t with
    | nil => rfl
    | cons c rest => rw [trimLeft, List.dropWhile_cons, h.1 c rfl, if_neg Bool.false_ne_true]
  rw [trim, hleft, trimRight]
  cases hlast : t.reverse with
  | nil => rw [List.reverse_eq_nil_iff.1 hlast]; rfl
  | cons c rest =>
    have hc : c.isBlank = false := by
      refine h.2 c ?_
      rw [← List.head?_reverse, hlast]
      rfl
    rw [List.dropWhile_cons, hc, if_neg Bool.false_ne_true, ← hlast, List.reverse_reverse]

end Text

theorem dropWhile_append_of_head? {α : Type} {p : α → Bool} {w : List α}
    (hw : ∀ c ∈ w.head?, p c = false) (t : List α) : (t ++ w).dropWhile p = t.dropWhile p ++ w := by
  induction t with
  | nil =>
    cases w with
    | nil => rfl
    | cons c rest =>
      rw [List.nil_append, List.dropWhile_cons, hw c rfl]
      rfl
  | cons c rest ih =>
    rw [List.cons_append, List.dropWhile_cons, List.dropWhile_cons, ih]
    split <;> rfl

namespace Literal

variable {c : CodePoint} {t lead trail : Text}

def isSpace (c : CodePoint) : Bool := c.val == 0x20 || c.val == 0x09

/-- The size of a line feed at the front of a text, with a carriage return before it, and what follows. -/
def lineFeed : Text → Nat × Text
  | c :: d :: rest =>
    if c.val = 0x0D ∧ d.val = 0x0A then (2, rest) else if c.val = 0x0A then (1, d :: rest) else (0, [])
  | [c] => if c.val = 0x0A then (1, []) else (0, [])
  | [] => (0, [])

theorem breakSize_eq (t : Text) : breakSize t =
    if (lineFeed (t.dropWhile isSpace)).1 = 0 then 0
    else (t.takeWhile isSpace).length + (lineFeed (t.dropWhile isSpace)).1 +
      ((lineFeed (t.dropWhile isSpace)).2.takeWhile CodePoint.isBlank).length :=
  rfl

theorem lineFeed_append (hc : c.isBlank = false) (front rest : Text) :
    (lineFeed (front ++ c :: rest)).1 = (lineFeed front).1 ∧
      (lineFeed (front ++ c :: rest)).2.takeWhile CodePoint.isBlank =
        (lineFeed front).2.takeWhile CodePoint.isBlank := by
  have hfeed : ¬ c.val = 0x0A := by
    intro h
    rw [CodePoint.isBlank, h] at hc
    exact absurd hc (by decide)
  have hreturn : ¬ c.val = 0x0D := by
    intro h
    rw [CodePoint.isBlank, h] at hc
    exact absurd hc (by decide)
  have htake (t : Text) : (t ++ c :: rest).takeWhile CodePoint.isBlank = t.takeWhile CodePoint.isBlank :=
    takeWhile_append_of_head? (by rintro _ ⟨⟩; exact hc) t
  rcases front with _ | ⟨d, _ | ⟨e, front⟩⟩
  · cases rest with
    | nil => simp [lineFeed, hfeed]
    | cons d rest => simp [lineFeed, hfeed, hreturn]
  · by_cases hd : d.val = 0x0A
    · simpa [lineFeed, hd, hfeed] using htake []
    · simp [lineFeed, hd, hfeed]
  · simp only [List.cons_append, lineFeed]
    split
    next => exact ⟨rfl, htake front⟩
    next =>
      split
      next => exact ⟨rfl, htake (e :: front)⟩
      next => exact ⟨rfl, rfl⟩

theorem lineFeed_le : (t : Text) → (lineFeed t).1 + (lineFeed t).2.length ≤ t.length
  | [] => Nat.le_refl _
  | [c] => by
    rw [lineFeed]
    split <;> simp
  | c :: d :: rest => by
    rw [lineFeed]
    split
    next => simp only [List.length_cons]; omega
    next => split <;> simp only [List.length_cons, List.length_nil] <;> omega

theorem breakSize_append (hc : c.isBlank = false) (front rest : Text) :
    breakSize (front ++ c :: rest) = breakSize front := by
  have hspace : ∀ d ∈ (c :: rest).head?, isSpace d = false := by
    rintro _ ⟨⟩
    rw [Bool.eq_false_iff]
    intro h
    rw [isSpace, Bool.or_eq_true, beq_iff_eq, beq_iff_eq] at h
    rw [CodePoint.isBlank] at hc
    obtain h | h := h <;> rw [h] at hc <;> exact absurd hc (by decide)
  obtain ⟨hsize, hrest⟩ := lineFeed_append hc (front.dropWhile isSpace) rest
  rw [breakSize_eq, breakSize_eq, takeWhile_append_of_head? hspace, dropWhile_append_of_head? hspace,
    hsize, hrest]

theorem breakSize_le (t : Text) : breakSize t ≤ t.length := by
  have hlength := congrArg List.length (List.takeWhile_append_dropWhile (p := isSpace) (l := t))
  have hfeed := lineFeed_le (t.dropWhile isSpace)
  have hblank : ((lineFeed (t.dropWhile isSpace)).2.takeWhile CodePoint.isBlank).length ≤
      (lineFeed (t.dropWhile isSpace)).2.length := (List.takeWhile_sublist _).length_le
  rw [List.length_append] at hlength
  rw [breakSize_eq]
  split <;> omega

theorem collapseFrom_append (hc : c.isBlank = false) {front : Text} {skip : Nat}
    (hskip : skip ≤ front.length) (rest : Text) :
    collapseFrom skip (front ++ c :: rest) = collapseFrom skip front ++ c :: collapseFrom 0 rest := by
  induction front generalizing skip with
  | nil =>
    obtain rfl := Nat.le_zero.1 hskip
    have hnone : breakSize (c :: rest) = 0 := breakSize_append hc [] rest
    have hstep : collapseFrom 0 (c :: rest) = c :: collapseFrom 0 rest := by
      rw [collapseFrom, hnone]
    exact hstep
  | cons d front ih =>
    cases skip with
    | succ skip => exact ih (Nat.le_of_succ_le_succ hskip)
    | zero =>
      have hsize := breakSize_append hc (d :: front) rest
      have hle := breakSize_le (d :: front)
      rw [List.cons_append] at hsize ⊢
      rw [collapseFrom, collapseFrom, hsize]
      cases hbreak : breakSize (d :: front) with
      | zero => exact congrArg (d :: ·) (ih (Nat.zero_le _))
      | succ size =>
        rw [hbreak] at hle
        exact congrArg (CodePoint.ofChar ' ' :: ·) (ih (Nat.le_of_succ_le_succ hle))

theorem collapseBreaks_append (hc : c.isBlank = false) (front rest : Text) :
    collapseBreaks (front ++ c :: rest) = collapseBreaks front ++ c :: collapseBreaks rest :=
  collapseFrom_append hc (Nat.zero_le _) rest

theorem collapseBreaks_around (ht : t.IsTrimmed) (hne : t ≠ []) (lead trail : Text) :
    collapseBreaks (lead ++ t ++ trail) =
      collapseBreaks lead ++ collapseBreaks t ++ collapseBreaks trail := by
  have hright (u : Text) : collapseBreaks (u ++ t ++ trail) =
      collapseBreaks (u ++ t) ++ collapseBreaks trail := by
    obtain ⟨d, hd⟩ := Option.ne_none_iff_exists'.1 (mt List.getLast?_eq_none_iff.1 hne)
    obtain ⟨front, rfl⟩ := List.getLast?_eq_some_iff.1 hd
    have hblank := ht.2 d hd
    have hwhole := collapseBreaks_append hblank (u ++ front) trail
    have hpart := collapseBreaks_append hblank (u ++ front) []
    rw [List.append_cons, List.append_assoc u] at hwhole hpart
    rw [List.append_nil] at hpart
    rw [hwhole, hpart, List.append_assoc]
    rfl
  have hleft : collapseBreaks (lead ++ t) = collapseBreaks lead ++ collapseBreaks t := by
    obtain ⟨c, rest, rfl⟩ := List.exists_cons_of_ne_nil hne
    have hblank := ht.1 c rfl
    rw [collapseBreaks_append hblank, ← List.nil_append (c :: rest), collapseBreaks_append hblank]
    rfl
  rw [hright, hleft]

theorem collapseBreaks_ne_nil (h : t ≠ []) : collapseBreaks t ≠ [] := by
  obtain ⟨c, rest, rfl⟩ := List.exists_cons_of_ne_nil h
  rw [collapseBreaks, collapseFrom]
  split <;> exact List.cons_ne_nil _ _

theorem isTrimmed_collapseBreaks (h : t.IsTrimmed) : (collapseBreaks t).IsTrimmed := by
  by_cases hne : t = []
  · subst hne
    exact h
  constructor
  · obtain ⟨c, rest, rfl⟩ := List.exists_cons_of_ne_nil hne
    have hc := h.1 c rfl
    rw [← List.nil_append (c :: rest), collapseBreaks_append hc]
    rintro _ ⟨⟩
    exact hc
  · obtain ⟨d, hd⟩ := Option.ne_none_iff_exists'.1 (mt List.getLast?_eq_none_iff.1 hne)
    obtain ⟨front, rfl⟩ := List.getLast?_eq_some_iff.1 hd
    have hblank := h.2 d hd
    rw [collapseBreaks_append hblank front []]
    intro c hc
    rw [show collapseBreaks [] = [] from rfl, List.getLast?_concat] at hc
    cases hc
    exact hblank

theorem isBlank_collapseBreaks (h : ∀ c ∈ t, c.isBlank = true) :
    ∀ c ∈ collapseBreaks t, c.isBlank = true :=
  List.all_eq_true.1 (Pass.isBlank_collapseFrom (List.all_eq_true.2 h) 0)

theorem trim_collapseBreaks (t : Text) :
    Text.trim (collapseBreaks t) = collapseBreaks (Text.trim t) := by
  obtain ⟨trail, ht, htrail⟩ := Text.exists_eq_trim t
  have hlead : ∀ c ∈ t.takeWhile CodePoint.isBlank, c.isBlank = true :=
    List.all_eq_true.1 List.all_takeWhile
  have hcore := Text.isTrimmed_trim t
  by_cases hne : Text.trim t = []
  · have hblank : ∀ c ∈ t, c.isBlank = true := by
      intro c hc
      rw [ht, hne, List.append_nil] at hc
      exact (List.mem_append.1 hc).elim (hlead c) (htrail c)
    have hnone : ∀ c ∈ ([] : Text), c.isBlank = true := by simp
    have hnil := Text.trim_append (isBlank_collapseBreaks hblank) hnone []
    rw [List.append_nil, List.append_nil] at hnil
    rw [hne, hnil]
    rfl
  · have haround := collapseBreaks_around hcore hne (t.takeWhile CodePoint.isBlank) trail
    rw [← ht] at haround
    rw [haround, Text.trim_append (isBlank_collapseBreaks hlead) (isBlank_collapseBreaks htrail),
      (isTrimmed_collapseBreaks hcore).trim_eq]

example : collapseBreaks (Text.trim " 가\n 나\n") = "가 나" := by decide +kernel

theorem collapseBreaks_trim_eq_iff :
    collapseBreaks (Text.trim t) = collapseBreaks t ↔ Text.trim t = t := by
  refine ⟨fun h => ?_, fun h => by rw [h]⟩
  obtain ⟨trail, ht, -⟩ := Text.exists_eq_trim t
  by_cases hne : Text.trim t = []
  · by_contra hsome
    rw [hne] at h hsome
    exact collapseBreaks_ne_nil (Ne.symm hsome) h.symm
  · have haround := collapseBreaks_around (Text.isTrimmed_trim t) hne (t.takeWhile CodePoint.isBlank) trail
    rw [← ht, ← h, List.append_assoc] at haround
    have hlength := congrArg List.length haround
    simp only [List.length_append] at hlength
    have hnil (u : Text) (hu : (collapseBreaks u).length = 0) : u = [] :=
      not_not.1 fun hsome => collapseBreaks_ne_nil hsome (List.length_eq_zero_iff.1 hu)
    rw [hnil (t.takeWhile CodePoint.isBlank) (by omega), hnil trail (by omega), List.nil_append,
      List.append_nil] at ht
    exact ht.symm

end Literal

namespace Pass

variable {env : Env} {owner : Text} {f : Focus} {more : List Node} {new : Node}

/-- What a run of JSX text shows is what stands around the call and between the two, and the key is what
stands between, trimmed, its breaks collapsed. It is the whole of it unless a reference gives a blank at
one of the ends. -/
theorem shown_of_wrapRun? (h : (wrapRun? env owner f more).result = .ok (some new)) :
    ∃ lead shown trail key : Text,
      Literal.runSource env.source (f.node :: more) =
        lead ++ Text.trim (Literal.runSource env.source (f.node :: more)) ++ trail ∧
      (∀ c ∈ lead ++ trail, c.isBlank = true) ∧
      CharRef.decode (Literal.runSource env.source (f.node :: more)) = .ok (lead ++ shown ++ trail) ∧
      new = placedRun (.build "synthetic" [.text lead,
        Wrap.braced (Wrap.lookupCall env.function.spelling key []), .text trail]) f.node more ∧
      key = Literal.collapseBreaks (Text.trim shown) ∧
      (key = Literal.collapseBreaks shown ↔ Text.trim shown = shown) := by
  obtain ⟨key, hkey, -, -, hnew⟩ := wrapRun?_eq_some h
  generalize Literal.runSource env.source (f.node :: more) = raw at hkey hnew ⊢
  obtain ⟨x, hx, rfl⟩ := except_map_eq_ok.1 hkey
  obtain ⟨trail, hraw, htrail⟩ := Text.exists_eq_trim raw
  have hlead : ∀ c ∈ raw.takeWhile CodePoint.isBlank, c.isBlank = true :=
    List.all_eq_true.1 List.all_takeWhile
  have hdrop : raw.drop ((raw.takeWhile CodePoint.isBlank).length + (Text.trim raw).length) = trail := by
    have hcut := congrArg
      (List.drop ((raw.takeWhile CodePoint.isBlank).length + (Text.trim raw).length)) hraw
    rw [← List.length_append, List.drop_left] at hcut
    rw [← List.length_append, hcut]
  obtain ⟨shown, rfl⟩ := CharRef.exists_decode_append hlead htrail (hraw ▸ hx)
  have htrim := Literal.trim_collapseBreaks (raw.takeWhile CodePoint.isBlank ++ shown ++ trail)
  rw [Text.trim_append hlead htrail] at htrim
  refine ⟨raw.takeWhile CodePoint.isBlank, shown, trail, _, hraw, fun c hc => ?_, hx, ?_, htrim, ?_⟩
  · exact (List.mem_append.1 hc).elim (hlead c) (htrail c)
  · rw [hnew, Wrap.ofJsxText, hdrop]
  · rw [htrim]
    exact Literal.collapseBreaks_trim_eq_iff

end Pass

namespace Sample

def spacedRun : Node × List Node :=
  (node "jsx_text" true 24 25 [],
    [node "html_character_reference" true 25 31 [], node "jsx_text" true 31 35 []])

/-- A component with its name for the translation among its parameters, which returns the element. -/
def spaced : Tree where
  source := (Utf8.encode? "function A(t)\x7breturn <p> &#160;가 </p>;\x7d").getD []
  root := node "program" true 0 41 [node "function_declaration" true 0 41 [
    token "function" 0 8, inField "name" (node "identifier" true 9 10 []),
    inField "parameters" (node "formal_parameters" true 10 13 [token "(" 10 11,
      node "required_parameter" true 11 12 [inField "pattern" (node "identifier" true 11 12 [])],
      token ")" 12 13]),
    inField "body" (node "statement_block" true 13 41 [token "\x7b" 13 14,
      node "return_statement" true 14 40 [token "return" 14 20,
        node "jsx_element" true 21 39 ([
          inField "open_tag" (node "jsx_opening_element" true 21 24 [token "<" 21 22,
            inField "name" (node "identifier" true 22 23 []), token ">" 23 24])] ++
          spacedRun.1 :: spacedRun.2 ++ [
          inField "close_tag" (node "jsx_closing_element" true 35 39 [token "</" 35 37,
            inField "name" (node "identifier" true 37 38 []), token ">" 38 39])]),
        token ";" 39 40],
      token "\x7d" 40 41])]]

end Sample

/-- A run with blanks around a reference and a word. -/
theorem Pass.shown_of_wrapRun?_spaced :
    let env := Settings.env { sourcePattern := .null } Sample.spaced
    let raw := Literal.runSource env.source (Sample.spacedRun.1 :: Sample.spacedRun.2)
    ∃ new, (wrapRun? env [] ⟨Sample.spacedRun.1, []⟩ Sample.spacedRun.2).result = .ok (some new) ∧
      ∃ lead shown trail key : Text, raw = lead ++ Text.trim raw ++ trail ∧
        CharRef.decode raw = .ok (lead ++ shown ++ trail) ∧
        new = placedRun (.build "synthetic" [.text lead,
          Wrap.braced (Wrap.lookupCall env.function.spelling key []), .text trail])
          Sample.spacedRun.1 Sample.spacedRun.2 := by
  intro env raw
  obtain ⟨new?, h, hsome⟩ : ∃ new?,
      (wrapRun? env [] ⟨Sample.spacedRun.1, []⟩ Sample.spacedRun.2).result = .ok new? ∧
        new?.isSome = true := Logged.exists_of_any (by decide +kernel)
  obtain ⟨new, rfl⟩ := Option.isSome_iff_exists.1 hsome
  obtain ⟨lead, shown, trail, key, hraw, -, hdecode, hnew, -⟩ := shown_of_wrapRun? h
  exact ⟨new, h, lead, shown, trail, key, hraw, hdecode, hnew⟩

/-- The no-break space that is shown before the word is neither around the call nor in its key. -/
theorem transform_drops_spaced :
    ∃ out raw front behind, (transform { sourcePattern := .null } Sample.spaced).result = .ok out ∧
      raw = Text.ofString " &#160;가 " ∧
      raw = Literal.runSource Sample.spaced.source (Sample.spacedRun.1 :: Sample.spacedRun.2) ∧
      Utf8.encode? (front ++ raw ++ behind) = some Sample.spaced.source ∧
      out.code = front ++ Text.ofString " \x7bt(\"가\")\x7d " ++ behind ∧
      ¬ ∃ shown : Text, CharRef.decode raw = .ok (" " ++ shown ++ " ") ∧
        Text.ofString "가" = Literal.collapseBreaks shown := by
  obtain ⟨out, hout, hcode⟩ : ∃ out,
      (transform { sourcePattern := .null } Sample.spaced).result = .ok out ∧
        out.code = Text.ofString "function A(t)\x7breturn <p> \x7bt(\"가\")\x7d </p>;\x7d" :=
    Logged.exists_of_any (by decide +kernel)
  refine ⟨out, _, "function A(t)\x7breturn <p>", "</p>;\x7d", hout, rfl, by decide +kernel,
    by decide +kernel, hcode, ?_⟩
  rintro ⟨shown, hdecode, hkey⟩
  have hraw : (CharRef.decode (Text.ofString " &#160;가 ")).toOption =
      some (" " ++ ([CodePoint.ofNat 0xA0, CodePoint.ofNat 0xAC00] ++ " ")) := by decide +kernel
  rw [hdecode, List.append_assoc] at hraw
  obtain rfl := List.append_cancel_right (List.append_cancel_left (Option.some.inj hraw))
  exact absurd hkey (by decide +kernel)

end Phrasebook
