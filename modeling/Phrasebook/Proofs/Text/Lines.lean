import Phrasebook.Text.Lines

/-! Lines and where they end. Only some of what ends a line is a line feed. -/

namespace Phrasebook

namespace Text

/-- The character that lines of a diff are cut at. -/
def feed : CodePoint := CodePoint.ofChar '\n'

/-- The lines of a text, cut behind each line feed. -/
def fedLines : Text → List Text
  | [] => []
  | c :: rest =>
    if c = feed then [c] :: fedLines rest
    else match fedLines rest with
      | [] => [[c]]
      | line :: more => (c :: line) :: more

structure IsLine (line : Text) : Prop where
  ne_nil : line ≠ []
  feed : feed ∉ line.dropLast

/-- Whether a line has a line feed at its end. -/
def IsFed (line : Text) : Prop := line.getLast? = some feed

instance (line : Text) : Decidable (IsFed line) := inferInstanceAs (Decidable (_ = _))

variable {t line more : Text} {rows : List Text}

theorem IsFed.append_left (h : IsFed line) (front : Text) : IsFed (front ++ line) := by
  obtain ⟨body, rfl⟩ := List.getLast?_eq_some_iff.1 h
  rw [← List.append_assoc]
  exact List.getLast?_concat

theorem isLine_cons {c : CodePoint} (hc : c ≠ Text.feed) (h : IsLine line) : IsLine (c :: line) := by
  refine ⟨List.cons_ne_nil c line, ?_⟩
  rw [List.dropLast_cons_of_ne_nil h.ne_nil]
  exact List.not_mem_cons_of_ne_of_not_mem hc.symm h.feed

theorem isLine_singleton (c : CodePoint) : IsLine [c] := ⟨List.cons_ne_nil c [], List.not_mem_nil⟩

theorem flatten_lines (t : Text) : (lines t).flatten = t := by
  induction t with
  | nil => rfl
  | cons c rest ih =>
    rw [lines]
    split
    next => rw [List.flatten_cons, ih]; rfl
    next =>
      cases hrest : lines rest with
      | nil =>
        rw [hrest] at ih
        rw [← ih]
        rfl
      | cons line more =>
        rw [hrest] at ih
        rw [← ih]
        rfl

theorem isLine_of_mem_lines (h : line ∈ lines t) : IsLine line := by
  induction t generalizing line with
  | nil => cases h
  | cons c rest ih =>
    rw [lines] at h
    split at h
    next =>
      rcases List.mem_cons.1 h with rfl | h
      · exact isLine_singleton c
      · exact ih h
    next hopen =>
      have hc : c ≠ feed := by
        rintro rfl
        exact hopen rfl
      cases hrest : lines rest with
      | nil =>
        rw [hrest] at h
        rw [List.mem_singleton.1 h]
        exact isLine_singleton c
      | cons line' more =>
        rw [hrest] at h
        rcases List.mem_cons.1 h with rfl | h
        · exact isLine_cons hc (ih (by rw [hrest]; exact List.mem_cons_self))
        · exact ih (by rw [hrest]; exact List.mem_cons_of_mem _ h)

theorem fedLines_of_not_mem (h : feed ∉ t) (hne : t ≠ []) : fedLines t = [t] := by
  induction t with
  | nil => exact (hne rfl).elim
  | cons c rest ih =>
    obtain ⟨hc, hrest⟩ := not_or.1 (mt List.mem_cons.2 h)
    rw [fedLines, if_neg (Ne.symm hc)]
    by_cases hnil : rest = []
    · rw [hnil]
      rfl
    · rw [ih hrest hnil]

theorem fedLines_append_feed (h : feed ∉ t) (rest : Text) :
    fedLines (t ++ feed :: rest) = (t ++ [feed]) :: fedLines rest := by
  induction t with
  | nil => rw [List.nil_append, fedLines, if_pos rfl]; rfl
  | cons c t ih =>
    obtain ⟨hc, ht⟩ := not_or.1 (mt List.mem_cons.2 h)
    rw [List.cons_append, fedLines, if_neg (Ne.symm hc), ih ht]
    rfl

theorem fedLines_append (h : IsLine line) (hend : IsFed line) (rest : Text) :
    fedLines (line ++ rest) = line :: fedLines rest := by
  obtain ⟨body, rfl⟩ := List.getLast?_eq_some_iff.1 hend
  have hbody := h.feed
  rw [List.dropLast_concat] at hbody
  rw [List.append_assoc, List.singleton_append, fedLines_append_feed hbody]

theorem IsLine.feed_not_mem (h : IsLine line) (hopen : ¬ IsFed line) : Text.feed ∉ line := by
  intro hmem
  rw [← List.dropLast_concat_getLast h.ne_nil] at hmem
  rcases List.mem_append.1 hmem with hmem | hmem
  · exact h.feed hmem
  · refine hopen ?_
    rw [IsFed, List.getLast?_eq_some_getLast h.ne_nil, ← List.mem_singleton.1 hmem]

theorem fedLines_of_isLine (h : IsLine line) : fedLines line = [line] := by
  by_cases hend : IsFed line
  · have hcut := fedLines_append h hend []
    rwa [List.append_nil, fedLines] at hcut
  · exact fedLines_of_not_mem (h.feed_not_mem hend) h.ne_nil

theorem fedLines_flatten_append (hrows : ∀ row ∈ rows, IsLine row) (hend : ∀ row ∈ rows, IsFed row)
    (rest : Text) :
    fedLines (rows.flatten ++ rest) = rows ++ fedLines rest := by
  induction rows with
  | nil => rfl
  | cons row rows ih =>
    rw [List.flatten_cons, List.append_assoc, fedLines_append (hrows row List.mem_cons_self)
      (hend row List.mem_cons_self), ih (fun row h => hrows row (List.mem_cons_of_mem _ h))
      fun row h => hend row (List.mem_cons_of_mem _ h)]
    rfl

theorem fedLines_flatten (hrows : ∀ row ∈ rows, IsLine row) (hend : ∀ row ∈ rows.dropLast, IsFed row) :
    fedLines rows.flatten = rows := by
  rcases List.eq_nil_or_concat rows with rfl | ⟨front, last, rfl⟩
  · rfl
  · rw [List.concat_eq_append] at hrows hend ⊢
    rw [List.dropLast_concat] at hend
    have hfront : ∀ row ∈ front, IsLine row := fun row h => hrows row (List.mem_append_left _ h)
    have hlast : IsLine last := hrows last (List.mem_append_right _ (List.mem_singleton_self last))
    rw [List.flatten_append, fedLines_flatten_append hfront hend, List.flatten_singleton, fedLines_of_isLine hlast]

theorem fedLines_ne_nil (h : t ≠ []) : ∃ line rest, fedLines t = line :: rest ∧ line ≠ [] := by
  cases t with
  | nil => exact (h rfl).elim
  | cons c t =>
    rw [fedLines]
    split
    · exact ⟨[c], _, rfl, List.cons_ne_nil c []⟩
    · cases fedLines t with
      | nil => exact ⟨[c], [], rfl, List.cons_ne_nil c []⟩
      | cons line rest => exact ⟨c :: line, rest, rfl, List.cons_ne_nil c line⟩

theorem fedLines_append_open (h : feed ∉ t) (hmore : more ≠ []) :
    ∃ line rest, fedLines (t ++ more) = (t ++ line) :: rest ∧ line ≠ [] := by
  obtain ⟨line, rest, hcut, hline⟩ := fedLines_ne_nil hmore
  refine ⟨line, rest, ?_, hline⟩
  induction t with
  | nil => exact hcut
  | cons c t ih =>
    obtain ⟨hc, ht⟩ := not_or.1 (mt List.mem_cons.2 h)
    rw [List.cons_append, fedLines, if_neg (Ne.symm hc), ih ht]
    rfl

theorem mem_dropLast_cons {row : Text} (h : line ∈ (row :: rows).dropLast) :
    line = row ∧ rows ≠ [] ∨ line ∈ rows.dropLast := by
  cases rows with
  | nil => cases h
  | cons next rows =>
    rw [List.dropLast_cons_cons] at h
    exact (List.mem_cons.1 h).imp (⟨·, List.cons_ne_nil next rows⟩) id

theorem exists_open (h : ¬ ∀ row ∈ rows.dropLast, IsFed row) :
    ∃ pre row next post, rows = pre ++ row :: next :: post ∧ (∀ row ∈ pre, IsFed row) ∧ ¬ IsFed row := by
  induction rows with
  | nil => exact (h (List.forall_mem_nil _)).elim
  | cons row rows ih =>
    by_cases hrow : IsFed row
    · have hrest : ¬ ∀ row ∈ rows.dropLast, IsFed row := fun hrest => h fun r hr => by
        rcases mem_dropLast_cons hr with ⟨rfl, -⟩ | hr
        · exact hrow
        · exact hrest r hr
      obtain ⟨pre, row', next, post, rfl, hpre, hopen⟩ := ih hrest
      exact ⟨row :: pre, row', next, post, rfl, List.forall_mem_cons.2 ⟨hrow, hpre⟩, hopen⟩
    · cases rows with
      | nil => exact (h (List.forall_mem_nil _)).elim
      | cons next post => exact ⟨[], row, next, post, rfl, List.forall_mem_nil _, hrow⟩

theorem exists_fedLines_flatten (hrows : ∀ row ∈ rows, IsLine row) (h : ¬ ∀ row ∈ rows.dropLast, IsFed row) :
    ∃ pre row post more rest, rows = pre ++ row :: post ∧ ¬ IsFed row ∧ more ≠ [] ∧
      fedLines rows.flatten = pre ++ (row ++ more) :: rest := by
  obtain ⟨pre, row, next, post, rfl, hpre, hopen⟩ := exists_open h
  have hlines : ∀ r ∈ pre, IsLine r := fun r hr => hrows r (List.mem_append_left _ hr)
  have hrow : IsLine row := hrows row (by simp)
  have hnext : IsLine next := hrows next (by simp)
  obtain ⟨more, rest, hcut, hmore⟩ := fedLines_append_open (hrow.feed_not_mem hopen)
    (List.append_ne_nil_of_left_ne_nil hnext.ne_nil post.flatten)
  refine ⟨pre, row, next :: post, more, rest, rfl, hopen, hmore, ?_⟩
  rw [List.flatten_append, fedLines_flatten_append hlines hpre, List.flatten_cons, List.flatten_cons, hcut]

theorem fedLines_flatten_iff (hrows : ∀ row ∈ rows, IsLine row) :
    fedLines rows.flatten = rows ↔ ∀ row ∈ rows.dropLast, IsFed row := by
  refine ⟨fun hcut => Decidable.byContradiction fun h => ?_, fedLines_flatten hrows⟩
  obtain ⟨pre, row, post, more, rest, heq, -, hmore, hflat⟩ := exists_fedLines_flatten hrows h
  rw [hcut, heq] at hflat
  have hrow := List.head_eq_of_cons_eq (List.append_cancel_left hflat)
  exact hmore (List.self_eq_append_right.1 hrow)

theorem isFed_of_mem_dropLast (h : line ∈ (fedLines t).dropLast) : IsFed line := by
  induction t generalizing line with
  | nil => cases h
  | cons c t ih =>
    rw [fedLines] at h
    split at h
    next hc =>
      rcases mem_dropLast_cons h with ⟨rfl, -⟩ | h
      · exact congrArg some hc
      · exact ih h
    next =>
      cases hrest : fedLines t with
      | nil =>
        rw [hrest] at h
        cases h
      | cons next more =>
        rw [hrest] at h ih
        rcases mem_dropLast_cons h with ⟨rfl, hmore⟩ | h
        · have hnext : IsFed next := ih (by rw [List.dropLast_cons_of_ne_nil hmore]; exact List.mem_cons_self)
          exact hnext.append_left [c]
        · have hmore : more ≠ [] := by
            rintro rfl
            cases h
          exact ih (by rw [List.dropLast_cons_of_ne_nil hmore]; exact List.mem_cons_of_mem _ h)

end Text

end Phrasebook
