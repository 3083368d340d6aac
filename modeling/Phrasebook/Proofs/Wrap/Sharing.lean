import Phrasebook.Proofs.Text.Digits
import Phrasebook.Proofs.Wrap.Template

/-! Which expressions of a template share a placeholder. Expressions of one text do when they have a name
of themselves that stands for no other text before them; by their positions they get different names. -/

namespace Phrasebook

namespace Placeholder

theorem eq_of_attempt_positional {i j m n : Nat}
    (h : attempt (positional i) m = attempt (positional j) n) : i = j := by
  have hread (i m : Nat) :
      ((attempt (positional i) m).drop 4).takeWhile CodePoint.isDigit = Text.ofNat i := by
    have hdigits : ∀ c ∈ Text.ofNat i, c.isDigit = true := (Text.ofNat_spec i).2.1
    cases m with
    | zero =>
      have hdrop : (attempt (positional i) 0).drop 4 = Text.ofNat i ++ [] := by
        simp [attempt, positional, Text.ofString]
      rw [hdrop, List.takeWhile_append_of_pos hdigits, List.takeWhile_nil, List.append_nil]
    | succ m =>
      have hdrop : (attempt (positional i) (m + 1)).drop 4 =
          Text.ofNat i ++ CodePoint.ofChar '_' :: Text.ofNat (m + 1) := by
        simp [attempt, positional, Text.ofString]
      rw [hdrop, List.takeWhile_append_of_pos hdigits, List.takeWhile_cons_of_neg (by decide),
        List.append_nil]
  have hsame := hread i m
  rw [h, hread j n] at hsame
  exact (Text.ofNat_injective hsame).symm

def Clashes (names : List Text) (es : List (Option Text × Text)) (p : Nat) (name text : Text) : Prop :=
  ∃ k < p, names[k]? = some name ∧ ∃ e, es[k]? = some e ∧ e.2 ≠ text

/-- The name of an expression, given which names stand for other texts: its own one if that is free, or
else one made from its position. -/
def Gets (taken : Text → Prop) (i : Nat) (derived : Option Text) (name : Text) : Prop :=
  (¬ taken (ownName i derived) ∧ name = ownName i derived) ∨
    (taken (ownName i derived) ∧ ∃ m, name = attempt (positional i) m)

section Clashing

variable {owners : Owners} {names : List Text} {es : List (Option Text × Text)}
  {e : Option Text × Text} {name text held holder : Text} {i p : Nat}

theorem clashes_cons : Clashes (held :: names) (e :: es) (p + 1) name text ↔
    (held = name ∧ e.2 ≠ text) ∨ Clashes names es p name text := by
  constructor
  · rintro ⟨k, hk, hname, e', he, htext⟩
    cases k with
    | zero =>
      cases hname
      cases he
      exact .inl ⟨rfl, htext⟩
    | succ k => exact .inr ⟨k, Nat.lt_of_succ_lt_succ hk, hname, e', he, htext⟩
  · rintro (⟨rfl, htext⟩ | ⟨k, hk, hname, e', he, htext⟩)
    · exact ⟨0, Nat.succ_pos p, rfl, e, rfl, htext⟩
    · exact ⟨k + 1, Nat.succ_lt_succ hk, hname, e', he, htext⟩

theorem find?_hold_of_ne (h : held ≠ name) :
    (hold owners held holder).find? (fun o => o.1 == name) = owners.find? fun o => o.1 == name := by
  unfold hold
  split
  · rfl
  · rw [List.find?_append, List.find?_cons_of_neg (by simpa using h), List.find?_nil, Option.or_none]

theorem isTaken_hold (h : isTaken owners held holder = false) :
    isTaken (hold owners held holder) name text = true ↔
      (held = name ∧ holder ≠ text) ∨ isTaken owners name text = true := by
  by_cases hname : held = name
  · subst hname
    rw [isTaken, find?_hold h]
    dsimp only
    rw [bne_iff_ne]
    refine ⟨fun htext => .inl ⟨rfl, htext⟩, ?_⟩
    rintro (⟨-, htext⟩ | htaken)
    · exact htext
    · rintro rfl
      rw [h] at htaken
      cases htaken
  · rw [isTaken, find?_hold_of_ne hname, ← isTaken]
    simp [hname]

theorem taken_cons (h : isTaken owners held holder = false) {derived : Option Text} :
    (isTaken owners name text = true ∨ Clashes (held :: names) ((derived, holder) :: es) (p + 1) name text) ↔
      isTaken (hold owners held holder) name text = true ∨ Clashes names es p name text := by
  rw [clashes_cons, isTaken_hold h, or_assoc, or_left_comm]

theorem Assigns.exists_gets (h : Assigns owners i es names) (he : es[p]? = some e) :
    ∃ name, names[p]? = some name ∧
      Gets (fun own => isTaken owners own e.2 = true ∨ Clashes names es p own e.2) (i + p) e.1 name := by
  have hnone {names : List Text} {es : List (Option Text × Text)} {name text : Text} :
      ¬ Clashes names es 0 name text := fun ⟨k, hk, _⟩ => absurd hk (Nat.not_lt_zero k)
  induction h generalizing p with
  | nil => simp at he
  | @own owners i derived text rest names hown hrest ih =>
    cases p with
    | zero =>
      cases he
      refine ⟨_, rfl, .inl ⟨?_, rfl⟩⟩
      rintro (htaken | hclash)
      · rw [Nat.add_zero, hown] at htaken
        cases htaken
      · exact hnone hclash
    | succ p =>
      simp only [taken_cons hown, show i + (p + 1) = i + 1 + p by omega]
      exact ih he
  | @found owners i derived text name rest names hown hname hrest ih =>
    cases p with
    | zero =>
      cases he
      exact ⟨_, rfl, .inr ⟨.inl hown, hname.exists_attempt⟩⟩
    | succ p =>
      simp only [taken_cons hname.not_taken, show i + (p + 1) = i + 1 + p by omega]
      exact ih he

end Clashing

section Sharing

variable {source : Bytes} {expressions : List Node} {e : Node} {i j : Nat}

/-- Whether a name stands for an expression of another text before position `i`. -/
def IsHeldBefore (source : Bytes) (expressions : List Node) (i : Nat) (name text : Text) : Prop :=
  ∃ k < i, (names source expressions)[k]? = some name ∧
    ∃ other, expressions[k]? = some other ∧ other.textD source ≠ text

theorem exists_name (he : expressions[i]? = some e) : ∃ name, (names source expressions)[i]? = some name ∧
    Gets (fun own => IsHeldBefore source expressions i own (e.textD source)) i (derived? source e) name := by
  have hdescribed : (described source expressions)[i]? = some (derived? source e, e.textD source) := by
    rw [described, List.getElem?_map, he, Option.map_some]
  obtain ⟨name, hname, hgets⟩ := (assigns_names source expressions).exists_gets hdescribed
  refine ⟨name, hname, ?_⟩
  rw [Nat.zero_add] at hgets
  have hheld (own : Text) : (isTaken [] own (e.textD source) = true ∨
      Clashes (names source expressions) (described source expressions) i own (e.textD source)) ↔
        IsHeldBefore source expressions i own (e.textD source) := by
    simp [isTaken, Clashes, IsHeldBefore, described, List.getElem?_map]
  simpa only [hheld] using hgets

theorem IsHeldBefore.mono {name text : Text} (h : IsHeldBefore source expressions i name text)
    (hij : i ≤ j) : IsHeldBefore source expressions j name text := by
  obtain ⟨k, hk, h⟩ := h
  exact ⟨k, Nat.lt_of_lt_of_le hk hij, h⟩

theorem not_isHeldBefore_of_name {name : Text} (hname : (names source expressions)[i]? = some name)
    (he : expressions[i]? = some e) : ¬ IsHeldBefore source expressions j name (e.textD source) := by
  rintro ⟨k, -, hother, other, hk, htext⟩
  have hpair {k : Nat} {n : Node} (hname : (names source expressions)[k]? = some name)
      (hn : expressions[k]? = some n) : (name, n) ∈ (names source expressions).zip expressions :=
    List.mem_of_getElem? (List.getElem?_zip_eq_some.2 ⟨hname, hn⟩)
  exact htext (textD_eq_of_name (hpair hother hk) (hpair hname he) rfl)

theorem Gets.cases {taken : Text → Prop} {derived : Option Text} {name : Text}
    (h : Gets taken i derived name) :
    (derived = some name ∧ name ≠ [] ∧ ¬ taken name) ∨ ∃ m, name = attempt (positional i) m := by
  rcases h with ⟨hfree, rfl⟩ | ⟨-, hmade⟩
  · cases derived with
    | none => exact .inr ⟨0, rfl⟩
    | some own =>
      cases own with
      | nil => exact .inr ⟨0, rfl⟩
      | cons c rest => exact .inl ⟨rfl, List.cons_ne_nil c rest, hfree⟩
  · exact .inr hmade

/-- **Which expressions share a placeholder.** Two expressions of one text, which derive their names in
one way, get the same name exactly when they have a name of themselves that stands for no other text
before the first of them. -/
theorem names_share_iff {e' : Node} (hij : i < j) (he : expressions[i]? = some e)
    (he' : expressions[j]? = some e') (htext : e.textD source = e'.textD source)
    (hderived : derived? source e = derived? source e') :
    (names source expressions)[i]? = (names source expressions)[j]? ↔
      ∃ name, derived? source e = some name ∧ name ≠ [] ∧
        ¬ IsHeldBefore source expressions i name (e.textD source) := by
  obtain ⟨name, hname, hgets⟩ := exists_name he
  obtain ⟨name', hname', hgets'⟩ := exists_name he'
  rw [← hderived, ← htext] at hgets'
  rw [hname, hname', Option.some.injEq]
  constructor
  · rintro rfl
    rcases hgets.cases with ⟨hown, hne, hfree⟩ | ⟨m, hm⟩
    · exact ⟨name, hown, hne, hfree⟩
    rcases hgets'.cases with ⟨hown, hne, hfree⟩ | ⟨n, hn⟩
    · exact ⟨name, hown, hne, fun hheld => hfree (hheld.mono (Nat.le_of_lt hij))⟩
    · -- Names made from two positions differ.
      exact absurd (eq_of_attempt_positional (hm.symm.trans hn)) (Nat.ne_of_lt hij)
  · rintro ⟨own, hown, hne, hfree⟩
    obtain ⟨c, rest, rfl⟩ := List.exists_cons_of_ne_nil hne
    rw [hown] at hgets hgets'
    -- The first place takes the name, and from then on no expression of another text can hold it.
    have hfirst : name = c :: rest := hgets.elim (·.2) fun h => absurd h.1 hfree
    have hfree' : ¬ IsHeldBefore source expressions j (c :: rest) (e.textD source) :=
      not_isHeldBefore_of_name (hname.trans (congrArg some hfirst)) he
    have hsecond : name' = c :: rest := hgets'.elim (·.2) fun h => absurd h.1 hfree'
    rw [hfirst, hsecond]

end Sharing

end Placeholder

namespace Sample

def callAt (a : Nat) : Node :=
  node "call_expression" true a (a + 3) [
    inField "function" (node "identifier" true a (a + 1) []),
    inField "arguments" (node "arguments" true (a + 1) (a + 3)
      [token "(" (a + 1) (a + 2), token ")" (a + 2) (a + 3)])]

def nameAt (a : Nat) : Node := node "identifier" true a (a + 1) []

def repeated : Tree where
  source := (Utf8.encode? "`가 $\x7bf()\x7d$\x7bb\x7d$\x7bf()\x7d$\x7bb\x7d`").getD []
  root := node "template_string" true 0 26 [token "`" 0 1, node "string_fragment" true 1 5 [],
    substitution (callAt 7) 5 11, substitution (nameAt 13) 11 15, substitution (callAt 17) 15 21,
    substitution (nameAt 23) 21 25, token "`" 25 26]

def repeatedExpressions : List Node :=
  (repeated.root.children.filter fun c => c.kind == "template_substitution").map Literal.expressionOf

end Sample

theorem names_share_iff_repeated :
    Placeholder.derived? Sample.repeated.source (Sample.nameAt 13) = some (Text.ofString "b") ∧
      (Placeholder.names Sample.repeated.source Sample.repeatedExpressions)[1]? =
        (Placeholder.names Sample.repeated.source Sample.repeatedExpressions)[3]? := by
  have hname : Placeholder.derived? Sample.repeated.source (Sample.nameAt 13) =
      some (Text.ofString "b") := by decide +kernel
  have hshare := @Placeholder.names_share_iff Sample.repeated.source Sample.repeatedExpressions
    (Sample.nameAt 13) 1 3 (Sample.nameAt 23) (by decide) rfl rfl (by decide +kernel) (by decide +kernel)
  refine ⟨hname, hshare.2 ⟨_, hname, by decide, ?_⟩⟩
  rintro ⟨k, hk, hheld, -⟩
  obtain rfl : k = 0 := by omega
  revert hheld
  decide +kernel

/-- The call has no name of itself, so its two places get two names. -/
theorem names_not_shared_call :
    Sample.repeatedExpressions[0]? = some (Sample.callAt 7) ∧
      Sample.repeatedExpressions[2]? = some (Sample.callAt 17) ∧
      (Sample.callAt 7).textD Sample.repeated.source = (Sample.callAt 17).textD Sample.repeated.source ∧
      (Placeholder.names Sample.repeated.source Sample.repeatedExpressions)[0]? ≠
        (Placeholder.names Sample.repeated.source Sample.repeatedExpressions)[2]? :=
  ⟨rfl, rfl, by decide +kernel, by decide +kernel⟩

end Phrasebook
