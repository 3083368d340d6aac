import Phrasebook.Files.Discover
import Phrasebook.Proofs.Files.Lookup
import Phrasebook.Proofs.Text.Pieces

/-! Wildcards that leave out folders. One of the form `**/folder/**` is met by the paths with that folder
among their names, the last name apart: in front of it and behind it a slash is asked for, and the rule
for what begins with `**/` stands for a folder that comes first. -/

namespace Phrasebook

namespace Wild

variable {w : Wild} {ws : List Wild} {t plain : Text}

theorem someEnd_iff {p : Text → Bool} :
    someEnd p t = true ↔ ∃ front back, t = front ++ back ∧ p back = true := by
  induction t with
  | nil =>
    refine ⟨fun h => ⟨[], [], rfl, h⟩, ?_⟩
    rintro ⟨front, back, heq, h⟩
    obtain ⟨-, rfl⟩ := List.append_eq_nil_iff.1 heq.symm
    exact h
  | cons c t ih =>
    rw [someEnd, Bool.or_eq_true, ih]
    constructor
    · rintro (h | ⟨front, back, rfl, h⟩)
      · exact ⟨[], c :: t, rfl, h⟩
      · exact ⟨c :: front, back, rfl, h⟩
    · rintro ⟨front, back, heq, h⟩
      cases front with
      | nil =>
        rw [List.nil_append] at heq
        rw [heq]
        exact .inl h
      | cons d front =>
        obtain ⟨-, rfl⟩ := List.cons.inj heq
        exact .inr ⟨front, back, rfl, h⟩

theorem matchesAll_star : matchesAll (star :: ws) t = true ↔
    ∃ front back, t = front ++ back ∧ matchesAll ws back = true := someEnd_iff

theorem matchesAll_star_star : matchesAll (star :: star :: ws) t = matchesAll (star :: ws) t := by
  rw [Bool.eq_iff_iff, matchesAll_star, matchesAll_star]
  constructor
  · rintro ⟨front, back, rfl, h⟩
    obtain ⟨middle, rest, rfl, hrest⟩ := matchesAll_star.1 h
    exact ⟨front ++ middle, rest, (List.append_assoc ..).symm, hrest⟩
  · rintro ⟨front, back, rfl, h⟩
    exact ⟨[], front ++ back, rfl, matchesAll_star.2 ⟨front, back, rfl, h⟩⟩

theorem matchesAll_exactly (plain : Text) (ws : List Wild) (t : Text) :
    matchesAll (plain.map exactly ++ ws) t = true ↔ ∃ rest, t = plain ++ rest ∧ matchesAll ws rest = true := by
  induction plain generalizing t with
  | nil => exact ⟨fun h => ⟨t, rfl, h⟩, fun ⟨_, heq, h⟩ => heq ▸ h⟩
  | cons d plain ih =>
    rw [List.map_cons, List.cons_append]
    cases t with
    | nil => exact ⟨fun h => (by cases h), fun ⟨_, heq, _⟩ => (by cases heq)⟩
    | cons c t =>
      have hstep : matchesAll (exactly d :: (plain.map exactly ++ ws)) (c :: t) =
          (c == d && matchesAll (plain.map exactly ++ ws) t) := rfl
      rw [hstep, Bool.and_eq_true, beq_iff_eq, ih]
      constructor
      · rintro ⟨rfl, rest, rfl, h⟩
        exact ⟨rest, rfl, h⟩
      · rintro ⟨rest, heq, h⟩
        obtain ⟨rfl, rfl⟩ := List.cons.inj heq
        exact ⟨rfl, rest, rfl, h⟩

theorem matchesAll_stars (t : Text) : matchesAll [star, star] t = true :=
  matchesAll_star_star ▸ matchesAll_star.2 ⟨t, [], (List.append_nil t).symm, rfl⟩

theorem read_append (h : isWildcard plain = false) (rest : Text) :
    read (plain ++ rest) = plain.map exactly ++ read rest := by
  induction plain with
  | nil => rfl
  | cons c plain ih =>
    unfold isWildcard at h
    rw [List.any_cons, Bool.or_eq_false_iff, Bool.or_eq_false_iff, Bool.or_eq_false_iff] at h
    obtain ⟨⟨⟨hstar, hany⟩, hbracket⟩, hrest⟩ := h
    show readFrom 0 (c :: (plain ++ rest)) = exactly c :: (plain.map exactly ++ read rest)
    rw [readFrom, if_neg (by simpa using hstar), if_neg (by simpa using hany),
      if_neg (by simpa using hbracket)]
    exact congrArg _ (ih hrest)

end Wild

namespace Store

variable {s : Store} {names : List Text}

theorem trace_of_isLinkless (hs : s.IsLinkless) (hnames : ∀ n ∈ names, n ≠ "." ∧ n ≠ "..") (fuel : Nat)
    (entered : List (List Text)) (here : List Text) : s.trace fuel entered here names = .ok (here ++ names) := by
  induction names generalizing here with
  | nil => rw [trace, List.append_nil]
  | cons n names ih =>
    obtain ⟨⟨hstay, hup⟩, hrest⟩ := List.forall_mem_cons.1 hnames
    have hlink (target : Text) : s.entry? (here ++ [n]) ≠ some (.link target) := by
      intro h
      obtain ⟨e, he, hitem⟩ := Option.map_eq_some_iff.1 h
      exact hs.links e (List.mem_of_find?_eq_some he) target hitem
    rw [trace, if_neg hstay, if_neg hup]
    dsimp only
    split
    next heq => exact (hlink _ heq).elim
    next heq => exact (hlink _ heq).elim
    next => rw [ih hrest, List.append_assoc, List.singleton_append]

theorem resolve_of_isLinkless (hs : s.IsLinkless) (hnames : ∀ n ∈ names, n ≠ "." ∧ n ≠ "..")
    (hspelling : checkSpelling ⟨1, names⟩ = .ok ()) : s.resolve ⟨1, names⟩ = .ok ⟨1, names⟩ := by
  unfold resolve
  rw [hspelling, trace_of_isLinkless hs hnames]
  rfl

end Store

namespace Discover

open FilePath Wild

/-- A name that a wildcard takes as it is: no slash, and no character with a meaning. -/
def IsPlainName (name : Text) : Prop := slash ∉ name ∧ isWildcard name = false

/-- The wildcard that leaves out all that is in folders of a name. -/
def folderGlob (name : Text) : Text := "**/" ++ name ++ "/**"

variable {name seen : Text} {folders names : List Text}

theorem matchesWildcard_first (h : IsPlainName name) :
    matchesWildcard (name ++ "/**") seen = true ↔ ∃ back, seen = name ++ slash :: back := by
  have hread : read (name ++ "/**") = (name ++ [slash]).map Wild.exactly ++ [Wild.star, Wild.star] := by
    rw [Wild.read_append h.2, List.map_append, List.append_assoc]
    rfl
  rw [matchesWildcard, hread, matchesAll_exactly]
  constructor
  · rintro ⟨back, rfl, -⟩
    exact ⟨back, List.append_assoc ..⟩
  · rintro ⟨back, rfl⟩
    exact ⟨back, by rw [List.append_assoc, List.singleton_append], matchesAll_stars back⟩

theorem matchesWildcard_folderGlob (h : IsPlainName name) :
    matchesWildcard (folderGlob name) seen = true ↔
      ∃ front back, seen = front ++ slash :: (name ++ slash :: back) := by
  have hread : read (folderGlob name) =
      Wild.star :: Wild.star :: Wild.exactly slash :: read (name ++ "/**") := by
    show readFrom 0 _ = _
    rw [folderGlob, List.append_assoc]
    rfl
  have hfirst {t : Text} : matchesAll (read (name ++ "/**")) t = true ↔ ∃ back, t = name ++ slash :: back :=
    matchesWildcard_first h
  have hslash {t : Text} : matchesAll (Wild.exactly slash :: read (name ++ "/**")) t = true ↔
      ∃ back, t = slash :: (name ++ slash :: back) := by
    refine (matchesAll_exactly [slash] (read (name ++ "/**")) t).trans ?_
    constructor
    · rintro ⟨rest, rfl, hrest⟩
      obtain ⟨back, rfl⟩ := hfirst.1 hrest
      exact ⟨back, rfl⟩
    · rintro ⟨back, rfl⟩
      exact ⟨_, rfl, hfirst.2 ⟨back, rfl⟩⟩
  rw [matchesWildcard, hread, matchesAll_star_star, matchesAll_star]
  constructor
  · rintro ⟨front, rest, rfl, hrest⟩
    obtain ⟨back, rfl⟩ := hslash.1 hrest
    exact ⟨front, back, rfl⟩
  · rintro ⟨front, back, rfl⟩
    exact ⟨front, _, rfl, hslash.2 ⟨back, rfl⟩⟩

theorem folderGlob_iff (h : IsPlainName name) :
    (matchesWildcard (folderGlob name) seen ||
      (Text.startsWith (folderGlob name) "**/" && matchesWildcard ((folderGlob name).drop 3) seen)) = true ↔
      name ∈ (Text.cut slash seen).dropLast := by
  have hstarts : Text.startsWith (folderGlob name) "**/" = true := by
    rw [folderGlob, List.append_assoc]
    exact List.isPrefixOf_iff_prefix.2 (List.prefix_append _ _)
  have hdrop : (folderGlob name).drop 3 = name ++ "/**" := by
    rw [folderGlob, List.append_assoc]
    rfl
  rw [hstarts, hdrop, Bool.true_and, Bool.or_eq_true, matchesWildcard_folderGlob h, matchesWildcard_first h,
    Text.mem_dropLast_cut h.1]
  exact Or.comm

theorem anyMatches_folders (hfolders : ∀ folder ∈ folders, IsPlainName folder) (seen : Text) :
    anyMatches seen (folders.map fun folder => .str (folderGlob folder)) =
      .ok (decide (∃ folder ∈ folders, folder ∈ (Text.cut slash seen).dropLast)) := by
  induction folders with
  | nil => exact congrArg Except.ok (decide_eq_false (by simp)).symm
  | cons folder folders ih =>
    obtain ⟨hfolder, hrest⟩ := List.forall_mem_cons.1 hfolders
    rw [List.map_cons, anyMatches, ih hrest]
    simp only [folderGlob_iff hfolder, List.mem_cons, exists_eq_or_imp]
    by_cases hmem : folder ∈ (Text.cut slash seen).dropLast
    · simp [hmem]
    · simp [hmem]

theorem seenFrom_of_append {s : Store} {base path real home : FilePath} (hreal : s.resolve path = .ok real)
    (hhome : s.resolve base = .ok home) (hnames : real.names = home.names ++ names) (hne : names ≠ [])
    (hplain : ∀ n ∈ names, ∀ c ∈ n, c.val ≠ 0x5C) :
    seenFrom s base path = .ok (Text.join [slash] names) := by
  have hprefix : home.names.isPrefixOf (home.names ++ names) = true :=
    List.isPrefixOf_iff_prefix.2 (List.prefix_append _ _)
  have hsome : names.isEmpty = false := by simpa using hne
  have hturned : (Text.join [slash] names).map (fun c => if c.val = 0x5C then slash else c) =
      Text.join [slash] names := by
    refine Text.join_of_append (P := fun t => t.map (fun c => if c.val = 0x5C then slash else c) = t)
      rfl (fun ht ht' => ?_) rfl fun n hn => ?_
    · rw [List.map_append, ht, ht']
    · exact (List.map_congr_left fun c hc => if_neg (hplain n hn c hc)).trans (List.map_id _)
  unfold seenFrom
  simp only [hreal, hhome, bind, Except.bind, hnames, hprefix, if_true, List.drop_left, FilePath.toText,
    hsome, Bool.and_false, Bool.false_eq_true, if_false, List.replicate_zero, List.nil_append]
  exact congrArg Except.ok hturned

/-- Folders left out by their names. Whether a path meets one of the wildcards hangs on its names alone,
the last one apart, at whatever depth they are; of a file below the base these are the names from
there on. -/
theorem isIgnored_folders (hfolders : ∀ folder ∈ folders, IsPlainName folder) (s : Store)
    (base path : FilePath) :
    (∀ seen, seenFrom s base path = .ok seen →
      isIgnored s base path (folders.map fun folder => .str (folderGlob folder)) =
        .ok (decide (∃ folder ∈ folders, folder ∈ (Text.cut slash seen).dropLast))) ∧
    ∀ real home names, s.resolve path = .ok real → s.resolve base = .ok home →
      real.names = home.names ++ names → names ≠ [] → (∀ n ∈ names, slash ∉ n ∧ ∀ c ∈ n, c.val ≠ 0x5C) →
      isIgnored s base path (folders.map fun folder => .str (folderGlob folder)) =
        .ok (decide (∃ folder ∈ folders, folder ∈ names.dropLast)) := by
  have hseen (seen : Text) (h : seenFrom s base path = .ok seen) :
      isIgnored s base path (folders.map fun folder => .str (folderGlob folder)) =
        .ok (decide (∃ folder ∈ folders, folder ∈ (Text.cut slash seen).dropLast)) := by
    unfold isIgnored
    cases folders with
    | nil => exact congrArg Except.ok (decide_eq_false (by simp)).symm
    | cons folder folders =>
      rw [h]
      exact anyMatches_folders hfolders seen
  refine ⟨hseen, fun real home names hreal hhome hnames hne hplain => ?_⟩
  rw [hseen _ (seenFrom_of_append hreal hhome hnames hne fun n hn => (hplain n hn).2),
    Text.cut_join hne fun n hn => (hplain n hn).1]

/-- Two files: one in a folder of that name, and one that has the name itself in a folder whose name only
begins so. -/
theorem isIgnored_folders_dist :
    isIgnored ⟨[]⟩ ⟨1, ["p"]⟩ ⟨1, ["p", "src", "dist", "f.js"]⟩ [.str "**/dist/**"] = .ok true ∧
    isIgnored ⟨[]⟩ ⟨1, ["p"]⟩ ⟨1, ["p", "distant", "dist"]⟩ [.str "**/dist/**"] = .ok false := by
  have hplain : ∀ folder ∈ [("dist" : Text)], IsPlainName folder :=
    List.forall_mem_singleton.2 ⟨by decide, by decide⟩
  have hempty : Store.IsLinkless ⟨[]⟩ := ⟨rfl, by simp⟩
  have hresolve (names : List Text) (hnames : ∀ n ∈ names, n ≠ "." ∧ n ≠ "..")
      (hspelling : Store.spellingOf ⟨1, names⟩ = .ok ()) :
      Store.resolve ⟨[]⟩ ⟨1, names⟩ = .ok ⟨1, names⟩ :=
    Store.resolve_of_isLinkless hempty hnames (by rw [Store.checkSpelling, hspelling])
  have hhome := hresolve ["p"] (by decide) (by decide)
  have hinside := hresolve ["p", "src", "dist", "f.js"] (by decide) (by decide)
  have hbeside := hresolve ["p", "distant", "dist"] (by decide) (by decide)
  exact ⟨(isIgnored_folders hplain ⟨[]⟩ _ _).2 _ _ ["src", "dist", "f.js"] hinside hhome rfl (by decide)
      (by decide),
    (isIgnored_folders hplain ⟨[]⟩ _ _).2 _ _ ["distant", "dist"] hbeside hhome rfl (by decide) (by decide)⟩

end Discover

end Phrasebook
