import Phrasebook.Files.Discover
import Phrasebook.Proofs.Lists

/-! What a search for files finds: files, each once, by paths without single dots. -/

namespace Phrasebook.Discover

variable {s : Store}

def HasNoDots (s : Store) : Prop := ∀ e ∈ s.items, (".": Text) ∉ e.1

theorem ne_dot_of_mem_namesBelow (hs : HasNoDots s) {names : List Text} {n : Text}
    (h : n ∈ s.namesBelow names) : n ≠ "." := by
  obtain ⟨e, he, hn⟩ := List.mem_filterMap.1 (List.mem_eraseDups.1 h)
  split at hn
  next =>
    rintro rfl
    exact hs e he (List.mem_of_mem_drop (List.mem_of_mem_head? hn))
  next => cases hn

theorem ne_dot_of_mem_namesIn (hs : HasNoDots s) {foldersOnly : Bool} {folder : FilePath}
    {names : List Text} (h : namesIn s foldersOnly folder = .ok names) :
    ∀ n ∈ names, n ≠ "." := by
  obtain ⟨found, hfound, h⟩ := except_bind_eq_ok.1 h
  have hnames : ∀ n ∈ found, n ≠ "." := by
    obtain ⟨-, -, hfound⟩ := except_bind_eq_ok.1 hfound
    split at hfound
    next here _ =>
      cases hfound
      intro n hn
      split at hn
      next => exact ne_dot_of_mem_namesBelow hs hn
      next => cases hn
    next =>
      cases hfound
      simp
  cases h
  split
  · exact fun n hn => hnames n (List.mem_filter.1 hn).1
  · exact hnames

theorem below_noDots (hs : HasNoDots s) {foldersOnly : Bool} {fuel : Nat} {folder : FilePath}
    {found : List FilePath} (hfolder : (".": Text) ∉ folder.names)
    (h : below s foldersOnly fuel folder = .ok found) : ∀ p ∈ found, (".": Text) ∉ p.names := by
  induction fuel generalizing folder found with
  | zero =>
    cases h
    simp
  | succ fuel ih =>
    rw [below] at h
    obtain ⟨names, hnames, h⟩ := except_bind_eq_ok.1 h
    obtain ⟨lists, hlists, h⟩ := except_bind_eq_ok.1 h
    cases h
    intro p hp
    obtain ⟨list, hlist, hp⟩ := List.mem_flatten.1 hp
    obtain ⟨n, hn, hbelow⟩ := mem_of_mapM hlists list hlist
    obtain ⟨more, hmore, hbelow⟩ := except_bind_eq_ok.1 hbelow
    cases hbelow
    have hchild : (".": Text) ∉ (folder.child n).names := by
      intro hdot
      rcases List.mem_append.1 hdot with hdot | hdot
      · exact hfolder hdot
      · exact ne_dot_of_mem_namesIn hs hnames n (List.mem_filter.1 hn).1 (List.mem_singleton.1 hdot).symm
    rcases List.mem_cons.1 hp with rfl | hp
    · exact hchild
    · exact ih hchild hmore p hp

theorem child_noDots {place : FilePath} {n : Text} (hplace : (".": Text) ∉ place.names)
    (hn : n ≠ ".") : (".": Text) ∉ (place.child n).names := by
  intro hdot
  rcases List.mem_append.1 hdot with hdot | hdot
  · exact hplace hdot
  · exact hn (List.mem_singleton.1 hdot).symm

theorem matching_noDots (hs : HasNoDots s) {foldersOnly : Bool} {place : FilePath} {pattern : Text}
    {found : List FilePath} (hplace : (".": Text) ∉ place.names)
    (h : matching s foldersOnly place pattern = .ok found) :
    ∀ p ∈ found, (".": Text) ∉ p.names := by
  obtain ⟨names, hnames, h⟩ := except_bind_eq_ok.1 h
  cases h
  intro p hp
  obtain ⟨n, hn, rfl⟩ := List.mem_map.1 hp
  exact child_noDots hplace (ne_dot_of_mem_namesIn hs hnames n (List.mem_filter.1 hn).1)

theorem glob_noDots (hs : HasNoDots s) {searching : Bool} {place : FilePath} {names : List Text}
    {found : List FilePath} (hplace : (".": Text) ∉ place.names)
    (h : glob s searching place names = .ok found) : ∀ p ∈ found, (".": Text) ∉ p.names := by
  induction names generalizing searching place found with
  | nil =>
    cases h
    simpa using hplace
  | cons n rest ih =>
    -- From each of some places the names that are left are matched, and what is found put together.
    have hall {places : List FilePath} {lists : List (List FilePath)}
        (hplaces : ∀ p ∈ places, (".": Text) ∉ p.names)
        (h : places.mapM (fun p => glob s true p rest) = .ok lists) :
        ∀ p ∈ lists.flatten, (".": Text) ∉ p.names := by
      intro p hp
      obtain ⟨list, hlist, hp⟩ := List.mem_flatten.1 hp
      obtain ⟨q, hq, hglob⟩ := mem_of_mapM h list hlist
      exact ih (hplaces q hq) hglob p hp
    rw [glob] at h
    split at h
    next =>
      obtain ⟨found', hbelow, h⟩ := except_bind_eq_ok.1 h
      obtain ⟨lists, hlists, h⟩ := except_bind_eq_ok.1 h
      cases h
      exact hall (List.forall_mem_cons.2 ⟨hplace, below_noDots hs hplace hbelow⟩) hlists
    next =>
    split at h
    next =>
      obtain ⟨found', hmatching, h⟩ := except_bind_eq_ok.1 h
      obtain ⟨lists, hlists, h⟩ := except_bind_eq_ok.1 h
      cases h
      exact hall (matching_noDots hs hplace hmatching) hlists
    next =>
    split at h
    next =>
      split at h
      next =>
        cases h
        simp
      next => exact ih hplace h
    next hdot =>
    split at h
    next =>
      cases h
      simp
    next => exact ih (child_noDots hplace hdot) h

theorem exists_of_mem_files {base p : FilePath} {pattern : Text} {ignore : List Json} {files : List FilePath}
    (h : Discover.files s base pattern ignore = .ok files) (hp : p ∈ files) :
    s.isFile p = .ok true ∧ ∃ t found, matchesOf s base t = .ok found ∧ p ∈ found := by
  obtain ⟨lists, hlists, h⟩ := except_bind_eq_ok.1 h
  obtain ⟨hsub, -⟩ := sublist_of_filterM h
  have hperm := List.mergeSort_perm lists.flatten.eraseDups FilePath.le
  have hmem : p ∈ lists.flatten := List.mem_eraseDups.1 (hperm.mem_iff.1 (hsub.subset hp))
  obtain ⟨list, hlist, hp⟩ := List.mem_flatten.1 hmem
  obtain ⟨t, -, ht⟩ := mem_of_mapM hlists list hlist
  obtain ⟨found, hfound, hfilter⟩ := except_bind_eq_ok.1 ht
  obtain ⟨hsub, hfile⟩ := sublist_of_filterM hfilter
  exact ⟨hfile p hp, t, found, hfound, hsub.subset hp⟩

theorem files_spec (hs : HasNoDots s) {base : FilePath} {pattern : Text} {ignore : List Json}
    {files : List FilePath} (h : Discover.files s base pattern ignore = .ok files) :
    files.Nodup ∧ ∀ p ∈ files, s.isFile p = .ok true ∧ (".": Text) ∉ p.names := by
  refine ⟨?_, fun p hp => ?_⟩
  · obtain ⟨lists, -, h⟩ := except_bind_eq_ok.1 h
    obtain ⟨hsub, -⟩ := sublist_of_filterM h
    have hperm := List.mergeSort_perm lists.flatten.eraseDups FilePath.le
    exact hsub.nodup (hperm.nodup_iff.2 (nodup_eraseDups _))
  · obtain ⟨hfile, t, found, hfound, hmem⟩ := exists_of_mem_files h hp
    refine ⟨hfile, ?_⟩
    unfold matchesOf at hfound
    dsimp only at hfound
    split at hfound
    · exact glob_noDots hs (by simp) hfound p hmem
    · exact glob_noDots hs (by simp) hfound p hmem

def isPlain (n : Text) : Bool := n != anyFolders && !isWildcard n && n != "."

theorem glob_of_isPlain {place : FilePath} {names : List Text} (hne : names ≠ [])
    (h : ∀ n ∈ names, isPlain n = true) (hstands : s.stands ⟨place.root, place.names ++ names⟩ = true) :
    glob s false place names = .ok [⟨place.root, place.names ++ names⟩] := by
  induction names generalizing place with
  | nil => exact (hne rfl).elim
  | cons n rest ih =>
    obtain ⟨hn, hrest⟩ := List.forall_mem_cons.1 h
    simp only [isPlain, Bool.and_eq_true, Bool.not_eq_true', bne_iff_ne] at hn
    obtain ⟨⟨hany, hwild⟩, hdot⟩ := hn
    have hsplit : place.names ++ n :: rest = (place.child n).names ++ rest := by simp [FilePath.child]
    rw [glob, if_neg hany, hwild, if_neg Bool.false_ne_true, if_neg hdot]
    cases rest with
    | nil =>
      have hthere : s.stands (place.child n) = true := hstands
      rw [hthere]
      rfl
    | cons m rest =>
      rw [hsplit] at hstands ⊢
      exact ih (List.cons_ne_nil m rest) hrest hstands

theorem filesOf_of_isPlain {base : FilePath} {n : Text} (hn : FilePath.parse n = ⟨0, [n]⟩)
    (h : ∀ m ∈ (base.child n).names, isPlain m = true) (hstands : s.stands (base.child n) = true)
    (hfile : s.isFile (base.child n) = .ok true) : filesOf s base n = .ok [base.child n] := by
  have hmatches : matchesOf s base n = .ok [base.child n] := by
    unfold matchesOf
    dsimp only
    rw [hn]
    show glob s false ⟨base.root, []⟩ (base.names ++ [n]) = _
    exact glob_of_isPlain (by simp) h hstands
  unfold filesOf
  rw [hmatches]
  show [base.child n].filterM s.isFile = _
  simp [List.filterM, List.filterAuxM, hfile]

end Phrasebook.Discover
