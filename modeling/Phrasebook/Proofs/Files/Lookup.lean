import Phrasebook.Files.Lookup
import Phrasebook.Proofs.Log

/-! Looking up paths in a file system without links. The way that the names of a path lead is a
relation of its own; it stays open when files are added or replaced. -/

namespace Phrasebook.Store

structure IsLinkless (s : Store) : Prop where
  root : s.item? [] = some .folder
  links : ∀ e ∈ s.items, ∀ t, e.2 ≠ .link t

/-- Where some names lead from a place on when no link is on the way. -/
inductive Leads (s : Store) : List Text → List Text → List Text → Prop
  | here {place : List Text} : Leads s place [] place
  | stay {place rest there : List Text} (hfolder : s.item? place = some .folder)
      (h : Leads s place rest there) : Leads s place ((".": Text) :: rest) there
  | up {place rest there : List Text} (hfolder : s.item? place = some .folder)
      (h : Leads s place.dropLast rest there) : Leads s place ((".." : Text) :: rest) there
  | down {place rest there : List Text} {n : Text} (hfolder : s.item? place = some .folder)
      (hstay : n ≠ ".") (hup : n ≠ "..") (hshort : isLongName n = false)
      (hthere : (s.item? (place ++ [n])).isSome = true) (h : Leads s (place ++ [n]) rest there) :
      Leads s place (n :: rest) there

/-- A file system with the folders of another one, and with something where that has something. -/
structure Keeps (s s' : Store) : Prop where
  folder : ∀ names, s'.item? names = some .folder ↔ s.item? names = some .folder
  something : ∀ names, (s.item? names).isSome = true → (s'.item? names).isSome = true

theorem names_of_ne_nil {p : FilePath} (hne : p.names ≠ []) : p.names = p.parent.names ++ [p.name] := by
  rw [FilePath.parent, FilePath.name, List.getLastD_eq_getLast?, List.getLast?_eq_some_getLast hne,
    Option.getD_some, List.dropLast_concat_getLast hne]

section

variable {s s' : Store} {place names rest there : List Text}

theorem item?_ne_link (hs : s.IsLinkless) (names : List Text) (t : Text) :
    s.item? names ≠ some (.link t) := by
  unfold item?
  cases hentry : s.entry? names with
  | none =>
    dsimp only
    split <;> simp
  | some item =>
    obtain ⟨e, he, rfl⟩ := Option.map_eq_some_iff.1 hentry
    intro h
    exact hs.links e (List.mem_of_find?_eq_some he) t (Option.some.inj h)

theorem walk_cons (hs : s.IsLinkless) (follow : Bool) (links : Nat) (here : List Text) (n : Text)
    (rest : List Text) : s.walk follow links here (n :: rest) =
      if s.item? here ≠ some .folder then .error .notDirectory
      else if n = "." then s.walk follow links here rest
      else if n = ".." then s.walk follow links here.dropLast rest
      else if isLongName n then .error .nameTooLong
      else if s.item? (here ++ [n]) = none then .error .missing
      else s.walk follow links (here ++ [n]) rest := by
  rw [walk.eq_def]
  dsimp only
  by_cases hfolder : s.item? here = some .folder
  · rw [if_neg (by simp [hfolder]), if_neg (Classical.not_not.2 hfolder)]
    by_cases hstay : n = "."
    · rw [if_pos hstay, if_pos hstay]
    rw [if_neg hstay, if_neg hstay]
    by_cases hup : n = ".."
    · rw [if_pos hup, if_pos hup]
    rw [if_neg hup, if_neg hup]
    by_cases hlong : isLongName n = true
    · rw [if_pos hlong, if_pos hlong]
    rw [if_neg hlong, if_neg hlong]
    cases hitem : s.item? (here ++ [n]) with
    | none => rfl
    | some item =>
      cases item with
      | link t => exact absurd hitem (item?_ne_link hs _ t)
      | file content => rfl
      | folder => rfl
  · rw [if_pos (by simpa using hfolder), if_pos hfolder]

theorem walk_eq_ok (hs : s.IsLinkless) {follow : Bool} {links : Nat} :
    s.walk follow links place names = .ok there ↔ Leads s place names there := by
  induction names generalizing place with
  | nil =>
    rw [walk]
    exact ⟨fun h => by cases h; exact .here, fun h => by cases h; rfl⟩
  | cons n rest ih =>
    rw [walk_cons hs]
    constructor
    · intro h
      split at h
      next => cases h
      next hfolder =>
      rw [Classical.not_not] at hfolder
      split at h
      next hstay =>
        subst hstay
        exact .stay hfolder (ih.1 h)
      next hstay =>
      split at h
      next hup =>
        subst hup
        exact .up hfolder (ih.1 h)
      next hup =>
      split at h
      next => cases h
      next hlong =>
      split at h
      next => cases h
      next hthere =>
        exact .down hfolder hstay hup (by simpa using hlong) (Option.isSome_iff_ne_none.2 hthere) (ih.1 h)
    · intro h
      cases h with
      | stay hfolder h =>
        rw [if_neg (Classical.not_not.2 hfolder), if_pos rfl]
        exact ih.2 h
      | up hfolder h =>
        rw [if_neg (Classical.not_not.2 hfolder), if_neg (by decide), if_pos rfl]
        exact ih.2 h
      | down hfolder hstay hup hshort hthere h =>
        rw [if_neg (Classical.not_not.2 hfolder), if_neg hstay, if_neg hup, if_neg (by rw [hshort]; decide),
          if_neg (Option.isSome_iff_ne_none.1 hthere)]
        exact ih.2 h

theorem locate_eq_walk {follow : Bool} {p : FilePath} : s.locate follow p = .ok there ↔
    spellingOf p = .ok () ∧ s.walk follow linkLimit [] p.names = .ok there := by
  unfold locate
  cases spellingOf p with
  | error o =>
    refine ⟨fun h => ?_, fun h => ?_⟩
    · cases h
    · cases h.1
  | ok u => exact ⟨fun h => ⟨rfl, h⟩, fun h => h.2⟩

theorem locate_eq_ok (hs : s.IsLinkless) {follow : Bool} {p : FilePath} :
    s.locate follow p = .ok there ↔ spellingOf p = .ok () ∧ Leads s [] p.names there :=
  locate_eq_walk.trans (and_congr_right fun _ => walk_eq_ok hs)

theorem Leads.of_append {more : List Text} (h : Leads s place (names ++ more) there) :
    ∃ middle, Leads s place names middle ∧ Leads s middle more there := by
  induction names generalizing place with
  | nil => exact ⟨place, .here, h⟩
  | cons n names ih =>
    cases h with
    | stay hfolder h =>
      obtain ⟨middle, hfirst, hrest⟩ := ih h
      exact ⟨middle, .stay hfolder hfirst, hrest⟩
    | up hfolder h =>
      obtain ⟨middle, hfirst, hrest⟩ := ih h
      exact ⟨middle, .up hfolder hfirst, hrest⟩
    | down hfolder hstay hup hshort hthere h =>
      obtain ⟨middle, hfirst, hrest⟩ := ih h
      exact ⟨middle, .down hfolder hstay hup hshort hthere hfirst, hrest⟩

theorem Leads.append {middle more : List Text} (h : Leads s place names middle)
    (h' : Leads s middle more there) : Leads s place (names ++ more) there := by
  induction h with
  | here => exact h'
  | stay hfolder _ ih => exact .stay hfolder (ih h')
  | up hfolder _ ih => exact .up hfolder (ih h')
  | down hfolder hstay hup hshort hthere _ ih => exact .down hfolder hstay hup hshort hthere (ih h')

theorem Leads.keeps (h : Leads s place names there) (hkeeps : Keeps s s') :
    Leads s' place names there := by
  induction h with
  | here => exact .here
  | stay hfolder _ ih => exact .stay ((hkeeps.folder _).2 hfolder) ih
  | up hfolder _ ih => exact .up ((hkeeps.folder _).2 hfolder) ih
  | down hfolder hstay hup hshort hthere _ ih =>
    exact .down ((hkeeps.folder _).2 hfolder) hstay hup hshort (hkeeps.something _ hthere) ih

def InFolders (s : Store) (place : List Text) : Prop :=
  ∀ front, front <+: place → front ≠ place → s.item? front = some .folder

theorem InFolders.concat {n : Text} (h : InFolders s place) (hfolder : s.item? place = some .folder) :
    InFolders s (place ++ [n]) := by
  intro front hle hne
  rcases List.prefix_concat_iff.1 hle with rfl | hle
  · exact (hne rfl).elim
  · by_cases heq : front = place
    · rw [heq]
      exact hfolder
    · exact h front hle heq

theorem InFolders.dropLast (h : InFolders s place) : InFolders s place.dropLast := by
  intro front hle hne
  refine h front (hle.trans (List.dropLast_prefix place)) fun heq => hne ?_
  rw [heq] at hle ⊢
  exact hle.eq_of_length_le (by simp)

theorem Leads.inFolders (h : Leads s place names there) (hplace : InFolders s place) :
    InFolders s there := by
  induction h with
  | here => exact hplace
  | stay _ _ ih => exact ih hplace
  | up _ _ ih => exact ih hplace.dropLast
  | down hfolder _ _ _ _ _ ih => exact ih (hplace.concat hfolder)

theorem inFolders_nil (s : Store) : InFolders s [] :=
  fun _ hle hne => (hne (List.prefix_nil.1 hle)).elim

theorem Leads.of_file {p : FilePath} {content : Bytes} (hs : s.IsLinkless)
    (h : Leads s [] p.names place) (hfile : s.item? place = some (.file content)) :
    ∃ folder, p.names = p.parent.names ++ [p.name] ∧ Leads s [] p.parent.names folder ∧
      s.item? folder = some .folder ∧ place = folder ++ [p.name] ∧ isLongName p.name = false := by
  have hne : p.names ≠ [] := by
    intro hnil
    rw [hnil] at h
    cases h
    rw [hs.root] at hfile
    cases hfile
  have hsplit := names_of_ne_nil hne
  rw [hsplit] at h
  obtain ⟨folder, hparent, hlast⟩ := h.of_append
  generalize hname : p.name = n at hlast
  cases hlast with
  | stay hfolder h =>
    cases h
    cases hfolder.symm.trans hfile
  | up hfolder h =>
    cases h
    have hup : s.item? folder.dropLast = some .folder := by
      by_cases hnil : folder = []
      · rw [hnil]
        exact hs.root
      · refine hparent.inFolders (inFolders_nil s) _ (List.dropLast_prefix folder) fun heq => ?_
        have := congrArg List.length heq
        rw [List.length_dropLast] at this
        have := List.length_pos_iff.2 hnil
        omega
    cases hup.symm.trans hfile
  | down hfolder hstay hup hshort hthere h =>
    cases h
    exact ⟨folder, hsplit.trans (by rw [hname]), hparent, hfolder, rfl, hshort⟩

end

end Phrasebook.Store
