import Phrasebook.Proofs.Files.Write

/-! The way that the names of a path lead when links are on it. The way is open as long as nothing
that was there is taken away or replaced. -/

namespace Phrasebook.Store

/-- Where some names lead from a place on, links followed, and how many more links may be. -/
inductive Goes (s : Store) : Nat → List Text → List Text → Nat → List Text → Prop
  | here {links : Nat} {place : List Text} : Goes s links place [] links place
  | stay {links left : Nat} {place rest there : List Text} (hfolder : s.item? place = some .folder)
      (h : Goes s links place rest left there) : Goes s links place ((".": Text) :: rest) left there
  | up {links left : Nat} {place rest there : List Text} (hfolder : s.item? place = some .folder)
      (h : Goes s links place.dropLast rest left there) :
      Goes s links place ((".." : Text) :: rest) left there
  | down {links left : Nat} {place rest there : List Text} {n : Text} {item : Item}
      (hfolder : s.item? place = some .folder) (hstay : n ≠ ".") (hup : n ≠ "..")
      (hshort : isLongName n = false) (hitem : s.item? (place ++ [n]) = some item)
      (hother : ∀ target, item ≠ .link target) (h : Goes s links (place ++ [n]) rest left there) :
      Goes s links place (n :: rest) left there
  | enter {links left : Nat} {place rest there : List Text} {n target : Text}
      (hfolder : s.item? place = some .folder) (hstay : n ≠ ".") (hup : n ≠ "..")
      (hshort : isLongName n = false) (hitem : s.item? (place ++ [n]) = some (.link target))
      (h : Goes s links (if (FilePath.parse target).isAbsolute then [] else place)
        (FilePath.route target ++ rest) left there) :
      Goes s (links + 1) place (n :: rest) left there

section

variable {s s' : Store} {follow : Bool} {links left : Nat} {place names rest there : List Text}
  {n target : Text} {item : Item}

theorem walk_stay (hfolder : s.item? place = some .folder) :
    s.walk follow links place ((".": Text) :: rest) = s.walk follow links place rest := by
  rw [walk.eq_def]
  dsimp only
  rw [if_neg (by simp [hfolder]), if_pos rfl]

theorem walk_up (hfolder : s.item? place = some .folder) :
    s.walk follow links place ((".." : Text) :: rest) = s.walk follow links place.dropLast rest := by
  rw [walk.eq_def]
  dsimp only
  rw [if_neg (by simp [hfolder]), if_neg (by decide), if_pos rfl]

theorem walk_name (hfolder : s.item? place = some .folder) (hstay : n ≠ ".") (hup : n ≠ "..")
    (hshort : isLongName n = false) : s.walk follow links place (n :: rest) =
      match s.item? (place ++ [n]), links with
      | none, _ => .error .missing
      | some (.link target), links =>
        if rest.isEmpty && !follow then .ok (place ++ [n])
        else match links with
          | 0 => .error .tooManyLinks
          | left + 1 => s.walk follow left (if (FilePath.parse target).isAbsolute then [] else place)
              (FilePath.route target ++ rest)
      | some _, links => s.walk follow links (place ++ [n]) rest := by
  rw [walk.eq_def]
  refine (if_neg (by simp [hfolder])).trans ((if_neg hstay).trans ((if_neg hup).trans
    ((if_neg (by simp [hshort])).trans ?_)))
  rcases s.item? (place ++ [n]) with _ | (_ | _ | _) <;> cases links <;> rfl

theorem walk_down (hfolder : s.item? place = some .folder) (hstay : n ≠ ".") (hup : n ≠ "..")
    (hshort : isLongName n = false) (hitem : s.item? (place ++ [n]) = some item)
    (hother : ∀ target, item ≠ .link target) :
    s.walk follow links place (n :: rest) = s.walk follow links (place ++ [n]) rest := by
  rw [walk_name hfolder hstay hup hshort, hitem]
  cases item with
  | link target => exact (hother target rfl).elim
  | file content => rfl
  | folder => rfl

theorem walk_enter (hfolder : s.item? place = some .folder) (hstay : n ≠ ".") (hup : n ≠ "..")
    (hshort : isLongName n = false) (hitem : s.item? (place ++ [n]) = some (.link target))
    (hgo : rest ≠ [] ∨ follow = true) : s.walk follow (links + 1) place (n :: rest) =
      s.walk follow links (if (FilePath.parse target).isAbsolute then [] else place)
        (FilePath.route target ++ rest) := by
  rw [walk_name hfolder hstay hup hshort, hitem]
  dsimp only
  rw [if_neg]
  rcases hgo with hgo | hgo
  · simp [hgo]
  · simp [hgo]

theorem exists_goes (h : s.walk true links place names = .ok there) :
    ∃ left, Goes s links place names left there := by
  induction links, place, names using walk.induct s true with
  | case1 links place =>
    rw [walk] at h
    cases h
    exact ⟨links, .here⟩
  | case2 links place n rest hfolder =>
    rw [walk.eq_def] at h
    dsimp only at h
    rw [if_pos hfolder] at h
    cases h
  | case3 links place rest hfolder ih =>
    replace hfolder : s.item? place = some .folder := by simpa using hfolder
    rw [walk_stay hfolder] at h
    obtain ⟨left, hrest⟩ := ih h
    exact ⟨left, .stay hfolder hrest⟩
  | case4 links place rest hfolder _ ih =>
    replace hfolder : s.item? place = some .folder := by simpa using hfolder
    rw [walk_up hfolder] at h
    obtain ⟨left, hrest⟩ := ih h
    exact ⟨left, .up hfolder hrest⟩
  | case5 links place n rest hfolder hstay hup hlong =>
    rw [walk.eq_def] at h
    dsimp only at h
    rw [if_neg hfolder, if_neg hstay, if_neg hup, if_pos hlong] at h
    cases h
  | case6 links place n rest hfolder hstay hup hshort hnone =>
    rw [walk_name (by simpa using hfolder) hstay hup (by simpa using hshort), hnone] at h
    cases h
  | case7 place n rest hfolder hstay hup hshort target links hitem hlast => simp at hlast
  | case8 place n rest hfolder hstay hup hshort target hitem hgo =>
    rw [walk_name (by simpa using hfolder) hstay hup (by simpa using hshort), hitem] at h
    dsimp only at h
    rw [if_neg hgo] at h
    cases h
  | case9 place n rest hfolder hstay hup hshort target hitem _ links t ih =>
    replace hfolder : s.item? place = some .folder := by simpa using hfolder
    replace hshort : isLongName n = false := by simpa using hshort
    rw [walk_enter hfolder hstay hup hshort hitem (.inr rfl)] at h
    obtain ⟨left, hrest⟩ := ih h
    exact ⟨left, .enter hfolder hstay hup hshort hitem hrest⟩
  | case10 place n rest hfolder hstay hup hshort item links hother hitem ih =>
    replace hfolder : s.item? place = some .folder := by simpa using hfolder
    replace hshort : isLongName n = false := by simpa using hshort
    rw [walk_down hfolder hstay hup hshort hitem hother] at h
    obtain ⟨left, hrest⟩ := ih h
    exact ⟨left, .down hfolder hstay hup hshort hitem hother hrest⟩

theorem Goes.walk_append (h : Goes s links place names left there) (hgo : rest ≠ [] ∨ follow = true) :
    s.walk follow links place (names ++ rest) = s.walk follow left there rest := by
  induction h with
  | here => rfl
  | stay hfolder _ ih =>
    rw [List.cons_append, walk_stay hfolder]
    exact ih
  | up hfolder _ ih =>
    rw [List.cons_append, walk_up hfolder]
    exact ih
  | down hfolder hstay hup hshort hitem hother _ ih =>
    rw [List.cons_append, walk_down hfolder hstay hup hshort hitem hother]
    exact ih
  | enter hfolder hstay hup hshort hitem _ ih =>
    rw [List.cons_append, walk_enter hfolder hstay hup hshort hitem (hgo.imp_left fun hne => by simp [hne]),
      ← List.append_assoc]
    exact ih

theorem Goes.walk (h : Goes s links place names left there) :
    s.walk true links place names = .ok there := by
  have hwalk : s.walk true links place (names ++ []) = s.walk true left there [] :=
    h.walk_append (.inr rfl)
  rwa [List.append_nil, Store.walk] at hwalk

theorem Goes.of_append (h : Goes s links place (names ++ rest) left there) :
    ∃ links' middle, Goes s links place names links' middle ∧ Goes s links' middle rest left there := by
  generalize hall : names ++ rest = all at h
  induction h generalizing names with
  | here =>
    obtain ⟨rfl, rfl⟩ := List.append_eq_nil_iff.1 hall
    exact ⟨_, _, .here, .here⟩
  | stay hfolder h ih =>
    rcases List.append_eq_cons_iff.1 hall with ⟨rfl, rfl⟩ | ⟨names, rfl, hrest⟩
    · exact ⟨_, _, .here, .stay hfolder h⟩
    · obtain ⟨_, _, hfirst, hlast⟩ := ih hrest.symm
      exact ⟨_, _, .stay hfolder hfirst, hlast⟩
  | up hfolder h ih =>
    rcases List.append_eq_cons_iff.1 hall with ⟨rfl, rfl⟩ | ⟨names, rfl, hrest⟩
    · exact ⟨_, _, .here, .up hfolder h⟩
    · obtain ⟨_, _, hfirst, hlast⟩ := ih hrest.symm
      exact ⟨_, _, .up hfolder hfirst, hlast⟩
  | down hfolder hstay hup hshort hitem hother h ih =>
    rcases List.append_eq_cons_iff.1 hall with ⟨rfl, rfl⟩ | ⟨names, rfl, hrest⟩
    · exact ⟨_, _, .here, .down hfolder hstay hup hshort hitem hother h⟩
    · obtain ⟨_, _, hfirst, hlast⟩ := ih hrest.symm
      exact ⟨_, _, .down hfolder hstay hup hshort hitem hother hfirst, hlast⟩
  | enter hfolder hstay hup hshort hitem h ih =>
    rcases List.append_eq_cons_iff.1 hall with ⟨rfl, rfl⟩ | ⟨names, rfl, hrest⟩
    · exact ⟨_, _, .here, .enter hfolder hstay hup hshort hitem h⟩
    · obtain ⟨_, _, hfirst, hlast⟩ := ih (by rw [hrest, List.append_assoc])
      exact ⟨_, _, .enter hfolder hstay hup hshort hitem hfirst, hlast⟩

theorem Goes.inFolders (h : Goes s links place names left there) (hplace : InFolders s place) :
    InFolders s there := by
  induction h with
  | here => exact hplace
  | stay _ _ ih => exact ih hplace
  | up _ _ ih => exact ih hplace.dropLast
  | down hfolder _ _ _ _ _ _ ih => exact ih (hplace.concat hfolder)
  | enter _ _ _ _ _ _ ih =>
    refine ih ?_
    split
    · exact inFolders_nil _
    · exact hplace

def Retains (s s' : Store) : Prop := ∀ names item, s.item? names = some item → s'.item? names = some item

theorem Goes.retains (h : Goes s links place names left there) (hkept : Retains s s') :
    Goes s' links place names left there := by
  induction h with
  | here => exact .here
  | stay hfolder _ ih => exact .stay (hkept _ _ hfolder) ih
  | up hfolder _ ih => exact .up (hkept _ _ hfolder) ih
  | down hfolder hstay hup hshort hitem hother _ ih =>
    exact .down (hkept _ _ hfolder) hstay hup hshort (hkept _ _ hitem) hother ih
  | enter hfolder hstay hup hshort hitem _ ih =>
    exact .enter (hkept _ _ hfolder) hstay hup hshort (hkept _ _ hitem) ih

end

end Phrasebook.Store
