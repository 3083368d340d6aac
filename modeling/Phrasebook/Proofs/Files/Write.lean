import Phrasebook.Files.Write
import Phrasebook.Proofs.Files.Lookup

/-! Writing a file in a folder that is there. Either nothing changes, or the one item does. -/

namespace Phrasebook

theorem le_foldl_add (ns : List Nat) (k : Nat) : k ≤ ns.foldl (· + ·) k := by
  induction ns generalizing k with
  | nil => exact Nat.le_refl k
  | cons n ns ih => exact Nat.le_trans (Nat.le_add_right k n) (ih (k + n))

theorem le_foldl_max {ks : List Nat} {k m : Nat} (h : m ≤ k ∨ m ∈ ks) : m ≤ ks.foldl max k := by
  induction ks generalizing k with
  | nil => simpa using h
  | cons j ks ih =>
    refine ih ?_
    rcases h with h | h
    · exact .inl (Nat.le_trans h (Nat.le_max_left k j))
    · rcases List.mem_cons.1 h with rfl | h
      · exact .inl (Nat.le_max_right k m)
      · exact .inr h

theorem Text.nameOctets?_of_prefix {t t' : Text} {n : Nat} (hle : t <+: t')
    (h : t'.nameOctets? = some n) : ∃ m, t.nameOctets? = some m ∧ m ≤ n := by
  obtain ⟨more, rfl⟩ := hle
  unfold Text.nameOctets? at h ⊢
  obtain ⟨octets, hoctets, rfl⟩ := Option.map_eq_some_iff.1 h
  rw [List.mapM_append] at hoctets
  obtain ⟨ns, hns, hoctets⟩ := Option.bind_eq_some_iff.1 hoctets
  obtain ⟨ms, -, hoctets⟩ := Option.bind_eq_some_iff.1 hoctets
  cases hoctets
  refine ⟨_, by rw [hns]; rfl, ?_⟩
  rw [List.foldl_append]
  exact le_foldl_add ms _

theorem Text.join_prefix (sep : Text) (pieces : List Text) (last : Text) :
    Text.join sep pieces <+: Text.join sep (pieces ++ [last]) := by
  induction pieces with
  | nil => exact List.nil_prefix
  | cons a pieces ih =>
    cases pieces with
    | nil => exact ⟨sep ++ last, by simp [Text.join, List.intercalate_cons_cons]⟩
    | cons b pieces =>
      simp only [Text.join, List.cons_append, List.intercalate_cons_cons] at ih ⊢
      exact (List.prefix_append_right_inj _).2 ih

namespace Store

theorem spellingOf_eq_ok {p : FilePath} : spellingOf p = .ok () ↔
    ∃ octets, p.toText.nameOctets? = some octets ∧ (∀ c ∈ p.toText, c.val ≠ 0) ∧
      octets < pathLimit := by
  unfold spellingOf
  cases hoctets : p.toText.nameOctets? with
  | none => simp
  | some octets =>
    dsimp only
    by_cases hnull : (p.toText.any fun c => c.val == 0) = true
    · rw [if_pos hnull]
      refine ⟨fun h => (by cases h), fun ⟨_, _, h, _⟩ => ?_⟩
      obtain ⟨c, hc, hzero⟩ := List.any_eq_true.1 hnull
      exact (h c hc (by simpa using hzero)).elim
    · rw [if_neg hnull]
      have hchars : ∀ c ∈ p.toText, c.val ≠ 0 := fun c hc hzero =>
        hnull (List.any_eq_true.2 ⟨c, hc, by simpa using hzero⟩)
      by_cases hlong : pathLimit ≤ octets
      · rw [if_pos hlong]
        refine ⟨fun h => (by cases h), fun ⟨m, hm, _, h⟩ => ?_⟩
        cases hm
        omega
      · rw [if_neg hlong]
        exact ⟨fun _ => ⟨octets, rfl, hchars, by omega⟩, fun _ => rfl⟩

theorem cases_spellingOf {p : FilePath} {o : Obstacle} (h : spellingOf p = .error o) :
    o = .unencodable ∨ o = .nullCharacter ∨ o = .nameTooLong := by
  unfold spellingOf at h
  split at h
  next =>
    cases h
    exact .inl rfl
  next =>
    split at h
    next =>
      cases h
      exact .inr (.inl rfl)
    next =>
      split at h
      next =>
        cases h
        exact .inr (.inr rfl)
      next => cases h

theorem spellingOf_parent {p : FilePath} (hsplit : p.names = p.parent.names ++ [p.name])
    (h : spellingOf p = .ok ()) : spellingOf p.parent = .ok () := by
  by_cases hdot : p.parent.toText = "."
  · rw [spellingOf_eq_ok, hdot]
    exact ⟨1, by decide, by decide, by decide⟩
  · have hle : p.parent.toText <+: p.toText := by
      unfold FilePath.toText at hdot ⊢
      have hroot : p.parent.root = p.root := rfl
      rw [hroot] at hdot ⊢
      split at hdot
      next => exact (hdot rfl).elim
      next hne =>
        rw [if_neg hne, if_neg (by rw [hsplit]; simp), hsplit]
        exact (List.prefix_append_right_inj _).2 (Text.join_prefix _ _ _)
    obtain ⟨octets, hoctets, hchars, hlt⟩ := spellingOf_eq_ok.1 h
    obtain ⟨m, hm, hmle⟩ := Text.nameOctets?_of_prefix hle hoctets
    exact spellingOf_eq_ok.2 ⟨m, hm, fun c hc => hchars c (hle.subset hc), by omega⟩

section

variable {s s' : Store} {target folder names : List Text} {content : Bytes}

theorem entry?_put (s : Store) (target names : List Text) (item : Item) :
    entry? (s.put target item) names = if names = target then some item else s.entry? names := by
  unfold entry? put
  rw [List.find?_append, List.find?_filter]
  by_cases heq : names = target
  · subst heq
    rw [if_pos rfl]
    rw [List.find?_eq_none.2 fun e _ => by by_cases he : e.1 = names <;> simp [he]]
    simp
  · rw [if_neg heq]
    have hsame : (fun e : List Text × Item =>
        decide ((e.1 != target) = true ∧ (e.1 == names) = true)) = fun e => e.1 == names := by
      funext e
      by_cases he : e.1 = names
      · simp [he, heq]
      · simp [he]
    rw [hsame]
    have hother : ¬ (target == names) = true := by simpa using fun h => heq h.symm
    simp [hother]

theorem item?_put (hfolders : InFolders s target) (item : Item) (names : List Text) :
    (s.put target item).item? names =
      if names = target then some item else s.item? names := by
  unfold item?
  rw [entry?_put]
  by_cases heq : names = target
  · rw [if_pos heq, if_pos heq]
  rw [if_neg heq, if_neg heq]
  cases hentry : s.entry? names with
  | some item => rfl
  | none =>
    dsimp only
    have hbelow : (names.isEmpty || (s.put target item).hasBelow names) =
        (names.isEmpty || s.hasBelow names) := by
      by_cases hle : names <+: target
      · -- The names lead to a folder, so they are empty or something is below them already.
        have hfolder := hfolders names hle heq
        unfold item? at hfolder
        rw [hentry] at hfolder
        dsimp only at hfolder
        have hbefore : (names.isEmpty || s.hasBelow names) = true := by
          cases hb : names.isEmpty || s.hasBelow names with
          | true => rfl
          | false =>
            rw [hb] at hfolder
            cases hfolder
        rw [hbefore]
        have hafter : (s.put target item).hasBelow names = true := by
          refine List.any_eq_true.2 ⟨(target, item), by simp [put], ?_⟩
          simpa using ⟨hle, fun h => heq h.symm⟩
        rw [hafter, Bool.or_true]
      · congr 1
        unfold hasBelow put
        rw [List.any_append, List.any_filter]
        have hnot : names.isPrefixOf target = false := by
          rw [← Bool.not_eq_true, List.isPrefixOf_iff_prefix]
          exact hle
        have hsame : (fun e : List Text × Item => e.1 != target &&
            (names.isPrefixOf e.1 && e.1 != names)) = fun e => names.isPrefixOf e.1 && e.1 != names := by
          funext e
          by_cases he : e.1 = target
          · rw [he, hnot]
            simp
          · simp [he]
        rw [hsame]
        simp [hnot]
    rw [hbelow]

theorem erase_put (h : ∀ e ∈ s.items, e.1 ≠ target) (item : Item) :
    (s.put target item).erase target = s := by
  unfold erase put
  have hall : s.items.filter (fun e => e.1 != target) = s.items :=
    List.filter_eq_self.2 fun e he => by simpa using h e he
  rw [List.filter_append, hall, hall]
  simp

theorem IsLinkless.put (hs : s.IsLinkless) (hfolders : InFolders s target) (hne : target ≠ [])
    (content : Bytes) : (s.put target (.file content)).IsLinkless where
  root := by
    rw [item?_put hfolders, if_neg hne.symm]
    exact hs.root
  links e he t := by
    rcases List.mem_append.1 he with he | he
    · exact hs.links e (List.mem_filter.1 he).1 t
    · rw [List.mem_singleton.1 he]
      exact fun h => by cases h

theorem keeps_put (hfolders : InFolders s target) (hitem : s.item? target ≠ some .folder)
    (content : Bytes) : Keeps s (s.put target (.file content)) where
  folder names := by
    rw [item?_put hfolders]
    split
    next heq =>
      rw [heq]
      exact ⟨fun h => (by cases h), fun h => (hitem h).elim⟩
    next => exact Iff.rfl
  something names h := by
    rw [item?_put hfolders]
    split
    · rfl
    · exact h

theorem Keeps.refl (s : Store) : Keeps s s := ⟨fun _ => Iff.rfl, fun _ h => h⟩

theorem Keeps.trans {s'' : Store} (h : Keeps s s') (h' : Keeps s' s'') : Keeps s s'' :=
  ⟨fun names => (h'.folder names).trans (h.folder names),
    fun names hn => h'.something names (h.something names hn)⟩

theorem length_le_longestName {e : List Text × Item} (he : e ∈ s.items) {n : Text} (hn : n ∈ e.1) :
    n.length ≤ s.longestName := by
  have hmem : n.length ∈ (s.items.flatMap fun e => e.1).map List.length :=
    List.mem_map_of_mem (List.mem_flatMap.2 ⟨e, he, hn⟩)
  exact le_foldl_max (.inr hmem)

theorem ne_temporary (folder : List Text) {e : List Text × Item} (he : e ∈ s.items) :
    ¬ folder ++ [s.freshName] <+: e.1 := by
  intro hle
  have hlength := length_le_longestName he
    (hle.subset (List.mem_append_right folder (List.mem_singleton_self s.freshName)))
  have hfresh : s.freshName.length = 3 + s.longestName := by
    rw [freshName, List.length_append, List.length_replicate]
    rfl
  omega

theorem item?_temporary (s : Store) (folder : List Text) :
    s.item? (folder ++ [s.freshName]) = none := by
  have hentry : s.entry? (folder ++ [s.freshName]) = none := by
    rw [ entry?, Option.map_eq_none_iff, List.find?_eq_none]
    intro e he heq
    exact ne_temporary folder he (eq_of_beq heq ▸ List.prefix_rfl)
  have hbelow : s.hasBelow (folder ++ [s.freshName]) = false := by
    rw [hasBelow, List.any_eq_false]
    intro e he h
    exact ne_temporary folder he (List.isPrefixOf_iff_prefix.1 (Bool.and_eq_true_iff.1 h).1)
  rw [item?, hentry]
  simp [hbelow]

/-- What is put at a path when a text is written to it, or the fault of that; `there` is what is at the
path before. -/
def replacement (refusals : Refusals) (p : FilePath) (t : Text) (there : Option Item) :
    Except Fault Bytes := do
  checkSpelling p
  refuse (refusals p .create)
  let bytes ← Utf8.encode t
  refuse (refusals p .write)
  refuse (refusals p .sync)
  refuse (refusals p .replace)
  if isTooLong p then .error (.system (.nameTooLong p.toText))
  else if isDots p.name then .error (.system (.busy p.toText))
  else if there = some .folder then .error (.system (.isDirectory p.toText))
  else return bytes

theorem replaceFault?_written (hfolders : InFolders s folder)
    (hfolder : s.item? folder = some .folder) (p : FilePath) (bytes : Bytes) :
    (s.put (folder ++ [s.freshName]) (.file bytes)).replaceFault? p (folder ++ [p.name]) =
      s.replaceFault? p (folder ++ [p.name]) := by
  have hfolders' : InFolders s (folder ++ [s.freshName]) := hfolders.concat hfolder
  unfold replaceFault?
  rw [item?_put hfolders']
  split
  · rfl
  split
  · rfl
  · by_cases heq : folder ++ [p.name] = folder ++ [s.freshName]
    · rw [if_pos heq, heq, item?_temporary]
      simp
    · rw [if_neg heq]

theorem run_takePlace (refusals : Refusals) (p : FilePath) (temporary target : List Text) (bytes : Bytes)
    (d : Draft) : (takePlace refusals p temporary target bytes).run.run d =
      match refusals p .replace, d.store.replaceFault? p target with
      | some fault, _ => (.error (.system fault), d)
      | none, some fault => (.error (.system fault), d)
      | none, none => (.ok (), ⟨(d.store.erase temporary).put target (.file bytes), none⟩) := by
  unfold takePlace
  cases refusals p .replace with
  | some fault => rfl
  | none =>
  change (do
    refuse (d.store.replaceFault? p target)
    modify fun d => ⟨(d.store.erase temporary).put target (.file bytes), none⟩ :
      ExceptT Fault (StateM Draft) Unit).run.run d = _
  cases d.store.replaceFault? p target <;> rfl

theorem put_put (s : Store) (names : List Text) (item item' : Item) :
    (s.put names item).put names item' = s.put names item' := by
  unfold put
  rw [List.filter_append, List.filter_filter]
  simp

theorem replaceFile_eq (hfolders : InFolders s folder) (hfolder : s.item? folder = some .folder)
    (refusals : Refusals) {p : FilePath} (hspelling : checkSpelling p = .ok ()) (t : Text) :
    s.replaceFile refusals p folder t =
      match replacement refusals p t (s.item? (folder ++ [p.name])) with
      | .ok bytes => (s.put (folder ++ [p.name]) (.file bytes), .ok ())
      | .error fault => (s, .error fault) := by
  have hgone (item : Item) : (s.put (folder ++ [s.freshName]) item).erase (folder ++ [s.freshName]) = s :=
    erase_put (fun e he heq => ne_temporary folder he (heq ▸ List.prefix_rfl)) item
  -- Wherever the steps fail after the new file was made, the clean-up gives the store back.
  have hclean (item : Item) : Draft.cleanUp
      ⟨s.put (folder ++ [s.freshName]) item, some (folder ++ [s.freshName])⟩ = s := by
    unfold Draft.cleanUp
    dsimp only
    rw [item?_put (hfolders.concat hfolder), if_pos rfl]
    exact hgone item
  have hrefill (bytes : Bytes) : (s.put (folder ++ [s.freshName]) (.file [])).put
      (folder ++ [s.freshName]) (.file bytes) = s.put (folder ++ [s.freshName]) (.file bytes) :=
    put_put s _ _ _
  unfold replaceFile bracket fillAndReplace replacement
  rw [hspelling]
  cases refusals p .create with
  | some fault => rfl
  | none =>
  cases Utf8.encode t with
  | error fault => exact congrArg (·, _) (hclean _)
  | ok bytes =>
  have hfilled : Draft.cleanUp ⟨(s.put (folder ++ [s.freshName]) (.file [])).put
      (folder ++ [s.freshName]) (.file bytes), some (folder ++ [s.freshName])⟩ = s := by
    rw [hrefill, hclean]
  cases refusals p .write with
  | some fault => exact congrArg (·, _) hfilled
  | none =>
  cases refusals p .sync with
  | some fault => exact congrArg (·, _) hfilled
  | none =>
  have hfault : ((s.put (folder ++ [s.freshName]) (.file [])).put (folder ++ [s.freshName])
      (.file bytes)).replaceFault? p (folder ++ [p.name]) = s.replaceFault? p (folder ++ [p.name]) := by
    rw [hrefill, replaceFault?_written hfolders hfolder]
  change (fun ended : Except Fault Unit × Draft => (ended.2.cleanUp, ended.1))
    ((takePlace refusals p (folder ++ [s.freshName]) (folder ++ [p.name]) bytes).run.run
      ⟨(s.put (folder ++ [s.freshName]) (.file [])).put (folder ++ [s.freshName]) (.file bytes),
        some (folder ++ [s.freshName])⟩) = _
  rw [run_takePlace]
  dsimp only
  rw [hfault]
  cases refusals p .replace with
  | some fault => exact congrArg (·, _) hfilled
  | none =>
  unfold replaceFault?
  cases isTooLong p with
  | true => exact congrArg (·, _) hfilled
  | false =>
  cases isDots p.name with
  | true => exact congrArg (·, _) hfilled
  | false =>
  by_cases hthere : s.item? (folder ++ [p.name]) = some .folder
  · rw [hthere]
    exact congrArg (·, _) hfilled
  · simp only [if_neg hthere]
    rw [hrefill, hgone]
    rfl

theorem find_of_leads (hs : s.IsLinkless) {p : FilePath} {place : List Text} {item : Item}
    (hspelling : spellingOf p = .ok ()) (h : Leads s [] p.names place)
    (hitem : s.item? place = some item) : s.find p = .ok item := by
  unfold find
  rw [(locate_eq_ok hs).2 ⟨hspelling, h⟩]
  show s.itemAt place = .ok item
  rw [itemAt, hitem]

theorem settleFolder_of_folder (hs : s.IsLinkless) {p : FilePath} (hspelling : spellingOf p = .ok ())
    (h : Leads s [] p.names folder) (hfolder : s.item? folder = some .folder) (fault : SystemFault) :
    s.settleFolder p (.system fault) = .ok () := by
  have hthere : s.isFolder p = .ok true := by
    unfold isFolder
    rw [find_of_leads hs hspelling h hfolder]
    rfl
  unfold settleFolder
  rw [hthere]
  rfl

theorem makeFolder_of_folder (hs : s.IsLinkless) {p : FilePath} (hspelling : spellingOf p = .ok ())
    (h : Leads s [] p.names folder) (hfolder : s.item? folder = some .folder)
    (hdots : (".": Text) ∉ p.names) (hne : p.names ≠ []) :
    s.makeFolder p = .error (.system (.exists p.toText)) := by
  have hsplit : p.names = p.names.dropLast ++ [p.name] := names_of_ne_nil hne
  have hname : p.name ∈ p.names := by
    rw [hsplit]
    exact List.mem_append_right _ (List.mem_singleton_self _)
  rw [hsplit] at h
  obtain ⟨above, habove, hlast⟩ := h.of_append
  have hwalk : s.walk true linkLimit [] p.names.dropLast = .ok above := (walk_eq_ok hs).2 habove
  have hnil : p.names.isEmpty = false := by simpa using hne
  have hmap {α : Type} (a : α) : (Except.ok a : Except Obstacle α).mapError (Obstacle.fault p) = .ok a := rfl
  unfold makeFolder
  rw [hspelling, hwalk, hnil, hmap, hmap]
  have hdot : p.name ≠ "." := fun heq => hdots (heq ▸ hname)
  generalize p.name = n at hlast hdot
  cases hlast with
  | stay => exact (hdot rfl).elim
  | up habove' h =>
    simp only [bind, Except.bind, habove']
    rfl
  | down habove' hstay hup hshort hthere h =>
    cases h
    simp only [bind, Except.bind, habove', if_neg hup, hshort, hthere]
    rfl

theorem makeFolders_of_folder (hs : s.IsLinkless) {p : FilePath} (hspelling : spellingOf p = .ok ())
    (h : Leads s [] p.names folder) (hfolder : s.item? folder = some .folder)
    (hdots : (".": Text) ∉ p.names) : s.makeFolders p = (s, .ok ()) := by
  have hsettle (fault : SystemFault) := settleFolder_of_folder hs hspelling h hfolder fault
  unfold makeFolders
  by_cases hne : p.names = []
  · have hp : p = ⟨p.root, []⟩ := by
      rw [← hne]
    rw [hne, List.reverse_nil, makeFoldersFrom, ← hp, hsettle]
  · obtain ⟨n, above, hrev⟩ := List.exists_cons_of_ne_nil (List.reverse_ne_nil_iff.2 hne)
    have hp : (⟨p.root, (n :: above).reverse⟩ : FilePath) = p := by
      rw [← hrev, List.reverse_reverse]
    rw [hrev, makeFoldersFrom, hp, makeFolder_of_folder hs hspelling h hfolder hdots hne]
    dsimp only
    rw [hsettle]

structure IsFolder (s : Store) (p : FilePath) (folder : List Text) : Prop where
  spelling : spellingOf p = .ok ()
  leads : Leads s [] p.names folder
  folder : s.item? folder = some .folder
  dots : (".": Text) ∉ p.names

theorem atomicWrite_eq (hs : s.IsLinkless) (refusals : Refusals) {p : FilePath}
    (hparent : IsFolder s p.parent folder) (t : Text) :
    s.atomicWrite refusals p t =
      match replacement refusals p t (s.item? (folder ++ [p.name])) with
      | .ok bytes => (s.put (folder ++ [p.name]) (.file bytes), .ok ())
      | .error fault => (s, .error fault) := by
  obtain ⟨hspelling, hleads, hfolder, hdots⟩ := hparent
  have hlocate : s.locate true p.parent = .ok folder := (locate_eq_ok hs).2 ⟨hspelling, hleads⟩
  unfold atomicWrite
  rw [makeFolders_of_folder hs hspelling hleads hfolder hdots]
  dsimp only
  rw [hlocate]
  cases hcheck : checkSpelling p with
  | error fault =>
    unfold replacement
    rw [hcheck]
    rfl
  | ok u => exact replaceFile_eq (hleads.inFolders (inFolders_nil s)) hfolder refusals hcheck t

theorem refuse_eq_ok {o : Option SystemFault} : refuse o = .ok () ↔ o = none := by
  cases o <;> simp [refuse]

theorem spelling_and_short_iff {p : FilePath} : spellingOf p = .ok () ∧ isLongName p.name = false ↔
    checkSpelling p = .ok () ∧ isTooLong p = false := by
  unfold checkSpelling isTooLong
  cases hspelling : spellingOf p with
  | ok u => simp
  | error o => rcases cases_spellingOf hspelling with rfl | rfl | rfl <;> simp

theorem replacement_eq_ok {refusals : Refusals} {p : FilePath} {t : Text} {there : Option Item}
    {bytes : Bytes} : replacement refusals p t there = .ok bytes ↔
      spellingOf p = .ok () ∧ isLongName p.name = false ∧ Utf8.encode t = .ok bytes ∧
        there ≠ some .folder ∧ isDots p.name = false ∧ ∀ step, refusals p step = none := by
  constructor
  · intro h
    unfold replacement at h
    obtain ⟨u, hcheck, h⟩ := except_bind_eq_ok.1 h
    obtain ⟨_, hcreate, h⟩ := except_bind_eq_ok.1 h
    obtain ⟨bytes', hbytes, h⟩ := except_bind_eq_ok.1 h
    obtain ⟨_, hwrite, h⟩ := except_bind_eq_ok.1 h
    obtain ⟨_, hsync, h⟩ := except_bind_eq_ok.1 h
    obtain ⟨_, hreplace, h⟩ := except_bind_eq_ok.1 h
    split at h
    next => cases h
    next hlong =>
    split at h
    next => cases h
    next hown =>
    split at h
    next => cases h
    next hthere =>
    cases h
    obtain ⟨hspelling, hshort⟩ := spelling_and_short_iff.2 ⟨hcheck, by simpa using hlong⟩
    refine ⟨hspelling, hshort, hbytes, hthere, by simpa using hown, fun step => ?_⟩
    cases step with
    | create => exact refuse_eq_ok.1 hcreate
    | write => exact refuse_eq_ok.1 hwrite
    | sync => exact refuse_eq_ok.1 hsync
    | replace => exact refuse_eq_ok.1 hreplace
  · rintro ⟨hspelling, hshort, hbytes, hthere, hown, hnone⟩
    obtain ⟨hcheck, hlong⟩ := spelling_and_short_iff.1 ⟨hspelling, hshort⟩
    unfold replacement
    simp only [hcheck, hnone, hbytes, hlong, hown, if_neg hthere]
    rfl
/-- A file that a path leads to. -/
structure HasFile (s : Store) (p : FilePath) (place : List Text) (content : Bytes) : Prop where
  spelling : spellingOf p = .ok ()
  leads : Leads s [] p.names place
  file : s.item? place = some (.file content)
  dots : (".": Text) ∉ p.names

namespace HasFile

variable {p q : FilePath} {place : List Text}

theorem locate (hs : s.IsLinkless) (h : HasFile s p place content) (follow : Bool) :
    s.locate follow p = .ok place := (locate_eq_ok hs).2 ⟨h.spelling, h.leads⟩

theorem find (hs : s.IsLinkless) (h : HasFile s p place content) : s.find p = .ok (.file content) :=
  find_of_leads hs h.spelling h.leads h.file

theorem read (hs : s.IsLinkless) (h : HasFile s p place content) : s.read p = .ok content := by
  unfold Store.read
  rw [h.find hs]

theorem isLink (hs : s.IsLinkless) (h : HasFile s p place content) : s.isLink p = .ok false := by
  unfold Store.isLink peek
  rw [h.locate hs]
  show holds p (s.itemAt place) _ = _
  rw [itemAt, h.file]
  rfl

theorem isFile (hs : s.IsLinkless) (h : HasFile s p place content) : s.isFile p = .ok true := by
  unfold Store.isFile
  rw [h.find hs]
  rfl

theorem stands (hs : s.IsLinkless) (h : HasFile s p place content) : s.stands p = true := by
  unfold Store.stands peek
  rw [h.locate hs]
  show (s.itemAt place).toOption.isSome = true
  rw [itemAt, h.file]
  rfl

theorem keeps (h : HasFile s p place content) (hkeeps : Keeps s s') {content' : Bytes}
    (hfile : s'.item? place = some (.file content')) : HasFile s' p place content' :=
  ⟨h.spelling, h.leads.keeps hkeeps, hfile, h.dots⟩

theorem exists_folder (hs : s.IsLinkless) (h : HasFile s p place content) :
    ∃ folder, p.names = p.parent.names ++ [p.name] ∧ IsFolder s p.parent folder ∧
      place = folder ++ [p.name] := by
  obtain ⟨folder, hsplit, hparent, hfolder, hplace, -⟩ := h.leads.of_file hs h.file
  refine ⟨folder, hsplit, ⟨spellingOf_parent hsplit h.spelling, hparent, hfolder, fun hdot => ?_⟩, hplace⟩
  exact h.dots ((List.dropLast_prefix p.names).subset hdot)

theorem inFolders (h : HasFile s p place content) : InFolders s place :=
  h.leads.inFolders (inFolders_nil s)

end HasFile

theorem exists_hasFile (hs : s.IsLinkless) {p : FilePath} (h : s.isFile p = .ok true)
    (hdots : (".": Text) ∉ p.names) : ∃ place content, HasFile s p place content := by
  unfold isFile find at h
  cases hlocate : s.locate true p with
  | error o =>
    rw [hlocate] at h
    replace h : (if o.isAbsence then Except.ok false else .error (o.fault p)) = .ok true := h
    split at h
    next => cases h
    next => cases h
  | ok place =>
    rw [hlocate] at h
    replace h : holds p (s.itemAt place) _ = .ok true := h
    unfold itemAt at h
    cases hitem : s.item? place with
    | none =>
      rw [hitem] at h
      cases h
    | some item =>
      rw [hitem] at h
      obtain ⟨hspelling, hleads⟩ := (locate_eq_ok hs).1 hlocate
      cases item with
      | file content => exact ⟨place, content, hspelling, hleads, hitem, hdots⟩
      | link t => cases h
      | folder => cases h

end

end Store

end Phrasebook
