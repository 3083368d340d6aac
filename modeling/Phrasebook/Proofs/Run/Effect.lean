import Phrasebook.Proofs.Run.Batch

/-! What a run has done to the files in the end: each file that it reports as processed holds its new
text, its backup the former one, and nothing else is changed. -/

namespace Phrasebook

open Store

theorem length_sha1 (bytes : Bytes) : (Digest.sha1 bytes).length = 40 := by
  have hword (x : UInt32) : (Text.hex 8 x.toNat).length = 8 := Text.length_hex (by decide) x.toNat_lt
  unfold Digest.sha1
  simp [hword]

theorem backupPath_spec {p q : FilePath} {former : Text} (h : backupPath p former = .ok q) :
    q.parent = p.parent ∧ q.names = q.parent.names ++ [q.name] ∧
      ∃ suffix : Text, q.name = p.name ++ suffix ∧ suffix.length = 13 := by
  unfold backupPath at h
  obtain ⟨bytes, -, h⟩ := except_bind_eq_ok.1 h
  split at h
  next => cases h
  next =>
    cases h
    have hname (n : Text) : (p.withName n).name = n := by
      simp [FilePath.withName, FilePath.child, FilePath.name]
    have hparent (n : Text) : (p.withName n).parent = p.parent := by
      simp [FilePath.withName, FilePath.child, FilePath.parent]
    refine ⟨hparent _, by rw [hparent, hname]; rfl, ?_⟩
    rw [hname]
    refine ⟨"." ++ (Digest.sha1 bytes).take 8 ++ ".bak", by simp only [List.append_assoc], ?_⟩
    rw [List.length_append, List.length_append, List.length_take, length_sha1]
    rfl

namespace Store

variable {s s' : Store} {p q : FilePath} {place folder : List Text} {content bytes : Bytes}

def backupPlace (place : List Text) (q : FilePath) : List Text := place.dropLast ++ [q.name]

theorem replacement_congr {r : Refusals} {t : Text} {there there' : Option Item}
    (h : there = some .folder ↔ there' = some .folder) :
    replacement r p t there = replacement r p t there' := by
  unfold replacement
  simp only [h]

theorem refuse_eq_error {o : Option SystemFault} {fault : Fault} (h : refuse o = .error fault) :
    ∃ reason, fault = .system reason := by
  cases o with
  | none => cases h
  | some reason =>
    cases h
    exact ⟨reason, rfl⟩

theorem not_contained_of_checkSpelling {fault : Fault} (h : checkSpelling p = .error fault) :
    fault.isContained = false := by
  unfold checkSpelling at h
  split at h <;> cases h <;> rfl

theorem not_contained_of_encode {t : Text} {fault : Fault} (h : Utf8.encode t = .error fault) :
    fault.isContained = false := by
  unfold Utf8.encode at h
  split at h <;> cases h
  rfl

theorem fault_of_replacement {r : Refusals} {t : Text} {there : Option Item} {fault : Fault}
    (h : replacement r p t there = .error fault) :
    (∃ reason, fault = .system reason) ∨ fault.isContained = false := by
  unfold replacement at h
  obtain h | ⟨-, -, h⟩ := except_bind_eq_error.1 h
  · exact .inr (not_contained_of_checkSpelling h)
  obtain h | ⟨-, -, h⟩ := except_bind_eq_error.1 h
  · exact .inl (refuse_eq_error h)
  obtain h | ⟨bytes, -, h⟩ := except_bind_eq_error.1 h
  · exact .inr (not_contained_of_encode h)
  obtain h | ⟨-, -, h⟩ := except_bind_eq_error.1 h
  · exact .inl (refuse_eq_error h)
  obtain h | ⟨-, -, h⟩ := except_bind_eq_error.1 h
  · exact .inl (refuse_eq_error h)
  obtain h | ⟨-, -, h⟩ := except_bind_eq_error.1 h
  · exact .inl (refuse_eq_error h)
  split at h
  next =>
    cases h
    exact .inl ⟨_, rfl⟩
  next =>
  split at h
  next =>
    cases h
    exact .inl ⟨_, rfl⟩
  next =>
  split at h
  next =>
    cases h
    exact .inl ⟨_, rfl⟩
  next => cases h

theorem HasFile.sizeOf (hs : s.IsLinkless) (h : HasFile s p place content) :
    Batch.sizeOf s p = .ok content.length := by
  unfold Batch.sizeOf
  rw [h.find hs]

theorem IsFolder.keeps (h : IsFolder s p folder) (hkeeps : Keeps s s') : IsFolder s' p folder :=
  ⟨h.spelling, h.leads.keeps hkeeps, (hkeeps.folder folder).2 h.folder, h.dots⟩

/-- A file system that has got a file at a place, and nothing else that is new. -/
structure Gets (s s' : Store) (place : List Text) (bytes : Bytes) : Prop where
  linkless : s'.IsLinkless
  keeps : Keeps s s'
  there : s'.item? place = some (.file bytes)
  others : ∀ names, names ≠ place → s'.item? names = s.item? names

theorem gets_put (hs : s.IsLinkless) (hparent : IsFolder s p.parent folder)
    (hitem : s.item? (folder ++ [p.name]) ≠ some .folder) (bytes : Bytes) :
    Gets s (s.put (folder ++ [p.name]) (.file bytes)) (folder ++ [p.name]) bytes := by
  have hfolders : InFolders s (folder ++ [p.name]) :=
    (hparent.leads.inFolders (inFolders_nil s)).concat hparent.folder
  refine ⟨hs.put hfolders (by simp) bytes, keeps_put hfolders hitem bytes, ?_, fun names hne => ?_⟩
  · rw [item?_put hfolders, if_pos rfl]
  · rw [item?_put hfolders, if_neg hne]

theorem Gets.hasFile (h : Gets s s' (folder ++ [p.name]) bytes)
    (hsplit : p.names = p.parent.names ++ [p.name]) (hparent : IsFolder s p.parent folder)
    (hstay : p.name ≠ ".") (hup : p.name ≠ "..") (hspelling : spellingOf p = .ok ())
    (hshort : isLongName p.name = false) : HasFile s' p (folder ++ [p.name]) bytes := by
  refine ⟨hspelling, ?_, h.there, ?_⟩
  · rw [hsplit]
    refine (hparent.leads.keeps h.keeps).append (.down ((h.keeps.folder _).2 hparent.folder) hstay hup hshort
      ?_ .here)
    rw [h.there]
    rfl
  · rw [hsplit]
    intro hdot
    rcases List.mem_append.1 hdot with hdot | hdot
    · exact hparent.dots hdot
    · exact hstay (List.mem_singleton.1 hdot).symm

theorem cases_atomicWrite (hs : s.IsLinkless) (r : Refusals) (hparent : IsFolder s p.parent folder)
    (t : Text) :
    (∃ fault, replacement r p t (s.item? (folder ++ [p.name])) = .error fault ∧
      s.atomicWrite r p t = (s, .error fault)) ∨
    ∃ bytes s', replacement r p t (s.item? (folder ++ [p.name])) = .ok bytes ∧
      Utf8.encode t = .ok bytes ∧ s.atomicWrite r p t = (s', .ok ()) ∧
      Gets s s' (folder ++ [p.name]) bytes := by
  have hwrite := atomicWrite_eq hs r hparent t
  cases hbytes : replacement r p t (s.item? (folder ++ [p.name])) with
  | error fault =>
    rw [hbytes] at hwrite
    exact .inl ⟨fault, rfl, hwrite⟩
  | ok bytes =>
    rw [hbytes] at hwrite
    obtain ⟨-, -, hencode, hitem, -⟩ := replacement_eq_ok.1 hbytes
    exact .inr ⟨bytes, _, rfl, hencode, hwrite, gets_put hs hparent hitem bytes⟩

end Store

namespace Batch

variable {parser : Parser} {settings : Settings} {base p q : FilePath} {s s₀ s' : Store}
  {r : Refusals} {place : List Text} {content : Bytes} {former new : Text}

theorem examine_congr (hs₀ : s₀.IsLinkless) (hs : s.IsLinkless) (h₀ : HasFile s₀ p place content)
    (h : HasFile s p place content) :
    examine parser settings s p = examine parser settings s₀ p := by
  unfold examine exceededLimit?
  rw [h.isLink hs, h₀.isLink hs₀, h.sizeOf hs, h₀.sizeOf hs₀, h.read hs, h₀.read hs₀]

theorem read_of_examine (hfound : examine parser settings s p = .ok (some (former, new))) :
    s.isLink p = .ok false ∧ ∃ content, s.read p = .ok content ∧ Utf8.decodeFault content = .ok former ∧
      ∃ out, (transformCode parser settings former (some p.toText)).result = .ok out ∧ out.code = new := by
  obtain ⟨isLink, hlink, hfound⟩ := except_bind_eq_ok.1 hfound
  split at hfound
  next => cases hfound
  next hnot =>
  rw [Bool.eq_false_iff.2 hnot] at hlink
  obtain ⟨limit, -, hfound⟩ := except_bind_eq_ok.1 hfound
  split at hfound
  next => cases hfound
  next =>
  obtain ⟨content, hcontent, hfound⟩ := except_bind_eq_ok.1 hfound
  obtain ⟨code, hcode, hfound⟩ := except_bind_eq_ok.1 hfound
  obtain ⟨out, hout, hfound⟩ := except_bind_eq_ok.1 hfound
  split at hfound
  next => cases hfound
  next =>
    cases hfound
    exact ⟨hlink, content, hcontent, hcode, out, hout, rfl⟩

theorem examine_eq_some (hs : s.IsLinkless) (h : HasFile s p place content)
    (hfound : examine parser settings s p = .ok (some (former, new))) :
    Utf8.decodeFault content = .ok former ∧
      ∃ out, (transformCode parser settings former (some p.toText)).result = .ok out ∧ out.code = new := by
  obtain ⟨-, content', hcontent, hfound⟩ := read_of_examine hfound
  cases (h.read hs).symm.trans hcontent
  exact hfound

def IsBackup (settings : Settings) (p : FilePath) (content : Bytes) (q : FilePath) : Prop :=
  settings.backup = true ∧ ∃ former, Utf8.decodeFault content = .ok former ∧ backupPath p former = .ok q

theorem HasFile.backup (hs : s.IsLinkless) (h : HasFile s p place content)
    (hq : backupPath p former = .ok q) :
    ∃ folder, place = folder ++ [p.name] ∧ backupPlace place q = folder ++ [q.name] ∧
      IsFolder s p.parent folder ∧ IsFolder s q.parent folder ∧ q.name ≠ p.name ∧
      q.names = q.parent.names ++ [q.name] ∧ q.name ≠ "." ∧ q.name ≠ ".." := by
  obtain ⟨folder, -, hparent, hplace⟩ := h.exists_folder hs
  obtain ⟨hsame, hsplit, suffix, hname, hlength⟩ := backupPath_spec hq
  have hlong : q.name.length = p.name.length + 13 := by rw [hname, List.length_append, hlength]
  have hne {n : Text} (hn : n.length < 13) : q.name ≠ n := fun heq => by
    rw [heq] at hlong
    omega
  refine ⟨folder, hplace, ?_, hparent, hsame ▸ hparent, fun heq => ?_, hsplit, hne (by decide), hne (by decide)⟩
  · rw [backupPlace, hplace, List.dropLast_concat]
  · rw [heq] at hlong
    omega

def verdict (settings : Settings) (r : Refusals) (p : FilePath) (content : Bytes) (former new : Text)
    (there : FilePath → Option Item) : Except Fault Unit := do
  if settings.backup then
    let q ← backupPath p former
    let _ ← replacement r q former (there q)
  let _ ← replacement r p new (some (.file content))

/-- What has become of the files when one of them was rewritten. -/
structure Rewritten (settings : Settings) (s s' : Store) (p : FilePath) (place : List Text)
    (content : Bytes) (new : Text) (done : Except Fault Unit) : Prop where
  linkless : s'.IsLinkless
  keeps : Keeps s s'
  file : done = .ok () → ∃ bytes, Utf8.encode new = .ok bytes ∧ HasFile s' p place bytes
  backup : done = .ok () → settings.backup = true →
    ∃ q, IsBackup settings p content q ∧ HasFile s' q (backupPlace place q) content
  others : ∀ names, s'.item? names ≠ s.item? names → (names = place ∧ done = .ok ()) ∨
    ∃ q, IsBackup settings p content q ∧ names = backupPlace place q ∧ HasFile s' q names content

theorem Rewritten.error {new : Text} (hs : s.IsLinkless) (fault : Fault) :
    Rewritten settings s s p place content new (.error fault) where
  linkless := hs
  keeps := Keeps.refl s
  file h := by cases h
  backup h := by cases h
  others names h := (h rfl).elim

theorem rewrite_spec (settings : Settings) (r : Refusals) (new : Text) (hs : s.IsLinkless)
    (h : HasFile s p place content) (hformer : Utf8.decodeFault content = .ok former) :
    (rewrite settings r s p former new).2 =
      verdict settings r p content former new (fun q => s.item? (backupPlace place q)) ∧
    Rewritten settings s (rewrite settings r s p former new).1 p place content new
      (rewrite settings r s p former new).2 := by
  unfold rewrite verdict
  cases hbackup : settings.backup with
  | false =>
    obtain ⟨folder, -, hparent, hplace⟩ := h.exists_folder hs
    have hcases := cases_atomicWrite hs r hparent new
    rw [← hplace, h.file] at hcases
    rcases hcases with ⟨fault, hfault, hwrite⟩ | ⟨bytes, s₁, hbytes, hencode, hwrite, hgets⟩
    · simp only [hfault, hwrite]
      exact ⟨rfl, .error hs fault⟩
    · simp only [hbytes, hwrite]
      refine ⟨rfl, hgets.linkless, hgets.keeps, fun _ => ⟨bytes, hencode, h.keeps hgets.keeps hgets.there⟩,
        fun _ hon => ?_, fun names hnames => ?_⟩
      · rw [hbackup] at hon
        cases hon
      · exact .inl ⟨Classical.not_not.1 fun hne => hnames (hgets.others names hne), rfl⟩
  | true =>
  cases hq : backupPath p former with
  | error fault => exact ⟨rfl, .error hs fault⟩
  | ok q =>
  obtain ⟨folder, hplace, hbeside, hparent, hqparent, hname, hsplit, hstay, hup⟩ := HasFile.backup hs h hq
  have hkept : IsBackup settings p content q := ⟨hbackup, former, hformer, hq⟩
  have hcases := cases_atomicWrite hs r hqparent former
  rw [← hbeside] at hcases
  rcases hcases with ⟨fault, hfault, hwrite⟩ | ⟨bytes, s₁, hbytes, hencode, hwrite, hgets⟩
  · simp only [hwrite, if_true, bind, Except.bind, hfault]
    exact ⟨trivial, .error hs fault⟩
  have hcontent : bytes = content := by
    rw [Utf8.encode, Utf8.decodeFault_eq_ok.1 hformer] at hencode
    exact (Except.ok.inj hencode).symm
  subst hcontent
  obtain ⟨hspelling, hshort, -⟩ := replacement_eq_ok.1 hbytes
  have hold : HasFile s₁ q (backupPlace place q) bytes := by
    rw [hbeside] at hgets ⊢
    exact hgets.hasFile hsplit hqparent hstay hup hspelling hshort
  have hne : place ≠ backupPlace place q := by
    rw [hbeside, hplace]
    intro heq
    exact hname (by simpa using heq.symm)
  have hfile : HasFile s₁ p place bytes :=
    h.keeps hgets.keeps ((hgets.others place hne).trans h.file)
  have hnames {names : List Text} (hne : s₁.item? names ≠ s.item? names) :
      names = backupPlace place q := Classical.not_not.1 fun h => hne (hgets.others names h)
  have hcases := cases_atomicWrite hgets.linkless r (hparent.keeps hgets.keeps) new
  rw [← hplace, hfile.file] at hcases
  rcases hcases with ⟨fault, hfault, hwrite'⟩ | ⟨bytes', s₂, hbytes', hencode', hwrite', hgets'⟩
  · simp only [hwrite, hwrite', if_true, bind, Except.bind, hbytes, hfault]
    refine ⟨trivial, hgets.linkless, hgets.keeps, fun h => (by cases h), fun h => (by cases h),
      fun names hdiffer => .inr ⟨q, hkept, hnames hdiffer, ?_⟩⟩
    rw [hnames hdiffer]
    exact hold
  · simp only [hwrite, hwrite', if_true, bind, Except.bind, hbytes, hbytes']
    have hold' : HasFile s₂ q (backupPlace place q) bytes :=
      hold.keeps hgets'.keeps ((hgets'.others _ hne.symm).trans hold.file)
    refine ⟨rfl, hgets'.linkless, hgets.keeps.trans hgets'.keeps,
      fun _ => ⟨bytes', hencode', hfile.keeps hgets'.keeps hgets'.there⟩, fun _ _ => ⟨q, hkept, hold'⟩,
      fun names hdiffer => ?_⟩
    by_cases heq : names = place
    · exact .inl ⟨heq, rfl⟩
    · rw [hgets'.others names heq] at hdiffer
      refine .inr ⟨q, hkept, hnames hdiffer, ?_⟩
      rw [hnames hdiffer]
      exact hold'

theorem verdict_congr {there there' : FilePath → Option Item}
    (h : ∀ q, there q = some .folder ↔ there' q = some .folder) :
    verdict settings r p content former new there = verdict settings r p content former new there' := by
  have hsame (q : FilePath) : replacement r q former (there q) = replacement r q former (there' q) :=
    replacement_congr (h q)
  unfold verdict
  simp only [hsame]

theorem fault_of_verdict {there : FilePath → Option Item} {fault : Fault}
    (h : verdict settings r p content former new there = .error fault) :
    (∃ reason, fault = .system reason) ∨ fault.isContained = false := by
  have hlast (h : (do let _ ← replacement r p new (some (.file content)); pure ()) = .error fault) :
      (∃ reason, fault = .system reason) ∨ fault.isContained = false := by
    obtain h | ⟨-, -, h⟩ := except_bind_eq_error.1 h
    · exact fault_of_replacement h
    · cases h
  unfold verdict at h
  split at h
  next =>
    obtain h | ⟨q, -, h⟩ := except_bind_eq_error.1 h
    · unfold backupPath at h
      obtain h | ⟨bytes, -, h⟩ := except_bind_eq_error.1 h
      · exact .inr (not_contained_of_encode h)
      · split at h <;> cases h
        exact .inr rfl
    obtain h | ⟨-, -, h⟩ := except_bind_eq_error.1 h
    · exact fault_of_replacement h
    · exact hlast h
  next => exact hlast h

def hasChanged : Except Fault FileResult → Bool
  | .ok done => done.changed
  | .error _ => false

def IsUnwritten (done : Except Fault FileResult) : Prop :=
  ∃ path reason, done = .error (.write path reason)

theorem writeFault_of_not_contained {fault : Fault} (h : fault.isContained = false) :
    writeFault p fault = fault := by
  cases fault with
  | system reason => cases h
  | _ => rfl

def IsRewriting (parser : Parser) (settings : Settings) (p : FilePath) (content bytes : Bytes) : Prop :=
  ∃ code out, Utf8.decodeFault content = .ok code ∧
    (transformCode parser settings code (some p.toText)).result = .ok out ∧
    Utf8.encode out.code = .ok bytes

/-- A file that was reported as changed holds its new text, and its backup the former one. -/
structure Written (parser : Parser) (settings : Settings) (s : Store) (p : FilePath)
    (place : List Text) (content : Bytes) (done : Except Fault FileResult) : Prop where
  file : hasChanged done = true → settings.dryRun = false →
    ∃ bytes, IsRewriting parser settings p content bytes ∧ HasFile s p place bytes
  backup : hasChanged done = true → settings.dryRun = false → settings.backup = true →
    ∃ q, IsBackup settings p content q ∧ HasFile s q (backupPlace place q) content

def Touches (settings : Settings) (s : Store) (p : FilePath) (place : List Text) (content : Bytes)
    (done : Except Fault FileResult) (names : List Text) : Prop :=
  (hasChanged done = true ∧ names = place) ∨ (hasChanged done = true ∨ IsUnwritten done) ∧
    ∃ q, IsBackup settings p content q ∧ names = backupPlace place q ∧ HasFile s q names content

structure Settled (parser : Parser) (settings : Settings) (s s' : Store) (p : FilePath)
    (place : List Text) (content : Bytes) (done : Except Fault FileResult) : Prop where
  linkless : s'.IsLinkless
  keeps : Keeps s s'
  written : Written parser settings s' p place content done
  others : ∀ names, s'.item? names ≠ s.item? names → Touches settings s' p place content done names

theorem fileEffect_congr (hs₀ : s₀.IsLinkless) (hs : s.IsLinkless) (hkeeps : Keeps s₀ s)
    (h₀ : HasFile s₀ p place content) (h : HasFile s p place content) :
    (fileEffect parser settings base r s p).1 = (fileEffect parser settings base r s₀ p).1 := by
  unfold fileEffect
  rw [examine_congr hs₀ hs h₀ h]
  cases hfound : examine parser settings s₀ p with
  | error fault => rfl
  | ok found =>
  cases found with
  | none => rfl
  | some texts =>
  obtain ⟨former, new⟩ := texts
  dsimp only
  split
  · rfl
  obtain ⟨hformer, -⟩ := examine_eq_some hs₀ h₀ hfound
  have hsame : (rewrite settings r s p former new).2 = (rewrite settings r s₀ p former new).2 := by
    rw [(rewrite_spec settings r new hs h hformer).1, (rewrite_spec settings r new hs₀ h₀ hformer).1]
    exact verdict_congr fun q => hkeeps.folder _
  generalize rewrite settings r s p former new = done at hsame
  generalize rewrite settings r s₀ p former new = done₀ at hsame
  obtain ⟨s', result⟩ := done
  obtain ⟨s₀', result₀⟩ := done₀
  dsimp only at hsame
  subst hsame
  cases result <;> rfl

theorem settled_fileEffect (hs : s.IsLinkless) (h : HasFile s p place content)
    (hcontained : ∀ fault, (fileEffect parser settings base r s p).1 = .error fault →
      fault.isContained = true) :
    Settled parser settings s (fileEffect parser settings base r s p).2 p place content
      (fileEffect parser settings base r s p).1 := by
  have hstays (done : Except Fault FileResult) (hdone : hasChanged done = true → settings.dryRun = true) :
      Settled parser settings s s p place content done := by
    refine ⟨hs, Keeps.refl s, ⟨fun hchanged hreal => ?_, fun hchanged hreal => ?_⟩,
      fun names hne => (hne rfl).elim⟩
    · rw [hdone hchanged] at hreal
      cases hreal
    · rw [hdone hchanged] at hreal
      cases hreal
  unfold fileEffect at hcontained ⊢
  cases hfound : examine parser settings s p with
  | error fault => exact hstays _ fun h => (by cases h)
  | ok found =>
  rw [hfound] at hcontained
  cases found with
  | none => exact hstays _ fun h => (by cases h)
  | some texts =>
  obtain ⟨former, new⟩ := texts
  dsimp only at hcontained ⊢
  split
  next hdry => exact hstays _ fun _ => hdry
  next hdry =>
  rw [if_neg hdry] at hcontained
  obtain ⟨hformer, out, hout, rfl⟩ := examine_eq_some hs h hfound
  obtain ⟨hresult, hrewritten⟩ := rewrite_spec settings r out.code hs h hformer
  generalize rewrite settings r s p former out.code = written at hresult hrewritten hcontained
  obtain ⟨s', result⟩ := written
  cases result with
  | ok u =>
    refine ⟨hrewritten.linkless, hrewritten.keeps, ⟨fun _ _ => ?_, fun _ _ => hrewritten.backup rfl⟩,
      fun names hne => ?_⟩
    · obtain ⟨bytes, hbytes, hfile⟩ := hrewritten.file rfl
      exact ⟨bytes, ⟨former, out, hformer, hout, hbytes⟩, hfile⟩
    · rcases hrewritten.others names hne with ⟨hplace, -⟩ | hbackup
      · exact .inl ⟨rfl, hplace⟩
      · exact .inr ⟨.inl rfl, hbackup⟩
  | error fault =>
    have hunwritten : IsUnwritten (.error (writeFault p fault)) := by
      rcases fault_of_verdict hresult.symm with ⟨reason, rfl⟩ | hstop
      · exact ⟨p.toText, reason.message, rfl⟩
      · have hpass := hcontained _ rfl
        rw [writeFault_of_not_contained hstop, hstop] at hpass
        cases hpass
    refine ⟨hrewritten.linkless, hrewritten.keeps, ⟨fun h => (by cases h), fun h => (by cases h)⟩,
      fun names hne => ?_⟩
    rcases hrewritten.others names hne with ⟨-, hdone⟩ | hbackup
    · cases hdone
    · exact .inr ⟨.inr hunwritten, hbackup⟩

end Batch

end Phrasebook
