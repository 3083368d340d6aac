import Phrasebook.Proofs.Files.Links
import Phrasebook.Proofs.Run.Effect

/-! Places for files: a path that ends with a name of its own leads to a place in a folder, where a file is
or can be. -/

namespace Phrasebook

namespace Text

theorem cut_append (sep : CodePoint) {u : Text} (hu : sep ∉ u) (t : Text) :
    ∃ pieces last, cut sep t = pieces ++ [last] ∧ cut sep (t ++ u) = pieces ++ [last ++ u] := by
  induction t with
  | nil =>
    refine ⟨[], [], rfl, ?_⟩
    induction u with
    | nil => rfl
    | cons c u ih =>
      obtain ⟨hc, hrest⟩ := not_or.1 (mt List.mem_cons.2 hu)
      have hpieces : cut sep u = [u] := ih hrest
      show cut sep (c :: u) = [c :: u]
      rw [cut, if_neg (Ne.symm hc), hpieces]
  | cons c t ih =>
    obtain ⟨pieces, last, hcut, happend⟩ := ih
    by_cases hc : c = sep
    · refine ⟨[] :: pieces, last, ?_, ?_⟩
      · rw [cut, if_pos hc, hcut]
        rfl
      · rw [List.cons_append, cut, if_pos hc, happend]
        rfl
    · rw [List.cons_append, cut, cut, if_neg hc, if_neg hc, hcut, happend]
      cases pieces with
      | nil => exact ⟨[], c :: last, rfl, rfl⟩
      | cons piece pieces => exact ⟨(c :: piece) :: pieces, last, rfl, rfl⟩

end Text

namespace Store

variable {s s' : Store} {p : FilePath} {place place' names folder there : List Text} {r : Refusals}
  {bytes : Bytes}

structure IsNamed (p : FilePath) : Prop where
  split : p.names = p.parent.names ++ [p.name]
  stay : p.name ≠ "."
  up : p.name ≠ ".."

theorem isNamed_of_names {front : List Text} {n : Text} (h : p.names = front ++ [n]) (hstay : n ≠ ".")
    (hup : n ≠ "..") : IsNamed p ∧ p.name = n := by
  have hname : p.name = n := by rw [FilePath.name, h, List.getLastD_concat]
  have hparent : p.parent.names = front := by rw [FilePath.parent, h, List.dropLast_concat]
  exact ⟨⟨by rw [hparent, hname, h], hname ▸ hstay, hname ▸ hup⟩, hname⟩

theorem IsNamed.own (h : IsNamed p) (hne : p.name ≠ []) : isDots p.name = false := by
  simp [isDots, hne, h.stay, h.up]

/-- A place in a folder where a path can have a file, whether or not one is there. -/
structure FileSlot (s : Store) (p : FilePath) (place : List Text) : Prop where
  parent : ∃ folder, IsFolder s p.parent folder ∧ place = folder ++ [p.name]
  spelling : spellingOf p = .ok ()
  short : isLongName p.name = false
  free : s.item? place ≠ some .folder

theorem Leads.goes (hs : s.IsLinkless) (h : Leads s place names there) (links : Nat) :
    Goes s links place names links there := by
  induction h with
  | here => exact .here
  | stay hfolder _ ih => exact .stay hfolder ih
  | up hfolder _ ih => exact .up hfolder ih
  | down hfolder hstay hup hshort hthere _ ih =>
    obtain ⟨item, hitem⟩ := Option.isSome_iff_exists.1 hthere
    exact .down hfolder hstay hup hshort hitem
      (fun target heq => item?_ne_link hs _ target (by rw [hitem, heq])) ih

namespace FileSlot

theorem leads (h : FileSlot s p place) (hp : IsNamed p) (hthere : (s.item? place).isSome = true) :
    Leads s [] p.names place := by
  obtain ⟨folder, hparent, rfl⟩ := h.parent
  rw [hp.split]
  exact hparent.leads.append (.down hparent.folder hp.stay hp.up h.short hthere .here)

theorem hasFile (h : FileSlot s p place) (hp : IsNamed p) (hfile : s.item? place = some (.file bytes)) :
    HasFile s p place bytes := by
  refine ⟨h.spelling, h.leads hp (by rw [hfile]; rfl), hfile, ?_⟩
  obtain ⟨folder, hparent, -⟩ := h.parent
  rw [hp.split]
  intro hdot
  rcases List.mem_append.1 hdot with hdot | hdot
  · exact hparent.dots hdot
  · exact hp.stay (List.mem_singleton.1 hdot).symm

theorem cases_item (hs : s.IsLinkless) (h : FileSlot s p place) :
    s.item? place = none ∨ ∃ bytes, s.item? place = some (.file bytes) := by
  cases hitem : s.item? place with
  | none => exact .inl rfl
  | some item =>
    cases item with
    | file bytes => exact .inr ⟨bytes, rfl⟩
    | link target => exact (item?_ne_link hs place target hitem).elim
    | folder => exact (h.free hitem).elim

theorem isThere_of_none (hs : s.IsLinkless) (h : FileSlot s p place) (hp : IsNamed p)
    (hnone : s.item? place = none) : s.isThere p = .ok false := by
  obtain ⟨folder, hparent, rfl⟩ := h.parent
  have hwalk : s.walk true linkLimit [] p.names = .error .missing := by
    rw [hp.split, (hparent.leads.goes hs linkLimit).walk_append (.inr rfl),
      walk_name hparent.folder hp.stay hp.up h.short, hnone]
  unfold isThere find locate
  rw [h.spelling]
  show holds p (s.walk true linkLimit [] p.names >>= s.itemAt) _ = _
  rw [hwalk]
  rfl

theorem isThere_of_file (hs : s.IsLinkless) (h : FileSlot s p place) (hp : IsNamed p)
    (hfile : s.item? place = some (.file bytes)) : s.isThere p = .ok true := by
  unfold isThere
  rw [(h.hasFile hp hfile).find hs]
  rfl

theorem write (hs : s.IsLinkless) (h : FileSlot s p place) (hown : isDots p.name = false)
    (hdisk : ∀ step, r p step = none) (t : Text) :
    s.atomicWrite r p t = match Utf8.encode t with
      | .ok bytes => (s.put place (.file bytes), .ok ())
      | .error fault => (s, .error fault) := by
  obtain ⟨folder, hparent, rfl⟩ := h.parent
  rw [atomicWrite_eq hs r hparent]
  cases hencode : Utf8.encode t with
  | ok bytes => rw [replacement_eq_ok.2 ⟨h.spelling, h.short, hencode, h.free, hown, hdisk⟩]
  | error fault =>
    have hspelling : checkSpelling p = .ok () := by
      rw [checkSpelling, h.spelling]
    rw [replacement, hspelling, hdisk, hencode]
    rfl

theorem gets (hs : s.IsLinkless) (h : FileSlot s p place) (bytes : Bytes) :
    Gets s (s.put place (.file bytes)) place bytes := by
  obtain ⟨folder, hparent, rfl⟩ := h.parent
  exact gets_put hs hparent h.free bytes

theorem keeps (h : FileSlot s p place) (hkeeps : Keeps s s') : FileSlot s' p place := by
  obtain ⟨folder, hparent, hplace⟩ := h.parent
  exact ⟨⟨folder, hparent.keeps hkeeps, hplace⟩, h.spelling, h.short, mt (hkeeps.folder place).1 h.free⟩

end FileSlot

end Store

end Phrasebook
