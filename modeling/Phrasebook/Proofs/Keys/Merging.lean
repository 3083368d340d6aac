import Phrasebook.Keys.Locale
import Phrasebook.Proofs.Json.Characters
import Phrasebook.Proofs.Json.Members

/-! Bringing a locale file up to date: what a merge keeps, what it adds and in which order, and how
two merges in a row are one. What such a file is given are texts under keys that all differ, put together
with what it holds; it can be read back if what it held could, and to put the same in again changes
nothing. -/

namespace Phrasebook.Keys

/-- The keys of some entries. -/
def keysOf (entries : List (Text × Json)) : List Text := entries.map (·.1)

/-- The entries whose keys others do not have. -/
def missing (entries others : List (Text × Json)) : List (Text × Json) :=
  entries.filter fun e => e.1 ∉ keysOf others

/-- The entries of both, where those of the first come first and win. -/
def union (entries others : List (Text × Json)) : List (Text × Json) :=
  entries ++ missing others entries

/-- What a language gets for some entries. -/
def valuesFor (isDefault : Bool) (entries : List (Text × Json)) : List (Text × Json) :=
  entries.map fun e => (e.1, valueFor isDefault e)

section Entries

variable {entries others existing : List (Text × Json)} {isDefault : Bool}

@[simp] theorem keysOf_append :
    keysOf (entries ++ others) = keysOf entries ++ keysOf others := List.map_append

@[simp] theorem keysOf_valuesFor : keysOf (valuesFor isDefault entries) = keysOf entries := by
  simp [keysOf, valuesFor]

theorem mem_keysOf_missing {k : Text} :
    k ∈ keysOf (missing entries others) ↔ k ∈ keysOf entries ∧ k ∉ keysOf others := by
  simp only [keysOf, missing, List.mem_map, List.mem_filter, decide_eq_true_eq]
  constructor
  · rintro ⟨e, ⟨he, hk⟩, rfl⟩
    exact ⟨⟨e, he, rfl⟩, hk⟩
  · rintro ⟨⟨e, he, rfl⟩, hk⟩
    exact ⟨e, ⟨he, hk⟩, rfl⟩

theorem missing_append (first : List (Text × Json)) :
    missing (first ++ entries) others = missing first others ++ missing entries others :=
  List.filter_append ..

theorem missing_cons_of_mem {e : Text × Json} (h : e.1 ∈ keysOf others) :
    missing (e :: entries) others = missing entries others := by
  simp [missing, h]

theorem missing_cons_of_not_mem {e : Text × Json} (h : e.1 ∉ keysOf others) :
    missing (e :: entries) others = e :: missing entries others := by
  simp [missing, h]

theorem missing_congr (h : ∀ k ∈ keysOf entries, k ∈ keysOf others ↔ k ∈ keysOf existing) :
    missing entries others = missing entries existing := by
  refine List.filter_congr fun e he => ?_
  have hkey := h e.1 (List.mem_map_of_mem he)
  simp only [hkey]

theorem missing_of_subset (h : ∀ k ∈ keysOf entries, k ∈ keysOf others) :
    missing entries others = [] := by
  rw [missing, List.filter_eq_nil_iff]
  intro e he
  simpa using h e.1 (List.mem_map_of_mem he)

theorem missing_missing :
    missing (missing entries others) existing =
      missing entries (existing ++ missing others existing) := by
  rw [missing, missing, List.filter_filter]
  refine List.filter_congr fun e _ => ?_
  rw [← Bool.decide_and, decide_eq_decide, keysOf_append, List.mem_append, mem_keysOf_missing]
  tauto

theorem keysOf_missing_sublist : (keysOf (missing entries others)).Sublist (keysOf entries) :=
  List.filter_sublist.map _

theorem nodup_keysOf_union (he : (keysOf entries).Nodup) (ho : (keysOf others).Nodup) :
    (keysOf (union entries others)).Nodup := by
  rw [union, keysOf_append, List.nodup_append']
  exact ⟨he, ho.sublist keysOf_missing_sublist, fun k hk hk' => (mem_keysOf_missing.1 hk').2 hk⟩

/-! ### Without force -/

theorem mergeAs_cons {e : Text × Json} {data : Data} :
    mergeAs isDefault (e :: data) existing false =
      mergeAs isDefault data
        (if e.1 ∈ keysOf existing then existing
          else existing ++ [(e.1, valueFor isDefault e)]) false := by
  have hany : (existing.any fun m => m.1 == e.1) = decide (e.1 ∈ keysOf existing) := by
    rw [Bool.eq_iff_iff, decide_eq_true_eq]
    simp [keysOf]
  simp only [mergeAs, List.foldl_cons, hany, decide_eq_true_eq, Bool.false_eq_true, if_false]

theorem mergeAs_eq {data : Data} (hdata : (keysOf data).Nodup) :
    mergeAs isDefault data existing false =
      existing ++ valuesFor isDefault (missing data existing) := by
  induction data generalizing existing with
  | nil => simp [mergeAs, missing, valuesFor]
  | cons e data ih =>
    obtain ⟨hfresh, hrest⟩ := List.nodup_cons.1 hdata
    rw [mergeAs_cons]
    split_ifs with hmem
    · rw [ih hrest, missing_cons_of_mem hmem]
    · -- the entry just added has the key of no other, so the rest is as missing as before
      have hsame : missing data (existing ++ [(e.1, valueFor isDefault e)]) =
          missing data existing := by
        refine missing_congr fun k hk => ?_
        have hne : k ≠ e.1 := by
          rintro rfl
          exact hfresh hk
        simp [keysOf, hne]
      rw [ih hrest, hsame, missing_cons_of_not_mem hmem, List.append_assoc]
      rfl

theorem mergeAs_of_subset {data : Data} (hdata : (keysOf data).Nodup)
    (h : ∀ k ∈ keysOf data, k ∈ keysOf existing) :
    mergeAs isDefault data existing false = existing := by
  rw [mergeAs_eq hdata, missing_of_subset h]
  exact List.append_nil _

theorem mem_keysOf_mergeAs {data : Data} {k : Text} (hdata : (keysOf data).Nodup) :
    k ∈ keysOf (mergeAs isDefault data existing false) ↔
      k ∈ keysOf existing ∨ k ∈ keysOf data := by
  rw [mergeAs_eq hdata, keysOf_append, keysOf_valuesFor, List.mem_append, mem_keysOf_missing]
  tauto

theorem mergeAs_mergeAs {data data' : Data} (hdata : (keysOf data).Nodup)
    (hdata' : (keysOf data').Nodup) :
    mergeAs isDefault data' (mergeAs isDefault data existing false) false =
      mergeAs isDefault (union data data') existing false := by
  have hkeys : missing data' (existing ++ valuesFor isDefault (missing data existing)) =
      missing data' (existing ++ missing data existing) :=
    missing_congr fun k _ => by rw [keysOf_append, keysOf_append, keysOf_valuesFor]
  rw [mergeAs_eq hdata', mergeAs_eq hdata, mergeAs_eq (nodup_keysOf_union hdata hdata'), union,
    missing_append, missing_missing, hkeys, List.append_assoc]
  simp [valuesFor]

/-! ### With force -/

theorem mergeAs_force {data : Data} (hdata : (keysOf data).Nodup) :
    mergeAs isDefault data existing true = valuesFor isDefault data := by
  have hfold : ∀ (data before : Data), (keysOf (before ++ data)).Nodup →
      data.foldl (fun ms e => Json.put ms e.1 (valueFor isDefault e)) before =
        before ++ valuesFor isDefault data := by
    intro data
    induction data with
    | nil => simp [valuesFor]
    | cons e data ih =>
      intro before h
      have hfresh : e.1 ∉ keysOf before := by
        rw [keysOf_append, List.nodup_append'] at h
        exact fun hmem => h.2.2 hmem List.mem_cons_self
      rw [List.foldl_cons, Json.put_of_not_mem hfresh, ih _ (by simpa [keysOf] using h),
        List.append_assoc]
      rfl
  simpa [mergeAs] using hfold data [] hdata

end Entries

end Phrasebook.Keys

namespace Phrasebook.Keys

open Json

structure AreTexts (data : Data) : Prop where
  keys : (keysOf data).Nodup
  values : ∀ e ∈ data, ∃ t, e.2 = .str t

section

variable {data : Data} {existing members : List (Text × Json)} {language defaultLanguage : Json}
  {isDefault force : Bool}

theorem exists_valueOr {e : Text × Json} (h : ∃ t, e.2 = .str t) : ∃ t, valueOr e = .str t := by
  unfold valueOr
  split
  · exact h
  · exact ⟨e.1, rfl⟩

theorem forall_mem_dataOf {P : Text × Json → Prop} {entries : List (Text × Json)}
    (h : ∀ e ∈ entries, P (e.1, valueOr e)) : ∀ e ∈ dataOf entries, P e := by
  have hfold : ∀ data : Data, (∀ e ∈ data, P e) →
      ∀ e ∈ entries.foldl (fun data e => Json.put data e.1 (valueOr e)) data, P e := by
    induction entries with
    | nil => exact fun data hdata => hdata
    | cons e entries ih =>
      obtain ⟨he, hrest⟩ := List.forall_mem_cons.1 h
      refine fun data hdata => ih hrest _ fun m hm => ?_
      rcases mem_put hm with rfl | hm
      · exact he
      · exact hdata m hm
  exact hfold [] fun e he => absurd he List.not_mem_nil

theorem nodup_dataOf (entries : List (Text × Json)) : (keysOf (dataOf entries)).Nodup := by
  have hfold : ∀ data : Data, (keysOf data).Nodup →
      (keysOf (entries.foldl (fun data e => Json.put data e.1 (valueOr e)) data)).Nodup := by
    induction entries with
    | nil => exact fun data hdata => hdata
    | cons e entries ih => exact fun data hdata => ih _ (nodup_put hdata)
  exact hfold [] List.nodup_nil

theorem areTexts_texts (keys : List Key) : AreTexts (texts keys) := by
  refine ⟨nodup_dataOf _, forall_mem_dataOf (P := fun e => ∃ t, e.2 = .str t) fun e he => ?_⟩
  obtain ⟨k, -, rfl⟩ := List.mem_map.1 he
  exact exists_valueOr ⟨k.text, rfl⟩

theorem legibleMembers_append (h : LegibleMembers existing) (h' : LegibleMembers members) :
    LegibleMembers (existing ++ members) := by
  induction existing with
  | nil => exact h'
  | cons e existing ih => exact ⟨h.1, ih h.2⟩

theorem legibleMembers_valuesFor (h : ∀ e ∈ data, ∃ t, e.2 = .str t) :
    LegibleMembers (valuesFor isDefault data) := by
  induction data with
  | nil => trivial
  | cons e data ih =>
    obtain ⟨he, hrest⟩ := List.forall_mem_cons.1 h
    refine ⟨?_, ih hrest⟩
    show Legible (valueFor isDefault e)
    unfold valueFor
    split
    · obtain ⟨t, ht⟩ := exists_valueOr he
      rw [ht]
      trivial
    · trivial

theorem legible_merge (hdata : AreTexts data) (h : Legible (.obj existing)) :
    Legible (.obj (merge data existing language defaultLanguage force)) := by
  unfold merge
  cases force with
  | true =>
    rw [mergeAs_force hdata.keys]
    refine ⟨?_, legibleMembers_valuesFor hdata.values⟩
    show (keysOf _).Nodup
    rw [keysOf_valuesFor]
    exact hdata.keys
  | false =>
    rw [mergeAs_eq hdata.keys]
    refine ⟨?_, legibleMembers_append h.2 (legibleMembers_valuesFor fun e he => ?_)⟩
    · have hunion := nodup_keysOf_union h.1 hdata.keys
      show (keysOf _).Nodup
      rwa [keysOf_append, keysOf_valuesFor, ← keysOf_append]
    · exact hdata.values e (List.mem_filter.1 he).1

theorem isEncodable_merge (hdata : AreTexts data) (hscalar : ∀ e ∈ data, e.1.IsScalar ∧ e.2.IsEncodable)
    (h : (Json.obj existing).IsEncodable) :
    (Json.obj (merge data existing language defaultLanguage force)).IsEncodable := by
  have hvalues {isDefault : Bool} {entries : Data} (hsub : ∀ e ∈ entries, e ∈ data) :
      ∀ m ∈ valuesFor isDefault entries, m.1.IsScalar ∧ m.2.IsEncodable := by
    intro m hm
    obtain ⟨e, he, rfl⟩ := List.mem_map.1 hm
    obtain ⟨hkey, hvalue⟩ := hscalar e (hsub e he)
    refine ⟨hkey, ?_⟩
    show (valueFor isDefault e).IsEncodable
    unfold valueFor valueOr
    split
    · split
      · exact hvalue
      · exact isEncodable_str.2 hkey
    · exact isEncodable_str.2 fun c hc => absurd hc List.not_mem_nil
  rw [isEncodable_obj] at h ⊢
  unfold merge
  cases force with
  | true =>
    rw [mergeAs_force hdata.keys]
    exact hvalues fun e he => he
  | false =>
    rw [mergeAs_eq hdata.keys]
    exact List.forall_mem_append.2 ⟨h, hvalues fun e he => (List.mem_filter.1 he).1⟩

theorem isEncodable_texts {keys : List Key} (h : ∀ k ∈ keys, k.key.IsScalar ∧ k.text.IsScalar) :
    ∀ e ∈ texts keys, e.1.IsScalar ∧ e.2.IsEncodable := by
  refine forall_mem_dataOf (P := fun e => e.1.IsScalar ∧ e.2.IsEncodable) fun e he => ?_
  obtain ⟨k, hk, rfl⟩ := List.mem_map.1 he
  obtain ⟨hkey, htext⟩ := h k hk
  refine ⟨hkey, ?_⟩
  show (valueOr (k.key, .str k.text)).IsEncodable
  unfold valueOr
  split
  · exact isEncodable_str.2 htext
  · exact isEncodable_str.2 hkey

theorem merge_merge (hdata : AreTexts data) {language' : Json}
    (hsame : language'.same defaultLanguage = language.same defaultLanguage) :
    merge data (merge data existing language defaultLanguage force) language' defaultLanguage force =
      merge data existing language defaultLanguage force := by
  unfold merge
  rw [hsame]
  cases force with
  | true => rw [mergeAs_force hdata.keys, mergeAs_force hdata.keys]
  | false => exact mergeAs_of_subset hdata.keys fun k hk => (mem_keysOf_mergeAs hdata.keys).2 (.inr hk)

end

end Phrasebook.Keys
