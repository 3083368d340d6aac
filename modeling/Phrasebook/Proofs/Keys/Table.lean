import Mathlib.Data.List.Forall2
import Phrasebook.Keys.Locale
import Phrasebook.Proofs.Text.Scalar

/-! Extracted keys as a table. Tables are those of RFC 4180 with a line feed between records: fields
between commas, in quotes when they hold a comma, a quote or a line break, with a quote inside
written twice. The text written for some keys is such a table, and it reads in one way only. -/

namespace Phrasebook.Table

def comma : CodePoint := ⟨0x2C, by decide⟩

def quote : CodePoint := ⟨0x22, by decide⟩

def lineFeed : CodePoint := ⟨0x0A, by decide⟩

def carriageReturn : CodePoint := ⟨0x0D, by decide⟩

def IsTextData (c : CodePoint) : Prop :=
  c ≠ comma ∧ c ≠ quote ∧ c ≠ lineFeed ∧ c ≠ carriageReturn

instance : DecidablePred IsTextData := fun _ => inferInstanceAs (Decidable (_ ∧ _))

/-- What stands between the quotes of a field, and the value it spells. -/
inductive Quoted : Text → Text → Prop
  | nil : Quoted [] []
  | char {c : CodePoint} {raw value : Text} (hc : c ≠ quote) (h : Quoted raw value) :
      Quoted (c :: raw) (c :: value)
  | twice {raw value : Text} (h : Quoted raw value) :
      Quoted (quote :: quote :: raw) (quote :: value)

inductive Field : Text → Text → Prop
  | plain {value : Text} (h : ∀ c ∈ value, IsTextData c) : Field value value
  | quoted {raw value : Text} (h : Quoted raw value) : Field (quote :: raw ++ [quote]) value

inductive Record : Text → List Text → Prop
  | single {raw value : Text} (h : Field raw value) : Record raw [value]
  | more {raw value rest : Text} {values : List Text} (h : Field raw value)
      (hrest : Record rest values) : Record (raw ++ comma :: rest) (value :: values)

/-- Records with line feeds between them, and perhaps one behind the last. -/
inductive IsTable : Text → List (List Text) → Prop
  | last {raw : Text} {values : List Text} (h : Record raw values) : IsTable raw [values]
  | closed {raw : Text} {values : List Text} (h : Record raw values) :
      IsTable (raw ++ [lineFeed]) [values]
  | more {raw rest : Text} {values : List Text} {records : List (List Text)}
      (h : Record raw values) (hrest : IsTable rest records) :
      IsTable (raw ++ lineFeed :: rest) (values :: records)

/-! ### Reading a table -/

inductive Place
  | start
  | plain
  | inside
  /-- Past a quote inside: the end of the field, or the first of two. -/
  | past
deriving DecidableEq

/-- What is read of the field at hand, of the record at hand, and of those behind it. -/
structure Reading where
  field : Text
  fields : List Text
  records : List (List Text)

namespace Reading

def none : Reading := ⟨[], [], []⟩

def rows (r : Reading) : List (List Text) := (r.field :: r.fields) :: r.records

def put (t : Text) (r : Reading) : Reading := { r with field := t ++ r.field }

def nextField (r : Reading) : Reading := ⟨[], r.field :: r.fields, r.records⟩

def nextRecord (r : Reading) : Reading := ⟨[], [], r.rows⟩

end Reading

/-- What follows at a place; nothing when the text is no table. A line feed at the very end closes
the last record. -/
def readFrom (place : Place) : Text → Option Reading
  | [] => if place = .inside then none else some .none
  | c :: rest =>
    if place = .inside then
      if c = quote then readFrom .past rest else (readFrom .inside rest).map (.put [c])
    else if c = comma then (readFrom .start rest).map .nextField
    else if c = lineFeed then
      if rest = [] then some .none else (readFrom .start rest).map .nextRecord
    else if c = quote then
      if place = .start then readFrom .inside rest
      else if place = .past then (readFrom .inside rest).map (.put [c])
      else none
    else if c = carriageReturn ∨ place = .past then none
    else (readFrom .plain rest).map (.put [c])

def read (t : Text) : Option (List (List Text)) := (readFrom .start t).map Reading.rows

example : read ("a,\"b,\"\"\nc\"\n,\n" : Text) =
    some [[("a" : Text), ("b,\"\nc" : Text)], [[], []]] := by decide

namespace Reading

variable {s t : Text} {r : Reading}

theorem put_put : (r.put t).put s = r.put (s ++ t) := by
  simp [put]

theorem map_put_put {found : Option Reading} :
    (found.map (put t)).map (put s) = found.map (put (s ++ t)) := by
  cases found <;> simp [put_put]

theorem rows_put_nextField : (r.nextField.put t).rows = (t :: r.field :: r.fields) :: r.records := by
  simp [put, nextField, rows]

end Reading

section Grammar

variable {raw rest value t : Text} {values : List Text} {records : List (List Text)}

def EndsField (rest : Text) : Prop := ∀ c, rest.head? = some c → c = comma ∨ c = lineFeed

theorem readFrom_of_endsField (h : EndsField rest) {place : Place} (hplace : place ≠ .inside) :
    readFrom place rest = readFrom .plain rest := by
  cases rest with
  | nil => simp [readFrom, hplace]
  | cons c rest =>
    rcases h c rfl with rfl | rfl <;>
      simp [readFrom, hplace, show lineFeed ≠ comma by decide]

theorem readFrom_textData {c : CodePoint} (hc : IsTextData c) {place : Place}
    (hplace : place = .start ∨ place = .plain) :
    readFrom place (c :: t) = (readFrom .plain t).map (.put [c]) := by
  obtain ⟨h₁, h₂, h₃, h₄⟩ := hc
  rcases hplace with rfl | rfl <;> simp [readFrom, h₁, h₂, h₃, h₄]

theorem readFrom_plain (h : ∀ c ∈ value, IsTextData c) (hrest : EndsField rest) :
    readFrom .start (value ++ rest) = (readFrom .plain rest).map (.put value) ∧
      readFrom .plain (value ++ rest) = (readFrom .plain rest).map (.put value) := by
  induction value with
  | nil =>
    have hnone : (readFrom .plain rest).map (.put []) = readFrom .plain rest := by
      cases readFrom .plain rest <;> rfl
    rw [hnone]
    exact ⟨readFrom_of_endsField hrest (by decide), rfl⟩
  | cons c value ih =>
    obtain ⟨hc, hvalue⟩ := List.forall_mem_cons.1 h
    have hnext := (ih hvalue).2
    rw [List.cons_append, readFrom_textData hc (.inl rfl), readFrom_textData hc (.inr rfl), hnext,
      Reading.map_put_put]
    exact ⟨rfl, rfl⟩

theorem readFrom_quoted (h : Quoted raw value) :
    readFrom .inside (raw ++ quote :: rest) = (readFrom .past rest).map (.put value) := by
  induction h with
  | nil =>
    rw [List.nil_append, readFrom, if_pos rfl, if_pos rfl]
    cases readFrom .past rest <;> rfl
  | char hc _ ih =>
    rw [List.cons_append, readFrom, if_pos rfl, if_neg hc, ih, Reading.map_put_put]
    rfl
  | twice _ ih =>
    have htwice : ∀ t, readFrom .inside (quote :: quote :: t) =
        (readFrom .inside t).map (.put [quote]) := fun t => by
      simp [readFrom, show quote ≠ comma by decide, show quote ≠ lineFeed by decide]
    rw [List.cons_append, List.cons_append, htwice, ih, Reading.map_put_put]
    rfl

theorem readFrom_field (h : Field raw value) (hrest : EndsField rest) :
    readFrom .start (raw ++ rest) = (readFrom .plain rest).map (.put value) := by
  cases h with
  | plain h => exact (readFrom_plain h hrest).1
  | quoted h =>
    have hopen : ∀ t, readFrom .start (quote :: t) = readFrom .inside t := fun t => by
      simp [readFrom, show quote ≠ comma by decide, show quote ≠ lineFeed by decide]
    rw [List.cons_append, List.cons_append, hopen, List.append_assoc, List.singleton_append,
      readFrom_quoted h, readFrom_of_endsField hrest (by decide)]

theorem readFrom_record (h : Record raw values) (hrest : EndsField rest)
    (hends : readFrom .plain rest = some ⟨[], [], records⟩) :
    (readFrom .start (raw ++ rest)).map Reading.rows = some (values :: records) := by
  induction h with
  | single h =>
    rw [readFrom_field h hrest, hends]
    simp [Reading.put, Reading.rows]
  | @more raw value behind values h _ ih =>
    obtain ⟨r, hr, hrows⟩ := Option.map_eq_some_iff.1 ih
    have hcomma : readFrom .plain (comma :: (behind ++ rest)) = some r.nextField := by
      rw [readFrom, if_neg (by decide), if_pos rfl, hr]
      rfl
    have hendsField : EndsField (comma :: (behind ++ rest)) :=
      fun c hc => .inl (Option.some.inj hc).symm
    rw [List.append_assoc, List.cons_append, readFrom_field h hendsField, hcomma]
    rw [Reading.rows, List.cons.injEq] at hrows
    simp [Reading.rows_put_nextField, hrows.1, hrows.2]

theorem read_of_isTable (h : IsTable t records) (hlast : t.getLast? ≠ some lineFeed) :
    read t = some records := by
  induction h with
  | last h =>
    have hend : EndsField [] := fun c hc => nomatch hc
    have hread := readFrom_record h hend rfl
    rwa [List.append_nil] at hread
  | closed h => exact absurd List.getLast?_concat hlast
  | @more raw rest values records h hrest ih =>
    have hne : rest ≠ [] := by
      rintro rfl
      exact hlast List.getLast?_concat
    have hlast' : rest.getLast? ≠ some lineFeed := by
      rwa [← List.singleton_append, ← List.append_assoc, List.getLast?_append_of_ne_nil _ hne]
        at hlast
    obtain ⟨r, hr, hrows⟩ := Option.map_eq_some_iff.1 (ih hlast')
    have hfeed : readFrom .plain (lineFeed :: rest) = some ⟨[], [], records⟩ := by
      rw [readFrom, if_neg (by decide), if_neg (by decide), if_pos rfl, if_neg hne, hr,
        Option.map_some, Reading.nextRecord, hrows]
    have hendsField : EndsField (lineFeed :: rest) := fun c hc => .inr (Option.some.inj hc).symm
    exact readFrom_record h hendsField hfeed

theorem IsTable.unique {others : List (List Text)} (h : IsTable t records)
    (h' : IsTable t others) (hlast : t.getLast? ≠ some lineFeed) : records = others :=
  Option.some.inj ((read_of_isTable h hlast).symm.trans (read_of_isTable h' hlast))

end Grammar

/-! ### Writing a table -/

open Keys

theorem needsQuotes_eq_false_iff {c : CodePoint} : needsQuotes c = false ↔ IsTextData c := by
  obtain ⟨v, hv⟩ := c
  simp only [needsQuotes, IsTextData, comma, quote, lineFeed, carriageReturn, ne_eq,
    CodePoint.mk.injEq, Bool.or_eq_false_iff, beq_eq_false_iff_ne]
  tauto

theorem quoted_twice (value : Text) :
    Quoted (value.flatMap fun c => if c.val = 0x22 then [c, c] else [c]) value := by
  induction value with
  | nil => exact .nil
  | cons c value ih =>
    rw [List.flatMap_cons]
    split_ifs with hc
    · obtain rfl : c = quote := by
        obtain ⟨v, hv⟩ := c
        exact CodePoint.mk.injEq .. ▸ hc
      exact .twice ih
    · exact .char (fun h => hc (congrArg CodePoint.val h)) ih

theorem field_escapeField (value : Text) : Field (escapeField value) value := by
  rw [escapeField]
  split_ifs with hquotes
  · exact .quoted (quoted_twice value)
  · refine .plain fun c hc => needsQuotes_eq_false_iff.1 ?_
    simpa using List.any_eq_false.1 (Bool.eq_false_iff.2 hquotes) c hc

theorem getLast?_of_field {raw value : Text} (h : Field raw value) :
    raw.getLast? ≠ some lineFeed := by
  cases h with
  | plain h => exact fun hlast => (h _ (List.mem_of_getLast? hlast)).2.2.1 rfl
  | quoted h => 
    rw [List.getLast?_concat]
    decide

theorem getLast?_of_record {raw : Text} {values : List Text} (h : Record raw values) :
    raw.getLast? ≠ some lineFeed := by
  induction h with
  | single h => exact getLast?_of_field h
  | @more raw value rest values h hrest ih =>
    rw [List.getLast?_append_of_ne_nil _ (List.cons_ne_nil _ _)]
    rcases rest with _ | ⟨c, rest⟩
    · decide
    · rwa [List.getLast?_cons_cons]

section Join

variable {raw : Text} {raws : List Text} {values : List Text} {records : List (List Text)}

theorem join_ne_nil {sep : Text} (h : raw ≠ []) : Text.join sep (raw :: raws) ≠ [] := by
  cases raws with
  | nil => rwa [Text.join_singleton]
  | cons next raws => rw [Text.join_cons_cons]; exact List.append_ne_nil_of_left_ne_nil h _

theorem isTable_join (h : Record raw values) (hmore : List.Forall₂ Record raws records) :
    IsTable (Text.join "\n" (raw :: raws)) (values :: records) := by
  induction hmore generalizing raw values with
  | nil =>
    rw [Text.join_singleton]
    exact .last h
  | cons hnext _ ih => exact .more h (ih hnext)

theorem getLast?_join (h : Record raw values) (hmore : List.Forall₂ Record raws records)
    (hne : ∀ r ∈ raws, r ≠ []) : (Text.join "\n" (raw :: raws)).getLast? ≠ some lineFeed := by
  induction hmore generalizing raw values with
  | nil =>
    rw [Text.join_singleton]
    exact getLast?_of_record h
  | @cons next _ raws _ hnext _ ih =>
    obtain ⟨hnext', hraws⟩ := List.forall_mem_cons.1 hne
    rw [Text.join_cons_cons, ← List.append_assoc, List.getLast?_append_of_ne_nil _ (join_ne_nil hnext')]
    exact ih hnext hraws

end Join

/-! ### The table of some keys -/

/-- The row of a key: the key, an empty column, and the text the key stands for. -/
def rowOf (k : Key) : List Text := [k.key, [], k.text]

def header : List Text := ["Key", "English", "Korean"]

theorem record_row (k : Key) : Record k.row (rowOf k) := by
  rw [Key.row, Text.join_cons_cons, Text.join_cons_cons, Text.join_singleton]
  exact .more (field_escapeField k.key)
    (.more (field_escapeField []) (.single (field_escapeField k.text)))

theorem record_sheetHeader : Record sheetHeader header := by
  have hkey : Field ("Key" : Text) "Key" := .plain (by decide)
  have henglish : Field ("English" : Text) "English" := .plain (by decide)
  have hkorean : Field ("Korean" : Text) "Korean" := .plain (by decide)
  exact .more hkey (.more henglish (.single hkorean))

theorem row_ne_nil (k : Key) : k.row ≠ [] := by
  rw [Key.row, Text.join_cons_cons]
  exact List.append_ne_nil_of_right_ne_nil _ (List.cons_ne_nil _ _)

section Sheet

variable (keys : List Key)

theorem records_rows : List.Forall₂ Record (keys.map Key.row) (keys.map rowOf) := by
  rw [List.forall₂_map_left_iff, List.forall₂_map_right_iff]
  exact List.forall₂_same.2 fun k _ => record_row k

theorem isTable_sheet : IsTable (sheet keys) (header :: keys.map rowOf) :=
  isTable_join record_sheetHeader (records_rows keys)

theorem getLast?_sheet : (sheet keys).getLast? ≠ some lineFeed :=
  getLast?_join record_sheetHeader (records_rows keys) <| by
    rw [List.forall_mem_map]
    exact fun k _ => row_ne_nil k

theorem read_sheet : read (sheet keys) = some (header :: keys.map rowOf) :=
  read_of_isTable (isTable_sheet keys) (getLast?_sheet keys)

end Sheet

end Phrasebook.Table
