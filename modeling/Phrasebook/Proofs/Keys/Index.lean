import Phrasebook.Keys.Locale
import Phrasebook.Proofs.Text.Scalar
import Phrasebook.Settings.File
import Phrasebook.Text.Identifier

/-! The module that brings the language files together, read as a script: which names it imports, what it
exports under which keys, and when it is one that can be loaded. A language is put there as a name as it
is, so this hangs on the language being one. -/

namespace Phrasebook

namespace CodePoint

/-- The runs of code points that can start a name of a script, though not one that stays a name in its
compatibility forms. -/
def compatibilityRuns : List (Nat × Nat) := [
  (0x37A, 0x37A), (0xE33, 0xE33), (0xEB3, 0xEB3), (0x309B, 0x309C), (0xFC5E, 0xFC63), (0xFDFA, 0xFDFB),
  (0xFE70, 0xFE70), (0xFE72, 0xFE72), (0xFE74, 0xFE74), (0xFE76, 0xFE76), (0xFE78, 0xFE78),
  (0xFE7A, 0xFE7A), (0xFE7C, 0xFE7C), (0xFE7E, 0xFE7E), (0xFF9E, 0xFF9F)]

def startsWord (c : CodePoint) : Bool := c.startsName || c.val == 0x24 || c.inRuns compatibilityRuns

def continuesWord (c : CodePoint) : Bool :=
  c.startsWord || c.continuesName || c.val == 0x200C || c.val == 0x200D

end CodePoint

namespace Script

/-- Whether a text is a name, reserved or not. -/
def isWord : Text → Bool
  | [] => false
  | c :: rest => c.startsWord && rest.all CodePoint.continuesWord

/-- The names that nothing in a module can be bound to. -/
def reserved : List Text := [
  "arguments", "await", "break", "case", "catch", "class", "const", "continue", "debugger", "default",
  "delete", "do", "else", "enum", "eval", "export", "extends", "false", "finally", "for", "function",
  "if", "implements", "import", "in", "instanceof", "interface", "let", "new", "null", "package",
  "private", "protected", "public", "return", "static", "super", "switch", "this", "throw", "true", "try",
  "typeof", "var", "void", "while", "with", "yield"].map Text.ofString

inductive Token where
  | word (t : Text)
  | quoted (t : Text)
  | mark (c : CodePoint)
deriving DecidableEq

inductive Unfinished where
  | between
  | word (t : Text)
  | quoted (t : Text)
deriving DecidableEq

structure Reader where
  tokens : List Token
  unfinished : Unfinished
deriving DecidableEq

namespace Reader

def next (tokens : List Token) (c : CodePoint) : Option Reader :=
  if c = ' ' ∨ c = '\n' then some ⟨tokens, .between⟩
  else if c = '"' then some ⟨tokens, .quoted []⟩
  else if c.continuesWord then some ⟨tokens, .word [c]⟩
  else if c ∈ (";:,=\x7b\x7d" : Text) then some ⟨tokens ++ [.mark c], .between⟩
  else none

/-- The next character. A quoted text has no escape in it, and ends on its line. -/
def feed (r : Reader) (c : CodePoint) : Option Reader :=
  match r.unfinished with
  | .between => next r.tokens c
  | .word t =>
    if c.continuesWord then some ⟨r.tokens, .word (t ++ [c])⟩ else next (r.tokens ++ [.word t]) c
  | .quoted t =>
    if c = '"' then some ⟨r.tokens ++ [.quoted t], .between⟩
    else if c ∈ ("\\\n\r" : Text) then none
    else some ⟨r.tokens, .quoted (t ++ [c])⟩

def finish? (r : Reader) : Option (List Token) :=
  match r.unfinished with
  | .between => some r.tokens
  | .word t => some (r.tokens ++ [.word t])
  | .quoted _ => none

/-- The same, behind other tokens. -/
def behind (ts : List Token) (r : Reader) : Reader := ⟨ts ++ r.tokens, r.unfinished⟩

end Reader

def tokens? (code : Text) : Option (List Token) :=
  (code.foldlM Reader.feed ⟨[], .between⟩).bind Reader.finish?

/-- A module of imports, each the default export of a file, and one exported object. -/
structure Index where
  imports : List (Text × Text)
  exported : Text
  /-- The keys of the object, with the names that stand behind them. -/
  entries : List (Text × Text)
deriving DecidableEq

namespace Index

def readImports : List Token → List (Text × Text) × List Token
  | .word first :: .word name :: .word second :: .quoted file :: .mark c :: rest =>
    if first = "import" ∧ second = "from" ∧ c = ';' then
      ((name, file) :: (readImports rest).1, (readImports rest).2)
    else ([], .word first :: .word name :: .word second :: .quoted file :: .mark c :: rest)
  | tokens => ([], tokens)

def readEntries : List Token → Option (List (Text × Text))
  | [.mark c, .mark d] => if c = '\x7d' ∧ d = ';' then some [] else none
  | .word key :: .mark c :: .word name :: .mark d :: rest =>
    if c = ':' ∧ d = ',' then (readEntries rest).map ((key, name) :: ·) else none
  | _ => none

def readObject (imports : List (Text × Text)) : List Token → Option Index
  | .word first :: .word second :: .word name :: .mark c :: .mark d :: rest =>
    if first = "export" ∧ second = "const" ∧ c = '=' ∧ d = '\x7b' then
      (readEntries rest).map fun entries => ⟨imports, name, entries⟩
    else none
  | _ => none

def read? (code : Text) : Option Index := do
  let tokens ← tokens? code
  readObject (readImports tokens).1 (readImports tokens).2

/-- The names that the module binds. -/
def names (index : Index) : List Text := index.imports.map Prod.fst ++ [index.exported]

/-- Whether the module can be loaded: it binds names that can be bound, none of them twice, and its
object has names as keys, and behind them imported ones. -/
structure IsValid (index : Index) : Prop where
  bound : ∀ name ∈ index.names, isWord name = true ∧ name ∉ reserved
  nodup : index.names.Nodup
  keys : ∀ e ∈ index.entries, isWord e.1 = true
  values : ∀ e ∈ index.entries, e.2 ∈ index.imports.map Prod.fst

/-- The file that the exported object has for a key. The last of several entries counts, and an entry
for `__proto__` sets the prototype of the object and is no key of it. -/
def fileOf? (index : Index) (key : Text) : Option Text :=
  if key = "__proto__" then none
  else do
    let entry ← index.entries.reverse.find? fun e => e.1 == key
    let imported ← index.imports.find? fun i => i.1 == entry.2
    return imported.2

end Index

section Reading

variable {r : Reader} {ts : List Token} {t rest : Text}

open Reader

theorem next_behind (ts tokens : List Token) (c : CodePoint) :
    next (ts ++ tokens) c = (next tokens c).map (behind ts) := by
  unfold next
  split_ifs <;> simp [behind]

theorem feed_behind (ts : List Token) (r : Reader) (c : CodePoint) :
    feed (behind ts r) c = (feed r c).map (behind ts) := by
  obtain ⟨tokens, unfinished⟩ := r
  cases unfinished with
  | between => exact next_behind ts tokens c
  | word t =>
    simp only [feed, behind]
    split_ifs
    · rfl
    · rw [List.append_assoc, next_behind]
  | quoted t =>
    simp only [feed, behind]
    split_ifs <;> simp [behind]

theorem foldlM_behind (ts : List Token) (r : Reader) (t : Text) :
    t.foldlM feed (behind ts r) = (t.foldlM feed r).map (behind ts) := by
  induction t generalizing r with
  | nil => rfl
  | cons c t ih =>
    rw [List.foldlM_cons, List.foldlM_cons, feed_behind]
    cases feed r c with
    | none => rfl
    | some r' => exact ih r'

def Lexes (t : Text) (ts : List Token) : Prop := t.foldlM feed ⟨[], .between⟩ = some ⟨ts, .between⟩

instance (t : Text) (ts : List Token) : Decidable (Lexes t ts) := inferInstanceAs (Decidable (_ = _))

theorem Lexes.foldlM (h : Lexes t ts) (tokens : List Token) :
    t.foldlM feed ⟨tokens, .between⟩ = some ⟨tokens ++ ts, .between⟩ := by
  have hbehind := foldlM_behind tokens ⟨[], .between⟩ t
  rw [show t.foldlM feed ⟨[], .between⟩ = _ from h] at hbehind
  simpa [behind] using hbehind

theorem Lexes.append {t' : Text} {ts' : List Token} (h : Lexes t ts) (h' : Lexes t' ts') :
    Lexes (t ++ t') (ts ++ ts') := by
  rw [Lexes, List.foldlM_append, show t.foldlM feed ⟨[], .between⟩ = _ from h]
  exact h'.foldlM ts

theorem lexes_lines {α : Type} {row : α → Text} {tokensOf : α → List Token} :
    ∀ {xs : List α}, (∀ x ∈ xs, Lexes (row x) (tokensOf x)) →
      Lexes (Text.join "\n" (xs.map row)) (xs.flatMap tokensOf)
  | [], _ => rfl
  | [x], h => by
    rw [List.map_singleton, Text.join_singleton, List.flatMap_singleton]
    exact h x List.mem_cons_self
  | x :: y :: xs, h => by
    obtain ⟨hx, hrest⟩ := List.forall_mem_cons.1 h
    have hline : Lexes "\n" [] := by decide +kernel
    rw [List.map_cons, List.map_cons, Text.join_cons_cons, ← List.map_cons, List.flatMap_cons]
    exact hx.append (hline.append (lexes_lines hrest))

theorem continuesWord_of_isWord (h : isWord t = true) : ∀ c ∈ t, c.continuesWord = true := by
  cases t with
  | nil => simp
  | cons c t =>
    rw [isWord, Bool.and_eq_true, List.all_eq_true] at h
    refine List.forall_mem_cons.2 ⟨?_, h.2⟩
    simp [CodePoint.continuesWord, h.1]

theorem foldlM_word (tokens : List Token) (w : Text) (h : ∀ c ∈ t, c.continuesWord = true) :
    t.foldlM feed ⟨tokens, .word w⟩ = some ⟨tokens, .word (w ++ t)⟩ := by
  induction t generalizing w with
  | nil => simp
  | cons c t ih =>
    obtain ⟨hc, ht⟩ := List.forall_mem_cons.1 h
    rw [List.foldlM_cons, feed]
    simp only [hc, if_true]
    exact (ih _ ht).trans (by rw [List.append_assoc, List.singleton_append])

theorem not_continuesWord_of_mem {c : CodePoint} (h : c ∈ (" \n\"\\\r" : Text)) :
    c.continuesWord = false := by
  revert c
  decide +kernel

theorem next_of_continuesWord {c : CodePoint} (tokens : List Token) (h : c.continuesWord = true) :
    next tokens c = some ⟨tokens, .word [c]⟩ := by
  have hne (d : CodePoint) (hd : d.continuesWord = false) : c ≠ d := by
    rintro rfl
    rw [hd] at h
    cases h
  rw [next, if_neg, if_neg (hne _ (not_continuesWord_of_mem (by decide))), if_pos h]
  rintro (hblank | hblank)
  · exact hne _ (not_continuesWord_of_mem (by decide)) hblank
  · exact hne _ (not_continuesWord_of_mem (by decide)) hblank

theorem Lexes.word {c : CodePoint} (ht : isWord t = true) (hc : c.continuesWord = false)
    (h : Lexes (c :: rest) ts) : Lexes (t ++ c :: rest) (.word t :: ts) := by
  cases t with
  | nil => cases ht
  | cons d t =>
    obtain ⟨hd, htail⟩ := List.forall_mem_cons.1 (continuesWord_of_isWord ht)
    have hfirst : feed ⟨[], .between⟩ d = some ⟨[], .word [d]⟩ := next_of_continuesWord [] hd
    have hword : (d :: t).foldlM feed ⟨[], .between⟩ = some ⟨[], .word (d :: t)⟩ := by
      rw [List.foldlM_cons, hfirst]
      exact foldlM_word [] [d] htail
    -- The character behind the name is read as if the name had ended before it.
    have hend : feed ⟨[], .word (d :: t)⟩ c = feed ⟨[.word (d :: t)], .between⟩ c := by
      simp only [feed, hc, Bool.false_eq_true, if_false, List.nil_append]
    rw [Lexes, List.foldlM_append, hword, Option.bind_eq_bind, Option.bind_some, List.foldlM_cons, hend,
      ← List.foldlM_cons]
    exact h.foldlM [.word (d :: t)]

theorem foldlM_quoted (q : Text) (h : ∀ c ∈ t, c ∉ ("\"\\\n\r" : Text)) :
    t.foldlM feed ⟨ts, .quoted q⟩ = some ⟨ts, .quoted (q ++ t)⟩ := by
  induction t generalizing q with
  | nil => simp
  | cons c t ih =>
    obtain ⟨hc, ht⟩ := List.forall_mem_cons.1 h
    have hquote : c ≠ '"' := fun heq => hc (heq ▸ by decide)
    have hplain : c ∉ ("\\\n\r" : Text) := fun hmem => hc (List.mem_cons_of_mem _ hmem)
    rw [List.foldlM_cons, feed]
    simp only [if_neg hquote, if_neg hplain]
    exact (ih _ ht).trans (by rw [List.append_assoc, List.singleton_append])

theorem Lexes.quoted (ht : ∀ c ∈ t, c ∉ ("\"\\\n\r" : Text)) (h : Lexes rest ts) :
    Lexes ("\"" ++ t ++ "\"" ++ rest) (.quoted t :: ts) := by
  have hopen : List.foldlM feed ⟨[], .between⟩ (Text.ofString "\"") = some ⟨[], .quoted []⟩ := by
    decide +kernel
  have hclose : List.foldlM feed ⟨[], .quoted t⟩ (Text.ofString "\"") = some ⟨[.quoted t], .between⟩ := rfl
  rw [Lexes, List.append_assoc, List.append_assoc, List.foldlM_append, hopen, Option.bind_eq_bind,
    Option.bind_some, List.foldlM_append, foldlM_quoted [] ht, Option.bind_eq_bind, Option.bind_some,
    List.nil_append, List.foldlM_append, hclose]
  exact h.foldlM [.quoted t]

end Reading

section Indexing

variable {languages : List Text} {l : Text}

/-- Where the index looks for the file of a language. -/
def fileOf (l : Text) : Text := "./" ++ l ++ ".json"

def importTokens (l : Text) : List Token :=
  [.word "import", .word l, .word "from", .quoted (fileOf l), .mark ';']

def entryTokens (l : Text) : List Token := [.word l, .mark ':', .word l, .mark ',']

def objectTokens (languages : List Text) : List Token :=
  [.word "export", .word "const", .word "translations", .mark '=', .mark '\x7b'] ++
    (languages.flatMap entryTokens ++ [.mark '\x7d', .mark ';'])

def indexOf (languages : List Text) : Index where
  imports := languages.map fun l => (l, fileOf l)
  exported := "translations"
  entries := languages.map fun l => (l, l)

theorem lexes_import (h : isWord l = true) :
    Lexes ("import " ++ l ++ " from \"./" ++ l ++ ".json\";") (importTokens l) := by
  have hlist : ∀ c ∈ ("\"\\\n\r" : Text), c ∈ ("\n\"\\\r" : Text) := by decide
  have hplain : ∀ c ∈ fileOf l, c ∉ ("\"\\\n\r" : Text) := by
    intro c hc hmem
    rw [fileOf, List.mem_append, List.mem_append] at hc
    rcases hc with (hc | hc) | hc
    · revert c
      decide
    · have hword := continuesWord_of_isWord h c hc
      rw [not_continuesWord_of_mem (List.mem_cons_of_mem _ (hlist c hmem))] at hword
      cases hword
    · revert c
      decide
  have hfrom : Lexes (CodePoint.ofChar ' ' :: "from ") [.word "from"] := by decide +kernel
  have hline := (show Lexes "import " [.word "import"] by decide +kernel).append
    ((hfrom.word h (by decide +kernel)).append
      (Lexes.quoted hplain (show Lexes ";" [.mark ';'] by decide +kernel)))
  simpa [fileOf, Text.ofString, importTokens] using hline

theorem lexes_entry (h : isWord l = true) : Lexes ("  " ++ l ++ ": " ++ l ++ ",") (entryTokens l) := by
  have hcomma : Lexes [CodePoint.ofChar ','] [.mark ','] := by decide +kernel
  have hcolon : Lexes [CodePoint.ofChar ':', CodePoint.ofChar ' '] [.mark ':'] := by decide +kernel
  have hline := (show Lexes "  " [] by decide +kernel).append
    ((hcolon.word h (by decide +kernel)).append (hcomma.word h (by decide +kernel)))
  simpa [Text.ofString, entryTokens] using hline

theorem readImports_tokens (exported languages : List Text) :
    Index.readImports (languages.flatMap importTokens ++ objectTokens exported) =
      (languages.map fun l => (l, fileOf l), objectTokens exported) := by
  induction languages with
  | nil => rfl
  | cons l languages ih =>
    rw [List.flatMap_cons, List.append_assoc, importTokens]
    simp only [List.cons_append, List.nil_append, Index.readImports, ih, List.map_cons, and_self, if_true]

theorem readEntries_tokens (languages : List Text) :
    Index.readEntries (languages.flatMap entryTokens ++ [.mark '\x7d', .mark ';']) =
      some (languages.map fun l => (l, l)) := by
  induction languages with
  | nil => rfl
  | cons l languages ih =>
    rw [List.flatMap_cons, List.append_assoc, entryTokens]
    simp only [List.cons_append, List.nil_append, Index.readEntries, ih, List.map_cons, and_self, if_true,
      Option.map_some]

theorem read?_indexModule (h : ∀ l ∈ languages, isWord l = true) :
    Index.read? (Keys.indexModule languages) = some (indexOf languages) := by
  have hobject : Lexes "\n\nexport const translations = \x7b\n"
      [.word "export", .word "const", .word "translations", .mark '=', .mark '\x7b'] := by decide +kernel
  have hend : Lexes "\n\x7d;\n" [.mark '\x7d', .mark ';'] := by decide +kernel
  have hlexes : Lexes (Keys.indexModule languages)
      (languages.flatMap importTokens ++ objectTokens languages) := by
    have hall := (((lexes_lines fun l hl => lexes_import (h l hl)).append hobject).append
      (lexes_lines fun l hl => lexes_entry (h l hl))).append hend
    simpa only [Keys.indexModule, objectTokens, List.append_assoc] using hall
  have htokens : tokens? (Keys.indexModule languages) =
      some (languages.flatMap importTokens ++ objectTokens languages) := by
    rw [tokens?, show (Keys.indexModule languages).foldlM Reader.feed _ = _ from hlexes]
    rfl
  rw [Index.read?, htokens, Option.bind_eq_bind, Option.bind_some, readImports_tokens]
  simp only [objectTokens, List.cons_append, List.nil_append, Index.readObject, readEntries_tokens,
    and_self, if_true, Option.map_some, indexOf]

/-- Whether a script is an index of languages: it can be loaded, it imports the file of each of them, and
what it exports as `translations` has for each of them its file. -/
def IsIndexOf (code : Text) (languages : List Text) : Prop :=
  ∃ index, Index.read? code = some index ∧ index.IsValid ∧ index.exported = "translations" ∧
    index.imports.map Prod.snd = languages.map fileOf ∧
    ∀ l ∈ languages, index.fileOf? l = some (fileOf l)

theorem isWord_of_fileOf? {index : Index} {key file : Text} (hvalid : index.IsValid)
    (h : index.fileOf? key = some file) : isWord key = true ∧ key ≠ "__proto__" := by
  unfold Index.fileOf? at h
  split_ifs at h with hproto
  obtain ⟨entry, hentry, -⟩ := Option.bind_eq_some_iff.1 h
  have hkey := List.find?_some hentry
  have hmem := hvalid.keys entry (List.mem_reverse.1 (List.mem_of_find?_eq_some hentry))
  exact ⟨beq_iff_eq.1 hkey ▸ hmem, hproto⟩

theorem names_indexOf (languages : List Text) : (indexOf languages).names = languages ++ [Text.ofString "translations"] := by
  have hfst : (Prod.fst ∘ fun l : Text => (l, fileOf l)) = id := rfl
  rw [Index.names, indexOf, List.map_map, hfst, List.map_id]

theorem find?_pair (f : Text → Text) (h : l ∈ languages) :
    (languages.map fun l => (l, f l)).find? (fun e => e.1 == l) = some (l, f l) := by
  induction languages with
  | nil => cases h
  | cons m languages ih =>
    rw [List.map_cons]
    by_cases hm : m = l
    · subst hm
      rw [List.find?_cons_of_pos (by exact beq_self_eq_true m)]
    · rw [List.find?_cons_of_neg (by simpa using hm)]
      exact ih ((List.mem_cons.1 h).resolve_left (Ne.symm hm))

theorem fileOf?_indexOf (h : l ∈ languages) (hproto : l ≠ "__proto__") :
    (indexOf languages).fileOf? l = some (fileOf l) := by
  have hentry : (indexOf languages).entries.reverse.find? (fun e => e.1 == l) = some (l, l) := by
    rw [indexOf, ← List.map_reverse]
    exact find?_pair id (List.mem_reverse.2 h)
  have himported : (indexOf languages).imports.find? (fun i => i.1 == l) = some (l, fileOf l) :=
    find?_pair fileOf h
  rw [Index.fileOf?, if_neg hproto, hentry, Option.bind_eq_bind, Option.bind_some, himported]
  rfl

/-- **When the index can be loaded.** For languages that come once each, the module written for them is an
index of them exactly when each is a name that can be bound, other than the name of the exported object and
`__proto__`. -/
theorem isIndexOf_indexModule_iff (hnodup : languages.Nodup) :
    IsIndexOf (Keys.indexModule languages) languages ↔ ∀ l ∈ languages,
      isWord l = true ∧ l ∉ reserved ∧ l ≠ "translations" ∧ l ≠ "__proto__" := by
  constructor
  · rintro ⟨index, hread, hvalid, -, -, hfiles⟩ l hl
    -- That every language can be looked up makes the names words, and then there is one reading only.
    have hword (l : Text) (hl : l ∈ languages) := isWord_of_fileOf? hvalid (hfiles l hl)
    rw [read?_indexModule fun l hl => (hword l hl).1, Option.some.injEq] at hread
    subst hread
    have hbound := hvalid.bound l (by simp [names_indexOf, hl])
    refine ⟨hbound.1, hbound.2, ?_, (hword l hl).2⟩
    rintro rfl
    have htwice := hvalid.nodup
    rw [names_indexOf, List.nodup_append] at htwice
    exact htwice.2.2 _ hl _ List.mem_cons_self rfl
  · intro h
    refine ⟨indexOf languages, read?_indexModule fun l hl => (h l hl).1, ⟨?bound, ?nodup, ?keys, ?values⟩,
      rfl, by simp [indexOf], fun l hl => fileOf?_indexOf hl (h l hl).2.2.2⟩
    case bound =>
      intro name hname
      rw [names_indexOf, List.mem_append, List.mem_singleton] at hname
      rcases hname with hname | rfl
      · exact ⟨(h name hname).1, (h name hname).2.1⟩
      · decide +kernel
    case nodup =>
      rw [names_indexOf, List.nodup_append]
      refine ⟨hnodup, by simp, ?_⟩
      rintro l hl _ hname rfl
      exact (h l hl).2.2.1 (List.mem_singleton.1 hname)
    case keys =>
      intro e he
      obtain ⟨l, hl, rfl⟩ := List.mem_map.1 he
      exact (h l hl).1
    case values =>
      intro e he
      obtain ⟨l, hl, rfl⟩ := List.mem_map.1 he
      simpa [indexOf] using hl

theorem isIndexOf_indexModule_pair :
    ([Text.ofString "en", Text.ofString "ko"] : List Text).Nodup ∧
      IsIndexOf (Keys.indexModule ["en", "ko"]) ["en", "ko"] := by
  have hnodup : ([Text.ofString "en", Text.ofString "ko"] : List Text).Nodup := by decide
  exact ⟨hnodup, (isIndexOf_indexModule_iff hnodup).2 (by decide +kernel)⟩

/-- A language with a region is accepted and no name, so the index cannot be loaded. -/
theorem not_isIndexOf_indexModule_region :
    isFilledList (some (.arr [.str (Text.ofString "zh-CN")])) = true ∧
      ¬ IsIndexOf (Keys.indexModule [Text.ofString "zh-CN"]) [Text.ofString "zh-CN"] := by
  refine ⟨rfl, ?_⟩
  rintro ⟨index, hread, -⟩
  have hnone : Index.read? (Keys.indexModule [Text.ofString "zh-CN"]) = none := by decide +kernel
  rw [hnone] at hread
  cases hread

end Indexing

end Script

end Phrasebook
