import Phrasebook.Proofs.Json.Members
import Phrasebook.Proofs.Json.Readings
import Phrasebook.Proofs.Log
import Phrasebook.Proofs.Text.Scalar

/-! Values written over several lines are read back as they were, and what was read can be written so. -/

namespace Phrasebook.Json

/-! ### Values with parts -/

def IsSpelled (x : Float) : Prop := Reads (readAtom ⟨0, writeFloat x⟩) (float x) []

mutual

/-- A value that can be read back: its whole numbers are not too long, its doubles are what their
digits spell, and no key comes twice. -/
def Legible : Json → Prop
  | int n => (Text.ofNat n.natAbs).length ≤ digitLimit
  | float x => IsSpelled x
  | arr items => LegibleItems items
  | obj members => (members.map (·.1)).Nodup ∧ LegibleMembers members
  | _ => True

def LegibleItems : List Json → Prop
  | [] => True
  | v :: rest => Legible v ∧ LegibleItems rest

def LegibleMembers : List (Text × Json) → Prop
  | [] => True
  | (_, v) :: rest => Legible v ∧ LegibleMembers rest

end

section Parts

variable {position fuel level : Nat} {rest t : Text} {c : CodePoint} {v : Json}

theorem skip_of_not_space (hc : isSpace c = false) :
    Cursor.skip ⟨position, c :: t⟩ = ⟨position, c :: t⟩ := by
  simp [Cursor.skip, skipFrom, hc]

theorem skip_blanks (hc : isSpace c = false) {blanks : Text} (hblanks : ∀ b ∈ blanks, isSpace b = true)
    (position : Nat) : ∃ q, Cursor.skip ⟨position, blanks ++ c :: t⟩ = ⟨q, c :: t⟩ := by
  induction blanks generalizing position with
  | nil => exact ⟨position, skip_of_not_space hc⟩
  | cons b blanks ih =>
    obtain ⟨hb, hrest⟩ := List.forall_mem_cons.1 hblanks
    obtain ⟨q, hq⟩ := ih hrest (position + 1)
    refine ⟨q, ?_⟩
    rw [← hq]
    simp [Cursor.skip, skipFrom, hb]

theorem skip_lineBreak (hc : isSpace c = false) (level position : Nat) :
    ∃ q, Cursor.skip ⟨position, lineBreak level ++ c :: t⟩ = ⟨q, c :: t⟩ := by
  refine skip_blanks hc (fun b hb => ?_) position
  rcases List.mem_append.1 hb with hb | hb
  · rw [List.mem_singleton.1 hb]
    decide
  · rw [List.eq_of_mem_replicate hb]
    decide

theorem endsValue_lineBreak (level : Nat) (t : Text) : EndsValue (lineBreak level ++ t) := by
  rintro c ⟨⟩
  exact .inr rfl

theorem endsValue_comma (t : Text) : EndsValue (("," : Text) ++ t) := by
  rintro c ⟨⟩
  exact .inl rfl

def OpensValue (c : CodePoint) : Prop := isSpace c = false ∧ c.val ≠ 0x5D ∧ c.val ≠ 0xFEFF

theorem opensValue_of_indented (hv : Legible v) (level : Nat) :
    ∃ c more, indented level v = c :: more ∧ OpensValue c := by
  have hatom {t : Text} (h : Reads (readAtom ⟨0, t⟩) v []) : ∃ c more, t = c :: more ∧ OpensValue c := by
    obtain ⟨c, more, rfl, hc⟩ := opensAtom_of_reads h
    rw [opensAtom_eq_true] at hc
    refine ⟨c, more, rfl, ?_, by omega, by omega⟩
    simp only [isSpace, Bool.or_eq_false_iff, beq_eq_false_iff_ne]
    omega
  have hopens : OpensValue quote ∧ OpensValue (CodePoint.ofChar '[') ∧ OpensValue (CodePoint.ofChar '\x7b') :=
    ⟨⟨rfl, by decide, by decide⟩, ⟨rfl, by decide, by decide⟩, ⟨rfl, by decide, by decide⟩⟩
  cases v with
  | null => exact hatom ⟨4, rfl⟩
  | bool b =>
    cases b with
    | true => exact hatom ⟨4, rfl⟩
    | false => exact hatom ⟨5, rfl⟩
  | int n => exact hatom (reads_ofInt hv)
  | float x => exact hatom hv
  | str t => exact ⟨quote, _, rfl, hopens.1⟩
  | arr items => cases items <;> exact ⟨_, _, rfl, hopens.2.1⟩
  | obj members =>
    cases members with
    | nil => exact ⟨_, _, rfl, hopens.2.2⟩
    | cons m members => exact ⟨_, _, rfl, hopens.2.2⟩

theorem reads_writeString (t rest : Text) :
    Reads (readValue (fuel + 1) ⟨position, writeString t ++ rest⟩) (str t) rest := by
  have htext : writeString t ++ rest = quote :: (t.flatMap escapeChar ++ quote :: rest) := by
    rw [writeString, List.append_assoc, List.append_assoc]
    rfl
  rw [htext, readValue]
  exact (reads_escaped _ _ t rest).map str

def bracket : CodePoint := ⟨0x5D, by decide⟩

def brace : CodePoint := ⟨0x7D, by decide⟩

def listed (level : Nat) (pieces : List Text) : Text := Text.join ("," ++ lineBreak level) pieces

theorem listed_singleton (piece : Text) : listed level [piece] = piece := Text.join_singleton _ _

theorem listed_cons_cons (piece next : Text) (pieces : List Text) :
    listed level (piece :: next :: pieces) =
      piece ++ (("," : Text) ++ (lineBreak level ++ listed level (next :: pieces))) := by
  rw [listed, Text.join_cons_cons, List.append_assoc]
  rfl

theorem bracketed_cons (opening closing piece : Text) (pieces : List Text) :
    bracketed level opening closing (piece :: pieces) = opening ++ (lineBreak (level + 1) ++
      (listed (level + 1) (piece :: pieces) ++ (lineBreak level ++ closing))) := by
  simp [bracketed, listed]

theorem word?_single_of_ne {d : CodePoint} (hc : c ≠ d) : Cursor.word? ⟨position, c :: t⟩ [d] = none := by
  simp [Cursor.word?, List.isPrefixOf, Ne.symm hc]

theorem opensValue_of_items (hv : Legible v) (items : List Json) (level : Nat) (tail : Text) :
    ∃ c left, listed level (indentedItems level (v :: items)) ++ tail = c :: left ∧ OpensValue c := by
  obtain ⟨c, more, hhead, hc⟩ := opensValue_of_indented hv level
  rw [indentedItems, hhead]
  cases items with
  | nil => exact ⟨c, more ++ tail, by rw [indentedItems, listed_singleton]; rfl, hc⟩
  | cons w items => exact ⟨c, _, rfl, hc⟩

theorem exists_of_members (m : Text × Json) (members : List (Text × Json)) (level : Nat) (tail : Text) :
    ∃ left, listed level (indentedMembers level (m :: members)) ++ tail = quote :: left := by
  cases members with
  | nil => exact ⟨_, by rw [indentedMembers, indentedMembers, listed_singleton]; rfl⟩
  | cons n members => exact ⟨_, rfl⟩

def readNext (fuel : Nat) (members : List (Text × Json)) (cur : Cursor) :
    Except (Refusal × Nat) (List (Text × Json) × Cursor) :=
  match cur.skip.word? "\x7d" with
  | some done => .ok (members, done)
  | none =>
    match cur.skip.word? "," with
    | none => .error (.comma, cur.skip.position)
    | some next => readMembers fuel members next.skip

theorem reads_member (before : List (Text × Json)) (k : Text) (hv : Legible v)
    (hvalue : ∀ position, Reads (readValue fuel ⟨position, indented level v ++ rest⟩) v rest)
    (position : Nat) : ∃ q, readMembers (fuel + 1) before
        ⟨position, writeString k ++ ": " ++ indented level v ++ rest⟩ =
      readNext fuel (put before k v) ⟨q, rest⟩ := by
  obtain ⟨c, more, hhead, hspace, -⟩ := opensValue_of_indented hv level
  obtain ⟨q, hkey⟩ := reads_escaped position (position + 1) k
    ((": " : Text) ++ (c :: more ++ rest))
  obtain ⟨q', hskip⟩ : ∃ q', Cursor.skip ⟨q + 1, (" " : Text) ++ c :: (more ++ rest)⟩ =
      ⟨q', c :: (more ++ rest)⟩ := skip_blanks hspace (by decide) (q + 1)
  obtain ⟨q'', hq⟩ := hvalue q'
  have htext : writeString k ++ ": " ++ indented level v ++ rest =
      quote :: (k.flatMap escapeChar ++ quote :: ((": " : Text) ++ (c :: more ++ rest))) := by
    rw [writeString, hhead]
    simp only [List.append_assoc]
    rfl
  rw [hhead] at hq
  refine ⟨q'', ?_⟩
  rw [htext]
  show Except.bind (readString position (position + 1)
      (k.flatMap escapeChar ++ quote :: ((": " : Text) ++ (c :: more ++ rest)))) (fun found =>
    match found.2.skip.word? ":" with
    | none => .error (Refusal.colon, found.2.skip.position)
    | some next => Except.bind (readValue fuel next.skip) fun value =>
      readNext fuel (put before found.1 value.1) value.2) = _
  rw [hkey]
  show Except.bind (readValue fuel (Cursor.skip ⟨q + 1, (" " : Text) ++ c :: (more ++ rest)⟩))
    (fun value => readNext fuel (put before k value.1) value.2) = _
  rw [hskip]
  show Except.bind (readValue fuel ⟨q', c :: more ++ rest⟩) _ = _
  rw [hq]
  rfl

theorem not_mem_of_nodup {before members : List (Text × Json)} {k : Text}
    (h : ((before ++ (k, v) :: members).map (·.1)).Nodup) : k ∉ before.map (·.1) := by
  rw [List.map_append, List.nodup_append] at h
  exact fun hk => h.2.2 k hk k List.mem_cons_self rfl

mutual

/-- A value written over several lines is read back, whatever ends it. The fuel is twice the text: each
item and each member takes one step more than its own value, and a comma and a line break stand
between them. -/
theorem reads_indented : ∀ (v : Json) (level fuel position : Nat) (rest : Text), Legible v →
    2 * (indented level v).length ≤ fuel → EndsValue rest →
    Reads (readValue fuel ⟨position, indented level v ++ rest⟩) v rest
  | v, level, 0, _, _, hv, hfuel, _ => by
    obtain ⟨c, more, hhead, -⟩ := opensValue_of_indented hv level
    simp [hhead] at hfuel
  | null, _, _ + 1, _, _, _, _, hrest => reads_of_readAtom 0 ⟨4, rfl⟩ hrest
  | bool true, _, _ + 1, _, _, _, _, hrest => reads_of_readAtom 0 ⟨4, rfl⟩ hrest
  | bool false, _, _ + 1, _, _, _, _, hrest => reads_of_readAtom 0 ⟨5, rfl⟩ hrest
  | int n, _, _ + 1, _, _, hv, _, hrest => reads_of_readAtom 0 (reads_ofInt hv) hrest
  | float x, _, _ + 1, _, _, hv, _, hrest => reads_of_readAtom 0 hv hrest
  | str t, _, _ + 1, _, rest, _, _, _ => reads_writeString t rest
  | arr [], _, _ + 1, position, _, _, _, _ => ⟨position + 2, rfl⟩
  | arr (v :: items), level, fuel + 1, position, rest, hv, hfuel, _ => by
    have hindented : indented level (arr (v :: items)) = ("[" : Text) ++ (lineBreak (level + 1) ++
        (listed (level + 1) (indentedItems (level + 1) (v :: items)) ++ (lineBreak level ++ [bracket]))) :=
      bracketed_cons _ _ _ _
    have hlength : 2 * (listed (level + 1) (indentedItems (level + 1) (v :: items))).length + 1 ≤ fuel := by
      simp only [hindented, List.length_append] at hfuel
      have hopening : ("[" : Text).length = 1 := rfl
      omega
    obtain ⟨c, left, hleft, hspace, hclosing, -⟩ := opensValue_of_items hv.1 items (level + 1)
      (lineBreak level ++ bracket :: rest)
    obtain ⟨q, hskip⟩ := skip_lineBreak (t := left) hspace (level + 1) (position + 1)
    obtain ⟨q', hitems⟩ := reads_items (v :: items) (level + 1) level fuel q rest (List.cons_ne_nil _ _)
      hv hlength
    have htext : indented level (arr (v :: items)) ++ rest =
        ("[" : Text) ++ (lineBreak (level + 1) ++ c :: left) := by
      rw [hindented, ← hleft]
      simp only [List.append_assoc, List.singleton_append]
    have hword : Cursor.word? ⟨q, c :: left⟩ "]" = none :=
      word?_single_of_ne fun heq => hclosing (heq ▸ rfl)
    rw [hleft] at hitems
    rw [htext]
    show Reads (match (Cursor.skip ⟨position + 1, lineBreak (level + 1) ++ c :: left⟩).word? "]" with
      | some done => .ok (arr [], done)
      | none => (readItems fuel (Cursor.skip ⟨position + 1, lineBreak (level + 1) ++ c :: left⟩)).map
          fun (items, cur) => (arr items, cur)) _ _
    rw [hskip, hword]
    exact Reads.map ⟨q', hitems⟩ arr
  | obj [], _, _ + 1, position, _, _, _, _ => ⟨position + 2, rfl⟩
  | obj (m :: members), level, fuel + 1, position, rest, hv, hfuel, _ => by
    have hindented : indented level (obj (m :: members)) = ("\x7b" : Text) ++ (lineBreak (level + 1) ++
        (listed (level + 1) (indentedMembers (level + 1) (m :: members)) ++ (lineBreak level ++ [brace]))) :=
      bracketed_cons _ _ _ _
    have hlength : 2 * (listed (level + 1) (indentedMembers (level + 1) (m :: members))).length + 1 ≤
        fuel := by
      simp only [hindented, List.length_append] at hfuel
      have hopening : ("\x7b" : Text).length = 1 := rfl
      omega
    obtain ⟨left, hleft⟩ := exists_of_members m members (level + 1) (lineBreak level ++ brace :: rest)
    obtain ⟨q, hskip⟩ := skip_lineBreak (c := quote) (t := left) rfl (level + 1) (position + 1)
    obtain ⟨q', hmembers⟩ := reads_members (m :: members) [] (level + 1) level fuel q rest
      (List.cons_ne_nil _ _) hv.2 hv.1 hlength
    have htext : indented level (obj (m :: members)) ++ rest =
        ("\x7b" : Text) ++ (lineBreak (level + 1) ++ quote :: left) := by
      rw [hindented, ← hleft]
      simp only [List.append_assoc, List.singleton_append]
    rw [hleft] at hmembers
    rw [htext]
    show Reads (match (Cursor.skip ⟨position + 1, lineBreak (level + 1) ++ quote :: left⟩).word? "\x7d" with
      | some done => .ok (obj [], done)
      | none => (readMembers fuel [] (Cursor.skip ⟨position + 1, lineBreak (level + 1) ++ quote :: left⟩)).map
          fun (members, cur) => (obj members, cur)) _ _
    rw [hskip]
    exact Reads.map ⟨q', hmembers⟩ obj

theorem reads_items : ∀ (items : List Json) (level outer fuel position : Nat) (rest : Text),
    items ≠ [] → LegibleItems items → 2 * (listed level (indentedItems level items)).length + 1 ≤ fuel →
    Reads (readItems fuel ⟨position, listed level (indentedItems level items) ++
      (lineBreak outer ++ bracket :: rest)⟩) items rest
  | [], _, _, _, _, _, hne, _, _ => (hne rfl).elim
  | _ :: _, _, _, 0, _, _, _, _, hfuel => by omega
  | [v], level, outer, fuel + 1, position, rest, _, hv, hfuel => by
    rw [indentedItems, indentedItems, listed_singleton] at hfuel ⊢
    obtain ⟨q, hq⟩ := reads_indented v level fuel position (lineBreak outer ++ bracket :: rest) hv.1
      (by omega) (endsValue_lineBreak outer _)
    obtain ⟨q', hskip⟩ := skip_lineBreak (c := bracket) (t := rest) rfl outer q
    rw [readItems, hq]
    simp only [bind, Except.bind, hskip]
    exact ⟨q' + 1, rfl⟩
  | v :: w :: items, level, outer, fuel + 1, position, rest, _, hv, hfuel => by
    have hlisted : listed level (indentedItems level (v :: w :: items)) = indented level v ++
        (("," : Text) ++ (lineBreak level ++ listed level (indentedItems level (w :: items)))) :=
      listed_cons_cons _ _ _
    have hlength : 2 * (indented level v).length ≤ fuel ∧
        2 * (listed level (indentedItems level (w :: items))).length + 1 ≤ fuel := by
      simp only [hlisted, List.length_append] at hfuel
      have hcomma : ("," : Text).length = 1 := rfl
      omega
    obtain ⟨c, left, hleft, hspace, -⟩ := opensValue_of_items hv.2.1 items level
      (lineBreak outer ++ bracket :: rest)
    obtain ⟨q, hq⟩ := reads_indented v level fuel position (("," : Text) ++ (lineBreak level ++ c :: left))
      hv.1 hlength.1 (endsValue_comma _)
    obtain ⟨q', hskip⟩ := skip_lineBreak (t := left) hspace level (q + 1)
    obtain ⟨q'', hitems⟩ := reads_items (w :: items) level outer fuel q' rest (List.cons_ne_nil _ _) hv.2
      hlength.2
    have htext : listed level (indentedItems level (v :: w :: items)) ++ (lineBreak outer ++ bracket :: rest) =
        indented level v ++ (("," : Text) ++ (lineBreak level ++ c :: left)) := by
      rw [hlisted, ← hleft]
      simp only [List.append_assoc]
    rw [hleft] at hitems
    rw [htext, readItems, hq]
    refine ⟨q'', ?_⟩
    show Except.bind (readItems fuel (Cursor.skip ⟨q + 1, lineBreak level ++ c :: left⟩)) (fun found =>
      Except.ok (v :: found.1, found.2)) = _
    rw [hskip, hitems]
    rfl

theorem reads_members : ∀ (members before : List (Text × Json)) (level outer fuel position : Nat)
    (rest : Text), members ≠ [] → LegibleMembers members → ((before ++ members).map (·.1)).Nodup →
    2 * (listed level (indentedMembers level members)).length + 1 ≤ fuel →
    Reads (readMembers fuel before ⟨position, listed level (indentedMembers level members) ++
      (lineBreak outer ++ brace :: rest)⟩) (before ++ members) rest
  | [], _, _, _, _, _, _, hne, _, _, _ => (hne rfl).elim
  | _ :: _, _, _, _, 0, _, _, _, _, _, hfuel => by omega
  | [(k, v)], before, level, outer, fuel + 1, position, rest, _, hv, hkeys, hfuel => by
    rw [indentedMembers, indentedMembers, listed_singleton] at hfuel ⊢
    have hlength : 2 * (indented level v).length ≤ fuel := by
      rw [List.length_append] at hfuel
      omega
    obtain ⟨q, hq⟩ := reads_member before k hv.1
      (fun position => reads_indented v level fuel position (lineBreak outer ++ brace :: rest) hv.1 hlength
        (endsValue_lineBreak outer _)) position
    obtain ⟨q', hskip⟩ := skip_lineBreak (c := brace) (t := rest) rfl outer q
    rw [hq, put_of_not_mem (not_mem_of_nodup hkeys)]
    simp only [readNext, hskip]
    exact ⟨q' + 1, rfl⟩
  | (k, v) :: m :: members, before, level, outer, fuel + 1, position, rest, _, hv, hkeys, hfuel => by
    have hlisted : listed level (indentedMembers level ((k, v) :: m :: members)) =
        writeString k ++ ": " ++ indented level v ++ (("," : Text) ++ (lineBreak level ++
          listed level (indentedMembers level (m :: members)))) := listed_cons_cons _ _ _
    have hlength : 2 * (indented level v).length ≤ fuel ∧
        2 * (listed level (indentedMembers level (m :: members))).length + 1 ≤ fuel := by
      simp only [hlisted, List.length_append] at hfuel
      have hcomma : ("," : Text).length = 1 := rfl
      omega
    obtain ⟨left, hleft⟩ := exists_of_members m members level (lineBreak outer ++ brace :: rest)
    obtain ⟨q, hq⟩ := reads_member before k hv.1
      (fun position => reads_indented v level fuel position
        (("," : Text) ++ (lineBreak level ++ quote :: left)) hv.1 hlength.1 (endsValue_comma _)) position
    obtain ⟨q', hskip⟩ := skip_lineBreak (c := quote) (t := left) rfl level (q + 1)
    have hkeys' : ((before ++ [(k, v)] ++ m :: members).map (·.1)).Nodup := by rwa [List.append_assoc]
    obtain ⟨q'', hmembers⟩ := reads_members (m :: members) (before ++ [(k, v)]) level outer fuel q' rest
      (List.cons_ne_nil _ _) hv.2 hkeys' hlength.2
    have htext : listed level (indentedMembers level ((k, v) :: m :: members)) ++
        (lineBreak outer ++ brace :: rest) = writeString k ++ ": " ++ indented level v ++
          (("," : Text) ++ (lineBreak level ++ quote :: left)) := by
      rw [hlisted, ← hleft]
      simp only [List.append_assoc]
    rw [hleft] at hmembers
    rw [htext, hq, put_of_not_mem (not_mem_of_nodup hkeys)]
    refine ⟨q'', ?_⟩
    show readMembers fuel (before ++ [(k, v)]) (Cursor.skip ⟨q + 1, lineBreak level ++ quote :: left⟩) = _
    rw [hskip, hmembers, List.append_assoc]
    rfl

end

theorem read_indented (hv : Legible v) : read (indented 0 v) = .ok v := by
  obtain ⟨c, more, hhead, hspace, -, hmark⟩ := opensValue_of_indented hv 0
  obtain ⟨q, hread⟩ := reads_indented v 0 (2 * (indented 0 v).length + 4) 0 [] hv (by omega) .nil
  rw [List.append_nil, hhead] at hread
  have hfirst : ¬ (c :: more : Text).head?.map (·.val) = some 0xFEFF := fun h => hmark (Option.some.inj h)
  rw [hhead, read, if_neg hfirst, skip_of_not_space hspace, hread]
  rfl

end Parts

/-! ### Values that were read -/

mutual

def doubles : Json → List Float
  | float x => [x]
  | arr items => doublesOfItems items
  | obj members => doublesOfMembers members
  | _ => []

def doublesOfItems : List Json → List Float
  | [] => []
  | v :: rest => doubles v ++ doublesOfItems rest

def doublesOfMembers : List (Text × Json) → List Float
  | [] => []
  | (_, v) :: rest => doubles v ++ doublesOfMembers rest

end

/-- A value that can be read back if its doubles are what their digits spell. -/
def IsSound (v : Json) : Prop := (∀ x ∈ doubles v, IsSpelled x) → Legible v

section Sound

variable {position fuel : Nat} {t : Text} {v : Json} {items : List Json} {members : List (Text × Json)}
  {cur cur' : Cursor}

theorem isSound_arr (hitems : ∀ v ∈ items, IsSound v) : IsSound (arr items) := by
  intro h
  show LegibleItems items
  replace h : ∀ x ∈ doublesOfItems items, IsSpelled x := h
  induction items with
  | nil => trivial
  | cons v items ih =>
    obtain ⟨hv, hrest⟩ := List.forall_mem_cons.1 hitems
    obtain ⟨hx, hmore⟩ := List.forall_mem_append.1 h
    exact ⟨hv hx, ih hrest hmore⟩

theorem isSound_obj (hkeys : (members.map (·.1)).Nodup) (hmembers : ∀ m ∈ members, IsSound m.2) :
    IsSound (obj members) := by
  refine fun h => ⟨hkeys, ?_⟩
  replace h : ∀ x ∈ doublesOfMembers members, IsSpelled x := h
  clear hkeys
  induction members with
  | nil => trivial
  | cons m members ih =>
    obtain ⟨hm, hrest⟩ := List.forall_mem_cons.1 hmembers
    obtain ⟨hx, hmore⟩ := List.forall_mem_append.1 h
    exact ⟨hm hx, ih hrest hmore⟩

theorem isDigit_of_wholePart (t : Text) : ∀ c ∈ wholePart t, c.isDigit = true := by
  cases t with
  | nil => exact fun c hc => absurd hc List.not_mem_nil
  | cons c t =>
    simp only [wholePart]
    split
    next hzero =>
      intro d hd
      rw [List.mem_singleton.1 hd, CodePoint.isDigit, hzero]
      rfl
    next => exact fun d hd => List.mem_takeWhile_imp hd

theorem isSound_of_readScaled {negative : Bool} {size : Nat} {whole ds after : Text} (hne : whole ≠ [])
    (hwhole : ∀ c ∈ whole, c.isDigit = true)
    (h : readScaled negative position size whole ds after = .ok (v, cur)) : IsSound v := by
  have hfloat (x : Float) : IsSound (float x) := fun hx => hx x (List.mem_singleton_self x)
  unfold readScaled at h
  dsimp only at h
  split at h
  next =>
    cases h
    exact hfloat _
  next =>
  split at h
  next =>
    split at h
    next => cases h
    next hlimit =>
      cases h
      intro _
      have hnumber : (if negative = true then -(Text.digitNumber 10 whole : Int)
          else Text.digitNumber 10 whole).natAbs = Text.digitNumber 10 whole := by
        split <;> simp
      show (Text.ofNat _).length ≤ digitLimit
      rw [hnumber]
      exact (Text.length_ofNat (List.length_pos_iff.2 hne) (Text.digitNumber_lt hwhole)).trans
        (Nat.not_lt.1 hlimit)
  next =>
    cases h
    exact hfloat _

theorem isSound_of_words {m : Text × Json} (h : m ∈ words) : IsSound m.2 := by
  have hall : ∀ m ∈ words, IsSound m.2 := by
    simp only [words, List.forall_mem_cons]
    exact ⟨fun _ => trivial, fun _ => trivial, fun _ => trivial, fun h => h _ (List.mem_singleton_self _),
      fun h => h _ (List.mem_singleton_self _), fun h => h _ (List.mem_singleton_self _), by simp⟩
  exact hall m h

theorem isSound_of_readAtom (h : readAtom cur = .ok (v, cur')) : IsSound v := by
  obtain ⟨position, t⟩ := cur
  rw [readAtom_eq] at h
  cases hword : word? ⟨position, t⟩ with
  | some found =>
    obtain ⟨w, left⟩ := found
    rw [hword] at h
    cases h
    obtain ⟨⟨name, value⟩, hm, hfound⟩ := List.exists_of_findSome?_eq_some hword
    obtain ⟨past, -, heq⟩ := Option.map_eq_some_iff.1 hfound
    cases heq
    exact isSound_of_words hm
  | none =>
    rw [hword] at h
    dsimp only at h
    rw [readNumber_eq] at h
    generalize (if isNegative t then t.drop 1 else t) = u at h
    rw [readUnsigned] at h
    dsimp only at h
    by_cases hne : wholePart u = []
    · rw [if_pos hne] at h
      cases h
    · rw [if_neg hne] at h
      exact isSound_of_readScaled hne (isDigit_of_wholePart u) h

theorem map_eq_ok {α β ε : Type} {x : Except ε α} {f : α → β} {b : β} (h : x.map f = .ok b) :
    ∃ a, x = .ok a ∧ f a = b := by
  cases x with
  | error e => cases h
  | ok a => exact ⟨a, rfl, Except.ok.inj h⟩

def ReadsSound (fuel : Nat) : Prop := ∀ cur v cur', readValue fuel cur = .ok (v, cur') → IsSound v

def ReadsSoundItems (fuel : Nat) : Prop :=
  ∀ cur items cur', readItems fuel cur = .ok (items, cur') → ∀ v ∈ items, IsSound v

def ReadsSoundMembers (fuel : Nat) : Prop :=
  ∀ before cur members cur', readMembers fuel before cur = .ok (members, cur') →
    (before.map (·.1)).Nodup → (∀ m ∈ before, IsSound m.2) →
    (members.map (·.1)).Nodup ∧ ∀ m ∈ members, IsSound m.2

theorem readsSound_succ (hitems : ReadsSoundItems fuel) (hmembers : ReadsSoundMembers fuel) :
    ReadsSound (fuel + 1) := by
  intro cur v cur' h
  rw [readValue] at h
  split at h
  next => cases h
  next =>
  dsimp only at h
  split at h
  next =>
    obtain ⟨a, -, hv⟩ := map_eq_ok h
    cases hv
    exact fun _ => trivial
  split at h
  next =>
    split at h
    next =>
      cases h
      exact isSound_arr fun v hv => absurd hv List.not_mem_nil
    next =>
      obtain ⟨a, hread, hv⟩ := map_eq_ok h
      cases hv
      exact isSound_arr (hitems _ _ _ hread)
  split at h
  next =>
    split at h
    next =>
      cases h
      exact isSound_obj List.nodup_nil fun m hm => absurd hm List.not_mem_nil
    next =>
      obtain ⟨a, hread, hv⟩ := map_eq_ok h
      cases hv
      obtain ⟨hkeys, hall⟩ := hmembers _ _ _ _ hread List.nodup_nil fun m hm => absurd hm List.not_mem_nil
      exact isSound_obj hkeys hall
  next => exact isSound_of_readAtom h

theorem readsSoundItems_succ (hvalue : ReadsSound fuel) (hitems : ReadsSoundItems fuel) :
    ReadsSoundItems (fuel + 1) := by
  intro cur items cur' h
  rw [readItems] at h
  obtain ⟨⟨v, cur₁⟩, hread, h⟩ := except_bind_eq_ok.1 h
  have hv := hvalue _ _ _ hread
  dsimp only at h
  split at h
  next =>
    cases h
    exact List.forall_mem_singleton.2 hv
  next =>
  split at h
  next => cases h
  next =>
    obtain ⟨⟨more, cur₂⟩, hmore, h⟩ := except_bind_eq_ok.1 h
    cases h
    exact List.forall_mem_cons.2 ⟨hv, hitems _ _ _ hmore⟩

theorem readsSoundMembers_succ (hvalue : ReadsSound fuel) (hmembers : ReadsSoundMembers fuel) :
    ReadsSoundMembers (fuel + 1) := by
  intro before cur members cur' h hkeys hbefore
  rw [readMembers] at h
  split at h
  next => cases h
  next =>
  obtain ⟨⟨key, cur₁⟩, -, h⟩ := except_bind_eq_ok.1 h
  dsimp only at h
  split at h
  next => cases h
  next =>
  obtain ⟨⟨v, cur₂⟩, hread, h⟩ := except_bind_eq_ok.1 h
  have hput : ∀ m ∈ put before key v, IsSound m.2 := by
    intro m hm
    rcases mem_put hm with rfl | hm
    · exact hvalue _ _ _ hread
    · exact hbefore m hm
  dsimp only at h
  split at h
  next =>
    cases h
    exact ⟨nodup_put hkeys, hput⟩
  next =>
  split at h
  next => cases h
  next => exact hmembers _ _ _ _ h (nodup_put hkeys) hput

theorem readsSound (fuel : Nat) : ReadsSound fuel ∧ ReadsSoundItems fuel ∧ ReadsSoundMembers fuel := by
  induction fuel with
  | zero =>
    refine ⟨fun cur v cur' h => ?_, fun cur items cur' h => ?_, fun before cur members cur' h => ?_⟩ <;>
      cases h
  | succ fuel ih =>
    obtain ⟨hvalue, hitems, hmembers⟩ := ih
    exact ⟨readsSound_succ hitems hmembers, readsSoundItems_succ hvalue hitems,
      readsSoundMembers_succ hvalue hmembers⟩

theorem isSound_of_read (h : read t = .ok v) : IsSound v := by
  rw [read] at h
  split at h
  next => cases h
  next =>
  split at h
  next => cases h
  next value cur hvalue =>
  dsimp only at h
  split at h
  next =>
    cases h
    exact (readsSound _).1 _ _ _ hvalue
  next => cases h

end Sound

end Phrasebook.Json
