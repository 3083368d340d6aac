import Phrasebook.Keys.Extract
import Phrasebook.Proofs.Literal.Quoting
import Phrasebook.Proofs.Wrap.Visit

/-! The key of an emitted call: the literal written for a text is one string token, and the key read
from a call that has this literal for its first argument is that text. -/

namespace Phrasebook.Keys

theorem parentKind?_of_mem_children {f c : Focus} (h : c ∈ f.children) :
    c.parentKind? = some f.node.kind := by
  obtain ⟨past, n, after, -, rfl⟩ := Focus.mem_ofItems h
  rfl

theorem inAttribute_of_mem_arguments {call a : Focus} (h : a ∈ arguments call) :
    Literal.inAttribute a = false := by
  rw [arguments] at h
  split at h
  · cases h
  next args _ =>
    split_ifs at h with hkind
    · have hparent := parentKind?_of_mem_children (List.mem_filter.1 h).1
      have hargs : args.node.kind = "arguments" := by simpa using hkind
      rw [Literal.inAttribute, hparent, hargs]
      decide
    · cases h

theorem stringValue_argument {source : Bytes} {call a : Focus} {t : Text}
    (h : a ∈ arguments call) (htext : a.node.textD source = t) :
    Literal.stringValue source a = Escape.decode (Text.inner 1 t) := by
  rw [Literal.stringValue, inAttribute_of_mem_arguments h, htext, Literal.quotedValue]
  rfl

theorem ofCall?_of_string {source : Bytes} {path : Option Text} {r : Recording} {call first : Focus}
    {rest : List Focus} {key : Text} {given : Option Text}
    (hcall : Literal.isCallOf source r.function call.node = true)
    (hargs : arguments call = first :: rest) (hkind : first.node.kind = "string")
    (hkey : Literal.stringValue source first = .ok key)
    (hgiven : defaultValue? source (first :: rest) = .ok given) :
    ∃ k, ofCall? source path r call = .ok (some k) ∧ k.key = key ∧ k.defaultValue = given := by
  refine ⟨⟨key, given, if r.files then path else none,
    if r.lines then some ((call.node.info.start.map (·.row)).getD 0 + 1) else none⟩, ?_, rfl, rfl⟩
  rw [ofCall?, hargs]
  simp [hcall, hkind, hkey, hgiven, bind, Except.bind, pure, Except.pure]

/-- A text whose surrogates are not paired, and every text that decoding gives, is written as one
string token whose value is that text; a call emitted for it starts with the function and this
literal; and a call whose first argument is this literal looks up that text. -/
theorem ofCall?_encode (v : Text)
    (hv : Utf16.Unpaired v ∨ ∃ raw, Escape.decode raw = .ok v) :
    Escape.StringToken (Escape.encode v) ∧
    Escape.decode (Text.inner 1 (Escape.encode v)) = .ok v ∧
    (∀ (function : Text) (options : List (Text × Node)), ∃ more,
      (Wrap.lookupCall function v options).items =
        .text (function ++ "(") :: .text (Escape.encode v) :: more) ∧
    ∀ (source : Bytes) (path : Option Text) (r : Recording) (call first : Focus)
      (rest : List Focus) (given : Option Text),
      Literal.isCallOf source r.function call.node = true →
      arguments call = first :: rest → first.node.kind = "string" →
      first.node.textD source = Escape.encode v →
      defaultValue? source (first :: rest) = .ok given →
      ∃ k, ofCall? source path r call = .ok (some k) ∧ k.key = v ∧ k.defaultValue = given := by
  have hjoined : Utf16.joinPairs v = v := by
    rcases hv with hv | ⟨raw, hraw⟩
    · exact Utf16.joinPairs_of_unpaired hv
    · exact Escape.joinPairs_of_decode hraw
  have hdecode : Escape.decode (Text.inner 1 (Escape.encode v)) = .ok v := by
    rw [Escape.decode_inner_encode, hjoined]
  refine ⟨Escape.stringToken_encode v, hdecode, fun function options => ?_, ?_⟩
  · exact ⟨_, rfl⟩
  · intro source path r call first rest given hcall hargs hkind htext hgiven
    have hfirst : first ∈ arguments call := by
      rw [hargs]
      exact List.mem_cons_self
    have hkey : Literal.stringValue source first = .ok v := by
      rw [stringValue_argument hfirst htext, hdecode]
    exact ofCall?_of_string hcall hargs hkind hkey hgiven

def surrogateCall : Node :=
  .branch { kind := "call_expression", start := some ⟨0, 0, 0⟩, stop := some 16 }
    [.branch { kind := "identifier", field := some "function", start := some ⟨0, 0, 0⟩,
               stop := some 1 } [],
     .branch { kind := "arguments", field := some "arguments", start := some ⟨1, 0, 1⟩,
               stop := some 16 }
       [.branch { kind := "(", named := false, start := some ⟨1, 0, 1⟩, stop := some 2 } [],
        .branch { kind := "string", start := some ⟨2, 0, 2⟩, stop := some 15 } [],
        .branch { kind := ")", named := false, start := some ⟨15, 0, 15⟩, stop := some 16 } []]]

/-- A quote, a line feed, a surrogate that stays alone and a letter. -/
theorem ofCall?_encode_surrogate :
    let v : Text := [CodePoint.ofNat 0x22, CodePoint.ofNat 0x0A, CodePoint.ofNat 0xD800,
      CodePoint.ofNat 0x61]
    let source : Bytes := [0x74, 0x28, 0x22, 0x5C, 0x22, 0x5C, 0x6E, 0x5C, 0x75, 0x64, 0x38, 0x30,
      0x30, 0x61, 0x22, 0x29]
    Utf16.Unpaired v ∧ Escape.StringToken (Escape.encode v) ∧
      ∃ k, ofCall? source none {} (.ofRoot surrogateCall) = .ok (some k) ∧ k.key = v := by
  intro v source
  have hv : Utf16.Unpaired v := by
    unfold Utf16.Unpaired
    decide
  obtain ⟨htoken, _, _, hread⟩ := ofCall?_encode v (.inl hv)
  obtain ⟨first, hargs, hkind, htext⟩ : ∃ first, arguments (.ofRoot surrogateCall) = [first] ∧
      first.node.kind = "string" ∧ first.node.textD source = Escape.encode v :=
    ⟨_, rfl, rfl, by decide⟩
  obtain ⟨k, hk, hkey, _⟩ := hread source none {} (.ofRoot surrogateCall) first [] none (by decide)
    hargs hkind htext rfl
  exact ⟨hv, htoken, k, hk, hkey⟩

end Phrasebook.Keys
