import Phrasebook.Proofs.Log
import Phrasebook.Wrap.Pass

/-! When a literal is wrapped, and what then takes its place. -/

namespace Phrasebook.Pass

variable {env : Env} {owner : Text} {f : Focus}

theorem wrapString?_eq_ok {new? : Option Node} (h : (wrapString? env owner f).result = .ok new?) :
    ∃ value phrase, Literal.stringValue env.source f = .ok value ∧
      Literal.isPhrase env.script [value] = .ok phrase ∧
      new? = if phrase && !env.isExcluded f then
        some ((Wrap.ofString env.function.spelling value (Literal.inAttribute f)).inPlaceOf f.node)
      else none := by
  unfold wrapString? at h
  obtain ⟨value, hvalue, h⟩ := Logged.result_bind_eq_ok.1 h
  obtain ⟨phrase, hphrase, h⟩ := Logged.result_bind_eq_ok.1 h
  refine ⟨value, phrase, hvalue, hphrase, ?_⟩
  split at h
  next hp =>
    rw [if_pos hp]
    cases h
    rfl
  next hp =>
    rw [if_neg hp]
    cases h
    rfl

theorem wrapString?_eq_some {new : Node} (h : (wrapString? env owner f).result = .ok (some new)) :
    ∃ value, Literal.stringValue env.source f = .ok value ∧
      Literal.isPhrase env.script [value] = .ok true ∧ env.isExcluded f = false ∧
      new = (Wrap.ofString env.function.spelling value (Literal.inAttribute f)).inPlaceOf f.node := by
  obtain ⟨value, phrase, hvalue, hphrase, hnew⟩ := wrapString?_eq_ok h
  split at hnew
  next hp =>
    rw [Bool.and_eq_true, Bool.not_eq_true'] at hp
    cases hnew
    exact ⟨value, hvalue, hp.1 ▸ hphrase, hp.2, rfl⟩
  next => cases hnew

theorem wrapString?_of_value {value : Text} {phrase : Bool}
    (hvalue : Literal.stringValue env.source f = .ok value)
    (hphrase : Literal.isPhrase env.script [value] = .ok phrase)
    (h : (phrase && !env.isExcluded f) = false) : (wrapString? env owner f).result = .ok none := by
  unfold wrapString?
  refine Logged.result_bind_eq_ok.2 ⟨value, hvalue, ?_⟩
  refine Logged.result_bind_eq_ok.2 ⟨phrase, hphrase, ?_⟩
  rw [h]
  rfl

/-- What takes the place of a run: one node with the run's span. -/
def placedRun (new first : Node) (more : List Node) : Node :=
  if more.isEmpty then new.inPlaceOf first
  else new.inPlaceOfRun first (more.getLastD first) .full

theorem wrapRun?_eq_ok {more : List Node} {new? : Option Node}
    (h : (wrapRun? env owner f more).result = .ok new?) :
    ∃ value phrase, Literal.jsxValue (Literal.runSource env.source (f.node :: more)) = .ok value ∧
      Literal.isPhrase env.script [value] = .ok phrase ∧
      new? = if phrase && !env.isExcluded f then
        some (placedRun (Wrap.ofJsxText env.function.spelling
          (Literal.runSource env.source (f.node :: more)) value) f.node more)
      else none := by
  unfold wrapRun? at h
  dsimp only at h
  obtain ⟨value, hvalue, h⟩ := Logged.result_bind_eq_ok.1 h
  obtain ⟨phrase, hphrase, h⟩ := Logged.result_bind_eq_ok.1 h
  refine ⟨value, phrase, hvalue, hphrase, ?_⟩
  split at h
  next hp =>
    rw [if_pos hp]
    cases h
    rfl
  next hp =>
    rw [if_neg hp]
    cases h
    rfl

theorem wrapRun?_eq_some {more : List Node} {new : Node}
    (h : (wrapRun? env owner f more).result = .ok (some new)) :
    ∃ value, Literal.jsxValue (Literal.runSource env.source (f.node :: more)) = .ok value ∧
      Literal.isPhrase env.script [value] = .ok true ∧ env.isExcluded f = false ∧
      new = placedRun (Wrap.ofJsxText env.function.spelling
        (Literal.runSource env.source (f.node :: more)) value) f.node more := by
  obtain ⟨value, phrase, hvalue, hphrase, hnew⟩ := wrapRun?_eq_ok h
  split at hnew
  next hp =>
    rw [Bool.and_eq_true, Bool.not_eq_true'] at hp
    cases hnew
    exact ⟨value, hvalue, hp.1 ▸ hphrase, hp.2, rfl⟩
  next => cases hnew

theorem wrapRun?_of_value {more : List Node} {value : Text} {phrase : Bool}
    (hvalue : Literal.jsxValue (Literal.runSource env.source (f.node :: more)) = .ok value)
    (hphrase : Literal.isPhrase env.script [value] = .ok phrase)
    (h : (phrase && !env.isExcluded f) = false) :
    (wrapRun? env owner f more).result = .ok none := by
  unfold wrapRun?
  refine Logged.result_bind_eq_ok.2 ⟨value, hvalue, ?_⟩
  refine Logged.result_bind_eq_ok.2 ⟨phrase, hphrase, ?_⟩
  rw [h]
  rfl

theorem templateKey?_eq_ok {key? : Option Text} (h : (templateKey? env owner f).result = .ok key?) :
    ∃ parts phrase, Literal.templateParts env.source f.node = .ok parts ∧
      Literal.isPhrase env.script parts.quasis = .ok phrase ∧
      if phrase && !env.isExcluded f then
        ∃ key, Placeholder.interpolate parts.quasis
          (Placeholder.names env.source parts.expressions) = .ok key ∧ key? = some key
      else key? = none := by
  unfold templateKey? at h
  obtain ⟨parts, hparts, h⟩ := Logged.result_bind_eq_ok.1 h
  obtain ⟨phrase, hphrase, h⟩ := Logged.result_bind_eq_ok.1 h
  refine ⟨parts, phrase, hparts, hphrase, ?_⟩
  split at h
  next hp =>
    rw [if_pos hp]
    obtain ⟨-, -, h⟩ := Logged.result_bind_eq_ok.1 h
    obtain ⟨key, hkey, h⟩ := Logged.result_bind_eq_ok.1 h
    cases h
    exact ⟨key, hkey, rfl⟩
  next hp =>
    rw [if_neg hp]
    cases h
    rfl

theorem templateKey?_eq_some {key : Text} (h : (templateKey? env owner f).result = .ok (some key)) :
    ∃ parts, Literal.templateParts env.source f.node = .ok parts ∧
      Literal.isPhrase env.script parts.quasis = .ok true ∧ env.isExcluded f = false ∧
      Placeholder.interpolate parts.quasis (Placeholder.names env.source parts.expressions) =
        .ok key := by
  obtain ⟨parts, phrase, hparts, hphrase, hkey⟩ := templateKey?_eq_ok h
  split at hkey
  next hp =>
    rw [Bool.and_eq_true, Bool.not_eq_true'] at hp
    obtain ⟨key', hkey', ⟨⟩⟩ := hkey
    exact ⟨parts, hparts, hp.1 ▸ hphrase, hp.2, hkey'⟩
  next => cases hkey

theorem templateKey?_of_parts {parts : Literal.Template} {phrase : Bool}
    (hparts : Literal.templateParts env.source f.node = .ok parts)
    (hphrase : Literal.isPhrase env.script parts.quasis = .ok phrase)
    (h : (phrase && !env.isExcluded f) = false) :
    (templateKey? env owner f).result = .ok none := by
  unfold templateKey?
  refine Logged.result_bind_eq_ok.2 ⟨parts, hparts, ?_⟩
  refine Logged.result_bind_eq_ok.2 ⟨phrase, hphrase, ?_⟩
  rw [h]
  rfl

end Phrasebook.Pass
