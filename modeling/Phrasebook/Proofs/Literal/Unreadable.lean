import Phrasebook.Proofs.Lists
import Phrasebook.Wrap.Placeholder
import Phrasebook.Literal.Value

/-! What can stop a literal from being read. There are three things: an escape whose number is that of
no code point, a decimal reference with too many digits, and a script whose match has a group that begins
after its end. -/

namespace Phrasebook

/-- The faults of reading a literal. -/
inductive Unreadable (script : Pattern) : Fault → Prop
  | codePointRange : Unreadable script .codePointRange
  | overflow : Unreadable script .overflow
  | tooManyDigits {count : Nat} (h : digitLimit < count) : Unreadable script (.tooManyDigits count)
  | crossedGroup {part : Text} (h : script.search part = .crossed) : Unreadable script .crossedGroup

variable {script : Pattern} {fault : Fault}

namespace Escape

theorem unreadable_of_point {n : Nat} (h : point n = .error fault) : Unreadable script fault := by
  unfold point at h
  split at h
  next => cases h
  next =>
    split at h <;> cases h
    · exact .codePointRange
    · exact .overflow

theorem unreadable_of_reading {c : CodePoint} {rest : Text} (h : reading c rest = .error fault) :
    Unreadable script fault := by
  unfold reading at h
  dsimp only at h
  split at h
  next =>
    split at h
    · exact unreadable_of_point (except_map_eq_error.1 h)
    · exact unreadable_of_point (except_map_eq_error.1 h)
    · cases h
  next =>
  split at h
  next =>
    split at h
    · exact unreadable_of_point (except_map_eq_error.1 h)
    · cases h
  next =>
  split at h
  next => exact unreadable_of_point (except_map_eq_error.1 h)
  next =>
  split at h
  next => cases h
  next =>
  split at h
  next => cases h
  next => split at h <;> cases h

theorem unreadable_of_unescapeFrom {skip : Nat} {t : Text} (h : unescapeFrom skip t = .error fault) :
    Unreadable script fault := by
  induction t generalizing skip with
  | nil =>
    rw [unescapeFrom.eq_def] at h
    cases skip <;> cases h
  | cons c rest ih =>
    cases skip with
    | succ skip => exact ih h
    | zero =>
      cases rest with
      | nil => cases h
      | cons d after =>
        rw [unescapeFrom] at h
        split at h
        next =>
          obtain h | ⟨r, -, h⟩ := except_bind_eq_error.1 h
          · exact unreadable_of_reading h
          obtain h | ⟨more, -, h⟩ := except_bind_eq_error.1 h
          · exact ih h
          · cases h
        next => exact ih (except_map_eq_error.1 h)

theorem unreadable_of_decode {raw : Text} (h : decode raw = .error fault) : Unreadable script fault :=
  unreadable_of_unescapeFrom (except_map_eq_error.1 h)

end Escape

namespace CharRef

theorem unreadable_of_reference? {t : Text} (h : reference? t = .error fault) :
    Unreadable script fault := by
  cases t with
  | nil => cases h
  | cons c rest =>
    rw [reference?] at h
    split at h
    next =>
      obtain h | ⟨r, -, h⟩ := except_bind_eq_error.1 h
      · unfold numeric? at h
        dsimp only at h
        split at h
        next =>
          obtain h | ⟨value, -, h⟩ := except_bind_eq_error.1 h
          · unfold ofDecimal at h
            split at h
            next hlong =>
              cases h
              exact .tooManyDigits hlong
            next => cases h
          · cases h
        next =>
          split at h
          next => split at h <;> cases h
          next => cases h
      · cases h
    next =>
      dsimp only at h
      split at h <;> cases h

theorem unreadable_of_decodeFrom {skip : Nat} {t : Text} (h : decodeFrom skip t = .error fault) :
    Unreadable script fault := by
  induction t generalizing skip with
  | nil =>
    rw [decodeFrom.eq_def] at h
    cases skip <;> cases h
  | cons c rest ih =>
    cases skip with
    | succ skip => exact ih h
    | zero =>
      rw [decodeFrom] at h
      split at h
      next =>
        obtain h | ⟨r, -, h⟩ := except_bind_eq_error.1 h
        · exact unreadable_of_reference? h
        · cases r with
          | none =>
            obtain h | ⟨more, -, h⟩ := except_bind_eq_error.1 h
            · exact ih h
            · cases h
          | some r =>
            obtain h | ⟨more, -, h⟩ := except_bind_eq_error.1 h
            · exact ih h
            · cases h
      next => exact ih (except_map_eq_error.1 h)

end CharRef

namespace Literal

theorem unreadable_of_quotedValue {inAttribute : Bool} {quoted : Text}
    (h : quotedValue inAttribute quoted = .error fault) : Unreadable script fault := by
  unfold quotedValue at h
  dsimp only at h
  split at h
  · exact CharRef.unreadable_of_decodeFrom h
  · exact Escape.unreadable_of_decode h

theorem unreadable_of_templateParts {source : Bytes} {n : Node}
    (h : templateParts source n = .error fault) : Unreadable script fault := by
  unfold templateParts at h
  obtain h | ⟨quasis, -, h⟩ := except_bind_eq_error.1 h
  · obtain ⟨raw, -, h⟩ := exists_of_mapM_error h
    exact Escape.unreadable_of_decode h
  · cases h

theorem unreadable_of_jsxValue {raw : Text} (h : jsxValue raw = .error fault) :
    Unreadable script fault :=
  CharRef.unreadable_of_decodeFrom (except_map_eq_error.1 h)

theorem unreadable_of_isPhrase {parts : List Text} (h : isPhrase script parts = .error fault) :
    Unreadable script fault := by
  induction parts with
  | nil => cases h
  | cons part rest ih =>
    rw [isPhrase] at h
    split at h
    next => exact ih h
    next => cases h
    next hfound =>
      cases h
      split at hfound
      · cases hfound
      · exact .crossedGroup hfound

theorem interpolate_templateParts {source : Bytes} {n : Node} {parts : Template}
    (h : templateParts source n = .ok parts) (names : List Text) :
    ∃ key, Placeholder.interpolate parts.quasis names = .ok key := by
  unfold templateParts at h
  obtain ⟨quasis, hquasis, h⟩ := except_bind_eq_ok.1 h
  cases h
  obtain ⟨raw, more, hraw⟩ : ∃ raw more, rawQuasis source (n.info.start.map (·.offset + 1))
      (n.info.stop.map (· - 1)) (n.children.filter fun c => c.kind == "template_substitution") =
        raw :: more := by
    cases n.children.filter fun c => c.kind == "template_substitution" with
    | nil => exact ⟨_, _, rfl⟩
    | cons s rest => exact ⟨_, _, rfl⟩
  rw [hraw, List.mapM_cons] at hquasis
  obtain ⟨quasi, -, hquasis⟩ := except_bind_eq_ok.1 hquasis
  obtain ⟨quasis', -, hquasis⟩ := except_bind_eq_ok.1 hquasis
  cases hquasis
  exact ⟨_, rfl⟩

end Literal

end Phrasebook
