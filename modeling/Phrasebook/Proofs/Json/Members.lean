import Mathlib.Data.List.Nodup
import Phrasebook.Json.Basic

/-! The members of an object when one of them is put in. -/

namespace Phrasebook.Json

variable {α : Type} {members : List (Text × α)} {m : Text × α} {key : Text} {value : α}

theorem put_of_not_mem (h : key ∉ members.map (·.1)) :
    put members key value = members ++ [(key, value)] := by
  induction members with
  | nil => rfl
  | cons m rest ih =>
    obtain ⟨hne, hrest⟩ := not_or.1 (mt List.mem_cons.2 h)
    rw [put, if_neg (Ne.symm hne), ih hrest]
    rfl

theorem keys_put_of_mem (h : key ∈ members.map (·.1)) :
    (put members key value).map (·.1) = members.map (·.1) := by
  induction members with
  | nil => cases h
  | cons m rest ih =>
    rw [put]
    split
    next => rfl
    next hne =>
      have hrest : key ∈ rest.map (·.1) := (List.mem_cons.1 h).resolve_left (Ne.symm hne)
      rw [List.map_cons, ih hrest, List.map_cons]

theorem nodup_put (h : (members.map (·.1)).Nodup) : ((put members key value).map (·.1)).Nodup := by
  by_cases hmem : key ∈ members.map (·.1)
  · rwa [keys_put_of_mem hmem]
  · rw [put_of_not_mem hmem, List.map_append]
    exact List.nodup_append'.2 ⟨h, List.nodup_singleton key, by simpa using hmem⟩

theorem mem_put (h : m ∈ put members key value) : m = (key, value) ∨ m ∈ members := by
  induction members with
  | nil => exact .inl (List.mem_singleton.1 h)
  | cons n rest ih =>
    rw [put] at h
    split at h
    next heq =>
      rcases List.mem_cons.1 h with h | h
      · exact .inl (h.trans (Prod.ext heq rfl))
      · exact .inr (List.mem_cons_of_mem n h)
    next =>
      rcases List.mem_cons.1 h with rfl | h
      · exact .inr List.mem_cons_self
      · exact (ih h).imp_right (List.mem_cons_of_mem n)

end Phrasebook.Json
