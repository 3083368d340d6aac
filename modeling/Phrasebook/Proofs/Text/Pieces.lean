import Phrasebook.Proofs.Text.Scalar

/-! Pieces of a text between separators: how they are cut apart at one of them, and which pieces have a
separator behind them. -/

namespace Phrasebook.Text

variable {sep : CodePoint} {t piece : Text}

theorem cut_of_not_mem (h : sep ∉ t) : cut sep t = [t] := by
  induction t with
  | nil => rfl
  | cons c t ih =>
    obtain ⟨hc, ht⟩ := not_or.1 (mt List.mem_cons.2 h)
    rw [cut, if_neg (Ne.symm hc), ih ht]

theorem cut_ne_nil (sep : CodePoint) (t : Text) : cut sep t ≠ [] := by
  induction t with
  | nil => exact List.cons_ne_nil _ _
  | cons c t ih =>
    rw [cut]
    split
    · exact List.cons_ne_nil _ _
    · split <;> exact List.cons_ne_nil _ _

theorem cut_append_sep (t rest : Text) : cut sep (t ++ sep :: rest) = cut sep t ++ cut sep rest := by
  induction t with
  | nil => exact if_pos rfl
  | cons c t ih =>
    rw [List.cons_append, cut, cut, ih]
    split
    · rfl
    · cases hcut : cut sep t with
      | nil => exact (cut_ne_nil sep t hcut).elim
      | cons first more => rfl

theorem cut_join {pieces : List Text} (hne : pieces ≠ []) (h : ∀ piece ∈ pieces, sep ∉ piece) :
    cut sep (join [sep] pieces) = pieces := by
  induction pieces with
  | nil => exact (hne rfl).elim
  | cons first more ih =>
    obtain ⟨hfirst, hmore⟩ := List.forall_mem_cons.1 h
    cases more with
    | nil => rw [join_singleton, cut_of_not_mem hfirst]
    | cons second more =>
      rw [join_cons_cons, List.singleton_append, cut_append_sep, cut_of_not_mem hfirst,
        ih (List.cons_ne_nil _ _) hmore]
      rfl

theorem mem_dropLast_cut (hpiece : sep ∉ piece) : piece ∈ (cut sep t).dropLast ↔
    (∃ back, t = piece ++ sep :: back) ∨ ∃ front back, t = front ++ sep :: (piece ++ sep :: back) := by
  have hcut (back : Text) : cut sep (piece ++ sep :: back) = piece :: cut sep back := by
    rw [cut_append_sep, cut_of_not_mem hpiece, List.singleton_append]
  have hmem (back : Text) : piece ∈ (piece :: cut sep back).dropLast := by
    rw [List.dropLast_cons_of_ne_nil (cut_ne_nil sep back)]
    exact List.mem_cons_self
  constructor
  · induction hn : t.length using Nat.strongRecOn generalizing t with
    | ind n ih =>
      intro h
      by_cases hsep : sep ∈ t
      · obtain ⟨first, rest, rfl, hfirst⟩ := List.eq_append_cons_of_mem hsep
        rw [cut_append_sep, cut_of_not_mem hfirst, List.singleton_append,
          List.dropLast_cons_of_ne_nil (cut_ne_nil sep rest)] at h
        have hlt : rest.length < n := by
          rw [← hn, List.length_append, List.length_cons]
          omega
        rcases List.mem_cons.1 h with rfl | h
        · exact .inl ⟨rest, rfl⟩
        · rcases ih _ hlt rfl h with ⟨back, rfl⟩ | ⟨front, back, rfl⟩
          · exact .inr ⟨first, back, rfl⟩
          · exact .inr ⟨first ++ sep :: front, back, by rw [List.append_assoc, List.cons_append]⟩
      · rw [cut_of_not_mem hsep] at h
        cases h
  · rintro (⟨back, rfl⟩ | ⟨front, back, rfl⟩)
    · rw [hcut]
      exact hmem back
    · rw [cut_append_sep, hcut, List.dropLast_append_of_ne_nil (List.cons_ne_nil _ _)]
      exact List.mem_append_right _ (hmem back)

end Phrasebook.Text
