import Mathlib.Data.List.Forall2
import Phrasebook.Proofs.Log

/-! Lists whose members are changed one at a time, and lists that are gone through with a computation
that may fail. -/

namespace Phrasebook

section Failing

variable {ε α β : Type} {p : α → Except ε Bool} {f : α → Except ε β} {xs ys acc : List α}

theorem sublist_of_filterAuxM (h : xs.filterAuxM p acc = .ok ys) :
    ∃ zs : List α, ys = zs.reverse ++ acc ∧ zs.Sublist xs ∧ ∀ z ∈ zs, p z = .ok true := by
  induction xs generalizing acc with
  | nil =>
    cases h
    exact ⟨[], rfl, List.Sublist.refl _, fun z hz => (by cases hz)⟩
  | cons x rest ih =>
    rw [List.filterAuxM] at h
    obtain ⟨b, hb, h⟩ := except_bind_eq_ok.1 h
    obtain ⟨zs, rfl, hsub, hp⟩ := ih h
    cases b with
    | false => exact ⟨zs, rfl, hsub.cons x, hp⟩
    | true => exact ⟨x :: zs, by simp, hsub.cons_cons x, List.forall_mem_cons.2 ⟨hb, hp⟩⟩

theorem sublist_of_filterM (h : xs.filterM p = .ok ys) :
    ys.Sublist xs ∧ ∀ y ∈ ys, p y = .ok true := by
  obtain ⟨as, has, h⟩ := except_bind_eq_ok.1 h
  cases h
  obtain ⟨zs, rfl, hsub, hp⟩ := sublist_of_filterAuxM has
  rw [List.append_nil, List.reverse_reverse]
  exact ⟨hsub, hp⟩

theorem mem_of_filterAuxM {x : α} (hp : p x = .ok true) (h : xs.filterAuxM p acc = .ok ys)
    (hx : x ∈ xs ∨ x ∈ acc) : x ∈ ys := by
  induction xs generalizing acc with
  | nil =>
    cases h
    exact hx.resolve_left (by simp)
  | cons y rest ih =>
    rw [List.filterAuxM] at h
    obtain ⟨b, hb, h⟩ := except_bind_eq_ok.1 h
    refine ih h ?_
    rcases hx with hx | hx
    · obtain rfl | hx := List.mem_cons.1 hx
      · obtain rfl : b = true := Except.ok.inj (hb.symm.trans hp)
        exact .inr List.mem_cons_self
      · exact .inl hx
    · cases b with
      | false => exact .inr hx
      | true => exact .inr (List.mem_cons_of_mem _ hx)

theorem mem_of_filterM {x : α} (hp : p x = .ok true) (h : xs.filterM p = .ok ys) (hx : x ∈ xs) :
    x ∈ ys := by
  obtain ⟨as, has, h⟩ := except_bind_eq_ok.1 h
  cases h
  exact List.mem_reverse.2 (mem_of_filterAuxM hp has (.inl hx))

theorem mem_of_mapM {zs : List β} (h : xs.mapM f = .ok zs) : ∀ z ∈ zs, ∃ x ∈ xs, f x = .ok z := by
  induction xs generalizing zs with
  | nil =>
    cases h
    exact fun z hz => (by cases hz)
  | cons x rest ih =>
    rw [List.mapM_cons] at h
    obtain ⟨z, hz, h⟩ := except_bind_eq_ok.1 h
    obtain ⟨zs', hzs, h⟩ := except_bind_eq_ok.1 h
    cases h
    refine List.forall_mem_cons.2 ⟨⟨x, List.mem_cons_self, hz⟩, fun z hz => ?_⟩
    obtain ⟨y, hy, hfy⟩ := ih hzs z hz
    exact ⟨y, List.mem_cons_of_mem _ hy, hfy⟩

theorem length_of_mapM {zs : List β} (h : xs.mapM f = .ok zs) : zs.length = xs.length := by
  induction xs generalizing zs with
  | nil =>
    cases h
    rfl
  | cons x rest ih =>
    rw [List.mapM_cons] at h
    obtain ⟨z, -, h⟩ := except_bind_eq_ok.1 h
    obtain ⟨zs', hzs, h⟩ := except_bind_eq_ok.1 h
    cases h
    exact congrArg (· + 1) (ih hzs)

theorem exists_of_mapM_error {e : ε} (h : xs.mapM f = .error e) : ∃ x ∈ xs, f x = .error e := by
  induction xs with
  | nil => cases h
  | cons x rest ih =>
    rw [List.mapM_cons] at h
    obtain h | ⟨z, -, h⟩ := except_bind_eq_error.1 h
    · exact ⟨x, List.mem_cons_self, h⟩
    obtain h | ⟨zs, -, h⟩ := except_bind_eq_error.1 h
    · obtain ⟨y, hy, hfy⟩ := ih h
      exact ⟨y, List.mem_cons_of_mem x hy, hfy⟩
    · cases h

theorem exists_of_filterAuxM_error {e : ε} (h : xs.filterAuxM p acc = .error e) :
    ∃ x ∈ xs, p x = .error e := by
  induction xs generalizing acc with
  | nil => cases h
  | cons x rest ih =>
    rw [List.filterAuxM] at h
    obtain h | ⟨b, -, h⟩ := except_bind_eq_error.1 h
    · exact ⟨x, List.mem_cons_self, h⟩
    · obtain ⟨y, hy, hpy⟩ := ih h
      exact ⟨y, List.mem_cons_of_mem x hy, hpy⟩

theorem exists_of_filterM_error {e : ε} (h : xs.filterM p = .error e) : ∃ x ∈ xs, p x = .error e := by
  obtain h | ⟨ys, -, h⟩ := except_bind_eq_error.1 h
  · exact exists_of_filterAuxM_error h
  · cases h

end Failing

theorem nodup_eraseDups {α : Type} [BEq α] [LawfulBEq α] : (xs : List α) → xs.eraseDups.Nodup
  | [] => .nil
  | x :: xs => by
    rw [List.eraseDups_cons]
    refine List.nodup_cons.2 ⟨fun hx => ?_, nodup_eraseDups _⟩
    simpa using (List.mem_filter.1 (List.mem_eraseDups.1 hx)).2
termination_by xs => xs.length
decreasing_by exact Nat.lt_succ_of_le (List.length_filter_le _ xs)

theorem find?_set {α : Type} {p : α → Bool} {xs : List α} {k : Nat} {x y : α}
    (hk : xs[k]? = some x) (hp : p y = p x) :
    (xs.set k y).find? p = xs.find? p ∨
      ((xs.set k y).find? p = some y ∧ xs.find? p = some x) := by
  induction xs generalizing k with
  | nil => simp at hk
  | cons z rest ih =>
    cases k with
    | zero =>
      obtain rfl : z = x := by simpa using hk
      rw [List.set_cons_zero, List.find?_cons, List.find?_cons, hp]
      cases p z with
      | true => exact .inr ⟨rfl, rfl⟩
      | false => exact .inl rfl
    | succ k =>
      rw [List.set_cons_succ, List.find?_cons, List.find?_cons]
      cases p z with
      | true => exact .inl rfl
      | false => exact ih (by simpa using hk)

theorem any_set {α : Type} {p : α → Bool} {xs : List α} {k : Nat} {x y : α}
    (hk : xs[k]? = some x) (hp : p y = p x) : (xs.set k y).any p = xs.any p := by
  induction xs generalizing k with
  | nil => simp at hk
  | cons z rest ih =>
    cases k with
    | zero =>
      obtain rfl : z = x := by simpa using hk
      rw [List.set_cons_zero, List.any_cons, List.any_cons, hp]
    | succ k =>
      rw [List.set_cons_succ, List.any_cons, List.any_cons, ih (by simpa using hk)]

theorem findIdx?_set {α : Type} {p : α → Bool} {xs : List α} {k : Nat} {x y : α}
    (hk : xs[k]? = some x) (hp : p y = p x) : (xs.set k y).findIdx? p = xs.findIdx? p := by
  induction xs generalizing k with
  | nil => simp at hk
  | cons z rest ih =>
    cases k with
    | zero =>
      obtain rfl : z = x := by simpa using hk
      rw [List.set_cons_zero, List.findIdx?_cons, List.findIdx?_cons, hp]
    | succ k =>
      rw [List.set_cons_succ, List.findIdx?_cons, List.findIdx?_cons, ih (by simpa using hk)]

theorem mem_set_of_ne {α : Type} {xs : List α} {k : Nat} {x y z : α} (hk : xs[k]? = some x)
    (hz : z ∈ xs) : z = x ∨ z ∈ xs.set k y := by
  obtain ⟨j, hj⟩ := List.mem_iff_getElem?.1 hz
  by_cases hjk : k = j
  · subst hjk
    exact .inl (Option.some.inj (hj.symm.trans hk))
  · refine .inr (List.mem_iff_getElem?.2 ⟨j, ?_⟩)
    rw [List.getElem?_set_ne hjk, hj]

theorem exists_set_eq {α : Type} {past after : List α} {a b x y : α} {k : Nat}
    (hk : (past ++ a :: b :: after)[k]? = some x) (ha : x ≠ a) (hb : x ≠ b) :
    ∃ past' after', (past ++ a :: b :: after).set k y = past' ++ a :: b :: after' := by
  induction past generalizing k with
  | nil =>
    cases k with
    | zero => exact (ha (Option.some.inj hk).symm).elim
    | succ k =>
      cases k with
      | zero => exact (hb (Option.some.inj hk).symm).elim
      | succ k => exact ⟨[], after.set k y, rfl⟩
  | cons c past ih =>
    cases k with
    | zero => exact ⟨y :: past, after, rfl⟩
    | succ k =>
      obtain ⟨past', after', h⟩ := ih hk
      exact ⟨c :: past', after', congrArg (c :: ·) h⟩

theorem getElem?_set_of_getElem? {α : Type} {xs : List α} {k : Nat} {x y : α}
    (hk : xs[k]? = some x) : (xs.set k y)[k]? = some y := by
  obtain ⟨hlt, -⟩ := List.getElem?_eq_some_iff.1 hk
  rw [List.getElem?_set_self hlt]

theorem exists_mem_of_forall₂ {α β : Type} {R : α → β → Prop} {xs : List α} {ys : List β} {y : β}
    (h : List.Forall₂ R xs ys) (hy : y ∈ ys) : ∃ x ∈ xs, R x y := by
  induction h with
  | nil => cases hy
  | cons hxy _ ih =>
    obtain rfl | hy := List.mem_cons.1 hy
    · exact ⟨_, List.mem_cons_self, hxy⟩
    · obtain ⟨x, hx, hxy⟩ := ih hy
      exact ⟨x, List.mem_cons_of_mem _ hx, hxy⟩

theorem exists_append_of_forall₂ {α β : Type} {R : α → β → Prop} {as bs : List α} {cs : List β}
    (h : List.Forall₂ R (as ++ bs) cs) :
    ∃ xs ys, cs = xs ++ ys ∧ List.Forall₂ R as xs ∧ List.Forall₂ R bs ys := by
  refine ⟨cs.take as.length, cs.drop as.length, (List.take_append_drop _ _).symm, ?_, ?_⟩
  · simpa using List.forall₂_take as.length h
  · simpa using List.forall₂_drop as.length h

end Phrasebook
