import Phrasebook.Log

/-! What a computation that logs gives, apart from what it logs. -/

namespace Phrasebook.Logged

variable {α β : Type}

theorem result_bind (x : Logged α) (f : α → Logged β) :
    (x >>= f).result = x.result >>= fun a => (f a).result := by
  show (Logged.bind x f).result = _
  unfold Logged.bind
  cases x.result <;> rfl

theorem bind_of_ok {x : Logged α} {a : α} (h : x.result = .ok a) (f : α → Logged β) :
    x >>= f = ⟨x.entries ++ (f a).entries, (f a).result⟩ := by
  show Logged.bind x f = _
  rw [Logged.bind, h]

theorem bind_of_error {x : Logged α} {fault : Fault} (h : x.result = .error fault) (f : α → Logged β) :
    x >>= f = ⟨x.entries, .error fault⟩ := by
  show Logged.bind x f = _
  rw [Logged.bind, h]

theorem bind_congr_ok {x : Logged α} {f g : α → Logged β} (h : ∀ a, x.result = .ok a → f a = g a) :
    x >>= f = x >>= g := by
  cases hx : x.result with
  | error fault => rw [bind_of_error hx, bind_of_error hx]
  | ok a => rw [bind_of_ok hx, bind_of_ok hx, h a hx]

instance : LawfulMonad Logged :=
  LawfulMonad.mk' Logged
    (fun x => by
      show x >>= pure = x
      cases hx : x.result with
      | error fault => rw [bind_of_error hx, ← hx]
      | ok a =>
        rw [bind_of_ok hx]
        show Logged.mk (x.entries ++ []) (.ok a) = x
        rw [List.append_nil, ← hx])
    (fun a f => by
      rw [bind_of_ok (rfl : (pure a : Logged _).result = .ok a)]
      rfl)
    (fun x f g => by
      cases hx : x.result with
      | error fault =>
        rw [bind_of_error hx, bind_of_error hx]
        rfl
      | ok a =>
        rw [bind_of_ok hx, bind_of_ok hx]
        cases hf : (f a).result with
        | error fault =>
          rw [bind_of_error hf, bind_of_error (by exact rfl)]
        | ok b =>
          rw [bind_of_ok hf, bind_of_ok (by exact rfl), List.append_assoc])

theorem result_map (g : α → β) (x : Logged α) : (g <$> x).result = x.result.map g := by
  rw [map_eq_pure_bind, result_bind]
  cases x.result <;> rfl

theorem result_bind_eq_ok {x : Logged α} {f : α → Logged β} {b : β} :
    (x >>= f).result = .ok b ↔ ∃ a, x.result = .ok a ∧ (f a).result = .ok b := by
  show (Logged.bind x f).result = .ok b ↔ _
  unfold Logged.bind
  cases x.result <;> simp

theorem result_bind_eq_error {x : Logged α} {f : α → Logged β} {fault : Fault} :
    (x >>= f).result = .error fault ↔
      x.result = .error fault ∨ ∃ a, x.result = .ok a ∧ (f a).result = .error fault := by
  show (Logged.bind x f).result = .error fault ↔ _
  unfold Logged.bind
  cases x.result <;> simp

theorem exists_of_any {x : Logged α} {p : α → Prop} [DecidablePred p]
    (h : x.result.toOption.any (fun a => decide (p a)) = true) : ∃ a, x.result = .ok a ∧ p a := by
  cases hx : x.result with
  | error fault =>
    rw [hx] at h
    cases h
  | ok a =>
    rw [hx] at h
    exact ⟨a, rfl, of_decide_eq_true h⟩

theorem result_ite_bind_eq_ok {p : Prop} [Decidable p] {x y : Logged α} {f : α → Logged β} {b : β} :
    (if p then x >>= f else y >>= f).result = .ok b ↔
      ∃ a, (if p then x else y).result = .ok a ∧ (f a).result = .ok b := by
  split <;> exact result_bind_eq_ok

end Phrasebook.Logged

namespace Phrasebook

theorem except_bind_eq_ok {ε α β : Type} {x : Except ε α} {f : α → Except ε β} {b : β} :
    (x >>= f) = .ok b ↔ ∃ a, x = .ok a ∧ f a = .ok b := by
  cases x <;> simp [Bind.bind, Except.bind]

theorem except_bind_eq_error {ε α β : Type} {x : Except ε α} {f : α → Except ε β} {e : ε} :
    (x >>= f) = .error e ↔ x = .error e ∨ ∃ a, x = .ok a ∧ f a = .error e := by
  cases x <;> simp [Bind.bind, Except.bind]

theorem except_eq_ok_of_toOption {ε α : Type} {x : Except ε α} {a : α} (h : x.toOption = some a) :
    x = .ok a := by
  cases x with
  | error e => cases h
  | ok b => rw [Option.some.inj h]

theorem except_map_eq_ok {ε α β : Type} {x : Except ε α} {f : α → β} {b : β} :
    x.map f = .ok b ↔ ∃ a, x = .ok a ∧ f a = b := by
  cases x <;> simp [Except.map]

theorem except_map_eq_error {ε α β : Type} {x : Except ε α} {f : α → β} {e : ε} :
    x.map f = .error e ↔ x = .error e := by
  cases x <;> simp [Except.map]

theorem except_mapError_eq_ok {ε ε' α : Type} {x : Except ε α} {f : ε → ε'} {a : α} :
    x.mapError f = .ok a ↔ x = .ok a := by
  cases x with
  | ok b =>
    constructor
    · intro h
      cases h
      rfl
    · intro h
      cases h
      rfl
  | error e =>
    constructor
    · intro h
      cases h
    · intro h
      cases h

theorem except_mapError_eq_error {ε ε' α : Type} {x : Except ε α} {f : ε → ε'} {e : ε'} :
    x.mapError f = .error e ↔ ∃ e', x = .error e' ∧ f e' = e := by
  constructor
  · intro h
    cases x with
    | ok a => cases h
    | error e' => exact ⟨e', rfl, Except.error.inj h⟩
  · rintro ⟨e', rfl, rfl⟩
    rfl

def Yields {α : Type} (E : Fault → Prop) (P : α → Prop) : Except Fault α → Prop
  | .ok a => P a
  | .error fault => E fault

section

variable {α β : Type} {E E' : Fault → Prop} {P P' : α → Prop} {Q : β → Prop}

theorem yields_of_error {x : Except Fault α} (h : ∀ fault, x = .error fault → E fault) :
    Yields E (fun a => x = .ok a) x := by
  cases x with
  | ok a => exact rfl
  | error fault => exact h fault rfl

theorem Yields.imp {x : Except Fault α} (h : Yields E P x) (hfault : ∀ fault, E fault → E' fault)
    (hvalue : ∀ a, x = .ok a → P a → P' a) : Yields E' P' x := by
  cases x with
  | ok a => exact hvalue a rfl h
  | error fault => exact hfault fault h

theorem Yields.bind {x : Except Fault α} {f : α → Except Fault β} (h : Yields E P x)
    (hf : ∀ a, x = .ok a → P a → Yields E Q (f a)) : Yields E Q (x >>= f) := by
  cases x with
  | ok a => exact hf a rfl h
  | error fault => exact h

theorem Yields.result_bind {x : Logged α} {f : α → Logged β} (h : Yields E P x.result)
    (hf : ∀ a, x.result = .ok a → P a → Yields E Q (f a).result) : Yields E Q (x >>= f).result := by
  show Yields E Q (Logged.bind x f).result
  unfold Logged.bind
  cases hx : x.result with
  | ok a =>
    rw [hx] at h
    exact hf a hx h
  | error fault =>
    rw [hx] at h
    exact h

end

end Phrasebook
