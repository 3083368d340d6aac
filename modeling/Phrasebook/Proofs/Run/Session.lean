import Phrasebook.Run.Session

/-! Sessions told by what they do to the files of a run. Everything else that a session changes, which
is what it prints and logs and the spans it times, has no part in what it comes to. -/

namespace Phrasebook.Session

variable {α β : Type}

/-- What a session comes to from a world on, and the world it leaves. -/
def exec (x : Session α) (w : World) : Except Fault α × World := x.run.run w

theorem exec_bind (x : Session α) (f : α → Session β) (w : World) :
    exec (x >>= f) w = match exec x w with
      | (.ok a, w') => exec (f a) w'
      | (.error fault, w') => (.error fault, w') := by
  unfold exec ExceptT.run StateT.run
  simp only [bind, ExceptT.bind, ExceptT.mk, StateT.bind, ExceptT.bindCont]
  cases x w with
  | mk a w' => cases a <;> rfl

/-- A session that, whatever else the world holds, comes to `a` on the files `s` and leaves `s'`. -/
def Does (x : Session α) (s : Store) (r : Store.Refusals) (a : Except Fault α) (s' : Store) : Prop :=
  ∀ w : World, w.store = s → w.refusals = r →
    (exec x w).1 = a ∧ (exec x w).2.store = s' ∧ (exec x w).2.refusals = r

variable {x : Session α} {f : α → Session β} {s s' s'' : Store} {r : Store.Refusals}
  {a : Except Fault α} {b : Except Fault β} {fault : Fault}

theorem does_pure (v : α) : Does (pure v) s r (.ok v) s := fun _ hs hr => ⟨rfl, hs, hr⟩

theorem does_throw (fault : Fault) : Does (throw fault : Session α) s r (.error fault) s :=
  fun _ hs hr => ⟨rfl, hs, hr⟩

theorem does_lift (a : Except Fault α) : Does (liftM a : Session α) s r a s := by
  cases a with
  | ok v => exact does_pure v
  | error fault => exact does_throw fault

theorem Does.bind {v : α} (h : Does x s r (.ok v) s') (hf : Does (f v) s' r b s'') :
    Does (x >>= f) s r b s'' := by
  intro w hs hr
  obtain ⟨hv, hs', hr'⟩ := h w hs hr
  rw [exec_bind]
  cases hx : exec x w with
  | mk a w' =>
    rw [hx] at hv hs' hr'
    cases hv
    exact hf w' hs' hr'

theorem Does.bind_error (h : Does x s r (.error fault) s') :
    Does (x >>= f) s r (.error fault) s' := by
  intro w hs hr
  obtain ⟨ha, hs', hr'⟩ := h w hs hr
  rw [exec_bind]
  cases hx : exec x w with
  | mk a w' =>
    rw [hx] at ha hs' hr'
    cases ha
    exact ⟨rfl, hs', hr'⟩

theorem Does.cases (h : Does x s r a s') {done : Except Fault β × Store}
    (herror : ∀ fault, a = .error fault → done = (.error fault, s'))
    (hok : ∀ v, a = .ok v → Does (f v) s' r done.1 done.2) : Does (x >>= f) s r done.1 done.2 := by
  cases a with
  | ok v => exact h.bind (hok v rfl)
  | error fault =>
    rw [herror fault rfl]
    exact h.bind_error

theorem Does.follow {g : α → Except Fault β} (h : Does x s r a s)
    (hf : ∀ v, a = .ok v → Does (f v) s r (g v) s) : Does (x >>= f) s r (a >>= g) s := by
  cases a with
  | ok v => exact h.bind (hf v rfl)
  | error fault => exact h.bind_error

theorem does_get {f : World → Session β}
    (h : ∀ w, w.store = s → w.refusals = r → Does (f w) s r b s') : Does (get >>= f) s r b s' := by
  intro w hs hr
  rw [exec_bind]
  exact h w hs hr w hs hr

theorem does_modify {g : World → World} (hstore : ∀ w, (g w).store = w.store)
    (hrefusals : ∀ w, (g w).refusals = w.refusals) : Does (modify g) s r (.ok ()) s :=
  fun w hs hr => ⟨rfl, (hstore w).trans hs, (hrefusals w).trans hr⟩

theorem does_say (level : Level) (t : Text) : Does (say level t) s r (.ok ()) s :=
  does_modify (fun _ => rfl) fun _ => rfl

theorem does_print (t : Text) : Does (print t) s r (.ok ()) s :=
  does_modify (fun _ => rfl) fun _ => rfl

theorem does_flushMonitor : Does flushMonitor s r (.ok ()) s :=
  does_modify (fun _ => rfl) fun _ => rfl

theorem does_ofLogged (x : Logged α) : Does (ofLogged x) s r x.result s := by
  refine Does.bind (does_modify (fun _ => rfl) fun _ => rfl : Does (modify _) s r _ s) ?_
  cases x.result with
  | ok v => exact does_pure v
  | error fault => exact does_throw fault

theorem Does.attempt (h : Does x s r a s') : Does (attempt x) s r (.ok a) s' := by
  intro w hs hr
  obtain ⟨rfl, hs', hr'⟩ := h w hs hr
  exact ⟨rfl, hs', hr'⟩

theorem Does.measure (h : Does x s r a s') (name : Text) (metadata : List (Text × Json))
    (extra : α → List (Text × Json)) : Does (measure name metadata extra x) s r a s' := by
  unfold Session.measure
  refine does_get fun w _ _ => ?_
  refine Does.bind (does_modify (fun _ => rfl) fun _ => rfl : Does (modify _) s r _ s) ?_
  refine h.attempt.bind (does_get fun w' _ _ => ?_)
  refine Does.bind (does_modify (fun _ => rfl) fun _ => rfl : Does (modify _) s' r _ s') ?_
  cases a with
  | ok v => exact does_pure v
  | error fault => exact does_throw fault

theorem does_readFile (p : FilePath) : Does (readFile p) s r (s.read p) s := by
  refine does_get fun w hs _ => ?_
  rw [hs]
  cases s.read p with
  | ok bytes => exact does_pure bytes
  | error fault => exact does_throw fault

theorem does_set (w' : World) (hr : w'.refusals = r) : Does (set w' : Session Unit) s r (.ok ()) w'.store :=
  fun _ _ _ => ⟨rfl, rfl, hr⟩

theorem does_writeFile (p : FilePath) (t : Text) :
    Does (writeFile p t) s r (s.atomicWrite r p t).2 (s.atomicWrite r p t).1 := by
  refine does_get fun w hs hr => ?_
  rw [hs, hr]
  obtain ⟨s', result⟩ := s.atomicWrite r p t
  refine (does_set { w with store := s', refusals := r } rfl).bind ?_
  cases result with
  | ok u => exact does_pure u
  | error fault => exact does_throw fault

theorem does_makeFolders (p : FilePath) :
    Does (makeFolders p) s r (s.makeFolders p).2 (s.makeFolders p).1 := by
  refine does_get fun w hs hr => ?_
  rw [hs]
  obtain ⟨s', result⟩ := s.makeFolders p
  refine (does_set { w with store := s' } hr).bind ?_
  cases result with
  | ok u => exact does_pure u
  | error fault => exact does_throw fault

end Phrasebook.Session
