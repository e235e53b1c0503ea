import Penguind.Foundation.Program

/-!
# Tasks that share a state

Several programs run at once over one state. The scheduler picks a task and answers the effect it
asks for; waiting for a lock is an effect that is not enabled. The mode of a task records how far
it has come. In `task_invariant`, the rule of interference freedom, each mode has an assertion on
the state, which the steps of other tasks have to keep.
-/

namespace Penguind.Foundation

universe u v w x y z

/-- What effects do, the program of each task, and its modes. -/
structure TaskMachine (σ : Type x) (E : Type u) (R : E → Type v) (N : Type y) (A : Type w)
    (M : Type z) where
  act : σ → (e : E) → R e → Option σ
  code : N → Prog E R A
  forks : E → List N
  callable : N → Bool
  entry : M
  next : M → (e : E) → R e → Option M

structure Task (E : Type u) (R : E → Type v) (A : Type w) (M : Type z) where
  mode : M
  rest : Prog E R A

structure Pool (σ : Type x) (E : Type u) (R : E → Type v) (A : Type w) (M : Type z) where
  world : σ
  tasks : List (Task E R A M)

inductive TaskLabel (E : Type u) (R : E → Type v) (N : Type y)
  | call (n : N)
  | step (i : Nat) (f : (e : E) → R e)

namespace TaskMachine

variable {σ : Type x} {E : Type u} {R : E → Type v} {N : Type y} {A : Type w} {M : Type z}
  (K : TaskMachine σ E R N A M)

def start (n : N) : Task E R A M := ⟨K.entry, K.code n⟩

def step (p : Pool σ E R A M) : TaskLabel E R N → Option (Pool σ E R A M)
  | .call n => if K.callable n then some ⟨p.world, p.tasks ++ [K.start n]⟩ else none
  | .step i f =>
    match p.tasks[i]? with
    | some ⟨m, .effect e k⟩ =>
      (K.act p.world e (f e)).map fun t =>
        -- A mode the rule rejects stays; for programs that keep to the modes this never happens.
        ⟨t, p.tasks.set i ⟨(K.next m e (f e)).getD m, k (f e)⟩ ++ (K.forks e).map K.start⟩
    | some ⟨_, .done _⟩ | none => none

abbrev Condition (σ : Type x) (E : Type u) (R : E → Type v) (M : Type z) :=
  σ → List M → M → (e : E) → R e → Prop

def others (p : Pool σ E R A M) (i : Nat) : List M := (p.tasks.eraseIdx i).map Task.mode

def MeetsNext (C : Condition σ E R M) (s : σ) (ms : List M) (f : (e : E) → R e) :
    Option (Task E R A M) → Prop
  | some ⟨m, .effect e _⟩ => C s ms m e (f e)
  | some ⟨_, .done _⟩ | none => True

def Meets (C : Condition σ E R M) (p : Pool σ E R A M) : TaskLabel E R N → Prop
  | .call _ => True
  | .step i f => MeetsNext C p.world (others p i) f p.tasks[i]?

section

variable (C : Condition σ E R M) [∀ s ms m e r, Decidable (C s ms m e r)]

instance (s : σ) (ms : List M) (f : (e : E) → R e) :
    ∀ t : Option (Task E R A M), Decidable (MeetsNext C s ms f t)
  | some ⟨m, .effect e _⟩ => inferInstanceAs (Decidable (C s ms m e (f e)))
  | some ⟨_, .done _⟩ | none => .isTrue trivial

instance (p : Pool σ E R A M) : ∀ a : TaskLabel E R N, Decidable (Meets C p a)
  | .call _ => .isTrue trivial
  | .step i f => inferInstanceAs (Decidable (MeetsNext C p.world (others p i) f p.tasks[i]?))

end

/-! ## Programs that keep to the modes -/

section Tracks

variable (next : M → (e : E) → R e → Option M)

/-- From mode `m` the program asks only for effects its modes allow. -/
def Tracks {A : Type w} (Q : A → M → Prop) : Prog E R A → M → Prop
  | .done a, m => Q a m
  | .effect e k, m => ∀ r, ∃ m', next m e r = some m' ∧ Tracks Q (k r) m'

variable {next}

section

variable {A B : Type w} {Q Q' : A → M → Prop} {m : M}

theorem Tracks.mono {p : Prog E R A} (h : Tracks next Q p m) (hQ : ∀ a n, Q a n → Q' a n) :
    Tracks next Q' p m := by
  induction p generalizing m with
  | done a => exact hQ a m h
  | effect e k ih =>
    intro r
    obtain ⟨m', hm', hk⟩ := h r
    exact ⟨m', hm', ih r hk⟩

theorem tracks_bind {p : Prog E R A} {f : A → Prog E R B} {Q : B → M → Prop} :
    Tracks next Q (p.bind f) m ↔ Tracks next (fun a n => Tracks next Q (f a) n) p m := by
  induction p generalizing m with
  | done a => rfl
  | effect e k ih => simp only [Prog.bind, Tracks, ih]

end

section

variable {ε ε' A B : Type v} {m : M} {p : ProgE ε E R A} {f : A → ProgE ε E R B}
  {Q : Except ε A → M → Prop} {Q₂ : Except ε B → M → Prop}

namespace Tracks

theorem bind (h : Tracks next Q p m) (hok : ∀ a n, Q (.ok a) n → Tracks next Q₂ (f a) n)
    (herr : ∀ e n, Q (.error e) n → Q₂ (.error e) n) :
    Tracks next Q₂ (p >>= f : ProgE ε E R B) m := by
  -- a sequence of fallible programs is one of plain programs whose second part looks at the result
  have hbind : (p >>= f : ProgE ε E R B) = Prog.bind p (ExceptT.bindCont f) := rfl
  rw [hbind, tracks_bind]
  refine h.mono ?_
  rintro (e | a) n hn
  · exact herr e n hn
  · exact hok a n hn

theorem call {e : E} {Q : Except ε (R e) → M → Prop}
    (h : ∀ r, ∃ n, next m e r = some n ∧ Q (.ok r) n) :
    Tracks next Q (ProgE.call e : ProgE ε E R (R e)) m := h

theorem call_bind {e : E} {f : R e → ProgE ε E R B}
    (h : ∀ r, ∃ n, next m e r = some n ∧ Tracks next Q₂ (f r) n) :
    Tracks next Q₂ (ProgE.call e >>= f : ProgE ε E R B) m := h

theorem attempt {Q : Except ε' (Except ε A) → M → Prop}
    (h : Tracks next (fun a n => Q (.ok a) n) p m) :
    Tracks next Q (ProgE.attempt p : ProgE ε' E R (Except ε A)) m := tracks_bind.mpr h

theorem attempt_bind {f : Except ε A → ProgE ε' E R B} {Q₂ : Except ε' B → M → Prop}
    (h : Tracks next (fun a n => Tracks next Q₂ (f a) n) p m) :
    Tracks next Q₂ (ProgE.attempt p >>= f : ProgE ε' E R B) m := by
  refine bind (attempt (Q := fun a n => ∃ b, a = .ok b ∧ Tracks next Q₂ (f b) n) ?_) ?_ ?_
  · exact h.mono fun a n hn => ⟨a, rfl, hn⟩
  · rintro a n ⟨b, ⟨⟩, hn⟩
    exact hn
  · rintro e n ⟨b, ⟨⟩, -⟩

theorem ofExcept {r : Except ε A} (h : Q r m) :
    Tracks next Q (ProgE.ofExcept r : ProgE ε E R A) m := by
  cases r <;> exact h

theorem bracket {a b : E} (ha : ∀ n r, next n a r = some n) (hb : ∀ n r, next n b r = some n)
    (h : Tracks next Q p m) : Tracks next Q (ProgE.bracket a b p) m := by
  refine call_bind fun r => ⟨m, ha m r, attempt_bind (h.mono fun result n hn => ?_)⟩
  exact call_bind fun r => ⟨n, hb n r, ofExcept hn⟩

end Tracks

def Stays (next : M → (e : E) → R e → Option M) (m : M) (p : ProgE ε E R A) : Prop :=
  Tracks next (fun _ n => n = m) p m

namespace Stays

theorem pure (a : A) : Stays next m (Pure.pure a : ProgE ε E R A) := rfl

theorem throw (e : ε) : Stays next m (MonadExcept.throw e : ProgE ε E R A) := rfl

theorem ofExcept (r : Except ε A) : Stays next m (ProgE.ofExcept r : ProgE ε E R A) :=
  Tracks.ofExcept rfl

theorem call {e : E} (h : ∀ r, next m e r = some m) :
    Stays next m (ProgE.call e : ProgE ε E R (R e)) := fun r => ⟨m, h r, rfl⟩

theorem bind (h : Stays next m p) (hf : ∀ a, Stays next m (f a)) :
    Stays next m (p >>= f : ProgE ε E R B) := by
  refine Tracks.bind h ?_ fun _ _ hn => hn
  rintro a n rfl
  exact hf a

theorem attempt (h : Stays next m p) :
    Stays next m (ProgE.attempt p : ProgE ε' E R (Except ε A)) := Tracks.attempt h

theorem mapError {g : ε → ε'} (h : Stays next m p) :
    Stays next m (ProgE.mapError g p : ProgE ε' E R A) :=
  bind (attempt h) fun r => ofExcept (r.mapError g)

end Stays

end

end Tracks

/-! ## The invariant rule -/

def Follows (K : TaskMachine σ E R N A M) (m : M) (p : Prog E R A) : Prop :=
  Tracks K.next (fun _ _ => True) p m

structure Consistent (K : TaskMachine σ E R N A M) (G : σ → Prop) (I : M → σ → Prop)
    (p : Pool σ E R A M) : Prop where
  world : G p.world
  tasks : ∀ t ∈ p.tasks, I t.mode p.world ∧ K.Follows t.mode t.rest

variable {K} {C : Condition σ E R M} {G : σ → Prop} {I : M → σ → Prop}

theorem mem_set_append {t t' : Task E R A M} {ts us : List (Task E R A M)} {i : Nat}
    (h : t ∈ ts.set i t' ++ us) : t = t' ∨ t ∈ ts.eraseIdx i ∨ t ∈ us := by
  rcases List.mem_append.mp h with h | h
  -- by position, since two tasks may be equal
  · obtain ⟨j, hj⟩ := List.mem_iff_getElem?.mp h
    by_cases hij : i = j
    · subst hij
      left
      rw [List.getElem?_set_self'] at hj
      obtain ⟨_, _, rfl⟩ := Option.map_eq_some_iff.mp hj
      rfl
    · right; left
      rw [List.getElem?_set_ne hij] at hj
      exact List.mem_eraseIdx_iff_getElem?.mpr ⟨j, Ne.symm hij, hj⟩
  · exact .inr (.inr h)

/-- **The interference rule**: effects establish the assertion of the next mode and keep `G` and all
others. -/
theorem task_invariant (hcode : ∀ n, K.Follows K.entry (K.code n))
    (hentry : ∀ s, G s → I K.entry s)
    (hstep : ∀ s ms m e r m' t, G s → I m s → (∀ o ∈ ms, I o s) → C s ms m e r →
      K.next m e r = some m' → K.act s e r = some t → G t ∧ I m' t ∧ ∀ o ∈ ms, I o t)
    {s : σ} {p : Pool σ E R A M} {as : List (TaskLabel E R N)} (hs : G s)
    (hC : Along K.step (Meets C) ⟨s, []⟩ as) (hr : run K.step ⟨s, []⟩ as = some p) :
    G p.world := by
  have h₀ : Consistent K G I ⟨s, []⟩ := ⟨hs, fun t ht => absurd ht List.not_mem_nil⟩
  refine (run_invariant (I := Consistent K G I) ?_ h₀ hC hr).world
  have hstart : ∀ n s, G s → I (K.start n).mode s ∧ K.Follows (K.start n).mode (K.start n).rest :=
    fun n s hs => ⟨hentry s hs, hcode n⟩
  rintro ⟨s, ts⟩ a q ⟨hG, hts⟩ hc hq
  cases a with
  | call n =>
    obtain ⟨-, h⟩ := Option.ite_none_right_eq_some.mp hq
    cases h
    refine ⟨hG, fun t ht => ?_⟩
    rcases List.mem_append.mp ht with ht | ht
    · exact hts t ht
    · rw [List.mem_singleton.mp ht]
      exact hstart n s hG
  | step i f =>
    simp only [step] at hq
    simp only [Meets] at hc
    split at hq
    · next m e k hi =>
      rw [hi] at hc
      obtain ⟨u, hu, rfl⟩ := Option.map_eq_some_iff.mp hq
      obtain ⟨hm, hfollows⟩ := hts _ (List.mem_of_getElem? hi)
      -- the task keeps to its mode, so `next` gives it a mode for this answer
      obtain ⟨m', hm', hrest⟩ := hfollows (f e)
      have hothers : ∀ t ∈ ts.eraseIdx i, t ∈ ts := fun t ht => List.mem_of_mem_eraseIdx ht
      have hIo : ∀ o ∈ others ⟨s, ts⟩ i, I o s := by
        intro o ho
        obtain ⟨t, ht, rfl⟩ := List.mem_map.mp ho
        exact (hts t (hothers t ht)).1
      obtain ⟨hG', hIm', hIo'⟩ := hstep s _ m e (f e) m' u hG hm hIo hc hm' hu
      refine ⟨hG', fun t ht => ?_⟩
      -- the task itself, one of the others, or one the effect has started
      rcases mem_set_append ht with rfl | ht | ht
      · rw [hm']
        exact ⟨hIm', hrest⟩
      · exact ⟨hIo' _ (List.mem_map_of_mem ht), (hts t (hothers t ht)).2⟩
      · obtain ⟨n, -, rfl⟩ := List.mem_map.mp ht
        exact hstart n u hG'
    · cases hq
    · cases hq

/-! ## Places that tasks write to -/

theorem world_of_step {p q : Pool σ E R A M} {a : TaskLabel E R N} (h : K.step p a = some q) :
    (∃ n, a = .call n ∧ q.world = p.world) ∨ ∃ i f m e k, a = .step i f ∧
      p.tasks[i]? = some ⟨m, .effect e k⟩ ∧ K.act p.world e (f e) = some q.world := by
  revert h
  fun_cases K.step p a with intro h
  | case1 n => exact .inl ⟨n, rfl, by cases h; rfl⟩
  | case3 i f m e k hi =>
    obtain ⟨u, hu, rfl⟩ := Option.map_eq_some_iff.mp h
    exact .inr ⟨i, f, m, e, k, rfl, hi, hu⟩
  | _ => cases h

def Settled (p : Pool σ E R A M) : Prop := ∀ t ∈ p.tasks, ∃ a, t.rest = .done a

instance : ∀ q : Prog E R A, Decidable (∃ a, q = .done a)
  | .done a => .isTrue ⟨a, rfl⟩
  | .effect _ _ => .isFalse nofun

instance (p : Pool σ E R A M) : Decidable (Settled p) :=
  inferInstanceAs (Decidable (∀ t ∈ p.tasks, ∃ a, t.rest = .done a))

def written {β : Type*} (g : (e : E) → R e → Option β) (p : Pool σ E R A M) :
    TaskLabel E R N → Option β
  | .call _ => none
  | .step i f =>
    match p.tasks[i]? with
    | some ⟨_, .effect e _⟩ => g e (f e)
    | some ⟨_, .done _⟩ | none => none

variable (K) in
/-- What the last effect wrote to the place. -/
def lastWritten {β : Type*} (g : (e : E) → R e → Option β) (s : σ) (as : List (TaskLabel E R N)) :
    Option β :=
  latest K.step (written g) ⟨s, []⟩ as

theorem place_eq_lastWritten {β : Type*} (place : σ → β) {g : (e : E) → R e → Option β}
    (hact : ∀ s e r t, K.act s e r = some t → place t = (g e r).getD (place s)) {s : σ}
    {p : Pool σ E R A M} {as : List (TaskLabel E R N)} (hr : run K.step ⟨s, []⟩ as = some p) :
    place p.world = (K.lastWritten g s as).getD (place s) := by
  refine run_latest (I := fun _ => True) (C := fun _ _ => True) (f := written g)
    (fun p => place p.world) (fun p a q _ _ hq => ⟨trivial, ?_⟩) trivial (along_true _ as) hr
  rcases world_of_step hq with ⟨n, rfl, hworld⟩ | ⟨i, f, m, e, k, rfl, hi, hu⟩
  · exact congrArg place hworld
  · simp only [written, hi]
    exact hact _ _ _ _ hu

end TaskMachine

end Penguind.Foundation
