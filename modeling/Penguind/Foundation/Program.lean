import Penguind.Foundation.Run

/-!
# Programs with effects, and crashes between them

A program has a result, or asks for an effect and goes on with the answer; a crash can fall before
or after each effect and nowhere else. `Safe act J C Q p s` is the precondition of `p`: started in
`s`, with every answer meeting `C`, it keeps `J` after every effect and ends with `Q`.

## Main results

* `safe_bind`, `Safe.mono`, `Triple.bind`, `Triple.conseq`: the rules
* `Prog.Uses.safe`: what the effects of a program keep, the program keeps
* `crash_invariant`: what every operation keeps at every effect, every run keeps
* `idle_iff`: the condition under which exactly a property holds while no operation runs
-/

namespace Penguind.Foundation

universe u v w x y z

inductive Prog (E : Type u) (R : E → Type v) (A : Type w)
  | done (a : A)
  | effect (e : E) (k : R e → Prog E R A)

namespace Prog

variable {E : Type u} {R : E → Type v} {A B : Type w}

def bind : Prog E R A → (A → Prog E R B) → Prog E R B
  | .done a, f => f a
  | .effect e k, f => .effect e fun r => (k r).bind f

instance : Monad (Prog E R : Type w → Type _) where
  pure := .done
  bind := bind

end Prog

abbrev ProgE (ε : Type w) (E : Type u) (R : E → Type v) : Type w → Type _ := ExceptT ε (Prog E R)

namespace ProgE

variable {ε ε' : Type v} {E : Type u} {R : E → Type v} {A : Type v}

def call (e : E) : ProgE ε E R (R e) := Prog.effect e fun r => .done (.ok r)

/-- Goes on with the result, be it an error or not. -/
def attempt (p : ProgE ε E R A) : ProgE ε' E R (Except ε A) :=
  Prog.bind p fun r => .done (.ok r)

def ofExcept : Except ε A → ProgE ε E R A
  | .ok a => pure a
  | .error e => throw e

def mapError (f : ε → ε') (p : ProgE ε E R A) : ProgE ε' E R A :=
  attempt p >>= fun r => ofExcept (r.mapError f)

/-- The second effect follows however the program ends. -/
def bracket (acquire release : E) (p : ProgE ε E R A) : ProgE ε E R A := do
  let _ ← call acquire
  let result : Except ε A ← attempt p
  let _ ← call release
  ofExcept result

end ProgE

/-! ## Execution with a handler -/

section Exec

variable {σ : Type x} {E : Type u} {R : E → Type v}

def Prog.exec {A : Type w} (handle : (e : E) → σ → R e × σ) : Prog E R A → σ → A × σ
  | .done a, s => (a, s)
  | .effect e k, s => (k (handle e s).1).exec handle (handle e s).2

def Prog.execFor {A : Type w} (handle : (e : E) → σ → R e × σ) : Nat → Prog E R A → σ → σ
  | 0, _, s | _ + 1, .done _, s => s
  | n + 1, .effect e k, s => (k (handle e s).1).execFor handle n (handle e s).2

variable {handle : (e : E) → σ → R e × σ} {s : σ}

theorem exec_bind {A B : Type w} {p : Prog E R A} {f : A → Prog E R B} :
    (p.bind f).exec handle s = (f (p.exec handle s).1).exec handle (p.exec handle s).2 := by
  induction p generalizing s with
  | done a => rfl
  | effect e k ih => exact ih _

variable {ε ε' A B : Type v} {p : ProgE ε E R A} {f : A → ProgE ε E R B}

theorem exec_bind_ok {a : A} {t : σ} (h : Prog.exec handle p s = (.ok a, t)) :
    Prog.exec handle (p >>= f : ProgE ε E R B) s = Prog.exec handle (f a) t := by
  have hbind : (p >>= f : ProgE ε E R B) = Prog.bind p (ExceptT.bindCont f) := rfl
  rw [hbind, exec_bind, h]
  rfl

theorem exec_bind_error {e : ε} {t : σ} (h : Prog.exec handle p s = (.error e, t)) :
    Prog.exec handle (p >>= f : ProgE ε E R B) s = (.error e, t) := by
  have hbind : (p >>= f : ProgE ε E R B) = Prog.bind p (ExceptT.bindCont f) := rfl
  rw [hbind, exec_bind, h]
  rfl

/-- With the rules below, `simp` executes a program. -/
@[simp] theorem exec_bindE : Prog.exec handle (p >>= f : ProgE ε E R B) s =
    match Prog.exec handle p s with
    | (.ok a, t) => Prog.exec handle (f a) t
    | (.error e, t) => (.error e, t) := by
  rcases h : Prog.exec handle p s with ⟨e | a, t⟩
  · exact exec_bind_error h
  · exact exec_bind_ok h

@[simp] theorem exec_pure {a : A} : Prog.exec handle (pure a : ProgE ε E R A) s = (.ok a, s) := rfl

@[simp] theorem exec_throw {e : ε} :
    Prog.exec handle (throw e : ProgE ε E R A) s = (.error e, s) := rfl

theorem exec_call_bind {e : E} {f : R e → ProgE ε E R B} :
    Prog.exec handle (ProgE.call e >>= f : ProgE ε E R B) s =
      Prog.exec handle (f (handle e s).1) (handle e s).2 := rfl

@[simp] theorem exec_attempt : Prog.exec handle (ProgE.attempt p : ProgE ε' E R (Except ε A)) s =
    (.ok (Prog.exec handle p s).1, (Prog.exec handle p s).2) := by
  rw [ProgE.attempt, exec_bind]
  rfl

theorem exec_attempt_bind {f : Except ε A → ProgE ε' E R B} :
    Prog.exec handle (ProgE.attempt p >>= f : ProgE ε' E R B) s =
      Prog.exec handle (f (Prog.exec handle p s).1) (Prog.exec handle p s).2 :=
  exec_bind_ok exec_attempt

@[simp] theorem exec_ofExcept {r : Except ε A} :
    Prog.exec handle (ProgE.ofExcept r : ProgE ε E R A) s = (r, s) := by
  cases r <;> rfl

theorem exec_bracket {acquire release : E} (ha : ∀ t, (handle acquire t).2 = t)
    (hr : ∀ t, (handle release t).2 = t) :
    Prog.exec handle (ProgE.bracket acquire release p) s = Prog.exec handle p s := by
  rw [ProgE.bracket, exec_call_bind, ha, exec_attempt_bind, exec_call_bind, hr, exec_ofExcept]

end Exec

/-! ## Preconditions -/

section Safe

variable {σ : Type x} {E : Type u} {R : E → Type v}
  (act : σ → (e : E) → R e → Option σ) (J : σ → Prop) (C : σ → (e : E) → R e → Prop)

/-- From `s` the program keeps `J` after every effect whose answer meets `C`, and ends with `Q`. -/
def Safe {A : Type w} (Q : A → σ → Prop) : Prog E R A → σ → Prop
  | .done a, s => Q a s
  | .effect e k, s => ∀ r t, C s e r → act s e r = some t → J t ∧ Safe Q (k r) t

variable {act J C}

section

variable {A B : Type w} {Q Q' : A → σ → Prop} {s : σ}

theorem Safe.mono {p : Prog E R A} (h : Safe act J C Q p s) (hQ : ∀ a t, Q a t → Q' a t) :
    Safe act J C Q' p s := by
  induction p generalizing s with
  | done a => exact hQ a s h
  | effect e k ih =>
    intro r t hc ht
    exact ⟨(h r t hc ht).1, ih r (h r t hc ht).2⟩

theorem Safe.and {C' : σ → (e : E) → R e → Prop} {p : Prog E R A} (h : Safe act J C Q p s)
    (h' : Safe act J C' Q' p s) (hC : ∀ s e r, C' s e r → C s e r) :
    Safe act J C' (fun a t => Q a t ∧ Q' a t) p s := by
  induction p generalizing s with
  | done a => exact ⟨h, h'⟩
  | effect e k ih =>
    intro r t hc ht
    have hgo := h r t (hC s e r hc) ht
    exact ⟨hgo.1, ih r hgo.2 (h' r t hc ht).2⟩

theorem safe_true {p : Prog E R A} : Safe act (fun _ => True) C (fun _ _ => True) p s := by
  induction p generalizing s with
  | done a => exact trivial
  | effect e k ih => exact fun r t _ _ => ⟨trivial, ih r⟩

theorem safe_bind {p : Prog E R A} {f : A → Prog E R B} {Q : B → σ → Prop} :
    Safe act J C Q (p.bind f) s ↔ Safe act J C (fun a t => Safe act J C Q (f a) t) p s := by
  induction p generalizing s with
  | done a => rfl
  | effect e k ih =>
    simp only [Prog.bind, Safe, ih]

end

section

variable {ε ε' A B : Type v} {s : σ}

def Continue (act : σ → (e : E) → R e → Option σ) (J : σ → Prop)
    (C : σ → (e : E) → R e → Prop) (f : A → ProgE ε E R B) (Q : Except ε B → σ → Prop) :
    Except ε A → σ → Prop
  | .ok a, t => Safe act J C Q (f a) t
  | .error e, t => Q (.error e) t

theorem safe_bindE {p : ProgE ε E R A} {f : A → ProgE ε E R B} {Q : Except ε B → σ → Prop} :
    Safe act J C Q (p >>= f : ProgE ε E R B) s ↔ Safe act J C (Continue act J C f Q) p s := by
  have h : (p >>= f : ProgE ε E R B) = Prog.bind p (ExceptT.bindCont f) := rfl
  rw [h, safe_bind]
  constructor
  · intro h
    refine h.mono fun a t ht => ?_
    cases a <;> exact ht
  · intro h
    refine h.mono fun a t ht => ?_
    cases a <;> exact ht

/-! ### Triples -/

def Triple (act : σ → (e : E) → R e → Option σ) (J : σ → Prop) (C : σ → (e : E) → R e → Prop)
    (P : σ → Prop) (p : ProgE ε E R A) (Q : Except ε A → σ → Prop) : Prop :=
  ∀ s, P s → Safe act J C Q p s

namespace Triple

variable {P P' : σ → Prop} {p : ProgE ε E R A} {f : A → ProgE ε E R B}
  {Q Q' : Except ε A → σ → Prop} {Q₂ : Except ε B → σ → Prop}

theorem conseq (h : Triple act J C P p Q) (hP : ∀ s, P' s → P s) (hQ : ∀ a s, Q a s → Q' a s) :
    Triple act J C P' p Q' :=
  fun s hs => (h s (hP s hs)).mono hQ

theorem bind (h : Triple act J C P p Q) (hok : ∀ a, Triple act J C (Q (.ok a)) (f a) Q₂)
    (herr : ∀ e s, Q (.error e) s → Q₂ (.error e) s) :
    Triple act J C P (p >>= f : ProgE ε E R B) Q₂ := by
  intro s hs
  refine safe_bindE.mpr ((h s hs).mono ?_)
  rintro (e | a) t ht
  · exact herr e t ht
  · exact hok a t ht

theorem call {e : E} {Q : Except ε (R e) → σ → Prop}
    (h : ∀ s, P s → ∀ r t, C s e r → act s e r = some t → J t ∧ Q (.ok r) t) :
    Triple act J C P (ProgE.call e : ProgE ε E R (R e)) Q := h

theorem attempt {Q : Except ε' (Except ε A) → σ → Prop}
    (h : Triple act J C P p fun a s => Q (.ok a) s) :
    Triple act J C P (ProgE.attempt p : ProgE ε' E R (Except ε A)) Q :=
  fun s hs => safe_bind.mpr (h s hs)

end Triple

end

/-! ### Programs that use some effects only -/

def Prog.Uses {A : Type w} (S : E → Prop) : Prog E R A → Prop
  | .done _ => True
  | .effect e k => S e ∧ ∀ r, (k r).Uses S

theorem uses_bind {A B : Type w} {S : E → Prop} {p : Prog E R A} {f : A → Prog E R B}
    (hp : p.Uses S) (hf : ∀ a, (f a).Uses S) : (p.bind f).Uses S := by
  induction p with
  | done a => exact hf a
  | effect e k ih => exact ⟨hp.1, fun r => ih r (hp.2 r)⟩

section

variable {ε ε' A B : Type v} {S : E → Prop} {p : ProgE ε E R A} {f : A → ProgE ε E R B}

theorem uses_bindE (hp : Prog.Uses S p) (hf : ∀ a, Prog.Uses S (f a)) :
    Prog.Uses S (p >>= f : ProgE ε E R B) := by
  have h : (p >>= f : ProgE ε E R B) = Prog.bind p (ExceptT.bindCont f) := rfl
  rw [h]
  refine uses_bind hp fun a => ?_
  cases a with
  | ok a => exact hf a
  | error e => exact trivial

theorem uses_call {e : E} (he : S e) : Prog.Uses S (ProgE.call e : ProgE ε E R (R e)) :=
  ⟨he, fun _ => trivial⟩

theorem uses_attempt (hp : Prog.Uses S p) :
    Prog.Uses S (ProgE.attempt p : ProgE ε' E R (Except ε A)) :=
  uses_bind hp fun _ => trivial

end

theorem Prog.Uses.safe {A : Type w} {S : E → Prop} {I : σ → Prop} {p : Prog E R A}
    (hp : p.Uses S) (hkeep : ∀ s e r t, I s → S e → act s e r = some t → I t)
    (hIJ : ∀ s, I s → J s) {s : σ} (hs : I s) : Safe act J C (fun _ t => I t) p s := by
  induction p generalizing s with
  | done a => exact hs
  | effect e k ih =>
    intro r t _ ht
    have hI : I t := hkeep s e r t hs hp.1 ht
    exact ⟨hIJ t hI, ih r (hp.2 r) hI⟩

theorem Safe.exec {A : Type w} {Q : A → σ → Prop} {handle : (e : E) → σ → R e × σ} {p : Prog E R A}
    {s : σ} (hact : ∀ e s, act s e (handle e s).1 = some (handle e s).2)
    (hC : ∀ e s, C s e (handle e s).1) (h : Safe act J C Q p s) :
    Q (p.exec handle s).1 (p.exec handle s).2 := by
  induction p generalizing s with
  | done a => exact h
  | effect e k ih => exact ih _ (h _ _ (hC e s) (hact e s)).2

end Safe

/-! ## Processes that crash -/

/-- What effects do, the program of each operation, and what is left of its end and of a crash. -/
structure CrashMachine (σ : Type x) (E : Type u) (R : E → Type v) (Op : Type y) (A : Type w)
    (X : Type z) where
  act : σ → (e : E) → R e → Option σ
  code : Op → Prog E R A
  finish : A → σ → σ
  crash : σ → σ
  env : X → σ → Option σ

structure Process (σ : Type x) (E : Type u) (R : E → Type v) (A : Type w) where
  world : σ
  running : Option (Prog E R A)

/-- The answers come as a function, of which an effect takes its own. -/
inductive CrashLabel (E : Type u) (R : E → Type v) (Op : Type y) (X : Type z)
  | call (op : Op)
  | answer (f : (e : E) → R e)
  | crash
  | env (x : X)

namespace CrashMachine

variable {σ : Type x} {E : Type u} {R : E → Type v} {Op : Type y} {A : Type w} {X : Type z}
  (M : CrashMachine σ E R Op A X)

def settle (t : σ) : Prog E R A → Process σ E R A
  | .done a => ⟨M.finish a t, none⟩
  | .effect e k => ⟨t, some (.effect e k)⟩

def step (p : Process σ E R A) : CrashLabel E R Op X → Option (Process σ E R A)
  | .call op =>
    match p.running with
    | none => some (M.settle p.world (M.code op))
    | some _ => none
  | .answer f =>
    match p.running with
    | some (.effect e k) => (M.act p.world e (f e)).map fun t => M.settle t (k (f e))
    | some (.done _) | none => none
  | .crash => some ⟨M.crash p.world, none⟩
  | .env x =>
    match p.running with
    | none => (M.env x p.world).map fun t => ⟨t, none⟩
    | some _ => none

def Meets (C : σ → (e : E) → R e → Prop) (p : Process σ E R A) : CrashLabel E R Op X → Prop
  | .answer f =>
    match p.running with
    | some (.effect e _) => C p.world e (f e)
    | some (.done _) | none => True
  | .call _ | .crash | .env _ => True

instance (C : σ → (e : E) → R e → Prop) [∀ s e r, Decidable (C s e r)] (p : Process σ E R A) :
    ∀ a : CrashLabel E R Op X, Decidable (Meets C p a)
  | .answer f =>
    match p with
    | ⟨s, some (.effect e _)⟩ => inferInstanceAs (Decidable (C s e (f e)))
    | ⟨_, some (.done _)⟩ | ⟨_, none⟩ => .isTrue trivial
  | .call _ | .crash | .env _ => .isTrue trivial

variable {M} {I J : σ → Prop} {C : σ → (e : E) → R e → Prop}

def Guarded (M : CrashMachine σ E R Op A X) (I J : σ → Prop) (C : σ → (e : E) → R e → Prop)
    (p : Process σ E R A) : Prop :=
  match p.running with
  | none => I p.world
  | some q => J p.world ∧ Safe M.act J C (fun a t => I (M.finish a t)) q p.world

theorem Guarded.settle {t : σ} {q : Prog E R A} (hJ : J t)
    (hq : Safe M.act J C (fun a t => I (M.finish a t)) q t) :
    Guarded M I J C (M.settle t q) := by
  cases q with
  | done a => exact hq
  | effect e k => exact ⟨hJ, hq⟩

inductive Steps (M : CrashMachine σ E R Op A X) :
    Process σ E R A → CrashLabel E R Op X → Process σ E R A → Prop
  | call (s : σ) (op : Op) : Steps M ⟨s, none⟩ (.call op) (M.settle s (M.code op))
  | answer {s u : σ} {e : E} {k : R e → Prog E R A} (f : (e : E) → R e)
    (hu : M.act s e (f e) = some u) :
    Steps M ⟨s, some (.effect e k)⟩ (.answer f) (M.settle u (k (f e)))
  | crash (s : σ) (q : Option (Prog E R A)) : Steps M ⟨s, q⟩ .crash ⟨M.crash s, none⟩
  | env {s u : σ} {x : X} (hu : M.env x s = some u) : Steps M ⟨s, none⟩ (.env x) ⟨u, none⟩

theorem steps_of_step {p t : Process σ E R A} {a : CrashLabel E R Op X}
    (h : M.step p a = some t) : Steps M p a t := by
  obtain ⟨s, q⟩ := p
  cases a with
  | call op =>
    cases q with
    | some q => cases h
    | none =>
      cases h
      exact .call s op
  | answer f =>
    rcases q with _ | (_ | ⟨e, k⟩)
    · cases h
    · cases h
    · obtain ⟨u, hu, rfl⟩ := Option.map_eq_some_iff.mp h
      exact .answer f hu
  | crash =>
    cases h
    exact .crash s q
  | env x =>
    cases q with
    | some q => cases h
    | none =>
      obtain ⟨u, hu, rfl⟩ := Option.map_eq_some_iff.mp h
      exact .env hu

/-- **The crash invariant rule**: operations from `I` keep `J` after every effect, and end and crash
into `I`. -/
theorem crash_invariant (hIJ : ∀ s, I s → J s)
    (hcode : ∀ op s, I s → Safe M.act J C (fun a t => I (M.finish a t)) (M.code op) s)
    (hcrash : ∀ s, J s → I (M.crash s)) (henv : ∀ x s t, I s → M.env x s = some t → I t)
    {s : σ} {p : Process σ E R A} {as : List (CrashLabel E R Op X)} (hs : I s)
    (hC : Along M.step (Meets C) ⟨s, none⟩ as) (hr : run M.step ⟨s, none⟩ as = some p) :
    J p.world := by
  have hJ : ∀ q : Process σ E R A, Guarded M I J C q → J q.world := by
    rintro ⟨s, _ | q⟩ hq
    · exact hIJ s hq
    · exact hq.1
  have h₀ : Guarded M I J C ⟨s, none⟩ := hs
  refine hJ p (run_invariant (I := Guarded M I J C) ?_ h₀ hC hr)
  intro q a t hq hc hstep
  cases steps_of_step hstep with
  | call s op => exact .settle (hIJ s hq) (hcode op s hq)
  | answer f hu =>
    obtain ⟨hJu, hsafe⟩ := hq.2 (f _) _ hc hu
    exact .settle hJu hsafe
  | crash s q => exact hcrash s (hJ ⟨s, q⟩ hq)
  | env hu => exact henv _ _ _ hq hu

/-! ### What holds whenever the process is idle -/

def Settles (D : A → σ → Prop) (t : σ) : Prog E R A → Prop
  | .done a => D a t
  | .effect _ _ => True

def Ends (M : CrashMachine σ E R Op A X) (D : A → σ → Prop) (K : σ → Prop)
    (p : Process σ E R A) : CrashLabel E R Op X → Prop
  | .call op =>
    match p.running with
    | none => Settles D p.world (M.code op)
    | some _ => True
  | .answer f =>
    match p.running with
    | some (.effect e k) => (M.act p.world e (f e)).elim True fun t => Settles D t (k (f e))
    | some (.done _) | none => True
  | .crash => K p.world
  | .env _ => True

instance (D : A → σ → Prop) [∀ a t, Decidable (D a t)] (t : σ) :
    ∀ q : Prog E R A, Decidable (Settles D t q)
  | .done a => inferInstanceAs (Decidable (D a t))
  | .effect _ _ => .isTrue trivial

instance (M : CrashMachine σ E R Op A X) (D : A → σ → Prop) (K : σ → Prop)
    [∀ a t, Decidable (D a t)] [∀ s, Decidable (K s)] (p : Process σ E R A) :
    ∀ a : CrashLabel E R Op X, Decidable (M.Ends D K p a)
  | .call op =>
    match p with
    | ⟨s, none⟩ => inferInstanceAs (Decidable (Settles D s (M.code op)))
    | ⟨_, some _⟩ => .isTrue trivial
  | .answer f =>
    match p with
    | ⟨s, some (.effect e k)⟩ =>
      decidable_of_iff (∀ t ∈ M.act s e (f e), Settles D t (k (f e))) (by
        simp only [Ends]
        cases M.act s e (f e) with
        | none => simp
        | some t => simp)
    | ⟨_, some (.done _)⟩ | ⟨_, none⟩ => .isTrue trivial
  | .crash => inferInstanceAs (Decidable (K p.world))
  | .env _ => .isTrue trivial

/-- Idle processes satisfy `I`, and running ones `J`; they end with `P` exactly under the condition.
-/
def Exact (M : CrashMachine σ E R Op A X) (I J P : σ → Prop) (D : A → σ → Prop)
    (p : Process σ E R A) : Prop :=
  match p.running with
  | none => I p.world
  | some q => J p.world ∧ Safe M.act J (fun _ _ _ => True)
      (fun a t => (P (M.finish a t) ↔ D a t) ∧ (P (M.finish a t) → I (M.finish a t))) q p.world

variable {P : σ → Prop} {D : A → σ → Prop} {K : σ → Prop}

theorem exact_settle {t : σ} {q : Prog E R A} (hJ : J t)
    (hq : Safe M.act J (fun _ _ _ => True)
      (fun a t => (P (M.finish a t) ↔ D a t) ∧ (P (M.finish a t) → I (M.finish a t))) q t) :
    (((M.settle t q).running = none → P (M.settle t q).world) ↔ Settles D t q) ∧
      (((M.settle t q).running = none → P (M.settle t q).world) →
        Exact M I J P D (M.settle t q)) := by
  cases q with
  | done a =>
    refine ⟨?_, fun h => hq.2 (h rfl)⟩
    rw [← show P (M.finish a t) ↔ Settles D t (.done a) from hq.1]
    exact ⟨fun h => h rfl, fun h _ => h⟩
  | effect e k =>
    refine ⟨iff_of_true ?_ trivial, fun _ => ⟨hJ, hq⟩⟩
    intro h
    cases h

section

variable (hIJ : ∀ s, I s → J s) (hIP : ∀ s, I s → P s)
  (hcode : ∀ op s, I s → Safe M.act J (fun _ _ _ => True)
    (fun a t => (P (M.finish a t) ↔ D a t) ∧ (P (M.finish a t) → I (M.finish a t))) (M.code op) s)
  (hcrash : ∀ s, J s → (P (M.crash s) ↔ K s) ∧ (P (M.crash s) → I (M.crash s)))
  (henv : ∀ x s t, I s → M.env x s = some t → I t)

include hIJ hIP hcode hcrash henv

theorem exact_step {p t : Process σ E R A} {a : CrashLabel E R Op X} (hp : Exact M I J P D p)
    (h : M.step p a = some t) :
    ((t.running = none → P t.world) ↔ M.Ends D K p a) ∧
      ((t.running = none → P t.world) → Exact M I J P D t) := by
  cases steps_of_step h with
  | call s op => exact exact_settle (hIJ s hp) (hcode op s hp)
  | @answer s u e k f hu =>
    obtain ⟨hJu, hsafe⟩ := hp.2 (f e) u trivial hu
    have hends : M.Ends D K ⟨s, some (.effect e k)⟩ (.answer f : CrashLabel E R Op X) ↔
        Settles D u (k (f e)) := by
      simp only [Ends, hu, Option.elim_some]
    rw [hends]
    exact exact_settle hJu hsafe
  | crash s q =>
    have hJ : J s := by
      cases q with
      | none => exact hIJ s hp
      | some q => exact hp.1
    obtain ⟨hiff, hkeep⟩ := hcrash s hJ
    exact ⟨⟨fun h => hiff.mp (h rfl), fun h _ => hiff.mpr h⟩, fun h => hkeep (h rfl)⟩
  | env hu =>
    have hI := henv _ _ _ hp hu
    exact ⟨iff_of_true (fun _ => hIP _ hI) trivial, fun _ => hI⟩

/-- **The exact rule for idle processes**: operations end with `P` exactly under `D`, and crash with
it exactly under `K`. -/
theorem idle_iff {s : σ} {p : Process σ E R A} {as : List (CrashLabel E R Op X)} (hs : I s)
    (hr : run M.step ⟨s, none⟩ as = some p) :
    Throughout M.step (fun p => p.running = none → P p.world) ⟨s, none⟩ as ↔
      Along M.step (M.Ends D K) ⟨s, none⟩ as := by
  have hstep : ∀ p a t, Exact M I J P D p → M.step p a = some t → _ :=
    fun p a t hp => exact_step (K := K) hIJ hIP hcode hcrash henv hp
  exact throughout_iff_along (J := Exact M I J P D)
    (fun p a t hp hI ht => (hstep p a t hp ht).2 hI) (fun p a t hp _ ht => (hstep p a t hp ht).1)
    hs (fun _ => hIP s hs) hr

end

end CrashMachine

end Penguind.Foundation
