import Mathlib.Tactic.Common

/-!
# Fallible computations with a state

Computations that may fail and then keep their changes to a state. `Ends` says what a run that
succeeds does, `Keeps` what every run keeps; `ends_bind` and `keeps_bind` are the rules for
sequences.
-/

namespace Penguind.Foundation

abbrev Stateful (σ ε : Type) := ExceptT ε (StateM σ)

namespace Stateful

variable {σ ε ε' α β : Type}

def ofExcept (f : ε' → ε) (x : Except ε' α) : Stateful σ ε α :=
  match x with
  | .ok a => pure a
  | .error e => throw (f e)

def ofOption (e : ε) : Option α → Stateful σ ε α
  | some a => pure a
  | none => throw e

def ensure (p : Prop) [Decidable p] (e : ε) : Stateful σ ε Unit :=
  if p then pure () else throw e

def attempt (x : Stateful σ ε' α) : Stateful σ ε Unit := fun s => (.ok (), (x s).2)

/-- Delivered, failed before it took effect, or with its result lost. -/
inductive Delivery
  | delivered
  | requestLost (message : String)
  | replyLost (message : String)
  deriving DecidableEq, Repr

def Delivery.takesEffect : Delivery → Bool
  | .delivered | .replyLost _ => true
  | .requestLost _ => false

@[simp] theorem takesEffect_delivered : Delivery.delivered.takesEffect = true := rfl

def remote (d : Delivery) (err : String → ε) (x : Stateful σ ε α) : Stateful σ ε α :=
  match d with
  | .delivered => x
  | .requestLost message => throw (err message)
  | .replyLost message => fun s => (.error (err message), (x s).2)

def Ends (x : Stateful σ ε β) (s : σ) (b : β) (t : σ) : Prop := x s = (.ok b, t)

variable {x : Stateful σ ε α} {f : α → Stateful σ ε β} {s t : σ} {a a' : α} {b : β}

@[simp] theorem ends_pure : Ends (pure a : Stateful σ ε α) s a' t ↔ a = a' ∧ s = t := by
  show (Except.ok a, s) = (Except.ok a', t) ↔ _
  simp

@[simp] theorem not_ends_throw {e : ε} : ¬ Ends (throw e : Stateful σ ε α) s a t := by
  show ¬ (Except.error e, s) = (Except.ok a, t)
  simp

theorem bind_apply : (x >>= f) s =
    match x s with
    | (.ok a, u) => f a u
    | (.error e, u) => (.error e, u) := by
  show (match x s with | (r, u) => ExceptT.bindCont f r u) = _
  rcases x s with ⟨e | a, u⟩ <;> rfl

theorem bind_apply_of_ends (h : Ends x s a t) : (x >>= f) s = f a t := by
  rw [bind_apply, h]

theorem ends_bind : Ends (x >>= f) s b t ↔ ∃ a u, Ends x s a u ∧ Ends (f a) u b t := by
  unfold Ends
  -- Only an `x` that ends well lets the sequence end well.
  rw [bind_apply]
  rcases x s with ⟨e | a, u⟩
  · constructor
    · intro h
      cases h
    · rintro ⟨a', u', h, -⟩
      cases h
  · constructor
    · intro h
      exact ⟨a, u, rfl, h⟩
    · rintro ⟨a', u', h, h'⟩
      cases h
      exact h'

@[simp] theorem ends_modify {g : σ → σ} {v : Unit} :
    Ends (modify g : Stateful σ ε Unit) s v t ↔ g s = t := by
  show (Except.ok (), g s) = (Except.ok v, t) ↔ _
  simp

@[simp] theorem ends_ofExcept {g : ε' → ε} {y : Except ε' α} :
    Ends (ofExcept g y : Stateful σ ε α) s a t ↔ y = .ok a ∧ s = t := by
  cases y <;> simp [ofExcept]

@[simp] theorem ends_get {u : σ} : Ends (get : Stateful σ ε σ) s u t ↔ s = u ∧ s = t := by
  show (Except.ok s, s) = (Except.ok u, t) ↔ _
  simp

@[simp] theorem ends_ofOption {e : ε} {o : Option α} :
    Ends (ofOption e o : Stateful σ ε α) s a t ↔ o = some a ∧ s = t := by
  cases o <;> simp [ofOption]

theorem ends_bind_of {P : α → Prop} (h : ∀ a u, Ends x s a u ↔ P a ∧ s = u) :
    Ends (x >>= f) s b t ↔ ∃ a, P a ∧ Ends (f a) s b t := by
  rw [ends_bind]
  refine exists_congr fun a => ?_
  constructor
  · rintro ⟨u, ha, hf⟩
    obtain ⟨hP, rfl⟩ := (h a u).mp ha
    exact ⟨hP, hf⟩
  · rintro ⟨hP, hf⟩
    exact ⟨s, (h a s).mpr ⟨hP, rfl⟩, hf⟩

theorem ends_ofExcept_bind {g : ε' → ε} {y : Except ε' α} :
    Ends (ofExcept g y >>= f) s b t ↔ ∃ a, y = .ok a ∧ Ends (f a) s b t :=
  ends_bind_of fun _ _ => ends_ofExcept

theorem ends_ofOption_bind {e : ε} {o : Option α} :
    Ends (ofOption e o >>= f) s b t ↔ ∃ a, o = some a ∧ Ends (f a) s b t :=
  ends_bind_of fun _ _ => ends_ofOption

@[simp] theorem ends_ensure {p : Prop} [Decidable p] {e : ε} {v : Unit} :
    Ends (ensure p e : Stateful σ ε Unit) s v t ↔ p ∧ s = t := by
  unfold ensure
  split_ifs with h <;> simp [h]

theorem ends_ensure_bind {p : Prop} [Decidable p] {e : ε} {f : Unit → Stateful σ ε β} :
    Ends (ensure p e >>= f) s b t ↔ p ∧ Ends (f ()) s b t :=
  (ends_bind_of fun _ _ => ends_ensure).trans ⟨fun ⟨(), h⟩ => h, fun h => ⟨(), h⟩⟩

theorem ends_get_bind {f : σ → Stateful σ ε β} : Ends (get >>= f) s b t ↔ Ends (f s) s b t :=
  Iff.rfl

theorem ends_modify_bind {g : σ → σ} {f : Unit → Stateful σ ε β} :
    Ends (modify g >>= f) s b t ↔ Ends (f ()) (g s) b t := Iff.rfl

@[simp] theorem ends_attempt {y : Stateful σ ε' α} {v : Unit} :
    Ends (attempt y : Stateful σ ε Unit) s v t ↔ (y s).2 = t := by
  show (Except.ok (), (y s).2) = (Except.ok v, t) ↔ _
  simp

@[simp] theorem ends_remote {d : Delivery} {err : String → ε} :
    Ends (remote d err x) s a t ↔ d = .delivered ∧ Ends x s a t := by
  cases d with
  | delivered => simp [remote]
  | requestLost message => simp [remote]
  | replyLost message =>
    show (Except.error (err message), (x s).2) = (Except.ok a, t) ↔ _
    simp

@[simp] theorem ends_adapt {g : ε → ε'} :
    Ends (ExceptT.adapt g x : Stateful σ ε' α) s a t ↔ Ends x s a t := by
  show (match x s with | (r, u) => (Except.mapError g r, u)) = (.ok a, t) ↔ x s = (.ok a, t)
  rcases x s with ⟨e | a₁, u⟩
  · constructor <;> (intro h; cases h)
  · constructor <;> (intro h; cases h; rfl)

/-! ## How a run ends -/

def outcome (x : Stateful σ ε α) (s : σ) : Bool × σ := ((x s).1.isOk, (x s).2)

theorem exists_ends_iff : (∃ a, Ends x s a t) ↔ outcome x s = (true, t) := by
  unfold Ends outcome
  rcases x s with ⟨e | a, u⟩
  · constructor
    · rintro ⟨a, h⟩
      cases h
    · intro h
      cases h
  · constructor
    · rintro ⟨a', h⟩
      cases h
      rfl
    · intro h
      cases h
      exact ⟨a, rfl⟩

theorem outcome_bind_unit {x : Stateful σ ε Unit} {f : Unit → Stateful σ ε β} :
    outcome (x >>= f) s =
      if (outcome x s).1 then outcome (f ()) (outcome x s).2 else (false, (outcome x s).2) := by
  unfold outcome
  rw [bind_apply]
  rcases x s with ⟨e | a, u⟩ <;> rfl

theorem outcome_bind_of_ok {u : σ} (h : x s = (.ok a, u)) :
    outcome (x >>= f) s = outcome (f a) u := by
  unfold outcome
  rw [bind_apply, h]

theorem outcome_bind_of_error {e : ε} {u : σ} (h : x s = (.error e, u)) :
    outcome (x >>= f) s = (false, u) := by
  unfold outcome
  rw [bind_apply, h]
  rfl

theorem outcome_attempt {y : Stateful σ ε' α} :
    outcome (attempt y : Stateful σ ε Unit) s = (true, (outcome y s).2) := rfl

theorem outcome_remote_modify {d : Delivery} {err : String → ε} {g : σ → σ} :
    outcome (remote d err (modify g)) s =
      (decide (d = .delivered), if d.takesEffect then g s else s) := by
  cases d with
  | delivered | requestLost | replyLost => rfl

/-! ## What every run keeps -/

/-- From states with `P` the computation leads to such, however it ends. -/
def Keeps (P : σ → Prop) (x : Stateful σ ε α) : Prop := ∀ s, P s → P (x s).2

variable {P : σ → Prop}

theorem keeps_pure (a : α) : Keeps P (pure a : Stateful σ ε α) := fun _ h => h

theorem keeps_throw (e : ε) : Keeps P (throw e : Stateful σ ε α) := fun _ h => h

theorem keeps_modify {g : σ → σ} (h : ∀ s, P s → P (g s)) :
    Keeps P (modify g : Stateful σ ε Unit) := h

theorem keeps_ofExcept (g : ε' → ε) (y : Except ε' α) :
    Keeps P (ofExcept g y : Stateful σ ε α) := by
  cases y with
  | ok a => exact keeps_pure a
  | error e => exact keeps_throw (g e)

theorem keeps_get : Keeps P (get : Stateful σ ε σ) := fun _ h => h

theorem keeps_ofOption (e : ε) (o : Option α) : Keeps P (ofOption e o : Stateful σ ε α) := by
  cases o with
  | some a => exact keeps_pure a
  | none => exact keeps_throw e

theorem keeps_ensure (p : Prop) [Decidable p] (e : ε) :
    Keeps P (ensure p e : Stateful σ ε Unit) := by
  unfold ensure
  split_ifs
  · exact keeps_pure ()
  · exact keeps_throw e

theorem keeps_attempt {y : Stateful σ ε' α} (hy : Keeps P y) :
    Keeps P (attempt y : Stateful σ ε Unit) := hy

theorem keeps_remote (d : Delivery) (err : String → ε) (hx : Keeps P x) :
    Keeps P (remote d err x) := by
  cases d with
  | delivered => exact hx
  | requestLost message => exact keeps_throw _
  | replyLost message => exact hx

theorem state_bind_of_ends (hx : P (x s).2) (hf : ∀ a t, Ends x s a t → Keeps P (f a)) :
    P ((x >>= f) s).2 := by
  rw [bind_apply]
  rcases h : x s with ⟨e | a, u⟩
  · rw [h] at hx
    exact hx
  · rw [h] at hx
    exact hf a u h u hx

theorem keeps_bind_of_ends (hx : Keeps P x)
    (hf : ∀ s a t, Ends x s a t → Keeps P (f a)) : Keeps P (x >>= f) :=
  fun s hs => state_bind_of_ends (hx s hs) (hf s)

theorem keeps_bind (hx : Keeps P x) (hf : ∀ a, Keeps P (f a)) : Keeps P (x >>= f) :=
  keeps_bind_of_ends hx fun _ a _ _ => hf a

end Stateful

end Penguind.Foundation
