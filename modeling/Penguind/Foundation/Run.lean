import Mathlib.Data.List.Basic

/-!
# Runs of a labelled machine

A machine is a partial step function `step : σ → α → Option σ`. Everything a scheduler, a peer or
a failing call may choose stands in the label, so a run is a list of labels. A condition on its
steps is a relation `C : σ → α → Prop` between a label and the state it is taken in.

## Main results

* `run_invariant`, `tally_invariant`: the invariant rules
* `run_ghost`, `exists_run_ghost`: a machine runs with a note as it does without
* `run_latest`: a place holds what was last put there
* `run_iff`, `lostOnlyBy_iff`, `throughout_iff_along`: the condition on the steps under which
  exactly a property survives, is lost by some labels only, or holds at every moment
-/

namespace Penguind.Foundation

universe u v

variable {σ : Type u} {α : Type v} (step : σ → α → Option σ)

def run : σ → List α → Option σ
  | s, [] => some s
  | s, a :: as => (step s a).bind fun t => run t as

def Along (C : σ → α → Prop) : σ → List α → Prop
  | _, [] => True
  | s, a :: as =>
    C s a ∧
      match step s a with
      | some t => Along C t as
      | none => True

def tally (p : σ → α → Bool) : σ → List α → Nat
  | _, [] => 0
  | s, a :: as =>
    (p s a).toNat +
      match step s a with
      | some t => tally p t as
      | none => 0

def latest {β : Type*} (f : σ → α → Option β) : σ → List α → Option β
  | _, [] => none
  | s, a :: as =>
    match step s a with
    | some t => (latest f t as).or (f s a)
    | none => f s a

/-- The latest label first. -/
def recorded (s : σ × List α) (a : α) : Option (σ × List α) :=
  (step s.1 a).map fun t => (t, a :: s.2)

def ghost {γ : Type*} (note : σ → α → σ → γ → γ) (s : σ × γ) (a : α) : Option (σ × γ) :=
  (step s.1 a).map fun t => (t, note s.1 a t s.2)

/-- A label of kind `Q` lies between a moment with `P` and a later one without. -/
def LostOnlyBy (P : σ → Prop) (Q : α → Prop) (s : σ) (as : List α) : Prop :=
  ∀ pre mid post u v, as = pre ++ mid ++ post → run step s pre = some u →
    run step u mid = some v → P u → ¬ P v → ∃ a ∈ mid, Q a

def Throughout (P : σ → Prop) (s : σ) (as : List α) : Prop :=
  ∀ pre u, pre <+: as → run step s pre = some u → P u

instance decidableAlong (C : σ → α → Prop) [∀ s a, Decidable (C s a)] :
    ∀ s as, Decidable (Along step C s as)
  | _, [] => .isTrue trivial
  | s, a :: as =>
    match h : step s a with
    | some t =>
      have := decidableAlong C t as
      decidable_of_iff (C s a ∧ Along step C t as) (by simp [Along, h])
    | none => decidable_of_iff (C s a) (by simp [Along, h])

variable {step} {s t : σ} {a : α} {as : List α} {I : σ → Prop}

@[simp] theorem run_nil (s : σ) : run step s [] = some s := rfl

theorem run_cons (s : σ) (a : α) (as : List α) :
    run step s (a :: as) = (step s a).bind fun t => run step t as := rfl

theorem run_cons_eq_some {s u : σ} :
    run step s (a :: as) = some u ↔ ∃ t, step s a = some t ∧ run step t as = some u := by
  rw [run_cons, Option.bind_eq_some_iff]

/-- **Induction along a run**, from its first step on. -/
@[elab_as_elim]
theorem run_induction {motive : (s : σ) → (as : List α) → run step s as = some t → Prop}
    (nil : motive t [] rfl)
    (cons : ∀ s a u as (hu : step s a = some u) (hr : run step u as = some t), motive u as hr →
      motive s (a :: as) (run_cons_eq_some.mpr ⟨u, hu, hr⟩))
    {s : σ} {as : List α} (hr : run step s as = some t) : motive s as hr := by
  induction as generalizing s with
  | nil =>
    obtain rfl : s = t := by simpa using hr
    exact nil
  | cons a as ih =>
    obtain ⟨u, hu, hr⟩ := run_cons_eq_some.mp hr
    exact cons s a u as hu hr (ih hr)

theorem exists_run {P : σ → Prop} [DecidablePred P] {s : σ}
    (h : (run step s as).any (fun t => decide (P t)) = true) :
    ∃ t, run step s as = some t ∧ P t := by
  simpa only [Option.any_eq_true, decide_eq_true_eq] using h

theorem run_append (s : σ) (as bs : List α) :
    run step s (as ++ bs) = (run step s as).bind fun t => run step t bs := by
  induction as generalizing s with
  | nil => rfl
  | cons a as ih =>
    rw [List.cons_append, run_cons, run_cons, Option.bind_assoc]
    simp only [ih]

theorem run_some (f : σ → α → σ) (s : σ) (as : List α) :
    run (fun s a => some (f s a)) s as = some (as.foldl f s) := by
  induction as generalizing s with
  | nil => rfl
  | cons a as ih => exact ih (f s a)

theorem run_recorded (s : σ) (past as : List α) :
    run (recorded step) (s, past) as = (run step s as).map fun t => (t, as.reverse ++ past) := by
  induction as generalizing s past with
  | nil => rfl
  | cons a as ih =>
    rw [run_cons, run_cons, recorded]
    cases step s a with
    | none => rfl
    | some t => simpa using ih t (a :: past)

section Ghost

variable {γ : Type*} {note : σ → α → σ → γ → γ}

theorem ghost_eq_some {s u : σ × γ} :
    ghost step note s a = some u ↔
      ∃ t, step s.1 a = some t ∧ (t, note s.1 a t s.2) = u := by
  rw [ghost, Option.map_eq_some_iff]

theorem run_ghost {s u : σ × γ} (h : run (ghost step note) s as = some u) :
    run step s.1 as = some u.1 := by
  induction h using run_induction with
  | nil => rfl
  | cons s a v as hv _ ih =>
    obtain ⟨t, ht, rfl⟩ := ghost_eq_some.mp hv
    exact run_cons_eq_some.mpr ⟨t, ht, ih⟩

theorem exists_run_ghost (h : run step s as = some t) (g : γ) :
    ∃ g', run (ghost step note) (s, g) as = some (t, g') := by
  induction h using run_induction generalizing g with
  | nil => exact ⟨g, rfl⟩
  | cons s a u as hu _ ih =>
    obtain ⟨g', hg'⟩ := ih (note s a u g)
    exact ⟨g', run_cons_eq_some.mpr ⟨_, ghost_eq_some.mpr ⟨u, hu, rfl⟩, hg'⟩⟩

end Ghost

variable {C : σ → α → Prop}

theorem along_cons (h : step s a = some t) :
    Along step C s (a :: as) ↔ C s a ∧ Along step C t as := by
  simp [Along, h]

theorem Along.of_append {as bs : List α} (h : Along step C s (as ++ bs))
    (hr : run step s as = some t) : Along step C s as ∧ Along step C t bs := by
  induction hr using run_induction with
  | nil => exact ⟨trivial, h⟩
  | cons s a u as hu _ ih =>
    rw [List.cons_append, along_cons hu] at h
    obtain ⟨h₁, h₂⟩ := ih h.2
    exact ⟨(along_cons hu).mpr ⟨h.1, h₁⟩, h₂⟩

theorem along_of_forall_mem {D : α → Prop} (h : ∀ a ∈ as, D a) :
    Along step (fun _ a => D a) s as := by
  induction as generalizing s with
  | nil => trivial
  | cons a as ih =>
    rw [List.forall_mem_cons] at h
    refine ⟨h.1, ?_⟩
    split
    · exact ih h.2
    · trivial

theorem along_true (s : σ) (as : List α) : Along step (fun _ _ => True) s as :=
  along_of_forall_mem fun _ _ => trivial

theorem along_of_invariant {K : σ → α → Prop}
    (hstep : ∀ s a t, I s → K s a → step s a = some t → I t) (h : ∀ s a, I s → K s a → C s a)
    (hs : I s) (hK : Along step K s as) : Along step C s as := by
  induction as generalizing s with
  | nil => trivial
  | cons a as ih =>
    refine ⟨h s a hs hK.1, ?_⟩
    split
    · rename_i t ht
      rw [along_cons ht] at hK
      exact ih (hstep s a t hs hK.1 ht) hK.2
    · trivial

theorem along_forall {ι : Type*} {C : ι → σ → α → Prop} (hr : run step s as = some t) :
    (∀ i, Along step (C i) s as) ↔ Along step (fun s a => ∀ i, C i s a) s as := by
  induction hr using run_induction with
  | nil => exact ⟨fun _ => trivial, fun _ _ => trivial⟩
  | cons s a u as hu _ ih =>
    rw [along_cons hu, ← ih]
    simp only [along_cons hu, forall_and]

/-- **Two moments and one step**: `P` is lost only by `Q` exactly if every step that loses it is of
`Q`. -/
theorem lostOnlyBy_iff {P : σ → Prop} {Q : α → Prop} (hr : run step s as = some t) :
    LostOnlyBy step P Q s as ↔
      Along step (fun s a => ∀ u ∈ step s a, P s → ¬ P u → Q a) s as := by
  constructor
  · intro h
    induction hr using run_induction with
    | nil => trivial
    | cons s a u as hu _ ih =>
      refine (along_cons hu).mpr ⟨fun v hv hs hn => ?_, ih fun pre mid post v w he hv hw => ?_⟩
      · obtain rfl : u = v := Option.mem_unique hu hv
        have hone : run step s [a] = some u := run_cons_eq_some.mpr ⟨u, hu, rfl⟩
        obtain ⟨b, hb, hq⟩ := h [] [a] as s u rfl rfl hone hs hn
        exact List.mem_singleton.mp hb ▸ hq
      · refine h (a :: pre) mid post v w (congrArg (a :: ·) he) ?_ hw
        exact run_cons_eq_some.mpr ⟨u, hu, hv⟩
  · intro h pre mid post u v he hu hv hP hn
    subst he
    rw [List.append_assoc] at h
    have hmid := (Along.of_append (Along.of_append h hu).2 hv).1
    clear h hu hr
    -- The step that loses `P` is the first one of the middle part that does.
    induction hv using run_induction with
    | nil => exact absurd hP hn
    | cons u a w mid hw _ ih =>
      rw [along_cons hw] at hmid
      by_cases hPw : P w
      · obtain ⟨b, hb, hq⟩ := ih hPw hmid.2
        exact ⟨b, List.mem_cons_of_mem _ hb, hq⟩
      · exact ⟨a, List.mem_cons_self, hmid.1 w hw hP hPw⟩

theorem along_congr_along {K D : σ → α → Prop}
    (hstep : ∀ s a t, I s → K s a → step s a = some t → (C s a ↔ D s a))
    (hkeep : ∀ s a t, I s → C s a → step s a = some t → I t) (hs : I s) (hK : Along step K s as)
    (hr : run step s as = some t) :
    Along step C s as ↔ Along step D s as := by
  induction hr using run_induction with
  | nil => exact Iff.rfl
  | cons s a u as hu _ ih =>
    rw [along_cons hu] at hK
    rw [along_cons hu, along_cons hu, ← hstep s a u hs hK.1 hu]
    exact and_congr_right fun hc => ih (hkeep s a u hs hc hu) hK.2

theorem along_congr {D : σ → α → Prop} (hstep : ∀ s a t, I s → step s a = some t → (C s a ↔ D s a))
    (hkeep : ∀ s a t, I s → C s a → step s a = some t → I t) (hs : I s)
    (hr : run step s as = some t) : Along step C s as ↔ Along step D s as :=
  along_congr_along (fun s a t hI _ h => hstep s a t hI h) hkeep hs (along_true s as) hr

theorem along_iff {D : σ → α → Prop} (hstep : ∀ s a t, step s a = some t → (C s a ↔ D s a))
    (hr : run step s as = some t) : Along step C s as ↔ Along step D s as :=
  along_congr (I := fun _ => True) (fun s a t _ h => hstep s a t h) (fun _ _ _ _ _ _ => trivial)
    trivial hr

theorem throughout_nil {P : σ → Prop} : Throughout step P s [] ↔ P s := by
  constructor
  · intro h
    exact h [] s List.prefix_rfl rfl
  · rintro h pre u hpre hu
    obtain rfl := List.prefix_nil.mp hpre
    obtain rfl : s = u := by simpa using hu
    exact h

theorem throughout_cons {P : σ → Prop} (h : step s a = some t) :
    Throughout step P s (a :: as) ↔ P s ∧ Throughout step P t as := by
  constructor
  · intro hall
    refine ⟨hall [] s List.nil_prefix rfl, fun pre u hpre hu => ?_⟩
    exact hall (a :: pre) u (List.cons_prefix_cons.mpr ⟨rfl, hpre⟩)
      (run_cons_eq_some.mpr ⟨t, h, hu⟩)
  · rintro ⟨hs, hall⟩ pre u hpre hu
    cases pre with
    | nil =>
      obtain rfl : s = u := by simpa using hu
      exact hs
    | cons b pre =>
      obtain ⟨rfl, htail⟩ := List.cons_prefix_cons.mp hpre
      obtain ⟨v, hv, hu⟩ := run_cons_eq_some.mp hu
      obtain rfl : t = v := Option.mem_unique h hv
      exact hall pre u htail hu

/-- **The exact rule for every moment**: a step out of `I` ends in `I` exactly if it meets the
condition. -/
theorem throughout_iff_along {I J : σ → Prop} (hkeep : ∀ s a t, J s → I t → step s a = some t → J t)
    (hstep : ∀ s a t, J s → I s → step s a = some t → (I t ↔ C s a)) (hJ : J s) (hI : I s)
    (hr : run step s as = some t) :
    Throughout step I s as ↔ Along step C s as := by
  induction hr using run_induction with
  | nil => exact iff_of_true (throughout_nil.mpr hI) trivial
  | cons s a u as hu _ ih =>
    rw [throughout_cons hu, along_cons hu, ← hstep s a u hJ hI hu, and_iff_right hI]
    constructor
    · intro h
      have hIu : I u := h [] u List.nil_prefix rfl
      exact ⟨hIu, (ih (hkeep s a u hJ hIu hu) hIu).mp h⟩
    · rintro ⟨hIu, h⟩
      exact (ih (hkeep s a u hJ hIu hu) hIu).mpr h

theorem run_congr {step' : σ → α → Option σ} (h : ∀ s a, C s a → step s a = step' s a)
    (hC : Along step C s as) : run step s as = run step' s as := by
  induction as generalizing s with
  | nil => rfl
  | cons a as ih =>
    rw [run_cons, run_cons, ← h s a hC.1]
    cases hs : step s a with
    | none => rfl
    | some t => exact ih ((along_cons hs).mp hC).2

/-- **The exact rule along an invariant.** -/
theorem run_iff_of_invariant {I J : σ → Prop} (hkeep : ∀ s a t, J s → step s a = some t → J t)
    (hstep : ∀ s a t, J s → step s a = some t → (I t ↔ I s ∧ C s a)) (hs : J s)
    (hr : run step s as = some t) :
    I t ↔ I s ∧ Along step C s as := by
  induction hr using run_induction with
  | nil => exact (and_iff_left trivial).symm
  | cons s a u as hu _ ih =>
    rw [along_cons hu, ih (hkeep s a u hs hu), hstep s a u hs hu, and_assoc]

/-- **The exact rule** for a property that a step loses exactly if it does not meet the condition.
-/
theorem run_iff (hstep : ∀ s a t, step s a = some t → (I t ↔ I s ∧ C s a))
    (hr : run step s as = some t) : I t ↔ I s ∧ Along step C s as :=
  run_iff_of_invariant (J := fun _ => True) (fun _ _ _ _ _ => trivial)
    (fun s a t _ h => hstep s a t h) trivial hr

variable {p : σ → α → Bool}

theorem tally_cons (h : step s a = some t) :
    tally step p s (a :: as) = (p s a).toNat + tally step p t as := by
  simp [tally, h]

/-- **The counting invariant rule.** -/
theorem tally_invariant {I : Nat → σ → Prop}
    (hstep : ∀ n s a t, I n s → C s a → step s a = some t → I (n + (p s a).toNat) t) {n : Nat}
    (hs : I n s) (hC : Along step C s as) (hr : run step s as = some t) :
    I (n + tally step p s as) t := by
  induction hr using run_induction generalizing n with
  | nil => simpa [tally] using hs
  | cons s a u as hu _ ih =>
    rw [along_cons hu] at hC
    rw [tally_cons hu, ← Nat.add_assoc]
    exact ih (hstep n s a u hs hC.1 hu) hC.2

/-- **The invariant rule.** -/
theorem run_invariant (hstep : ∀ s a t, I s → C s a → step s a = some t → I t) (hs : I s)
    (hC : Along step C s as) (hr : run step s as = some t) : I t :=
  tally_invariant (p := fun _ _ => false) (I := fun _ => I) (n := 0)
    (fun _ s a t hI hc h => hstep s a t hI hc h) hs hC hr

/-- **The last write**: a place holds what was last written to it. -/
theorem run_latest {β : Type*} {f : σ → α → Option β} (place : σ → β)
    (hstep : ∀ s a t, I s → C s a → step s a = some t → I t ∧ place t = (f s a).getD (place s))
    (hs : I s) (hC : Along step C s as) (hr : run step s as = some t) :
    place t = (latest step f s as).getD (place s) := by
  induction hr using run_induction with
  | nil => rfl
  | cons s a u as hu _ ih =>
    rw [along_cons hu] at hC
    obtain ⟨hIu, hplace⟩ := hstep s a u hs hC.1 hu
    rw [ih hIu hC.2, hplace, latest, hu, Option.getD_or]

theorem run_invariant_of_step (hstep : ∀ s a t, I s → step s a = some t → I t) (hs : I s)
    (hr : run step s as = some t) : I t :=
  run_invariant (fun s a t hI _ h => hstep s a t hI h) hs (along_true s as) hr

theorem tally_eq_zero (hstep : ∀ s a t, I s → C s a → step s a = some t → I t)
    (hp : ∀ s a t, I s → C s a → step s a = some t → p s a = false) (hs : I s)
    (hC : Along step C s as) (hr : run step s as = some t) : tally step p s as = 0 := by
  induction hr using run_induction with
  | nil => rfl
  | cons s a u as hu _ ih =>
    rw [along_cons hu] at hC
    rw [tally_cons hu, hp s a u hs hC.1 hu, ih (hstep s a u hs hC.1 hu) hC.2]
    rfl

end Penguind.Foundation
