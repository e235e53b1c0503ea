import Mathlib.Data.List.Infix

/-!
# Replacing the occurrences of a word

`replace t m` puts `m` in the place of every occurrence of `t` it meets from the left. What it
writes is not scanned again, so the result may contain `t` after all; `Overlap t m` says when
letters of `m` can complete an occurrence. `find` gives the two sides of the first occurrence.

## Main results

* `not_infix_replace`: without an overlap, no result contains `t`
* `exists_infix_replace`: with one, some result does
-/

namespace Penguind.Foundation

variable {α : Type*} [DecidableEq α]

section Definitions

variable (t m : List α)

/-- The scan: `skip` letters are still those of the last occurrence. -/
def replaceFrom : Nat → List α → List α
  | _, [] => []
  | skip + 1, _ :: s => replaceFrom skip s
  | 0, a :: s =>
    if t <+: a :: s then m ++ replaceFrom (t.length - 1) s else a :: replaceFrom 0 s

def replace (s : List α) : List α := replaceFrom t m 0 s

omit [DecidableEq α] in
inductive Overlap : Prop
  | inside (h : t <:+: m)
  | around (h : m <:+: t)
  | after (p : List α) (hp : p ≠ []) (hm : p <:+ m) (ht : p <+: t)
  | before (p : List α) (hp : p ≠ []) (hm : p <+: m) (ht : p <:+ t)

end Definitions

variable {t m : List α}

omit [DecidableEq α] in
theorem overlap_iff :
    Overlap t m ↔ t <:+: m ∨ m <:+: t ∨ (∃ p ∈ m.tails, p ≠ [] ∧ p <+: t) ∨
      ∃ p ∈ m.inits, p ≠ [] ∧ p <:+ t := by
  simp only [List.mem_tails, List.mem_inits]
  constructor
  · rintro (h | h | ⟨p, hp, hm, ht⟩ | ⟨p, hp, hm, ht⟩)
    · exact .inl h
    · exact .inr (.inl h)
    · exact .inr (.inr (.inl ⟨p, hm, hp, ht⟩))
    · exact .inr (.inr (.inr ⟨p, hm, hp, ht⟩))
  · rintro (h | h | ⟨p, hm, hp, ht⟩ | ⟨p, hm, hp, ht⟩)
    · exact .inside h
    · exact .around h
    · exact .after p hp hm ht
    · exact .before p hp hm ht

instance : Decidable (Overlap t m) := decidable_of_iff' _ overlap_iff

/-! ## The scan -/

theorem replaceFrom_eq_replace_drop (k : Nat) (s : List α) :
    replaceFrom t m k s = replace t m (s.drop k) := by
  induction k generalizing s with
  | zero => rw [List.drop_zero, replace]
  | succ k ih =>
    cases s with
    | nil => rfl
    | cons a s => exact ih s

@[simp] theorem replace_nil : replace t m [] = [] := rfl

theorem replace_append_self (ht : t ≠ []) (s : List α) :
    replace t m (t ++ s) = m ++ replace t m s := by
  obtain ⟨a, u, rfl⟩ := List.exists_cons_of_ne_nil ht
  have hpre : a :: u <+: a :: (u ++ s) := ⟨s, rfl⟩
  rw [replace, List.cons_append, replaceFrom, if_pos hpre, replaceFrom_eq_replace_drop]
  simp

theorem replace_cons {a : α} {s : List α} (h : ¬ t <+: a :: s) :
    replace t m (a :: s) = a :: replace t m s := by
  rw [replace, replaceFrom, if_neg h]
  rfl

theorem replace_eq_self {s : List α} (h : ¬ t <:+: s) : replace t m s = s := by
  induction s with
  | nil => rfl
  | cons a s ih =>
    rw [List.infix_cons_iff, not_or] at h
    rw [replace_cons h.1, ih h.2]

theorem replace_append {u s : List α}
    (h : ∀ v w, w ≠ [] → u = v ++ w → ¬ t <+: w ++ s) :
    replace t m (u ++ s) = u ++ replace t m s := by
  induction u with
  | nil => rfl
  | cons a u ih =>
    have hfirst : ¬ t <+: a :: (u ++ s) := h [] (a :: u) (by simp) rfl
    rw [List.cons_append, replace_cons hfirst, ih, List.cons_append]
    intro v w hw huv
    exact h (a :: v) w hw (by rw [huv, List.cons_append])

theorem replace_cases (ht : t ≠ []) (s : List α) :
    ¬ t <:+: s ∧ replace t m s = s ∨
      ∃ u v, s = u ++ (t ++ v) ∧ ¬ t <:+: u ∧ replace t m s = u ++ (m ++ replace t m v) := by
  induction s with
  | nil => exact .inl ⟨by simpa using ht, rfl⟩
  | cons a s ih =>
    by_cases hpre : t <+: a :: s
    · obtain ⟨v, hv⟩ := hpre
      refine .inr ⟨[], v, hv.symm, by simpa using ht, ?_⟩
      rw [← hv, replace_append_self ht, List.nil_append]
    · obtain ⟨hs, hr⟩ | ⟨u, v, rfl, hu, hr⟩ := ih
      · have hno : ¬ t <:+: a :: s := by
          rw [List.infix_cons_iff, not_or]
          exact ⟨hpre, hs⟩
        exact .inl ⟨hno, replace_eq_self hno⟩
      · refine .inr ⟨a :: u, v, rfl, ?_, ?_⟩
        · rw [List.infix_cons_iff, not_or]
          refine ⟨fun h => hpre ?_, hu⟩
          exact h.trans ⟨t ++ v, rfl⟩
        · rw [replace_cons hpre, hr, List.cons_append]

/-! ## Without an overlap -/

omit [DecidableEq α] in
theorem infix_append_mid (h : ¬ Overlap t m) {u v : List α} (hi : t <:+: u ++ (m ++ v)) :
    t <:+: u ∨ t <:+: v := by
  rw [List.infix_append_iff] at hi
  obtain hu | hmv | ⟨p, q, rfl, hp, hq⟩ := hi
  · exact .inl hu
  · rw [List.infix_append_iff] at hmv
    obtain hm | hv | ⟨p, q, rfl, hp, hq⟩ := hmv
    · exact absurd (.inside hm) h
    · exact .inr hv
    · by_cases hnil : p = []
      · rw [hnil, List.nil_append]
        exact .inr hq.isInfix
      · exact absurd (.after p hnil hp ⟨q, rfl⟩) h
  · -- the occurrence begins in `u`; its end `q` stops inside `m`, or covers it
    by_cases hnil : q = []
    · rw [hnil, List.append_nil]
      exact .inl hp.isInfix
    · obtain hqm | hmq := List.prefix_or_prefix_of_prefix hq (List.prefix_append m v)
      · exact absurd (.before q hnil hqm ⟨p, rfl⟩) h
      · exact absurd (.around (hmq.isInfix.trans (List.suffix_append p q).isInfix)) h

theorem not_infix_replace (ht : t ≠ []) (h : ¬ Overlap t m) (s : List α) :
    ¬ t <:+: replace t m s := by
  -- on the length: what follows the first occurrence is shorter
  induction hn : s.length using Nat.strong_induction_on generalizing s with
  | _ n ih =>
    obtain ⟨hs, hr⟩ | ⟨u, v, rfl, hu, hr⟩ := replace_cases (m := m) ht s
    · rwa [hr]
    · intro hi
      rw [hr] at hi
      obtain hi | hi := infix_append_mid h hi
      · exact hu hi
      · have hpos : 0 < t.length := List.length_pos_iff.mpr ht
        refine ih v.length ?_ v rfl hi
        simp only [List.length_append] at hn
        omega

/-! ## With an overlap -/

omit [DecidableEq α] in
theorem prefix_of_earlier {q r v w : List α} (hw : w ≠ []) (hq : q = v ++ w)
    (h : q ++ r <+: w ++ (q ++ r)) : r <+: q ++ r := by
  have hlen : q.length = v.length + w.length := by rw [hq, List.length_append]
  have hpos : 0 < w.length := List.length_pos_iff.mpr hw
  have hget : ∀ i, i < (q ++ r).length → (w ++ (q ++ r))[i]? = (q ++ r)[i]? := by
    intro i hi
    rw [List.prefix_iff_getElem?.mp h i hi, List.getElem?_eq_getElem hi]
  -- the word repeats itself after `w.length` letters, and `w` is also where it begins
  have hperiod : ∀ i, i + w.length < (q ++ r).length →
      (q ++ r)[i + w.length]? = (q ++ r)[i]? := by
    intro i hi
    rw [← hget _ hi, List.getElem?_append_right (by omega), Nat.add_sub_cancel]
  have hstart : ∀ i, i < w.length → (q ++ r)[v.length + i]? = (q ++ r)[i]? := by
    intro i hi
    have hi' : i < (q ++ r).length := by rw [List.length_append]; omega
    rw [← hget i hi', List.getElem?_append_left hi, List.getElem?_append_left (by omega), hq,
      List.getElem?_append_right (by omega), Nat.add_sub_cancel_left]
  have hshift : ∀ i, i < r.length → (q ++ r)[q.length + i]? = (q ++ r)[i]? := by
    intro i
    induction i using Nat.strong_induction_on with
    | _ i ih =>
      intro hi
      have hback : (q ++ r)[q.length + i]? = (q ++ r)[v.length + i]? := by
        rw [← hperiod (v.length + i) (by rw [List.length_append]; omega), hlen]
        congr 1
        omega
      rw [hback]
      by_cases hiw : i < w.length
      · exact hstart i hiw
      · have hprev := ih (i - w.length) (by omega) (by omega)
        have hsum : q.length + (i - w.length) = v.length + i := by omega
        rw [hsum, ← hperiod (i - w.length) (by rw [List.length_append]; omega)] at hprev
        rw [hprev, Nat.sub_add_cancel (by omega)]
  rw [List.prefix_iff_getElem?]
  intro i hi
  rw [← hshift i hi, List.getElem?_append_right (by omega), Nat.add_sub_cancel_left,
    List.getElem?_eq_getElem hi]

theorem replace_before {q r : List α} (hne : q ++ r ≠ []) (s : List α) :
    replace (q ++ r) m (q ++ ((q ++ r) ++ s)) = q ++ (m ++ replace (q ++ r) m s) ∨
      r <+: q ++ r := by
  by_cases h : ∀ v w, w ≠ [] → q = v ++ w → ¬ q ++ r <+: w ++ ((q ++ r) ++ s)
  · left
    rw [replace_append h, replace_append_self hne]
  · right
    push Not at h
    obtain ⟨v, w, hw, hq, hpre⟩ := h
    refine prefix_of_earlier hw hq ?_
    have hle : (q ++ r).length ≤ (w ++ (q ++ r)).length := by simp
    rw [← List.append_assoc] at hpre
    exact List.prefix_of_prefix_length_le hpre (List.prefix_append _ s) hle

theorem infix_replace_of_after (ht : t ≠ []) {p : List α} (hp : p ≠ []) (hm : p <:+ m)
    (hpt : p <+: t) : ∃ s, t <:+: replace t m s := by
  obtain ⟨q, rfl⟩ := hpt
  refine ⟨(p ++ q) ++ q, ?_⟩
  have hshort : ¬ p ++ q <:+: q := by
    intro h
    have hle := h.length_le
    rw [List.length_append] at hle
    have hpos : 0 < p.length := List.length_pos_iff.mpr hp
    omega
  rw [replace_append_self ht, replace_eq_self hshort]
  obtain ⟨u, rfl⟩ := hm
  exact ⟨u, [], by simp⟩

/-- **With an overlap, some result contains the word**, if a border at the beginning of `m` is one
at its end. -/
theorem exists_infix_replace (ht : t ≠ []) (hne : m ≠ [])
    (hborder : ∀ p, p ≠ [] → p <+: t → p <:+ t → p <+: m → p <:+ m) (h : Overlap t m) :
    ∃ s, t <:+: replace t m s := by
  cases h with
  | inside h =>
    refine ⟨t, ?_⟩
    have hself := replace_append_self (m := m) ht []
    rw [List.append_nil, replace_nil, List.append_nil] at hself
    rwa [hself]
  | around h =>
    obtain ⟨q, v, rfl⟩ := h
    rw [List.append_assoc] at ht ⊢
    obtain hr | hr := replace_before (m := m) ht v
    · refine ⟨q ++ ((q ++ (m ++ v)) ++ v), ?_⟩
      have hshort : ¬ q ++ (m ++ v) <:+: v := by
        intro h
        have hle := h.length_le
        simp only [List.length_append] at hle
        have hpos : 0 < m.length := List.length_pos_iff.mpr hne
        omega
      rw [hr, replace_eq_self hshort]
    · exact infix_replace_of_after ht hne List.suffix_rfl ((List.prefix_append m v).trans hr)
  | after p hp hm hpt => exact infix_replace_of_after ht hp hm hpt
  | before p hp hm hpt =>
    obtain ⟨q, rfl⟩ := hpt
    obtain hr | hr := replace_before (m := m) ht []
    · refine ⟨q ++ ((q ++ p) ++ []), ?_⟩
      rw [hr]
      obtain ⟨v, rfl⟩ := hm
      exact ⟨[], v, by simp⟩
    · have hsuffix : p <:+ m := hborder p hp hr (List.suffix_append q p) hm
      exact infix_replace_of_after ht hp hsuffix hr

/-! ## The first occurrence -/

/-- What is before and after the first occurrence of `t`. -/
def find (t : List α) : List α → Option (List α × List α)
  | [] => if t = [] then some ([], []) else none
  | a :: s =>
    if t <+: a :: s then some ([], (a :: s).drop t.length)
    else (find t s).map fun found => (a :: found.1, found.2)

theorem find_append_self (t s : List α) : find t (t ++ s) = some ([], s) := by
  cases h : t ++ s with
  | nil =>
    obtain ⟨rfl, rfl⟩ := List.append_eq_nil_iff.mp h
    rfl
  | cons a u =>
    rw [find, ← h, if_pos (List.prefix_append t s), List.drop_left]

theorem find_append {u s : List α} (h : ∀ v w, w ≠ [] → u = v ++ w → ¬ t <+: w ++ s) :
    find t (u ++ s) = (find t s).map fun found => (u ++ found.1, found.2) := by
  induction u with
  | nil => simp
  | cons a u ih =>
    have hfirst : ¬ t <+: a :: (u ++ s) := h [] (a :: u) (by simp) rfl
    rw [List.cons_append, find, if_neg hfirst, ih, Option.map_map]
    · rfl
    · intro v w hw huv
      exact h (a :: v) w hw (by rw [huv, List.cons_append])

end Penguind.Foundation
