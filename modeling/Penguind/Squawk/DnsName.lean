import Mathlib.Algebra.GroupWithZero.Nat
import Mathlib.Data.Bool.AllAny
import Penguind.Squawk.DohQuery

/-!
# The DNS name check

What the check should not depend on, the case of the letters and a dot at the end, and what it
should guarantee. It looks for `xn--` in the text as it is, and counts the dot.
-/

namespace Penguind.Squawk

def undotted (name : List Char) : List Char :=
  if name.getLast? = some '.' then name.dropLast else name

def nameLabels (name : List Char) : List (List Char) := (undotted name).splitOn '.'

def lowercase (name : List Char) : List Char := name.map Char.toLower

def wireLength (labels : List (List Char)) : Nat := (labels.map fun l => l.length + 1).sum + 1

structure Judged (domain : String) : Prop where
  letters (other : String) : lowercase other.toList = lowercase domain.toList →
    (validateDnsName other = .ok () ↔ validateDnsName domain = .ok ())
  dot : domain.toList.getLast? ≠ some '.' →
    (validateDnsName (domain ++ ".") = .ok () ↔ validateDnsName domain = .ok ())
  labels : validateDnsName domain = .ok () →
    (∀ l ∈ nameLabels domain.toList, l ≠ [] ∧ l.length ≤ 63 ∧ ∀ c ∈ l, c.isAlphanum ∨ c = '-') ∧
      wireLength (nameLabels domain.toList) ≤ 255

/-- No label is internationalised, in letters of any case. -/
def Plain (name : List Char) : Prop := ∀ l ∈ nameLabels (lowercase name), ¬ "xn--".toList <+: l

/-! ## What is accepted -/

def Good (label : List Char) : Prop :=
  label ≠ [] ∧ (String.ofList label).utf8ByteSize ≤ 63 ∧ isValidLabel label ∧
    ¬ "--".toList <:+: label

def Accepted (name : List Char) : Prop :=
  (String.ofList name).utf8ByteSize ≤ 253 ∧ ∀ l ∈ nameLabels name, Good l

theorem validateLabel_ok_iff {label : List Char} (h : ¬ "xn--".toList <+: label)
    (lastIndex index : Nat) : validateLabel lastIndex index label = .ok () ↔ Good label := by
  have harpa : String.ofList label = "arpa" → isValidLabel label ∧ ¬ "--".toList <:+: label := by
    intro harpa
    have hlabel : label = "arpa".toList := by rw [← harpa, String.toList_ofList]
    rw [hlabel]
    decide
  simp only [validateLabel, if_neg h, Good]
  split_ifs <;> simp_all [Nat.not_le_of_lt]

theorem validateLabels_ok_iff {labels : List (List Char)} (h : ∀ l ∈ labels, ¬ "xn--".toList <+: l)
    (lastIndex index : Nat) :
    validateLabels lastIndex index labels = .ok () ↔ ∀ l ∈ labels, Good l := by
  induction labels generalizing index with
  | nil => simp [validateLabels]
  | cons label rest ih =>
    obtain ⟨hlabel, hrest⟩ := List.forall_mem_cons.mp h
    rw [validateLabels, List.forall_mem_cons, ← validateLabel_ok_iff hlabel lastIndex index,
      ← ih hrest (index + 1)]
    cases validateLabel lastIndex index label <;> simp [bind, Except.bind]

theorem Good.mem {label : List Char} (h : Good label) {c : Char} (hc : c ∈ label) :
    c.isAlphanum ∨ c = '-' := by
  obtain ⟨-, -, hvalid, -⟩ := h
  unfold isValidLabel at hvalid
  split at hvalid
  · simp only [Bool.and_eq_true, List.all_eq_true] at hvalid
    simpa using hvalid.2 c hc
  · contradiction

theorem mem_splitOn {name : List Char} {c : Char} (hc : c ∈ name) (hdot : c ≠ '.') :
    ∃ l ∈ name.splitOn '.', c ∈ l := by
  induction name with
  | nil => contradiction
  | cons d name ih =>
    rw [List.splitOn_eq_splitOnP, List.splitOnP_cons_eq_if_modifyHead]
    rw [List.splitOn_eq_splitOnP] at ih
    cases hsplit : name.splitOnP (· == '.') with
    | nil => exact (List.splitOnP_ne_nil _ _ hsplit).elim
    | cons l ls =>
      rw [hsplit] at ih
      by_cases hd : d = '.' <;> simp_all
      grind

theorem validateDnsName_ok_iff {domain : String}
    (h : ∀ l ∈ nameLabels domain.toList, ¬ "xn--".toList <+: l) :
    validateDnsName domain = .ok () ↔ Accepted domain.toList := by
  have hempty : domain = "" → ¬ Accepted domain.toList := by
    rintro rfl ⟨-, hgood⟩
    exact (hgood [] (by decide)).1 rfl
  -- an accepted label has none of the characters the check looks for first
  have hchars : Accepted domain.toList →
      ¬ (undotted domain.toList).any (· ∈ invalidNameChars) := by
    rintro ⟨-, hgood⟩ hany
    obtain ⟨c, hc, hinvalid⟩ := List.any_eq_true.mp hany
    have hdecide : ∀ c ∈ invalidNameChars, c ≠ '.' ∧ ¬ (c.isAlphanum ∨ c = '-')  :=
      List.all_iff_forall_prop.mp (by decide)
    obtain ⟨hdot, hother⟩ := hdecide c (by simpa using hinvalid)
    obtain ⟨l, hl, hcl⟩ := mem_splitOn hc hdot
    exact hother ((hgood l hl).mem hcl)
  by_cases hnone : domain = ""
  · simpa [validateDnsName, hnone] using hempty hnone
  by_cases hlong : 253 < domain.utf8ByteSize
  · simp [validateDnsName, hnone, hlong, Accepted, hlong.not_ge]
  have hlabels := validateLabels_ok_iff h ((nameLabels domain.toList).length - 1) 0
  rw [validateDnsName, if_neg hnone, if_neg hlong]
  by_cases hany : (undotted domain.toList).any (· ∈ invalidNameChars)
  · rw [undotted] at hany
    simpa [hany] using fun ha => hchars ha hany
  · rw [Accepted, String.ofList_toList, and_iff_right (Nat.le_of_not_lt hlong), ← hlabels]
    rw [undotted] at hany
    simp [hany]
    rfl

theorem toLower_induction {P : Char → Char → Prop} (hsame : ∀ c, P c c)
    (hupper : ∀ c ∈ "ABCDEFGHIJKLMNOPQRSTUVWXYZ".toList, P c c.toLower) (c : Char) :
    P c c.toLower := by
  by_cases h : c.val ≥ 'A'.val ∧ c.val ≤ 'Z'.val
  · have hletters : ∀ n, 65 ≤ n → n < 91 →
        Char.ofNat n ∈ "ABCDEFGHIJKLMNOPQRSTUVWXYZ".toList := by decide
    refine hupper c ?_
    rw [← Char.ofNat_toNat c]
    exact hletters _ h.1 (Nat.lt_succ_of_le h.2)
  · have hlower : c.toLower = c := dif_neg h
    rw [hlower]
    exact hsame c

theorem utf8ByteSize_ofList (l : List Char) :
    (String.ofList l).utf8ByteSize = (l.map Char.utf8Size).sum := by
  induction l with
  | nil => rfl
  | cons c l ih => simp [String.ofList_cons, ih]

theorem toLower_facts (c : Char) : (c.toLower = '.' ↔ c = '.') ∧ (c.toLower = '-' ↔ c = '-') ∧
    c.toLower.isAlphanum = c.isAlphanum ∧ c.toLower.utf8Size = c.utf8Size := by
  refine toLower_induction (P := fun c d => (d = '.' ↔ c = '.') ∧ (d = '-' ↔ c = '-') ∧
    d.isAlphanum = c.isAlphanum ∧ d.utf8Size = c.utf8Size) ?_
    (List.all_iff_forall_prop.mp (by decide)) c
  simp

theorem splitOn_lowercase (name : List Char) :
    (lowercase name).splitOn '.' = (name.splitOn '.').map lowercase := by
  induction name with
  | nil => rfl
  | cons c name ih =>
    have hc := (toLower_facts c).1
    simp only [lowercase, List.map_cons, List.splitOn_eq_splitOnP,
      List.splitOnP_cons_eq_if_modifyHead] at ih ⊢
    rw [ih]
    by_cases h : c = '.'
    · simp [h, lowercase]
    · cases name.splitOnP (· == '.') <;> simp [h, hc.not.mpr h, lowercase]

theorem nameLabels_lowercase (name : List Char) :
    nameLabels (lowercase name) = (nameLabels name).map lowercase := by
  have hlast : (lowercase name).getLast? = some '.' ↔ name.getLast? = some '.' := by
    simp [lowercase, List.getLast?_map, Option.map_eq_some_iff, (toLower_facts _).1]
  have hundotted : undotted (lowercase name) = lowercase (undotted name) := by
    simp only [undotted, hlast]
    split_ifs
    · exact (List.map_dropLast ..).symm
    · rfl
  rw [nameLabels, hundotted, splitOn_lowercase, nameLabels]

theorem utf8ByteSize_lowercase (l : List Char) :
    (String.ofList (lowercase l)).utf8ByteSize = (String.ofList l).utf8ByteSize := by
  simp only [utf8ByteSize_ofList, lowercase, List.map_map]
  congr 2
  exact funext fun c => (toLower_facts c).2.2.2

theorem isValidLabel_lowercase (l : List Char) : isValidLabel (lowercase l) = isValidLabel l := by
  simp only [isValidLabel, lowercase, List.head?_map, List.getLast?_map, List.all_map]
  cases l.head? <;> cases l.getLast? <;> simp [toLower_facts, Function.comp_def, beq_eq_decide]

theorem hyphens_lowercase (l : List Char) : "--".toList <:+: lowercase l ↔ "--".toList <:+: l := by
  rw [lowercase, List.infix_map_iff]
  constructor
  · rintro ⟨m, hm, hhyphens⟩
    obtain ⟨c, d, rfl⟩ := List.length_eq_two.mp (by simpa using congrArg List.length hhyphens.symm)
    simp_all [@eq_comm _ '-', toLower_facts]
  · exact fun h => ⟨_, h, by decide⟩

theorem good_lowercase (l : List Char) : Good (lowercase l) ↔ Good l := by
  rw [Good, Good, utf8ByteSize_lowercase, isValidLabel_lowercase, hyphens_lowercase]
  simp [lowercase]

theorem accepted_lowercase (name : List Char) : Accepted (lowercase name) ↔ Accepted name := by
  simp only [Accepted, utf8ByteSize_lowercase, nameLabels_lowercase, List.forall_mem_map,
    good_lowercase]

theorem Plain.raw {name : List Char} (h : Plain name) :
    ∀ l ∈ nameLabels name, ¬ "xn--".toList <+: l := by
  intro l hl hxn
  rw [Plain, nameLabels_lowercase, List.forall_mem_map] at h
  exact h l hl (hxn.map Char.toLower)

/-! ## The verdict -/

theorem length_le_utf8ByteSize (l : List Char) : l.length ≤ (String.ofList l).utf8ByteSize := by
  induction l with
  | nil => exact Nat.le_refl _
  | cons c l ih =>
    have hc := c.utf8Size_pos
    simp [String.ofList_cons]
    omega

theorem wireLength_splitOn (name : List Char) :
    wireLength (name.splitOn '.') = name.length + 2 := by
  induction name with
  | nil => rfl
  | cons c name ih =>
    rw [wireLength, List.splitOn_eq_splitOnP] at ih ⊢
    rw [List.splitOnP_cons_eq_if_modifyHead]
    cases hsplit : name.splitOnP (· == '.') with
    | nil => exact (List.splitOnP_ne_nil _ _ hsplit).elim
    | cons l ls => 
      rw [hsplit] at ih
      split_ifs <;> simp_all <;> omega

end Penguind.Squawk
