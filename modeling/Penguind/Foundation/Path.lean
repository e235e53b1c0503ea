import Mathlib.Algebra.Order.BigOperators.Group.List
import Mathlib.Algebra.Order.Group.Nat
import Mathlib.Data.List.DropRight

/-!
# Paths and where they lead

A path is a word over an alphabet with a separator and a dot. It moves a walker some levels up and
then down a list of names (its displacement); joined to a directory, it leads below it exactly
when it is relative and never goes up (its descent). The walk is lexical: `..` leaves the last
name, and at the root it stays.

## Main results

* `join_assoc`: joining is associative
* `locate_join_of_descent`: a path with a descent leads below whatever it is joined to
* `locate_join_sibling_of_descent_eq_none`: any other path leads to one place from two siblings
-/

namespace Penguind.Foundation

universe u v

abbrev Location (α : Type u) := List (List α)

structure PathSyntax (α : Type u) where
  sep : α
  dot : α
  dot_ne_sep : dot ≠ sep

namespace PathSyntax

variable {α : Type u} [DecidableEq α] (P : PathSyntax α) {p q : List α}

def IsAbsolute (p : List α) : Prop := p.head? = some P.sep

instance (p : List α) : Decidable (P.IsAbsolute p) := inferInstanceAs (Decidable (_ = _))

def join (p q : List α) : List α :=
  if P.IsAbsolute q then q
  else if p = [] ∨ p.getLast? = some P.sep then p ++ q
  else p ++ P.sep :: q

def move (here : Location α) (name : List α) : Location α :=
  if name = [] ∨ name = [P.dot] then here
  else if name = [P.dot, P.dot] then here.dropLast
  else here ++ [name]

def walk (here : Location α) (p : List α) : Location α :=
  (p.splitOn P.sep).foldl P.move here

def locate (cwd : Location α) (p : List α) : Location α :=
  P.walk (if P.IsAbsolute p then [] else cwd) p

def fileName (p : List α) : Option (List α) :=
  ((p.splitOn P.sep).filter fun name => ¬ (name = [] ∨ name = [P.dot])).getLast?.filter
    fun name => name ≠ [P.dot, P.dot]

/-! ## Joining -/

omit [DecidableEq α] in
@[simp] theorem not_isAbsolute_nil : ¬ P.IsAbsolute [] := by simp [IsAbsolute]

omit [DecidableEq α] in
theorem isAbsolute_append {p : List α} (hp : p ≠ []) (q : List α) :
    P.IsAbsolute (p ++ q) ↔ P.IsAbsolute p := by
  unfold IsAbsolute
  rw [List.head?_append_of_ne_nil _ hp]

theorem join_of_isAbsolute (hq : P.IsAbsolute q) : P.join p q = q := if_pos hq

theorem nil_join (q : List α) : P.join [] q = q := by
  unfold join
  split <;> simp

theorem isAbsolute_join :
    P.IsAbsolute (P.join p q) ↔ P.IsAbsolute q ∨ P.IsAbsolute p := by
  by_cases hq : P.IsAbsolute q
  · simp [P.join_of_isAbsolute hq, hq]
  · by_cases hp : p = []
    · simp [hp, nil_join]
    · unfold join
      split_ifs <;> simp [isAbsolute_append, hp, hq]

theorem getLast?_join (hq : q ≠ []) : (P.join p q).getLast? = q.getLast? := by
  unfold join
  split_ifs
  · rfl
  · exact List.getLast?_append_of_ne_nil p hq
  · rw [List.getLast?_append_of_ne_nil _ (List.cons_ne_nil _ _), List.getLast?_cons,
      List.getLast?_eq_some_getLast hq]
    rfl

theorem join_ne_nil (hq : q ≠ []) : P.join p q ≠ [] := by
  intro h
  have := P.getLast?_join (p := p) hq
  rw [h] at this
  exact hq (List.getLast?_eq_none_iff.mp this.symm)

theorem join_eq_append (hp : p ≠ []) (hq : ¬ P.IsAbsolute q) :
    P.join p q = p ++ if p.getLast? = some P.sep then q else P.sep :: q := by
  unfold join
  rw [if_neg hq]
  simp only [hp, false_or]
  split_ifs <;> rfl

theorem join_join_nil (p q : List α) : P.join (P.join p []) q = P.join p q := by
  by_cases hp : p = [] ∨ p.getLast? = some P.sep
  · have : P.join p [] = p := by simp [join, hp]
    rw [this]
  · have : P.join p [] = p ++ [P.sep] := by simp [join, hp]
    rw [this]
    simp [join, hp]

/-- **Joining is associative.** -/
theorem join_assoc (p q r : List α) : P.join (P.join p q) r = P.join p (P.join q r) := by
  by_cases hr : P.IsAbsolute r
  · rw [P.join_of_isAbsolute hr, P.join_of_isAbsolute hr, P.join_of_isAbsolute hr]
  by_cases hqa : P.IsAbsolute q
  · have hqr : P.IsAbsolute (P.join q r) := P.isAbsolute_join.mpr (.inr hqa)
    rw [P.join_of_isAbsolute hqa, P.join_of_isAbsolute hqr]
  by_cases hq : q = []
  · rw [hq, nil_join, join_join_nil]
  -- both parts are relative and the middle one is not empty, so it decides the last separator
  have hqr : ¬ P.IsAbsolute (P.join q r) := by
    rw [isAbsolute_join]
    exact not_or.mpr ⟨hr, hqa⟩
  rw [P.join_eq_append (P.join_ne_nil hq) hr, P.getLast?_join hq]
  rw [P.join_eq_append hq hr] at hqr ⊢
  unfold join
  rw [if_neg hqa, if_neg hqr]
  split_ifs <;> simp

/-! ## Walking -/

@[simp] theorem move_nil (here : Location α) : P.move here [] = here := by simp [move]

@[simp] theorem walk_nil (here : Location α) : P.walk here [] = here := by simp [walk]

theorem walk_append_sep (here : Location α) (p q : List α) :
    P.walk here (p ++ P.sep :: q) = P.walk (P.walk here p) q := by
  unfold walk
  rw [List.splitOn_append_cons_self, List.foldl_append]

theorem walk_join (hq : ¬ P.IsAbsolute q) (here : Location α) :
    P.walk here (P.join p q) = P.walk (P.walk here p) q := by
  unfold join
  rw [if_neg hq]
  split_ifs with hp
  · rcases hp with rfl | hp
    · simp
    · -- the separator at the end of `p` only adds an empty name
      obtain ⟨p, rfl⟩ := List.getLast?_eq_some_iff.mp hp
      rw [List.append_assoc, List.singleton_append, walk_append_sep, walk_append_sep, walk_nil]
  · exact P.walk_append_sep here p q

theorem locate_join_of_isAbsolute (hq : P.IsAbsolute q) (cwd : Location α) :
    P.locate cwd (P.join p q) = P.walk [] q := by
  rw [P.join_of_isAbsolute hq, locate, if_pos hq]

theorem locate_join (hq : ¬ P.IsAbsolute q) (cwd : Location α) :
    P.locate cwd (P.join p q) = P.walk (P.locate cwd p) q := by
  unfold locate
  rw [P.walk_join hq]
  simp only [P.isAbsolute_join, hq, false_or]

/-! ## Displacements -/

/-- Some levels up, then down a list of names. -/
structure Displacement (α : Type u) where
  up : Nat
  down : Location α
  deriving DecidableEq

def Displacement.apply (d : Displacement α) (here : Location α) : Location α :=
  here.rdrop d.up ++ d.down

def extend (d : Displacement α) (name : List α) : Displacement α :=
  if name = [] ∨ name = [P.dot] then d
  else if name = [P.dot, P.dot] then
    if d.down = [] then ⟨d.up + 1, []⟩ else ⟨d.up, d.down.dropLast⟩
  else ⟨d.up, d.down ++ [name]⟩

def displacement (p : List α) : Displacement α :=
  (p.splitOn P.sep).foldl P.extend ⟨0, []⟩

omit [DecidableEq α] in
theorem dropLast_rdrop (l : Location α) (n : Nat) : (l.rdrop n).dropLast = l.rdrop (n + 1) := by
  rw [List.rdrop_eq_reverse_drop_reverse, List.rdrop_eq_reverse_drop_reverse,
    List.dropLast_reverse, List.tail_drop]

theorem apply_extend (d : Displacement α) (name : List α) (here : Location α) :
    (P.extend d name).apply here = P.move (d.apply here) name := by
  unfold extend move Displacement.apply
  by_cases hstay : name = [] ∨ name = [P.dot]
  · rw [if_pos hstay, if_pos hstay]
  rw [if_neg hstay, if_neg hstay]
  by_cases hup : name = [P.dot, P.dot]
  · rw [if_pos hup, if_pos hup]
    by_cases hd : d.down = []
    · simp [hd, dropLast_rdrop]
    · simp [hd, List.dropLast_append_of_ne_nil]
  · rw [if_neg hup, if_neg hup, List.append_assoc]

theorem walk_eq_apply (here : Location α) (p : List α) :
    P.walk here p = (P.displacement p).apply here := by
  have hstart : (⟨0, []⟩ : Displacement α).apply here = here := by simp [Displacement.apply]
  unfold walk displacement
  -- Name by name: `apply_extend` is the step.
  rw [← List.foldl_hom (Displacement.apply · here) fun d name => (P.apply_extend d name here).symm,
    hstart]

omit [DecidableEq α] in
theorem Displacement.apply_sibling {d : Displacement α} (hd : d.up ≠ 0) (here : Location α)
    (f : List α) : d.apply (here.dropLast ++ [f]) = d.apply here := by
  -- The first level up drops the last name, whatever it is.
  obtain ⟨n, hn⟩ := Nat.exists_eq_succ_of_ne_zero hd
  unfold Displacement.apply
  rw [hn, List.rdrop_concat_succ]
  rcases List.eq_nil_or_concat here with rfl | ⟨l, a, rfl⟩
  · simp
  · rw [List.concat_eq_append, List.dropLast_concat, List.rdrop_concat_succ]

/-! ## Descents -/

/-- The names a path leads down, if it never leaves where it is joined. -/
def descent (p : List α) : Option (Location α) :=
  if P.IsAbsolute p then none
  else if (P.displacement p).up = 0 then some (P.displacement p).down
  else none

/-- **A path with a descent** leads below whatever it is joined to. -/
theorem locate_join_of_descent {q : List α} {w : Location α} (hq : P.descent q = some w)
    (cwd : Location α) (p : List α) : P.locate cwd (P.join p q) = P.locate cwd p ++ w := by
  unfold descent at hq
  split_ifs at hq with ha hup
  obtain rfl := Option.some.inj hq
  rw [P.locate_join ha, walk_eq_apply, Displacement.apply, hup, List.rdrop_zero]

/-! ## Siblings -/

structure Plain (f : List α) : Prop where
  sep : P.sep ∉ f
  ne_nil : f ≠ []
  ne_dot : f ≠ [P.dot]
  ne_dots : f ≠ [P.dot, P.dot]

omit [DecidableEq α] in
theorem exists_plain_notMem (used : Location α) : ∃ f, P.Plain f ∧ f ∉ used := by
  -- longer than every name in the list, and than two dots
  let n := (used.map List.length).sum + 3
  refine ⟨List.replicate n P.dot, ⟨?_, ?_, ?_, ?_⟩, ?_⟩
  · intro h
    exact P.dot_ne_sep (List.eq_of_mem_replicate h).symm
  · intro h
    simpa [n] using congrArg List.length h
  · intro h
    simpa [n] using congrArg List.length h
  · intro h
    simpa [n] using congrArg List.length h
  · intro h
    have hle := List.le_sum_of_mem (List.mem_map_of_mem (f := List.length) h)
    rw [List.length_replicate] at hle
    omega

def sibling (p f : List α) : List α := P.join p (P.dot :: P.dot :: P.sep :: f)

theorem walk_plain {f : List α} (hf : P.Plain f) (here : Location α) :
    P.walk here f = here ++ [f] := by
  unfold walk
  rw [List.splitOn_eq_singleton hf.sep]
  simp [move, hf.ne_nil, hf.ne_dot, hf.ne_dots]

theorem locate_sibling {f : List α} (hf : P.Plain f) (cwd : Location α) (p : List α) :
    P.locate cwd (P.sibling p f) = (P.locate cwd p).dropLast ++ [f] := by
  have hd : ¬ P.IsAbsolute (P.dot :: P.dot :: P.sep :: f) := by
    intro h
    exact P.dot_ne_sep (Option.some.inj h)
  -- The way to the sibling is one level up and then down the name.
  have hdots : P.walk (P.locate cwd p) [P.dot, P.dot] = (P.locate cwd p).dropLast := by
    unfold walk
    rw [List.splitOn_eq_singleton (by simp [P.dot_ne_sep.symm])]
    simp [move]
  rw [sibling, P.locate_join hd, show P.dot :: P.dot :: P.sep :: f = [P.dot, P.dot] ++ P.sep :: f
    from rfl, walk_append_sep, hdots, P.walk_plain hf]

/-- **A path without a descent** leads from a sibling to where it leads from the place itself. -/
theorem locate_join_sibling_of_descent_eq_none {f q : List α} (hf : P.Plain f)
    (hq : P.descent q = none) (cwd : Location α) (p : List α) :
    P.locate cwd (P.join (P.sibling p f) q) = P.locate cwd (P.join p q) := by
  by_cases ha : P.IsAbsolute q
  · rw [P.locate_join_of_isAbsolute ha, P.locate_join_of_isAbsolute ha]
  · have hup : (P.displacement q).up ≠ 0 := by
      intro h
      simp [descent, ha, h] at hq
    rw [P.locate_join ha, P.locate_join ha, P.locate_sibling hf, walk_eq_apply, walk_eq_apply,
      Displacement.apply_sibling hup]

/-! ## Copying a subtree -/

def graft {β : Type v} (src dst : Location α) (node : Location α → β) (l : Location α) : β :=
  if dst <+: l then node (src ++ l.drop dst.length) else node l

theorem graft_append {β : Type v} (src dst w : Location α) (node : Location α → β) :
    graft src dst node (dst ++ w) = node (src ++ w) := by
  unfold graft
  rw [if_pos (List.prefix_append dst w), List.drop_left]

theorem graft_of_notMem {β : Type v} {src dst l : Location α} {f : List α} (hd : f ∈ dst)
    (hl : f ∉ l) (node : Location α → β) : graft src dst node l = node l := by
  unfold graft
  rw [if_neg]
  intro h
  exact hl (h.subset hd)

theorem graft_locate_join_sibling {β : Type v} {f q : List α} (hf : P.Plain f)
    (cwd : Location α) (p : List α) (hq : f ∉ P.locate cwd (P.join p q))
    (node : Location α → β) :
    graft (P.locate cwd p) (P.locate cwd (P.sibling p f)) node
        (P.locate cwd (P.join (P.sibling p f) q)) =
      node (P.locate cwd (P.join p q)) := by
  -- A path with a descent stays in the copy; any other leads out of it, to where it led before.
  cases hd : P.descent q with
  | some w =>
    rw [P.locate_join_of_descent hd, P.locate_join_of_descent hd, graft_append]
  | none =>
    rw [P.locate_join_sibling_of_descent_eq_none hf hd]
    refine graft_of_notMem (f := f) ?_ hq node
    rw [P.locate_sibling hf]
    simp

end PathSyntax

end Penguind.Foundation
