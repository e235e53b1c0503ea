import Mathlib.Data.List.Sort
import Penguind.Daemon.Instances

/-!
# What a shutdown stops, and what stays stopped

A shutdown stops the loaded modules by their load positions, which restarts carry over. The
abstract side is the list of the loaded names in the order of their loads; the stop order is its
reverse in every reachable state.
-/

namespace Penguind.Daemon

open Foundation Supervisor

def positionIn : (AList fun _ : String => LoadedModule) → String → Option Nat :=
  fieldIn LoadedModule.loadSeq

theorem positionIn_isSome {l : AList fun _ : String => LoadedModule} {n : String} :
    (positionIn l n).isSome = (l.lookup n).isSome :=
  Option.isSome_map

/-! ## The order of the loads -/

/-- The positions increase along the list. -/
structure InOrder (pos : String → Option Nat) (next : Nat) (order : List String) : Prop where
  mem : ∀ n, n ∈ order ↔ (pos n).isSome = true
  increasing : order.Pairwise fun a b => ∀ p ∈ pos a, ∀ q ∈ pos b, p < q
  bound : ∀ n, ∀ p ∈ pos n, p < next

namespace InOrder

variable {pos pos' : String → Option Nat} {next : Nat} {order : List String} {n : String}

theorem nil : InOrder (fun _ => none) 0 [] where
  mem n := by simp
  increasing := List.Pairwise.nil
  bound _ _ h := nomatch h

theorem shrink (h : InOrder pos next order) (hp : ∀ x, pos' x = pos x ∨ pos' x = none) :
    InOrder pos' next (order.filter fun n => (pos' n).isSome) := by
  have hsub : ∀ x, ∀ p ∈ pos' x, p ∈ pos x := by
    intro x p hx
    rcases hp x with he | he
    · rwa [he] at hx
    · rw [he] at hx
      cases hx
  constructor
  · intro x
    rw [List.mem_filter, and_iff_right_iff_imp]
    intro hx
    obtain ⟨p, hp'⟩ := Option.isSome_iff_exists.mp hx
    exact (h.mem x).mpr (Option.isSome_iff_exists.mpr ⟨p, hsub x p hp'⟩)
  · refine (h.increasing.filter _).imp ?_
    intro a b hab p hp q hq
    exact hab p (hsub a p hp) q (hsub b q hq)
  · exact fun x p hx => h.bound x p (hsub x p hx)

theorem append (h : InOrder pos next order) (hn : pos n = none) :
    InOrder (Function.update pos n (some next)) (next + 1) (order ++ [n]) := by
  have hnot : n ∉ order := by
    rw [h.mem, hn]
    exact Bool.false_ne_true
  have hne : ∀ x ∈ order, x ≠ n := fun x hx he => hnot (he ▸ hx)
  constructor
  · intro x
    by_cases hx : x = n
    · subst hx
      simp [Function.update_self]
    · rw [Function.update_of_ne hx, List.mem_append, List.mem_singleton, or_iff_left hx]
      exact h.mem x
  · rw [List.pairwise_append]
    refine ⟨?_, List.pairwise_singleton _ _, ?_⟩
    · refine h.increasing.imp_of_mem ?_
      intro a b ha hb hab
      rw [Function.update_of_ne (hne a ha), Function.update_of_ne (hne b hb)]
      exact hab
    · intro a ha b hb p hp q hq
      rw [List.mem_singleton.mp hb, Function.update_self] at hq
      rw [Function.update_of_ne (hne a ha)] at hp
      cases hq
      exact h.bound a p hp
  · intro x p hx
    by_cases hxn : x = n
    · subst hxn
      rw [Function.update_self] at hx
      cases hx
      exact Nat.lt_succ_self _
    · rw [Function.update_of_ne hxn] at hx
      exact Nat.lt_succ_of_lt (h.bound x p hx)

theorem injective (h : InOrder pos next order) :
    ∀ a ∈ order, ∀ b ∈ order, ∀ p, pos a = some p → pos b = some p → a = b := by
  have hsymm : Std.Symm fun a b => ∀ p, pos a = some p → pos b = some p → a = b :=
    ⟨fun a b hab p hb ha => (hab p ha hb).symm⟩
  have hdistinct : order.Pairwise fun a b => ∀ p, pos a = some p → pos b = some p → a = b := by
    refine h.increasing.imp ?_
    intro a b hab p ha hb
    exact absurd (hab p ha p hb) (lt_irrefl p)
  exact fun a ha b hb => hdistinct.forall_of_forall (fun _ _ _ _ _ => rfl) ha hb

theorem nodup (h : InOrder pos next order) : order.Nodup := by
  refine h.increasing.imp_of_mem ?_
  rintro a b ha - hab rfl
  obtain ⟨p, hp⟩ := Option.isSome_iff_exists.mp ((h.mem a).mp ha)
  exact lt_irrefl p (hab p hp p hp)

end InOrder

theorem stopOrder_eq_reverse {s : Supervisor} {next : Nat} {order : List String}
    (h : InOrder (positionIn s.loaded) next order) : s.stopOrder = order.reverse := by
  have hkeys : s.stopOrder.Perm s.loaded.keys :=
    (List.mergeSort_perm s.loaded.entries _).map Sigma.fst
  have hmem : ∀ n, n ∈ s.stopOrder ↔ n ∈ order := by
    intro n
    rw [hkeys.mem_iff, h.mem, positionIn_isSome, AList.lookup_isSome]
    exact Iff.rfl
  have hentry : ∀ e ∈ s.loaded.entries.mergeSort fun a b => b.2.loadSeq ≤ a.2.loadSeq,
      positionIn s.loaded e.1 = some e.2.loadSeq := by
    intro e he
    exact fieldIn_of_some (AList.mem_lookup_iff.mpr (List.mem_mergeSort.mp he))
  -- Both lists have the positions in decreasing order, and no two names share one.
  have hstop : s.stopOrder.Pairwise
      fun a b => ∀ p ∈ positionIn s.loaded a, ∀ q ∈ positionIn s.loaded b, q ≤ p := by
    rw [Supervisor.stopOrder, List.pairwise_map]
    refine (List.pairwise_mergeSort ?_ ?_ s.loaded.entries).imp_of_mem ?_
    · intro a b c hab hbc
      rw [decide_eq_true_eq] at hab hbc ⊢
      exact hbc.trans hab
    · intro a b
      rw [Bool.or_eq_true, decide_eq_true_eq, decide_eq_true_eq]
      exact le_total _ _
    · intro a b ha hb hab p hp q hq
      rw [hentry a ha] at hp
      rw [hentry b hb] at hq
      cases hp
      cases hq
      exact of_decide_eq_true hab
  have hrev : order.reverse.Pairwise
      fun a b => ∀ p ∈ positionIn s.loaded a, ∀ q ∈ positionIn s.loaded b, q ≤ p := by
    rw [List.pairwise_reverse]
    refine h.increasing.imp ?_
    intro a b hab q hq p hp
    exact (hab p hp q hq).le
  refine List.Perm.eq_of_pairwise ?_ hstop hrev ?_
  · intro a b ha hb hab hba
    have ha' := (hmem a).mp ha
    have hb' := List.mem_reverse.mp hb
    obtain ⟨p, hp⟩ := Option.isSome_iff_exists.mp ((h.mem a).mp ha')
    obtain ⟨q, hq⟩ := Option.isSome_iff_exists.mp ((h.mem b).mp hb')
    obtain rfl : p = q := le_antisymm (hba q hq p hp) (hab p hp q hq)
    exact h.injective a ha' b hb' p hp hq
  · refine (List.perm_ext_iff_of_nodup ?_ ?_).mpr fun n => ?_
    · exact hkeys.nodup_iff.mpr s.loaded.nodupKeys
    · exact List.nodup_reverse.mpr h.nodup
    · rw [List.mem_reverse]
      exact hmem n

/-! ## The order along a run -/

def newlyLoaded (s : Supervisor) (a : Action) (t : Supervisor) : List String :=
  match a with
  | .load n _ _ => if s.loaded.lookup n = none ∧ t.loaded.lookup n ≠ none then [n] else []
  | _ => []

/-- The loaded names, in the order of their loads. -/
def noteOrder (s : Supervisor) (a : Action) (t : Supervisor) (order : List String) :
    List String :=
  (order.filter fun n => (t.loaded.lookup n).isSome) ++ newlyLoaded s a t

section Step

variable {cfg : SupervisorConfig} {s t : Supervisor} {a : Action} {order : List String}

theorem positionIn_stopLocked (s : Supervisor) (n x : String) :
    positionIn (s.stopLocked n).loaded x = positionIn s.loaded x ∨
      positionIn (s.stopLocked n).loaded x = none := by
  rw [loaded_stopLocked, positionIn, fieldIn_erase]
  by_cases hx : x = n
  · exact .inr (by rw [hx, Function.update_self])
  · exact .inl (by rw [Function.update_of_ne hx])

theorem positionIn_performScheduledRestart (cfg : SupervisorConfig) (s : Supervisor)
    (name : String) (o : Attempt) :
    positionIn (performScheduledRestart cfg s name o).loaded = positionIn s.loaded := by
  cases hl : s.loaded.lookup name with
  | none => rw [performScheduledRestart_of_none cfg s name o hl]
  | some m =>
    by_cases ho : Attempt.Succeeds cfg name o
    · obtain ⟨es, h⟩ := performScheduledRestart_of_succeeds cfg s name hl ho
      rw [h]
      exact fieldIn_insert_same hl rfl
    · rw [loaded_performScheduledRestart_of_not cfg s name hl ho]

theorem positions_step (h : step cfg s a = some t) :
    (∃ n, newlyLoaded s a t = [n] ∧ positionIn s.loaded n = none ∧
        positionIn t.loaded = Function.update (positionIn s.loaded) n (some s.loadSeq) ∧
        t.loadSeq = s.loadSeq + 1) ∨
      newlyLoaded s a t = [] ∧ t.loadSeq = s.loadSeq ∧
        ∀ x, positionIn t.loaded x = positionIn s.loaded x ∨ positionIn t.loaded x = none := by
  cases acts_of_step h with
  | load n o saved =>
    by_cases hl : s.loaded.lookup n = none ∧ Attempt.Succeeds cfg n o
    · obtain ⟨es, hload⟩ := load_of_succeeds cfg s n saved hl.1 hl.2
      rw [hload]
      refine .inl ⟨n, ?_, fieldIn_of_none hl.1, ?_, rfl⟩
      · rw [newlyLoaded, AList.lookup_insert, if_pos ⟨hl.1, nofun⟩]
      · exact fieldIn_insert LoadedModule.loadSeq s.loaded n s.loadedEntry
    · obtain ⟨k, cs, es, -, hload⟩ := load_frame_of_not cfg s n saved hl
      rw [hload]
      refine .inr ⟨?_, rfl, fun x => .inl rfl⟩
      rw [newlyLoaded, if_neg fun h => h.2 h.1]
  | unload n saved =>
    obtain ⟨names, file, hun⟩ := unload_frame s n saved
    rw [hun]
    exact .inr ⟨rfl, congrArg Prod.fst (counters_stopLocked s n), positionIn_stopLocked s n⟩
  | shutdownLocked =>
    refine .inr ⟨rfl, congrArg Prod.fst (counters_shutdownLocked s), ?_⟩
    refine shutdownLocked_induction (P := fun u => ∀ x, positionIn u.loaded x =
      positionIn s.loaded x ∨ positionIn u.loaded x = none) (fun u n hu x => ?_) fun _ => .inl rfl
    rcases positionIn_stopLocked u n x with hx | hx
    · rw [hx]
      exact hu x
    · exact .inr hx
  | tick d | startEnabled | shutdown | timerAbandoned x | pollWakes x report | pollEnds x =>
    exact .inr ⟨rfl, rfl, fun _ => .inl rfl⟩
  | reportFailure n reason delay =>
    refine .inr ⟨rfl, congrArg Prod.fst (untouched_reportFailure cfg s ..).counters,
      fun x => .inl ?_⟩
    exact congrFun (fieldIn_reportFailure cfg s n (fun _ _ _ => rfl) reason none delay) x
  | timerFires y o =>
    refine .inr ⟨rfl, (kept_performScheduledRestart cfg (s.dropTimer y) ..).2, fun x => .inl ?_⟩
    exact congrFun (positionIn_performScheduledRestart cfg (s.dropTimer y) y.name o) x
  | restartReports f delay =>
    refine .inr ⟨rfl, congrArg Prod.fst
      (untouched_reportFailure cfg (s.dropFailedRestart f) ..).counters, fun x => .inl ?_⟩
    exact congrFun (fieldIn_reportFailure cfg (s.dropFailedRestart f) f.name (fun _ _ _ => rfl)
      f.reason (some f.old) delay) x
  | pollApplies r delay =>
    refine .inr ⟨rfl, congrArg Prod.fst
      (untouched_applyReport cfg (s.dropReading r) r delay).counters, fun x => .inl ?_⟩
    exact congrFun (fieldIn_applyReport cfg (s.dropReading r) (fun _ _ _ => rfl) r delay) x

theorem inOrder_step (hs : InOrder (positionIn s.loaded) s.loadSeq order)
    (h : step cfg s a = some t) :
    InOrder (positionIn t.loaded) t.loadSeq (noteOrder s a t order) := by
  simp only [noteOrder, ← positionIn_isSome]
  rcases positions_step h with ⟨n, hn, hnone, hpos, hseq⟩ | ⟨hn, hseq, hpos⟩
  · have hall : (order.filter fun x => (positionIn t.loaded x).isSome) = order := by
      refine List.filter_eq_self.mpr fun x hx => ?_
      rw [hpos]
      by_cases hxn : x = n
      · rw [hxn, Function.update_self]
        rfl
      · rw [Function.update_of_ne hxn]
        exact (hs.mem x).mp hx
    rw [hall, hn, hseq, hpos]
    exact hs.append hnone
  · rw [hn, hseq, List.append_nil]
    exact hs.shrink hpos

theorem inOrder_run {file : EnabledFile} {as : List Action}
    (hr : run (ghost (step cfg) noteOrder) (.new file, []) as = some (t, order)) :
    InOrder (positionIn t.loaded) t.loadSeq order := by
  have hnew : InOrder (positionIn (Supervisor.new file).loaded) 0 [] := .nil
  refine run_invariant_of_step (I := fun s => InOrder (positionIn s.1.loaded) s.1.loadSeq s.2)
    (fun s a u hs h => ?_) hnew hr
  obtain ⟨v, hv, rfl⟩ := ghost_eq_some.mp h
  exact inOrder_step hs hv

end Step

/-! ## The calls of a shutdown -/

theorem lookup_foldl_stopLocked_ne {n : String} {names : List String} (hn : n ∉ names)
    (s : Supervisor) : (names.foldl stopLocked s).loaded.lookup n = s.loaded.lookup n := by
  induction names generalizing s with
  | nil => rfl
  | cons x names ih =>
    rw [List.mem_cons, not_or] at hn
    rw [List.foldl_cons, ih hn.2, loaded_stopLocked, AList.lookup_erase_ne hn.1]

theorem lookup_foldl_stopLocked {n : String} {names : List String} (hn : n ∈ names)
    (s : Supervisor) : (names.foldl stopLocked s).loaded.lookup n = none := by
  induction names generalizing s with
  | nil => cases hn
  | cons x names ih =>
    by_cases hx : n ∈ names
    · exact ih hx _
    · obtain rfl : n = x := (List.mem_cons.mp hn).resolve_right hx
      rw [List.foldl_cons, lookup_foldl_stopLocked_ne hx, loaded_stopLocked, AList.lookup_erase]

theorem calls_foldl_stopLocked {names : List String} (hn : names.Nodup) (s : Supervisor) :
    (names.foldl stopLocked s).calls =
      s.calls ++ (names.filterMap (currentIn s.loaded)).map fun i => (i, .stop) := by
  induction names generalizing s with
  | nil => exact (List.append_nil _).symm
  | cons n names ih =>
    rw [List.nodup_cons] at hn
    have hrest : names.filterMap (currentIn (s.stopLocked n).loaded) =
        names.filterMap (currentIn s.loaded) := by
      refine List.filterMap_congr fun x hx => ?_
      have hne : x ≠ n := fun hxn => hn.1 (hxn ▸ hx)
      rw [loaded_stopLocked, currentIn_erase, Function.update_of_ne hne]
    rw [List.foldl_cons, ih hn.2, hrest]
    cases hl : s.loaded.lookup n with
    | none =>
      have hcur : currentIn s.loaded n = none := fieldIn_of_none hl
      rw [List.filterMap_cons_none hcur, stopLocked_of_none s n hl]
    | some m =>
      have hcur : currentIn s.loaded n = some m.inst := fieldIn_of_some hl
      rw [List.filterMap_cons_some hcur, calls_stopLocked s n hl, List.map_cons,
        List.append_assoc, List.singleton_append]

theorem lookup_shutdownLocked_eq_none (s : Supervisor) (n : String) :
    s.shutdownLocked.loaded.lookup n = none := by
  by_cases hn : n ∈ s.stopOrder
  · exact lookup_foldl_stopLocked hn s
  · have hkeys : s.stopOrder.Perm s.loaded.keys :=
      (List.mergeSort_perm s.loaded.entries _).map Sigma.fst
    rw [shutdownLocked, lookup_foldl_stopLocked_ne hn, AList.lookup_eq_none]
    exact fun hmem => hn (hkeys.mem_iff.mpr hmem)

/-! ## After the shutdown -/

def Action.Background : Action → Prop
  | .timerFires _ _ | .timerAbandoned _ | .restartReports _ _ | .pollWakes _ _ | .pollApplies _ _
  | .pollEnds _ => True
  | _ => False

def StartsNothing (s t : Supervisor) : Prop :=
  ∀ c ∈ t.calls.drop s.calls.length, c.2 = .stop

instance (s t : Supervisor) : Decidable (StartsNothing s t) :=
  inferInstanceAs (Decidable (∀ c ∈ _, _))

def QuietTasks (cfg : SupervisorConfig) (s : Supervisor) (a : Action) : Prop :=
  a.Background → ∀ t ∈ step cfg s a, StartsNothing s t

def FiresOnGone (cfg : SupervisorConfig) (s : Supervisor) : Action → Prop
  | .timerFires x o => s.loaded.lookup x.name = none ∨ ¬ Attempt.Instantiates cfg x.name o
  | _ => True

section After

variable {cfg : SupervisorConfig} {s t : Supervisor} {a : Action}

theorem startsNothing_of_calls_eq (h : t.calls = s.calls) : StartsNothing s t := by
  intro c hc
  rw [h, List.drop_length] at hc
  cases hc

theorem startsNothing_restart_iff (x : RestartTimer) (o : Attempt) :
    StartsNothing s (performScheduledRestart cfg (s.dropTimer x) x.name o) ↔
      s.loaded.lookup x.name = none ∨ ¬ Attempt.Instantiates cfg x.name o := by
  cases hl : s.loaded.lookup x.name with
  | none =>
    rw [performScheduledRestart_of_none cfg (s.dropTimer x) x.name o hl]
    exact ⟨fun _ => .inl rfl, fun _ => startsNothing_of_calls_eq rfl⟩
  | some m =>
    have hc : (performScheduledRestart cfg (s.dropTimer x) x.name o).calls =
        s.calls ++ (m.inst, .stop) :: Attempt.calls cfg x.name o s.nextInstance :=
      calls_performScheduledRestart cfg (s.dropTimer x) x.name o hl
    rw [StartsNothing, hc, List.drop_left, List.forall_mem_cons]
    constructor
    · rintro ⟨-, h⟩
      refine .inr fun hi => ?_
      have hinit : (s.nextInstance, .init) ∈ Attempt.calls cfg x.name o s.nextInstance := by
        simp only [Attempt.calls, show instantiate cfg x.name o = .ok () from hi]
        split
        · exact List.mem_cons_self
        · split <;> exact List.mem_cons_self
      cases h _ hinit
    · intro h
      have hn : ¬ Attempt.Instantiates cfg x.name o := h.resolve_left (Option.some_ne_none m)
      exact ⟨rfl, fun c hc => absurd (Attempt.of_mem_calls hc).1 hn⟩

theorem quietTasks_iff (h : step cfg s a = some t) : QuietTasks cfg s a ↔ FiresOnGone cfg s a := by
  have hquiet : t.calls = s.calls → QuietTasks cfg s a := by
    intro hc _ u hu
    obtain rfl : t = u := Option.mem_unique h hu
    exact startsNothing_of_calls_eq hc
  cases acts_of_step h with
  | timerFires x o =>
    rw [FiresOnGone, ← startsNothing_restart_iff]
    constructor
    · exact fun hq => hq trivial _ h
    · intro hq _ u hu
      rwa [← Option.some.inj (h.symm.trans hu)]
  | restartReports f delay =>
    exact ⟨fun _ => trivial,
      fun _ => hquiet (untouched_reportFailure cfg (s.dropFailedRestart f) ..).calls⟩
  | pollApplies r delay =>
    exact ⟨fun _ => trivial,
      fun _ => hquiet (untouched_applyReport cfg (s.dropReading r) r delay).calls⟩
  | timerAbandoned x | pollWakes x report | pollEnds x =>
    exact ⟨fun _ => trivial, fun _ => hquiet rfl⟩
  | tick d | load n o saved | unload n saved | startEnabled | shutdown | shutdownLocked
  | reportFailure n reason delay => exact ⟨fun _ => trivial, fun _ hb => absurd hb id⟩

theorem no_entries_step (hs : ∀ n, s.loaded.lookup n = none)
    (ha : ∀ n o saved, a ≠ .load n o saved) (h : step cfg s a = some t) :
    ∀ n, t.loaded.lookup n = none := by
  intro x
  have hpos : ∀ {u : Supervisor} {y}, positionIn u.loaded y = none ↔ u.loaded.lookup y = none :=
    Option.map_eq_none_iff
  rw [← hpos]
  have hx : positionIn s.loaded x = none := hpos.mpr (hs x)
  rcases positions_step h with ⟨n, hn, -⟩ | ⟨-, -, hp⟩
  · cases a with
    | load n o saved => exact absurd rfl (ha n o saved)
    | _ => cases hn
  · rcases hp x with hp | hp
    · exact hp.trans hx
    · exact hp

theorem quiet_without_loads {as : List Action} (hs : ∀ n, s.loaded.lookup n = none)
    (has : ∀ a ∈ as, ∀ n o saved, a ≠ .load n o saved) :
    Along (step cfg) (FiresOnGone cfg) s as := by
  refine along_of_invariant (I := fun s => ∀ n, s.loaded.lookup n = none)
    (K := fun _ a => ∀ n o saved, a ≠ .load n o saved)
    (fun _ _ _ hI hK h => no_entries_step hI hK h) ?_ hs (along_of_forall_mem has)
  intro s a hI _
  cases a with
  | timerFires x o => exact .inl (hI x.name)
  | _ => trivial

end After

def restartedThenShutdown : List Action :=
  [.load "alpha" succeeding true, .load "beta" succeeding true,
    .reportFailure "alpha" "crashed" 100000000, .tick 100000000,
    .timerFires ⟨"alpha", 100000000, 0⟩ succeeding, .shutdown]

theorem restartedThenShutdown_isSome :
    (run (ghost (step oneModule) noteOrder) (.new .absent, []) restartedThenShutdown).isSome =
      true := by
  decide +kernel

def beforeLock : Supervisor × List String :=
  (run (ghost (step oneModule) noteOrder) (.new .absent, []) restartedThenShutdown).get
    restartedThenShutdown_isSome

theorem step_beforeLock :
    step oneModule beforeLock.1 .shutdownLocked = some beforeLock.1.shutdownLocked := by
  have hc : beforeLock.1.lifeCancelled = true := by decide +kernel
  rw [step, hc]
  exact if_pos rfl

/-- A restart is due when the supervisor is shut down. -/
def shutdownWithTimer : List Action :=
  [.load "alpha" succeeding true, .reportFailure "alpha" "crashed" 100000000, .tick 100000000,
    .shutdown, .shutdownLocked]

theorem shutdownWithTimer_isSome :
    (run (step oneModule) (.new .absent) shutdownWithTimer).isSome = true := by
  decide +kernel

def afterShutdown : Supervisor :=
  (run (step oneModule) (.new .absent) shutdownWithTimer).get shutdownWithTimer_isSome

def loadedAgain : Supervisor := (afterShutdown.load oneModule "alpha" succeeding true).2

end Penguind.Daemon
