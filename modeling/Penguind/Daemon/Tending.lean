import Penguind.Daemon.Observations

/-!
# What a step may do to the poll loops

An entry and its poll task share a token. What a function that works on one module may do to
tokens and poll tasks is said once, as a relation.
-/

namespace Penguind.Daemon

open Supervisor

/-! ## Tokens and poll tasks -/

def Polling.Covers (w : Polling) (n : String) (i : InstanceId) (k : TokenId) : Prop :=
  (∃ p ∈ w.polls, p.name = n ∧ p.inst = i ∧ p.cancel = k) ∨
    ∃ r ∈ w.readings, r.name = n ∧ r.inst = i ∧ r.cancel = k

/-- No token is cancelled but that of `n`, no poll task ends, and `n` has one for its token. -/
structure Tends (n : String) (s t : Supervisor) : Prop where
  others : ∀ x, x ≠ n → t.loaded.lookup x = s.loaded.lookup x
  tokens : s.nextToken ≤ t.nextToken
  cancelled : s.cancelled ⊆ t.cancelled
  cancels : ∀ k ∈ t.cancelled,
    k ∈ s.cancelled ∨ ∃ m, s.loaded.lookup n = some m ∧ k = m.healthCancel
  covers : ∀ x i k, s.polling.Covers x i k → t.polling.Covers x i k
  entry : ∀ m', t.loaded.lookup n = some m' →
    (∃ m, s.loaded.lookup n = some m ∧ m'.inst = m.inst ∧ m'.healthCancel = m.healthCancel) ∨
      m'.healthCancel = s.nextToken ∧ s.nextToken < t.nextToken ∧
        t.polling.Covers n m'.inst m'.healthCancel

structure Polled (s : Supervisor) : Prop where
  made : ∀ n m, s.loaded.lookup n = some m → m.healthCancel < s.nextToken
  cancelled : ∀ k ∈ s.cancelled, k < s.nextToken
  distinct : ∀ n x m m', s.loaded.lookup n = some m → s.loaded.lookup x = some m' →
    m.healthCancel = m'.healthCancel → n = x
  covered : ∀ n m, s.loaded.lookup n = some m → m.healthCancel ∉ s.cancelled →
    s.polling.Covers n m.inst m.healthCancel

def Uncut (s : Supervisor) : Prop :=
  ∀ n m, s.loaded.lookup n = some m → m.state = .running → m.healthCancel ∉ s.cancelled

section Polls

variable {cfg : SupervisorConfig} {s t : Supervisor} {n : String}

theorem Polled.tends (hs : Polled s) (h : Tends n s t) : Polled t := by
  -- Every entry but a new one has the instance and the token of an entry before the step.
  have hold : ∀ x m', t.loaded.lookup x = some m' →
      (∃ m, s.loaded.lookup x = some m ∧ m'.inst = m.inst ∧ m'.healthCancel = m.healthCancel) ∨
        x = n ∧ m'.healthCancel = s.nextToken ∧ s.nextToken < t.nextToken ∧
          t.polling.Covers n m'.inst m'.healthCancel := by
    intro x m' hm'
    by_cases hx : x = n
    · subst hx
      exact (h.entry m' hm').imp_right fun hnew => ⟨rfl, hnew⟩
    · rw [h.others x hx] at hm'
      exact .inl ⟨m', hm', rfl, rfl⟩
  refine ⟨fun x m' hm' => ?_, fun k hk => ?_, fun x y m' m'' hx hy he => ?_,
    fun x m' hm' hc => ?_⟩
  · rcases hold x m' hm' with ⟨m, hm, -, he⟩ | ⟨-, he, hlt, -⟩
    · rw [he]
      exact (hs.made x m hm).trans_le h.tokens
    · rwa [he]
  · rcases h.cancels k hk with hk | ⟨m, hm, rfl⟩
    · exact (hs.cancelled k hk).trans_le h.tokens
    · exact (hs.made n m hm).trans_le h.tokens
  · rcases hold x m' hx with ⟨m₁, h₁, -, e₁⟩ | ⟨rfl, e₁, -⟩
    · rcases hold y m'' hy with ⟨m₂, h₂, -, e₂⟩ | ⟨rfl, e₂, -⟩
      · exact hs.distinct x y m₁ m₂ h₁ h₂ (e₁.symm.trans (he.trans e₂))
      · exact absurd (hs.made x m₁ h₁) (by rw [← e₁, he, e₂]; exact lt_irrefl _)
    · rcases hold y m'' hy with ⟨m₂, h₂, -, e₂⟩ | ⟨rfl, -⟩
      · exact absurd (hs.made y m₂ h₂) (by rw [← e₂, ← he, e₁]; exact lt_irrefl _)
      · rfl
  · rcases hold x m' hm' with ⟨m, hm, hi, he⟩ | ⟨rfl, -, -, hnew⟩
    · rw [hi, he]
      rw [he] at hc
      exact h.covers _ _ _ (hs.covered x m hm fun hk => hc (h.cancelled hk))
    · exact hnew

theorem Uncut.tends (hs : Uncut s) (hp : Polled s) (h : Tends n s t) :
    Uncut t ↔ ∀ m', t.loaded.lookup n = some m' → m'.state = .running →
      m'.healthCancel ∉ t.cancelled := by
  refine ⟨fun ht => ht n, fun hn x m hm hrun hk => ?_⟩
  by_cases hx : x = n
  · subst hx
    exact hn m hm hrun hk
  · rw [h.others x hx] at hm
    rcases h.cancels _ hk with hk | ⟨m', hm', he⟩
    · exact hs x m hm hrun hk
    · exact hx (hp.distinct x n m m' hm hm' he)

namespace Tends

theorem of_polling (ps : List HealthPoll) (ks : List TokenId)
    (hp : t.polling = ⟨s.polls ++ ps, s.readings, ks ++ s.cancelled⟩)
    (hks : ∀ k ∈ ks, ∃ m, s.loaded.lookup n = some m ∧ k = m.healthCancel)
    (htok : s.nextToken ≤ t.nextToken)
    (hother : ∀ x, x ≠ n → t.loaded.lookup x = s.loaded.lookup x)
    (hentry : ∀ m', t.loaded.lookup n = some m' →
      (∃ m, s.loaded.lookup n = some m ∧ m'.inst = m.inst ∧ m'.healthCancel = m.healthCancel) ∨
        m'.healthCancel = s.nextToken ∧ s.nextToken < t.nextToken ∧
          ∃ p ∈ ps, p.name = n ∧ p.inst = m'.inst ∧ p.cancel = m'.healthCancel) :
    Tends n s t := by
  have hc : t.cancelled = ks ++ s.cancelled := congrArg Polling.cancelled hp
  refine ⟨hother, htok, hc ▸ List.subset_append_right _ _, fun k hk => ?_, fun x i k h => ?_,
    fun m' hm' => ?_⟩
  · rw [hc] at hk
    exact (List.mem_append.mp hk).symm.imp_right (hks k)
  · rw [hp]
    rcases h with ⟨p, hmem, h⟩ | h
    · exact .inl ⟨p, List.mem_append_left _ hmem, h⟩
    · exact .inr h
  · refine (hentry m' hm').imp_right fun ⟨he, hlt, p, hmem, h⟩ => ⟨he, hlt, ?_⟩
    rw [hp]
    exact .inl ⟨p, List.mem_append_right _ hmem, h⟩

theorem of_cancel (ks : List TokenId)
    (hp : t.polling = { s.polling with cancelled := ks ++ s.cancelled })
    (hks : ∀ k ∈ ks, ∃ m, s.loaded.lookup n = some m ∧ k = m.healthCancel)
    (htok : t.nextToken = s.nextToken)
    (hother : ∀ x, x ≠ n → t.loaded.lookup x = s.loaded.lookup x)
    (hentry : ∀ m', t.loaded.lookup n = some m' → ∃ m, s.loaded.lookup n = some m ∧
      m'.inst = m.inst ∧ m'.healthCancel = m.healthCancel) : Tends n s t := by
  refine of_polling [] ks ?_ hks htok.ge hother fun m' hm' => .inl (hentry m' hm')
  rw [hp, List.append_nil]
  rfl

theorem refl (n : String) (s : Supervisor) : Tends n s s :=
  of_cancel [] rfl nofun rfl (fun _ _ => rfl) fun m hm => ⟨m, hm, rfl, rfl⟩

theorem entry_of_fieldIn
    (h : fieldIn (fun m => (m.inst, m.healthCancel)) t.loaded =
      fieldIn (fun m => (m.inst, m.healthCancel)) s.loaded)
    {m' : LoadedModule} (hm' : t.loaded.lookup n = some m') :
    ∃ m, s.loaded.lookup n = some m ∧ m'.inst = m.inst ∧ m'.healthCancel = m.healthCancel := by
  have hn := congrFun h n
  rw [fieldIn_of_some hm'] at hn
  obtain ⟨m, hm, he⟩ := Option.map_eq_some_iff.mp hn.symm
  obtain ⟨hi, hk⟩ := Prod.mk.inj he
  exact ⟨m, hm, hi.symm, hk.symm⟩

theorem load (s : Supervisor) (n : String) (o : Attempt) (saved : Bool) :
    Tends n s (s.load cfg n o saved).2 := by
  by_cases h : s.loaded.lookup n = none ∧ Attempt.Succeeds cfg n o
  · obtain ⟨es, hload⟩ := load_of_succeeds cfg s n saved h.1 h.2
    rw [hload]
    refine of_polling [s.nextPoll cfg n] [] rfl nofun (Nat.le_succ _)
      (fun x hx => AList.lookup_insert_ne hx) fun m' hm' => .inr ?_
    cases (AList.lookup_insert s.loaded).symm.trans hm'
    exact ⟨rfl, Nat.lt_succ_self _, _, List.mem_singleton_self _, rfl, rfl, rfl⟩
  · obtain ⟨k, cs, es, -, hload⟩ := load_frame_of_not cfg s n saved h
    rw [hload]
    exact of_cancel [] rfl nofun rfl (fun _ _ => rfl) fun m hm => ⟨m, hm, rfl, rfl⟩

theorem stopLocked (s : Supervisor) (n : String) : Tends n s (s.stopLocked n) := by
  cases hl : s.loaded.lookup n with
  | none =>
    rw [stopLocked_of_none s n hl]
    exact refl n s
  | some m =>
    obtain ⟨es, h⟩ := stopLocked_of_some s n hl
    rw [h]
    refine of_cancel [m.healthCancel] rfl (fun k hk => ⟨m, hl, List.mem_singleton.mp hk⟩) rfl
      (fun x hx => AList.lookup_erase_ne hx) fun m' hm' => ?_
    cases (AList.lookup_erase n s.loaded).symm.trans hm'

theorem reportFailure (s : Supervisor) (n reason : String) (src : Option InstanceId)
    (delay : Nat) : Tends n s (s.reportFailure cfg n reason src delay) := by
  cases hl : s.loaded.lookup n with
  | none =>
    rw [reportFailure_of_none cfg s n reason src delay hl]
    exact refl n s
  | some m =>
    obtain ⟨es, h⟩ := reportFailure_of_some cfg s n reason src delay hl
    rw [h]
    refine of_cancel [m.healthCancel] rfl (fun k hk => ⟨m, hl, List.mem_singleton.mp hk⟩) rfl
      (fun x hx => AList.lookup_insert_ne hx) fun m' hm' => ?_
    cases (AList.lookup_insert s.loaded).symm.trans hm'
    exact ⟨m, hl, rfl, rfl⟩

theorem performScheduledRestart (s : Supervisor) (n : String) (o : Attempt) :
    Tends n s (s.performScheduledRestart cfg n o) := by
  cases hl : s.loaded.lookup n with
  | none =>
    rw [performScheduledRestart_of_none cfg s n o hl]
    exact refl n s
  | some m =>
    have hks : ∀ k ∈ [m.healthCancel], ∃ m, s.loaded.lookup n = some m ∧ k = m.healthCancel :=
      fun k hk => ⟨m, hl, List.mem_singleton.mp hk⟩
    by_cases ho : Attempt.Succeeds cfg n o
    · obtain ⟨es, h⟩ := performScheduledRestart_of_succeeds cfg s n hl ho
      rw [h]
      refine of_polling [s.nextPoll cfg n] [m.healthCancel] rfl hks (Nat.le_succ _)
        (fun x hx => AList.lookup_insert_ne hx) fun m' hm' => .inr ?_
      cases (AList.lookup_insert s.loaded).symm.trans hm'
      exact ⟨rfl, Nat.lt_succ_self _, _, List.mem_singleton_self _, rfl, rfl, rfl⟩
    · obtain ⟨reason, k, cs, es, -, h⟩ := performScheduledRestart_frame_of_not cfg s n hl ho
      rw [h]
      exact of_cancel [m.healthCancel] rfl hks rfl (fun _ _ => rfl) fun m hm => ⟨m, hm, rfl, rfl⟩

theorem applyReport (s : Supervisor) (r : HealthReading) (delay : Nat) :
    Tends r.name s (s.applyReport cfg r delay) := by
  -- Only an unhealthy reading cancels, and it does what any failure does.
  rcases view_applyReport cfg s r delay with ⟨-, he⟩ | ⟨hr, -⟩
  · rw [he]
    exact reportFailure s r.name r.report.message (some r.inst) delay
  · exact of_cancel [] (polling_applyReport cfg s hr delay) (List.forall_mem_nil _)
      (congrArg Prod.snd (untouched_applyReport cfg s r delay).counters)
      (fun x hx => (sameFor_applyReport (Ne.symm hx) delay).lookup) fun m' hm' =>
      entry_of_fieldIn (fieldIn_applyReport cfg s (f := fun m => (m.inst, m.healthCancel))
        (fun _ _ _ => rfl) r delay) hm'

end Tends

theorem Polled.nextToken_notMem (hp : Polled s) : s.nextToken ∉ s.cancelled :=
  fun h => lt_irrefl _ (hp.cancelled _ h)

namespace Uncut

theorem load (hs : Uncut s) (hp : Polled s) (n : String) (o : Attempt) (saved : Bool) :
    Uncut (s.load cfg n o saved).2 := by
  rw [hs.tends hp (Tends.load s n o saved)]
  intro m' hm' hrun
  by_cases h : s.loaded.lookup n = none ∧ Attempt.Succeeds cfg n o
  · obtain ⟨es, hload⟩ := load_of_succeeds cfg s n saved h.1 h.2
    rw [hload] at hm' ⊢
    cases (AList.lookup_insert s.loaded).symm.trans hm'
    exact hp.nextToken_notMem
  · obtain ⟨k, cs, es, -, hload⟩ := load_frame_of_not cfg s n saved h
    rw [hload] at hm' ⊢
    exact hs n m' hm' hrun

theorem stopLocked (hs : Uncut s) (hp : Polled s) (n : String) : Uncut (s.stopLocked n) := by
  rw [hs.tends hp (Tends.stopLocked s n)]
  intro m' hm'
  rw [loaded_stopLocked, AList.lookup_erase] at hm'
  cases hm'

theorem reportFailure (hs : Uncut s) (hp : Polled s) (n reason : String)
    (src : Option InstanceId) (delay : Nat) :
    Uncut (s.reportFailure cfg n reason src delay) := by
  rw [hs.tends hp (Tends.reportFailure s n reason src delay)]
  intro m' hm' hrun
  cases hl : s.loaded.lookup n with
  | none =>
    rw [reportFailure_of_none cfg s n reason src delay hl, hl] at hm'
    cases hm'
  | some m =>
    obtain ⟨es, h⟩ := reportFailure_of_some cfg s n reason src delay hl
    rw [h] at hm'
    cases (AList.lookup_insert s.loaded).symm.trans hm'
    -- A module that has failed is parked or waits for its restart.
    simp only [failedEntry] at hrun
    split at hrun <;> cases hrun

theorem performScheduledRestart (hs : Uncut s) (hp : Polled s) (n : String) (o : Attempt) :
    Uncut (s.performScheduledRestart cfg n o) ↔
      ((∃ m ∈ s.loaded.lookup n, m.state = .running) → Attempt.Succeeds cfg n o) := by
  rw [hs.tends hp (Tends.performScheduledRestart s n o)]
  cases hl : s.loaded.lookup n with
  | none => simp [performScheduledRestart_of_none cfg s n o hl, hl]
  | some m =>
    by_cases ho : Attempt.Succeeds cfg n o
    · refine iff_of_true (fun m' hm' _ => ?_) fun _ => ho
      obtain ⟨es, h⟩ := performScheduledRestart_of_succeeds cfg s n hl ho
      rw [h] at hm' ⊢
      cases (AList.lookup_insert s.loaded).symm.trans hm'
      rw [List.mem_cons]
      rintro (he | hk)
      · exact (hp.made n m hl).ne' he
      · exact hp.nextToken_notMem hk
    · obtain ⟨reason, k, cs, es, -, h⟩ := performScheduledRestart_frame_of_not cfg s n hl ho
      rw [h, hl]
      constructor
      · rintro h ⟨m', hm', hrun⟩
        cases hm'
        exact absurd List.mem_cons_self (h m rfl hrun)
      · intro h m' hm' hrun
        exact absurd (h ⟨m', hm', hrun⟩) ho

theorem applyReport (hs : Uncut s) (hp : Polled s) (r : HealthReading) (delay : Nat) :
    Uncut (s.applyReport cfg r delay) ↔
      (r.report.level = .healthy → ∀ m ∈ s.loaded.lookup r.name, m.state = .degraded →
        m.healthCancel ∉ s.cancelled) := by
  cases hr : r.report.level with
  | unhealthy =>
    simp only [Supervisor.applyReport, hr]
    exact iff_of_true (hs.reportFailure hp _ _ _ _) fun h => absurd h (by decide)
  | degraded =>
    refine iff_of_true ?_ fun h => absurd h (by decide)
    rw [hs.tends hp (Tends.applyReport s r delay)]
    simp only [Supervisor.applyReport, hr, lookup_markDegraded]
    intro m' hm' hrun
    obtain ⟨m, -, rfl⟩ := Option.map_eq_some_iff.mp hm'
    cases hrun
  | healthy =>
    have hc : (s.restoreRunningIfDegraded r.name).cancelled = s.cancelled :=
      congrArg Polling.cancelled (polling_restoreRunningIfDegraded s r.name)
    rw [hs.tends hp (Tends.applyReport s r delay)]
    simp only [Supervisor.applyReport, hr, lookup_restoreRunningIfDegraded, hc, true_implies]
    constructor
    · intro h m hm hd
      have hm' := h _ (Option.map_eq_some_iff.mpr ⟨m, hm, rfl⟩)
      rw [if_pos hd] at hm'
      exact hm' rfl
    · intro h m' hm' hrun
      obtain ⟨m, hm, rfl⟩ := Option.map_eq_some_iff.mp hm'
      by_cases hd : m.state = .degraded
      · rw [if_pos hd]
        exact h m hm hd
      · rw [if_neg hd] at hrun ⊢
        exact hs r.name m hm hrun

end Uncut

theorem Polled.move (hp : Polled s) (hl : t.loaded = s.loaded) (hc : t.cancelled = s.cancelled)
    (hk : t.nextToken = s.nextToken)
    (hcov : ∀ x i k, k ∉ s.cancelled → s.polling.Covers x i k → t.polling.Covers x i k) :
    Polled t where
  made n m hm := by
    rw [hk]
    exact hp.made n m (hl ▸ hm)
  cancelled k h := by
    rw [hk]
    exact hp.cancelled k (hc ▸ h)
  distinct n x m m' hm hm' := hp.distinct n x m m' (hl ▸ hm) (hl ▸ hm')
  covered n m hm h := by
    rw [hc] at h
    exact hcov n m.inst m.healthCancel h (hp.covered n m (hl ▸ hm) h)

theorem Uncut.move (hs : Uncut s) (hl : t.loaded = s.loaded) (hc : t.cancelled = s.cancelled) :
    Uncut t := by
  intro n m hm
  rw [hc]
  exact hs n m (hl ▸ hm)

variable {x : String} {i : InstanceId} {k : TokenId}

theorem covers_pollWakes {p : HealthPoll} {report : HealthReport} (h : s.polling.Covers x i k) :
    Polling.Covers ⟨s.polls.erase p, s.readings ++ [⟨p.name, p.inst, p.cancel, report⟩],
      s.cancelled⟩ x i k := by
  rcases h with ⟨q, hq, h⟩ | ⟨r, hr, h⟩
  · by_cases hqp : q = p
    · subst hqp
      exact .inr ⟨_, List.mem_append_right _ (List.mem_singleton_self _), h⟩
    · exact .inl ⟨q, (List.mem_erase_of_ne hqp).mpr hq, h⟩
  · exact .inr ⟨r, List.mem_append_left _ hr, h⟩

theorem covers_pollApplies {r : HealthReading} {w : Nat} (h : s.polling.Covers x i k) :
    Polling.Covers ⟨s.polls ++ [⟨r.name, r.inst, r.cancel, w⟩], s.readings.erase r,
      s.cancelled⟩ x i k := by
  rcases h with ⟨p, hp, h⟩ | ⟨q, hq, h⟩
  · exact .inl ⟨p, List.mem_append_left _ hp, h⟩
  · by_cases hqr : q = r
    · subst hqr
      exact .inl ⟨_, List.mem_append_right _ (List.mem_singleton_self _), h⟩
    · exact .inr ⟨q, (List.mem_erase_of_ne hqr).mpr hq, h⟩

theorem covers_pollEnds {p : HealthPoll} (hp : p.cancel ∈ s.cancelled) (hk : k ∉ s.cancelled)
    (h : s.polling.Covers x i k) :
    Polling.Covers ⟨s.polls.erase p, s.readings, s.cancelled⟩ x i k := by
  rcases h with ⟨q, hq, h⟩ | h
  · refine .inl ⟨q, (List.mem_erase_of_ne ?_).mpr hq, h⟩
    rintro rfl
    exact hk (h.2.2 ▸ hp)
  · exact .inr h

end Polls

/-- Restarts of running modules succeed, and no reading revives a module without a poll loop. -/
def TendsRunning (cfg : SupervisorConfig) (s : Supervisor) : Action → Prop
  | .timerFires x o =>
    (∃ m ∈ s.loaded.lookup x.name, m.state = .running) → Attempt.Succeeds cfg x.name o
  | .pollApplies r _ =>
    r.report.level = .healthy → ∀ m ∈ s.loaded.lookup r.name, m.state = .degraded →
      m.healthCancel ∉ s.cancelled
  | _ => True

/-- **Poll loops go on matching the entries**, and running entries keep theirs exactly under the
condition. -/
theorem polled_step {cfg : SupervisorConfig} {s t : Supervisor} {a : Action} (hp : Polled s)
    (h : step cfg s a = some t) : Polled t ∧ (Uncut s → (Uncut t ↔ TendsRunning cfg s a)) := by
  cases acts_of_step h with
  | tick d | startEnabled | shutdown | timerAbandoned x =>
    exact ⟨hp.move rfl rfl rfl fun _ _ _ _ hc => hc,
      fun hs => iff_of_true (hs.move rfl rfl) trivial⟩
  | load n o saved =>
    exact ⟨hp.tends (.load s n o saved), fun hs => iff_of_true (hs.load hp n o saved) trivial⟩
  | unload n saved =>
    obtain ⟨names, file, hun⟩ := unload_frame s n saved
    rw [hun]
    exact ⟨(hp.tends (.stopLocked s n)).move rfl rfl rfl fun _ _ _ _ hcov => hcov,
      fun hs => iff_of_true ((hs.stopLocked hp n).move rfl rfl) trivial⟩
  | shutdownLocked =>
    have hall := shutdownLocked_induction (P := fun u => Polled u ∧ (Uncut s → Uncut u))
      (fun u n hu => ⟨hu.1.tends (.stopLocked u n), fun hs => (hu.2 hs).stopLocked hu.1 n⟩)
      (s := s) ⟨hp, id⟩
    exact ⟨hall.1, fun hs => iff_of_true (hall.2 hs) trivial⟩
  | reportFailure n reason delay =>
    exact ⟨hp.tends (.reportFailure s n reason none delay),
      fun hs => iff_of_true (hs.reportFailure hp n reason none delay) trivial⟩
  | timerFires x o =>
    have hp' : Polled (s.dropTimer x) := hp.move rfl rfl rfl fun _ _ _ _ hc => hc
    refine ⟨hp'.tends (.performScheduledRestart _ x.name o), fun hs => ?_⟩
    have hs' : Uncut (s.dropTimer x) := hs.move rfl rfl
    exact hs'.performScheduledRestart hp' x.name o
  | restartReports f delay =>
    have hp' : Polled (s.dropFailedRestart f) := hp.move rfl rfl rfl fun _ _ _ _ hc => hc
    refine ⟨hp'.tends (.reportFailure _ f.name f.reason (some f.old) delay), fun hs => ?_⟩
    have hs' : Uncut (s.dropFailedRestart f) := hs.move rfl rfl
    exact iff_of_true (hs'.reportFailure hp' _ _ _ _) trivial
  | pollWakes p report =>
    exact ⟨hp.move rfl rfl rfl fun _ _ _ _ hc => covers_pollWakes hc,
      fun hs => iff_of_true (hs.move rfl rfl) trivial⟩
  | pollApplies r delay =>
    -- The loop goes back to sleep first; the reading it applies is then any reading.
    rw [spawnHealthPoll_applyReport]
    have hp' : Polled (spawnHealthPoll cfg (s.dropReading r) r.name r.inst r.cancel) :=
      hp.move rfl rfl rfl fun _ _ _ _ hc => covers_pollApplies hc
    refine ⟨hp'.tends (.applyReport _ r delay), fun hs => ?_⟩
    have hs' : Uncut (spawnHealthPoll cfg (s.dropReading r) r.name r.inst r.cancel) :=
      hs.move rfl rfl
    exact hs'.applyReport hp' r delay
  | pollEnds p _ hc =>
    exact ⟨hp.move rfl rfl rfl fun _ _ _ hk hcov => covers_pollEnds hc hk hcov,
      fun hs => iff_of_true (hs.move rfl rfl) trivial⟩

end Penguind.Daemon
