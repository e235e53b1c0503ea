import Penguind.Tobogganing.Tokens

/-!
# A revocation among obtains and refreshes

A revocation reads the token under the lock, releases it, asks the manager to revoke, and takes
the lock again to clear whatever tokens are there. What was read and what has replaced it is noted
for the statements.
-/

namespace Penguind.Tobogganing

open Foundation

/-! ## The interleavings -/

inductive Place
  | memory
  | store
  deriving DecidableEq, Repr

def TokenState.get (state : TokenState) : SecretKey → Option String
  | .accessToken => if state.accessToken = "" then none else some state.accessToken
  | .refreshToken => if state.refreshToken = "" then none else some state.refreshToken
  | .apiKey => none

def World.cached (w : World) : Place → SecretKey → Option String
  | .memory => w.auth.get
  | .store => w.secrets

inductive RenewOp
  | ensureValidToken
  | refreshToken
  deriving DecidableEq, Repr

def RenewOp.code (L : Lib) (cfg : ModuleConfig) : RenewOp → Prog Effect Answer Unit
  | .ensureValidToken => Prog.bind (AuthManager.ensureValidToken L cfg) fun _ => .done ()
  | .refreshToken => Prog.bind (AuthManager.refreshToken L cfg) fun _ => .done ()

/-- The notes are the tokens read, and what each copy held then or was given since. -/
structure Overlap where
  world : World
  revocation : Prog Effect Answer (Except AuthError Unit)
  others : List (Prog Effect Answer Unit)
  seen : TokenState
  given : Place → SecretKey → Option String

inductive OverlapLabel
  | call (op : RenewOp)
  | renew (i : Nat) (f : (e : Effect) → Answer e)
  | revoke (f : (e : Effect) → Answer e)

namespace Overlap

def start (cfg : ModuleConfig) (w : World) : Overlap where
  world := w
  revocation := AuthManager.revokeToken cfg
  others := []
  seen := default
  given := w.cached

def afterRevoke (s : Overlap) (w : World) (rest : Prog Effect Answer (Except AuthError Unit)) :
    Effect → Overlap
  | .readAuth => { s with
    world := w
    revocation := rest
    seen := w.auth
    given := w.cached }
  | _ => { s with
    world := w
    revocation := rest }

def afterRenew (s : Overlap) (w : World) (others : List (Prog Effect Answer Unit)) : Overlap :=
  { s with
    world := w
    others := others
    given := fun p k =>
      if w.cached p k = s.world.cached p k then s.given p k else w.cached p k }

variable (L : Lib) (cfg : ModuleConfig)

def step (s : Overlap) : OverlapLabel → Option Overlap
  | .call op => some { s with others := s.others ++ [op.code L cfg] }
  | .renew i f =>
    match s.others[i]? with
    | some (.effect e k) =>
      (act s.world e (f e)).map fun w => s.afterRenew w (s.others.set i (k (f e)))
    | some (.done _) | none => none
  | .revoke f =>
    match s.revocation with
    | .effect e k => (act s.world e (f e)).map fun w => s.afterRevoke w (k (f e)) e
    | .done _ => none

def Spares (s : Overlap) : OverlapLabel → Prop
  | .revoke f => ∀ t, s.step L cfg (.revoke f) = some t → ∀ p k,
      t.world.cached p k ≠ s.world.cached p k → s.world.cached p k = s.seen.get k
  | .call _ | .renew _ _ => True

def StillCached (s : Overlap) : Prop :=
  ∀ p k, s.given p k ≠ s.seen.get k → s.world.cached p k = s.given p k

/-- **The condition.** Since the revocation read its token, no operation has replaced it. -/
def Undisturbed (s : Overlap) : OverlapLabel → Prop
  | .revoke f => ∀ t, s.step L cfg (.revoke f) = some t → ∀ p k,
      t.world.cached p k ≠ s.world.cached p k → s.given p k = s.seen.get k
  | .call _ | .renew _ _ => True

end Overlap

def Revokes : Effect → Prop
  | .lockAuth | .unlockAuth | .readAuth | .http _ | .deleteSecret _ => True
  | .writeAuth state => state = default
  | _ => False

theorem uses_withAuth {ε A : Type} {S : Effect → Prop} {body : Op ε A} (hlock : S .lockAuth)
    (hunlock : S .unlockAuth) (hbody : Prog.Uses S body) : Prog.Uses S (withAuth body) := by
  refine uses_bindE (uses_call hlock) fun _ => uses_bindE (uses_attempt hbody) fun result => ?_
  refine uses_bindE (uses_call hunlock) fun _ => ?_
  cases result with
  | ok a => exact trivial
  | error err => exact trivial

theorem uses_revokeToken (cfg : ModuleConfig) :
    Prog.Uses Revokes (AuthManager.revokeToken cfg) := by
  refine uses_bindE (uses_withAuth trivial trivial ?_) fun token => ?_
  · exact uses_bindE (uses_call trivial) fun _ => trivial
  split_ifs
  · exact trivial
  refine uses_bindE (uses_call trivial) fun reply => uses_bindE ?_ fun _ => ?_
  · cases AuthManager.readRevokeReply reply with
    | ok u => exact trivial
    | error err => exact trivial
  refine uses_bindE (uses_withAuth trivial trivial (uses_call rfl)) fun _ => ?_
  exact uses_bindE (uses_call trivial) fun _ => uses_bindE (uses_call trivial) fun _ => trivial

theorem cached_act {w t : World} {e : Effect} {a : Answer e} (he : Revokes e)
    (ht : act w e a = some t) (p : Place) (k : SecretKey) :
    t.cached p k = w.cached p k ∨ t.cached p k = none := by
  cases e with
  | lockAuth =>
    simp only [act, Option.ite_none_left_eq_some, Option.some.injEq] at ht
    obtain ⟨-, rfl⟩ := ht
    cases p <;> exact .inl rfl
  | unlockAuth | http =>
    cases ht
    cases p <;> exact .inl rfl
  | readAuth =>
    obtain ⟨-, h⟩ := Option.ite_none_right_eq_some.mp ht
    cases h
    exact .inl rfl
  | writeAuth state =>
    cases he
    cases ht
    cases p with
    | memory => cases k <;> exact .inr rfl
    | store => exact .inl rfl
  | deleteSecret key =>
    cases a with
    | error err =>
      cases ht
      exact .inl rfl
    | ok u =>
      cases ht
      cases p with
      | memory => exact .inl rfl
      | store =>
        by_cases hkey : k = key
        · right
          subst hkey
          exact Function.update_self ..
        · exact .inl (Function.update_of_ne hkey ..)
  | _ => exact he.elim

namespace Overlap

variable {L : Lib} {cfg : ModuleConfig} {s t : Overlap}

/-- Each copy is what the notes say, unless its revoked token was taken away. -/
structure Noted (s : Overlap) : Prop where
  uses : Prog.Uses Revokes s.revocation
  cached : ∀ p k, s.world.cached p k = s.given p k ∨
    s.world.cached p k = none ∧ s.given p k = s.seen.get k

theorem noted_start (w : World) : (start cfg w).Noted :=
  ⟨uses_revokeToken cfg, fun _ _ => .inl rfl⟩

variable {f : (e : Effect) → Answer e}

theorem revoke_eq_some (ht : s.step L cfg (.revoke f) = some t) :
    ∃ e k w, s.revocation = .effect e k ∧ act s.world e (f e) = some w ∧
      t = s.afterRevoke w (k (f e)) e := by
  simp only [step] at ht
  split at ht
  · next e k hrest =>
    obtain ⟨w, hw, rfl⟩ := Option.map_eq_some_iff.mp ht
    exact ⟨e, k, w, hrest, hw, rfl⟩
  · cases ht

theorem world_afterRevoke (s : Overlap) (w : World)
    (rest : Prog Effect Answer (Except AuthError Unit)) (e : Effect) :
    (s.afterRevoke w rest e).world = w ∧ (s.afterRevoke w rest e).revocation = rest := by
  cases e <;> exact ⟨rfl, rfl⟩

theorem renew_eq_some {i : Nat} (ht : s.step L cfg (.renew i f) = some t) :
    ∃ w others, t = s.afterRenew w others := by
  simp only [step] at ht
  split at ht
  · obtain ⟨w, -, rfl⟩ := Option.map_eq_some_iff.mp ht
    exact ⟨w, _, rfl⟩
  · cases ht
  · cases ht

theorem Noted.taken (h : s.Noted) (ht : s.step L cfg (.revoke f) = some t) (p : Place)
    (k : SecretKey) : t.world.cached p k = s.world.cached p k ∨ t.world.cached p k = none := by
  obtain ⟨e, rest, w, hrest, hw, rfl⟩ := revoke_eq_some ht
  have he : Revokes e := by
    have huses := h.uses
    rw [hrest] at huses
    exact huses.1
  rw [(world_afterRevoke ..).1]
  exact cached_act he hw p k

theorem Noted.cached_of_taken (h : s.Noted) (ht : s.step L cfg (.revoke f) = some t) {p : Place}
    {k : SecretKey} (hne : t.world.cached p k ≠ s.world.cached p k) :
    s.world.cached p k = s.given p k := by
  have hnone := (h.taken ht p k).resolve_left hne
  refine (h.cached p k).resolve_right fun hgone => ?_
  exact hne (hnone.trans hgone.1.symm)

theorem Noted.undisturbed_iff (h : s.Noted) (a : OverlapLabel) :
    s.Undisturbed L cfg a ↔ s.Spares L cfg a := by
  cases a with
  | call | renew => exact Iff.rfl
  | revoke f =>
    refine forall₂_congr fun t ht => forall₃_congr fun p k hne => ?_
    rw [h.cached_of_taken ht hne]

theorem Noted.step (h : s.Noted) {a : OverlapLabel} (hC : s.Undisturbed L cfg a)
    (ht : s.step L cfg a = some t) : t.Noted := by
  cases a with
  | call op =>
    cases ht
    exact ⟨h.uses, h.cached⟩
  | renew i f =>
    obtain ⟨w, others, rfl⟩ := renew_eq_some ht
    refine ⟨h.uses, fun p k => ?_⟩
    by_cases hsame : w.cached p k = s.world.cached p k
    · simp only [afterRenew, hsame, if_true]
      exact h.cached p k
    · simp only [afterRenew, hsame, if_false, true_or]
  | revoke f =>
    have hgiven : ∀ p k, t.world.cached p k = s.given p k ∨
        t.world.cached p k = none ∧ s.given p k = s.seen.get k := by
      intro p k
      by_cases hsame : t.world.cached p k = s.world.cached p k
      · rw [hsame]
        exact h.cached p k
      · exact .inr ⟨(h.taken ht p k).resolve_left hsame, hC t ht p k hsame⟩
    obtain ⟨e, rest, w, hrest, hw, rfl⟩ := revoke_eq_some ht
    refine ⟨?_, ?_⟩
    · have huses := h.uses
      rw [hrest] at huses
      rw [(world_afterRevoke ..).2]
      exact huses.2 (f e)
    · cases e with
      -- the reading of the token begins the notes anew
      | readAuth => exact fun _ _ => .inl rfl
      | _ => exact hgiven

end Overlap

/-- **A revocation takes only revoked tokens** exactly if it is undisturbed. -/
theorem spares_iff (L : Lib) (cfg : ModuleConfig) {w : World} {labels : List OverlapLabel}
    {s : Overlap} (hr : run (Overlap.step L cfg) (.start cfg w) labels = some s) :
    Along (Overlap.step L cfg) (Overlap.Spares L cfg) (.start cfg w) labels ∧ s.StillCached ↔
      Along (Overlap.step L cfg) (Overlap.Undisturbed L cfg) (.start cfg w) labels := by
  have hkeep : ∀ (s : Overlap) a t, s.Noted → s.Undisturbed L cfg a → s.step L cfg a = some t →
      t.Noted := fun _ _ _ h hC ht => h.step hC ht
  have hiff := along_congr (fun _ a _ h _ => h.undisturbed_iff a) hkeep
    (Overlap.noted_start w) hr
  rw [← hiff]
  refine and_iff_left_of_imp fun halong p k hother => ?_
  have hnoted := run_invariant hkeep (Overlap.noted_start w) halong hr
  exact (hnoted.cached p k).resolve_right fun hgone => hother hgone.2

def expiredTokens : World := { staleTokens with auth := ⟨"stale", "old refresh", -1⟩ }

def revoking (n : Nat) : List OverlapLabel :=
  List.replicate n (.revoke (replies true expiredTokens.auth default))

theorem revoking_spares_iff :
    ∃ s, run (Overlap.step plainLib plainConfig) (.start plainConfig expiredTokens)
        (revoking 9) = some s ∧
      (Along (Overlap.step plainLib plainConfig) (Overlap.Spares plainLib plainConfig)
          (.start plainConfig expiredTokens) (revoking 9) ∧ s.StillCached ↔
        Along (Overlap.step plainLib plainConfig) (Overlap.Undisturbed plainLib plainConfig)
          (.start plainConfig expiredTokens) (revoking 9)) :=
  ⟨_, (Option.some_get (by decide +kernel)).symm,
    spares_iff plainLib plainConfig (Option.some_get (by decide +kernel)).symm⟩

def refreshedMeanwhile : List OverlapLabel :=
  revoking 3 ++ .call .ensureValidToken ::
    List.replicate 7 (.renew 0 (replies true expiredTokens.auth default)) ++ revoking 6

/-- **A token that was never revoked is discarded.** -/
theorem refreshed_token_discarded :
    ∃ s, run (Overlap.step plainLib plainConfig) (.start plainConfig expiredTokens)
        refreshedMeanwhile = some s ∧
      s.revocation = .done (.ok ()) ∧ s.others = [.done ()] ∧
      s.seen.accessToken = "stale" ∧ s.given .memory .accessToken = some "token" ∧
      s.given .store .accessToken = some "token" ∧ s.world.cached .memory .accessToken = none ∧
      s.world.cached .store .accessToken = none ∧ ¬ s.StillCached := by
  let s := (run (Overlap.step plainLib plainConfig) (.start plainConfig expiredTokens)
    refreshedMeanwhile).get (by decide +kernel)
  have hgiven : s.given .memory .accessToken = some "token" := by decide +kernel
  have hgone : s.world.cached .memory .accessToken = none := by decide +kernel
  refine ⟨s, (Option.some_get _).symm, rfl, rfl, by decide +kernel, hgiven, by decide +kernel,
    hgone, by decide +kernel, fun h => ?_⟩
  have hcached := h .memory .accessToken (by decide +kernel)
  rw [hgiven, hgone] at hcached
  cases hcached

end Penguind.Tobogganing
