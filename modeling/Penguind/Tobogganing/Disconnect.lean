import Mathlib.Data.List.Forall2
import Penguind.Tobogganing.StopClean

/-!
# What a disconnect command is worth

The module keeps no note of a disconnect command. To the monitor loop the tunnel has dropped, so
its next tick brings it up again; and a connect attempt that waits for a token goes on.
-/

namespace Penguind.Tobogganing

open Foundation TaskMachine

abbrev TaskPool := Pool World Effect Answer (Except ModuleError Unit) Mode

abbrev PoolLabel := TaskLabel Effect Answer TaskName

structure Watch where
  /-- The names of the tasks, in the order of the tasks. -/
  names : List TaskName
  /-- A disconnect command has reported success; no connect command was given and the module was
  not started since. -/
  disconnected : Bool

def starts : (e : Effect) → Answer e → Bool
  | .swapRunning true, (wasRunning : Bool) => !wasRunning
  | _, _ => false

def succeeded (p : TaskPool) (i : Nat) : Bool :=
  match p.tasks[i]? with
  | some ⟨_, .done (.ok _)⟩ => true
  | _ => false

def watch (p : TaskPool) (a : PoolLabel) (q : TaskPool) (s : Watch) : Watch :=
  match a with
  | .call n => ⟨s.names ++ [n], s.disconnected && n ≠ .cmdConnect⟩
  | .step i f =>
    match p.tasks[i]? with
    | some ⟨_, .effect e _⟩ =>
      ⟨s.names ++ forks e, (s.disconnected && !starts e (f e)) ||
        (s.names[i]? = some .cmdDisconnect && succeeded q i)⟩
    | _ => s

def watched (L : Lib) (cfg : ModuleConfig) :
    TaskPool × Watch → PoolLabel → Option (TaskPool × Watch) :=
  ghost (vpnTasks L cfg).step watch

def named (s : TaskPool × Watch) :
    List (TaskName × Task Effect Answer (Except ModuleError Unit) Mode) :=
  s.2.names.zip s.1.tasks

def raises : (e : Effect) → Answer e → Bool
  | .apply _ _, (.ok _ : Except String Unit) => true
  | _, _ => false

def bringsUp (s : TaskPool × Watch) : PoolLabel → Bool
  | .call _ => false
  | .step i f =>
    match (named s)[i]? with
    | some (n, ⟨_, .effect e _⟩) => !taskCallable n && raises e (f e)
    | _ => false

def TaskName.connects : TaskName → Bool
  | .initialConnect | .monitorLoop _ => true
  | _ => false

/-- While a disconnect stands, no background task is past the running check of a connect. -/
def Unattended (s : TaskPool × Watch) : Prop :=
  s.2.disconnected = true → ∀ x ∈ named s, x.1.connects = true → x.2.mode ≠ .working

instance (s : TaskPool × Watch) : Decidable (Unattended s) :=
  inferInstanceAs (Decidable (_ → ∀ x ∈ named s, _))

section

variable {L : Lib} {cfg : ModuleConfig}

def avoidsApply (_ : Unit) : (e : Effect) → Answer e → Option Unit
  | .apply _ _, _ => none
  | _, _ => some ()

theorem avoidsApply_authRefreshLoop (cancel : CancelToken) :
    Stays avoidsApply () (authRefreshLoop L cfg cancel) := by
  refine .bind (.call fun _ => rfl) fun selected => ?_
  split
  · exact .pure ()
  · refine .bind (stays_authRefreshTick fun e r he => ?_) fun _ => .call fun _ => rfl
    cases e <;> first | rfl | cases he

variable (L cfg) in
def Keeps (n : TaskName) (t : Task Effect Answer (Except ModuleError Unit) Mode) : Prop :=
  (vpnTasks L cfg).Follows t.mode t.rest ∧
    (n.connects = false → taskCallable n = false → Tracks avoidsApply (fun _ _ => True) t.rest ())

theorem keeps_start (n : TaskName) : Keeps L cfg n ((vpnTasks L cfg).start n) := by
  refine ⟨follows_code n, fun hconnects hcallable => ?_⟩
  cases n with
  | start | stop | cmdConnect | cmdDisconnect => cases hcallable
  | initialConnect | monitorLoop => cases hconnects
  | authRefreshLoop cancel =>
    exact Tracks.mono (avoidsApply_authRefreshLoop cancel) fun _ _ _ => trivial

theorem keeps_next {n : TaskName} {m : Mode} {e : Effect}
    {k : Answer e → Prog Effect Answer (Except ModuleError Unit)}
    (h : Keeps L cfg n ⟨m, .effect e k⟩) (r : Answer e) :
    Keeps L cfg n ⟨((vpnTasks L cfg).next m e r).getD m, k r⟩ := by
  obtain ⟨hfollows, havoids⟩ := h
  obtain ⟨m', hm', hrest⟩ := hfollows r
  refine ⟨?_, fun hconnects hcallable => ?_⟩
  · rw [hm']
    exact hrest
  · obtain ⟨_, _, hrest⟩ := havoids hconnects hcallable r
    exact hrest

theorem working_of_apply {m m' : Mode} {interface : String} {spec : TunnelSpec}
    {r : Answer (.apply interface spec)} (h : m.next (.apply interface spec) r = some m') :
    m = .working := by
  cases m with
  | working => rfl
  | quiet | stop => cases h

theorem forall₂_set {A B : Type} {P : A → B → Prop} {as : List A} {bs : List B} {i : Nat} {b b' : B}
    (h : List.Forall₂ P as bs) (hi : bs[i]? = some b) (hb : ∀ a, P a b → P a b') :
    List.Forall₂ P as (bs.set i b') := by
  induction h generalizing i with
  | nil => exact .nil
  | cons hab h ih =>
    cases i with
    | zero =>
      cases hi
      exact .cons (hb _ hab) h
    | succ i => exact .cons hab (ih hi)

theorem keeps_step {s t : TaskPool × Watch} {a : PoolLabel}
    (h : List.Forall₂ (Keeps L cfg) s.2.names s.1.tasks) (ht : watched L cfg s a = some t) :
    List.Forall₂ (Keeps L cfg) t.2.names t.1.tasks := by
  obtain ⟨q, hq, rfl⟩ := ghost_eq_some.mp ht
  revert hq
  fun_cases (vpnTasks L cfg).step s.1 a with intro hq
  | case1 n =>
    cases hq
    exact List.rel_append h (.cons (keeps_start n) .nil)
  | case3 i f m e k hi =>
    obtain ⟨w, -, rfl⟩ := Option.map_eq_some_iff.mp hq
    simp only [watch, hi]
    refine List.rel_append (forall₂_set h hi fun n hn => keeps_next hn (f e)) ?_
    exact List.forall₂_map_right_iff.mpr (List.forall₂_same.mpr fun n _ => keeps_start n)
  | _ => cases hq

/-- **A disconnect command stands** while no background task is past its running check. -/
theorem disconnect_stands {w : World} {as : List PoolLabel}
    (hC : Along (watched L cfg) (fun s _ => Unattended s) (⟨w, []⟩, ⟨[], false⟩) as) :
    Along (watched L cfg) (fun s a => s.2.disconnected = true → bringsUp s a = false)
      (⟨w, []⟩, ⟨[], false⟩) as := by
  refine along_of_invariant (I := fun s => List.Forall₂ (Keeps L cfg) s.2.names s.1.tasks)
    (fun s a t h _ ht => keeps_step h ht) (fun s a h hC hdisconnected => ?_) .nil hC
  fun_cases bringsUp s a with (try rfl)
  | case2 i f n m e k hi =>
    refine Bool.eq_false_iff.mpr fun h' => ?_
    obtain ⟨hcallable, hraises⟩ : taskCallable n = false ∧ raises e (f e) = true := by
      simpa using h'
    have hmem : (n, ⟨m, .effect e k⟩) ∈ named s := List.mem_of_getElem? hi
    obtain ⟨hfollows, havoids⟩ := (List.forall₂_iff_zip.mp h).2 hmem
    cases e with
    | apply interface spec =>
      obtain ⟨m', hm', -⟩ := hfollows (f _)
      cases hconnects : n.connects with
      | true => exact hC hdisconnected _ hmem hconnects (working_of_apply hm')
      | false => obtain ⟨_, ⟨⟩, -⟩ := havoids hconnects hcallable (f _)
    | _ => cases hraises

end

def connectThenDisconnect : List PoolLabel :=
  starting ++ steps 3 1 (replies true default default) ++ connecting ++
    .call .cmdDisconnect :: steps 4 5 (replies true obtained ⟨true, some 7⟩)

theorem disconnect_stands_at_first :
    let as := connectThenDisconnect ++ [.call .stop]
    (∃ t, run (watched plainLib plainConfig) (⟨freshWorld, []⟩, ⟨[], false⟩) as = some t ∧
      t.2.disconnected = true) ∧
    Along (watched plainLib plainConfig) (fun s a => s.2.disconnected = true → bringsUp s a = false)
      (⟨freshWorld, []⟩, ⟨[], false⟩) as :=
  ⟨exists_run (by decide +kernel), disconnect_stands (by decide +kernel)⟩

/-- **The monitor loop undoes a disconnect command.** -/
theorem monitor_reconnects :
    let as := connectThenDisconnect ++ steps 1 21 (replies true obtained default)
    freshWorld.Initial ∧
      ¬ Along (watched plainLib plainConfig)
        (fun s a => s.2.disconnected = true → bringsUp s a = false)
        (⟨freshWorld, []⟩, ⟨[], false⟩) as ∧
      ∃ t, run (watched plainLib plainConfig) (⟨freshWorld, []⟩, ⟨[], false⟩) as = some t ∧
        (t.2.disconnected = true ∧ t.1.world.vpn.connected = true) :=
  ⟨⟨rfl, rfl, rfl⟩, by decide +kernel, exists_run (by decide +kernel)⟩

end Penguind.Tobogganing
