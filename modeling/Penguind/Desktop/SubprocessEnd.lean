import Penguind.Desktop.Executors

/-!
# Processes that outlive their execution

When an executor returns, the process it has started should no longer be running.
-/

namespace Penguind.Desktop

open Foundation Extplugin

def Execution.EndedAtReturn (x : Execution) : Prop :=
  ∀ st ∈ x.started, ∀ r ∈ x.returned, st.child.EndedBy r.1

/-- The process has ended when writing fails, or when the runtime looks after it. -/
structure EndsInTime (rt : Runtime) (timeout : Int32) (child : Child) : Prop where
  write_failed : ∀ t source, child.written = some (t, .error source) → child.EndedBy t
  not_waited : ∀ t, child.written = some (t, .ok ()) →
    (∃ t' out, child.waited = some (t', .ok out) ∧ t' ≤ looksAt rt timeout child t) ∨
      child.EndedBy (looksAt rt timeout child t)

theorem Child.EndedBy.mono {c : Child} {t t' : Time} (h : c.EndedBy t) (ht : t ≤ t') :
    c.EndedBy t' := by
  obtain ⟨e, he, hle⟩ := h
  exact ⟨e, he, Nat.le_trans hle ht⟩

theorem endedBy_finish_iff (rt : Runtime) (timeout : Int32) (child : Child) :
    (∀ r ∈ ScriptExecutor.finish rt timeout child, child.EndedBy r.1) ↔
      EndsInTime rt timeout child := by
  unfold ScriptExecutor.finish
  constructor
  · intro h
    refine ⟨fun t source hw => ?_, fun t hw => .inr ?_⟩
    · rw [hw] at h
      exact h _ rfl
    · rw [hw] at h
      exact h _ rfl
  · rintro h ⟨t', result⟩ hr
    -- Either the write never ends and nothing is returned, or it fails, or the wait begins.
    rcases hw : child.written with _ | ⟨t, source | u⟩
    · rw [hw] at hr
      cases hr
    · rw [hw] at hr
      cases hr
      exact h.write_failed _ source hw
    · rw [hw] at hr
      cases hr
      rcases h.not_waited t hw with ⟨t₁, out, hout, hle⟩ | hended
      · -- waiting has succeeded, so the process had ended before
        exact Child.EndedBy.mono (child.ended_of_waited t₁ out hout) hle
      · exact hended

theorem endedAtReturn_script_iff (parent : Env) (w : ScriptExecutor.World)
    (action : ActionRequest) :
    (ScriptExecutor.execute parent w action).EndedAtReturn ↔
      ∀ command script child, ScriptExecutor.prepare parent w action = .ok (command, script) →
        w.spawn command = .ok child → EndsInTime w.runtime action.timeout child := by
  unfold ScriptExecutor.execute Execution.EndedAtReturn
  -- An action that is refused starts nothing, and the condition asks nothing of it.
  cases hp : ScriptExecutor.prepare parent w action with
  | error e =>
    constructor
    · rintro - _ _ _ ⟨⟩
    · rintro - _ ⟨⟩
  | ok x =>
    obtain ⟨command, script⟩ := x
    cases hs : w.spawn command with
    | error source =>
      constructor
      · rintro - _ _ child ⟨⟩ hchild
        rw [hs] at hchild
        cases hchild
      · simp only [hs]
        rintro - _ ⟨⟩
    | ok child =>
      simp only [hs]
      constructor
      · rintro h _ _ child' ⟨⟩ hchild
        cases hs.symm.trans hchild
        exact (endedBy_finish_iff _ _ _).mp (h _ rfl)
      · rintro h _ ⟨⟩
        exact (endedBy_finish_iff _ _ _).mpr (h command script child rfl hs)

/-! ## Signed binaries -/

namespace SignedExecutor

variable {K S : Type}

theorem node_writeFile_of_ne {h : Host} {path : PathBuf} {info : FileMeta} {content : Bytes}
    {l : Location Char} (hl : l ≠ h.locate path) :
    (writeFile h path info content).node l = h.node l :=
  Function.update_of_ne hl _ _

def staged (d : FreshDir) (binaryInfo manifestInfo : FileMeta) (binary manifest : Bytes) : Host :=
  writeFile (writeFile d.host (unix.join d.path "binary".toList) binaryInfo binary)
    (unix.join d.path "plugin.json".toList) manifestInfo manifest

theorem locate_join_plain (d : FreshDir) {name : String}
    (h : unix.descent name.toList = some [name.toList]) :
    d.host.locate (unix.join d.path name.toList) = d.host.locate d.path ++ [name.toList] :=
  unix.locate_join_of_descent h d.host.cwd d.path

theorem node_staged (d : FreshDir) (binaryInfo manifestInfo : FileMeta) (binary manifest : Bytes)
    (a b : List Char) :
    ∃ source, (staged d binaryInfo manifestInfo binary manifest).node
      (d.host.locate d.path ++ [a, b]) = .error source := by
  have hbinary := locate_join_plain d (by decide : unix.descent "binary".toList = _)
  have hmanifest := locate_join_plain d (by decide : unix.descent "plugin.json".toList = _)
  obtain ⟨source, hsource⟩ := d.fresh _ (List.prefix_append _ [a, b]) (by simp)
  refine ⟨source, ?_⟩
  -- both files are one level below, so neither write has changed what was there
  unfold staged
  rw [node_writeFile_of_ne, node_writeFile_of_ne, hsource]
  · rw [hbinary]
    exact fun h => absurd (congrArg List.length h) (by simp)
  · show _ ≠ d.host.locate _
    rw [hmanifest]
    exact fun h => absurd (congrArg List.length h) (by simp)

theorem read_below_manifest (d : FreshDir) (binaryInfo manifestInfo : FileMeta)
    (binary manifest : Bytes) :
    ∃ source, (staged d binaryInfo manifestInfo binary manifest).read
        (unix.join (unix.join d.path "plugin.json".toList) "plugin.json".toList) =
      .error source := by
  have hplain : unix.descent "plugin.json".toList = some ["plugin.json".toList] := by decide
  have hbelow : (staged d binaryInfo manifestInfo binary manifest).locate
      (unix.join (unix.join d.path "plugin.json".toList) "plugin.json".toList) =
        d.host.locate d.path ++ ["plugin.json".toList, "plugin.json".toList] := by
    show d.host.locate _ = _
    rw [Host.locate, unix.locate_join_of_descent hplain, ← Host.locate,
      locate_join_plain d hplain, List.append_assoc]
    rfl
  obtain ⟨source, hnode⟩ := node_staged d binaryInfo manifestInfo binary manifest
    "plugin.json".toList "plugin.json".toList
  refine ⟨source, ?_⟩
  unfold Host.read
  rw [hbelow, hnode]

theorem ends_of_checked {ε α : Type} {text : String} {display : ε → String} {x : HostM ε α} {a : α}
    (h : checked text display x = .ok a) : ∃ l, HostM.Ends x [] a l := by
  unfold checked at h
  split at h
  next a' hok =>
    cases h
    exact ⟨_, Prod.ext hok rfl⟩
  next => cases h

theorem prepare_ne_ok (L : Lib K S) (w : World) (action : ActionRequest) (command : Command) :
    prepare L w action ≠ .ok command := by
  intro h
  -- Every step before the manifest is loaded may have succeeded.
  obtain ⟨binaryB64, -, h⟩ := bind_eq_ok h
  obtain ⟨manifestJson, -, h⟩ := bind_eq_ok h
  obtain ⟨binaryBytes, -, h⟩ := bind_eq_ok h
  obtain ⟨staging, -, h⟩ := bind_eq_ok h
  obtain ⟨_, -, h⟩ := bind_eq_ok h
  obtain ⟨binaryInfo, -, h⟩ := bind_eq_ok h
  obtain ⟨manifestBytes, -, h⟩ := bind_eq_ok h
  obtain ⟨manifestInfo, -, h⟩ := bind_eq_ok h
  obtain ⟨manifest, hload, -⟩ := bind_eq_ok h
  obtain ⟨source, hread⟩ := read_below_manifest staging binaryInfo manifestInfo binaryBytes
    manifestBytes
  obtain ⟨l, hends⟩ := ends_of_checked hload
  obtain ⟨⟨data, hdata, -⟩, -⟩ := ends_loadManifest.mp hends
  cases hread.symm.trans hdata

theorem started_eq_none (L : Lib K S) (w : World) (action : ActionRequest) :
    (execute L w action).started = none := by
  unfold execute
  cases h : prepare L w action with
  | error e => rfl
  | ok command => exact absurd h (prepare_ne_ok L w action command)

end SignedExecutor

/-- **What an executor leaves behind**: no signed binary, and no script exactly if it ends in time.
-/
theorem ended_at_return_iff {K S : Type} (L : SignedExecutor.Lib K S)
    (signed : SignedExecutor.World) (parent : Env) (w : ScriptExecutor.World)
    (action : ActionRequest) :
    (SignedExecutor.execute L signed action).EndedAtReturn ∧
      ((ScriptExecutor.execute parent w action).EndedAtReturn ↔
        ∀ command script child, ScriptExecutor.prepare parent w action = .ok (command, script) →
          w.spawn command = .ok child → EndsInTime w.runtime action.timeout child) := by
  refine ⟨fun st hst => ?_, endedAtReturn_script_iff parent w action⟩
  rw [SignedExecutor.started_eq_none] at hst
  cases hst

def sleeper : Child where
  ends := some 3600000
  written := some (5, .ok ())
  waited := some (3600000, .ok ⟨some 0, [], []⟩)
  ended_of_waited := by
    rintro t out ⟨⟩
    exact ⟨_, rfl, Nat.le_refl _⟩

def sleepWorld : ScriptExecutor.World where
  workDir := .ok "/tmp/w".toList
  spawn _ := .ok sleeper
  runtime := ⟨1000, 0, false⟩

def sleepAction : ActionRequest where
  id := "act_1"
  type := "bash"
  parameters := .object [("source", .string "sleep 3600")]
  userId := "u"
  communityId := "c"
  timeout := 1

theorem sleeper_outlives_timeout :
    (ScriptExecutor.execute (fun _ => none) sleepWorld sleepAction).returned =
        some (1005, .error (.internal "subprocess timeout")) ∧
      ¬ (ScriptExecutor.execute (fun _ => none) sleepWorld sleepAction).EndedAtReturn := by
  refine ⟨rfl, fun h => ?_⟩
  obtain ⟨e, he, hle⟩ := h _ rfl _ rfl
  cases he
  exact absurd hle (by decide)

end Penguind.Desktop
