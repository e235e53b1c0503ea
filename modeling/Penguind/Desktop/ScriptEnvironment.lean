import Penguind.Desktop.Executors

/-!
# The environment of a script

A script is to see `PATH`, `HOME`, `LANG` and three variables the hub may set; of the environment
of the process it is to depend on `HOME` alone.
-/

namespace Penguind.Desktop

open Foundation ScriptExecutor

def scriptVars : List String := ["PATH", "HOME", "LANG"] ++ allowedEnvKeys

structure Confined (env : Env) : Prop where
  names : ∀ n, env n ≠ none → ∃ name ∈ scriptVars, n = .text name
  path : env (.text "PATH") = some (.text "/usr/local/bin:/usr/bin:/bin")
  lang : env (.text "LANG") = some (.text "en_US.UTF-8")

/-- For two environments of the desktop process and those the script gets. -/
structure NoLeak (p₁ p₂ e₁ e₂ : Env) : Prop where
  confined₁ : Confined e₁
  confined₂ : Confined e₂
  same : p₁ (.text "HOME") = p₂ (.text "HOME") → e₁ = e₂

def hubValue (parameters : Value) (name : String) : Option String :=
  addHubVars parameters (fun _ => none) name

/-- The environments agree but for what the script is not given. -/
structure NothingToLeak (parameters : Value) (p₁ p₂ : Env) : Prop where
  names₁ : ∀ n, p₁ n ≠ none → ∃ name ∈ scriptVars, n = .text name
  names₂ : ∀ n, p₂ n ≠ none → ∃ name ∈ scriptVars, n = .text name
  same : p₁ (.text "HOME") = p₂ (.text "HOME") → ∀ name ∈ allowedEnvKeys,
    hubValue parameters name = none → p₁ (.text name) = p₂ (.text name)

theorem eq_none_of_other {env : Env} {n : OsString}
    (h : ∀ n, env n ≠ none → ∃ name ∈ scriptVars, n = .text name)
    (hn : ∀ name ∈ scriptVars, n ≠ .text name) : env n = none := by
  by_contra hsome
  obtain ⟨name, hmem, heq⟩ := h n hsome
  exact hn name hmem heq

/-! ## The variables one by one -/

theorem EnvMap.insert_apply (env : EnvMap) (name value n : String) :
    env.insert name value n = if n = name then some value else env n :=
  Function.update_apply env name (some value) n

theorem addHubVar_apply (env : EnvMap) (field : String × Value) (n : String) :
    addHubVar env field n = (addHubVar (fun _ => none) field n).or (env n) := by
  unfold addHubVar
  split
  · cases field.2.asStr with
    | none => rfl
    | some value =>
      simp only [EnvMap.insert_apply]
      split <;> rfl
  · rfl

theorem foldl_addHubVar (fields : List (String × Value)) (env : EnvMap) (n : String) :
    fields.foldl addHubVar env n = (fields.foldl addHubVar (fun _ => none) n).or (env n) := by
  induction fields generalizing env with
  | nil => rfl
  | cons field fields ih =>
    -- The start is generalised: a later field overrides an earlier one, and both the start.
    rw [List.foldl_cons, List.foldl_cons, ih (addHubVar env field),
      ih (addHubVar (fun _ => none) field), addHubVar_apply, Option.or_assoc]

theorem addHubVars_apply (parameters : Value) (env : EnvMap) (n : String) :
    addHubVars parameters env n = (hubValue parameters n).or (env n) := by
  unfold hubValue addHubVars
  cases parameters.get "env" with
  | none => rfl
  | some vars => exact foldl_addHubVar vars.fields env n

theorem foldl_addHubVar_of_notMem {n : String} (hn : n ∉ allowedEnvKeys)
    (fields : List (String × Value)) : fields.foldl addHubVar (fun _ => none) n = none := by
  induction fields with
  | nil => rfl
  | cons field fields ih =>
    rw [List.foldl_cons, foldl_addHubVar, ih, Option.none_or]
    unfold addHubVar
    split
    next hmem =>
      cases field.2.asStr with
      | none => rfl
      | some value =>
        have hne : n ≠ field.1 := fun heq => hn (heq ▸ hmem)
        simp only [EnvMap.insert_apply, if_neg hne]
    next => rfl

theorem hubValue_of_notMem {n : String} (hn : n ∉ allowedEnvKeys) (parameters : Value) :
    hubValue parameters n = none := by
  unfold hubValue addHubVars
  cases parameters.get "env" with
  | none => rfl
  | some vars => exact foldl_addHubVar_of_notMem hn vars.fields

theorem buildEnv_apply (parent : Env) (parameters : Value) (n : String) :
    buildEnv parent parameters n = (hubValue parameters n).or
      (if n = "LANG" then some "en_US.UTF-8"
       else if n = "HOME" then parent.var "HOME"
       else if n = "PATH" then some "/usr/local/bin:/usr/bin:/bin"
       else none) := by
  unfold buildEnv
  rw [addHubVars_apply, EnvMap.insert_apply]
  congr 1
  by_cases hlang : n = "LANG"
  · rw [if_pos hlang, if_pos hlang]
  · rw [if_neg hlang, if_neg hlang]
    by_cases hhome : n = "HOME"
    · subst hhome
      cases parent.var "HOME" with
      | some home => simp [EnvMap.insert_apply]
      | none => simp [EnvMap.insert_apply]
    · cases parent.var "HOME" with
      | some home => simp [EnvMap.insert_apply, hhome]
      | none => simp [EnvMap.insert_apply, hhome]

section Environment

variable {parent : Env} {parameters : Value} {c : Command}
  (hc : c.envs = buildEnv parent parameters)
include hc

theorem environment_text (n : String) :
    c.environment parent (.text n) =
      ((buildEnv parent parameters n).map OsString.text).or (parent (.text n)) := by
  rw [← hc]
  rfl

theorem environment_path :
    c.environment parent (.text "PATH") = some (.text "/usr/local/bin:/usr/bin:/bin") := by
  rw [environment_text hc, buildEnv_apply, hubValue_of_notMem (by decide)]
  rfl

theorem environment_lang :
    c.environment parent (.text "LANG") = some (.text "en_US.UTF-8") := by
  rw [environment_text hc, buildEnv_apply, hubValue_of_notMem (by decide)]
  rfl

theorem environment_home :
    c.environment parent (.text "HOME") = parent (.text "HOME") := by
  have hbuilt : buildEnv parent parameters "HOME" = parent.var "HOME" := by
    rw [buildEnv_apply, hubValue_of_notMem (by decide), Option.none_or, if_neg (by decide),
      if_pos rfl]
  -- A `HOME` that is not text is not set by the command, and is inherited instead.
  rw [environment_text hc, hbuilt]
  unfold Env.var
  rcases parent (.text "HOME") with _ | (_ | _) <;> rfl

theorem environment_hub {n : String} (hn : n ∈ allowedEnvKeys) :
    c.environment parent (.text n) =
      ((hubValue parameters n).map OsString.text).or (parent (.text n)) := by
  have hne : n ≠ "LANG" ∧ n ≠ "HOME" ∧ n ≠ "PATH" := by
    simp only [allowedEnvKeys, List.mem_cons, List.not_mem_nil, or_false] at hn
    rcases hn with rfl | rfl | rfl <;> decide
  rw [environment_text hc, buildEnv_apply, if_neg hne.1, if_neg hne.2.1, if_neg hne.2.2,
    Option.or_none]

theorem environment_other {n : OsString} (hn : ∀ name ∈ scriptVars, n ≠ .text name) :
    c.environment parent n = parent n := by
  cases n with
  | raw bytes => rfl
  | text name =>
    have hnot : name ∉ scriptVars := fun hmem => hn name hmem rfl
    have hne : name ≠ "LANG" ∧ name ≠ "HOME" ∧ name ≠ "PATH" ∧ name ∉ allowedEnvKeys := by
      refine ⟨?_, ?_, ?_, fun hmem => hnot (List.mem_append_right _ hmem)⟩
      all_goals
        rintro rfl
        exact hnot (by decide)
    rw [environment_text hc, buildEnv_apply, hubValue_of_notMem hne.2.2.2, if_neg hne.1,
      if_neg hne.2.1, if_neg hne.2.2.1]
    rfl

theorem confined_iff :
    Confined (c.environment parent) ↔
      ∀ n, parent n ≠ none → ∃ name ∈ scriptVars, n = .text name := by
  constructor
  -- the names of the script's own variables aside, both environments are one
  · intro h n hn
    by_contra hother
    push Not at hother
    exact hn ((environment_other hc hother).symm.trans (eq_none_of_other h.names hother))
  · intro h
    refine ⟨fun n hn => ?_, environment_path hc, environment_lang hc⟩
    by_contra hother
    push Not at hother
    exact hn ((environment_other hc hother).trans (eq_none_of_other h hother))

end Environment

theorem envs_of_started {parent : Env} {w : World} {action : ActionRequest} {st : Started}
    (h : (execute parent w action).started = some st) :
    st.command.envs = buildEnv parent action.parameters := by
  unfold execute at h
  cases hp : prepare parent w action with
  | error e =>
    rw [hp] at h
    cases h
  | ok x =>
    obtain ⟨command, script⟩ := x
    rw [hp] at h
    have henvs : command.envs = buildEnv parent action.parameters := by
      obtain ⟨program, -, hp⟩ := bind_eq_ok hp
      obtain ⟨source, -, hp⟩ := bind_eq_ok hp
      obtain ⟨dir, -, hp⟩ := bind_eq_ok hp
      cases hp
      rfl
    cases hs : w.spawn command with
    | error source =>
      simp only [hs] at h
      cases h
    | ok child =>
      simp only [hs] at h
      cases h
      exact henvs

theorem same_environment_iff {p₁ p₂ : Env} {parameters : Value} {c₁ c₂ : Command}
    (h₁ : c₁.envs = buildEnv p₁ parameters) (h₂ : c₂.envs = buildEnv p₂ parameters)
    (hhome : p₁ (.text "HOME") = p₂ (.text "HOME"))
    (hother : ∀ n, (∀ name ∈ scriptVars, n ≠ .text name) → p₁ n = p₂ n) :
    c₁.environment p₁ = c₂.environment p₂ ↔ ∀ name ∈ allowedEnvKeys,
      hubValue parameters name = none → p₁ (.text name) = p₂ (.text name) := by
  constructor
  · intro h name hname hnone
    have := congrFun h (.text name)
    rwa [environment_hub h₁ hname, environment_hub h₂ hname, hnone] at this
  · intro h
    funext n
    -- Variable by variable: inherited ones, the two fixed ones, `HOME`, and those of the hub.
    by_cases hn : ∀ name ∈ scriptVars, n ≠ .text name
    · rw [environment_other h₁ hn, environment_other h₂ hn, hother n hn]
    · push Not at hn
      obtain ⟨name, hmem, rfl⟩ := hn
      rcases List.mem_append.mp hmem with hmem | hmem
      · simp only [List.mem_cons, List.not_mem_nil, or_false] at hmem
        rcases hmem with rfl | rfl | rfl
        · rw [environment_path h₁, environment_path h₂]
        · rw [environment_home h₁, environment_home h₂, hhome]
        · rw [environment_lang h₁, environment_lang h₂]
      · rw [environment_hub h₁ hmem, environment_hub h₂ hmem]
        cases hv : hubValue parameters name with
        | none => rw [h name hmem hv]
        | some value => rfl

/-- **A script sees only its own variables** exactly if there is nothing to leak. -/
theorem noLeak_iff {p₁ p₂ : Env} {w₁ w₂ : World} {action : ActionRequest} {st₁ st₂ : Started}
    (h₁ : (execute p₁ w₁ action).started = some st₁)
    (h₂ : (execute p₂ w₂ action).started = some st₂) :
    NoLeak p₁ p₂ (st₁.command.environment p₁) (st₂.command.environment p₂) ↔
      NothingToLeak action.parameters p₁ p₂ := by
  have he₁ := envs_of_started h₁
  have he₂ := envs_of_started h₂
  have hother : (∀ n, p₁ n ≠ none → ∃ name ∈ scriptVars, n = .text name) →
      (∀ n, p₂ n ≠ none → ∃ name ∈ scriptVars, n = .text name) →
      ∀ n, (∀ name ∈ scriptVars, n ≠ .text name) → p₁ n = p₂ n := by
    intro hn₁ hn₂ n hn
    rw [eq_none_of_other hn₁ hn, eq_none_of_other hn₂ hn]
  constructor
  · rintro ⟨hc₁, hc₂, hsame⟩
    have hn₁ := (confined_iff he₁).mp hc₁
    have hn₂ := (confined_iff he₂).mp hc₂
    refine ⟨hn₁, hn₂, fun hhome => ?_⟩
    exact (same_environment_iff he₁ he₂ hhome (hother hn₁ hn₂)).mp (hsame hhome)
  · rintro ⟨hn₁, hn₂, hsame⟩
    refine ⟨(confined_iff he₁).mpr hn₁, (confined_iff he₂).mpr hn₂, fun hhome => ?_⟩
    exact (same_environment_iff he₁ he₂ hhome (hother hn₁ hn₂)).mpr (hsame hhome)

/-! ## One script, two parents -/

def homeAnd (name value : String) : Env := fun n =>
  if n = .text "HOME" then some (.text "/home/u")
  else if n = .text name then some (.text value)
  else none

def shortChild : Child where
  ends := some 10
  written := some (1, .ok ())
  waited := some (10, .ok ⟨some 0, [], []⟩)
  ended_of_waited := by
    rintro t out ⟨⟩
    exact ⟨_, rfl, Nat.le_refl _⟩

def shortWorld : World where
  workDir := .ok "/tmp/w".toList
  spawn _ := .ok shortChild
  runtime := ⟨1000, 0, false⟩

def printAction : ActionRequest where
  id := "act_1"
  type := "bash"
  parameters := .object
    [("env", .object [("CUSTOM_VAR_1", .string "hub"), ("LD_PRELOAD", .string "x.so")]),
      ("source", .string "env")]
  userId := "u"
  communityId := "c"
  timeout := 1

def printStarted (parent : Env) : Started where
  command := ⟨"bash".toList, some "/tmp/w".toList, buildEnv parent printAction.parameters⟩
  input := some "env"
  child := shortChild

theorem hub_variable_hides_parents :
    (execute (homeAnd "CUSTOM_VAR_1" "a") shortWorld printAction).started =
        some (printStarted (homeAnd "CUSTOM_VAR_1" "a")) ∧
      (execute (homeAnd "CUSTOM_VAR_1" "b") shortWorld printAction).started =
        some (printStarted (homeAnd "CUSTOM_VAR_1" "b")) ∧
      NoLeak (homeAnd "CUSTOM_VAR_1" "a") (homeAnd "CUSTOM_VAR_1" "b")
        ((printStarted (homeAnd "CUSTOM_VAR_1" "a")).command.environment
          (homeAnd "CUSTOM_VAR_1" "a"))
        ((printStarted (homeAnd "CUSTOM_VAR_1" "b")).command.environment
          (homeAnd "CUSTOM_VAR_1" "b")) := by
  have hnames : ∀ (value : String) (n : OsString), homeAnd "CUSTOM_VAR_1" value n ≠ none →
      ∃ name ∈ scriptVars, n = .text name := by
    intro value n hn
    unfold homeAnd at hn
    split at hn
    next h => exact ⟨"HOME", by decide, h⟩
    next =>
      split at hn
      next h => exact ⟨"CUSTOM_VAR_1", by decide, h⟩
      next => exact absurd rfl hn
  have hstarted : ∀ parent, (execute parent shortWorld printAction).started =
      some (printStarted parent) := fun _ => rfl
  refine ⟨hstarted _, hstarted _, (noLeak_iff (hstarted _) (hstarted _)).mpr
    ⟨hnames "a", hnames "b", fun _ name hname hnone => ?_⟩⟩
  simp only [allowedEnvKeys, List.mem_cons, List.not_mem_nil, or_false] at hname
  rcases hname with rfl | rfl | rfl
  · exact absurd hnone (by decide +kernel)
  · rfl
  · rfl

theorem parent_variable_reaches_script :
    ∃ st st', (execute (homeAnd "AWS_SECRET_ACCESS_KEY" "k") shortWorld printAction).started =
        some st ∧
      (execute (homeAnd "LANG" "C") shortWorld printAction).started = some st' ∧
      st.command.environment (homeAnd "AWS_SECRET_ACCESS_KEY" "k")
          (.text "AWS_SECRET_ACCESS_KEY") = some (.text "k") ∧
      st'.command.environment (homeAnd "LANG" "C") (.text "AWS_SECRET_ACCESS_KEY") = none ∧
      homeAnd "AWS_SECRET_ACCESS_KEY" "k" (.text "HOME") = homeAnd "LANG" "C" (.text "HOME") := by
  refine ⟨printStarted _, printStarted _, rfl, rfl, ?_, ?_, ?_⟩
  all_goals decide +kernel

end Penguind.Desktop
