import Mathlib.Data.List.Infix
import Penguind.Waddleai.HookCommand

/-!
# The hook entries

A shim replaces the entries it added before and leaves all others, so that merging twice is
merging once.
-/

namespace Penguind.Waddleai

open Foundation

/-! ## Fields -/

/-- The order of the fields is of no account. -/
def updateField (key : String) (f : Option Value → Value) :
    List (String × Value) → List (String × Value)
  | [] => [(key, f none)]
  | (k, v) :: fields =>
    if k = key then (k, f (some v)) :: fields else (k, v) :: updateField key f fields

section

variable {key : String} {f g : Option Value → Value} {fields : List (String × Value)}

theorem updateField_of_lookup {v : Value} (h : fields.lookup key = some v) (hf : f (some v) = v) :
    updateField key f fields = fields := by
  induction fields with
  | nil => cases h
  | cons field fields ih =>
    obtain ⟨k, w⟩ := field
    rw [updateField]
    by_cases hk : k = key
    · subst hk
      rw [List.lookup_cons_self, Option.some.injEq] at h
      rw [if_pos rfl, h, hf]
    · rw [if_neg hk, ih (by rwa [List.lookup_cons, beq_false_of_ne (Ne.symm hk)] at h)]

theorem lookup_updateField :
    (updateField key f fields).lookup key = some (f (fields.lookup key)) := by
  induction fields with
  | nil => simp [updateField]
  | cons field fields ih =>
    obtain ⟨k, w⟩ := field
    rw [updateField]
    by_cases hk : k = key
    · subst hk
      rw [if_pos rfl, List.lookup_cons_self, List.lookup_cons_self]
    · rw [if_neg hk, List.lookup_cons, List.lookup_cons, beq_false_of_ne (Ne.symm hk)]
      exact ih

theorem lookup_updateField_ne {other : String} (h : other ≠ key) :
    (updateField key f fields).lookup other = fields.lookup other := by
  induction fields with
  | nil => simp [updateField, List.lookup_cons, beq_false_of_ne h]
  | cons field fields ih =>
    obtain ⟨k, w⟩ := field
    rw [updateField]
    by_cases hk : k = key
    · subst hk
      rw [if_pos rfl, List.lookup_cons, List.lookup_cons, beq_false_of_ne h]
    · rw [if_neg hk, List.lookup_cons, List.lookup_cons, ih]

theorem filter_updateField {p : String → Bool} (h : p key = false) :
    (updateField key f fields).filter (fun field => p field.1) =
      fields.filter fun field => p field.1 := by
  induction fields with
  | nil => simp [updateField, h]
  | cons field fields ih =>
    obtain ⟨k, w⟩ := field
    rw [updateField]
    by_cases hk : k = key
    · subst hk
      simp [h]
    · rw [if_neg hk, List.filter_cons, List.filter_cons, ih]

theorem updateField_updateField (h : ∀ v, g (some (g v)) = g v) :
    updateField key g (updateField key g fields) = updateField key g fields :=
  updateField_of_lookup lookup_updateField (h _)

end

def hookCommandLine : String := "penguin waddleai hook"

/-- Nothing is run where the binary cannot be found. -/
def buildGuardedCommand (probe command : String) : String :=
  "command -v " ++ probe ++ " >/dev/null 2>&1 && exec " ++ command ++ " || true"

def guardedHookCommand (event : String) : String :=
  buildGuardedCommand "penguin" (hookCommandLine ++ " " ++ event)

def isHookCommand (command : String) : Bool := hookCommandLine.toList <:+: command.toList

theorem isHookCommand_guarded (event : String) :
    isHookCommand (guardedHookCommand event) = true := by
  unfold isHookCommand guardedHookCommand buildGuardedCommand
  simp only [String.toList_append, List.append_assoc, decide_eq_true_eq]
  exact ⟨"command -v ".toList ++ ("penguin".toList ++ " >/dev/null 2>&1 && exec ".toList),
    " ".toList ++ (event.toList ++ " || true".toList), by simp only [List.append_assoc]⟩

/-! ## The merges -/

/-- Whatever else is there is replaced by an empty one. -/
def arrayOf : Option Value → List Value
  | some (.array items) => items
  | some .null | some (.bool _) | some (.int _) | some (.float _) | some (.string _)
  | some (.object _) | none => []

def objectOf : Option Value → List (String × Value)
  | some (.object fields) => fields
  | some .null | some (.bool _) | some (.int _) | some (.float _) | some (.string _)
  | some (.array _) | none => []

def replaceOwn (own : Value → Bool) (entries : List Value) (v : Option Value) : Value :=
  .array ((arrayOf v).filter (fun entry => !own entry) ++ entries)

theorem replaceOwn_replaceOwn {own : Value → Bool} {entries : List Value}
    (h : ∀ entry ∈ entries, own entry = true) (v : Option Value) :
    replaceOwn own entries (some (replaceOwn own entries v)) = replaceOwn own entries v := by
  have hnew : entries.filter (fun entry => !own entry) = [] := by
    rw [List.filter_eq_nil_iff]
    intro entry hmem
    simp [h entry hmem]
  simp [replaceOwn, arrayOf, hnew]

def claudeEventName (event : String) : String :=
  if event = "pre-tool-use" then "PreToolUse" else "PostToolUse"

def isWaddleaiGroup (group : Value) : Bool :=
  ((group.get "hooks").bind Value.asArray).any fun inner =>
    inner.any fun entry => ((entry.get "command").bind Value.asStr).any isHookCommand

def claudeGroup (event : String) : Value :=
  .object [("matcher", .string "*"),
    ("hooks", .array [.object [("type", .string "command"),
      ("command", .string (guardedHookCommand event))]])]

def claudeEvent (event : String) (hooks : List (String × Value)) : List (String × Value) :=
  updateField (claudeEventName event) (replaceOwn isWaddleaiGroup [claudeGroup event]) hooks

def claudeHooks (v : Option Value) : Value :=
  .object (hookEvents.foldl (fun hooks event => claudeEvent event hooks) (objectOf v))

def claudeMerge (root : List (String × Value)) : List (String × Value) :=
  updateField "hooks" claudeHooks root

def idPrefix : String := "waddleai-"

def isWaddleaiEntry (entry : Value) : Bool :=
  ((entry.get "id").bind Value.asStr).any fun id => idPrefix.toList <+: id.toList

def geminiEntry (event : String) : Value :=
  .object [("id", .string (idPrefix ++ event)), ("event", .string event),
    ("command", .string (guardedHookCommand event))]

def geminiMerge (root : List (String × Value)) : List (String × Value) :=
  updateField "hooks" (replaceOwn isWaddleaiEntry (hookEvents.map geminiEntry)) root

def vscodeMerge (root : List (String × Value)) : List (String × Value) :=
  updateField "waddleai.hookCommand" (fun _ => .string hookCommandLine)
    (updateField "waddleai.enabled" (fun _ => .bool true) root)

/-! ## Merging twice -/

theorem isWaddleaiGroup_claudeGroup (event : String) :
    isWaddleaiGroup (claudeGroup event) = true := by
  have hget : ((claudeGroup event).get "hooks").bind Value.asArray =
      some [.object [("type", .string "command"),
        ("command", .string (guardedHookCommand event))]] := rfl
  unfold isWaddleaiGroup
  rw [hget]
  simp [Value.get, Value.fields, Value.asStr, isHookCommand_guarded, List.lookup_cons]

theorem isWaddleaiEntry_geminiEntry (event : String) :
    isWaddleaiEntry (geminiEntry event) = true := by
  have hget : ((geminiEntry event).get "id").bind Value.asStr = some (idPrefix ++ event) := rfl
  unfold isWaddleaiEntry
  rw [hget]
  simp [String.toList_append]

theorem claudeHooks_claudeHooks (v : Option Value) :
    claudeHooks (some (claudeHooks v)) = claudeHooks v := by
  have hown : ∀ event w, replaceOwn isWaddleaiGroup [claudeGroup event]
      (some (replaceOwn isWaddleaiGroup [claudeGroup event] w)) =
        replaceOwn isWaddleaiGroup [claudeGroup event] w := by
    intro event
    apply replaceOwn_replaceOwn
    intro entry hmem
    rw [List.mem_singleton.mp hmem]
    exact isWaddleaiGroup_claudeGroup event
  have hne : claudeEventName "pre-tool-use" ≠ claudeEventName "post-tool-use" := by decide
  show Value.object (claudeEvent "post-tool-use" (claudeEvent "pre-tool-use"
      (claudeEvent "post-tool-use" (claudeEvent "pre-tool-use" (objectOf v))))) =
    .object (claudeEvent "post-tool-use" (claudeEvent "pre-tool-use" (objectOf v)))
  have hpre : claudeEvent "pre-tool-use"
      (claudeEvent "post-tool-use" (claudeEvent "pre-tool-use" (objectOf v))) =
        claudeEvent "post-tool-use" (claudeEvent "pre-tool-use" (objectOf v)) :=
    updateField_of_lookup ((lookup_updateField_ne hne).trans lookup_updateField) (hown _ _)
  rw [hpre]
  exact congrArg Value.object (updateField_updateField (hown _))

theorem claudeMerge_claudeMerge (root : List (String × Value)) :
    claudeMerge (claudeMerge root) = claudeMerge root :=
  updateField_updateField claudeHooks_claudeHooks

theorem geminiMerge_geminiMerge (root : List (String × Value)) :
    geminiMerge (geminiMerge root) = geminiMerge root := by
  apply updateField_updateField
  apply replaceOwn_replaceOwn
  intro entry hmem
  obtain ⟨event, -, rfl⟩ := List.mem_map.mp hmem
  exact isWaddleaiEntry_geminiEntry event

theorem vscodeMerge_vscodeMerge (root : List (String × Value)) :
    vscodeMerge (vscodeMerge root) = vscodeMerge root := by
  have hne : "waddleai.enabled" ≠ "waddleai.hookCommand" := by decide
  have henabled : (vscodeMerge root).lookup "waddleai.enabled" = some (.bool true) :=
    (lookup_updateField_ne hne).trans lookup_updateField
  unfold vscodeMerge at henabled ⊢
  rw [updateField_of_lookup henabled rfl]
  exact updateField_updateField fun _ => rfl

structure Shim where
  ecosystem : Ecosystem
  merge : List (String × Value) → List (String × Value)
  merge_merge : ∀ root, merge (merge root) = merge root

def shimFor : Ecosystem → Shim
  | .claude => ⟨.claude, claudeMerge, claudeMerge_claudeMerge⟩
  | .gemini => ⟨.gemini, geminiMerge, geminiMerge_geminiMerge⟩
  | .vsCode => ⟨.vsCode, vscodeMerge, vscodeMerge_vscodeMerge⟩

/-! ## What a merge keeps -/

/-- The present command, and that of earlier versions. -/
def registeredCommands (event : String) : List String :=
  [guardedHookCommand event, hookCommandLine ++ " " ++ event]

def RegisteredGroup (event : String) (group : Value) : Prop :=
  ∃ command ∈ registeredCommands event, ∃ entry : Value,
    group.fields.Perm [("matcher", .string "*"), ("hooks", .array [entry])] ∧
      entry.fields.Perm [("type", .string "command"), ("command", .string command)]

def RegisteredEntry (entry : Value) : Prop :=
  ∃ event ∈ hookEvents, ∃ command ∈ registeredCommands event,
    entry.fields.Perm [("id", .string (idPrefix ++ event)), ("event", .string event),
      ("command", .string command)]

open Classical in
/-- What is not registered is still there, in its order. -/
def ItemsKept (Registered : Value → Prop) (before after : Option Value) : Prop :=
  (∀ v ∈ before, (∃ items, v = .array items) ∨ after = some v) ∧
    (arrayOf after).filter (fun item => ¬ Registered item) =
      (arrayOf before).filter fun item => ¬ Registered item

/-- Only what is registered looks like it. -/
def ItemsClean (own : Value → Bool) (Registered : Value → Prop) (v : Option Value) : Prop :=
  (∀ w ∈ v, ∃ items, w = .array items) ∧ ∀ item ∈ arrayOf v, own item = true → Registered item

theorem itemsKept_replaceOwn {own : Value → Bool} {Registered : Value → Prop}
    {entries : List Value} {v : Option Value} (h : ∀ entry ∈ entries, Registered entry) :
    ItemsKept Registered v (some (replaceOwn own entries v)) ↔ ItemsClean own Registered v := by
  classical
  have hnew : entries.filter (fun item => ¬ Registered item) = [] := by
    rw [List.filter_eq_nil_iff]
    intro entry hmem
    simp [h entry hmem]
  refine and_congr (forall₂_congr fun w hw => ?_) ?_
  · constructor
    · rintro (harray | hsame)
      · exact harray
      · exact ⟨_, (Option.some.inj hsame).symm⟩
    · exact .inl
  · -- what is dropped although it is not registered is what makes the difference
    have hcomm :
        (arrayOf (some (replaceOwn own entries v))).filter (fun item => ¬ Registered item) =
        ((arrayOf v).filter fun item => ¬ Registered item).filter fun item => !own item := by
      simp only [replaceOwn, arrayOf, List.filter_append, hnew, List.append_nil, List.filter_filter,
        Bool.and_comm]
    rw [hcomm, List.filter_eq_self]
    simp only [List.mem_filter, decide_eq_true_eq, Bool.not_eq_true', and_imp]
    refine forall₂_congr fun item _ => ?_
    by_cases hitem : Registered item <;> simp [hitem]

def hooksOf (root : List (String × Value)) : List (String × Value) :=
  objectOf (root.lookup "hooks")

def vscodeKeys : List String := ["waddleai.enabled", "waddleai.hookCommand"]

def OnePerEvent (root : List (String × Value)) : Ecosystem → Prop
  | .claude => ∀ event ∈ hookEvents,
    (arrayOf ((hooksOf root).lookup (claudeEventName event))).filter isWaddleaiGroup =
      [claudeGroup event]
  | .gemini => (arrayOf (root.lookup "hooks")).filter isWaddleaiEntry = hookEvents.map geminiEntry
  | .vsCode => root.lookup "waddleai.enabled" = some (.bool true) ∧
    root.lookup "waddleai.hookCommand" = some (.string hookCommandLine)

/-- Every setting, group and hook that is not registered is still there. -/
def Keeps (before after : List (String × Value)) : Ecosystem → Prop
  | .claude =>
    after.filter (fun field => field.1 ≠ "hooks") =
        before.filter (fun field => field.1 ≠ "hooks") ∧
      (∀ v ∈ before.lookup "hooks",
        (∃ fields, v = .object fields) ∨ after.lookup "hooks" = some v) ∧
      (hooksOf after).filter (fun field => field.1 ∉ hookEvents.map claudeEventName) =
        (hooksOf before).filter (fun field => field.1 ∉ hookEvents.map claudeEventName) ∧
      ∀ event ∈ hookEvents, ItemsKept (RegisteredGroup event)
        ((hooksOf before).lookup (claudeEventName event))
        ((hooksOf after).lookup (claudeEventName event))
  | .gemini =>
    after.filter (fun field => field.1 ≠ "hooks") =
        before.filter (fun field => field.1 ≠ "hooks") ∧
      ItemsKept RegisteredEntry (before.lookup "hooks") (after.lookup "hooks")
  | .vsCode =>
    after.filter (fun field => field.1 ∉ vscodeKeys) =
        before.filter (fun field => field.1 ∉ vscodeKeys) ∧
      ∀ key ∈ vscodeKeys, ∀ v ∈ before.lookup key, after.lookup key = some v

/-- The places of the shim hold nothing of others that it would take or write over. -/
def Clean (root : List (String × Value)) : Ecosystem → Prop
  | .claude => (∀ v ∈ root.lookup "hooks", ∃ fields, v = .object fields) ∧
    ∀ event ∈ hookEvents, ItemsClean isWaddleaiGroup (RegisteredGroup event)
      ((hooksOf root).lookup (claudeEventName event))
  | .gemini => ItemsClean isWaddleaiEntry RegisteredEntry (root.lookup "hooks")
  | .vsCode => (∀ v ∈ root.lookup "waddleai.enabled", v = .bool true) ∧
    ∀ v ∈ root.lookup "waddleai.hookCommand", v = .string hookCommandLine

section

variable {root : List (String × Value)}

theorem filter_replaceOwn {own : Value → Bool} {entries : List Value} {v : Option Value}
    (h : ∀ entry ∈ entries, own entry = true) :
    (arrayOf (some (replaceOwn own entries v))).filter own = entries := by
  simp [replaceOwn, arrayOf, List.filter_filter, List.filter_eq_self.mpr h]

theorem lookup_hooks_claudeMerge :
    (claudeMerge root).lookup "hooks" = some (claudeHooks (root.lookup "hooks")) :=
  lookup_updateField

theorem lookup_claudeMerge {event : String} (h : event ∈ hookEvents) :
    (hooksOf (claudeMerge root)).lookup (claudeEventName event) =
      some (replaceOwn isWaddleaiGroup [claudeGroup event]
        ((hooksOf root).lookup (claudeEventName event))) := by
  rw [hooksOf, lookup_hooks_claudeMerge]
  show (claudeEvent "post-tool-use" (claudeEvent "pre-tool-use" (hooksOf root))).lookup _ = _
  rcases List.mem_pair.mp h with rfl | rfl
  · exact (lookup_updateField_ne (by decide)).trans lookup_updateField
  · exact lookup_updateField.trans (by rw [claudeEvent, lookup_updateField_ne (by decide)])

theorem onePerEvent_merge (ecosystem : Ecosystem) :
    OnePerEvent ((shimFor ecosystem).merge root) ecosystem := by
  cases ecosystem with
  | claude =>
    intro event hevent
    rw [shimFor, lookup_claudeMerge hevent]
    exact filter_replaceOwn (by simp [isWaddleaiGroup_claudeGroup])
  | gemini =>
    show (arrayOf ((geminiMerge root).lookup "hooks")).filter isWaddleaiEntry = _
    rw [geminiMerge, lookup_updateField]
    exact filter_replaceOwn (by simp [isWaddleaiEntry_geminiEntry])
  | vsCode =>
    exact ⟨(lookup_updateField_ne (by decide)).trans lookup_updateField, lookup_updateField⟩

theorem registeredGroup_claudeGroup (event : String) : RegisteredGroup event (claudeGroup event) :=
  ⟨_, List.mem_cons_self, _, .refl _, .refl _⟩

theorem registeredEntry_geminiEntry {event : String} (h : event ∈ hookEvents) :
    RegisteredEntry (geminiEntry event) :=
  ⟨event, h, _, List.mem_cons_self, .refl _⟩

theorem claude_keeps_iff : Keeps root (claudeMerge root) .claude ↔ Clean root .claude := by
  have hsettings : (claudeMerge root).filter (fun field => field.1 ≠ "hooks") =
      root.filter fun field => field.1 ≠ "hooks" :=
    filter_updateField (p := fun key => key ≠ "hooks") (by decide)
  have hothers : (hooksOf (claudeMerge root)).filter
      (fun field => field.1 ∉ hookEvents.map claudeEventName) =
        (hooksOf root).filter fun field => field.1 ∉ hookEvents.map claudeEventName := by
    rw [hooksOf, lookup_hooks_claudeMerge]
    let p : String → Bool := fun key => key ∉ hookEvents.map claudeEventName
    exact (filter_updateField (p := p) (by decide)).trans (filter_updateField (p := p) (by decide))
  simp only [Keeps, Clean, hsettings, hothers, true_and]
  refine and_congr (forall₂_congr fun v hv => ?_) (forall₂_congr fun event hevent => ?_)
  · rw [lookup_hooks_claudeMerge]
    constructor
    · rintro (hobject | hsame)
      · exact hobject
      · exact ⟨_, (Option.some.inj hsame).symm⟩
    · exact .inl
  · rw [lookup_claudeMerge hevent]
    exact itemsKept_replaceOwn (by simpa using registeredGroup_claudeGroup event)

theorem gemini_keeps_iff : Keeps root (geminiMerge root) .gemini ↔ Clean root .gemini := by
  have hsettings : (geminiMerge root).filter (fun field => field.1 ≠ "hooks") =
      root.filter fun field => field.1 ≠ "hooks" :=
    filter_updateField (p := fun key => key ≠ "hooks") (by decide)
  simp only [Keeps, Clean, hsettings, true_and]
  rw [geminiMerge, lookup_updateField]
  refine itemsKept_replaceOwn fun entry hentry => ?_
  obtain ⟨event, hevent, rfl⟩ := List.mem_map.mp hentry
  exact registeredEntry_geminiEntry hevent

theorem vscode_keeps_iff : Keeps root (vscodeMerge root) .vsCode ↔ Clean root .vsCode := by
  have hsettings : (vscodeMerge root).filter (fun field => field.1 ∉ vscodeKeys) =
      root.filter fun field => field.1 ∉ vscodeKeys :=
    let p : String → Bool := fun key => key ∉ vscodeKeys
    (filter_updateField (p := p) (by decide)).trans (filter_updateField (p := p) (by decide))
  have hone : OnePerEvent (vscodeMerge root) .vsCode := onePerEvent_merge .vsCode
  obtain ⟨henabled, hcommand⟩ := hone
  simp only [Keeps, Clean, hsettings, true_and]
  simp [vscodeKeys, henabled, hcommand, eq_comm]

end

/-- **A merge** is idempotent, and keeps what is not its own exactly if the settings are clean. -/
theorem merge_keeps_iff (ecosystem : Ecosystem) (root : List (String × Value)) :
    let merge := (shimFor ecosystem).merge
    (merge (merge root) = merge root ∧ OnePerEvent (merge root) ecosystem ∧
      Keeps root (merge root) ecosystem) ↔ Clean root ecosystem := by
  intro merge
  rw [and_iff_right ((shimFor ecosystem).merge_merge root),
    and_iff_right (onePerEvent_merge ecosystem)]
  cases ecosystem with
  | claude => exact claude_keeps_iff
  | gemini => exact gemini_keeps_iff
  | vsCode => exact vscode_keeps_iff

/-- **A group is dropped with all that is in it.** -/
theorem shared_group_dropped :
    let lint : Value := .object [("type", .string "command"), ("command", .string "lint")]
    let own : Value := .object [("type", .string "command"),
      ("command", .string "penguin waddleai hook pre-tool-use")]
    let group : Value := .object [("matcher", .string "*"), ("hooks", .array [lint, own])]
    (hooksOf (claudeMerge [("hooks", .object [("PreToolUse", .array [group])])])).lookup
        "PreToolUse" = some (.array [claudeGroup "pre-tool-use"]) := by
  rfl

end Penguind.Waddleai
