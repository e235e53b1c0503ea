import Mathlib.Data.String.Basic
import Penguind.Daemon.Listing

/-!
# The tray menu

The tray builds a header, a row for each module with the commands that are meant for the tray, and
a footer. The statements are about the rows of a menu and the commands of a tree in the order they
are read.
-/

namespace Penguind.Tray

open Daemon (ModuleState HealthLevel ModuleStatus)

/-! ## The modules -/

structure CommandSpec where
  name : String
  useLine : String
  short : String
  subcommands : List CommandSpec
  tray : Bool

structure ModuleInput where
  name : String
  state : ModuleState
  /-- `none` if the daemon has not probed the module yet. -/
  health : Option HealthLevel
  healthMessage : String
  commands : List CommandSpec

structure ModuleSummary where
  name : String
  state : String

structure ModuleCommands where
  module : String
  commands : List CommandSpec

def parseState : String → Option ModuleState
  | "disabled" => some .disabled
  | "initializing" => some .initializing
  | "running" => some .running
  | "degraded" => some .degraded
  | "stopping" => some .stopping
  | "stopped" => some .stopped
  | "failed" => some .failed
  | _ => none

def parseHealth : String → Option HealthLevel
  | "healthy" => some .healthy
  | "degraded" => some .degraded
  | "unhealthy" => some .unhealthy
  | _ => none

def commandsOf (commands : List ModuleCommands) (name : String) : List CommandSpec :=
  ((commands.reverse.find? fun entry => entry.module = name).map ModuleCommands.commands).getD []

def joinSnapshot (modules : List ModuleSummary) (status : List ModuleStatus)
    (commands : List ModuleCommands) : List ModuleInput :=
  modules.map fun summary =>
    let entry := status.reverse.find? fun entry => entry.name = summary.name
    { name := summary.name
      state := (parseState summary.state).getD .disabled
      health := entry.bind fun entry => parseHealth entry.health
      healthMessage := (entry.map ModuleStatus.healthMessage).getD ""
      commands := commandsOf commands summary.name }

/-! ## Severities and texts -/

inductive Severity
  | unknown
  | ok
  | warn
  | bad
  deriving DecidableEq, Repr

namespace Severity

/-- A module that was not probed yet is worse than a healthy one. -/
def rank : Severity → Nat
  | ok => 0
  | unknown => 1
  | warn => 2
  | bad => 3

def label : Severity → String
  | unknown => "Unknown"
  | ok => "OK"
  | warn => "Warning"
  | bad => "Critical"

def worse (a b : Severity) : Severity := if a.rank < b.rank then b else a

end Severity

def isLoaded (state : ModuleState) : Bool := state ≠ .disabled

def stateText : ModuleState → String
  | .disabled => "Disabled"
  | .initializing => "Starting…"
  | .running => "Running"
  | .degraded => "Degraded"
  | .stopping => "Stopping…"
  | .stopped => "Stopped"
  | .failed => "Failed"

def stateSeverity : ModuleState → Severity
  | .running => .ok
  | .degraded => .warn
  | .failed => .bad
  | .disabled | .initializing | .stopping | .stopped => .unknown

def moduleHealthText : Option HealthLevel → String
  | none => "Unknown"
  | some .healthy => "Healthy"
  | some .degraded => "Degraded"
  | some .unhealthy => "Unhealthy"

def moduleHealthSeverity : Option HealthLevel → Severity
  | none => .unknown
  | some .healthy => .ok
  | some .degraded => .warn
  | some .unhealthy => .bad

def moduleSeverity (state : ModuleState) (health : Option HealthLevel) : Severity :=
  (stateSeverity state).worse (moduleHealthSeverity health)

/-! ## The menu -/

inductive Action
  | dispatch (module : String) (path : List String)
  | loadModule (module : String)
  | unloadModule (module : String)
  | refresh
  | quit
  deriving DecidableEq, Repr

structure MenuItem where
  label : String
  detail : String
  severity : Severity
  action : Option Action
  children : List MenuItem

structure Menu where
  header : MenuItem
  modules : List MenuItem
  footer : List MenuItem

inductive DaemonConnection
  | connected (modules : List ModuleInput)
  | unreachable (reason : String)

def footerItems : List MenuItem :=
  [⟨"Refresh", "", .unknown, some .refresh, []⟩, ⟨"Quit", "", .unknown, some .quit, []⟩]

def CommandSpec.label (command : CommandSpec) : String :=
  if command.short = "" then command.name else command.short

mutual

def trayItem (moduleName : String) (parents : List String) : CommandSpec → Option MenuItem
  | ⟨name, useLine, short, subcommands, tray⟩ =>
    let path := parents ++ [name]
    let children := trayItems moduleName path subcommands
    if !tray && children.isEmpty then none
    else some ⟨CommandSpec.label ⟨name, useLine, short, subcommands, tray⟩, useLine, .unknown,
      if tray then some (.dispatch moduleName path) else none, children⟩

def trayItems (moduleName : String) (parents : List String) : List CommandSpec → List MenuItem
  | [] => []
  | command :: commands =>
    (trayItem moduleName parents command).toList ++ trayItems moduleName parents commands

end

def loadUnloadItem (module : ModuleInput) : MenuItem :=
  if isLoaded module.state then ⟨"Unload", "", .unknown, some (.unloadModule module.name), []⟩
  else ⟨"Load", "", .unknown, some (.loadModule module.name), []⟩

def buildModuleItem (module : ModuleInput) : MenuItem where
  label := module.name
  detail :=
    stateText module.state ++ " · " ++ moduleHealthText module.health ++
      if module.healthMessage = "" then "" else " — " ++ module.healthMessage
  severity := moduleSeverity module.state module.health
  action := none
  children := loadUnloadItem module :: trayItems module.name [] module.commands

def sortedByName (modules : List ModuleInput) : List ModuleInput :=
  modules.mergeSort fun a b => a.name ≤ b.name

def overall (modules : List ModuleInput) : Severity :=
  modules.foldl (fun overall module =>
    if isLoaded module.state then overall.worse (buildModuleItem module).severity else overall) .ok

def buildConnectedMenu (modules : List ModuleInput) : Menu :=
  let sorted := sortedByName modules
  let rows := sorted.map buildModuleItem
  { header := ⟨"Penguin", toString rows.length ++ " module(s) — " ++ (overall sorted).label,
      overall sorted, none, []⟩
    modules := rows
    footer := footerItems }

def buildUnreachableMenu (reason : String) : Menu where
  header := ⟨"Penguin",
    if reason = "" then "Daemon unreachable" else "Daemon unreachable: " ++ reason, .bad, none, []⟩
  modules := []
  footer := footerItems

def buildMenu : DaemonConnection → Menu
  | .connected modules => buildConnectedMenu modules
  | .unreachable reason => buildUnreachableMenu reason

/-! ## Rows and commands -/

mutual

def MenuItem.rows : MenuItem → List MenuItem
  | ⟨label, detail, severity, action, children⟩ =>
    ⟨label, detail, severity, action, []⟩ :: rowsOf children

def rowsOf : List MenuItem → List MenuItem
  | [] => []
  | item :: items => item.rows ++ rowsOf items

end

mutual

def CommandSpec.tree (parents : List String) : CommandSpec → List (List String × CommandSpec)
  | ⟨name, useLine, short, subcommands, tray⟩ =>
    (parents ++ [name], ⟨name, useLine, short, subcommands, tray⟩) ::
      treeOf (parents ++ [name]) subcommands

def treeOf (parents : List String) : List CommandSpec → List (List String × CommandSpec)
  | [] => []
  | command :: commands => command.tree parents ++ treeOf parents commands

end

def MenuItem.dispatches (item : MenuItem) : Option (String × List String) :=
  match item.action with
  | some (.dispatch module path) => some (module, path)
  | _ => none

mutual

def CommandSpec.shown : CommandSpec → Bool
  | ⟨_, _, _, subcommands, tray⟩ => tray || anyShown subcommands

def anyShown : List CommandSpec → Bool
  | [] => false
  | command :: commands => command.shown || anyShown commands

end

def CommandSpec.row (moduleName : String) (path : List String) (command : CommandSpec) : MenuItem :=
  ⟨command.label, command.useLine, .unknown,
    if command.tray then some (.dispatch moduleName path) else none, []⟩

def loadedSeverities (modules : List ModuleInput) : List Severity :=
  (modules.filter fun module => isLoaded module.state).map fun module =>
    moduleSeverity module.state module.health

def IsWorst (severities : List Severity) (worst : Severity) : Prop :=
  severities = [] ∧ worst = .ok ∨ worst ∈ severities ∧ ∀ s ∈ severities, s.rank ≤ worst.rank

/-- **What a menu shows**: modules by name with their commands, and a header as bad as the worst. -/
structure Shows (modules sorted : List ModuleInput) (menu : Menu) : Prop where
  perm : sorted.Perm modules
  ordered : sorted.Pairwise fun a b => a.name ≤ b.name
  rows : menu.modules.map MenuItem.label = sorted.map ModuleInput.name
  commands : (menu.modules.map fun row => rowsOf (row.children.drop 1)) = sorted.map fun module =>
    ((treeOf [] module.commands).filter fun x => x.2.shown).map fun x => x.2.row module.name x.1
  dispatches :
    (rowsOf (menu.header :: menu.modules ++ menu.footer)).filterMap MenuItem.dispatches =
      sorted.flatMap fun module =>
        ((treeOf [] module.commands).filter fun x => x.2.tray).map fun x => (module.name, x.1)
  severity : IsWorst (loadedSeverities modules) menu.header.severity

theorem shown_of_tray {c : CommandSpec} (h : c.tray = true) : c.shown = true := by
  cases c
  cases h
  rfl

mutual

theorem filter_tree {p : List String} : ∀ {c : CommandSpec}, c.shown = false →
    (c.tree p).filter (fun x => x.2.shown) = []
  | ⟨name, useLine, short, subcommands, tray⟩, h => by
    have hsub : anyShown subcommands = false := by simp_all [CommandSpec.shown]
    simp [CommandSpec.tree, h, filter_treeOf hsub]

theorem filter_treeOf {p : List String} : ∀ {cs : List CommandSpec}, anyShown cs = false →
    (treeOf p cs).filter (fun x => x.2.shown) = []
  | [], _ => rfl
  | c :: cs, h => by
    obtain ⟨hc, hcs⟩ : c.shown = false ∧ anyShown cs = false := by simpa [anyShown] using h
    simp [treeOf, filter_tree hc, filter_treeOf hcs]

end

theorem rowsOf_eq_flatMap (items : List MenuItem) : rowsOf items = items.flatMap MenuItem.rows := by
  induction items with
  | nil => rfl
  | cons item items ih => rw [rowsOf, ih, List.flatMap_cons]

theorem rowsOf_append (xs ys : List MenuItem) : rowsOf (xs ++ ys) = rowsOf xs ++ rowsOf ys := by
  simp only [rowsOf_eq_flatMap, List.flatMap_append]

mutual

theorem rows_trayItem (moduleName : String) (p : List String) : ∀ c : CommandSpec,
    rowsOf (trayItem moduleName p c).toList =
      ((c.tree p).filter fun x => x.2.shown).map fun x => x.2.row moduleName x.1
  | ⟨name, useLine, short, subcommands, tray⟩ => by
    have hshown : CommandSpec.shown ⟨name, useLine, short, subcommands, tray⟩ =
        !(!tray && (trayItems moduleName (p ++ [name]) subcommands).isEmpty) := by
      rw [CommandSpec.shown, ← isEmpty_trayItems moduleName (p ++ [name]) subcommands]
      simp
    rw [trayItem]
    split
    · next h =>
      rw [h] at hshown
      rw [filter_tree hshown]
      rfl
    · next h =>
      rw [Bool.not_eq_true] at h
      rw [h] at hshown
      simp [CommandSpec.tree, hshown, rowsOf, MenuItem.rows, CommandSpec.row,
        rows_trayItems moduleName (p ++ [name]) subcommands]

theorem rows_trayItems (moduleName : String) (p : List String) : ∀ cs : List CommandSpec,
    rowsOf (trayItems moduleName p cs) =
      ((treeOf p cs).filter fun x => x.2.shown).map fun x => x.2.row moduleName x.1
  | [] => rfl
  | c :: cs => by
    rw [trayItems, rowsOf_append, rows_trayItem moduleName p c, rows_trayItems moduleName p cs,
      treeOf, List.filter_append, List.map_append]

theorem isEmpty_trayItems (moduleName : String) (p : List String) :
    ∀ cs : List CommandSpec, (!(trayItems moduleName p cs).isEmpty) = anyShown cs
  | [] => rfl
  | ⟨name, useLine, short, subcommands, tray⟩ :: cs => by
    rw [anyShown, CommandSpec.shown, ← isEmpty_trayItems moduleName (p ++ [name]) subcommands,
      ← isEmpty_trayItems moduleName p cs, trayItems, trayItem]
    split <;> cases tray <;> simp_all

end

theorem dispatches_row (moduleName : String) (x : List String × CommandSpec) :
    (x.2.row moduleName x.1).dispatches = if x.2.tray then some (moduleName, x.1) else none := by
  cases htray : x.2.tray <;> simp [CommandSpec.row, MenuItem.dispatches, htray]

theorem dispatches_trayItems (moduleName : String) (p : List String) (cs : List CommandSpec) :
    (rowsOf (trayItems moduleName p cs)).filterMap MenuItem.dispatches =
      ((treeOf p cs).filter fun x => x.2.tray).map fun x => (moduleName, x.1) := by
  rw [rows_trayItems]
  induction treeOf p cs with
  | nil => rfl
  | cons x xs ih =>
    have hx := dispatches_row moduleName x
    cases htray : x.2.tray with
    | true => simp_all [shown_of_tray htray]
    | false => cases hshown : x.2.shown <;> simp_all

theorem dispatches_buildModuleItem (module : ModuleInput) :
    (buildModuleItem module).rows.filterMap MenuItem.dispatches =
      ((treeOf [] module.commands).filter fun x => x.2.tray).map fun x => (module.name, x.1) := by
  have hload : (loadUnloadItem module).rows.filterMap MenuItem.dispatches = [] := by
    unfold loadUnloadItem
    split <;> rfl
  show ((loadUnloadItem module).rows ++ rowsOf (trayItems module.name [] module.commands)).filterMap
    MenuItem.dispatches = _
  rw [List.filterMap_append, hload, dispatches_trayItems, List.nil_append]

/-! ### Severities -/

theorem Severity.rank_worse (a b : Severity) : (a.worse b).rank = max a.rank b.rank := by
  unfold worse
  split <;> omega

theorem Severity.worse_eq (a b : Severity) : a.worse b = a ∨ a.worse b = b := by
  unfold worse
  split <;> simp

theorem rank_foldl (severities : List Severity) (a : Severity) :
    severities.foldl Severity.worse a ∈ a :: severities ∧
      ∀ s ∈ a :: severities, s.rank ≤ (severities.foldl Severity.worse a).rank := by
  induction severities generalizing a with
  | nil => simp
  | cons b severities ih =>
    obtain ⟨hmem, hall⟩ := ih (a.worse b)
    rw [List.forall_mem_cons, Severity.rank_worse, max_le_iff] at hall
    refine ⟨?_, by simpa [and_assoc] using hall⟩
    rcases List.mem_cons.mp hmem with hmem | hmem
    · rw [List.foldl_cons, hmem]
      rcases a.worse_eq b with h | h <;> simp [h]
    · exact List.mem_cons_of_mem _ (List.mem_cons_of_mem _ hmem)

theorem isWorst_overall (modules : List ModuleInput) :
    IsWorst (loadedSeverities modules) (overall modules) := by
  have hfold : overall modules = (loadedSeverities modules).foldl Severity.worse .ok := by
    rw [loadedSeverities, List.foldl_map, List.foldl_filter]
    rfl
  rw [hfold]
  generalize loadedSeverities modules = severities
  obtain ⟨hmem, hall⟩ := rank_foldl severities .ok
  rw [List.forall_mem_cons] at hall
  cases severities with
  | nil => exact .inl ⟨rfl, rfl⟩
  | cons s severities =>
    refine .inr ⟨?_, hall.2⟩
    rcases List.mem_cons.mp hmem with hok | hmem
    -- nothing is better than the start, so the first severity is the start as well
    · have hs := hall.2 s List.mem_cons_self
      rw [hok] at hs ⊢
      cases s with
      | ok => exact List.mem_cons_self
      | _ => cases hs
    · exact hmem

theorem pairwise_sortedByName (modules : List ModuleInput) :
    (sortedByName modules).Pairwise fun a b => a.name ≤ b.name := by
  refine (List.pairwise_mergeSort (fun a b c hab hbc => ?_) (fun a b => ?_) modules).imp fun h => ?_
  · exact decide_eq_true (le_trans (of_decide_eq_true hab) (of_decide_eq_true hbc))
  · simpa using le_total a.name b.name
  · exact of_decide_eq_true h

/-- **The menu shows its modules and their commands**, in the order of the listing. -/
theorem menu_shows :
    (∀ modules, ∃ sorted, Shows modules sorted (buildMenu (.connected modules))) ∧
      ∀ listed status commands, List.Forall₂ (fun summary module => module.name = summary.name ∧
        module.commands = commandsOf commands summary.name) listed
          (joinSnapshot listed status commands) := by
  refine ⟨fun modules => ?_, fun listed status commands => ?_⟩
  · have hperm : (sortedByName modules).Perm modules := List.mergeSort_perm modules _
    refine ⟨sortedByName modules, hperm, pairwise_sortedByName modules, ?_, ?_, ?_, ?_⟩
    · simp [buildMenu, buildConnectedMenu, buildModuleItem]
    · simp [buildMenu, buildConnectedMenu, buildModuleItem, rows_trayItems]
    · show (rowsOf ((sortedByName modules).map buildModuleItem ++ footerItems)).filterMap
        MenuItem.dispatches = _
      rw [rowsOf_append, List.filterMap_append, rowsOf_eq_flatMap, List.flatMap_map,
        List.filterMap_flatMap]
      simp [dispatches_buildModuleItem, footerItems, rowsOf, MenuItem.rows, MenuItem.dispatches]
    · show IsWorst _ (overall (sortedByName modules))
      have hseverities :
          (loadedSeverities (sortedByName modules)).Perm (loadedSeverities modules) :=
        (hperm.filter _).map _
      have hworst := isWorst_overall (sortedByName modules)
      simp only [IsWorst, hseverities.mem_iff, ← List.perm_nil] at hworst ⊢
      simpa only [hseverities.congr_left] using hworst
  · exact List.forall₂_map_right_iff.mpr (List.forall₂_same.mpr fun summary _ => ⟨rfl, rfl⟩)

end Penguind.Tray
