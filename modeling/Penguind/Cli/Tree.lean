import Penguind.Cli.Dispatch

/-!
# The command tree of the command line

The built-in verbs and the commands of the modules become the tree that the parser is built from,
with what the parser adds. It aborts on equal names in one command; the code compares only the
names of the modules with the verbs.
-/

namespace Penguind.Cli.Tree

/-! ## What the daemon lists -/

structure FlagSpec where
  name : String
  shorthand : String
  deriving DecidableEq, Repr

structure CommandSpec where
  name : String
  flags : List FlagSpec
  minArgs : Int32
  maxArgs : Int32
  subcommands : List CommandSpec

structure ModuleCommands where
  module : String
  commands : List CommandSpec

/-! ## The tree -/

structure Arg where
  id : String
  long : Option String
  short : Option Char
  deriving DecidableEq, Repr

structure Command where
  name : String
  args : List Arg
  subcommands : List Command

def buildFlagArg (flag : FlagSpec) : Arg := ⟨flag.name, some flag.name, flag.shorthand.toList.head?⟩

def argsArg (minArgs maxArgs : Int32) : Option Arg :=
  (argsPositional minArgs maxArgs).map fun _ => ⟨argsId, none, none⟩

mutual

def buildCommandSpec : CommandSpec → Command
  | ⟨name, flags, minArgs, maxArgs, subcommands⟩ =>
    ⟨name, flags.map buildFlagArg ++ (argsArg minArgs maxArgs).toList,
      buildCommandSpecs subcommands⟩

def buildCommandSpecs : List CommandSpec → List Command
  | [] => []
  | spec :: specs => buildCommandSpec spec :: buildCommandSpecs specs

end

def option (name : String) : Arg := ⟨name, some name, none⟩

def globals : List Arg := [option "socket", option "json"]

def moduleArg : Arg := ⟨"module", none, none⟩

def staticVerbs : List Command :=
  [⟨"version", [], []⟩, ⟨"modules", [], []⟩, ⟨"load", [moduleArg], []⟩, ⟨"unload", [moduleArg], []⟩,
    ⟨"status", [moduleArg], []⟩, ⟨"logs", [moduleArg, option "follow", option "lines"], []⟩,
    ⟨"update", [option "yes"], []⟩]

def reservedStaticVerbs : List String :=
  ["version", "modules", "load", "unload", "status", "logs", "update"]

def grafted (modules : List ModuleCommands) : List ModuleCommands :=
  modules.filter fun module =>
    !module.commands.isEmpty && !reservedStaticVerbs.contains module.module

def graftModules (modules : List ModuleCommands) : List Command :=
  (grafted modules).map fun module => ⟨module.module, [], buildCommandSpecs module.commands⟩

def root (modules : List ModuleCommands) : Command :=
  ⟨"pdcli", globals, staticVerbs ++ graftModules modules⟩

/-! ## What the parser makes of it -/

def helpArg : Arg := ⟨"help", some "help", some 'h'⟩

def Command.allArgs (command : Command) : List Arg :=
  let args := command.args ++ [helpArg]
  args ++ globals.filter fun arg => arg.id ∉ args.map Arg.id

def Command.allNames (command : Command) : List String :=
  let names := command.subcommands.map Command.name
  if names = [] then [] else names ++ ["help"]

structure Command.Apart (command : Command) : Prop where
  names : command.allNames.Nodup
  ids : (command.allArgs.map Arg.id).Nodup
  longs : (command.allArgs.filterMap Arg.long).Nodup
  shorts : (command.allArgs.filterMap Arg.short).Nodup

mutual

/-- The parser does not abort on the command or below. -/
def Command.Accepted : Command → Prop
  | ⟨name, args, subcommands⟩ => Command.Apart ⟨name, args, subcommands⟩ ∧ AllAccepted subcommands

def AllAccepted : List Command → Prop
  | [] => True
  | command :: commands => command.Accepted ∧ AllAccepted commands

end

/-- The names differ from each other and from that of the help. -/
def Fresh {A : Type} (help : A) (xs : List A) : Prop := xs.Nodup ∧ help ∉ xs

mutual

/-- Arguments and commands have fresh names, on every level. -/
def CommandSpec.Clean : CommandSpec → Prop
  | ⟨_, flags, _, maxArgs, subcommands⟩ =>
    Fresh "help" (flags.map FlagSpec.name ++ if maxArgs = 0 then [] else [argsId]) ∧
      Fresh 'h' (flags.filterMap fun flag => flag.shorthand.toList.head?) ∧
      Fresh "help" (subcommands.map CommandSpec.name) ∧ AllClean subcommands

def AllClean : List CommandSpec → Prop
  | [] => True
  | spec :: specs => spec.Clean ∧ AllClean specs

end

def CleanModules (modules : List ModuleCommands) : Prop :=
  Fresh "help" ((grafted modules).map ModuleCommands.module) ∧
    ∀ module ∈ grafted modules,
      Fresh "help" (module.commands.map CommandSpec.name) ∧ AllClean module.commands

theorem nodup_append_singleton {A : Type} {xs : List A} {x : A} :
    (xs ++ [x]).Nodup ↔ Fresh x xs := by
  rw [← List.concat_eq_append, List.nodup_concat, Fresh, and_comm]

theorem nodup_append_filter {A : Type} [DecidableEq A] {xs gs : List A} (hgs : gs.Nodup) :
    (xs ++ gs.filter fun g => g ∉ xs).Nodup ↔ xs.Nodup := by
  rw [List.nodup_append]
  refine ⟨fun h => h.1, fun h => ⟨h, hgs.filter _, ?_⟩⟩
  rintro x hx g hg rfl
  simp [hx] at hg

theorem sublist_longs {args : List Arg} (h : ∀ arg ∈ args, arg.long ∈ [none, some arg.id]) :
    (args.filterMap Arg.long).Sublist (args.map Arg.id) := by
  induction args with
  | nil => exact .slnil
  | cons arg args ih =>
    rw [List.forall_mem_cons] at h
    rcases List.mem_pair.mp h.1 with hlong | hlong
    · rw [List.filterMap_cons_none hlong]
      exact (ih h.2).cons _
    · rw [List.filterMap_cons_some hlong]
      exact (ih h.2).cons_cons _

section

variable (command : Command)

theorem ids_allArgs :
    (command.allArgs.map Arg.id).Nodup ↔ Fresh "help" (command.args.map Arg.id) := by
  have hids : command.allArgs.map Arg.id = (command.args ++ [helpArg]).map Arg.id ++
      (globals.map Arg.id).filter fun id => id ∉ (command.args ++ [helpArg]).map Arg.id := by
    rw [Command.allArgs, List.map_append, List.filter_map]
    rfl
  rw [hids, nodup_append_filter (by decide), List.map_append]
  exact nodup_append_singleton

theorem shorts_allArgs :
    (command.allArgs.filterMap Arg.short).Nodup ↔ Fresh 'h' (command.args.filterMap Arg.short) := by
  have hglobals : ∀ arg ∈ globals, arg.short = none := by decide
  have hnone : (globals.filter fun arg => arg.id ∉ (command.args ++ [helpArg]).map Arg.id).filterMap
      Arg.short = [] :=
    List.filterMap_eq_nil_iff.mpr fun arg harg => hglobals arg (List.mem_of_mem_filter harg)
  rw [Command.allArgs, List.filterMap_append, hnone, List.append_nil, List.filterMap_append]
  exact nodup_append_singleton

theorem nodup_allNames :
    command.allNames.Nodup ↔ Fresh "help" (command.subcommands.map Command.name) := by
  rw [Command.allNames]
  split
  · next h => simp [h, Fresh]
  · exact nodup_append_singleton

variable {command}

theorem Command.apart_iff (h : ∀ arg ∈ command.args, arg.long ∈ [none, some arg.id]) :
    command.Apart ↔ Fresh "help" (command.args.map Arg.id) ∧
      Fresh 'h' (command.args.filterMap Arg.short) ∧
      Fresh "help" (command.subcommands.map Command.name) := by
  rw [← nodup_allNames, ← ids_allArgs, ← shorts_allArgs]
  refine ⟨fun h => ⟨h.ids, h.shorts, h.names⟩, fun ⟨hids, hshorts, hnames⟩ => ?_⟩
  refine ⟨hnames, hids, hids.sublist (sublist_longs fun arg harg => ?_), hshorts⟩
  have hothers : ∀ arg ∈ helpArg :: globals, arg.long ∈ [none, some arg.id] := by decide
  simp only [Command.allArgs, List.mem_append, List.mem_singleton, List.mem_filter] at harg
  rcases harg with (harg | rfl) | harg
  · exact h arg harg
  · exact hothers helpArg List.mem_cons_self
  · exact hothers arg (List.mem_cons_of_mem _ harg.1)

end

theorem names_buildCommandSpecs (specs : List CommandSpec) :
    (buildCommandSpecs specs).map Command.name = specs.map CommandSpec.name := by
  induction specs with
  | nil => rfl
  | cons spec specs ih =>
    cases spec
    simp [buildCommandSpecs, buildCommandSpec, ih]

theorem toList_argsArg (minArgs maxArgs : Int32) :
    (argsArg minArgs maxArgs).toList = if maxArgs = 0 then [] else [⟨argsId, none, none⟩] := by
  rw [argsArg, argsPositional]
  split <;> rfl

mutual

theorem accepted_buildCommandSpec : ∀ spec : CommandSpec,
    (buildCommandSpec spec).Accepted ↔ spec.Clean
  | ⟨name, flags, minArgs, maxArgs, subcommands⟩ => by
    rw [buildCommandSpec, Command.Accepted, Command.apart_iff, CommandSpec.Clean,
      names_buildCommandSpecs, allAccepted_buildCommandSpecs subcommands, toList_argsArg]
    · by_cases h : maxArgs = 0 <;>
        simp [h, buildFlagArg, List.filterMap_map, Function.comp_def, and_assoc]
    · intro arg harg
      rw [toList_argsArg] at harg
      rcases List.mem_append.mp harg with harg | harg
      · obtain ⟨flag, -, rfl⟩ := List.mem_map.mp harg
        simp [buildFlagArg]
      · split at harg <;> simp_all

theorem allAccepted_buildCommandSpecs : ∀ specs : List CommandSpec,
    AllAccepted (buildCommandSpecs specs) ↔ AllClean specs
  | [] => .rfl
  | spec :: specs => by
    rw [buildCommandSpecs, AllAccepted, accepted_buildCommandSpec spec,
      allAccepted_buildCommandSpecs specs, AllClean]

end

theorem allAccepted_iff {commands : List Command} :
    AllAccepted commands ↔ ∀ command ∈ commands, command.Accepted := by
  induction commands with
  | nil => simp [AllAccepted]
  | cons command commands ih => simp [AllAccepted, ih]

theorem accepted_staticVerbs : AllAccepted staticVerbs := by
  simp only [staticVerbs, AllAccepted, Command.Accepted, and_true]
  refine ⟨?_, ?_, ?_, ?_, ?_, ?_, ?_⟩ <;> constructor <;> decide

/-- **The parser accepts the tree** exactly if names and letters are fresh. -/
theorem accepted_root_iff (modules : List ModuleCommands) :
    (root modules).Accepted ↔ CleanModules modules := by
  have hmodule : ∀ module ∈ grafted modules,
      (Command.Accepted ⟨module.module, [], buildCommandSpecs module.commands⟩ ↔
        Fresh "help" (module.commands.map CommandSpec.name) ∧ AllClean module.commands) := by
    intro module _
    rw [Command.Accepted, Command.apart_iff (by simp), names_buildCommandSpecs,
      allAccepted_buildCommandSpecs]
    simp [Fresh]
  have hnames : Fresh "help" ((staticVerbs ++ graftModules modules).map Command.name) ↔
      Fresh "help" ((grafted modules).map ModuleCommands.module) := by
    have hverbs : staticVerbs.map Command.name = reservedStaticVerbs := rfl
    have hgraft : (graftModules modules).map Command.name =
        (grafted modules).map ModuleCommands.module := by
      rw [graftModules, List.map_map]
      rfl
    -- a module with the name of a verb is not grafted
    have hapart : ∀ verb ∈ reservedStaticVerbs,
        ∀ name ∈ (grafted modules).map ModuleCommands.module, verb ≠ name := by
      rintro verb hverb _ hname rfl
      obtain ⟨module, hmodule, rfl⟩ := List.mem_map.mp hname
      simp [grafted, hverb] at hmodule
    have hnodup : reservedStaticVerbs.Nodup := by decide
    have hhelp : "help" ∉ reservedStaticVerbs := by decide
    rw [List.map_append, hverbs, hgraft, Fresh, List.nodup_append, List.mem_append, Fresh]
    simp only [hnodup, hhelp, true_and, false_or, and_iff_left hapart]
  have hglobals : ∀ arg ∈ globals, arg.long ∈ [none, some arg.id] := by decide
  have hroot : Fresh "help" (globals.map Arg.id) ∧ Fresh 'h' (globals.filterMap Arg.short) :=
    ⟨⟨by decide, by decide⟩, by decide, by decide⟩
  rw [root, Command.Accepted, Command.apart_iff hglobals, ← and_assoc, and_iff_right hroot, hnames,
    allAccepted_iff, List.forall_mem_append,
    and_iff_right (allAccepted_iff.mp accepted_staticVerbs), CleanModules, graftModules,
    List.forall_mem_map]
  exact and_congr_right fun _ => forall₂_congr hmodule

/-- **Names that clash** make the parser abort. -/
theorem clashing_names_abort :
    ¬ (root [⟨"demo", [⟨"run", [], 0, 0, []⟩]⟩, ⟨"demo", [⟨"run", [], 0, 0, []⟩]⟩]).Accepted ∧
      ¬ (root [⟨"demo", [⟨"help", [], 0, 0, []⟩]⟩]).Accepted ∧
      ¬ (root [⟨"demo", [⟨"run", [⟨"args", ""⟩], 0, 1, []⟩]⟩]).Accepted := by
  have hgrafted {modules : List ModuleCommands} (h : (root modules).Accepted) :=
    (List.forall_mem_append.mp (allAccepted_iff.mp h.2)).2
  refine ⟨fun h => ?_, fun h => ?_, fun h => ?_⟩
  · exact absurd h.1.names (by decide)
  · exact absurd (hgrafted h _ List.mem_cons_self).1.names (by decide)
  · have hcommand := allAccepted_iff.mp (hgrafted h _ List.mem_cons_self).2 _ List.mem_cons_self
    exact absurd hcommand.1.ids (by decide)

end Penguind.Cli.Tree
