import Mathlib.Tactic.Common

/-!
# From a plugin to the tray

The commands of a plugin are converted four times on their way to the tray, and the times it
reports are decoded in the host and encoded again in the daemon.
-/

namespace Penguind.Tray.Snapshot

inductive FlagType
  | string
  | bool
  | int
  deriving DecidableEq

def FlagType.asStr : FlagType → String
  | .string => "string"
  | .bool => "bool"
  | .int => "int"

def FlagType.parse (value : String) : FlagType :=
  if value = "bool" then .bool else if value = "int" then .int else .string

structure FlagSpec (Kind : Type) where
  name : String
  shorthand : String
  usage : String
  default : String
  flagType : Kind

structure CommandSpec (Kind : Type) where
  name : String
  useLine : String
  short : String
  flags : List (FlagSpec Kind)
  subcommands : List (CommandSpec Kind)
  tray : Bool
  minArgs : Int32
  maxArgs : Int32

/-! ## The conversions -/

section Convert

variable {Kind Kind' : Type}

def FlagSpec.convert (f : Kind → Kind') : FlagSpec Kind → FlagSpec Kind'
  | ⟨name, shorthand, usage, default, flagType⟩ => ⟨name, shorthand, usage, default, f flagType⟩

mutual

def CommandSpec.convert (f : FlagSpec Kind → FlagSpec Kind') : CommandSpec Kind → CommandSpec Kind'
  | ⟨name, useLine, short, flags, subcommands, tray, minArgs, maxArgs⟩ =>
    ⟨name, useLine, short, flags.map f, convertAll f subcommands, tray, minArgs, maxArgs⟩

def convertAll (f : FlagSpec Kind → FlagSpec Kind') : List (CommandSpec Kind) →
    List (CommandSpec Kind')
  | [] => []
  | command :: commands => command.convert f :: convertAll f commands

end

end Convert

namespace Sdk

def flagSpecToProto : FlagSpec FlagType → FlagSpec String := .convert FlagType.asStr

def flagSpecFromProto : FlagSpec String → FlagSpec FlagType := .convert FlagType.parse

def commandSpecToProto : CommandSpec FlagType → CommandSpec String := .convert flagSpecToProto

def commandSpecFromProto : CommandSpec String → CommandSpec FlagType := .convert flagSpecFromProto

def unixNanoToSystemTime (nanos : Int64) : Int :=
  if 0 ≤ nanos.toInt then nanos.toInt.natAbs else -nanos.toInt.natAbs

end Sdk

namespace Daemon

def flagSpecToDaemonProto : FlagSpec FlagType → FlagSpec String := .convert FlagType.asStr

def commandSpecToDaemonProto : CommandSpec FlagType → CommandSpec String :=
  .convert flagSpecToDaemonProto

/-- `none` if the negation overflows. -/
def systemTimeToUnixNano (time : Int) : Option Int64 :=
  if 0 ≤ time then some (.ofInt time)
  else
    let nanos := Int64.ofInt (-time)
    if nanos = Int64.minValue then none else some (-nanos)

end Daemon

def flagSpecFromDaemonProto : FlagSpec String → FlagSpec FlagType := .convert FlagType.parse

def commandSpecFromDaemonProto : CommandSpec String → CommandSpec FlagType :=
  .convert flagSpecFromDaemonProto

def received (command : CommandSpec FlagType) : CommandSpec FlagType :=
  commandSpecFromDaemonProto (Daemon.commandSpecToDaemonProto
    (Sdk.commandSpecFromProto (Sdk.commandSpecToProto command)))

/-! ## What arrives -/

section Convert

variable {Kind Kind' : Type} {f : FlagSpec Kind → FlagSpec Kind'}
  {g : FlagSpec Kind' → FlagSpec Kind}

mutual

theorem convert_convert (h : ∀ flag, g (f flag) = flag) :
    ∀ command : CommandSpec Kind, (command.convert f).convert g = command
  | ⟨name, useLine, short, flags, subcommands, tray, minArgs, maxArgs⟩ => by
    have hflags : (flags.map f).map g = flags := by
      rw [List.map_map]
      exact (List.map_congr_left fun flag _ => h flag).trans (List.map_id flags)
    simp only [CommandSpec.convert, hflags, convertAll_convertAll h subcommands]

theorem convertAll_convertAll (h : ∀ flag, g (f flag) = flag) :
    ∀ commands : List (CommandSpec Kind), convertAll g (convertAll f commands) = commands
  | [] => rfl
  | command :: commands => by
    rw [convertAll, convertAll, convert_convert h command, convertAll_convertAll h commands]

end

end Convert

theorem parse_asStr (t : FlagType) : FlagType.parse t.asStr = t := by
  cases t <;> decide

theorem systemTimeToUnixNano_iff (nanos : Int64) :
    Daemon.systemTimeToUnixNano (Sdk.unixNanoToSystemTime nanos) = some nanos ↔
      nanos ≠ Int64.minValue := by
  have htime : Sdk.unixNanoToSystemTime nanos = nanos.toInt := by
    rw [Sdk.unixNanoToSystemTime]
    split <;> omega
  rw [htime, Daemon.systemTimeToUnixNano]
  by_cases h : 0 ≤ nanos.toInt
  · rw [if_pos h, Int64.ofInt_toInt]
    refine iff_of_true rfl ?_
    rintro rfl
    exact absurd h (by decide)
  · have hneg : -nanos = Int64.minValue ↔ nanos = Int64.minValue := by
      constructor
      · intro hmin
        have hnanos : - -nanos = nanos := Int64.neg_neg
        rw [← hnanos, hmin]
        decide
      · rintro rfl
        decide
    simp only [if_neg h, Int64.ofInt_neg, Int64.ofInt_toInt, hneg]
    split <;> simp_all

/-- **The tray receives what was declared**, and times are encoded back exactly if not the least
number. -/
theorem conversions_right_iff (command : CommandSpec FlagType) (nanos : Int64) :
    received command = command ∧
    (Daemon.systemTimeToUnixNano (Sdk.unixNanoToSystemTime nanos) = some nanos ↔
      nanos ≠ Int64.minValue) := by
  refine ⟨?_, systemTimeToUnixNano_iff nanos⟩
  have hflag : ∀ flag : FlagSpec FlagType, (flag.convert FlagType.asStr).convert .parse = flag := by
    intro flag
    simp only [FlagSpec.convert, parse_asStr]
  have hsdk : Sdk.commandSpecFromProto (Sdk.commandSpecToProto command) = command :=
    convert_convert hflag command
  rw [received, hsdk]
  exact convert_convert hflag command

/-- **The least number overflows.** -/
theorem least_time_overflows :
    Daemon.systemTimeToUnixNano (Sdk.unixNanoToSystemTime Int64.minValue) = none := by
  decide

end Penguind.Tray.Snapshot
