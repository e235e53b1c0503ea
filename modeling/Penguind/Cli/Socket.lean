import Mathlib.Data.List.Basic

/-!
# The socket option before the parse

The commands come from the daemon, so a scan of the raw arguments looks for the socket before the
parse. A line stands here as the parser reads it, which the scan does not know.
-/

namespace Penguind.Cli

/-! ## The scan -/

def defaultSocketPath : String := "/run/penguin/penguind.sock"

def stripStart (start arg : String) : Option String :=
  if start.toList <+: arg.toList then some (String.ofList (arg.toList.drop start.toList.length))
  else none

def attached (arg : String) : Option String :=
  (stripStart "--socket=" arg).or (stripStart "-socket=" arg)

def isSocketFlag (arg : String) : Bool := arg = "--socket" ∨ arg = "-socket"

/-- Every value the loop finds, with the place of its option. -/
def overridesFrom (i : Nat) : List String → List (Nat × String)
  | [] => []
  | [arg] => ((attached arg).map fun value => (i, value)).toList
  | arg :: value :: rest =>
    match attached arg with
    | some joined => (i, joined) :: overridesFrom (i + 1) (value :: rest)
    | none =>
      if isSocketFlag arg then (i, value) :: overridesFrom (i + 2) rest
      else overridesFrom (i + 1) (value :: rest)

def extractSocketOverride (args : List String) : Option String :=
  (overridesFrom 0 args).getLast?.map Prod.snd

def socketPath (args : List String) : String :=
  (extractSocketOverride args).getD defaultSocketPath

/-! ## The line as the parser reads it -/

inductive Piece
  | socket (value : String) (joined : Bool)
  | text (arg : String)
  deriving DecidableEq, Repr

def Piece.args : Piece → List String
  | .socket value true => ["--socket=" ++ value]
  | .socket value false => ["--socket", value]
  | .text arg => [arg]

def flatten (pieces : List Piece) : List String := pieces.flatMap Piece.args

def givenFrom (i : Nat) : List Piece → List (Nat × String)
  | [] => []
  | .socket value joined :: pieces => (i, value) :: givenFrom (i + if joined then 1 else 2) pieces
  | .text _ :: pieces => givenFrom (i + 1) pieces

/-- The last value of the option, or the default. -/
def assigned (pieces : List Piece) : String :=
  ((givenFrom 0 pieces).getLast?.map Prod.snd).getD defaultSocketPath

/-- No text reads like the option with a value. -/
def Unambiguous : List Piece → Prop
  | [] => True
  | .socket _ _ :: pieces => Unambiguous pieces
  | .text arg :: pieces =>
    attached arg = none ∧ (isSocketFlag arg = true → pieces = []) ∧ Unambiguous pieces

theorem attached_joined (value : String) : attached ("--socket=" ++ value) = some value := by
  have hstart : "--socket=".toList <+: ("--socket=" ++ value).toList := by
    rw [String.toList_append]
    exact List.prefix_append _ _
  rw [attached, stripStart, if_pos hstart, String.toList_append, List.drop_left,
    String.ofList_toList]
  rfl

section

variable {i : Nat} {arg value : String} {rest : List String} {pieces : List Piece}

theorem overridesFrom_of_attached (h : attached arg = some value) :
    overridesFrom i (arg :: rest) = (i, value) :: overridesFrom (i + 1) rest := by
  cases rest <;> simp [overridesFrom, h]

theorem overridesFrom_of_flag (h : attached arg = none) (hflag : isSocketFlag arg = true) :
    overridesFrom i (arg :: value :: rest) = (i, value) :: overridesFrom (i + 2) rest := by
  simp [overridesFrom, h, hflag]

theorem overridesFrom_of_text (h : attached arg = none)
    (hflag : isSocketFlag arg = true → rest = []) :
    overridesFrom i (arg :: rest) = overridesFrom (i + 1) rest := by
  cases rest with
  | nil => simp [overridesFrom, h]
  | cons value rest => simp_all [overridesFrom]

theorem le_of_mem_givenFrom {x : Nat × String} (h : x ∈ givenFrom i pieces) : i ≤ x.1 := by
  fun_induction givenFrom i pieces with
  | case1 => cases h
  | case2 i value joined pieces ih =>
    rcases List.mem_cons.mp h with rfl | h
    · exact Nat.le_refl i
    · exact Nat.le_trans (Nat.le_add_right _ _) (ih h)
  | case3 i arg pieces ih => exact Nat.le_of_succ_le (ih h)

theorem cons_ne_givenFrom {found : List (Nat × String)} :
    (i, value) :: found ≠ givenFrom (i + 1) pieces := by
  intro h
  have hle : i + 1 ≤ i := le_of_mem_givenFrom (h ▸ List.mem_cons_self)
  omega

theorem flatten_eq_nil : flatten pieces = [] ↔ pieces = [] := by
  cases pieces with
  | nil => simp [flatten]
  | cons piece pieces => rcases piece with ⟨value, _ | _⟩ | arg <;> simp [flatten, Piece.args]

theorem overridesFrom_eq_iff (i : Nat) (pieces : List Piece) :
    overridesFrom i (flatten pieces) = givenFrom i pieces ↔ Unambiguous pieces := by
  fun_induction givenFrom i pieces with
  | case1 i => simp [flatten, overridesFrom, Unambiguous]
  | case2 i value joined pieces ih =>
    cases joined with
    | true =>
      show overridesFrom i (("--socket=" ++ value) :: flatten pieces) = _ ↔ _
      rw [overridesFrom_of_attached (attached_joined value), List.cons_inj_right]
      exact ih
    | false =>
      show overridesFrom i ("--socket" :: value :: flatten pieces) = _ ↔ _
      rw [overridesFrom_of_flag (by decide) (by decide), List.cons_inj_right]
      exact ih
  | case3 i arg pieces ih =>
    show overridesFrom i (arg :: flatten pieces) = _ ↔ _
    rw [Unambiguous]
    cases hattached : attached arg with
    | some value =>
      rw [overridesFrom_of_attached hattached]
      exact iff_of_false cons_ne_givenFrom (by simp)
    | none =>
      by_cases hflag : isSocketFlag arg = true → pieces = []
      · rw [overridesFrom_of_text hattached fun h => flatten_eq_nil.mpr (hflag h), ih]
        exact ⟨fun h => ⟨rfl, hflag, h⟩, fun h => h.2.2⟩
      · rw [Classical.not_imp, ← flatten_eq_nil] at hflag
        obtain ⟨value, rest, hrest⟩ := List.exists_cons_of_ne_nil hflag.2
        rw [hrest, overridesFrom_of_flag hattached hflag.1]
        exact iff_of_false cons_ne_givenFrom (by simp [← flatten_eq_nil, hflag, hrest])

end

/-- **The path that is dialed** is the one the parser assigns exactly if no other text reads like
the option. -/
theorem socketPath_iff (pieces : List Piece) :
    (socketPath (flatten pieces) = assigned pieces ∧
      overridesFrom 0 (flatten pieces) = givenFrom 0 pieces) ↔ Unambiguous pieces := by
  rw [← overridesFrom_eq_iff 0]
  refine and_iff_right_of_imp fun h => ?_
  rw [socketPath, extractSocketOverride, h]
  rfl

/-- **Texts are taken**: a module name after a double dash, and a value attached to the shorthand
`s`. -/
theorem texts_override :
    let afterDash : List Piece := [.text "load", .text "--", .text "--socket=/tmp/x.sock"]
    let ofShorthand : List Piece := [.text "demo", .text "run", .text "-socket=/tmp/x.sock"]
    (flatten afterDash = ["load", "--", "--socket=/tmp/x.sock"] ∧
      socketPath (flatten afterDash) = "/tmp/x.sock" ∧ assigned afterDash = defaultSocketPath) ∧
    (flatten ofShorthand = ["demo", "run", "-socket=/tmp/x.sock"] ∧
      socketPath (flatten ofShorthand) = "/tmp/x.sock" ∧
      assigned ofShorthand = defaultSocketPath) := by
  decide

end Penguind.Cli
