import Mathlib.Algebra.Group.Int.Defs
import Mathlib.Data.List.Nodup

/-!
# Module commands on the command line

The commands of the modules form a tree. What the parser finds on a line is turned into a request
by a descent over it, and the chunks of the response into the exit status.
-/

namespace Penguind.Cli

inductive FlagKind
  | string
  | bool
  | int
  deriving DecidableEq, Repr

def flagKind (typeName : String) : FlagKind :=
  if typeName = "bool" then .bool else if typeName = "int" then .int else .string

structure FlagSpec where
  name : String
  type : String
  default : String
  deriving DecidableEq, Repr

structure CommandSpec where
  name : String
  flags : List FlagSpec
  minArgs : Int32
  maxArgs : Int32
  subcommands : List CommandSpec

inductive ArgValue
  | string (s : String)
  | bool (b : Bool)
  | int (n : Int64)
  deriving DecidableEq, Repr

def ArgValue.kind : ArgValue → FlagKind
  | .string _ => .string
  | .bool _ => .bool
  | .int _ => .int

def ArgValue.text : ArgValue → String
  | .string s => s
  | .bool b => toString b
  | .int n => toString n

/-! ## The parser -/

inductive ValueSource
  | defaultValue
  | commandLine
  deriving DecidableEq, Repr

structure Matched where
  source : ValueSource
  values : List ArgValue
  deriving DecidableEq, Repr

def argsId : String := "args"

def FlagSpec.defaultOf (flag : FlagSpec) : ArgValue :=
  match flagKind flag.type with
  | .bool => .bool (flag.default = "true")
  | .int =>
    .int (Int64.ofInt ((flag.default.toInt?.filter fun n => -2 ^ 63 ≤ n ∧ n < 2 ^ 63).getD 0))
  | .string => .string flag.default

/-- How many positional arguments a command takes. -/
structure Positional where
  min : Nat
  max : Option Nat
  required : Bool

def argsPositional (minArgs maxArgs : Int32) : Option Positional :=
  let min := minArgs.toInt.toNat
  if maxArgs = 0 then none
  else some ⟨min, if maxArgs < 0 then none else some (Nat.max maxArgs.toInt.toNat min), 0 < minArgs⟩

structure Level where
  flags : List (String × ArgValue)
  positionals : List String

inductive CommandLine
  | invoke (level : Level)
  | enter (level : Level) (name : String) (rest : CommandLine)

inductive ArgMatches
  | leaf (args : List (String × Matched))
  | sub (args : List (String × Matched)) (name : String) (rest : ArgMatches)

def parseFlag (typed : List (String × ArgValue)) (flag : FlagSpec) : String × Matched :=
  match typed.lookup flag.name with
  | some value => (flag.name, ⟨.commandLine, [value]⟩)
  | none => (flag.name, ⟨.defaultValue, [flag.defaultOf]⟩)

def parsePositionals (spec : CommandSpec) (positionals : List String) :
    Option (List (String × Matched)) :=
  match argsPositional spec.minArgs spec.maxArgs with
  | none => if positionals = [] then some [] else none
  | some p =>
    if positionals = [] then if p.required then none else some []
    else if p.min ≤ positionals.length ∧ ∀ m ∈ p.max, positionals.length ≤ m then
      some [(argsId, ⟨.commandLine, positionals.map .string⟩)]
    else none

/-- Every flag is typed once at most, with a value of its kind, and no two arguments have one name.
-/
def parseLevel (spec : CommandSpec) (level : Level) : Option (List (String × Matched)) := do
  let positionals ← parsePositionals spec level.positionals
  let args := spec.flags.map (parseFlag level.flags) ++ positionals
  if (args.map Prod.fst).Nodup ∧ (level.flags.map Prod.fst).Nodup ∧
      ∀ x ∈ level.flags, ∃ flag ∈ spec.flags, flag.name = x.1 ∧ flagKind flag.type = x.2.kind then
    some args
  else none

def parse (spec : CommandSpec) : CommandLine → Option ArgMatches
  | .invoke level => (parseLevel spec level).map .leaf
  | .enter level name rest => do
    let args ← parseLevel spec level
    let next ← spec.subcommands.find? fun sub => sub.name = name
    (parse next rest).map (.sub args name)

/-! ## The request -/

namespace ArgMatches

def args : ArgMatches → List (String × Matched)
  | .leaf args => args
  | .sub args _ _ => args

def valueSource (m : ArgMatches) (id : String) : Option ValueSource :=
  (m.args.lookup id).map Matched.source

def getOne (m : ArgMatches) (id : String) (kind : FlagKind) : Option ArgValue :=
  ((m.args.lookup id).bind fun x => x.values.head?).filter fun v => v.kind = kind

def getMany (m : ArgMatches) (id : String) : Option (List String) :=
  (m.args.lookup id).bind fun x => x.values.mapM fun
    | .string s => some s
    | .bool _ | .int _ => none

end ArgMatches

structure DispatchRequest where
  module : String
  path : List String
  flags : List (String × String)
  args : List String
  deriving DecidableEq, Repr

def collectFlags (flags : List FlagSpec) (m : ArgMatches) : List (String × String) :=
  flags.filterMap fun flag =>
    if m.valueSource flag.name = some .commandLine then
      (m.getOne flag.name (flagKind flag.type)).map fun value => (flag.name, value.text)
    else none

def descend (spec : CommandSpec) (path : List String) :
    ArgMatches → CommandSpec × ArgMatches × List String
  | .leaf args => (spec, .leaf args, path)
  | .sub args name rest =>
    match spec.subcommands.find? fun sub => sub.name = name with
    | none => (spec, .sub args name rest, path)
    | some next => descend next (path ++ [next.name]) rest

def resolveDispatch (module : String) (specs : List CommandSpec) (name : String)
    (m : ArgMatches) : Option DispatchRequest :=
  (specs.find? fun spec => spec.name = name).map fun spec =>
    let (last, m, path) := descend spec [spec.name] m
    ⟨module, path, collectFlags last.flags m, (m.getMany argsId).getD []⟩

/-! ## What was typed -/

namespace CommandLine

def last : CommandLine → Level
  | .invoke level => level
  | .enter _ _ rest => rest.last

def above : CommandLine → List Level
  | .invoke _ => []
  | .enter level _ rest => level :: rest.above

def names : CommandLine → List String
  | .invoke _ => []
  | .enter _ name rest => name :: rest.names

end CommandLine

def CommandSpec.follow (spec : CommandSpec) : List String → Option CommandSpec
  | [] => some spec
  | name :: names => do
    let next ← spec.subcommands.find? fun sub => sub.name = name
    next.follow names

/-- The request is what was typed. -/
def Right (name : String) (line : CommandLine) (request : DispatchRequest) : Prop :=
  request.path = name :: line.names ∧ request.args = line.last.positionals ∧
    ∀ x, x ∈ request.flags ↔
      ∃ level ∈ line.last :: line.above, ∃ flag ∈ level.flags, x = (flag.1, flag.2.text)

/-- Flags above the invoked command are typed there as well, and no flag with texts is called
`args`. -/
def Plain (line : CommandLine) (last : CommandSpec) : Prop :=
  (∀ level ∈ line.above, ∀ x ∈ level.flags,
      ∃ y ∈ line.last.flags, y.1 = x.1 ∧ y.2.text = x.2.text) ∧
    ∀ flag ∈ last.flags, flag.name = argsId → flagKind flag.type ≠ .string

section

variable {spec next : CommandSpec} {level : Level} {line : CommandLine} {m : ArgMatches}
  {args : List (String × Matched)} {path : List String}

theorem descend_of_parse (path : List String) (h : parse spec line = some m) :
    ∃ last args, spec.follow line.names = some last ∧ parseLevel last line.last = some args ∧
      descend spec path m = (last, .leaf args, path ++ line.names) := by
  induction line generalizing spec m path with
  | invoke level =>
    obtain ⟨args, hargs, rfl⟩ := Option.map_eq_some_iff.mp h
    exact ⟨spec, args, rfl, hargs, by simp [descend, CommandLine.names]⟩
  | enter level name rest ih =>
    simp only [parse, Option.bind_eq_bind, Option.bind_eq_some_iff, Option.map_eq_some_iff] at h
    obtain ⟨args, -, next, hnext, m, hm, rfl⟩ := h
    obtain ⟨last, args', hfollow, hlast, hd⟩ := ih (path ++ [next.name]) hm
    obtain rfl : next.name = name := by simpa using List.find?_some hnext
    refine ⟨last, args', by simpa [CommandLine.names, CommandSpec.follow, hnext] using hfollow,
      hlast, ?_⟩
    simp only [descend, hnext, hd, CommandLine.names, List.append_assoc, List.singleton_append]

theorem parseLevel_eq_some (h : parseLevel spec level = some args) :
    ∃ positionals, parsePositionals spec level.positionals = some positionals ∧
      args = spec.flags.map (parseFlag level.flags) ++ positionals ∧ (args.map Prod.fst).Nodup ∧
      (level.flags.map Prod.fst).Nodup ∧
      ∀ x ∈ level.flags, ∃ flag ∈ spec.flags, flag.name = x.1 ∧ flagKind flag.type = x.2.kind := by
  simp only [parseLevel, Option.bind_eq_bind, Option.bind_eq_some_iff] at h
  obtain ⟨positionals, hp, h⟩ := h
  split_ifs at h with hok
  cases h
  exact ⟨positionals, hp, rfl, hok⟩

theorem lookup_of_mem {β : Type} {l : List (String × β)} (hl : (l.map Prod.fst).Nodup)
    {name : String} {b : β} (h : (name, b) ∈ l) : l.lookup name = some b := by
  induction l with
  | nil => cases h
  | cons x l ih =>
    obtain ⟨hx, hl⟩ := List.nodup_cons.mp hl
    rw [List.lookup_cons]
    rcases List.mem_cons.mp h with rfl | h
    · simp
    · have hne : name ≠ x.1 := by
        rintro rfl
        exact hx (List.mem_map.mpr ⟨_, h, rfl⟩)
      rw [beq_false_of_ne hne]
      exact ih hl h

theorem mem_of_lookup {β : Type} {l : List (String × β)} {name : String} {b : β}
    (h : l.lookup name = some b) : (name, b) ∈ l := by
  obtain ⟨l₁, l₂, rfl, -⟩ := List.lookup_eq_some_iff.mp h
  exact List.mem_append_right _ List.mem_cons_self

theorem parseFlag_fst (typed : List (String × ArgValue)) (flag : FlagSpec) :
    (parseFlag typed flag).1 = flag.name := by
  unfold parseFlag
  split <;> rfl

theorem lookup_flag (h : parseLevel spec level = some args) {flag : FlagSpec}
    (hf : flag ∈ spec.flags) : args.lookup flag.name = some (parseFlag level.flags flag).2 := by
  obtain ⟨positionals, -, rfl, hnodup, -⟩ := parseLevel_eq_some h
  refine lookup_of_mem hnodup (List.mem_append_left _ (List.mem_map.mpr ⟨flag, hf, ?_⟩))
  rw [← parseFlag_fst level.flags flag]

theorem mem_collectFlags (h : parseLevel spec level = some args) {x : String × String} :
    x ∈ collectFlags spec.flags (.leaf args) ↔ ∃ y ∈ level.flags, x = (y.1, y.2.text) := by
  obtain ⟨-, -, -, -, htyped, hfits⟩ := parseLevel_eq_some h
  rw [collectFlags, List.mem_filterMap]
  constructor
  · rintro ⟨flag, hf, hx⟩
    simp only [ArgMatches.valueSource, ArgMatches.getOne, ArgMatches.args, lookup_flag h hf,
      parseFlag] at hx
    cases hv : level.flags.lookup flag.name with
    | none => simp [hv] at hx
    | some v =>
      simp only [hv, Option.map_some, if_true, Option.bind_some, List.head?_cons,
        Option.map_eq_some_iff, Option.filter_eq_some_iff, Option.some.injEq] at hx
      obtain ⟨_, ⟨rfl, -⟩, rfl⟩ := hx
      exact ⟨(flag.name, v), mem_of_lookup hv, rfl⟩
  · rintro ⟨y, hy, rfl⟩
    obtain ⟨flag, hf, hname, hkind⟩ := hfits y hy
    have hv : level.flags.lookup flag.name = some y.2 := hname ▸ lookup_of_mem htyped hy
    refine ⟨flag, hf, ?_⟩
    simp only [ArgMatches.valueSource, ArgMatches.getOne, ArgMatches.args, lookup_flag h hf,
      parseFlag, hv]
    simp [hkind, hname]

theorem mapM_string (texts : List String) :
    (texts.map ArgValue.string).mapM (fun
      | .string s => some s
      | .bool _ | .int _ => none) = some texts := by
  induction texts with
  | nil => rfl
  | cons t texts ih => simp [ih]

theorem parsePositionals_cases {positionals : List String} {found : List (String × Matched)}
    (h : parsePositionals spec positionals = some found) :
    positionals = [] ∧ found = [] ∨
      found = [(argsId, ⟨.commandLine, positionals.map .string⟩)] := by
  revert h
  fun_cases parsePositionals spec positionals with rintro ⟨⟩
  | case1 _ h | case4 _ _ h => exact .inl ⟨h, rfl⟩
  | case5 => exact .inr rfl

theorem eq_of_name_eq (h : parseLevel spec level = some args) {flag flag' : FlagSpec}
    (hf : flag ∈ spec.flags) (hf' : flag' ∈ spec.flags) (hname : flag.name = flag'.name) :
    flag = flag' := by
  obtain ⟨found, -, rfl, hnodup, -⟩ := parseLevel_eq_some h
  rw [List.map_append, List.map_map] at hnodup
  have hnames : (spec.flags.map FlagSpec.name).Nodup := by
    simpa only [Function.comp_def, parseFlag_fst] using (List.nodup_append.mp hnodup).1
  exact List.inj_on_of_nodup_map hnames hf hf' hname

theorem parseFlag_values (h : parseLevel spec level = some args) {flag : FlagSpec}
    (hf : flag ∈ spec.flags) :
    ∃ v, (parseFlag level.flags flag).2.values = [v] ∧ v.kind = flagKind flag.type := by
  obtain ⟨-, -, -, -, -, hfits⟩ := parseLevel_eq_some h
  fun_cases parseFlag level.flags flag with
  | case1 v hv =>
    obtain ⟨flag', hf', hname, hkind⟩ := hfits _ (mem_of_lookup hv)
    obtain rfl := eq_of_name_eq h hf' hf hname
    exact ⟨v, rfl, hkind.symm⟩
  | case2 =>
    refine ⟨flag.defaultOf, rfl, ?_⟩
    fun_cases FlagSpec.defaultOf flag <;> simp_all [ArgValue.kind]

theorem getMany_eq_iff (h : parseLevel spec level = some args) :
    ((ArgMatches.leaf args).getMany argsId).getD [] = level.positionals ↔
      ∀ flag ∈ spec.flags, flag.name = argsId → flagKind flag.type ≠ .string := by
  obtain ⟨found, hp, hargs, hnodup, -⟩ := parseLevel_eq_some h
  have hfound := parsePositionals_cases hp
  by_cases hflag : ∃ flag ∈ spec.flags, flag.name = argsId
  · obtain ⟨flag, hf, hname⟩ := hflag
    have hlookup := lookup_flag h hf
    obtain ⟨v, hv, hkind⟩ := parseFlag_values h hf
    have hnil : level.positionals = [] := by
      rcases hfound with ⟨hnil, -⟩ | rfl
      · exact hnil
      · rw [hargs, List.map_append] at hnodup
        refine absurd rfl ((List.nodup_append.mp hnodup).2.2 argsId ?_ argsId List.mem_cons_self)
        exact List.mem_map.mpr ⟨_, List.mem_map_of_mem hf, hname ▸ parseFlag_fst _ _⟩
    have honly : (∀ flag ∈ spec.flags, flag.name = argsId → flagKind flag.type ≠ .string) ↔
        v.kind ≠ .string := by
      rw [hkind]
      refine ⟨fun hall => hall flag hf hname, fun hv flag' hf' hname' => ?_⟩
      rwa [eq_of_name_eq h hf' hf (hname'.trans hname.symm)]
    rw [honly, hnil, ArgMatches.getMany, ArgMatches.args, ← hname, hlookup, Option.bind_some, hv]
    cases v <;> simp [ArgValue.kind]
  · have hnone : ∀ flag ∈ spec.flags, flag.name ≠ argsId :=
      fun flag hf hname => hflag ⟨flag, hf, hname⟩
    refine iff_of_true ?_ fun flag hf hname => absurd hname (hnone flag hf)
    rcases hfound with ⟨hnil, rfl⟩ | rfl
    · have hlookup : args.lookup argsId = none := by
        rw [hargs, List.append_nil, List.lookup_eq_none_iff]
        intro x hx
        obtain ⟨flag, hf, rfl⟩ := List.mem_map.mp hx
        simpa [parseFlag_fst] using (hnone flag hf).symm
      rw [hnil, ArgMatches.getMany, ArgMatches.args, hlookup]
      rfl
    · have hlookup : args.lookup argsId = some ⟨.commandLine, level.positionals.map .string⟩ :=
        lookup_of_mem hnodup (by simp [hargs])
      rw [ArgMatches.getMany, ArgMatches.args, hlookup]
      exact congrArg (fun texts => texts.getD []) (mapM_string _)

end

def keyCommand : CommandSpec where
  name := "key"
  flags := [⟨"profile", "string", ""⟩]
  minArgs := 0
  maxArgs := 0
  subcommands := [⟨"set", [⟨"force", "bool", "false"⟩], 1, -1, []⟩]

def keySet (above : List (String × ArgValue)) : CommandLine :=
  .enter ⟨above, []⟩ "set" (.invoke ⟨[("force", .bool true)], ["a", "b"]⟩)

structure DispatchChunk where
  output : String
  json : List UInt8
  exitCode : Int32
  final : Bool
  deriving DecidableEq, Repr

structure CommandResult where
  output : String
  json : List UInt8
  exitCode : Int32

def dispatch (result : CommandResult) : List DispatchChunk :=
  [⟨result.output, result.json, result.exitCode, true⟩]

structure ChunkAccumulator where
  exitCode : Int32

def ChunkAccumulator.new : ChunkAccumulator := ⟨0⟩

def ChunkAccumulator.record (acc : ChunkAccumulator) (chunk : DispatchChunk) : ChunkAccumulator :=
  if chunk.final then ⟨chunk.exitCode⟩ else acc

def exitCodeFrom (code : Int32) : UInt8 := UInt8.ofNat (min (max code.toInt 0) 255).toNat

def failureStatus : UInt8 := 1

inductive Response
  | refused
  | stream (chunks : List DispatchChunk) (brokenOff : Bool)

def cmdDispatch (request : Option DispatchRequest) (daemon : Option (DispatchRequest → Response)) :
    UInt8 :=
  match request, daemon with
  | none, _ | some _, none => failureStatus
  | some request, some client =>
    match client request with
    | .refused => failureStatus
    | .stream chunks brokenOff =>
      if brokenOff then failureStatus
      else exitCodeFrom (chunks.foldl ChunkAccumulator.record .new).exitCode

def lastFinal (chunks : List DispatchChunk) : Option Int32 :=
  ((chunks.filter DispatchChunk.final).map DispatchChunk.exitCode).getLast?

theorem exitCode_foldl (chunks : List DispatchChunk) (acc : ChunkAccumulator) :
    (chunks.foldl ChunkAccumulator.record acc).exitCode = (lastFinal chunks).getD acc.exitCode := by
  induction chunks generalizing acc with
  | nil => rfl
  | cons chunk chunks ih =>
    rw [List.foldl_cons, ih]
    unfold lastFinal ChunkAccumulator.record
    cases hf : chunk.final with
    | false => simp [hf]
    | true => simp [hf, List.getLast?_cons]

theorem exitCodeFrom_eq_zero_iff (code : Int32) : exitCodeFrom code = 0 ↔ code ≤ 0 := by
  have hzero : (0 : Int32).toInt = 0 := rfl
  have hbyte : (min (max code.toInt 0) 255).toNat < 256 := by omega
  rw [exitCodeFrom, ← UInt8.toNat_inj, UInt8.toNat_ofNat_of_lt' hbyte, Int32.le_iff_toInt_le, hzero]
  show _ = 0 ↔ _
  omega

/-- The stream has ended, and the exit code of its last final chunk has the property. -/
def EndsWith (p : Int32 → Prop) (request : Option DispatchRequest)
    (daemon : Option (DispatchRequest → Response)) : Prop :=
  ∃ r client chunks, request = some r ∧ daemon = some client ∧ client r = .stream chunks false ∧
    ∀ code ∈ lastFinal chunks, p code

theorem cmdDispatch_eq_zero_iff {request : Option DispatchRequest}
    {daemon : Option (DispatchRequest → Response)} :
    cmdDispatch request daemon = 0 ↔ EndsWith (· ≤ 0) request daemon := by
  fun_cases cmdDispatch request daemon with
  | case5 r client chunks brokenOff hstream hends =>
    obtain rfl : brokenOff = false := Bool.eq_false_iff.mpr hends
    simp only [EndsWith, Option.some.injEq, exists_and_left, exists_eq_left', hstream,
      exitCodeFrom_eq_zero_iff, exitCode_foldl, Response.stream.injEq, and_true]
    cases lastFinal chunks <;> simp [ChunkAccumulator.new]
  | _ => simp_all [EndsWith, failureStatus]

/-- **The exit status is zero for success alone** exactly if no last final chunk has a negative
code. -/
theorem exit_status_right_iff (request : Option DispatchRequest)
    (daemon : Option (DispatchRequest → Response)) :
    (cmdDispatch request daemon = 0 ↔ EndsWith (· = 0) request daemon) ↔
      ∀ r client chunks, request = some r → daemon = some client →
        client r = .stream chunks false → ∀ code ∈ lastFinal chunks, 0 ≤ code := by
  rw [cmdDispatch_eq_zero_iff]
  constructor
  · rintro h r client chunks rfl rfl hstream code hcode
    by_contra hneg
    have hle : code ≤ 0 := by
      rw [Int32.le_iff_toInt_le] at hneg ⊢
      omega
    obtain ⟨_, _, _, ⟨⟩, ⟨⟩, hstream', hzero⟩ := h.mp ⟨r, client, chunks, rfl, rfl, hstream,
      fun code' hcode' => Option.mem_unique hcode hcode' ▸ hle⟩
    cases hstream.symm.trans hstream'
    exact hneg (hzero code hcode ▸ Int32.le_refl 0)
  · intro h
    constructor
    · rintro ⟨r, client, chunks, rfl, rfl, hstream, hle⟩
      exact ⟨r, client, chunks, rfl, rfl, hstream, fun code hcode =>
        Int32.le_antisymm (hle code hcode) (h r client chunks rfl rfl hstream code hcode)⟩
    · rintro ⟨r, client, chunks, rfl, rfl, hstream, hzero⟩
      exact ⟨r, client, chunks, rfl, rfl, hstream, fun code hcode =>
        hzero code hcode ▸ Int32.le_refl 0⟩

/-- **A negative exit code is success.** -/
theorem negative_code_succeeds :
    let daemon := fun _ : DispatchRequest => Response.stream (dispatch ⟨"killed", [], -1⟩) false
    cmdDispatch (some ⟨"waddleai", ["key"], [], []⟩) (some daemon) = 0 ∧
      lastFinal (dispatch ⟨"killed", [], -1⟩) = some (-1) := by
  decide

end Penguind.Cli
