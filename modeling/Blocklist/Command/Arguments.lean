import Blocklist.ContentRule.Compile
/-!
The command line. Options may stand anywhere among the other arguments, until `--` ends them. The
arguments are read from left to right, and the first thing that is wrong or asks for help decides.
-/

namespace Blocklist

/-- What the commands that run the detector have in common. -/
structure EngineOptions where
  dataset : String
  /-- The file with the public suffixes. -/
  psl : Option String
  trustedSites : List String
deriving DecidableEq

/-- What the program is to do. -/
inductive Command where
  /-- Compile descriptors into a dataset and a list of rules. -/
  | build (trackers entities datasetOut rulesOut : String) (options : CompileOptions)
  /-- Classify one request. -/
  | classify (engine : EngineOptions) (resource page : String) (type : Option String)
  /-- Check the detector against a table. -/
  | validate (engine : EngineOptions) (input : String) (rules mismatches : Option String)
deriving DecidableEq

namespace Arguments

/-- Why the arguments give no command. -/
inductive Stop where
  | help
  | invalid
deriving DecidableEq, Repr

/-- An option with a value. -/
structure Setting where
  /-- The name, without the hyphens. -/
  name : String
  letter : Option Char
  /-- Whether the option may be given more than once. -/
  isList : Bool
  accepts : String → Bool

/-- What a command takes. -/
structure Usage where
  settings : List Setting
  /-- Tests for the arguments that are no options, one for each. -/
  operands : List (String → Bool)

/-- The arguments so far. -/
structure Given where
  verbose : Bool
  /-- The values of options, in their order. -/
  values : List (String × String)
  operands : List String
deriving Inhabited

def isPath (s : String) : Bool := !s.isEmpty

def isAny (_ : String) : Bool := true

def Given.set (g : Given) (s : Setting) (value : String) : Except Stop Given :=
  if !s.isList && g.values.any (·.1 == s.name) then .error .invalid
  else if s.accepts value then .ok { g with values := g.values ++ [(s.name, value)] }
  else .error .invalid

def Given.addOperand (u : Usage) (g : Given) (value : String) : Except Stop Given :=
  match u.operands[g.operands.length]? with
  | some accepts =>
    if accepts value then .ok { g with operands := g.operands ++ [value] } else .error .invalid
  | none => .error .invalid

/-- Takes the flag for more messages. It may be given once. -/
def Given.setVerbose (g : Given) : Except Stop Given :=
  if g.verbose then .error .invalid else .ok { g with verbose := true }

/-- Whether an argument can be the value of the option in front of it. -/
def isValue (arg : String) : Bool :=
  arg == "-" || arg.toList.head? != some '-'

/-- An option that still needs its value, if it is not complete. -/
abbrev Pending := Given × Option Setting

/-- Takes an option that is given by its name, with its value if that is attached. -/
def takeName (u : Usage) (g : Given) (option : List Char) : Except Stop Pending :=
  let (name, value) :=
    match Text.cut? '=' option with
    | some (name, value) => (String.ofList name, some (String.ofList value))
    | none => (String.ofList option, none)
  if name == "help" && value.isNone then .error .help
  else if name == "verbose" && value.isNone then do return (← g.setVerbose, none)
  else
    match u.settings.find? (·.name == name), value with
    | none, _ => .error .invalid
    | some s, some value => do return (← g.set s value, none)
    | some s, none => .ok (g, some s)

/-- Takes options that are given by letters, the last of them with its value if that is attached. -/
def takeLetters (u : Usage) (g : Given) : List Char → Except Stop Pending
  | [] => .ok (g, none)
  | c :: cs =>
    if c == 'h' then .error .help
    else if c == 'v' then do takeLetters u (← g.setVerbose) cs
    else
      match u.settings.find? (·.letter == some c), cs with
      | none, _ => .error .invalid
      | some s, [] => .ok (g, some s)
      | some s, '=' :: value => do return (← g.set s (String.ofList value), none)
      | some s, value => do return (← g.set s (String.ofList value), none)

def takeArgument (u : Usage) (g : Given) (arg : String) : Except Stop Pending :=
  match arg.toList with
  | '-' :: '-' :: option => takeName u g option
  | '-' :: c :: cs => takeLetters u g (c :: cs)
  | _ => do return (← g.addOperand u arg, none)

/-- Takes arguments. `pending` is the option in front of them that still needs its value. -/
def take (u : Usage) (g : Given) (pending : Option Setting) : List String → Except Stop Given
  | [] => if pending.isSome then .error .invalid else .ok g
  | arg :: args =>
    match pending with
    | some s => if isValue arg then do take u (← g.set s arg) none args else .error .invalid
    | none =>
      if arg == "--" then args.foldlM (·.addOperand u) g
      else do
        let (g, pending) ← takeArgument u g arg
        take u g pending args

def takeAll (u : Usage) (args : List String) : Except Stop Given := do
  let g ← take u default none args
  if g.operands.length = u.operands.length then return g else throw .invalid

def Given.value? (g : Given) (name : String) : Option String :=
  g.values.lookup name

def Given.list (g : Given) (name : String) : List String :=
  (g.values.filter (·.1 == name)).map Prod.snd

def Given.required (g : Given) (name : String) : Except Stop String :=
  match g.value? name with
  | some value => .ok value
  | none => .error .invalid

def trustedSiteSetting : Setting := ⟨"trusted-site", none, true, isAny⟩

def engineSettings : List Setting :=
  [⟨"dataset", some 'd', false, isPath⟩, ⟨"psl", none, false, isPath⟩, trustedSiteSetting]

def engineOptions (g : Given) : Except Stop EngineOptions := do
  return {
    dataset := ← g.required "dataset"
    psl := g.value? "psl"
    trustedSites := g.list "trusted-site" }

def readBuild (args : List String) : Except Stop Command := do
  let hide : Setting := ⟨"hide", none, true, fun s => (ElementHiding.read s).toOption.isSome⟩
  let g ← takeAll ⟨[trustedSiteSetting, hide], [isPath, isPath, isPath, isPath]⟩ args
  match g.operands with
  | [trackers, entities, datasetOut, rulesOut] =>
    let hidings := (g.list "hide").filterMap fun s => (ElementHiding.read s).toOption
    return .build trackers entities datasetOut rulesOut ⟨g.list "trusted-site", hidings⟩
  | _ => throw .invalid

def readClassify (args : List String) : Except Stop Command := do
  let g ← takeAll ⟨engineSettings ++ [⟨"type", some 't', false, isAny⟩], [isAny, isAny]⟩ args
  match g.operands with
  | [resource, page] => return .classify (← engineOptions g) resource page (g.value? "type")
  | _ => throw .invalid

def readValidate (args : List String) : Except Stop Command := do
  let settings := engineSettings ++
    [⟨"input", some 'i', false, isPath⟩, ⟨"rules", none, false, isPath⟩,
      ⟨"mismatches", none, false, isPath⟩]
  let g ← takeAll ⟨settings, []⟩ args
  return .validate (← engineOptions g) (← g.required "input") (g.value? "rules")
    (g.value? "mismatches")

def commands : List (String × (List String → Except Stop Command)) :=
  [("build", readBuild), ("classify", readClassify), ("validate", readValidate)]

/-- What is asked for by the arguments behind `help`: help on the program or on a command. -/
def readHelp : List String → Stop
  | [] => .help
  | [name] => if name == "help" || (commands.map Prod.fst).contains name then .help else .invalid
  | _ => .invalid

/-- Reads the arguments of the program. In front of the name of a command only flags are taken. -/
def readFrom (g : Given) : List String → Except Stop Command
  | [] => .error .invalid
  | arg :: args =>
    if arg.toList.head? == some '-' && arg != "-" then
      if arg == "--" then .error .invalid
      else
        match takeArgument ⟨[], []⟩ g arg with
        | .ok (g, _) => readFrom g args
        | .error stop => .error stop
    else if arg == "help" then .error (readHelp args)
    else
      match commands.lookup arg with
      | some read => read args
      | none => .error .invalid

def read (args : List String) : Except Stop Command :=
  readFrom default args

end Arguments

end Blocklist
