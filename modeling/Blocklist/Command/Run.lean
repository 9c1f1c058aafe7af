import Blocklist.Command.Arguments
import Blocklist.Corpus.Compilation
import Blocklist.Corpus.Output
import Blocklist.Detector.Json
import Blocklist.SuffixList.Reading
import Blocklist.Validation
/-!
Running a command on a tree of files. The outcome is what the program prints, its exit code, and the
tree with the files that it wrote.
-/

namespace Blocklist

/-- What a run of the program comes to. -/
structure Outcome where
  exitCode : Nat
  /-- The lines printed, without those that tell how long the run took. -/
  output : List String
  /-- The lines printed about errors. -/
  errors : List String
  files : FileTree

namespace Command

variable [Pattern.SizeLimit]

def usageCode : Nat := 1

def enumerateCode : Nat := 2

def writeCode : Nat := 3

def describeJsonError : Json.Error → String
  | .data message => message
  | e => e.category ++ " error"

def describeLoadError : LoadError → String
  | .enumerate path => "Failed to enumerate " ++ path
  | .read path e => "Failed to read " ++ path ++ ": " ++ e.name
  | .write path e => "Failed to write " ++ path ++ ": " ++ e.name
  | .rules e => "JSON error: " ++ describeJsonError e
  | .dataset e => "Invalid dataset JSON: " ++ describeJsonError e

def errorLine (message : String) : String := "Error: " ++ message

/-- A size in units of 1024 bytes, with one digit behind the point. -/
def kilobytes (size : Nat) : String :=
  let tenths := Binary64.nearestQuotient (size * 10) 1024
  toString (tenths / 10) ++ "." ++ toString (tenths % 10)

def directorySize : Nat := 4096

def sizeAt (t : FileTree) (p : Path) : Nat :=
  match t.entry? p with
  | some (.file bytes) => bytes.length
  | some .directory => directorySize
  | some .locked | none => 0

def buildReport (trackers entities : String) (c : Compilation) (size : Nat) : List String :=
  ["Compiled '" ++ trackers ++ "' and '" ++ entities ++ "'",
    "  Trackers: " ++ toString c.trackerReport.loaded ++ " loaded, " ++
      toString c.trackerReport.skipped.length ++ " failed",
    "  Entities: " ++ toString c.entityReport.loaded ++ " loaded, " ++
      toString c.entityReport.skipped.length ++ " failed, " ++
      toString c.dataset.entities.size ++ " kept",
    "  Rules:    " ++ toString c.stats.before ++ " -> " ++ toString c.stats.after ++
      " (dedupe removed " ++ toString c.stats.deduped ++ ")",
    "  Dataset:  " ++ toString size ++ " bytes (" ++ kilobytes size ++ " KB)"]

/-- Compiles descriptors and writes the dataset and the rules. The rules are written even if the
dataset cannot be. -/
def runBuild (t : FileTree) (trackers entities datasetOut rulesOut : String)
    (options : CompileOptions) : Outcome :=
  match compileCorpus t trackers entities options with
  | .error e => ⟨enumerateCode, [], [errorLine (describeLoadError e)], t⟩
  | .ok c =>
    let (t, datasetErrors) :=
      match writeDataset t datasetOut c.dataset with
      | .ok t => (t, [])
      | .error e => (t, [errorLine (describeLoadError e)])
    let (t, rulesErrors) :=
      match writeRules t rulesOut c.rules with
      | .ok t => (t, [])
      | .error e => (t, [errorLine (describeLoadError e)])
    let errors := datasetErrors ++ rulesErrors
    { exitCode := if errors.isEmpty then 0 else writeCode
      output := buildReport trackers entities c (sizeAt t (.ofText datasetOut))
      errors
      files := t }

/-- Reads the suffix list in a file, if one is given. -/
def loadSuffixes (t : FileTree) : Option String → Except String SuffixList
  | none => .ok .heuristic
  | some path => do
    let text ← (t.readText (.ofText path)).mapError fun e =>
      "Failed to read '" ++ path ++ "': " ++ e.name
    (SuffixList.read text).mapError SuffixList.ReadError.message

def loadDetector (t : FileTree) (engine : EngineOptions) : Except String Detector := do
  let dataset ← (readDataset t engine.dataset).mapError describeLoadError
  let suffixes ← loadSuffixes t engine.psl
  return ((Detector.ofDataset dataset).withSuffixes suffixes).trustAll engine.trustedSites

def runClassify (t : FileTree) (engine : EngineOptions) (resource page : String)
    (type : Option String) : Except String (List String × FileTree) := do
  let detector ← loadDetector t engine
  let request : Request :=
    { resource, page, type := (type.bind ResourceType.ofName?).map TypeMask.single }
  let answer := Json.Value.ofOption Classification.toJson (detector.classify request)
  return ([answer.pretty], t)

def runValidate (t : FileTree) (engine : EngineOptions) (input : String)
    (rules mismatches : Option String) : Except String (List String × FileTree) := do
  let detector ← loadDetector t engine
  let rules ← rules.mapM fun path => (readRules t path).mapError describeLoadError
  let (counts, t) ← (Validation.run t detector input rules mismatches).mapError
    Validation.Error.message
  return (["Validated '" ++ input ++ "' against '" ++ engine.dataset ++ "'", counts.toText], t)

/-- The outcome of a command that ends with the first error. -/
def outcome (t : FileTree) : Except String (List String × FileTree) → Outcome
  | .ok (lines, t) => ⟨0, lines, [], t⟩
  | .error message => ⟨usageCode, [], [errorLine message], t⟩

def run (t : FileTree) : Command → Outcome
  | build trackers entities datasetOut rulesOut options =>
    runBuild t trackers entities datasetOut rulesOut options
  | classify engine resource page type => outcome t (runClassify t engine resource page type)
  | validate engine input rules mismatches =>
    outcome t (runValidate t engine input rules mismatches)

def sources : Command → List String
  | build trackers entities _ _ _ => [trackers, entities]
  | classify engine _ _ _ => engine.dataset :: engine.psl.toList
  | validate engine input rules _ =>
    engine.dataset :: engine.psl.toList ++ input :: rules.toList

def targets : Command → List String
  | build _ _ datasetOut rulesOut _ => [datasetOut, rulesOut]
  | classify .. => []
  | validate _ _ _ mismatches => mismatches.toList

def helpText : String :=
  "\n".intercalate [
    "Compiles and checks lists of trackers",
    "",
    "Usage: blocklist [OPTIONS] <COMMAND>",
    "",
    "Commands:",
    "  build     Compile tracker and entity descriptors into a dataset and a rule list",
    "  classify  Classify one request against a dataset",
    "  validate  Replay a CSV of expected classifications against a dataset",
    "  help      Print this message or the help of the given subcommand(s)",
    "",
    "Options:",
    "  -v, --verbose  Verbose logging",
    "  -h, --help     Print help"]

def usageText : String :=
  "error: invalid arguments\n\nFor more information, try '--help'."

def runWith (t : FileTree) (args : List String) : Outcome :=
  match Arguments.read args with
  | .ok c => c.run t
  | .error .help => ⟨0, [helpText], [], t⟩
  | .error .invalid => ⟨usageCode, [], [usageText], t⟩

end Command

end Blocklist
