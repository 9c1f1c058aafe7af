import Blocklist.Csv.Reading
import Blocklist.Csv.Writing
import Blocklist.Detector
import Blocklist.FileTree
/-!
Checking the detector against a table of requests and the actions expected for them. Rows that are
not decided as expected can be written to another table, and the decisions of compiled rules can be
compared with those of the detector.
-/

namespace Blocklist.Validation

open Text

/-- A row of the table. -/
structure Row where
  resourceUrl : String
  pageUrl : String
  resourceType : String
  expectedAction : String
deriving DecidableEq, Repr

/-- The value in the column with a name, if there is exactly one such column. -/
def column? (cells : List (String × String)) (name : String) : Option String :=
  match cells.filter (·.1 == name) with
  | [(_, value)] => some value
  | _ => none

/-- A row by the names of its columns. The type may be left out; other columns do not matter. -/
def Row.ofCells? (cells : List (String × String)) : Option Row := do
  let resourceUrl ← column? cells "resource_url"
  let pageUrl ← column? cells "page_url"
  let resourceType ←
    if cells.any (·.1 == "resource_type") then column? cells "resource_type" else some ""
  let expectedAction ← column? cells "expected_action"
  return { resourceUrl, pageUrl, resourceType, expectedAction }

/-- Reads a row. It may be longer than the header but not shorter. Without a header the columns have
a fixed order. -/
def Row.read? (header : Option (List String)) (r : Csv.Record) : Option Row := do
  let fields ← r.texts?
  match header with
  | some names => if fields.length < names.length then none else ofCells? (names.zip fields)
  | none =>
    match fields with
    | resourceUrl :: pageUrl :: resourceType :: expectedAction :: _ =>
      some { resourceUrl, pageUrl, resourceType, expectedAction }
    | _ => none

/-- The rows of a table. The first record is the header; if it is no text, the table has none. -/
def readRows (bytes : List UInt8) : List (Option Row) :=
  match Csv.read bytes with
  | [] => []
  | header :: records => records.map (Row.read? header.texts?)

/-- The action that is expected, if it is one. -/
def Row.expected? (r : Row) : Option Action :=
  match lower (trim r.expectedAction) with
  | "block" => some .block
  | "ignore" => some .ignore
  | _ => none

/-- How the detector decides a row. -/
inductive Verdict where
  /-- The request is not one to a tracker. -/
  | notFound
  /-- The expected action is none. -/
  | badExpectation
  | passed
  /-- The decision is another than expected. -/
  | failed (expected : Action) (c : Classification)

/-- A row that has been checked. -/
structure Checked where
  row : Row
  verdict : Verdict
  /-- Whether compiled rules decide otherwise. -/
  disagrees : Bool

variable [Pattern.SizeLimit]

def actionOf : ContentAction → Action
  | .block => .block
  | _ => .ignore

def Row.request (r : Row) : Request :=
  { resource := r.resourceUrl
    page := r.pageUrl
    type := (ResourceType.ofName? r.resourceType).map TypeMask.single }

/-- Whether compiled rules decide otherwise than the detector. A rule that allows a request that is
not one to a tracker does not count. -/
def disagrees (rules : List Matcher) (r : Request) (found : Option Classification) : Bool :=
  let compiled := (Matcher.decide rules r).map actionOf
  let actual := found.map (·.action)
  !(compiled == actual || (actual.isNone && compiled == some .ignore))

def judge (r : Row) : Option Classification → Verdict
  | none => .notFound
  | some c =>
    match r.expected? with
    | none => .badExpectation
    | some expected => if expected = c.action then .passed else .failed expected c

/-- Checks a row. A row whose resource has no web URL cannot be checked. -/
def check (d : Detector) (rules : Option (List Matcher)) (r : Row) : Option Checked :=
  if (Url.normalize? r.resourceUrl).isNone then none
  else
    let found := d.classify r.request
    some ⟨r, judge r found, rules.any fun ms => disagrees ms r.request found⟩

/-- Counts of checked rows. -/
structure Counts where
  rows : Nat
  /-- Rows that cannot be read or checked. -/
  badRows : Nat
  notFound : Nat
  incorrectlyIgnored : Nat
  incorrectlyBlocked : Nat
  badExpectedAction : Nat
  passed : Nat
  /-- Rows that compiled rules decide otherwise, if there are compiled rules. -/
  disagreements : Option Nat
deriving DecidableEq, Repr

namespace Counts

/-- The counts before the first row. -/
def start (withRules : Bool) : Counts where
  rows := 0
  badRows := 0
  notFound := 0
  incorrectlyIgnored := 0
  incorrectlyBlocked := 0
  badExpectedAction := 0
  passed := 0
  disagreements := if withRules then some 0 else none

/-- Counts a row; one that cannot be read or checked is absent. -/
def add (c : Counts) (row : Option Checked) : Counts :=
  let c := { c with rows := c.rows + 1 }
  match row with
  | none => { c with badRows := c.badRows + 1 }
  | some r =>
    let c := { c with
      disagreements := c.disagreements.map fun n => if r.disagrees then n + 1 else n }
    match r.verdict with
    | .notFound => { c with notFound := c.notFound + 1 }
    | .badExpectation => { c with badExpectedAction := c.badExpectedAction + 1 }
    | .passed => { c with passed := c.passed + 1 }
    | .failed .block _ => { c with incorrectlyIgnored := c.incorrectlyIgnored + 1 }
    | .failed .ignore _ => { c with incorrectlyBlocked := c.incorrectlyBlocked + 1 }

end Counts

/-- Counts rows one after the other. -/
def count (withRules : Bool) (rows : List (Option Checked)) : Counts :=
  rows.foldl Counts.add (.start withRules)

def Counts.toText (c : Counts) : String :=
  "Rows:                " ++ toString c.rows ++ "\n" ++
    "Bad rows:            " ++ toString c.badRows ++ "\n" ++
    "Tracker not found:   " ++ toString c.notFound ++ "\n" ++
    "Incorrectly ignored: " ++ toString c.incorrectlyIgnored ++ "\n" ++
    "Incorrectly blocked: " ++ toString c.incorrectlyBlocked ++ "\n" ++
    "Bad expected action: " ++ toString c.badExpectedAction ++ "\n" ++
    "Passed:              " ++ toString c.passed ++
    c.disagreements.elim "" fun n => "\nCompiled rules disagree: " ++ toString n

def reasonName : Reason → String
  | .trustedSite => "TrustedSite"
  | .sameEntity => "SameEntity"
  | .rule i => "Rule(" ++ toString i ++ ")"
  | .ruleException i => "RuleException(" ++ toString i ++ ")"
  | .default => "Default"

def mismatchHeader : List String :=
  ["resource_url", "page_url", "resource_type", "expected_action", "actual_action", "tracker",
    "reason"]

def mismatch? (c : Checked) : Option (List String) :=
  let expectation :=
    [c.row.resourceUrl, c.row.pageUrl, c.row.resourceType, c.row.expectedAction]
  match c.verdict with
  | .notFound => some (expectation ++ ["none", "", "not_found"])
  | .failed _ found =>
    some (expectation ++ [found.action.name, found.trackerDomain, reasonName found.reason])
  | _ => none

/-- The table of the rows that are not decided as expected. Without such rows it is empty. -/
def mismatchTable (rows : List Checked) : String :=
  match rows.filterMap mismatch? with
  | [] => ""
  | records => String.join ((mismatchHeader :: records).map Csv.writeRecord)

/-- Why a table cannot be checked. -/
inductive Error where
  | cannotOpen (path : String) (error : FileError)
  | cannotCreate (path : String) (error : FileError)
deriving DecidableEq, Repr

def Error.summary : Error → String
  | cannotOpen .. => "Failed to open"
  | cannotCreate .. => "Failed to create"

def Error.message (e : Error) : String :=
  match e with
  | cannotOpen path error | cannotCreate path error =>
    e.summary ++ " '" ++ path ++ "': " ++ error.name

/-- Checks that a file can be opened. A directory can, but it has no rows. -/
def openTable (t : FileTree) (input : Path) : Except FileError Unit :=
  match t.readBytes input with
  | .error .isADirectory => .ok ()
  | .error e => .error e
  | .ok _ => .ok ()

/-- Checks the table in a file. The file for mismatches is emptied before a row is read. -/
def run (t : FileTree) (d : Detector) (input : String) (rules : Option (List ContentRule))
    (mismatches : Option String) : Except Error (Counts × FileTree) := do
  (openTable t (.ofText input)).mapError (.cannotOpen input)
  let t ← match mismatches with
    | some path => (t.writeText (.ofText path) "").mapError (.cannotCreate path)
    | none => .ok t
  let bytes := (t.readBytes (.ofText input)).toOption.getD []
  let matchers := rules.map Matcher.ofRules
  let rows := (readRows bytes).map (·.bind (check d matchers))
  let t ← match mismatches with
    | some path =>
      (t.writeText (.ofText path) (mismatchTable (rows.filterMap id))).mapError
        (.cannotCreate path)
    | none => .ok t
  return (count rules.isSome rows, t)

end Blocklist.Validation
