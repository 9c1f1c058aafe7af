import Blocklist.Host.Ascii
import Blocklist.SuffixList.Basic
import Blocklist.Text.Quoted
/-!
Suffix lists as they are published: one rule a line, in sections that comments open. A rule outside
ASCII is entered in both spellings, so that it is found for either spelling of a host.
-/

namespace Blocklist.SuffixList

open Text

/-- Why a text is not a suffix list. -/
inductive ReadError where
  /-- A rule has a label without a character. -/
  | emptyLabel (rule : String)
  /-- A rule of a single label takes back a wildcard. -/
  | exceptionAtFirstLabel (rule : String)
  /-- A rule has no spelling in ASCII. -/
  | invalidRule (rule : String)
  /-- There is no rule. -/
  | noRules
deriving DecidableEq, Repr

def ReadError.message (e : ReadError) : String :=
  "Invalid public suffix list: " ++
    match e with
    | emptyLabel rule => "EmptyLabel(" ++ quoted rule ++ ")"
    | exceptionAtFirstLabel rule => "ExceptionAtFirstLabel(" ++ quoted rule ++ ")"
    | invalidRule rule => "InvalidRule(" ++ quoted rule ++ ")"
    | noRules => "InvalidList"

/-- The labels of a rule, from right to left, if none is empty. -/
def ruleLabels (rule : List Char) : Except ReadError (List (List Char)) :=
  let labels := (parts '.' rule).reverse
  if labels.contains [] then .error (.emptyLabel (String.ofList rule)) else .ok labels

/-- Reads a rule. An exception starts with `!`. -/
def readSpelling (rule : List Char) : Except ReadError SuffixRule :=
  match rule with
  | '!' :: rest =>
    if rule.contains '.' then (ruleLabels rest).map (⟨·, true⟩)
    else .error (.exceptionAtFirstLabel (String.ofList rule))
  | _ => (ruleLabels rule).map (⟨·, false⟩)

def readRule (rule : List Char) : Except ReadError (List SuffixRule) := do
  let written ← readSpelling rule
  match Host.toAscii? rule with
  | none => .error (.invalidRule (String.ofList rule))
  | some ascii => return [written, ← readSpelling ascii]

def opensSection (line : List Char) : Bool :=
  standsIn "BEGIN ICANN DOMAINS".toList line || standsIn "BEGIN PRIVATE DOMAINS".toList line

/-- Reads lines. Lines in front of the first section, comments and blank lines have no rule; in any
other line the rule ends at the first blank. -/
def readLines (inSection : Bool) : List (List Char) → Except ReadError (List SuffixRule)
  | [] => .ok []
  | line :: lines =>
    if opensSection line then readLines true lines
    else
      let rule := (line.dropWhile isBlank).takeWhile (!isBlank ·)
      if !inSection || ['/', '/'].isPrefixOf line || rule.isEmpty then readLines inSection lines
      else do
        let rs ← readRule rule
        return rs ++ (← readLines inSection lines)

def read (text : String) : Except ReadError SuffixList := do
  match ← readLines false (parts '\n' text.toList) with
  | [] => .error .noRules
  | rs => return rules rs

end Blocklist.SuffixList
