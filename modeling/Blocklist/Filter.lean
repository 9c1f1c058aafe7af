import Blocklist.Pattern.Basic
/-!
URL filters: the patterns that decide whether the URL of a resource belongs to a rule of a tracker.
A filter asks for a scheme, for the domain of the tracker with or without subdomains in front, for
an optional port and a slash, and then for the pattern of the rule. The same text goes into compiled
rules and into the detector, so both match the same URLs.
-/

namespace Blocklist.Filter

/-- Any web scheme, and `://`. -/
def schemePart : String := "^(https?)?(wss?)?://"

/-- Any number of labels in front of the domain. -/
def subdomainPart : String := "([a-z0-9_-]+\\.)*"

/-- An optional port, and the slash that the path starts with. -/
def hostEnd : String := "(:[0-9]+)?/"

/-- A domain as a pattern: its dots stand for themselves. -/
def escapeDomainChars (domain : List Char) : List Char :=
  domain.flatMap fun c => if c = '.' then ['\\', '.'] else [c]

/-- A domain as a pattern: its dots stand for themselves. -/
def escapeDomain (domain : String) : String :=
  String.ofList (escapeDomainChars domain.toList)

def dropSlash (pattern : List Char) : List Char :=
  match pattern with
  | '/' :: rest => rest
  | _ => pattern

/-- The filter for a pattern on a domain, which subdomains may share. -/
def urlFilterChars (domain pattern : List Char) (subdomains : Bool) : List Char :=
  schemePart.toList ++ (if subdomains then subdomainPart.toList else []) ++
    escapeDomainChars domain ++ hostEnd.toList ++ dropSlash pattern

/-- The filter for a pattern on a domain, which subdomains may share. -/
def urlFilter (domain pattern : String) (subdomains : Bool) : String :=
  String.ofList (urlFilterChars domain.toList pattern.toList subdomains)

/-- The filter for all URLs on a domain and its subdomains. -/
def scope (domain : String) : String :=
  urlFilter domain "" true

/-- Prepares a filter. Letter case does not matter in it. -/
def compile [Pattern.SizeLimit] (filter : String) : Except Pattern.Error Pattern :=
  Pattern.compile filter .filter

/-- Whether `|` or an opening brace stands in a pattern without a backslash in front. -/
def hasUnsupported : List Char → Bool
  | [] => false
  | ['\\'] => false
  | '\\' :: _ :: cs => hasUnsupported cs
  | c :: cs => c == '|' || c == '\x7b' || hasUnsupported cs

/-- Whether a pattern keeps to what content blocking hosts can express: no alternatives and no
repetition with numbers. -/
def isSupported (pattern : String) : Bool :=
  !hasUnsupported pattern.toList

/-- The entry of a domain and its subdomains in the lists of a compiled rule. -/
def domainEntry (domain : String) : String :=
  "*" ++ domain

end Blocklist.Filter
