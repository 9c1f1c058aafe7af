import Blocklist.Action
import Blocklist.Binary64
import Blocklist.ResourceType
import Blocklist.TextSet
/-!
Trackers: domains that are known to serve resources for tracking, with the rules for what they
serve.
-/

namespace Blocklist

/-- How the rule of a tracker is matched. -/
structure RuleOptions where
  /-- Whether the rule also holds for subdomains of the tracker. -/
  subdomains : Bool
deriving DecidableEq, Repr

/-- The requests to which the rule of a tracker does not apply: those from pages on some domains,
and those for some kinds of resources. Where both are given, both must hold. -/
structure RuleExceptions where
  domains : TextSet
  types : TypeMask
deriving DecidableEq

def RuleExceptions.isEmpty (x : RuleExceptions) : Bool :=
  x.domains.isEmpty && x.types.isEmpty

/-- What is done about some of the resources of a tracker. -/
structure TrackerRule where
  /-- The pattern for the path and query of the URL. -/
  pattern : String
  action : Action
  /-- The kinds of resources that the rule is for. -/
  types : TypeMask
  /-- The domains of the pages that the rule is for; all pages if there is none. -/
  domains : TextSet
  options : RuleOptions
  exceptions : RuleExceptions
deriving DecidableEq

def TrackerRule.forPattern (pattern : String) (action : Action) : TrackerRule :=
  ⟨pattern, action, .empty, .empty, ⟨true⟩, ⟨.empty, .empty⟩⟩

/-- A domain that serves resources for tracking. -/
structure Tracker where
  domain : String
  /-- The name of the entity that owns the tracker. -/
  owner : Option String
  /-- What is done about resources that no rule is for. -/
  action : Action
  rules : List TrackerRule
  /-- The share of web sites on which it is found. -/
  prevalence : Binary64
deriving DecidableEq

namespace Tracker

/-- A tracker without an owner and without rules. -/
def forDomain (domain : String) (action : Action) : Tracker :=
  ⟨domain, none, action, [], .zero⟩

/-- Whether two trackers are equal up to the sign of a prevalence of zero. -/
def isSame (t u : Tracker) : Bool :=
  { t with prevalence := .zero } == { u with prevalence := .zero } &&
    (t.prevalence == u.prevalence || (t.prevalence.isZero && u.prevalence.isZero))

end Tracker

end Blocklist
