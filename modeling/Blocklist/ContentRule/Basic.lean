import Blocklist.Action
import Blocklist.Filter
import Blocklist.ResourceType
import Blocklist.TextSet
/-!
Rules as content blocking hosts take them: a trigger, which tells the requests that a rule is for,
and an action.
-/

namespace Blocklist

/-- The requests that a rule is for. -/
structure Trigger where
  /-- The pattern for the URL. -/
  urlFilter : String
  /-- The names of kinds of resources; any kind if there is none. -/
  types : List String
  /-- The pages that the rule is for; all pages if there is none. An entry is a host, or `*` and a
  domain for the domain and its subdomains. -/
  ifDomains : List String
  /-- The pages that the rule is not for. -/
  unlessDomains : List String
deriving DecidableEq, Repr

namespace Trigger

/-- The trigger for all requests that match a filter. -/
def forFilter (urlFilter : String) : Trigger :=
  ⟨urlFilter, [], [], []⟩

def withTypes (t : Trigger) (m : TypeMask) : Trigger :=
  { t with types := m.hostNames }

/-- A trigger for pages on some domains and their subdomains. -/
def withDomains (t : Trigger) (domains : List String) : Trigger :=
  { t with ifDomains := domains.map Filter.domainEntry }

/-- A trigger for pages that are not on some domains or their subdomains. -/
def withoutDomains (t : Trigger) (domains : List String) : Trigger :=
  { t with unlessDomains := domains.map Filter.domainEntry }

end Trigger

/-- What a rule does. -/
inductive ContentAction where
  /-- The load is cancelled. -/
  | block
  /-- The load is allowed. -/
  | ignorePreviousRules
  /-- The elements of the page that match a selector are hidden. -/
  | hide (selector : String)
deriving DecidableEq, Repr

/-- The action of a rule for a decision about a load. -/
def ContentAction.ofAction : Action → ContentAction
  | .block => block
  | .ignore => ignorePreviousRules

/-- A rule as a content blocking host takes it. -/
structure ContentRule where
  trigger : Trigger
  action : ContentAction
deriving DecidableEq, Repr

/-- Whether a rule hides elements and leaves loads alone. -/
def ContentRule.isCosmetic (r : ContentRule) : Bool :=
  match r.action with
  | .hide _ => true
  | _ => false

end Blocklist
