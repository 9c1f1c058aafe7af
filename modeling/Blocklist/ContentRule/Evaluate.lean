import Blocklist.ContentRule.Basic
import Blocklist.Url
/-!
Applying rules to a request as a content blocking host does: the first rule that matches decides.
-/

namespace Blocklist

/-- A request for a resource from a page. -/
structure Request where
  resource : String
  page : String
  /-- The kinds of resources that the request may be for, if they are known. -/
  type : Option TypeMask
deriving DecidableEq

/-- A request as it is matched. -/
structure Target where
  /-- The URL in normal form. -/
  url : String
  pageHost : Option String
  /-- The name of the kind of the resource, if it is known. -/
  typeName : Option String
deriving DecidableEq

/-- A request as it is matched, if its resource has a web URL. -/
def Request.target? (r : Request) : Option Target :=
  (Url.normalize? r.resource).map fun resource =>
    { url := resource.url
      pageHost := Url.host? r.page
      typeName := (r.type.filter (!·.isEmpty)).map TypeMask.hostName }

/-- Whether an entry of a trigger is for a host: `*` and a domain are for the domain and its
subdomains, anything else for that host alone. -/
def Trigger.entryCovers (host entry : String) : Bool :=
  match entry.toList with
  | '*' :: domain => Host.coversChars domain host.toList
  | _ => host == entry

/-- Whether a trigger is for the page and the kind of a request. -/
def Trigger.applies (t : Trigger) (r : Target) : Bool :=
  (t.types.isEmpty || r.typeName.any t.types.contains) &&
    (t.ifDomains.isEmpty || r.pageHost.any fun host => t.ifDomains.any (entryCovers host)) &&
    !r.pageHost.any fun host => t.unlessDomains.any (entryCovers host)

/-- A rule that is ready to be matched. -/
structure Matcher where
  rule : ContentRule
  /-- The filter of the rule, if it can be compiled. -/
  filter : Option Pattern

namespace Matcher

variable [Pattern.SizeLimit]

def ofRule (r : ContentRule) : Matcher :=
  ⟨r, (Filter.compile r.trigger.urlFilter).toOption⟩

/-- Prepares rules. Those that hide elements decide nothing about loads and are left out. -/
def ofRules (rs : List ContentRule) : List Matcher :=
  (rs.filter (!·.isCosmetic)).map ofRule

/-- Whether a rule matches a request. A rule whose filter cannot be compiled matches none. -/
def isMatch (m : Matcher) (r : Target) : Bool :=
  m.rule.trigger.applies r && m.filter.any (·.isMatch r.url)

/-- What is done about a request by the first rule that matches, if any does. -/
def decide (ms : List Matcher) (r : Request) : Option ContentAction :=
  r.target?.bind fun target => (ms.find? (·.isMatch target)).map (·.rule.action)

end Matcher

end Blocklist
