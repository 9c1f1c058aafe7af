import Blocklist.ContentRule.Compile
import Blocklist.ContentRule.Evaluate
import Blocklist.Proofs.Host.Offsets
import Blocklist.Proofs.Url.Offsets

/-! # Rules by byte offsets

Rules are compiled for the domains that two sets have in common, and applied to the pages that the
entries of their triggers cover. Main statements: `Bytewise.commonDomains_eq` and
`Matcher.Bytewise.decide_eq`. -/

namespace Blocklist

open Text

namespace ContentRule

namespace Bytewise

/-- Whether a domain is one of some domains or a subdomain of one. -/
def isCovered (domains : TextSet) (domain : String) : Except OffsetError Bool :=
  domains.toList.anyM fun d => Host.Bytewise.covers d domain

/-- The domains that both of two sets cover. An empty set covers all. -/
def commonDomains (s t : TextSet) : Except OffsetError TextSet := do
  if s.isEmpty then return t
  else if t.isEmpty then return s
  else return .ofList ((← s.toList.filterM (isCovered t)) ++ (← t.toList.filterM (isCovered s)))

end Bytewise

theorem Bytewise.isCovered_eq (domains : TextSet) :
    Bytewise.isCovered domains = fun domain => pure (ContentRule.isCovered domains domain) := by
  funext domain
  simp only [Bytewise.isCovered, Host.Bytewise.covers_eq, List.anyM_pure]
  rfl

theorem Bytewise.commonDomains_eq (s t : TextSet) :
    Bytewise.commonDomains s t = pure (ContentRule.commonDomains s t) := by
  simp only [Bytewise.commonDomains, isCovered_eq, filterM_pure, pure_bind,
    ContentRule.commonDomains]
  split
  · rfl
  · split <;> rfl

end ContentRule

/-! ## Requests -/

/-- A request as it is matched, if its resource has a web URL. -/
def Request.Bytewise.target? (r : Request) : Except OffsetError (Option Target) := do
  match ← Url.Bytewise.normalize? r.resource with
  | none => return none
  | some resource =>
    return some
      { url := resource.url
        pageHost := ← Url.Bytewise.host? r.page
        typeName := (r.type.filter (!·.isEmpty)).map TypeMask.hostName }

theorem Request.Bytewise.target?_eq (r : Request) : Bytewise.target? r = pure r.target? := by
  rw [Bytewise.target?, Url.Bytewise.normalize?_eq, pure_bind, Request.target?]
  cases Url.normalize? r.resource with
  | none => rfl
  | some resource =>
    simp only [Url.Bytewise.host?_eq, pure_bind]
    rfl

namespace Trigger

namespace Bytewise

/-- Whether an entry of a trigger is for a host. -/
def entryCovers (host entry : String) : Except OffsetError Bool :=
  match entry.toList with
  | '*' :: domain => Host.Bytewise.coversChars domain host.toList
  | _ => return host == entry

/-- Whether one of some entries is for the host of a page. -/
def anyCovers (entries : List String) (pageHost : Option String) : Except OffsetError Bool :=
  match pageHost with
  | none => return false
  | some host => entries.anyM (entryCovers host)

/-- Whether some entries are for the page, or there are none. -/
def admits (entries : List String) (pageHost : Option String) : Except OffsetError Bool :=
  if entries.isEmpty then return true else anyCovers entries pageHost

/-- Whether a trigger is for the page and the kind of a request. -/
def applies (t : Trigger) (r : Target) : Except OffsetError Bool := do
  if t.types.isEmpty || r.typeName.any t.types.contains then
    if ← admits t.ifDomains r.pageHost then return !(← anyCovers t.unlessDomains r.pageHost)
    else return false
  else return false

end Bytewise

theorem Bytewise.entryCovers_eq (host : String) :
    Bytewise.entryCovers host = fun entry => pure (Trigger.entryCovers host entry) := by
  funext entry
  unfold Bytewise.entryCovers Trigger.entryCovers
  cases entry.toList with
  | nil => rfl
  | cons c domain =>
    by_cases hc : c = '*'
    · rw [hc]
      exact Host.Bytewise.coversChars_eq domain host.toList
    · simp [hc]

theorem Bytewise.anyCovers_eq (entries : List String) (pageHost : Option String) :
    Bytewise.anyCovers entries pageHost =
      pure (pageHost.any fun host => entries.any (Trigger.entryCovers host)) := by
  cases pageHost with
  | none => rfl
  | some host =>
    simp only [Bytewise.anyCovers, entryCovers_eq, List.anyM_pure]
    rfl

theorem Bytewise.applies_eq (t : Trigger) (r : Target) :
    Bytewise.applies t r = pure (t.applies r) := by
  simp only [Bytewise.applies, admits, anyCovers_eq, ite_pure_or, ite_pure_and, pure_bind,
    Trigger.applies, Bool.and_assoc]

end Trigger

namespace Matcher

namespace Bytewise

/-- Whether a rule matches a request. -/
def isMatch (m : Matcher) (r : Target) : Except OffsetError Bool := do
  if ← Trigger.Bytewise.applies m.rule.trigger r then return m.filter.any (·.isMatch r.url)
  else return false

/-- What is done about a request by the first rule that matches, if any does. -/
def decide (ms : List Matcher) (r : Request) : Except OffsetError (Option ContentAction) := do
  match ← Request.Bytewise.target? r with
  | none => return none
  | some target => return (← ms.findM? fun m => isMatch m target).map (·.rule.action)

end Bytewise

theorem Bytewise.isMatch_eq (m : Matcher) (r : Target) :
    Bytewise.isMatch m r = pure (m.isMatch r) := by
  rw [Bytewise.isMatch, Trigger.Bytewise.applies_eq, pure_bind, ite_pure_and, Matcher.isMatch]

theorem Bytewise.decide_eq (ms : List Matcher) (r : Request) :
    Bytewise.decide ms r = pure (Matcher.decide ms r) := by
  simp only [Bytewise.decide, Request.Bytewise.target?_eq, isMatch_eq, List.findM?_pure, pure_bind,
    Matcher.decide]
  cases r.target? <;> rfl

end Matcher

end Blocklist
