import Blocklist.Pattern.Estimate
import Blocklist.Proofs.ContentRule.Blocks
import Blocklist.Proofs.Detector.Decisions
import Blocklist.Proofs.SuffixList.Labels

/-! # The compiled rules for one rule

Compiled rules go by the names of kinds, and two kinds share a name. They are for all pages that a
domain covers, while the detector looks up no single label for a host with more of them. So the
rules for a rule of a tracker, or for its exception, may take a request that the detector does not.
About any other request whose URL the filter matches they decide what the detector decides by the
rule. Main statement: `decidesByRule`. -/

namespace Blocklist

open Host

namespace ContentRule

/-- Whether compiled rules for some kinds of resources and the pages of some domains mistake a
request for one that they are for. -/
inductive Mistakes (types : TypeMask) (domains : TextSet) (pageHost : Option String) :
    Option ResourceType → Prop where
  /-- The kind of the request is not one of the kinds, but has the name of one. -/
  | kind {s t : ResourceType} (hname : s.hostName = t.hostName) (hs : types.contains s)
      (ht : types.contains t = false) (hpage : coversPage domains pageHost) :
      Mistakes types domains pageHost (some t)
  /-- No domain that covers the page is looked up for it. -/
  | page {kind : Option ResourceType} {host : String} (hhost : pageHost = some host)
      (hcovered : isCovered domains host) (hlabels : ∀ d ∈ domains, ¬IsEndOf d host)
      (hkind : types.admitsName (kind.map ResourceType.hostName)) :
      Mistakes types domains pageHost kind

/-- Whether the compiled rule for the exception of a rule mistakes a request. It is for the kinds
that the rule and the exception have in common. -/
def MistakesException (r : TrackerRule) (pageHost : Option String) (kind : Option ResourceType) :
    Prop :=
  ∃ types, commonTypes? r.types r.exceptions.types = some types ∧
    Mistakes types r.exceptions.domains pageHost kind

end ContentRule

namespace Detector

open ContentRule

section

variable [Pattern.SizeLimit]

/-- How the compiled rules for a rule decide about a request, where the detector goes by the
rule. -/
structure DecidesByRule (det : Detector) (r : TrackerRule) (pageHost : Option String)
    (kind : Option ResourceType) (applies : Bool) (decision : Option ContentAction) : Prop where
  excepted : applies → det.isExcepted r pageHost (kind.map .single) →
    decision = some .ignorePreviousRules
  applied : applies → ¬det.isExcepted r pageHost (kind.map .single) →
    ¬MistakesException r pageHost kind → decision = some (.ofAction r.action)
  mistaken : applies → MistakesException r pageHost kind →
    ¬det.isExcepted r pageHost (kind.map .single) ∧ decision = some .ignorePreviousRules
  passed : ¬applies → (decision = none ↔ ¬Mistakes r.types r.domains pageHost kind)

/-! ## Mistaken requests -/

section

variable {det : Detector} (hlist : det.suffixes = .heuristic) {pageHost : Option String}
  (hnormal : ∀ host, pageHost = some host → IsNormal host.toList)

include hlist hnormal

theorem pageIsIn_iff_isEndOf {domains : TextSet} :
    det.pageIsIn domains pageHost ↔
      ∃ host, pageHost = some host ∧ ∃ d ∈ domains, IsEndOf d host := by
  rw [pageIsIn_iff, IsOn]
  refine exists_congr fun host => and_congr_right fun hhost => ?_
  rw [hlist]
  simp only [SuffixList.mem_walk_heuristic_iff (hnormal host hhost), and_comm]

theorem coversPage_iff {domains : TextSet} :
    coversPage domains pageHost ↔
      (domains.isEmpty || det.pageIsIn domains pageHost) ∨
        ∃ host, pageHost = some host ∧ isCovered domains host ∧ ∀ d ∈ domains, ¬IsEndOf d host := by
  rw [coversPage, Bool.or_eq_true, Bool.or_eq_true, or_assoc, pageIsIn_iff_isEndOf hlist hnormal]
  refine or_congr_right ?_
  cases pageHost with
  | none => simp
  | some host =>
    simp only [Option.any_some, Option.some.injEq, exists_eq_left']
    constructor
    · intro hcovered
      by_cases hend : ∃ d ∈ domains, IsEndOf d host
      · exact .inl hend
      · exact .inr ⟨hcovered, fun d hd h => hend ⟨d, hd, h⟩⟩
    · rintro (⟨d, hd, hend⟩ | ⟨hcovered, -⟩)
      · exact isCovered_iff.mpr ⟨d, hd, SuffixList.covers_of_isEndOf hend⟩
      · exact hcovered

variable {kind : Option ResourceType} {types : TypeMask} {domains : TextSet}

/-- Compiled rules are for the requests that the detector is for, and for those that they
mistake. -/
theorem admitsName_and_coversPage_iff :
    types.admitsName (kind.map ResourceType.hostName) && coversPage domains pageHost ↔
      det.isFor types domains pageHost (kind.map .single) ∨
        Mistakes types domains pageHost kind := by
  rw [isFor, Bool.and_eq_true, Bool.and_eq_true]
  constructor
  · rintro ⟨hkind, hpage⟩
    rcases TypeMask.admitsName_iff.mp hkind with htypes | ⟨s, t, rfl, hname, hs, ht⟩
    · rcases (coversPage_iff hlist hnormal).mp hpage with hin | ⟨host, hhost, hcovered, hlabels⟩
      · exact .inl ⟨htypes, hin⟩
      · exact .inr (.page hhost hcovered hlabels hkind)
    · exact .inr (.kind hname hs ht hpage)
  · rintro (⟨htypes, hin⟩ | hmistakes)
    · exact ⟨TypeMask.admitsName_iff.mpr (.inl htypes),
        (coversPage_iff hlist hnormal).mpr (.inl hin)⟩
    · cases hmistakes with
      | kind hname hs ht hpage =>
        exact ⟨TypeMask.admitsName_iff.mpr (.inr ⟨_, _, rfl, hname, hs, ht⟩), hpage⟩
      | page hhost hcovered hlabels hkind =>
        exact ⟨hkind, (coversPage_iff hlist hnormal).mpr (.inr ⟨_, hhost, hcovered, hlabels⟩)⟩

/-- The detector is not for a mistaken request. -/
theorem not_isFor_of_mistakes (h : Mistakes types domains pageHost kind) :
    ¬det.isFor types domains pageHost (kind.map .single) := by
  rw [isFor, Bool.and_eq_true, TypeMask.admits_map_single, Bool.or_eq_true, Bool.or_eq_true,
    pageIsIn_iff_isEndOf hlist hnormal]
  rintro ⟨htypes, hpage⟩
  cases h with
  | kind hname hs ht _ =>
    rcases htypes with hempty | hcontains
    · rw [TypeMask.isEmpty_iff.mp hempty] at hs
      cases hs
    · rw [Option.any_some, ht] at hcontains
      cases hcontains
  | page hhost hcovered hlabels _ =>
    rcases hpage with hempty | ⟨host, hhost', d, hd, hend⟩
    · obtain ⟨d, hd, -⟩ := isCovered_iff.mp hcovered
      exact TextSet.isEmpty_iff.mp hempty d hd
    · obtain rfl := Option.some.inj (hhost.symm.trans hhost')
      exact hlabels d hd hend

end

/-! ## Mistaken exceptions -/

variable {det : Detector} {r : TrackerRule} {pageHost : Option String} {kind : Option ResourceType}

section

variable (hlist : det.suffixes = .heuristic)
  (hnormal : ∀ host, pageHost = some host → IsNormal host.toList)
  (hfor : det.isFor r.types r.domains pageHost (kind.map .single))

include hlist hnormal hfor

theorem not_isEmpty_of_mistakesException (h : MistakesException r pageHost kind) :
    ¬r.exceptions.isEmpty := by
  intro hempty
  obtain ⟨types, htypes, hmistakes⟩ := h
  rw [RuleExceptions.isEmpty, Bool.and_eq_true] at hempty
  rw [commonTypes?, if_pos hempty.2, Option.some.injEq] at htypes
  rw [isFor, Bool.and_eq_true] at hfor
  refine not_isFor_of_mistakes hlist hnormal hmistakes ?_
  rw [← htypes, isFor, hfor.1, hempty.1]
  rfl

theorem not_isExcepted_of_mistakesException (h : MistakesException r pageHost kind) :
    ¬det.isExcepted r pageHost (kind.map .single) := by
  rw [isFor, Bool.and_eq_true] at hfor
  rw [isExcepted_iff_commonTypes? hfor.1]
  obtain ⟨types, htypes, hmistakes⟩ := h
  rintro ⟨-, types', htypes', hfor'⟩
  obtain rfl := Option.some.inj (htypes.symm.trans htypes')
  exact not_isFor_of_mistakes hlist hnormal hmistakes hfor'

/-- Where the detector is for a rule, the trigger for its exception is for the requests that the
exception is for, and for those that it mistakes. -/
theorem any_exceptionTrigger?_iff {filter : String} {target : Target}
    (hpage : target.pageHost = pageHost)
    (hname : target.typeName = kind.map ResourceType.hostName) :
    (exceptionTrigger? r filter).any (·.applies target) ↔
      det.isExcepted r pageHost (kind.map .single) ∨ MistakesException r pageHost kind := by
  have hnonempty := not_isEmpty_of_mistakesException hlist hnormal hfor
  have hcovers : coversPage r.domains pageHost := by
    have htakes := (admitsName_and_coversPage_iff hlist hnormal).mpr (.inl hfor)
    rw [Bool.and_eq_true] at htakes
    exact htakes.2
  have htakes : (commonTypes? r.types r.exceptions.types).any
        (·.admitsName (kind.map ResourceType.hostName)) &&
          coversPage r.exceptions.domains pageHost ↔
      ∃ types, commonTypes? r.types r.exceptions.types = some types ∧
        (det.isFor types r.exceptions.domains pageHost (kind.map .single) ∨
          Mistakes types r.exceptions.domains pageHost kind) := by
    simp only [← admitsName_and_coversPage_iff hlist hnormal]
    cases commonTypes? r.types r.exceptions.types <;> simp
  rw [isFor, Bool.and_eq_true] at hfor
  rw [any_exceptionTrigger?, hpage, hname, hcovers, Bool.true_and, Bool.and_eq_true, htakes,
    isExcepted_iff_commonTypes? hfor.1, Bool.not_eq_true', ← Bool.not_eq_true]
  constructor
  · rintro ⟨hexceptions, types, htypes, hfor' | hmistakes⟩
    · exact .inl ⟨hexceptions, types, htypes, hfor'⟩
    · exact .inr ⟨types, htypes, hmistakes⟩
  · rintro (⟨hexceptions, types, htypes, hfor'⟩ | h)
    · exact ⟨hexceptions, types, htypes, .inl hfor'⟩
    · obtain ⟨types, htypes, hmistakes⟩ := h
      exact ⟨hnonempty ⟨types, htypes, hmistakes⟩, types, htypes, .inr hmistakes⟩

end

/-! ## Decisions -/

theorem firstAction_decidesByRule {det : Detector} (hlist : det.suffixes = .heuristic)
    {pageHost : Option String} (hnormal : ∀ host, pageHost = some host → IsNormal host.toList)
    {domain url : String} {r : TrackerRule}
    (hmatch : Filter.isMatch (Tracker.urlFilter domain r) url)
    (kind : Option ResourceType) :
    det.DecidesByRule r pageHost kind (det.isFor r.types r.domains pageHost (kind.map .single))
      (firstAction (ofTrackerRule domain r) ⟨url, pageHost, kind.map ResourceType.hostName⟩) := by
  have htakes : r.types.admitsName (kind.map ResourceType.hostName) &&
        coversPage r.domains pageHost ↔
      det.isFor r.types r.domains pageHost (kind.map .single) ∨
        Mistakes r.types r.domains pageHost kind :=
    admitsName_and_coversPage_iff hlist hnormal
  have hexception : det.isFor r.types r.domains pageHost (kind.map .single) →
      (takesException domain ⟨url, pageHost, kind.map ResourceType.hostName⟩ r ↔
        det.isExcepted r pageHost (kind.map .single) ∨ MistakesException r pageHost kind) :=
    fun hfor => any_exceptionTrigger?_iff hlist hnormal hfor rfl rfl
  rw [firstAction_ofTrackerRule, takes, hmatch, Bool.true_and, actionOn]
  constructor
  case excepted =>
    intro hfor hexcepted
    rw [if_pos (htakes.mpr (.inl hfor)), if_pos ((hexception hfor).mpr (.inl hexcepted))]
    rfl
  case applied =>
    intro hfor hexcepted hmistakes
    rw [if_pos (htakes.mpr (.inl hfor)), if_neg]
    rw [hexception hfor]
    exact fun h => h.elim hexcepted hmistakes
  case mistaken =>
    intro hfor hmistakes
    refine ⟨not_isExcepted_of_mistakesException hlist hnormal hfor hmistakes, ?_⟩
    rw [if_pos (htakes.mpr (.inl hfor)), if_pos ((hexception hfor).mpr (.inr hmistakes))]
    rfl
  case passed =>
    intro hfor
    rw [or_iff_right hfor] at htakes
    rw [← htakes]
    simp

/-- About a URL that the filter of a rule matches, the compiled rules for the rule decide like the
detector, as far as they do not mistake the request. -/
theorem decidesByRule {det : Detector} {ts : List Tracker} {es : List Entity}
    (hdata : det.dataset = .build ts es) (hlist : det.suffixes = .heuristic) {k : String}
    {t : Tracker} (ht : det.dataset.tracker? k = some t) {r : TrackerRule} {filter : Option Pattern}
    (hrule : (r, filter) ∈ t.rules.zip (det.filtersOf t)) {resource : String} {res : Url.Resource}
    (hresource : Url.normalize? resource = some res) (hmatch : filter.any (·.isMatch res.url))
    (page : String) (kind : Option ResourceType) :
    det.DecidesByRule r (Url.host? page) kind
      (det.ruleApplies res.url (Url.host? page) (kind.map .single) r filter)
      (Matcher.decide (Matcher.ofRules (ofTrackerRule t.domain r))
        ⟨resource, page, kind.map .single⟩) := by
  have hfilter : Filter.isMatch (Tracker.urlFilter t.domain r) res.url := by
    obtain rfl := (Dataset.isNormal_of_tracker?_build (hdata ▸ ht)).2
    rw [filtersOf_eq ht, ruleFilters, ← List.map_prod_left_eq_zip, List.mem_map] at hrule
    obtain ⟨s, -, hs⟩ := hrule
    obtain ⟨rfl, rfl⟩ := Prod.mk.inj hs
    exact hmatch
  have happlies : det.ruleApplies res.url (Url.host? page) (kind.map .single) r filter =
      det.isFor r.types r.domains (Url.host? page) (kind.map .single) := by
    rw [ruleApplies, hmatch, Bool.true_and]
  rw [happlies, decide_ofRules_eq, target?_eq kind hresource, Option.bind_some]
  exact firstAction_decidesByRule hlist (fun _ h => Url.isNormal_of_host? h) hfilter kind

end

open scoped Pattern.Estimate

/-! A rule with kinds and pages, and an exception for some of both. -/

private def collectRule : TrackerRule :=
  { TrackerRule.forPattern "collect" .block with
    types := .ofList [.image, .xmlhttprequest]
    domains := .ofList ["blog.example"]
    exceptions := ⟨.ofList ["shop.blog.example"], .single .image⟩ }

private def collectTracker : Tracker :=
  { Tracker.forDomain "t.example" .ignore with rules := [collectRule] }

private def collectDetector : Detector :=
  ofDataset (.build [collectTracker] [])

private def collectFilter : Option Pattern :=
  (Filter.compile (Tracker.urlFilter "t.example" collectRule)).toOption

private theorem tracker?_collect :
    collectDetector.dataset.tracker? "t.example" = some collectTracker := by
  decide +kernel

private theorem mem_zip_collect :
    (collectRule, collectFilter) ∈
      collectTracker.rules.zip (collectDetector.filtersOf collectTracker) := by
  rw [filtersOf_eq tracker?_collect]
  exact List.mem_cons_self

/-- The image is let through on the pages of the exception. -/
theorem decidesByRule_collect :
    Matcher.decide (Matcher.ofRules (ofTrackerRule "t.example" collectRule))
      ⟨"https://cdn.t.example/collect", "https://www.shop.blog.example/", some (.single .image)⟩ =
        some .ignorePreviousRules := by
  have hresource : Url.normalize? "https://cdn.t.example/collect" =
      some ⟨"https://cdn.t.example/collect", "cdn.t.example"⟩ := by decide +kernel
  have hmatch : collectFilter.any (·.isMatch "https://cdn.t.example/collect") := by decide +kernel
  have hdecides := decidesByRule rfl rfl tracker?_collect mem_zip_collect hresource hmatch
    "https://www.shop.blog.example/" (some .image)
  exact hdecides.excepted (by decide +kernel) (by decide +kernel)

/-! The detector passes over the first two rules and takes the other two without their
exceptions. -/

private def otherRule : TrackerRule :=
  { TrackerRule.forPattern "" .ignore with types := .single .other }

private def labelRule : TrackerRule :=
  { TrackerRule.forPattern "" .ignore with domains := .ofList ["example"] }

private def exceptOther : TrackerRule :=
  { TrackerRule.forPattern "" .block with exceptions := ⟨.empty, .single .other⟩ }

private def exceptLabel : TrackerRule :=
  { TrackerRule.forPattern "" .block with exceptions := ⟨.ofList ["example"], .empty⟩ }

private def mistakesDetector : Detector :=
  ofDataset
    (.build
      [{ Tracker.forDomain "t.example" .block with
        rules := [otherRule, labelRule, exceptOther, exceptLabel] }] [])

/-- Whether the detector is for a rule and its exception, as far as the page and the kind go, and
what the compiled rules for the rule decide. -/
private def decisions (r : TrackerRule) (url page : String) (kind : ResourceType) :
    Bool × Bool × Option ContentAction :=
  (mistakesDetector.isFor r.types r.domains (Url.host? page) (some (.single kind)),
    mistakesDetector.isExcepted r (Url.host? page) (some (.single kind)),
    Matcher.decide (Matcher.ofRules (ofTrackerRule "t.example" r)) ⟨url, page, some (.single kind)⟩)

/-- The compiled rules for each of these rules let a request through that they mistake. -/
theorem decide_of_mistakes :
    decisions otherRule "https://t.example/" "https://site.example/" .xmlhttprequest =
        (false, false, some .ignorePreviousRules) ∧
      decisions labelRule "https://t.example/" "https://site.example/" .xmlhttprequest =
        (false, false, some .ignorePreviousRules) ∧
      decisions exceptOther "https://t.example/" "https://site.example/" .xmlhttprequest =
        (true, false, some .ignorePreviousRules) ∧
      decisions exceptLabel "https://t.example/" "https://site.example/" .xmlhttprequest =
        (true, false, some .ignorePreviousRules) := by
  decide +kernel

end Detector

end Blocklist
