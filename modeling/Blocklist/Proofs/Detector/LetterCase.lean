import Blocklist.Pattern.Estimate
import Blocklist.Proofs.Detector.Filters
import Blocklist.Proofs.Pattern.CaseBlindness
import Blocklist.Proofs.Url.LetterCase

/-! # The letter case of URLs

Filters are compiled so that letter case does not matter, but a pattern can make it matter by a flag
of its own. Apart from such patterns the detector and the compiled rules decide about a URL in any
letter case alike. Main statement: `disregardsCase`. -/

namespace Blocklist

open Pattern

/-! ## Filters -/

theorem Pattern.isMatch_congr {p : Pattern} (hp : p.expr.IsCaseBlind) {url url' : String}
    (hurl : url'.toList.map Char.toLower = url.toList.map Char.toLower) :
    p.isMatch url' = p.isMatch url :=
  Expr.occursIn_congr hp hurl

theorem Filter.isCaseBlind_of_mem_frontExprs {domain : List Char} {subdomains : Bool} {x : Expr}
    (hx : x ∈ frontExprs domain subdomains) : x.IsCaseBlind :=
  of_mem_frontExprs (fun c => CharSet.isCaseBlind_foldCase (.char c)) (by decide +kernel) hx

section

variable [SizeLimit]

namespace Filter

/-- The filter for a domain and its subdomains has no pattern that could make letter case matter. -/
theorem isCaseBlind_of_compile_scope {domain : String} (hdomain : Host.IsNormal domain.toList)
    {p : Pattern} (h : compile (scope domain) = .ok p) : p.expr.IsCaseBlind := by
  rw [compile, Pattern.compile, toList_scope] at h
  rw [expr_of_compileChars_hostFilter (Host.ne_nil_of_isValid hdomain.valid)
    (Host.isHostChar_of_isValid hdomain.valid) h]
  have hparts : ∀ x ∈ Expr.look .textStart :: frontExprs domain.toList true, x.IsCaseBlind :=
    List.forall_mem_cons.mpr ⟨trivial, fun _ => isCaseBlind_of_mem_frontExprs⟩
  exact List.foldrRecOn _ _ (CharSet.isCaseBlind_foldCase _) fun _ hf x hx => ⟨hparts x hx, hf⟩

end Filter

/-- Why letter case does not matter to the filter of a rule: the pattern never makes it matter, or
nowhere where a letter is told from its other case. -/
inductive TrackerRule.DisregardsCase (domain : String) (r : TrackerRule) : Prop where
  | never {e : Ast} (hparse : parse? (Tracker.urlFilter domain r).toList = some e)
      (he : e.mindsCase = false) : r.DisregardsCase domain
  | blind {p : Pattern} (hp : Filter.compile (Tracker.urlFilter domain r) = .ok p)
      (hblind : p.expr.IsCaseBlind) : r.DisregardsCase domain

theorem TrackerRule.DisregardsCase.isCaseBlind {domain : String} {r : TrackerRule}
    (h : r.DisregardsCase domain) {p : Pattern}
    (hp : Filter.compile (Tracker.urlFilter domain r) = .ok p) : p.expr.IsCaseBlind := by
  cases h with
  | never hparse he =>
    obtain ⟨e', m, hparse', hmeaning, -⟩ := Filter.compileChars_eq_ok_iff.mp hp
    obtain rfl := Option.some.inj (hparse.symm.trans hparse')
    exact (isCaseBlind_of_toExpr? rfl he hmeaning).1
  | blind hp' hblind => exact Except.ok.inj (hp'.symm.trans hp) ▸ hblind

/-- Whether letter case does not matter to the filters of a tracker. -/
def Tracker.DisregardsCase (t : Tracker) : Prop := ∀ r ∈ t.rules, r.DisregardsCase t.domain

/-- Whether letter case does not matter to those filters of a tracker that may match URLs of a
host. -/
def Tracker.DisregardsCaseAt (t : Tracker) (host : String) : Prop :=
  ∀ r ∈ t.rules,
    Host.covers t.domain host ∨ ¬Filter.keepsSlash (Filter.dropSlash r.pattern.toList) →
    r.DisregardsCase t.domain

/-- What is decided about the URL of a resource does not depend on its letter case, unless it
matters to a filter: one of the tracker for the detector, one that may match URLs of the host for
the compiled rules. -/
structure Detector.DisregardsCase (det : Detector) (options : CompileOptions) : Prop where
  classify : ∀ (r : Request) resource, Text.lower resource = Text.lower r.resource →
    (∀ x t, Url.normalize? r.resource = some x → det.tracker? x.host = some t →
      t.DisregardsCase) →
    det.classify { r with resource } = det.classify r
  decide : ∀ (r : Request) resource, Text.lower resource = Text.lower r.resource →
    (∀ x k t, Url.normalize? r.resource = some x → det.dataset.tracker? k = some t →
      t.DisregardsCaseAt x.host) →
    Matcher.decide (Matcher.ofRules (ContentRule.compile det.dataset options)) { r with resource } =
      Matcher.decide (Matcher.ofRules (ContentRule.compile det.dataset options)) r

/-! ## Matches -/

/-- A filter that can be compiled only to a blind expression does not tell the URLs apart. -/
theorem Filter.any_isMatch_congr {filter : String}
    (hfilter : ∀ p, Filter.compile filter = .ok p → p.expr.IsCaseBlind) {url url' : String}
    (hurl : url'.toList.map Char.toLower = url.toList.map Char.toLower) :
    (Filter.compile filter).toOption.any (·.isMatch url') =
      (Filter.compile filter).toOption.any (·.isMatch url) := by
  cases hp : Filter.compile filter with
  | error e => rfl
  | ok p => exact Pattern.isMatch_congr (hfilter p hp) hurl

/-! ## The detector -/

namespace Detector

theorem firstRule?_congr_url (det : Detector) {url url' : String} (pageHost : Option String)
    (type : Option TypeMask) (index : Nat) {rules : List (TrackerRule × Option Pattern)}
    (h : ∀ rule ∈ rules, rule.2.any (·.isMatch url') = rule.2.any (·.isMatch url)) :
    det.firstRule? url' pageHost type index rules =
      det.firstRule? url pageHost type index rules := by
  induction rules generalizing index with
  | nil => rfl
  | cons rule rules ih =>
    rw [firstRule?, firstRule?, ih _ fun s hs => h s (List.mem_cons_of_mem _ hs), ruleApplies,
      ruleApplies, h rule List.mem_cons_self]

variable {det : Detector} {ts : List Tracker} {es : List Entity}
  (hdata : det.dataset = .build ts es)

include hdata

theorem verdict_congr_url {host : String} {t : Tracker} (ht : det.tracker? host = some t)
    (hblind : t.DisregardsCase) {url url' : String}
    (hurl : url'.toList.map Char.toLower = url.toList.map Char.toLower)
    (pageHost : Option String) (type : Option TypeMask) :
    det.verdict t url' pageHost type = det.verdict t url pageHost type := by
  obtain ⟨k, -, hk⟩ := List.exists_of_findSome?_eq_some ht
  obtain rfl := (Dataset.isNormal_of_tracker?_build (hdata ▸ hk)).2
  rw [verdict, verdict, firstRule?_congr_url]
  intro rule hrule
  rw [filtersOf_eq hk, ruleFilters, ← List.map_prod_left_eq_zip, List.mem_map] at hrule
  obtain ⟨r, hr, rfl⟩ := hrule
  exact Filter.any_isMatch_congr (fun p hp => (hblind r hr).isCaseBlind hp) hurl

theorem classify_congr_url (r : Request) {resource : String}
    (h : Text.lower resource = Text.lower r.resource)
    (hblind : ∀ x t, Url.normalize? r.resource = some x → det.tracker? x.host = some t →
      t.DisregardsCase) :
    det.classify { r with resource } = det.classify r := by
  rw [classify, classify]
  cases Url.areAlike_of_lower_eq h with
  | invalid hs ht => rw [hs, ht]
  | @valid x y hs ht hhost hurl =>
    simp only [hs, ht, Option.bind_some, hhost]
    cases htracker : det.tracker? x.host with
    | none => rfl
    | some t =>
      have hverdict := verdict_congr_url hdata htracker (hblind x t hs htracker) hurl
      simp only [Option.map_some, hverdict]

end Detector

/-! ## The compiled rules -/

/-- A rule that may match URLs of the host disregards case, and the others match neither URL. -/
theorem ContentRule.isMatch_congr_of_mem_compile {ts : List Tracker} {es : List Entity}
    {resource resource' : String} {x y : Url.Resource} (hx : Url.normalize? resource = some x)
    (hy : Url.normalize? resource' = some y) (hhost : y.host = x.host)
    (hurl : y.url.toList.map Char.toLower = x.url.toList.map Char.toLower)
    (hblind : ∀ k t, (Dataset.build ts es).tracker? k = some t → t.DisregardsCaseAt x.host)
    {options : CompileOptions} {rule : ContentRule} (h : rule ∈ compile (.build ts es) options) :
    Filter.isMatch rule.trigger.urlFilter y.url = Filter.isMatch rule.trigger.urlFilter x.url := by
  rcases urlFilter_of_mem_compile h with hany | ⟨t, ht, hrule⟩
  · rw [hany, isMatch_anyUrl, isMatch_anyUrl]
  obtain ⟨k, hk⟩ := TextMap.mem_values_iff.mp ht
  have hnormal := (Dataset.isNormal_of_tracker?_build hk).1
  rcases urlFilter_of_mem_ofTracker hrule with hscope | ⟨r, hr, hfilter⟩
  · have hdomain := Host.isNormal_of_normalize? hnormal.domain
    rw [hscope]
    exact Filter.any_isMatch_congr (fun p hp => Filter.isCaseBlind_of_compile_scope hdomain hp) hurl
  · rw [hfilter]
    by_cases hreach :
        Host.covers t.domain x.host ∨ ¬Filter.keepsSlash (Filter.dropSlash r.pattern.toList)
    · exact Filter.any_isMatch_congr (fun p hp => (hblind k t hk r hr hreach).isCaseBlind hp) hurl
    · obtain ⟨hother, hkeeps⟩ := not_or.mp hreach
      have hsilent : ∀ {s : String} {z : Url.Resource}, Url.normalize? s = some z →
          z.host = x.host → Filter.isMatch (Tracker.urlFilter t.domain r) z.url = false := by
        intro s z hz hsame
        refine Bool.eq_false_iff.mpr fun hmatch => hother ?_
        exact hsame ▸ covers_of_isMatch_urlFilter hnormal hz hr (not_not.mp hkeeps) hmatch
      rw [hsilent hx rfl, hsilent hy hhost]

theorem ContentRule.decide_compile_congr_url {ts : List Tracker} {es : List Entity}
    {options : CompileOptions} (r : Request) {resource : String}
    (h : Text.lower resource = Text.lower r.resource)
    (hblind : ∀ x k t, Url.normalize? r.resource = some x →
      (Dataset.build ts es).tracker? k = some t → t.DisregardsCaseAt x.host) :
    Matcher.decide (Matcher.ofRules (compile (.build ts es) options)) { r with resource } =
      Matcher.decide (Matcher.ofRules (compile (.build ts es) options)) r := by
  rw [Matcher.decide, Matcher.decide, Request.target?, Request.target?]
  cases Url.areAlike_of_lower_eq h with
  | invalid hs ht => rw [hs, ht]
  | @valid x y hs ht hhost hurl =>
    simp only [hs, ht, Option.map_some, Option.bind_some]
    refine congrArg _ (List.find?_congr fun m hm => ?_)
    obtain ⟨rule, hrule, rfl⟩ := List.mem_map.mp hm
    have hmatch := isMatch_congr_of_mem_compile hs ht hhost hurl (fun k t hk => hblind x k t hs hk)
      (List.mem_of_mem_filter hrule)
    rw [Matcher.isMatch, Matcher.isMatch]
    exact congrArg (and _) hmatch

/-! ## Both -/

/-- Letter case in the URL of a resource does not matter where it does not matter to a filter. -/
theorem Detector.disregardsCase {det : Detector} {ts : List Tracker} {es : List Entity}
    (hdata : det.dataset = .build ts es) (options : CompileOptions) :
    det.DisregardsCase options where
  classify := fun r _ h hblind => classify_congr_url hdata r h hblind
  decide := by
    intro r resource h hblind
    rw [hdata] at hblind ⊢
    exact ContentRule.decide_compile_congr_url r h hblind

/-- A tracker with a pattern in which letter case never matters, and one in which it does, but only
to digits. -/
def caseBlindTracker : Tracker :=
  { Tracker.forDomain "t.example" .block with
    rules := [.forPattern "Ads" .ignore, .forPattern "(?-i)[0-9]" .ignore] }

end

open scoped Pattern.Estimate

theorem Detector.disregardsCase_caseBlindTracker :
    Text.lower "HTTPS://T.Example/ADS" = Text.lower "https://t.example/Ads" ∧
      (ofDataset (.build [caseBlindTracker] [])).classify
          ⟨"HTTPS://T.Example/ADS", "https://site.example/", none⟩ =
        (ofDataset (.build [caseBlindTracker] [])).classify
          ⟨"https://t.example/Ads", "https://site.example/", none⟩ ∧
      Matcher.decide (Matcher.ofRules (ContentRule.compile (.build [caseBlindTracker] []) ⟨[], []⟩))
          ⟨"HTTPS://T.Example/ADS", "https://site.example/", none⟩ =
        Matcher.decide (Matcher.ofRules
          (ContentRule.compile (.build [caseBlindTracker] []) ⟨[], []⟩))
          ⟨"https://t.example/Ads", "https://site.example/", none⟩ := by
  have hlower : Text.lower "HTTPS://T.Example/ADS" = Text.lower "https://t.example/Ads" := by decide
  have hnever : (parse? (Tracker.urlFilter "t.example" (.forPattern "Ads" .ignore)).toList).map
      Ast.mindsCase = some false := by
    decide +kernel
  have hblind : (Filter.compile (Tracker.urlFilter "t.example"
      (.forPattern "(?-i)[0-9]" .ignore))).toOption.map (fun p => decide p.expr.IsCaseBlind) =
        some true := by
    decide +kernel
  have htracker : caseBlindTracker.DisregardsCase := by
    intro r hr
    simp only [caseBlindTracker, List.mem_cons, List.not_mem_nil, or_false] at hr
    obtain rfl | rfl := hr
    · obtain ⟨e, hparse, he⟩ := Option.map_eq_some_iff.mp hnever
      exact .never hparse he
    · cases hp : Filter.compile (Tracker.urlFilter "t.example"
        (.forPattern "(?-i)[0-9]" .ignore)) with
      | error e => simp [hp, Except.toOption] at hblind
      | ok p => exact .blind hp (by simpa [hp, Except.toOption] using hblind)
  have hfound : ∀ t ∈ (Dataset.build [caseBlindTracker] []).trackers.values,
      t = caseBlindTracker := by
    decide +kernel
  have hsame := @disregardsCase _ (ofDataset (.build [caseBlindTracker] [])) _ _ rfl ⟨[], []⟩
  refine ⟨hlower,
    hsame.classify ⟨"https://t.example/Ads", "https://site.example/", none⟩ _ hlower ?_,
    hsame.decide ⟨"https://t.example/Ads", "https://site.example/", none⟩ _ hlower ?_⟩
  · intro x t _ ht
    obtain ⟨k, -, hk⟩ := List.exists_of_findSome?_eq_some ht
    obtain rfl := hfound t (TextMap.mem_values_iff.mpr ⟨k, hk⟩)
    exact htracker
  · intro x k t _ hk r hr _
    obtain rfl := hfound t (TextMap.mem_values_iff.mpr ⟨k, hk⟩)
    exact htracker r hr

/-- A tracker with a pattern that makes letter case matter. -/
def caseFlaggedTracker : Tracker :=
  { Tracker.forDomain "t.example" .block with rules := [.forPattern "(?-i)Ads" .ignore] }

/-- The detector and the compiled rules tell the cases of a letter apart where a flag asks for
it. -/
theorem Detector.not_disregardsCase_caseFlaggedTracker :
    Text.lower "https://t.example/ads" = Text.lower "https://t.example/Ads" ∧
      (ofDataset (.build [caseFlaggedTracker] [])).classify
          ⟨"https://t.example/Ads", "https://site.example/", none⟩ =
        some ⟨.ignore, "t.example", none, .rule 0⟩ ∧
      (ofDataset (.build [caseFlaggedTracker] [])).classify
          ⟨"https://t.example/ads", "https://site.example/", none⟩ =
        some ⟨.block, "t.example", none, .default⟩ ∧
      Matcher.decide (Matcher.ofRules
        (ContentRule.compile (.build [caseFlaggedTracker] []) ⟨[], []⟩))
          ⟨"https://t.example/Ads", "https://site.example/", none⟩ = some (.ofAction .ignore) ∧
      Matcher.decide (Matcher.ofRules
        (ContentRule.compile (.build [caseFlaggedTracker] []) ⟨[], []⟩))
          ⟨"https://t.example/ads", "https://site.example/", none⟩ = some (.ofAction .block) := by
  decide +kernel

end Blocklist
