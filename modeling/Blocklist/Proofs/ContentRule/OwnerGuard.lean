import Blocklist.Pattern.Estimate
import Blocklist.Proofs.ContentRule.Triggers
import Blocklist.Proofs.Detector.LongestDomain

/-! # The guard for the pages of an owner

The first rule for a tracker lets through what the pages of its owner load, and takes any page that
a domain of the owner covers for one of these. The detector looks up whose page it is: that of the
entity with the longest domain, of several the last by name, and single labels are not looked up for
a host with more of them. Main statement: `exists_guardsOwner`. -/

namespace Blocklist

open Host

namespace ContentRule

/-- Whether a page is among those that a rule asks for. -/
def admitsPage (rule : ContentRule) (page : String) : Bool :=
  rule.trigger.ifDomains.any (Trigger.entryCovers page)

/-- Whether a page that the domains of an owner cover is not looked up as a page of the owner. -/
inductive Strays (d : Dataset) (owner : Entity) (page : String) : Prop where
  /-- No domain of the owner that covers the page is looked up for it. -/
  | label (hcovered : isCovered owner.domains page)
      (hlabels : ∀ k ∈ owner.domains, ¬IsEndOf k page) : Strays d owner page
  /-- Another entity has a longer domain. -/
  | nested {f : Entity} {k : String} (hcovered : isCovered owner.domains page)
      (hlisted : d.entity? f.name = some f) (hmem : k ∈ f.domains) (hend : IsEndOf k page)
      (hlonger : ∀ k' ∈ owner.domains, IsEndOf k' page → k'.length < k.length) :
      Strays d owner page
  /-- Another entity, with a later name, has the longest domain of the owner too. -/
  | shared {f : Entity} {k : String} (hmem : k ∈ owner.domains) (hend : IsEndOf k page)
      (hlongest : ∀ k' ∈ owner.domains, IsEndOf k' page → k' ≠ k → k'.length < k.length)
      (hlisted : d.entity? f.name = some f) (hshared : k ∈ f.domains)
        (hname : owner.name < f.name) :
      Strays d owner page

/-! ## The guard -/

/-- The rule that lets through what the pages of an owner load from a tracker. -/
def ownerGuard (t : Tracker) (owner : Entity) : ContentRule :=
  ⟨(Trigger.forFilter (Filter.scope t.domain)).withDomains owner.domains.toList,
    .ignorePreviousRules⟩

theorem admitsPage_ownerGuard (t : Tracker) (owner : Entity) (page : String) :
    (ownerGuard t owner).admitsPage page = isCovered owner.domains page :=
  Trigger.any_domainEntry owner.domains page

theorem ofTracker_eq_ownerGuard_cons {d : Dataset} {t : Tracker} {owner : Entity}
    (howner : d.ownerOf? t = some owner) (hdomains : ¬owner.domains.isEmpty) :
    ∃ rest, ofTracker d t = ownerGuard t owner :: rest := by
  have hrules : ownerRules (Filter.scope t.domain) (d.ownerOf? t) = [ownerGuard t owner] := by
    rw [howner]
    exact if_neg hdomains
  rw [ofTracker, hrules]
  exact ⟨_, rfl⟩

theorem mem_compile_of_mem_ofTracker {d : Dataset} {options : CompileOptions} {k : String}
    {t : Tracker} (ht : d.tracker? k = some t) {rule : ContentRule} (h : rule ∈ ofTracker d t) :
    rule ∈ compile d options := by
  simp only [compile, List.mem_append, List.mem_flatMap, List.mem_mergeSort]
  exact .inl (.inr ⟨t, TextMap.mem_values_iff.mpr ⟨k, ht⟩, h⟩)

end ContentRule

namespace Detector

open ContentRule

section

variable [Pattern.SizeLimit]

/-- What the guard for the owner of a tracker is, and how it decides whether a page is one of the
owner. -/
structure GuardsOwner (det : Detector) (t : Tracker) (owner : Entity) (page : String)
    (guard : ContentRule) : Prop where
  emitted : ∀ options, guard ∈ compile det.dataset options
  first : ∃ rest, ofTracker det.dataset t = guard :: rest
  scope : guard.trigger.urlFilter = Filter.scope t.domain
  action : guard.action = .ignorePreviousRules
  own : det.entity? page = some owner → guard.admitsPage page
  agrees : (guard.admitsPage page ↔ det.entity? page = some owner) ↔
    ¬Strays det.dataset owner page

/-! ## Pages of the owner -/

section

variable {det : Detector} (hlist : det.suffixes = .heuristic)
  (hnames : ByName det.dataset.entities) {page : String} (hpage : IsNormal page.toList)
  {owner : Entity}

include hlist hnames hpage

/-- A page belongs to the owner of the longest of its domains. -/
theorem entity?_eq_some_iff_owner :
    det.entity? page = some owner ↔
      det.dataset.entity? owner.name = some owner ∧
        ∃ k ∈ owner.domains, IsEndOf k page ∧
          (∀ f, det.dataset.entity? f.name = some f → k ∈ f.domains → f.name ≤ owner.name) ∧
          ∀ f, det.dataset.entity? f.name = some f → ∀ k' ∈ f.domains, IsEndOf k' page → k' ≠ k →
            k'.length < k.length := by
  rw [entity?_eq_some_iff_longest hlist hpage hnames]
  simp only [Dataset.entityForDomain?_eq_some_iff hnames]
  constructor
  · rintro ⟨k, ⟨hlisted, hmem, hlast⟩, hend, hlongest⟩
    exact ⟨hlisted, k, hmem, hend, hlast, fun f hf => hlongest f.name f hf⟩
  · rintro ⟨hlisted, k, hmem, hend, hlast, hlongest⟩
    refine ⟨k, ⟨hlisted, hmem, hlast⟩, hend, fun n f hf => hlongest f ?_⟩
    rwa [hnames n f hf]

theorem isCovered_of_entity? (h : det.entity? page = some owner) :
    isCovered owner.domains page := by
  obtain ⟨-, k, hmem, hend, -⟩ := (entity?_eq_some_iff_owner hlist hnames hpage).mp h
  exact isCovered_iff.mpr ⟨k, hmem, SuffixList.covers_of_isEndOf hend⟩

theorem entity?_ne_of_strays (h : Strays det.dataset owner page) :
    det.entity? page ≠ some owner := by
  rw [ne_eq, entity?_eq_some_iff_owner hlist hnames hpage]
  rintro ⟨-, k, hmem, hend, hlast, hlongest⟩
  cases h with
  | label _ hlabels => exact hlabels k hmem hend
  | @nested f k' _ hlisted hmem' hend' hlonger =>
    have hlt := hlonger k hmem hend
    have hne : k' ≠ k := by
      rintro rfl
      exact Nat.lt_irrefl _ hlt
    exact Nat.lt_asymm hlt (hlongest f hlisted k' hmem' hend' hne)
  | @shared f k' hmem' hend' hlongest' hlisted hshared hname =>
    by_cases hne : k' = k
    · subst hne
      exact not_le_of_gt hname (hlast f hlisted hshared)
    · have hlt := hlongest f hlisted k' hshared hend' hne
      exact Nat.lt_asymm hlt (hlongest' k hmem hend (Ne.symm hne))

/-- A page that the domains of a listed owner cover belongs to it or strays. -/
theorem entity?_eq_some_or_strays (hlisted : det.dataset.entity? owner.name = some owner)
    (hcovered : isCovered owner.domains page) :
    det.entity? page = some owner ∨ Strays det.dataset owner page := by
  cases h : det.entity? page with
  | none =>
    rw [entity?_eq_none_iff_longest hlist hpage hnames] at h
    exact .inr (.label hcovered fun k hk => h owner.name owner hlisted k hk)
  | some f =>
    obtain ⟨hf, k, hmem, hend, hlast, hlongest⟩ :=
      (entity?_eq_some_iff_owner hlist hnames hpage).mp h
    by_cases hk : k ∈ owner.domains
    -- The owner has the longest domain too, so the page is that of the last by name.
    · have hle := hlast owner hlisted hk
      by_cases hname : owner.name = f.name
      · rw [hname, hf] at hlisted
        exact .inl hlisted
      · exact .inr (.shared hk hend (fun k' hk' => hlongest owner hlisted k' hk') hf hmem
          (lt_of_le_of_ne hle hname))
    · refine .inr (.nested hcovered hf hmem hend fun k' hk' hend' => ?_)
      refine hlongest owner hlisted k' hk' hend' ?_
      rintro rfl
      exact hk hk'

theorem isCovered_iff_entity?_iff (hlisted : det.dataset.entity? owner.name = some owner) :
    (isCovered owner.domains page ↔ det.entity? page = some owner) ↔
      ¬Strays det.dataset owner page := by
  constructor
  · intro hiff hstrays
    have hcovered : isCovered owner.domains page := by
      cases hstrays with
      | label hcovered _ => exact hcovered
      | nested hcovered => exact hcovered
      | @shared _ k hmem hend =>
        exact isCovered_iff.mpr ⟨k, hmem, SuffixList.covers_of_isEndOf hend⟩
    exact entity?_ne_of_strays hlist hnames hpage hstrays (hiff.mp hcovered)
  · intro hstrays
    constructor
    · intro hcovered
      exact (entity?_eq_some_or_strays hlist hnames hpage hlisted hcovered).resolve_right hstrays
    · exact isCovered_of_entity? hlist hnames hpage

end

/-! ## Trackers with an owner -/

/-- The guard for the owner of a tracker takes a page for one of the owner exactly if the detector
does, unless the page strays. -/
theorem exists_guardsOwner {det : Detector} {ts : List Tracker} {es : List Entity}
    (hdata : det.dataset = .build ts es) (hlist : det.suffixes = .heuristic) {k : String}
    {t : Tracker} (ht : det.dataset.tracker? k = some t) {owner : Entity}
    (howner : det.dataset.ownerOf? t = some owner) (hdomains : ¬owner.domains.isEmpty)
    {url page : String} (hurl : Url.host? url = some page) :
    ∃ guard, det.GuardsOwner t owner page guard := by
  have hnames : ByName det.dataset.entities := hdata ▸ Dataset.byName_build ts es
  have hpage := Url.isNormal_of_host? hurl
  have hlisted := Dataset.entity?_name_of_ownerOf? hnames howner
  have hfirst := ofTracker_eq_ownerGuard_cons howner hdomains
  have hmem : ownerGuard t owner ∈ ofTracker det.dataset t := by
    obtain ⟨rest, hrest⟩ := hfirst
    rw [hrest]
    exact List.mem_cons_self
  refine ⟨ownerGuard t owner, fun options => mem_compile_of_mem_ofTracker ht hmem, hfirst, rfl, rfl,
    ?own, ?agrees⟩
  case own =>
    rw [admitsPage_ownerGuard]
    exact isCovered_of_entity? hlist hnames hpage
  case agrees =>
    rw [admitsPage_ownerGuard]
    exact isCovered_iff_entity?_iff hlist hnames hpage hlisted

private def ownedBy (domain owner : String) : Tracker :=
  { Tracker.forDomain domain .block with owner := some owner }

private def sitesDetector (domainsA domainsB : List String) : Detector :=
  ofDataset
    (.build [ownedBy "t.example" "A", ownedBy "u.example" "B"]
      [.named "A" domainsA, .named "B" domainsB])

end

open scoped Pattern.Estimate

/-- A page of an owner beside an entity with other sites. -/
theorem exists_guardsOwner_site :
    ∃ guard, (sitesDetector ["site.example"] ["shop.example"]).GuardsOwner
      (ownedBy "t.example" "A") (.named "A" ["site.example"]) "www.site.example" guard := by
  have htracker : (sitesDetector ["site.example"] ["shop.example"]).dataset.tracker? "t.example" =
      some (ownedBy "t.example" "A") := by decide +kernel
  have howner : (sitesDetector ["site.example"] ["shop.example"]).dataset.ownerOf?
      (ownedBy "t.example" "A") = some (.named "A" ["site.example"]) := by decide +kernel
  have hurl : Url.host? "https://www.site.example/" = some "www.site.example" := by decide +kernel
  exact exists_guardsOwner rfl rfl htracker howner (by decide) hurl

/-- The guard for an entity takes pages for its own that are of an entity with a longer domain, of
one with a later name, or of none. -/
theorem admitsPage_of_strays :
    ((ofTracker (sitesDetector ["site.example"] ["shop.site.example"]).dataset
          (ownedBy "t.example" "A")).head?.map (·.admitsPage "shop.site.example") = some true ∧
        ((sitesDetector ["site.example"] ["shop.site.example"]).entity? "shop.site.example").map
          Entity.name = some "B") ∧
      ((ofTracker (sitesDetector ["site.example"] ["site.example"]).dataset
          (ownedBy "t.example" "A")).head?.map (·.admitsPage "site.example") = some true ∧
        ((sitesDetector ["site.example"] ["site.example"]).entity? "site.example").map
          Entity.name = some "B") ∧
      ((ofTracker (sitesDetector ["example"] ["shop.test"]).dataset
          (ownedBy "t.example" "A")).head?.map (·.admitsPage "site.example") = some true ∧
        (sitesDetector ["example"] ["shop.test"]).entity? "site.example" = none) := by
  decide +kernel

end Detector

end Blocklist
