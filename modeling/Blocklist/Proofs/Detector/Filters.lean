import Blocklist.Pattern.Estimate
import Blocklist.Proofs.ContentRule.Agreement

/-! # The filters of a built dataset

The patterns of a dataset are checked once, when its trackers are brought into normal form. The
filters that are made of them later on can all be compiled, so neither the detector nor the compiled
rules pass over a rule that has no filter. Main statement: `hasAllFilters_build`. -/

namespace Blocklist

open Pattern

/-- A rule for trusted sites or for hiding is for any URL. -/
theorem ContentRule.urlFilter_of_mem_compile {d : Dataset} {options : CompileOptions}
    {rule : ContentRule} (h : rule ∈ compile d options) :
    rule.trigger.urlFilter = anyUrl ∨ ∃ t ∈ d.trackers.values, rule ∈ ofTracker d t := by
  simp only [compile, List.mem_append, List.mem_flatMap, List.mem_mergeSort, List.mem_map] at h
  rcases h with (htrusted | htracker) | ⟨_, -, rfl⟩
  · apply Or.inl
    simp only [trustedRules] at htrusted
    split at htrusted
    · cases htrusted
    · rw [List.mem_singleton.mp htrusted]
      rfl
  · exact .inr htracker
  · exact .inl rfl

section

variable [SizeLimit]

/-! ## The filters of the detector -/

namespace Tracker

theorem length_ruleFilters (t : Tracker) : (ruleFilters t).length = t.rules.length :=
  List.length_map _

/-- Every rule of a tracker in normal form has a filter. -/
theorem IsNormal.isSome_of_mem_ruleFilters {t : Tracker} (h : t.IsNormal) {f : Option Pattern}
    (hf : f ∈ ruleFilters t) : f.isSome := by
  obtain ⟨r, hr, rfl⟩ := List.mem_map.mp hf
  obtain ⟨p, hp⟩ := (h.rules r hr).compiles
  rw [hp]
  rfl

end Tracker

/-! ## The filters of the compiled rules -/

namespace ContentRule

theorem exists_compile_of_mem_ofTracker {d : Dataset} {t : Tracker} (ht : t.IsNormal)
    (hsize : Filter.compile (Filter.scope t.domain) ≠ .error .tooLarge) {rule : ContentRule}
    (h : rule ∈ ofTracker d t) : ∃ p, Filter.compile rule.trigger.urlFilter = .ok p := by
  rcases urlFilter_of_mem_ofTracker h with hscope | ⟨r, hr, hfilter⟩
  · rw [hscope]
    exact Filter.exists_compile_scope (Host.isNormal_of_normalize? ht.domain) hsize
  · rw [hfilter]
    exact (ht.rules r hr).compiles

end ContentRule

/-! ## Datasets -/

/-- No rule of a dataset is passed over because it has no filter. -/
structure HasAllFilters (d : Dataset) (options : CompileOptions) : Prop where
  /-- The filter of every compiled rule can be compiled. -/
  compiled : ∀ rule ∈ ContentRule.compile d options,
    ∃ p, Filter.compile rule.trigger.urlFilter = .ok p
  /-- Only rules that hide elements are left out, and each of the others has its filter. -/
  matchers : ∀ m ∈ Matcher.ofRules (ContentRule.compile d options), m.filter.isSome
  /-- The detector has filters for the trackers, and for nothing else. -/
  slots : ∀ det : Detector, det.dataset = d → ∀ k filters,
    det.filters.get? k = some filters ↔
      ∃ t, d.tracker? k = some t ∧ ruleFilters t = filters ∧
        filters.length = t.rules.length ∧ ∀ f ∈ filters, f.isSome
  /-- The detector goes through all rules of a tracker, and each of them has its filter. -/
  rules : ∀ det : Detector, det.dataset = d → ∀ k t, d.tracker? k = some t →
    (t.rules.zip (det.filtersOf t)).map Prod.fst = t.rules ∧
      ∀ r ∈ t.rules.zip (det.filtersOf t), r.2.isSome

namespace Dataset

variable {ts : List Tracker} {es : List Entity} {det : Detector} (hdata : det.dataset = build ts es)

include hdata

theorem get?_filters_eq_some_iff {k : String} {filters : List (Option Pattern)} :
    det.filters.get? k = some filters ↔
      ∃ t, (build ts es).tracker? k = some t ∧ ruleFilters t = filters ∧
        filters.length = t.rules.length ∧ ∀ f ∈ filters, f.isSome := by
  rw [det.filters_eq, hdata, TextMap.get?_map, Option.map_eq_some_iff]
  constructor
  · rintro ⟨t, ht, rfl⟩
    have hnormal := (isNormal_of_tracker?_build ht).1
    exact ⟨t, ht, rfl, t.length_ruleFilters, fun f hf => hnormal.isSome_of_mem_ruleFilters hf⟩
  · rintro ⟨t, ht, rfl, -⟩
    exact ⟨t, ht, rfl⟩

theorem zip_filtersOf {k : String} {t : Tracker} (ht : (build ts es).tracker? k = some t) :
    (t.rules.zip (det.filtersOf t)).map Prod.fst = t.rules ∧
      ∀ r ∈ t.rules.zip (det.filtersOf t), r.2.isSome := by
  obtain ⟨hnormal, rfl⟩ := isNormal_of_tracker?_build ht
  rw [← hdata] at ht
  rw [Detector.filtersOf_eq ht]
  constructor
  · rw [List.map_fst_zip]
    exact Nat.le_of_eq t.length_ruleFilters.symm
  · intro r hr
    exact hnormal.isSome_of_mem_ruleFilters (List.of_mem_zip hr).2

end Dataset

theorem Dataset.exists_compile_of_mem_compile {ts : List Tracker} {es : List Entity}
    {options : CompileOptions}
    (hsize : ∀ t ∈ (build ts es).trackers.values,
      Filter.compile (Filter.scope t.domain) ≠ .error .tooLarge) {rule : ContentRule}
    (h : rule ∈ ContentRule.compile (build ts es) options) :
    ∃ p, Filter.compile rule.trigger.urlFilter = .ok p := by
  rcases ContentRule.urlFilter_of_mem_compile h with hany | ⟨t, ht, hrule⟩
  · rw [hany]
    exact ⟨_, ContentRule.compile_anyUrl⟩
  · obtain ⟨k, hk⟩ := TextMap.mem_values_iff.mp ht
    have hnormal := (isNormal_of_tracker?_build hk).1
    exact ContentRule.exists_compile_of_mem_ofTracker hnormal (hsize t ht) hrule

/-- Every rule of a built dataset has its filter, as long as no matcher for a domain is too
large. -/
theorem Dataset.hasAllFilters_build (ts : List Tracker) (es : List Entity)
    (options : CompileOptions)
    (hsize : ∀ t ∈ (build ts es).trackers.values,
      Filter.compile (Filter.scope t.domain) ≠ .error .tooLarge) :
    HasAllFilters (build ts es) options where
  compiled := fun _ h => exists_compile_of_mem_compile hsize h
  matchers := by
    intro m hm
    obtain ⟨rule, hrule, rfl⟩ := List.mem_map.mp hm
    obtain ⟨p, hp⟩ := exists_compile_of_mem_compile hsize (List.mem_of_mem_filter hrule)
    rw [Matcher.ofRule, hp]
    rfl
  slots := fun _ hdata _ _ => get?_filters_eq_some_iff hdata
  rules := fun _ hdata _ _ ht => zip_filtersOf hdata ht

end

open scoped Pattern.Estimate

/-- A tracker with an owner and a rule, a trusted site and a hidden element. -/
theorem Dataset.hasAllFilters_build_owned :
    HasAllFilters
      (build
        [{ Tracker.forDomain "t.example" .block with
          owner := some "T Co", rules := [.forPattern "pixel\\.gif" .ignore] }]
        [.named "T Co" ["t-site.example"]])
      ⟨["trusted.example"], [⟨"news.example", ".banner"⟩]⟩ :=
  hasAllFilters_build _ _ _ (by decide +kernel)

end Blocklist
