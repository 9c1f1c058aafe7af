import Blocklist.Detector
import Blocklist.Pattern.Estimate
import Blocklist.Proofs.SuffixList.Registrable
import Blocklist.Proofs.Url.Authority

/-! # Detectors with different suffix lists

A detector that knows public suffixes stops earlier on its way up the domains of a host than one
without. So it may miss trackers, entities and trusted sites, but it takes none for another. Main
statement: `findsLess_withSuffixes`. -/

namespace Blocklist.Detector

section

variable [Pattern.SizeLimit]

/-- How one detector finds less for a host than another: it goes through the first of the domains
that the other one goes through, so what it finds the other one finds. -/
structure FindsLess (d e : Detector) (host : String) : Prop where
  walk : d.suffixes.walk host <+: e.suffixes.walk host
  tracker : ∀ t, d.tracker? host = some t → e.tracker? host = some t
  entity : ∀ owner, d.entity? host = some owner → e.entity? host = some owner
  trusted : d.pageIsIn d.trustedSites (some host) → e.pageIsIn e.trustedSites (some host)

theorem findsLess_of_walk_prefix {d : Detector} {suffixes suffixes' : SuffixList} {host : String}
    (h : suffixes.walk host <+: suffixes'.walk host) :
    (d.withSuffixes suffixes).FindsLess (d.withSuffixes suffixes') host where
  walk := h
  tracker := fun _ => h.findSome?_eq_some
  entity := fun _ => h.findSome?_eq_some
  trusted := by
    simp only [pageIsIn, Option.any_some, List.any_eq_true]
    rintro ⟨domain, hmem, htrusted⟩
    exact ⟨domain, h.mem hmem, htrusted⟩

/-- With a suffix list a detector finds nothing for the host of a URL that it does not find by the
table of common suffixes. -/
theorem findsLess_withSuffixes (d : Detector) (suffixes : SuffixList) {url host : String}
    (h : Url.host? url = some host) :
    (d.withSuffixes suffixes).FindsLess (d.withSuffixes .heuristic) host :=
  findsLess_of_walk_prefix
    (SuffixList.walk_prefix_heuristic suffixes (Url.isNormal_of_host? h).last)

end

open scoped Pattern.Estimate

/-- Under a public suffix of three labels the tracker for the last two is missed. -/
theorem findsLess_cloud :
    SuffixList.walk (.rules [⟨["example".toList, "cloud".toList, "eu".toList], false⟩])
        "a.eu.cloud.example" = ["a.eu.cloud.example", "eu.cloud.example"] ∧
      SuffixList.heuristic.walk "a.eu.cloud.example" =
        ["a.eu.cloud.example", "eu.cloud.example", "cloud.example"] ∧
      FindsLess
        ((ofDataset (.build [.forDomain "cloud.example" .block] [])).withSuffixes
          (.rules [⟨["example".toList, "cloud".toList, "eu".toList], false⟩]))
        ((ofDataset (.build [.forDomain "cloud.example" .block] [])).withSuffixes .heuristic)
        "a.eu.cloud.example" := by
  refine ⟨by decide +kernel, by decide +kernel, ?_⟩
  have hhost : Url.host? "https://a.eu.cloud.example/" = some "a.eu.cloud.example" := by
    decide +kernel
  exact findsLess_withSuffixes _ _ hhost

end Blocklist.Detector
