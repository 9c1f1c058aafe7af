import Blocklist.Detector
import Blocklist.Pattern.Estimate
import Blocklist.Proofs.Dataset.Construction
import Blocklist.Proofs.SuffixList.Labels
import Blocklist.Proofs.Url.Authority

/-! # The longest domain of a host

With the table of common suffixes a detector finds for a host the tracker with the longest domain,
and the owner of the longest domain that an entity lists, among the host itself and what its last
labels make up, two or more of them. Main statement: `findsLongest`. -/

namespace Blocklist.Detector

open Host

section

variable [Pattern.SizeLimit]

/-- How a detector looks for the domains of a host. -/
structure FindsLongest (det : Detector) (host : String) : Prop where
  mem_walk : ∀ d, d ∈ det.suffixes.walk host ↔ IsEndOf d host
  /-- Each domain is looked up once, those with more labels first. -/
  descending : (det.suffixes.walk host).Pairwise fun d e =>
    (labels e).length < (labels d).length
  /-- What the table holds does not matter. -/
  anyTable : ∀ table, SuffixList.walkIn table host = det.suffixes.walk host
  tracker_eq_some : ∀ t, det.tracker? host = some t ↔
    det.dataset.tracker? t.domain = some t ∧ IsEndOf t.domain host ∧
      ∀ k u, det.dataset.tracker? k = some u → IsEndOf k host → k ≠ t.domain →
        k.length < t.domain.length
  tracker_eq_none : det.tracker? host = none ↔
    ∀ k t, det.dataset.tracker? k = some t → ¬IsEndOf k host
  entity_eq_some : ∀ e, det.entity? host = some e ↔
    ∃ k, det.dataset.entityForDomain? k = some e ∧ IsEndOf k host ∧
      ∀ n f, det.dataset.entity? n = some f → ∀ k' ∈ f.domains, IsEndOf k' host → k' ≠ k →
        k'.length < k.length
  entity_eq_none : det.entity? host = none ↔
    ∀ n e, det.dataset.entity? n = some e → ∀ k ∈ e.domains, ¬IsEndOf k host

/-! ## Trackers and entities -/

section

variable {det : Detector} {host : String} (hlist : det.suffixes = .heuristic)
  (hhost : IsNormal host.toList)

include hlist hhost

theorem tracker?_eq_some_iff_longest
    (hkeys : ∀ k t, det.dataset.tracker? k = some t → t.domain = k) {t : Tracker} :
    det.tracker? host = some t ↔
      det.dataset.tracker? t.domain = some t ∧ IsEndOf t.domain host ∧
        ∀ k u, det.dataset.tracker? k = some u → IsEndOf k host → k ≠ t.domain →
          k.length < t.domain.length := by
  rw [tracker?, hlist, SuffixList.findSome?_walk_heuristic_iff hhost]
  constructor
  · rintro ⟨k, ht, hend, hlongest⟩
    obtain rfl := hkeys k t ht
    refine ⟨ht, hend, fun k u hu => hlongest k ?_⟩
    rw [hu]
    rfl
  · rintro ⟨ht, hend, hlongest⟩
    refine ⟨t.domain, ht, hend, fun k hsome => ?_⟩
    obtain ⟨u, hu⟩ := Option.isSome_iff_exists.mp hsome
    exact hlongest k u hu

theorem tracker?_eq_none_iff :
    det.tracker? host = none ↔ ∀ k t, det.dataset.tracker? k = some t → ¬IsEndOf k host := by
  rw [tracker?, hlist, SuffixList.findSome?_walk_heuristic_eq_none_iff hhost]
  constructor
  · intro h k t ht hend
    rw [h k hend] at ht
    cases ht
  · intro h k hend
    exact Option.eq_none_iff_forall_ne_some.mpr fun t ht => h k t ht hend

variable (hnames : ByName det.dataset.entities)

include hnames

theorem entity?_eq_some_iff_longest {e : Entity} :
    det.entity? host = some e ↔
      ∃ k, det.dataset.entityForDomain? k = some e ∧ IsEndOf k host ∧
        ∀ n f, det.dataset.entity? n = some f → ∀ k' ∈ f.domains, IsEndOf k' host → k' ≠ k →
          k'.length < k.length := by
  have hlisted : ∀ k, (det.dataset.entityForDomain? k).isSome ↔
      ∃ n f, det.dataset.entity? n = some f ∧ k ∈ f.domains := fun k => by
    rw [Option.isSome_iff_ne_none, ne_eq, Dataset.entityForDomain?_eq_none_iff hnames]
    simp
  rw [entity?, hlist, SuffixList.findSome?_walk_heuristic_iff hhost]
  simp only [hlisted]
  constructor
  · rintro ⟨k, he, hend, hlongest⟩
    exact ⟨k, he, hend, fun n f hf k' hk' => hlongest k' ⟨n, f, hf, hk'⟩⟩
  · rintro ⟨k, he, hend, hlongest⟩
    refine ⟨k, he, hend, ?_⟩
    rintro k' ⟨n, f, hf, hk'⟩
    exact hlongest n f hf k' hk'

theorem entity?_eq_none_iff_longest :
    det.entity? host = none ↔
      ∀ n e, det.dataset.entity? n = some e → ∀ k ∈ e.domains, ¬IsEndOf k host := by
  rw [entity?, hlist, SuffixList.findSome?_walk_heuristic_eq_none_iff hhost]
  simp only [Dataset.entityForDomain?_eq_none_iff hnames]
  constructor
  · intro h n e he k hk hend
    exact h k hend n e he hk
  · intro h k hend n e he hk
    exact h n e he k hk hend

end

/-! ## Built datasets -/

/-- With the table of common suffixes a detector for a built dataset finds the longest domains of
the host of a URL. -/
theorem findsLongest {det : Detector} {ts : List Tracker} {es : List Entity}
    (hdata : det.dataset = .build ts es) (hlist : det.suffixes = .heuristic) {url host : String}
    (hurl : Url.host? url = some host) : det.FindsLongest host := by
  have hhost := Url.isNormal_of_host? hurl
  have hkeys : ∀ k t, det.dataset.tracker? k = some t → t.domain = k := fun k t ht =>
    (Dataset.isNormal_of_tracker?_build (hdata ▸ ht)).2
  have hnames : ByName det.dataset.entities := hdata ▸ Dataset.byName_build ts es
  constructor
  case mem_walk =>
    intro d
    rw [hlist, SuffixList.mem_walk_heuristic_iff hhost]
  case descending => exact SuffixList.pairwise_labels_walk det.suffixes host
  case anyTable =>
    intro table
    rw [hlist, SuffixList.walkIn_eq_walk_heuristic table hhost.last]
  case tracker_eq_some => exact fun t => tracker?_eq_some_iff_longest hlist hhost hkeys
  case tracker_eq_none => exact tracker?_eq_none_iff hlist hhost
  case entity_eq_some => exact fun e => entity?_eq_some_iff_longest hlist hhost hnames
  case entity_eq_none => exact entity?_eq_none_iff_longest hlist hhost hnames

private def nestedDetector : Detector :=
  (ofDataset
    (.build
      [.forDomain "uk" .block, .forDomain "co.uk" .block,
        { Tracker.forDomain "t.co.uk" .block with owner := some "T Co" }]
      [.named "T Co" ["uk", "t.co.uk", "a.cdn.t.co.uk"]])).trust "co.uk"

end

open scoped Pattern.Estimate

/-- The domain of a tracker below a common suffix is found, a single label is not. -/
theorem findsLongest_nested :
    Url.host? "https://CDN.t.co.uk./x" = some "cdn.t.co.uk" ∧
      nestedDetector.FindsLongest "cdn.t.co.uk" ∧
      nestedDetector.suffixes.walk "cdn.t.co.uk" = ["cdn.t.co.uk", "t.co.uk", "co.uk"] ∧
      (nestedDetector.tracker? "cdn.t.co.uk").map Tracker.domain = some "t.co.uk" ∧
      (nestedDetector.entity? "cdn.t.co.uk").map Entity.name = some "T Co" ∧
      nestedDetector.tracker? "t.uk" = none := by
  have hurl : Url.host? "https://CDN.t.co.uk./x" = some "cdn.t.co.uk" := by decide +kernel
  refine ⟨hurl, findsLongest rfl rfl hurl, ?_⟩
  decide +kernel

end Blocklist.Detector
