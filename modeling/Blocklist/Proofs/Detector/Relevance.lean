import Blocklist.Pattern.Estimate
import Blocklist.Proofs.Detector.Pruning

/-! # The records that matter for a host

The decision about a request rests on the records of the trackers whose domains cover the host of
the resource, and on the entities. The records of other trackers, valid or not, do not matter as
long as the same entities are kept. Main statement: `classify_build_eq_of_filter_eq`. -/

namespace Blocklist

/-- Whether a record is one for a host: its domain, in any spelling, covers the host. -/
def Tracker.concerns (host : String) (t : Tracker) : Bool :=
  (Host.normalize? t.domain).any (Host.covers · host)

/-- A record gives a tracker for a host only if it is one for the host. -/
theorem Tracker.concerns_of_normalize [Pattern.SizeLimit] {t u : Tracker} {host : String}
    (h : t.normalize = .ok u) (hcovers : Host.covers u.domain host) : t.concerns host := by
  obtain ⟨domain, rules, hdomain, -, rfl⟩ := normalize_eq_ok_iff.mp h
  rw [concerns, hdomain]
  exact hcovers

/-! ## Look-ups -/

/-- Searches for what is the same for all items of a list find the same. -/
theorem findSome?_congr {α : Type u} {β : Type v} {f g : α → Option β} {xs : List α}
    (h : ∀ x ∈ xs, f x = g x) : xs.findSome? f = xs.findSome? g := by
  induction xs with
  | nil => rfl
  | cons x xs ih =>
    rw [List.forall_mem_cons] at h
    rw [List.findSome?_cons, List.findSome?_cons, h.1, ih h.2]

namespace Dataset

variable {d d' : Dataset}

theorem entity?_congr (h : d.entities = d'.entities) : d.entity? = d'.entity? := by
  funext n
  rw [entity?, entity?, h]

theorem ownerOf?_congr (h : d.entities = d'.entities) : d.ownerOf? = d'.ownerOf? := by
  funext t
  rw [ownerOf?, ownerOf?, entity?_congr h]

theorem entityForDomain?_congr (h : d.entities = d'.entities) :
    d.entityForDomain? = d'.entityForDomain? := by
  funext k
  rw [entityForDomain?, entityForDomain?, d.owners_eq, d'.owners_eq, entity?_congr h, h]

variable [Pattern.SizeLimit] {ts us : List Tracker} {es : List Entity}

/-- The records of other trackers are passed over when the tracker of a domain is looked for. -/
theorem tracker?_build_filter {k host : String} (hk : Host.covers k host) :
    (build (ts.filter (Tracker.concerns host)) es).tracker? k = (build ts es).tracker? k := by
  rw [tracker?_build, tracker?_build, List.findSomeRev?_eq_findSome?_reverse,
    List.findSomeRev?_eq_findSome?_reverse, ← List.filter_reverse]
  induction ts.reverse with
  | nil => rfl
  | cons t ts ih =>
    by_cases ht : t.concerns host
    · rw [List.filter_cons_of_pos ht, List.findSome?_cons, List.findSome?_cons, ih]
    · have hnone : t.normalize.toOption.filter (·.domain = k) = none := by
        cases hn : t.normalize with
        | error e => rfl
        | ok u =>
          have hne : u.domain ≠ k := fun heq => ht (Tracker.concerns_of_normalize hn (heq ▸ hk))
          simp [Except.toOption, hne]
      rw [List.filter_cons_of_neg ht, List.findSome?_cons, hnone, ih]

theorem tracker?_build_congr {k host : String} (hk : Host.covers k host)
    (h : ts.filter (Tracker.concerns host) = us.filter (Tracker.concerns host)) :
    (build ts es).tracker? k = (build us es).tracker? k := by
  rw [← tracker?_build_filter hk, h, tracker?_build_filter hk]

/-- The records of an entity are the same in both datasets, so the names tell which are kept. -/
theorem entities_build_congr
    (h : (build ts es).entities.keys = (build us es).entities.keys) :
    (build ts es).entities = (build us es).entities := by
  have hkept : ∀ {ts us : List Tracker} {n : String} {e : Entity},
      (build ts es).entities.keys = (build us es).entities.keys →
        (build ts es).entity? n = some e → (build us es).entity? n = some e := by
    intro ts us n e h he
    have hmem : n ∈ (build us es).entities.keys := h ▸ TextMap.mem_keys_iff.mpr ⟨e, he⟩
    obtain ⟨f, hf⟩ := TextMap.mem_keys_iff.mp hmem
    have hf' : (buildAll us es).entity? n = some f := entity?_buildAll hf
    have heq : some e = some f := (entity?_buildAll he).symm.trans hf'
    rw [heq]
    exact hf
  apply TextMap.ext_get?
  intro n
  apply Option.ext
  intro e
  exact ⟨hkept h, hkept h.symm⟩

end Dataset

/-! ## Decisions -/

namespace Detector

section

variable [Pattern.SizeLimit] {d : Detector} {data data' : Dataset}

theorem isOwnPage_withDataset_congr (h : data.entities = data'.entities) :
    (d.withDataset data).isOwnPage = (d.withDataset data').isOwnPage := by
  funext owner page
  have hentity : (d.withDataset data).entity? page = (d.withDataset data').entity? page :=
    congrArg (d.suffixes.walk page).findSome? (Dataset.entityForDomain?_congr h)
  unfold isOwnPage
  rw [hentity]

/-- A tracker that both datasets have gets the same verdict over both of them. -/
theorem verdict_withDataset_congr (h : data.entities = data'.entities) {t : Tracker}
    (ht : data.tracker? t.domain = some t) (ht' : data'.tracker? t.domain = some t) (url : String)
    (pageHost : Option String) (type : Option TypeMask) :
    (d.withDataset data).verdict t url pageHost type =
      (d.withDataset data').verdict t url pageHost type := by
  have hfilters : (d.withDataset data).filtersOf t = (d.withDataset data').filtersOf t :=
    (filtersOf_eq ht).trans (filtersOf_eq ht').symm
  rw [verdict_withDataset, verdict_withDataset, isOwnPage_withDataset_congr h,
    Dataset.ownerOf?_congr h, hfilters]

theorem classify_withDataset_congr (hentities : data.entities = data'.entities)
    (hdomains : ∀ k t, data.tracker? k = some t → t.domain = k) {q : Request}
    (htrackers : ∀ resource, Url.normalize? q.resource = some resource →
      ∀ k, Host.covers k resource.host → data.tracker? k = data'.tracker? k) :
    (d.withDataset data).classify q = (d.withDataset data').classify q := by
  rw [classify, classify]
  cases hresource : Url.normalize? q.resource with
  | none => rfl
  | some resource =>
    have hsame := htrackers resource hresource
    have hwalk : (d.withDataset data).tracker? resource.host =
        (d.withDataset data').tracker? resource.host := by
      apply findSome?_congr
      intro k hk
      exact hsame k (SuffixList.covers_of_mem_walk hk)
    rw [Option.bind_some, Option.bind_some, ← hwalk]
    cases htracker : (d.withDataset data).tracker? resource.host with
    | none => rfl
    | some t =>
      obtain ⟨k, hk, ht⟩ := List.exists_of_findSome?_eq_some htracker
      obtain rfl := hdomains k t ht
      have ht' : data'.tracker? t.domain = some t :=
        (hsame t.domain (SuffixList.covers_of_mem_walk hk)).symm.trans ht
      have howner : (d.withDataset data).dataset.ownerOf? t =
          (d.withDataset data').dataset.ownerOf? t :=
        congrFun (Dataset.ownerOf?_congr hentities) t
      rw [Option.map_some, Option.map_some, verdict_withDataset_congr hentities ht ht', howner]

/-- Two sequences of trackers with the same records for the host of the resource, in the same order,
decide a request alike, if they keep the same entities. -/
theorem classify_build_eq_of_filter_eq (d : Detector) {ts us : List Tracker} {es : List Entity}
    {q : Request}
    (hrecords : ∀ resource, Url.normalize? q.resource = some resource →
      ts.filter (Tracker.concerns resource.host) = us.filter (Tracker.concerns resource.host))
    (hentities : (Dataset.build ts es).entities.keys = (Dataset.build us es).entities.keys) :
    (d.withDataset (.build ts es)).classify q = (d.withDataset (.build us es)).classify q := by
  apply classify_withDataset_congr (Dataset.entities_build_congr hentities)
  · intro k t ht
    exact (Dataset.isNormal_of_tracker?_build ht).2
  · intro resource hresource k hk
    exact Dataset.tracker?_build_congr hk (hrecords resource hresource)

private def statsRecords : List Tracker :=
  [{ Tracker.forDomain "stats.example" .block with owner := some "Stats Co" },
    { Tracker.forDomain " Stats.Example." .ignore with
      owner := some "Stats Co"
      rules := [TrackerRule.forPattern "beacon" .block] }]

/-- A record of another tracker with the same owner, and one without a valid domain, stand between
the two records for the host. -/
private def mixedRecords : List Tracker :=
  statsRecords.take 1 ++
    [{ Tracker.forDomain "other.example" .block with owner := some "Stats Co" },
      Tracker.forDomain "no host" .block] ++
    statsRecords.drop 1

private def statsEntities : List Entity :=
  [.named "Stats Co" ["stats-site.example"], .named "Unused Co" ["unused.example"]]

private def statsRequest : Request :=
  ⟨"https://cdn.stats.example/beacon", "https://news.example/", none⟩

end

open scoped Pattern.Estimate

/-- The other records change nothing about a request to the tracker. -/
theorem classify_build_mixedRecords :
    ((ofDataset (.build [] [])).withDataset (.build mixedRecords statsEntities)).classify
        statsRequest =
      some ⟨.block, "stats.example", some (.named "Stats Co" ["stats-site.example"]), .rule 0⟩ := by
  have hresource : Url.normalize? statsRequest.resource =
      some ⟨"https://cdn.stats.example/beacon", "cdn.stats.example"⟩ := by decide +kernel
  have hrecords : ∀ resource, Url.normalize? statsRequest.resource = some resource →
      statsRecords.filter (Tracker.concerns resource.host) =
        mixedRecords.filter (Tracker.concerns resource.host) := by
    intro resource h
    obtain rfl := Option.some.inj (hresource.symm.trans h)
    decide +kernel
  have hentities : (Dataset.build statsRecords statsEntities).entities.keys =
      (Dataset.build mixedRecords statsEntities).entities.keys := by decide +kernel
  rw [← classify_build_eq_of_filter_eq _ hrecords hentities]
  decide +kernel

end Detector

end Blocklist
