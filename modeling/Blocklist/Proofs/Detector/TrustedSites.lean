import Blocklist.Pattern.Estimate
import Blocklist.Proofs.Detector.Decisions
import Blocklist.Proofs.Host.NormalForm
import Blocklist.Proofs.TextMap

/-! # Edits of the trusted sites

Sites are trusted and no longer trusted by names in any spelling. The edits fold over the domains
that the names stand for, and nothing but the trusted sites changes. One more trusted site is felt
only by requests to trackers from pages below it, and it is taken back by any spelling of its
name. -/

namespace Blocklist

/-- An edit of the trusted sites, with the name of a site as it is given. -/
inductive SiteEdit where
  | trust (site : String)
  | untrust (site : String)

namespace SiteEdit

/-- The domain that is edited. There is none if the name is not usable. -/
def domain? : SiteEdit → Option String
  | trust site | untrust site => Host.normalize? site

/-- The edit with the domain in place of the name. -/
def normalize? : SiteEdit → Option SiteEdit
  | trust site => (Host.normalize? site).map trust
  | untrust site => (Host.normalize? site).map untrust

/-- The trusted sites after an edit of a domain. -/
def onSites (sites : TextSet) : SiteEdit → TextSet
  | trust domain => sites.insert domain
  | untrust domain => sites.erase domain

/-- A domain is trusted after some edits: the last edit of it trusts it, or it was trusted and there
is no edit of it. -/
def IsTrustedAfter (sites : TextSet) (edits : List SiteEdit) (k : String) : Prop :=
  (k ∈ sites ∧ ∀ e ∈ edits, e.domain? ≠ some k) ∨
    ∃ before site after, edits = before ++ trust site :: after ∧
      Host.normalize? site = some k ∧ ∀ e ∈ after, e.domain? ≠ some k

end SiteEdit

namespace Detector

section

variable [Pattern.SizeLimit]

def edit (d : Detector) : SiteEdit → Detector
  | .trust site => d.trust site
  | .untrust site => d.untrust site

def edited (d : Detector) (edits : List SiteEdit) : Detector :=
  edits.foldl edit d

/-- Whether the page of a request has a host that belongs to a domain. -/
def PageIsBelow (d : Detector) (r : Request) (k : String) : Prop :=
  ∃ host, Url.host? r.page = some host ∧ k ∈ d.suffixes.walk host

/-- Whether a request hits a tracker, as the one that is found for the host of its resource. -/
def Hits (d : Detector) (r : Request) (t : Tracker) : Prop :=
  ∃ resource, Url.normalize? r.resource = some resource ∧ d.tracker? resource.host = some t

/-- What follows from trusting one more site. -/
structure TrustsOneMore (d : Detector) (site : String) : Prop where
  unusable : Host.normalize? site = none → d.trust site = d
  again : ∀ k, Host.normalize? site = some k → k ∈ d.trustedSites → d.trust site = d
  /-- Requests that hit a tracker from a page below the site are ignored. The tracker and its owner
  are those of before. -/
  below : ∀ k r t, Host.normalize? site = some k → d.PageIsBelow r k → d.Hits r t →
    ∃ c, d.classify r = some c ∧ c.trackerDomain = t.domain ∧ c.entity = d.dataset.ownerOf? t ∧
      (d.trust site).classify r = some { c with action := .ignore, reason := .trustedSite }
  /-- Whatever changes is decided about a request that hits a tracker from a page below the site. -/
  unchanged : ∀ r, (d.trust site).classify r ≠ d.classify r →
    ∃ k t, Host.normalize? site = some k ∧ d.PageIsBelow r k ∧ d.Hits r t
  /-- Every spelling of a site that was not trusted takes the edit back. -/
  undone : ∀ k spelling, Host.normalize? site = some k → k ∉ d.trustedSites →
    Host.IsSpellingOf spelling.toList k.toList → (d.trust site).untrust spelling = d

/-- What follows from edits of the trusted sites. -/
structure FollowsEdits (d : Detector) (edits : List SiteEdit) : Prop where
  /-- The edits with a usable name fold over its domain. -/
  trustedSites : (d.edited edits).trustedSites =
    (edits.filterMap SiteEdit.normalize?).foldl SiteEdit.onSites d.trustedSites
  mem_iff : ∀ k, k ∈ (d.edited edits).trustedSites ↔ SiteEdit.IsTrustedAfter d.trustedSites edits k
  /-- All but the trusted sites stays as it is. -/
  others : d.edited edits = { d with trustedSites := (d.edited edits).trustedSites }
  trustsOneMore : ∀ site, (d.edited edits).TrustsOneMore site

variable {d : Detector}

/-! ## Runs of edits -/

theorem edit_eq (d : Detector) (e : SiteEdit) :
    d.edit e =
      { d with trustedSites :=
          e.normalize?.elim d.trustedSites (SiteEdit.onSites d.trustedSites) } := by
  cases e with
  | trust site => rw [edit, trust, SiteEdit.normalize?]; cases Host.normalize? site <;> rfl
  | untrust site => rw [edit, untrust, SiteEdit.normalize?]; cases Host.normalize? site <;> rfl

theorem edited_eq (d : Detector) (edits : List SiteEdit) :
    d.edited edits =
      { d with trustedSites :=
          (edits.filterMap SiteEdit.normalize?).foldl SiteEdit.onSites d.trustedSites } := by
  induction edits generalizing d with
  | nil => rfl
  | cons e edits ih =>
    rw [edited, List.foldl_cons, ← edited, ih, edit_eq]
    cases h : e.normalize? <;> simp [h]

/-- One edit decides about its own domain and leaves the others alone. -/
theorem mem_trustedSites_edit_iff {e : SiteEdit} {k : String} :
    k ∈ (d.edit e).trustedSites ↔
      (k ∈ d.trustedSites ∧ e.domain? ≠ some k) ∨
        ∃ site, e = .trust site ∧ Host.normalize? site = some k := by
  rw [edit_eq]
  cases e with
  | trust site =>
    cases h : Host.normalize? site with
    | none => simp [SiteEdit.normalize?, SiteEdit.domain?, h]
    | some k' =>
      simp only [SiteEdit.normalize?, SiteEdit.domain?, SiteEdit.onSites, h, Option.map_some,
        Option.elim_some, TextSet.mem_insert, SiteEdit.trust.injEq]
      grind
  | untrust site =>
    cases h : Host.normalize? site with
    | none => simp [SiteEdit.normalize?, SiteEdit.domain?, h]
    | some k' =>
      simp [SiteEdit.normalize?, SiteEdit.domain?, SiteEdit.onSites, h, TextSet.mem_erase]
      grind

theorem mem_trustedSites_edited_iff {edits : List SiteEdit} {k : String} :
    k ∈ (d.edited edits).trustedSites ↔ SiteEdit.IsTrustedAfter d.trustedSites edits k := by
  induction edits generalizing d with
  | nil => simp [edited, SiteEdit.IsTrustedAfter]
  | cons e edits ih =>
    rw [edited, List.foldl_cons, ← edited, ih, SiteEdit.IsTrustedAfter, SiteEdit.IsTrustedAfter,
      mem_trustedSites_edit_iff]
    -- The last edit of a domain is the first one of the run, or it is found in the others.
    have hsplit : (∃ before site after, e :: edits = before ++ .trust site :: after ∧
        Host.normalize? site = some k ∧ ∀ e ∈ after, e.domain? ≠ some k) ↔
        ((∃ site, e = .trust site ∧ Host.normalize? site = some k) ∧
          ∀ e ∈ edits, e.domain? ≠ some k) ∨
        ∃ before site after, edits = before ++ .trust site :: after ∧
          Host.normalize? site = some k ∧ ∀ e ∈ after, e.domain? ≠ some k := by
      constructor
      · rintro ⟨_ | ⟨e', before⟩, site, after, heq, hsite, hafter⟩
        · obtain ⟨rfl, rfl⟩ := List.cons.inj heq
          exact .inl ⟨⟨site, rfl, hsite⟩, hafter⟩
        · exact .inr ⟨before, site, after, (List.cons.inj heq).2, hsite, hafter⟩
      · rintro (⟨⟨site, rfl, hsite⟩, hafter⟩ | ⟨before, site, after, rfl, hsite, hafter⟩)
        · exact ⟨[], site, edits, rfl, hsite, hafter⟩
        · exact ⟨e :: before, site, after, rfl, hsite, hafter⟩
    rw [hsplit, List.forall_mem_cons, or_and_right, or_assoc, and_assoc]

/-! ## One more trusted site -/

theorem exists_classify_of_hits {r : Request} {t : Tracker} (h : d.Hits r t) :
    ∃ c, d.classify r = some c ∧ c.trackerDomain = t.domain ∧ c.entity = d.dataset.ownerOf? t := by
  obtain ⟨resource, hresource, ht⟩ := h
  rw [classify, hresource, Option.bind_some, ht]
  exact ⟨_, rfl, rfl, rfl⟩

section

variable {site k : String} (hsite : Host.normalize? site = some k)

include hsite

theorem trust_eq : d.trust site = { d with trustedSites := d.trustedSites.insert k } := by
  rw [trust, hsite]

theorem isOn_trust_iff {pageHost : Option String} :
    (d.trust site).IsOn (d.trust site).trustedSites pageHost ↔
      (∃ host, pageHost = some host ∧ k ∈ d.suffixes.walk host) ∨
        d.IsOn d.trustedSites pageHost := by
  simp only [trust_eq hsite, IsOn, TextSet.mem_insert]
  grind

/-- The verdict about a request from a page below the site. -/
theorem verdict_trust_of_mem {host : String} (hk : k ∈ d.suffixes.walk host) (t : Tracker)
    (url : String) (type : Option TypeMask) :
    (d.trust site).verdict t url (some host) type = (.ignore, .trustedSite) := by
  rw [verdict, if_pos (pageIsIn_iff.mpr ((isOn_trust_iff hsite).mpr (.inl ⟨host, rfl, hk⟩)))]

/-- The verdict about any other request stays the same, as the owners and rules do. -/
theorem verdict_trust_of_not_mem {pageHost : Option String}
    (hk : ∀ host, pageHost = some host → k ∉ d.suffixes.walk host) (t : Tracker) (url : String)
    (type : Option TypeMask) :
    (d.trust site).verdict t url pageHost type = d.verdict t url pageHost type := by
  have htrusted : (d.trust site).pageIsIn (d.trust site).trustedSites pageHost =
      d.pageIsIn d.trustedSites pageHost := by
    rw [Bool.eq_iff_iff, pageIsIn_iff, pageIsIn_iff, isOn_trust_iff hsite]
    simpa using fun host hhost hmem => absurd hmem (hk host hhost)
  rw [verdict, verdict, htrusted, firstRule?_congr (e := d) (by rw [trust_eq hsite]),
    trust_eq hsite]
  rfl

theorem classify_trust_of_below {r : Request} {t : Tracker} (hr : d.PageIsBelow r k)
    (ht : d.Hits r t) :
    (d.trust site).classify r =
      some ⟨.ignore, t.domain, d.dataset.ownerOf? t, .trustedSite⟩ := by
  obtain ⟨host, hhost, hk⟩ := hr
  obtain ⟨resource, hresource, ht⟩ := ht
  have ht' : (d.trust site).tracker? resource.host = some t := by
    rw [trust_eq hsite]
    exact ht
  rw [classify, hresource, Option.bind_some, ht', Option.map_some, hhost,
    verdict_trust_of_mem hsite hk, trust_eq hsite]

theorem classify_trust_of_not_below {r : Request} (hr : ¬ d.PageIsBelow r k) :
    (d.trust site).classify r = d.classify r := by
  have hverdict : ∀ t url, (d.trust site).verdict t url (Url.host? r.page) r.type =
      d.verdict t url (Url.host? r.page) r.type := fun t url =>
    verdict_trust_of_not_mem hsite (fun host hhost hk => hr ⟨host, hhost, hk⟩) t url r.type
  simp only [classify, hverdict]
  rw [trust_eq hsite]
  rfl

theorem classify_trust_of_not_hits {r : Request} (hr : ∀ t, ¬d.Hits r t) :
    (d.trust site).classify r = d.classify r := by
  rw [classify, classify]
  cases hresource : Url.normalize? r.resource with
  | none => rw [Option.bind_none, Option.bind_none]
  | some resource =>
    have hnone : d.tracker? resource.host = none :=
      Option.eq_none_iff_forall_ne_some.mpr fun t ht => hr t ⟨resource, hresource, ht⟩
    have hnone' : (d.trust site).tracker? resource.host = none := by
      rw [trust_eq hsite]
      exact hnone
    rw [Option.bind_some, Option.bind_some, hnone, hnone', Option.map_none, Option.map_none]

theorem trust_eq_self (hk : k ∈ d.trustedSites) : d.trust site = d := by
  have hsites : d.trustedSites.insert k = d.trustedSites := TextSet.ext_mem fun u => by
    rw [TextSet.mem_insert, or_iff_right_of_imp fun heq => heq ▸ hk]
  rw [trust_eq hsite, hsites]

/-- Taking back the edit leaves the members as they were if the domain was not among them. -/
theorem untrust_trust {spelling : String} (hspelling : Host.normalize? spelling = some k)
    (hk : k ∉ d.trustedSites) : (d.trust site).untrust spelling = d := by
  have hsites : (d.trustedSites.insert k).erase k = d.trustedSites := by
    refine TextSet.ext_mem fun u => ?_
    rw [TextSet.mem_erase, TextSet.mem_insert]
    constructor
    · rintro ⟨rfl | hu, hne⟩
      · exact absurd rfl hne
      · exact hu
    · exact fun hu => ⟨.inr hu, fun heq => hk (heq ▸ hu)⟩
  rw [untrust, hspelling, trust_eq hsite]
  simp only [hsites]

end

theorem trustsOneMore (d : Detector) (site : String) : d.TrustsOneMore site where
  unusable := fun hsite => by rw [trust, hsite]
  again := fun _ hsite => trust_eq_self hsite
  below := by
    intro k r t hsite hbelow ht
    obtain ⟨c, hc, hdomain, hentity⟩ := exists_classify_of_hits ht
    refine ⟨c, hc, hdomain, hentity, ?_⟩
    rw [classify_trust_of_below hsite hbelow ht, ← hdomain, ← hentity]
  unchanged := by
    intro r hne
    cases hsite : Host.normalize? site with
    | none => exact absurd (by rw [trust, hsite]) hne
    | some k =>
      refine ⟨k, ?_⟩
      by_cases ht : ∃ t, d.Hits r t
      · obtain ⟨t, ht⟩ := ht
        refine ⟨t, rfl, ?_, ht⟩
        by_contra hbelow
        exact hne (classify_trust_of_not_below hsite hbelow)
      · exact absurd (classify_trust_of_not_hits hsite (not_exists.mp ht)) hne
  undone := by
    intro k spelling hsite hk hspelling
    have hnormal := Host.isNormal_of_normalize? hsite
    exact untrust_trust hsite (hnormal.normalize?_eq_some_iff.mpr hspelling) hk

/-- Edits of the trusted sites do what they say and nothing else. -/
theorem followsEdits (d : Detector) (edits : List SiteEdit) : d.FollowsEdits edits where
  trustedSites := by rw [edited_eq]
  mem_iff := fun _ => mem_trustedSites_edited_iff
  others := by rw [edited_eq]
  trustsOneMore := trustsOneMore _

end

open scoped Pattern.Estimate

example : ((ofDataset (.build [] [])).edited [.trust " .Site.EXAMPLE. ", .trust "no host",
    .trust "b.example", .untrust "B.Example"]).trustedSites.toList = ["site.example"] := by
  decide +kernel

end Detector

end Blocklist
