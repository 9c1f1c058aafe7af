import Blocklist.Proofs.Except
import Blocklist.Proofs.Host.NormalForm
import Blocklist.Proofs.TextMap
import Blocklist.Tracker.Normalize

/-! # Trackers in normal form

What the normal form of a tracker consists of, and when it is its own normal form. All of it is
stable but the patterns of rules: of each only one host and one slash in front are removed. -/

namespace Blocklist.Tracker

open Text

/-! ## Domains -/

theorem normalizeDomain_eq_ok_iff {s d : String} :
    normalizeDomain s = .ok d ↔ Host.normalize? s = some d := by
  unfold normalizeDomain
  cases Host.normalize? s <;> simp

theorem normal_of_normalizeDomains {s u : TextSet} (h : normalizeDomains s = .ok u) :
    ∀ d ∈ u, Host.normalize? d = some d := by
  unfold normalizeDomains at h
  obtain ⟨ds, hds, rfl⟩ := map_eq_ok_iff.mp h
  intro d hd
  obtain ⟨s', -, hs'⟩ := exists_of_mem_mapM hds (TextSet.mem_ofList.mp hd)
  exact Host.normalize?_of_normalize? (normalizeDomain_eq_ok_iff.mp hs')

theorem normalizeDomains_of_normal {u : TextSet} (h : ∀ d ∈ u, Host.normalize? d = some d) :
    normalizeDomains u = .ok u := by
  have hm : u.toList.mapM normalizeDomain = .ok u.toList :=
    mapM_eq_ok_self_iff.mpr fun d hd => normalizeDomain_eq_ok_iff.mpr (h d hd)
  rw [normalizeDomains, hm]
  exact congrArg Except.ok (TextSet.ofList_toList u)

/-! ## Patterns -/

/-- A pattern with nothing in front that normalization removes: no slash, escaped or not, and not
the host. -/
structure IsBare (pattern domain : List Char) : Prop where
  slash : ¬ ['/'] <+: pattern
  escapedSlash : ¬ ['\\', '/'] <+: pattern
  host : ¬ equalIgnoringCase (pattern.take (Filter.escapeDomainChars domain).length)
    (Filter.escapeDomainChars domain)

theorem length_dropLeadingSlash_le (cs : List Char) :
    (dropLeadingSlash cs).length ≤ cs.length := by
  unfold dropLeadingSlash
  split <;> grind

theorem dropLeadingSlash_eq_self_iff {cs : List Char} :
    dropLeadingSlash cs = cs ↔ ¬ ['/'] <+: cs ∧ ¬ ['\\', '/'] <+: cs := by
  unfold dropLeadingSlash
  split
  · rename_i cs
    have hne : cs ≠ '\\' :: '/' :: cs := fun h => by
      have hlen := congrArg List.length h
      simp only [List.length_cons] at hlen
      omega
    simp [hne]
  · simp
  · rename_i hslash hescaped
    simp only [true_iff]
    constructor
    · rintro ⟨rest, rfl⟩
      exact hescaped rest rfl
    · rintro ⟨rest, rfl⟩
      exact hslash rest rfl

theorem escapeDomainChars_ne_nil {domain : List Char} (h : domain ≠ []) :
    Filter.escapeDomainChars domain ≠ [] := by
  cases domain with
  | nil => exact absurd rfl h
  | cons c cs => by_cases hc : c = '.' <;> simp [Filter.escapeDomainChars, hc]

/-- A pattern is left as it is exactly if there is nothing in front of it. -/
theorem dropHostChars_eq_self_iff {pattern domain : List Char} (hdomain : domain ≠ []) :
    dropHostChars pattern domain = pattern ↔ IsBare pattern domain := by
  have hhost := List.length_pos_of_ne_nil (escapeDomainChars_ne_nil hdomain)
  by_cases heq : equalIgnoringCase (pattern.take (Filter.escapeDomainChars domain).length)
      (Filter.escapeDomainChars domain)
  · have hlen := congrArg List.length (equalIgnoringCase_iff.mp heq)
    simp only [List.length_map, List.length_take] at hlen
    have hle := length_dropLeadingSlash_le
      (pattern.drop (Filter.escapeDomainChars domain).length)
    rw [List.length_drop] at hle
    refine iff_of_false (fun h => ?_) fun h => h.host heq
    rw [dropHostChars, if_pos heq] at h
    have := congrArg List.length h
    omega
  · rw [dropHostChars, if_neg heq, dropLeadingSlash_eq_self_iff]
    exact ⟨fun h => ⟨h.1, h.2, heq⟩, fun h => ⟨h.slash, h.escapedSlash⟩⟩

theorem dropHost_eq_self_iff {pattern domain : String} (hdomain : domain ≠ "") :
    dropHost pattern domain = pattern ↔ IsBare pattern.toList domain.toList := by
  have hchars : domain.toList ≠ [] := by simpa using hdomain
  rw [← dropHostChars_eq_self_iff hchars, ← String.toList_inj, dropHost, String.toList_ofList]

/-! ## Owners -/

/-- The owner of a tracker in normal form. -/
def normalOwner (owner : Option String) : Option String :=
  (owner.map trim).filter (!·.isEmpty)

theorem trim_of_normalOwner {owner : Option String} {name : String}
    (h : normalOwner owner = some name) : trim name = name ∧ name ≠ "" := by
  obtain ⟨hmap, hne⟩ := Option.filter_eq_some_iff.mp h
  obtain ⟨name', -, rfl⟩ := Option.map_eq_some_iff.mp hmap
  exact ⟨trim_trim name', by simpa using hne⟩

theorem normalOwner_eq_self {owner : Option String}
    (h : ∀ name, owner = some name → trim name = name ∧ name ≠ "") : normalOwner owner = owner := by
  cases owner with
  | none => rfl
  | some name =>
    obtain ⟨htrim, hne⟩ := h name rfl
    simp [normalOwner, htrim, hne]

/-! ## Rules -/

theorem checkPattern_eq_ok_iff {pattern : String} {u : Unit} :
    checkPattern pattern = .ok u ↔ Filter.isSupported pattern := by
  unfold checkPattern
  split <;> simp_all

variable [Pattern.SizeLimit]

/-- A rule as it stands in a tracker in normal form, apart from the pattern: that may still have
a slash or the host in front. -/
structure IsNormalRule (domain : String) (r : TrackerRule) : Prop where
  domains : ∀ d ∈ r.domains, Host.normalize? d = some d
  exceptionDomains : ∀ d ∈ r.exceptions.domains, Host.normalize? d = some d
  supported : Filter.isSupported r.pattern
  compiles : ∃ p, Filter.compile (urlFilter domain r) = .ok p

theorem normalizeRule_eq_ok_iff {domain : String} {r s : TrackerRule} :
    normalizeRule domain r = .ok s ↔
      ∃ ds xs, normalizeDomains r.domains = .ok ds ∧
        normalizeDomains r.exceptions.domains = .ok xs ∧
        s = { r with
          pattern := dropHost r.pattern domain, domains := ds,
          exceptions := { r.exceptions with domains := xs } } ∧
        Filter.isSupported s.pattern ∧ ∃ p, Filter.compile (urlFilter domain s) = .ok p := by
  unfold normalizeRule
  constructor
  · intro h
    obtain ⟨ds, hds, h⟩ := bind_eq_ok_iff.mp h
    obtain ⟨xs, hxs, h⟩ := bind_eq_ok_iff.mp h
    obtain ⟨_, hsupported, h⟩ := bind_eq_ok_iff.mp h
    simp only at h
    split at h
    · rename_i p hcompile
      obtain rfl := Except.ok.inj h
      exact ⟨ds, xs, hds, hxs, rfl, checkPattern_eq_ok_iff.mp hsupported, p, hcompile⟩
    · cases h
  · rintro ⟨ds, xs, hds, hxs, rfl, hsupported, p, hcompile⟩
    refine bind_eq_ok_iff.mpr ⟨ds, hds, bind_eq_ok_iff.mpr ⟨xs, hxs, ?_⟩⟩
    refine bind_eq_ok_iff.mpr ⟨(), checkPattern_eq_ok_iff.mpr hsupported, ?_⟩
    simp only [hcompile]
    rfl

theorem isNormalRule_of_normalizeRule {domain : String} {r s : TrackerRule}
    (h : normalizeRule domain r = .ok s) : IsNormalRule domain s := by
  obtain ⟨ds, xs, hds, hxs, rfl, hsupported, hcompiles⟩ := normalizeRule_eq_ok_iff.mp h
  exact ⟨normal_of_normalizeDomains hds, normal_of_normalizeDomains hxs, hsupported, hcompiles⟩

/-- A rule of a tracker in normal form stays as it is if nothing stands in front of its pattern. -/
theorem IsNormalRule.normalizeRule_eq_self_iff {domain : String} {r : TrackerRule}
    (h : IsNormalRule domain r) (hdomain : domain ≠ "") :
    normalizeRule domain r = .ok r ↔ IsBare r.pattern.toList domain.toList := by
  rw [← dropHost_eq_self_iff hdomain]
  constructor
  · intro hr
    obtain ⟨ds, xs, -, -, heq, -⟩ := normalizeRule_eq_ok_iff.mp hr
    exact (congrArg TrackerRule.pattern heq).symm
  · intro hpattern
    refine normalizeRule_eq_ok_iff.mpr ⟨r.domains, r.exceptions.domains,
      normalizeDomains_of_normal h.domains, normalizeDomains_of_normal h.exceptionDomains, ?_,
      h.supported, h.compiles⟩
    rw [hpattern]

/-! ## Trackers -/

theorem normalize_eq_ok_iff {t u : Tracker} :
    t.normalize = .ok u ↔
      ∃ domain rules, Host.normalize? t.domain = some domain ∧
        t.rules.mapM (normalizeRule domain) = .ok rules ∧
        u = { t with domain, owner := normalOwner t.owner, rules } := by
  unfold normalize
  constructor
  · intro h
    obtain ⟨domain, hdomain, h⟩ := bind_eq_ok_iff.mp h
    obtain ⟨rules, hrules, h⟩ := bind_eq_ok_iff.mp h
    exact ⟨domain, rules, normalizeDomain_eq_ok_iff.mp hdomain, hrules, (Except.ok.inj h).symm⟩
  · rintro ⟨domain, rules, hdomain, hrules, rfl⟩
    refine bind_eq_ok_iff.mpr ⟨domain, normalizeDomain_eq_ok_iff.mpr hdomain, ?_⟩
    exact bind_eq_ok_iff.mpr ⟨rules, hrules, rfl⟩

/-- A tracker as normalization leaves it. -/
structure IsNormal (t : Tracker) : Prop where
  domain : Host.normalize? t.domain = some t.domain
  owner : ∀ name, t.owner = some name → trim name = name ∧ name ≠ ""
  rules : ∀ r ∈ t.rules, IsNormalRule t.domain r

theorem isNormal_of_normalize {t u : Tracker} (h : t.normalize = .ok u) : IsNormal u := by
  obtain ⟨domain, rules, hdomain, hrules, rfl⟩ := normalize_eq_ok_iff.mp h
  refine ⟨Host.normalize?_of_normalize? hdomain, fun name => trim_of_normalOwner, fun r hr => ?_⟩
  obtain ⟨s, -, hs⟩ := exists_of_mem_mapM hrules hr
  exact isNormalRule_of_normalizeRule hs

theorem domain_of_normalize {t u : Tracker} (ht : IsNormal t) (h : t.normalize = .ok u) :
    u.domain = t.domain := by
  obtain ⟨domain, rules, hdomain, -, rfl⟩ := normalize_eq_ok_iff.mp h
  rw [ht.domain] at hdomain
  exact (Option.some.inj hdomain).symm

/-- A tracker in normal form is its own normal form exactly if no pattern of its rules still has a
slash or the host in front. -/
theorem IsNormal.normalize_eq_self_iff {t : Tracker} (h : IsNormal t) :
    t.normalize = .ok t ↔ ∀ r ∈ t.rules, IsBare r.pattern.toList t.domain.toList := by
  have hdomain : t.domain ≠ "" := by
    simpa using Host.ne_nil_of_isValid (Host.isNormal_of_normalize? h.domain).valid
  have hrules : t.rules.mapM (normalizeRule t.domain) = .ok t.rules ↔
      ∀ r ∈ t.rules, IsBare r.pattern.toList t.domain.toList := by
    rw [mapM_eq_ok_self_iff]
    exact forall₂_congr fun r hr => (h.rules r hr).normalizeRule_eq_self_iff hdomain
  rw [← hrules, normalize_eq_ok_iff, h.domain, normalOwner_eq_self h.owner]
  constructor
  · rintro ⟨domain, rules, hdomain, hr, heq⟩
    obtain rfl := Option.some.inj hdomain
    rw [hr, congrArg Tracker.rules heq]
  · intro hr
    exact ⟨t.domain, t.rules, rfl, hr, rfl⟩

end Blocklist.Tracker
