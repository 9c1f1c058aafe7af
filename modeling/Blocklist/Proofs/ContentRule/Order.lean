import Blocklist.Proofs.ContentRule.Triggers
import Blocklist.Proofs.Dataset.Construction
import Mathlib.Data.List.Basic

/-! # The order of compiled rules

The rules for each tracker stand together, and a tracker with a longer domain of a host comes in
front of those with shorter ones. The sort is by the number of labels; among the domains that cover
a host more labels stand for a longer domain. Main statement: `exists_isOrdered_compile`. -/

namespace Blocklist.ContentRule

/-! ## The order of trackers -/

theorem comesFirst_iff {t u : Tracker} :
    comesFirst t u ↔
      (Host.labels u.domain).length < (Host.labels t.domain).length ∨
        (Host.labels t.domain).length = (Host.labels u.domain).length ∧ t.domain ≤ u.domain := by
  simp only [comesFirst, Bool.or_eq_true, decide_eq_true_eq, Bool.and_eq_true, beq_iff_eq,
    Bool.not_eq_true', decide_eq_false_iff_not, String.not_lt]

theorem comesFirst_trans {t u v : Tracker} (htu : comesFirst t u) (huv : comesFirst u v) :
    comesFirst t v := by
  rw [comesFirst_iff] at htu huv ⊢
  rcases htu with htu | ⟨htu, hle⟩
  · exact .inl (by omega)
  · rcases huv with huv | ⟨huv, hle'⟩
    · exact .inl (by omega)
    · exact .inr ⟨htu.trans huv, String.le_trans hle hle'⟩

theorem comesFirst_total (t u : Tracker) : comesFirst t u || comesFirst u t := by
  rw [Bool.or_eq_true, comesFirst_iff, comesFirst_iff]
  rcases Nat.lt_trichotomy (Host.labels t.domain).length (Host.labels u.domain).length with
    hlt | heq | hlt
  · exact .inr (.inl hlt)
  · rcases String.le_total t.domain u.domain with hle | hle
    · exact .inl (.inr ⟨heq, hle⟩)
    · exact .inr (.inr ⟨heq.symm, hle⟩)
  · exact .inl (.inl hlt)

theorem pairwise_mergeSort_comesFirst (ts : List Tracker) :
    (ts.mergeSort comesFirst).Pairwise fun t u => comesFirst t u := by
  apply List.pairwise_mergeSort
  · intro t u v
    exact comesFirst_trans
  · exact comesFirst_total

/-- A domain has fewer labels than its subdomains, so its tracker comes behind theirs. -/
theorem not_comesFirst_of_covers {t u : Tracker} (h : Host.covers t.domain u.domain)
    (hne : t.domain ≠ u.domain) : ¬comesFirst t u := by
  have hlt := Host.length_labels_lt_of_covers h hne
  rw [comesFirst_iff]
  rintro (hgt | ⟨heq, -⟩)
  · omega
  · omega

section

variable {m : TextMap Tracker} (hkeys : ∀ k t, m.get? k = some t → t.domain = k)

include hkeys

theorem eq_of_mem_values {t u : Tracker} (ht : t ∈ m.values) (hu : u ∈ m.values)
    (h : t.domain = u.domain) : t = u := by
  obtain ⟨j, hj⟩ := TextMap.mem_values_iff.mp ht
  obtain ⟨k, hk⟩ := TextMap.mem_values_iff.mp hu
  rw [← hkeys j t hj] at hj
  rw [← hkeys k u hk, ← h, hj] at hk
  exact Option.some.inj hk

/-- No other tracker of a host stands in front of the one with the longest domain. -/
theorem exists_mergeSort_eq_append {t : Tracker} (ht : t ∈ m.values) {host : String}
    (hlongest : ∀ u ∈ m.values, Host.covers u.domain host → Host.covers u.domain t.domain) :
    ∃ before after, m.values.mergeSort comesFirst = before ++ t :: after ∧
      ∀ u ∈ before, u ∈ m.values ∧ comesFirst u t ∧ u ≠ t ∧ ¬ Host.covers u.domain host := by
  obtain ⟨before, after, heq, hbefore⟩ := List.eq_append_cons_of_mem (List.mem_mergeSort.mpr ht)
  have hmem : ∀ u ∈ before, u ∈ m.values := fun u hu =>
    List.mem_mergeSort.mp (heq ▸ List.mem_append_left _ hu)
  have hsorted : (before ++ t :: after).Pairwise fun u v => comesFirst u v := by
    rw [← heq]
    exact pairwise_mergeSort_comesFirst m.values
  have hfirst : ∀ u ∈ before, comesFirst u t := fun u hu =>
    (List.pairwise_append.mp hsorted).2.2 u hu t List.mem_cons_self
  refine ⟨before, after, heq, fun u hu => ?_⟩
  have hne : u ≠ t := fun h => hbefore (h ▸ hu)
  refine ⟨hmem u hu, hfirst u hu, hne, fun hcovers => ?_⟩
  refine not_comesFirst_of_covers (hlongest u (hmem u hu) hcovers) (fun h => ?_) (hfirst u hu)
  exact hne (eq_of_mem_values hkeys (hmem u hu) ht h)

end

theorem exists_find?_of_covers {order : List Tracker} {host : String} {u : Tracker}
    (hu : u ∈ order) (h : Host.covers u.domain host) :
    ∃ t, order.find? (Host.covers ·.domain host) = some t := by
  rw [← Option.isSome_iff_exists, List.find?_isSome]
  exact ⟨u, hu, h⟩

section

variable {order : List Tracker} (horder : order.Pairwise fun t u => comesFirst t u)

include horder

/-- The tracker of a subdomain stands in front of that of the domain. -/
theorem exists_eq_append_of_covers {t u : Tracker} (ht : t ∈ order) (hu : u ∈ order)
    (h : Host.covers u.domain t.domain) (hne : u.domain ≠ t.domain) :
    ∃ before between after, order = before ++ t :: between ++ u :: after := by
  obtain ⟨front, after, rfl⟩ := List.append_of_mem hu
  have hmem : t ∈ front := by
    rcases List.mem_append.mp ht with hmem | hmem
    · exact hmem
    · exfalso
      rcases List.mem_cons.mp hmem with rfl | hmem
      · exact hne rfl
      · obtain ⟨-, hlast, -⟩ := List.pairwise_append.mp horder
        exact not_comesFirst_of_covers h hne ((List.pairwise_cons.mp hlast).1 t hmem)
  obtain ⟨before, between, rfl⟩ := List.append_of_mem hmem
  exact ⟨before, between, after, rfl⟩

/-- The first tracker whose domain covers a host is the one with the longest such domain. -/
theorem length_lt_of_find? {host : String} {t u : Tracker}
    (ht : order.find? (Host.covers ·.domain host) = some t) (hu : u ∈ order)
    (hcovers : Host.covers u.domain host) (hne : u.domain ≠ t.domain) :
    u.domain.length < t.domain.length := by
  obtain ⟨htcovers, before, after, rfl, hbefore⟩ := List.find?_eq_some_iff_append.mp ht
  have hafter : u ∈ after := by
    rcases List.mem_append.mp hu with hmem | hmem
    · have hnot := hbefore u hmem
      rw [hcovers] at hnot
      cases hnot
    · rcases List.mem_cons.mp hmem with rfl | hmem
      · exact absurd rfl hne
      · exact hmem
  rcases Host.covers_or_covers hcovers htcovers with h | h
  · exact Host.length_lt_of_covers h hne
  · obtain ⟨-, hlast, -⟩ := List.pairwise_append.mp horder
    exact absurd ((List.pairwise_cons.mp hlast).1 u hafter)
      (not_comesFirst_of_covers h (Ne.symm hne))

end

/-! ## The rules for a tracker -/

/-- Whether some rules are those for a rule of a tracker: at most one that lets through what the
exception is for, and then what the rule itself says. -/
def IsGroupOf (domain : String) (r : TrackerRule) (rs : List ContentRule) : Prop :=
  ∃ exceptions : List ContentRule, exceptions.length ≤ 1 ∧
    (∀ x ∈ exceptions,
      x.trigger.urlFilter = Tracker.urlFilter domain r ∧ x.action = .ignorePreviousRules) ∧
    rs = exceptions ++
      [⟨((Trigger.forFilter (Tracker.urlFilter domain r)).withTypes r.types).withDomains
        r.domains.toList, .ofAction r.action⟩]

/-- Whether some rules are those for a tracker: at most one that lets through what the pages of the
owner load, then the groups for the rules of the tracker in their order, and last the rule for all
that is left, without any condition. -/
def IsBlockOf (t : Tracker) (rs : List ContentRule) : Prop :=
  ∃ guards groups, guards.length ≤ 1 ∧
    (∀ x ∈ guards,
      x.trigger.urlFilter = Filter.scope t.domain ∧ x.action = .ignorePreviousRules) ∧
    List.Forall₂ (IsGroupOf t.domain) t.rules groups ∧
    rs = guards ++ groups.flatten ++ [⟨.forFilter (Filter.scope t.domain), .ofAction t.action⟩]

theorem isGroupOf_ofTrackerRule (domain : String) (r : TrackerRule) :
    IsGroupOf domain r (ofTrackerRule domain r) := by
  refine ⟨_, ?_, ?_, rfl⟩
  · cases exceptionTrigger? r (Tracker.urlFilter domain r) <;> simp
  · intro x hx
    obtain ⟨trigger, htrigger, rfl⟩ := List.mem_map.mp hx
    exact ⟨urlFilter_of_exceptionTrigger? (Option.mem_toList.mp htrigger), rfl⟩

theorem isBlockOf_ofTracker (d : Dataset) (t : Tracker) : IsBlockOf t (ofTracker d t) := by
  refine ⟨ownerRules (Filter.scope t.domain) (d.ownerOf? t),
    t.rules.map (ofTrackerRule t.domain), ?_, ?_, ?_, ?_⟩
  · unfold ownerRules
    split
    · simp
    · split <;> simp
  · intro x hx
    unfold ownerRules at hx
    split at hx
    · cases hx
    · split at hx
      · cases hx
      · rw [List.mem_singleton.mp hx]
        exact ⟨rfl, rfl⟩
  · rw [List.forall₂_map_right_iff]
    exact List.forall₂_same.mpr fun r _ => isGroupOf_ofTrackerRule t.domain r
  · rw [ofTracker, List.flatMap_def]

/-! ## Rules that hide elements -/

theorem not_isCosmetic_ofAction (trigger : Trigger) (a : Action) :
    ¬(ContentRule.mk trigger (.ofAction a)).isCosmetic := by
  cases a <;> simp [isCosmetic, ContentAction.ofAction]

theorem not_isCosmetic_of_action {x : ContentRule} (h : x.action = .ignorePreviousRules) :
    ¬x.isCosmetic := by
  simp [isCosmetic, h]

theorem IsGroupOf.not_isCosmetic {domain : String} {r : TrackerRule} {rs : List ContentRule}
    (h : IsGroupOf domain r rs) : ∀ x ∈ rs, ¬x.isCosmetic := by
  obtain ⟨exceptions, -, hexceptions, rfl⟩ := h
  intro x hx
  rcases List.mem_append.mp hx with hx | hx
  · exact not_isCosmetic_of_action (hexceptions x hx).2
  · rw [List.mem_singleton.mp hx]
    exact not_isCosmetic_ofAction _ r.action

theorem IsBlockOf.not_isCosmetic {t : Tracker} {rs : List ContentRule} (h : IsBlockOf t rs) :
    ∀ x ∈ rs, ¬x.isCosmetic := by
  obtain ⟨guards, groups, -, hguards, hgroups, rfl⟩ := h
  intro x hx
  rcases List.mem_append.mp hx with hx | hx
  · rcases List.mem_append.mp hx with hx | hx
    · exact not_isCosmetic_of_action (hguards x hx).2
    · obtain ⟨group, hgroup, hx⟩ := List.mem_flatten.mp hx
      obtain ⟨i, hi, rfl⟩ := List.mem_iff_getElem.mp hgroup
      have hr := (List.forall₂_iff_get.mp hgroups).2 i (hgroups.length_eq ▸ hi) hi
      exact hr.not_isCosmetic x hx
  · rw [List.mem_singleton.mp hx]
    exact not_isCosmetic_ofAction _ t.action

theorem length_trustedRules_le (sites : List String) : (trustedRules sites).length ≤ 1 := by
  rw [trustedRules]
  split <;> simp

theorem not_isCosmetic_trustedRules (sites : List String) :
    ∀ x ∈ trustedRules sites, ¬x.isCosmetic := by
  intro x hx
  rw [trustedRules] at hx
  split at hx
  · cases hx
  · rw [List.mem_singleton.mp hx]
    exact not_isCosmetic_of_action rfl

/-! ## All rules -/

/-- How the compiled rules of a dataset are ordered: at most one rule for trusted sites, then the
blocks of the trackers, one after the other, and then the rules that hide elements. -/
structure IsOrdered (d : Dataset) (options : CompileOptions) (order : List Tracker) : Prop where
  compile_eq : compile d options =
    trustedRules options.trustedSites ++ order.flatMap (ofTracker d) ++
      options.hidings.map hidingRule
  /-- Every tracker has one block. -/
  perm : order.Perm d.trackers.values
  block : ∀ t ∈ order, IsBlockOf t (ofTracker d t)
  trusted : (trustedRules options.trustedSites).length ≤ 1
  cosmetic : ∀ x ∈ options.hidings.map hidingRule, x.isCosmetic
  not_cosmetic : ∀ x ∈ trustedRules options.trustedSites ++ order.flatMap (ofTracker d),
    ¬x.isCosmetic
  /-- The block of a proper subdomain stands in front of that of the domain. -/
  subdomain : ∀ t ∈ order, ∀ u ∈ order, Host.covers u.domain t.domain → u.domain ≠ t.domain →
    ∃ before between after, order = before ++ t :: between ++ u :: after
  /-- The first block for a domain of a host is the one for the longest. -/
  longest : ∀ host, (∃ u ∈ order, Host.covers u.domain host) →
    ∃ t, order.find? (Host.covers ·.domain host) = some t ∧
      ∀ u ∈ order, Host.covers u.domain host → u ≠ t → u.domain.length < t.domain.length

theorem exists_isOrdered_compile [Pattern.SizeLimit] (ts : List Tracker) (es : List Entity)
    (options : CompileOptions) :
    ∃ order, IsOrdered (.build ts es) options order := by
  have hkeys : ∀ k t, (Dataset.build ts es).trackers.get? k = some t → t.domain = k :=
    fun _ _ h => (Dataset.isNormal_of_tracker?_build h).2
  have hsorted := pairwise_mergeSort_comesFirst (Dataset.build ts es).trackers.values
  refine ⟨(Dataset.build ts es).trackers.values.mergeSort comesFirst, ?_⟩
  constructor
  case compile_eq => rfl
  case perm => exact List.mergeSort_perm _ _
  case block => exact fun t _ => isBlockOf_ofTracker _ t
  case trusted => exact length_trustedRules_le options.trustedSites
  case cosmetic =>
    intro x hx
    obtain ⟨h, -, rfl⟩ := List.mem_map.mp hx
    rfl
  case not_cosmetic =>
    intro x hx
    rcases List.mem_append.mp hx with hx | hx
    · exact not_isCosmetic_trustedRules options.trustedSites x hx
    · obtain ⟨t, -, hx⟩ := List.mem_flatMap.mp hx
      exact (isBlockOf_ofTracker _ t).not_isCosmetic x hx
  case subdomain => exact fun t ht u hu => exists_eq_append_of_covers hsorted ht hu
  case longest =>
    rintro host ⟨v, hv, hcovers⟩
    obtain ⟨t, ht⟩ := exists_find?_of_covers hv hcovers
    refine ⟨t, ht, fun u hu hcovers hne => length_lt_of_find? hsorted ht hu hcovers fun h => ?_⟩
    have hmem := List.mem_mergeSort.mp (List.mem_of_find?_eq_some ht)
    exact hne (eq_of_mem_values hkeys (List.mem_mergeSort.mp hu) hmem h)

end Blocklist.ContentRule
