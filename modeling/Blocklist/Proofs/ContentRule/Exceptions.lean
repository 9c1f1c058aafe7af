import Blocklist.Proofs.ContentRule.Triggers

/-! # The triggers for exceptions

The trigger for the exception of a rule is for exactly the pages that the rule and the exception
have in common, and there is none exactly if they have no request in common. So a trigger that asks
for nothing in particular comes from a rule and an exception that both ask for nothing in
particular. Main statement: `coversException_exceptionTrigger?`. -/

namespace Blocklist

/-- Whether a page is on the list of pages of a trigger. An empty list has every page, and also what
is no page with a host. -/
def Trigger.admitsPage (t : Trigger) (pageHost : Option String) : Bool :=
  t.ifDomains.isEmpty || pageHost.any fun host => t.ifDomains.any (entryCovers host)

namespace ContentRule

/-- Whether a page belongs to one of some domains or their subdomains. If there are no domains,
every page does, and also what is no page with a host. -/
def IsPageOf (domains : TextSet) (pageHost : Option String) : Prop :=
  (∀ d, d ∉ domains) ∨ ∃ host d, pageHost = some host ∧ d ∈ domains ∧ Host.covers d host

/-- A request, of one kind or of none, that a rule is for and its exception too. -/
structure IsForBoth (r : TrackerRule) (pageHost : Option String) (kind : Option ResourceType) :
    Prop where
  rulePage : IsPageOf r.domains pageHost
  exceptionPage : IsPageOf r.exceptions.domains pageHost
  ruleKind : r.types.admits (kind.map .single)
  exceptionKind : r.exceptions.types.admits (kind.map .single)

/-- A trigger for what a rule and its exception have in common, if they have something in common. -/
structure CoversException (r : TrackerRule) (trigger : Option Trigger) : Prop where
  pages : ∀ t, trigger = some t → ∀ pageHost,
    t.admitsPage pageHost ↔ IsPageOf r.domains pageHost ∧ IsPageOf r.exceptions.domains pageHost
  eq_none_iff : trigger = none ↔
    r.exceptions.isEmpty ∨ ∀ pageHost kind, ¬IsForBoth r pageHost kind
  /-- Only where neither side asks for pages, the trigger does not. -/
  ifDomains_eq_nil : ∀ t, trigger = some t →
    (t.ifDomains = [] ↔ (∀ d, d ∉ r.domains) ∧ ∀ d, d ∉ r.exceptions.domains)
  /-- Only where neither side asks for kinds, the trigger does not. -/
  types_eq_nil : ∀ t, trigger = some t →
    (t.types = [] ↔ (∀ k, r.types.contains k = false) ∧ ∀ k, r.exceptions.types.contains k = false)

/-! ## Pages -/

theorem coversPage_iff_isPageOf {domains : TextSet} {pageHost : Option String} :
    coversPage domains pageHost ↔ IsPageOf domains pageHost := by
  rw [coversPage, Bool.or_eq_true, TextSet.isEmpty_iff, IsPageOf]
  cases pageHost with
  | none => simp
  | some host => simp [isCovered_iff]

/-- Any domains have a page in common with themselves: one of them, or none. -/
theorem exists_coversPage (domains : TextSet) : ∃ pageHost, coversPage domains pageHost := by
  by_cases hempty : domains.isEmpty
  · exact ⟨none, coversPage_of_isEmpty hempty none⟩
  · rw [TextSet.isEmpty_iff, not_forall] at hempty
    obtain ⟨d, hd⟩ := hempty
    refine ⟨some d, ?_⟩
    rw [coversPage, Option.any_some, isCovered_iff.mpr ⟨d, not_not.mp hd, Host.covers_refl d⟩,
      Bool.or_true]

variable {s t : TextSet}

/-- Sets share domains exactly if they cover a common page. -/
theorem sharesDomains_iff :
    sharesDomains s t ↔ ∃ pageHost, coversPage s pageHost ∧ coversPage t pageHost := by
  constructor
  · intro h
    obtain ⟨pageHost, hpage⟩ := exists_coversPage (commonDomains s t)
    have hcommon := coversPage_commonDomains s t pageHost
    rw [h, hpage, Bool.true_and, eq_comm, Bool.and_eq_true] at hcommon
    exact ⟨pageHost, hcommon⟩
  · intro h
    obtain ⟨pageHost, hs, ht⟩ := h
    have hcommon := coversPage_commonDomains s t pageHost
    rw [hs, ht, Bool.and_true, Bool.and_eq_true] at hcommon
    exact hcommon.1

theorem isEmpty_commonDomains_iff (h : sharesDomains s t) :
    (commonDomains s t).isEmpty ↔ s.isEmpty ∧ t.isEmpty := by
  rw [sharesDomains, Bool.not_eq_true', Bool.and_eq_false_iff, Bool.not_eq_false',
    Bool.and_eq_true] at h
  constructor
  · intro hempty
    cases h with
    | inl h => simp [hempty] at h
    | inr h => exact h
  · intro hempty
    rw [commonDomains, if_pos hempty.1]
    exact hempty.2

/-! ## Kinds -/

variable {m n types : TypeMask}

/-- Any set of kinds admits a request: one of a kind in it, or of no kind. -/
theorem exists_admits (m : TypeMask) :
    ∃ kind : Option ResourceType, m.admits (kind.map .single) := by
  by_cases hempty : m.isEmpty
  · exact ⟨none, by rw [TypeMask.admits, hempty, Bool.true_or]⟩
  · rw [TypeMask.isEmpty_iff, not_forall] at hempty
    obtain ⟨k, hk⟩ := hempty
    refine ⟨some k, ?_⟩
    rw [TypeMask.admits_map_single, Option.any_some, eq_true_of_ne_false hk, Bool.or_true]

/-- Sets have common kinds exactly if they admit a common request. -/
theorem isSome_commonTypes?_iff :
    (commonTypes? m n).isSome ↔
      ∃ kind : Option ResourceType, m.admits (kind.map .single) ∧ n.admits (kind.map .single) := by
  have hcommon := any_admits_commonTypes? m n
  cases htypes : commonTypes? m n with
  | none =>
    rw [htypes] at hcommon
    simpa using hcommon
  | some types =>
    obtain ⟨kind, hkind⟩ := exists_admits types
    have hboth := hcommon kind
    rw [htypes, Option.any_some, hkind, eq_comm, Bool.and_eq_true] at hboth
    exact iff_of_true rfl ⟨kind, hboth⟩

theorem isEmpty_of_commonTypes?_eq_some (h : commonTypes? m n = some types) :
    types.isEmpty ↔ m.isEmpty ∧ n.isEmpty := by
  unfold commonTypes? at h
  split at h
  · rename_i hn
    obtain rfl := Option.some.inj h
    simp [hn]
  · rename_i hn
    split at h
    · rename_i hm
      obtain rfl := Option.some.inj h
      simp [hm]
    · rename_i hm
      split at h
      · cases h
      · rename_i hinter
        obtain rfl := Option.some.inj h
        simp [hm, hinter]

/-! ## The trigger -/

variable {r : TrackerRule} {filter : String}

/-- There is a trigger exactly if there is an exception and kinds and pages are shared. -/
theorem exceptionTrigger?_eq_some_iff {trigger : Trigger} :
    exceptionTrigger? r filter = some trigger ↔
      ¬r.exceptions.isEmpty ∧ ∃ types, commonTypes? r.types r.exceptions.types = some types ∧
        sharesDomains r.domains r.exceptions.domains ∧
        trigger = ((Trigger.forFilter filter).withTypes types).withDomains
          (commonDomains r.domains r.exceptions.domains).toList := by
  rw [exceptionTrigger?, Option.ite_none_left_eq_some, Option.bind_eq_some_iff]
  simp only [Option.ite_none_left_eq_some, Option.some.injEq, sharesDomains, Bool.not_eq_true',
    Bool.not_eq_true, @eq_comm _ trigger]

theorem exceptionTrigger?_eq_none_iff :
    exceptionTrigger? r filter = none ↔
      r.exceptions.isEmpty ∨ ¬(commonTypes? r.types r.exceptions.types).isSome ∨
        ¬sharesDomains r.domains r.exceptions.domains := by
  rw [Option.eq_none_iff_forall_ne_some]
  simp only [ne_eq, exceptionTrigger?_eq_some_iff, Option.isSome_iff_exists]
  grind

theorem admitsPage_withDomains (types : TypeMask) (domains : TextSet) (pageHost : Option String) :
    (((Trigger.forFilter filter).withTypes types).withDomains domains.toList).admitsPage pageHost =
      coversPage domains pageHost := by
  simp [Trigger.admitsPage, Trigger.forFilter, Trigger.withTypes, Trigger.withDomains,
    Trigger.any_domainEntry, -List.any_map, coversPage, TextSet.isEmpty]

theorem admitsPage_iff_of_exceptionTrigger? {trigger : Trigger}
    (h : exceptionTrigger? r filter = some trigger) (pageHost : Option String) :
    trigger.admitsPage pageHost ↔
      IsPageOf r.domains pageHost ∧ IsPageOf r.exceptions.domains pageHost := by
  obtain ⟨-, types, -, hshares, rfl⟩ := exceptionTrigger?_eq_some_iff.mp h
  have hcommon := coversPage_commonDomains r.domains r.exceptions.domains pageHost
  rw [hshares, Bool.true_and] at hcommon
  rw [admitsPage_withDomains, hcommon, Bool.and_eq_true, coversPage_iff_isPageOf,
    coversPage_iff_isPageOf]

/-- The kinds and the pages that a rule and its exception share can be chosen apart, so a request
for both needs no more than one of each. -/
theorem exists_isForBoth_iff :
    (∃ pageHost kind, IsForBoth r pageHost kind) ↔
      (commonTypes? r.types r.exceptions.types).isSome ∧
        sharesDomains r.domains r.exceptions.domains := by
  rw [isSome_commonTypes?_iff, sharesDomains_iff]
  constructor
  · intro h
    obtain ⟨pageHost, kind, h⟩ := h
    exact ⟨⟨kind, h.ruleKind, h.exceptionKind⟩, pageHost,
      coversPage_iff_isPageOf.mpr h.rulePage, coversPage_iff_isPageOf.mpr h.exceptionPage⟩
  · intro h
    obtain ⟨⟨kind, hrule, hexception⟩, pageHost, hpage, hexceptionPage⟩ := h
    exact ⟨pageHost, kind, coversPage_iff_isPageOf.mp hpage,
      coversPage_iff_isPageOf.mp hexceptionPage, hrule, hexception⟩

/-- The trigger for the exception of a rule is for what the two have in common. -/
theorem coversException_exceptionTrigger? (r : TrackerRule) (filter : String) :
    CoversException r (exceptionTrigger? r filter) where
  pages := by
    intro t ht
    exact admitsPage_iff_of_exceptionTrigger? ht
  eq_none_iff := by
    have hnone : (∀ pageHost kind, ¬IsForBoth r pageHost kind) ↔
        ¬((commonTypes? r.types r.exceptions.types).isSome ∧
          sharesDomains r.domains r.exceptions.domains) := by
      rw [← exists_isForBoth_iff]
      simp only [not_exists]
    rw [exceptionTrigger?_eq_none_iff, hnone, not_and_or]
  ifDomains_eq_nil := by
    intro t ht
    obtain ⟨-, types, -, hshares, rfl⟩ := exceptionTrigger?_eq_some_iff.mp ht
    rw [← TextSet.isEmpty_iff, ← TextSet.isEmpty_iff, ← isEmpty_commonDomains_iff hshares]
    simp [Trigger.withDomains, TextSet.isEmpty]
  types_eq_nil := by
    intro t ht
    obtain ⟨-, types, htypes, -, rfl⟩ := exceptionTrigger?_eq_some_iff.mp ht
    rw [← TypeMask.isEmpty_iff, ← TypeMask.isEmpty_iff, ← isEmpty_of_commonTypes?_eq_some htypes,
      ← TypeMask.isEmpty_hostNames, List.isEmpty_iff]
    rfl

/-- A rule and an exception for pages that are not the same have no trigger, not one for all
pages. -/
example :
    exceptionTrigger?
      { TrackerRule.forPattern "x" .block with
        domains := .ofList ["a.example"]
        exceptions := ⟨.ofList ["b.example", "ba.example"], .empty⟩ } "x" = none := by
  decide +kernel

end ContentRule

end Blocklist
