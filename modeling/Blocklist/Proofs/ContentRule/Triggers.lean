import Blocklist.ContentRule.Compile
import Blocklist.ContentRule.Evaluate
import Blocklist.Proofs.Host.Covering
import Blocklist.Proofs.ResourceType
import Blocklist.Proofs.TextMap

/-! # The requests that triggers are for

The trigger of a rule is for the kinds and the pages of the rule, and the trigger of its exception
for those that the rule and the exception have in common. -/

namespace Blocklist

open ContentRule

/-! ## Pages -/

theorem ContentRule.isCovered_iff {domains : TextSet} {host : String} :
    isCovered domains host ↔ ∃ d ∈ domains, Host.covers d host := by
  simp [isCovered, TextSet.mem_def]

/-- Whether a rule for the pages of some domains is for a page. -/
def ContentRule.coversPage (domains : TextSet) (pageHost : Option String) : Bool :=
  domains.isEmpty || pageHost.any (isCovered domains)

theorem Trigger.entryCovers_domainEntry (host domain : String) :
    entryCovers host (Filter.domainEntry domain) = Host.covers domain host := by
  simp [entryCovers, Filter.domainEntry, Host.covers]

theorem Trigger.any_domainEntry (domains : TextSet) (host : String) :
    (domains.toList.map Filter.domainEntry).any (entryCovers host) = isCovered domains host := by
  simp [List.any_map, Function.comp_def, entryCovers_domainEntry, isCovered]

theorem Trigger.applies_eq (filter : String) (types : TypeMask) (domains : TextSet) (r : Target) :
    Trigger.applies (((forFilter filter).withTypes types).withDomains domains.toList) r =
      (types.admitsName r.typeName && coversPage domains r.pageHost) := by
  simp [applies, forFilter, withTypes, withDomains, any_domainEntry, -List.any_map,
    TypeMask.admitsName, coversPage, TextSet.isEmpty]

theorem Trigger.applies_withDomains (filter : String) (domains : TextSet) (r : Target) :
    Trigger.applies ((forFilter filter).withDomains domains.toList) r =
      coversPage domains r.pageHost := by
  have htypes : (forFilter filter).withTypes .empty = forFilter filter := rfl
  have hname : TypeMask.empty.admitsName r.typeName = true := rfl
  rw [← htypes, applies_eq, hname, Bool.true_and]

theorem Trigger.applies_forFilter (filter : String) (r : Target) :
    (forFilter filter).applies r := by
  simp [applies, forFilter]

namespace ContentRule

variable {s t : TextSet} {host : String}

theorem mem_commonDomains_iff (hs : ¬ s.isEmpty) (ht : ¬ t.isEmpty) {d : String} :
    d ∈ commonDomains s t ↔ d ∈ s ∧ isCovered t d ∨ d ∈ t ∧ isCovered s d := by
  rw [commonDomains, if_neg hs, if_neg ht, TextSet.mem_ofList]
  simp [TextSet.mem_def]

/-- A host is covered by the common domains if it is covered on both sides: of the two domains that
cover it, the longer one is common. -/
theorem isCovered_commonDomains (hs : ¬ s.isEmpty) (ht : ¬ t.isEmpty) :
    isCovered (commonDomains s t) host = (isCovered s host && isCovered t host) := by
  rw [Bool.eq_iff_iff, Bool.and_eq_true]
  simp only [isCovered_iff, mem_commonDomains_iff hs ht]
  constructor
  · rintro ⟨d, ⟨hd, e, he, hcovers⟩ | ⟨hd, e, he, hcovers⟩, hhost⟩
    · exact ⟨⟨d, hd, hhost⟩, e, he, Host.covers_trans hcovers hhost⟩
    · exact ⟨⟨e, he, Host.covers_trans hcovers hhost⟩, d, hd, hhost⟩
  · rintro ⟨⟨d, hd, hdhost⟩, e, he, hehost⟩
    rcases Host.covers_or_covers hdhost hehost with hcovers | hcovers
    · exact ⟨e, .inr ⟨he, d, hd, hcovers⟩, hehost⟩
    · exact ⟨d, .inl ⟨hd, e, he, hcovers⟩, hdhost⟩

/-- Whether two sets have a common domain, or ask for none. -/
def sharesDomains (s t : TextSet) : Bool :=
  !((commonDomains s t).isEmpty && !(s.isEmpty && t.isEmpty))

theorem coversPage_of_isEmpty (hs : s.isEmpty) (pageHost : Option String) :
    coversPage s pageHost := by
  simp [coversPage, hs]

theorem coversPage_commonDomains (s t : TextSet) (pageHost : Option String) :
    (sharesDomains s t && coversPage (commonDomains s t) pageHost) =
      (coversPage s pageHost && coversPage t pageHost) := by
  by_cases hs : s.isEmpty
  · rw [coversPage_of_isEmpty hs]
    simp [sharesDomains, commonDomains, hs]
  · by_cases ht : t.isEmpty
    · rw [coversPage_of_isEmpty ht]
      simp [sharesDomains, commonDomains, hs, ht]
    · have hcommon : ∀ host, isCovered (commonDomains s t) host →
          ¬ (commonDomains s t).isEmpty := by
        intro host hcovered hempty
        obtain ⟨d, hd, -⟩ := isCovered_iff.mp hcovered
        exact TextSet.isEmpty_iff.mp hempty d hd
      cases pageHost with
      | none => simp [coversPage, sharesDomains, hs, ht]
      | some host =>
        have hiff := hcommon host
        rw [isCovered_commonDomains hs ht] at hiff
        simp only [coversPage, sharesDomains, hs, ht, Option.any_some,
          isCovered_commonDomains hs ht]
        cases hempty : (commonDomains s t).isEmpty <;> simp_all

/-! ## Exceptions -/

/-- The common kinds of two sets admit a request of one kind if both sets do. -/
theorem any_admits_commonTypes? (m n : TypeMask) (kind : Option ResourceType) :
    (commonTypes? m n).any (·.admits (kind.map TypeMask.single)) =
      (m.admits (kind.map TypeMask.single) && n.admits (kind.map TypeMask.single)) := by
  unfold commonTypes?
  by_cases hnempty : n.isEmpty
  · rw [if_pos hnempty, Option.any_some, TypeMask.admits_map_single (m := n), hnempty]
    simp
  · by_cases hmempty : m.isEmpty
    · rw [if_neg hnempty, if_pos hmempty, Option.any_some, TypeMask.admits_map_single (m := m),
        hmempty]
      simp
    · have hboth : (m.admits (kind.map TypeMask.single) && n.admits (kind.map TypeMask.single)) =
          kind.any (m.inter n).contains := by
        rw [TypeMask.admits_map_single, TypeMask.admits_map_single]
        cases kind <;> simp [TypeMask.contains_inter, hmempty, hnempty]
      rw [if_neg hnempty, if_neg hmempty, hboth]
      split
      · rename_i hempty
        cases kind <;> simp [TypeMask.isEmpty_iff.mp hempty]
      · rename_i hempty
        rw [Option.any_some, TypeMask.admits_map_single]
        simp [hempty]

/-- The trigger for the exception of a rule is for what has a name of the common kinds, on the pages
that the domains of both cover. -/
theorem any_exceptionTrigger? (r : TrackerRule) (filter : String) (target : Target) :
    (exceptionTrigger? r filter).any (·.applies target) =
      (!r.exceptions.isEmpty &&
        ((commonTypes? r.types r.exceptions.types).any (·.admitsName target.typeName) &&
          (coversPage r.domains target.pageHost &&
            coversPage r.exceptions.domains target.pageHost))) := by
  rw [← coversPage_commonDomains]
  unfold exceptionTrigger?
  by_cases hempty : r.exceptions.isEmpty
  · simp [hempty]
  · rw [if_neg hempty]
    cases commonTypes? r.types r.exceptions.types with
    | none => simp
    | some types =>
      have hshares : ((commonDomains r.domains r.exceptions.domains).isEmpty &&
          !(r.domains.isEmpty && r.exceptions.domains.isEmpty)) =
            !sharesDomains r.domains r.exceptions.domains := by
        rw [sharesDomains, Bool.not_not]
      simp only [Option.bind_some, hshares]
      cases sharesDomains r.domains r.exceptions.domains <;> simp [Trigger.applies_eq, hempty]

theorem admitsName_of_commonTypes? {m n types : TypeMask} {name : Option String}
    (htypes : commonTypes? m n = some types) (h : types.admitsName name) : m.admitsName name := by
  unfold commonTypes? at htypes
  split at htypes
  · exact Option.some.inj htypes ▸ h
  · split at htypes
    · rename_i hempty
      rw [TypeMask.admitsName, TypeMask.isEmpty_hostNames, hempty, Bool.true_or]
    · split at htypes
      · cases htypes
      · rename_i hinter
        exact TypeMask.admitsName_of_inter hinter (Option.some.inj htypes ▸ h)

/-- The trigger for the exception of a rule is for no more than the trigger for the rule. -/
theorem admitsName_and_coversPage_of_exceptionTrigger? {r : TrackerRule} {filter : String}
    {target : Target} (h : (exceptionTrigger? r filter).any (·.applies target)) :
    r.types.admitsName target.typeName && coversPage r.domains target.pageHost := by
  rw [any_exceptionTrigger?, Bool.and_eq_true, Bool.and_eq_true, Bool.and_eq_true] at h
  obtain ⟨-, htypes, hpage, -⟩ := h
  obtain ⟨types, hcommon, htypes⟩ := (Option.any_eq_true _ _).mp htypes
  rw [admitsName_of_commonTypes? hcommon htypes, hpage]
  rfl

theorem urlFilter_of_exceptionTrigger? {r : TrackerRule} {filter : String} {trigger : Trigger}
    (h : exceptionTrigger? r filter = some trigger) : trigger.urlFilter = filter := by
  unfold exceptionTrigger? at h
  split at h
  · cases h
  · obtain ⟨types, -, h⟩ := Option.bind_eq_some_iff.mp h
    simp only at h
    split at h
    · cases h
    · rw [← Option.some.inj h]
      rfl

end ContentRule

end Blocklist
