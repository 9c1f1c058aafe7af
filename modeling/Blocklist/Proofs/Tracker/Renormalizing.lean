import Blocklist.Proofs.Filter.Shortening
import Blocklist.Proofs.Tracker.NormalForm

/-! # Normalizing a tracker again

A tracker in normal form is accepted again. Its patterns may lose a host and a slash once more, but
these stand for themselves, so a filter stays one without them. -/

namespace Blocklist.Tracker

open Text
open Blocklist.Filter (IsWritten escapeDomainChars)

/-! ## What is removed in front of a pattern -/

theorem exists_isWritten_dropLeadingSlash (cs : List Char) :
    ∃ pre w, IsWritten pre w ∧ cs = pre ++ dropLeadingSlash cs := by
  unfold dropLeadingSlash
  split
  · exact ⟨['\\', '/'], ['/'], .escaped (.inr rfl) .nil, rfl⟩
  · exact ⟨['/'], ['/'], .slash .nil, rfl⟩
  · exact ⟨[], [], .nil, rfl⟩

/-- A domain as a pattern is written out, in any letter case. -/
theorem exists_isWritten_of_equalIgnoringCase {cs domain : List Char}
    (hdomain : ∀ c ∈ domain, Host.isHostChar c)
    (h : equalIgnoringCase cs (escapeDomainChars domain)) : ∃ w, IsWritten cs w := by
  rw [equalIgnoringCase_iff] at h
  induction domain generalizing cs with
  | nil =>
    obtain rfl : cs = [] := by simpa [escapeDomainChars] using h
    exact ⟨[], .nil⟩
  | cons d domain ih =>
    have ih' := fun {cs} => @ih cs fun c hc => hdomain c (List.mem_cons_of_mem d hc)
    by_cases hd : d = '.'
    · have hcons : escapeDomainChars (d :: domain) = '\\' :: '.' :: escapeDomainChars domain := by
        simp [escapeDomainChars, hd]
      rw [hcons, List.map_cons, List.map_cons] at h
      obtain ⟨c, cs₁, rfl, hc, h₁⟩ := List.map_eq_cons_iff.mp h
      obtain ⟨c', cs₂, rfl, hc', h₂⟩ := List.map_eq_cons_iff.mp h₁
      obtain rfl : c = '\\' := (toLower_eq_iff (by decide)).mp hc
      obtain rfl : c' = '.' := (toLower_eq_iff (by decide)).mp hc'
      obtain ⟨w, hw⟩ := ih' h₂
      exact ⟨'.' :: w, .escaped (.inl rfl) hw⟩
    · have hcons : escapeDomainChars (d :: domain) = d :: escapeDomainChars domain := by
        simp [escapeDomainChars, hd]
      rw [hcons, List.map_cons] at h
      obtain ⟨c, cs, rfl, hc, hcs⟩ := List.map_eq_cons_iff.mp h
      obtain ⟨w, hw⟩ := ih' hcs
      have hhost : Host.isHostChar c := by
        rw [← Host.isHostChar_toLower, hc, Host.isHostChar_toLower]
        exact hdomain d List.mem_cons_self
      refine ⟨c :: w, .host hhost (fun heq => hd ?_) hw⟩
      rw [heq] at hc
      exact (Host.toLower_eq_dot_iff d).mp hc.symm

theorem exists_isWritten_dropHostChars (pattern : List Char) {domain : List Char}
    (hdomain : ∀ c ∈ domain, Host.isHostChar c) :
    ∃ pre w, IsWritten pre w ∧ pattern = pre ++ dropHostChars pattern domain := by
  rw [dropHostChars]
  split
  · rename_i hhost
    obtain ⟨v, hv⟩ := exists_isWritten_of_equalIgnoringCase hdomain hhost
    obtain ⟨pre, w, hpre, heq⟩ :=
      exists_isWritten_dropLeadingSlash (pattern.drop (escapeDomainChars domain).length)
    refine ⟨_, v ++ w, hv.append hpre, ?_⟩
    rw [List.append_assoc, ← heq, List.take_append_drop]
  · exact exists_isWritten_dropLeadingSlash pattern

/-! ## Rules and trackers -/

theorem isSupported_iff {pattern : String} :
    Filter.isSupported pattern ↔ Pattern.IsClear pattern.toList := by
  simp [Filter.isSupported, Pattern.IsClear]

variable [Pattern.SizeLimit]

/-- A rule of a tracker in normal form is accepted again. -/
theorem IsNormalRule.exists_normalizeRule {domain : String} {r : TrackerRule}
    (h : IsNormalRule domain r) (hdomain : Host.IsNormal domain.toList) :
    ∃ s, normalizeRule domain r = .ok s := by
  have hchars := Host.isHostChar_of_isValid hdomain.valid
  obtain ⟨pre, w, hpre, heq⟩ := exists_isWritten_dropHostChars r.pattern.toList hchars
  have hclear : Pattern.IsClear (dropHostChars r.pattern.toList domain.toList) :=
    hpre.isClear_append (heq ▸ isSupported_iff.mp h.supported)
  have hpattern : (dropHost r.pattern domain).toList =
      dropHostChars r.pattern.toList domain.toList :=
    String.toList_ofList
  have hcompiles := h.compiles
  rw [urlFilter, Filter.compile_urlFilter, heq] at hcompiles
  have hsupported : Filter.isSupported (dropHost r.pattern domain) :=
    isSupported_iff.mpr (hpattern ▸ hclear)
  refine ⟨_, normalizeRule_eq_ok_iff.mpr ⟨_, _, normalizeDomains_of_normal h.domains,
    normalizeDomains_of_normal h.exceptionDomains, rfl, hsupported, ?_⟩⟩
  rw [urlFilter, Filter.compile_urlFilter, hpattern]
  exact Filter.exists_compileChars_of_written (Host.ne_nil_of_isValid hdomain.valid) hchars hpre
    hclear hcompiles

/-- A tracker in normal form is accepted again, with the same domain and owner. -/
theorem IsNormal.exists_normalize {t : Tracker} (h : IsNormal t) :
    ∃ u, t.normalize = .ok u ∧ u.domain = t.domain ∧ u.owner = t.owner := by
  have hdomain := Host.isNormal_of_normalize? h.domain
  obtain ⟨rules, hrules⟩ := exists_mapM_of_forall fun r hr =>
    (h.rules r hr).exists_normalizeRule hdomain
  exact ⟨_, normalize_eq_ok_iff.mpr ⟨t.domain, rules, h.domain, hrules, rfl⟩, rfl,
    normalOwner_eq_self h.owner⟩

end Blocklist.Tracker
