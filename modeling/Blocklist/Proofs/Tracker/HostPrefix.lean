import Blocklist.Pattern.Estimate
import Blocklist.Proofs.Tracker.NormalForm

/-! # The host in front of a pattern

Normalization removes the host of the tracker in front of the patterns of its rules, whatever
follows it. So a pattern loses more than the host and a slash exactly if its text goes on behind the
host. Main statement: `cutsHost_of_normalize`. -/

namespace Blocklist.Tracker

open Text

/-! ## Cuts at the end of the host -/

/-- What separates a path from the host in front of it. -/
inductive IsSeparator : List Char → Prop where
  | slash : IsSeparator ['/']
  | escaped : IsSeparator ['\\', '/']

/-- Whether a text is a domain as a pattern, in any ASCII letter case. -/
def SpellsHost (domain head : List Char) : Prop :=
  head.map Char.toLower = (Filter.escapeDomainChars domain).map Char.toLower

instance (domain head : List Char) : Decidable (SpellsHost domain head) :=
  inferInstanceAs (Decidable (_ = _))

/-- What may be left of a pattern if a host in front of it is removed only where it ends. -/
inductive IsCut (domain : List Char) : List Char → List Char → Prop where
  | whole {pattern} : IsCut domain pattern pattern
  | separator {sep rest} : IsSeparator sep → IsCut domain (sep ++ rest) rest
  | host {head} : SpellsHost domain head → IsCut domain head []
  | hostSeparator {head sep rest} : SpellsHost domain head → IsSeparator sep →
      IsCut domain (head ++ (sep ++ rest)) rest

/-- A pattern that starts like the host, but goes on with other text. -/
structure GoesOn (domain pattern rest : List Char) : Prop where
  exists_head : ∃ head, SpellsHost domain head ∧ pattern = head ++ rest
  ne_nil : rest ≠ []
  noSeparator : ∀ sep, IsSeparator sep → ¬sep <+: rest

variable {domain pattern rest head : List Char}

/-- A text starts with a separator that is removed, or it stays as it is. -/
theorem dropLeadingSlash_cases (cs : List Char) :
    (∃ sep, IsSeparator sep ∧ cs = sep ++ dropLeadingSlash cs) ∨
      (∀ sep, IsSeparator sep → ¬sep <+: cs) ∧ dropLeadingSlash cs = cs := by
  by_cases hself : dropLeadingSlash cs = cs
  · refine .inr ⟨?_, hself⟩
    obtain ⟨hslash, hescaped⟩ := dropLeadingSlash_eq_self_iff.mp hself
    intro sep hsep
    cases hsep with
    | slash => exact hslash
    | escaped => exact hescaped
  · left
    unfold dropLeadingSlash at hself ⊢
    split
    · exact ⟨_, .escaped, rfl⟩
    · exact ⟨_, .slash, rfl⟩
    · simp_all

theorem SpellsHost.length_eq (h : SpellsHost domain head) :
    head.length = (Filter.escapeDomainChars domain).length := by
  have hlength := congrArg List.length h
  simpa using hlength

/-- Whatever follows the host, it is removed. -/
theorem dropHostChars_append (h : SpellsHost domain head) (rest : List Char) :
    dropHostChars (head ++ rest) domain = dropLeadingSlash rest := by
  rw [dropHostChars]
  simp only [← h.length_eq, List.take_left, List.drop_left]
  rw [if_pos (equalIgnoringCase_iff.mpr h)]

theorem exists_head_or_dropHostChars_eq (domain pattern : List Char) :
    (∃ head rest, SpellsHost domain head ∧ pattern = head ++ rest) ∨
      dropHostChars pattern domain = dropLeadingSlash pattern := by
  rw [dropHostChars]
  split
  · rename_i hhead
    exact .inl ⟨_, _, equalIgnoringCase_iff.mp hhead, (List.take_append_drop _ pattern).symm⟩
  · exact .inr rfl

/-- All texts for one host have the same length, so a pattern starts with at most one. -/
theorem SpellsHost.append_inj {head' rest' : List Char} (h : SpellsHost domain head)
    (h' : SpellsHost domain head') (heq : head ++ rest = head' ++ rest') :
    head = head' ∧ rest = rest' :=
  List.append_inj heq (h.length_eq.trans h'.length_eq.symm)

theorem SpellsHost.exists_isHostChar (h : SpellsHost domain head) (hdomain : Host.IsNormal domain) :
    ∃ c cs, head = c :: cs ∧ Host.isHostChar c := by
  cases domain with
  | nil => exact absurd rfl (Host.ne_nil_of_isValid hdomain.valid)
  | cons d ds =>
    have hdot : d ≠ '.' := fun hd => Host.head?_ne_of_isValid hdomain.valid (congrArg some hd)
    simp only [SpellsHost, Filter.escapeDomainChars, List.flatMap_cons, if_neg hdot,
      List.singleton_append, List.map_cons] at h
    obtain ⟨c, cs, rfl, hc, -⟩ := List.map_eq_cons_iff.mp h
    refine ⟨c, cs, rfl, ?_⟩
    rw [← Host.isHostChar_toLower, hc, Host.isHostChar_toLower]
    exact Host.isHostChar_of_isValid hdomain.valid d List.mem_cons_self

/-- A host does not start with a separator. -/
theorem SpellsHost.not_separator (h : SpellsHost domain head) (hdomain : Host.IsNormal domain)
    {sep : List Char} (hsep : IsSeparator sep) (rest : List Char) : ¬sep <+: head ++ rest := by
  obtain ⟨c, cs, rfl, hc⟩ := h.exists_isHostChar hdomain
  rintro ⟨tail, heq⟩
  cases hsep with
  | slash =>
    obtain rfl : '/' = c := (List.cons.inj heq).1
    cases hc
  | escaped =>
    obtain rfl : '\\' = c := (List.cons.inj heq).1
    cases hc

/-! ## What is left of a pattern -/

/-- Of a pattern that goes on behind the host, the host alone is removed. -/
theorem GoesOn.dropHostChars_eq (h : GoesOn domain pattern rest) :
    dropHostChars pattern domain = rest := by
  obtain ⟨head, hhead, rfl⟩ := h.exists_head
  rw [dropHostChars_append hhead]
  rcases dropLeadingSlash_cases rest with ⟨sep, hsep, heq⟩ | ⟨-, heq⟩
  · exact absurd ⟨_, heq.symm⟩ (h.noSeparator sep hsep)
  · exact heq

/-- Every other pattern is cut at the end of the host, or where there is no host in front. -/
theorem isCut_dropHostChars (h : ∀ rest, ¬GoesOn domain pattern rest) :
    IsCut domain pattern (dropHostChars pattern domain) := by
  rcases exists_head_or_dropHostChars_eq domain pattern with ⟨head, rest, hhead, rfl⟩ | heq
  · rw [dropHostChars_append hhead]
    rcases dropLeadingSlash_cases rest with ⟨sep, hsep, heq⟩ | ⟨hnone, heq⟩
    · nth_rewrite 1 [heq]
      exact .hostSeparator hhead hsep
    · by_cases hrest : rest = []
      · subst hrest
        rw [List.append_nil, heq]
        exact .host hhead
      · exact absurd ⟨⟨head, hhead, rfl⟩, hrest, hnone⟩ (h rest)
  · rw [heq]
    rcases dropLeadingSlash_cases pattern with ⟨sep, hsep, heq⟩ | ⟨-, heq⟩
    · nth_rewrite 1 [heq]
      exact .separator hsep
    · rw [heq]
      exact .whole

/-- What is left of a pattern that goes on behind the host is none of the cuts. -/
theorem GoesOn.not_isCut (h : GoesOn domain pattern rest) (hdomain : Host.IsNormal domain) :
    ¬IsCut domain pattern rest := by
  obtain ⟨head, hhead, heq⟩ := h.exists_head
  intro hcut
  cases hcut with
  | whole =>
    obtain ⟨c, cs, rfl, -⟩ := hhead.exists_isHostChar hdomain
    have hlength := congrArg List.length heq
    simp only [List.length_append, List.length_cons] at hlength
    omega
  | separator hsep => exact hhead.not_separator hdomain hsep rest ⟨rest, heq⟩
  | host hhead' => exact h.ne_nil rfl
  | hostSeparator hhead' hsep =>
    obtain ⟨-, hrest⟩ := hhead'.append_inj hhead heq
    exact h.noSeparator _ hsep ⟨_, hrest⟩

/-! ## Rules of trackers -/

/-- How the pattern of a rule is cut: at the end of the host unless it goes on behind it, and then
the text behind the host is left. It stays as it is exactly if nothing is in front. -/
structure CutsHost (domain : String) (r s : TrackerRule) : Prop where
  isCut_iff : IsCut domain.toList r.pattern.toList s.pattern.toList ↔
    ∀ rest, ¬GoesOn domain.toList r.pattern.toList rest
  pattern_eq : ∀ rest, GoesOn domain.toList r.pattern.toList rest → s.pattern.toList = rest
  pattern_eq_iff : s.pattern = r.pattern ↔ IsBare r.pattern.toList domain.toList

section

variable [Pattern.SizeLimit]

theorem cutsHost_of_normalizeRule {domain : String} {r s : TrackerRule}
    (hdomain : Host.IsNormal domain.toList) (h : normalizeRule domain r = .ok s) :
    CutsHost domain r s := by
  obtain ⟨ds, xs, -, -, rfl, -⟩ := normalizeRule_eq_ok_iff.mp h
  have hpattern : (dropHost r.pattern domain).toList =
      dropHostChars r.pattern.toList domain.toList :=
    String.toList_ofList
  constructor
  case isCut_iff =>
    simp only [hpattern]
    constructor
    · intro hcut rest hgoesOn
      rw [hgoesOn.dropHostChars_eq] at hcut
      exact hgoesOn.not_isCut hdomain hcut
    · exact isCut_dropHostChars
  case pattern_eq =>
    intro rest hgoesOn
    simp only [hpattern, hgoesOn.dropHostChars_eq]
  case pattern_eq_iff =>
    exact dropHost_eq_self_iff (by simpa using Host.ne_nil_of_isValid hdomain.valid)

/-- The rules of a tracker in normal form are those of the tracker, each with its pattern cut. -/
theorem cutsHost_of_normalize {t u : Tracker} (h : t.normalize = .ok u) :
    List.Forall₂ (CutsHost u.domain) t.rules u.rules := by
  obtain ⟨domain, rules, hdomain, hrules, rfl⟩ := normalize_eq_ok_iff.mp h
  have hnormal := Host.isNormal_of_normalize? hdomain
  exact (mapM_eq_ok_iff.mp hrules).imp fun r s => cutsHost_of_normalizeRule hnormal

/-- A tracker with a rule for its own host and one for a longer host. -/
def longerHost : Tracker :=
  { forDomain "T.Example." .block with rules :=
    [.forPattern "T\\.Example\\/ads" .block, .forPattern "t\\.examplex/ads" .block] }

/-- Its normal form. The longer host has lost its front. -/
def longerHostNormal : Tracker :=
  { forDomain "t.example" .block with rules :=
    [.forPattern "ads" .block, .forPattern "x/ads" .block] }

end

open scoped Pattern.Estimate

theorem cutsHost_longerHost :
    longerHost.normalize = .ok longerHostNormal ∧
      List.Forall₂ (CutsHost "t.example") longerHost.rules longerHostNormal.rules := by
  have h : longerHost.normalize = .ok longerHostNormal := by decide +kernel
  exact ⟨h, cutsHost_of_normalize h⟩

/-- The pattern of the longer host is not cut at the end of a host. -/
theorem not_isCut_longerHost :
    longerHost.normalize = .ok longerHostNormal ∧
      ¬List.Forall₂ (fun r s => IsCut "t.example".toList r.pattern.toList s.pattern.toList)
        longerHost.rules longerHostNormal.rules := by
  refine ⟨by decide +kernel, fun hcuts => ?_⟩
  have hdomain : Host.IsNormal "t.example".toList :=
    Host.isNormal_of_normalize? (s := "t.example") (by decide +kernel)
  have hgoesOn : GoesOn "t.example".toList "t\\.examplex/ads".toList "x/ads".toList := by
    refine ⟨⟨"t\\.example".toList, by decide +kernel, by decide⟩, by decide, ?_⟩
    intro sep hsep
    cases hsep <;> decide
  have hcut := (List.forall₂_cons.mp (List.forall₂_cons.mp hcuts).2).1
  exact hgoesOn.not_isCut hdomain hcut

end Blocklist.Tracker
