import Blocklist.Detector
import Blocklist.Proofs.Dataset.Construction
import Blocklist.Proofs.SuffixList.Walk

/-! # The owners of pages

A page belongs to the entity that lists the longest of its domains; of several the last by name. -/

namespace Blocklist.Detector

variable [Pattern.SizeLimit]

variable {d : Detector} (hnames : ByName d.dataset.entities) {page : String}

include hnames

theorem entity?_eq_some_iff {e : Entity} :
    d.entity? page = some e ↔
      d.dataset.entity? e.name = some e ∧ ∃ k ∈ e.domains, k ∈ d.suffixes.walk page ∧
        ∀ f, d.dataset.entity? f.name = some f → ∀ k' ∈ f.domains, k' ∈ d.suffixes.walk page →
          Host.covers k' k ∧ (k' = k → f.name ≤ e.name) := by
  constructor
  · intro h
    obtain ⟨k, hwalk, hk, hlongest⟩ := SuffixList.exists_of_findSome?_walk h
    obtain ⟨he, hmem, hlast⟩ := (Dataset.entityForDomain?_eq_some_iff hnames).mp hk
    refine ⟨he, k, hmem, hwalk, fun f hf k' hk' hwalk' => ⟨?_, ?_⟩⟩
    · refine hlongest k' (SuffixList.covers_of_mem_walk hwalk') ?_
      rw [Option.isSome_iff_ne_none, ne_eq, Dataset.entityForDomain?_eq_none_iff hnames]
      exact fun hnone => hnone f.name f hf hk'
    · rintro rfl
      exact hlast f hf hk'
  · rintro ⟨he, k, hmem, hwalk, hothers⟩
    have hk : d.dataset.entityForDomain? k = some e :=
      (Dataset.entityForDomain?_eq_some_iff hnames).mpr
        ⟨he, hmem, fun f hf hkf => (hothers f hf k hkf hwalk).2 rfl⟩
    refine SuffixList.findSome?_walk_eq_some hwalk hk fun k' hwalk' hsome => ?_
    obtain ⟨f, hf⟩ := Option.isSome_iff_exists.mp hsome
    obtain ⟨hlisted, hk', -⟩ := (Dataset.entityForDomain?_eq_some_iff hnames).mp hf
    exact (hothers f hlisted k' hk' hwalk').1

theorem entity?_eq_none_iff :
    d.entity? page = none ↔
      ∀ n e, d.dataset.entity? n = some e → ∀ k ∈ e.domains, k ∉ d.suffixes.walk page := by
  simp only [entity?, List.findSome?_eq_none_iff, Dataset.entityForDomain?_eq_none_iff hnames]
  exact ⟨fun h n e he k hk hwalk => h k hwalk n e he hk,
    fun h k hwalk n e he hk => h n e he k hk hwalk⟩

/-- The pages of the owner of a tracker are those that belong to it. -/
theorem isOwnPage_iff {t : Tracker} :
    d.isOwnPage (d.dataset.ownerOf? t) page ↔
      ∃ owner, d.dataset.ownerOf? t = some owner ∧ d.entity? page = some owner := by
  unfold isOwnPage
  split
  · rename_i owner e howner hpage
    have hlisted := Dataset.entity?_name_of_ownerOf? hnames howner
    obtain ⟨hlisted', -⟩ := (entity?_eq_some_iff hnames).mp hpage
    rw [howner, hpage, Entity.isSame, beq_iff_eq]
    constructor
    · intro hname
      rw [hname, hlisted'] at hlisted
      exact ⟨e, hlisted.symm, rfl⟩
    · rintro ⟨e', howner', hpage'⟩
      rw [Option.some.inj howner', Option.some.inj hpage']
  · rename_i hnone
    simp only [Bool.false_eq_true, false_iff]
    rintro ⟨owner, howner, hpage⟩
    exact hnone owner owner howner hpage

end Blocklist.Detector
