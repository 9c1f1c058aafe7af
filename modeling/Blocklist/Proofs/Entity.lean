import Blocklist.Entity
import Blocklist.Proofs.Host.NormalForm
import Blocklist.Proofs.TextMap

/-! # Entities in normal form

What the normal form of an entity consists of. An entity in normal form is its own normal form. -/

namespace Blocklist.Entity

open Text

/-- An entity as normalization leaves it. -/
structure IsNormal (e : Entity) : Prop where
  name : trim e.name = e.name ∧ e.name ≠ ""
  displayName : trim e.displayName ≠ ""
  domains : ∀ d ∈ e.domains, Host.normalize? d = some d

theorem normalize?_eq_none_iff {e : Entity} : e.normalize? = none ↔ trim e.name = "" := by
  simp [normalize?]

theorem normalize?_eq_some_iff {e f : Entity} :
    e.normalize? = some f ↔
      trim e.name ≠ "" ∧
        f = { e with
          name := trim e.name,
          displayName := if (trim e.displayName).isEmpty then trim e.name else e.displayName,
          domains := .ofList (e.domains.toList.filterMap Host.normalize?) } := by
  rw [normalize?, Option.ite_none_left_eq_some, Option.some.injEq, String.isEmpty_iff]
  exact and_congr_right fun _ => eq_comm

theorem name_of_normalize? {e f : Entity} (h : e.normalize? = some f) : f.name = trim e.name := by
  obtain ⟨-, rfl⟩ := normalize?_eq_some_iff.mp h
  rfl

/-- A domain belongs to the normal form if it is the normal form of one of the domains. -/
theorem mem_domains_of_normalize? {e f : Entity} (h : e.normalize? = some f) (d : String) :
    d ∈ f.domains ↔ ∃ d' ∈ e.domains, Host.normalize? d' = some d := by
  obtain ⟨-, rfl⟩ := normalize?_eq_some_iff.mp h
  rw [TextSet.mem_ofList, List.mem_filterMap]
  rfl

theorem isNormal_of_normalize? {e f : Entity} (h : e.normalize? = some f) : IsNormal f := by
  have hdomains := mem_domains_of_normalize? h
  obtain ⟨hname, rfl⟩ := normalize?_eq_some_iff.mp h
  refine ⟨⟨trim_trim e.name, hname⟩, ?_, fun d hd => ?_⟩
  · by_cases hdisplay : trim e.displayName = ""
    · simpa [hdisplay, trim_trim] using hname
    · simp [hdisplay]
  · obtain ⟨d', -, hd'⟩ := (hdomains d).mp hd
    exact Host.normalize?_of_normalize? hd'

/-- An entity in normal form is its own normal form. -/
theorem IsNormal.normalize?_eq {e : Entity} (h : IsNormal e) : e.normalize? = some e := by
  have hdomains : e.domains.toList.filterMap Host.normalize? = e.domains.toList := by
    rw [List.filterMap_congr h.domains, List.filterMap_some]
  rw [normalize?, h.name.1, hdomains, TextSet.ofList_toList]
  simp [h.name.2, h.displayName]

end Blocklist.Entity
