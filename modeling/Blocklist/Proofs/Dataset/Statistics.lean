import Blocklist.Pattern.Estimate
import Blocklist.Proofs.Dataset.Construction
import Mathlib.Data.List.Induction

/-! # What becomes of the records

Every record that a dataset is built from is counted exactly once: it is kept, replaced by a later
one with its key, left out for want of a tracker, or invalid. The counts are followed record by
record, as they are made. Main statement: `accountsFor_buildStats`. -/

namespace Blocklist

/-! ## Sizes of maps -/

namespace TextMap

variable {α : Type u} {m : TextMap α} {k : String}

theorem length_insertEntry (v : α) {es : List (String × α)}
    (hes : es.Pairwise fun a b => a.1 < b.1) :
    (insertEntry k v es).length = es.length + if (lookup? k es).isSome then 0 else 1 := by
  induction es with
  | nil => simp [insertEntry, lookup?]
  | cons e es ih =>
    obtain ⟨k', v'⟩ := e
    obtain ⟨hhead, htail⟩ := List.pairwise_cons.mp hes
    unfold insertEntry lookup?
    by_cases hlt : k < k'
    -- A key in front of the first one is in front of all the others.
    · have hnone : lookup? k es = none := by
        apply Option.eq_none_iff_forall_ne_some.mpr
        intro w hw
        have hk := hhead (k, w) (mem_of_lookup?_eq_some hw)
        exact String.lt_asymm hlt hk
      have hne : k ≠ k' := String.ne_of_lt hlt
      simp [hlt, hne, hnone]
    · by_cases hk : k = k'
      · simp [hk]
      · simp [hlt, hk, ih htail]
        omega

/-- A map grows by an entry with a new key. -/
theorem size_insert (m : TextMap α) (k : String) (v : α) :
    (m.insert k v).size = m.size + if m.contains k then 0 else 1 :=
  length_insertEntry v m.ascending

end TextMap

/-! ## Records by their keys -/

namespace Dataset

namespace Index

variable {α : Type u} (key : α → String)

/-- The number of records that an index has taken in. -/
def total (i : Index α) : Nat :=
  i.records.size + i.replaced + i.invalid

/-- One more record is invalid, or it replaces one with the same key, or its key is new. -/
theorem total_add (i : Index α) (x : Option α) : (i.add key x).total = i.total + 1 := by
  cases x with
  | none =>
    simp only [add, total]
    omega
  | some x =>
    simp only [add, total, TextMap.size_insert]
    split <;> omega

/-- Every record is counted once. -/
theorem total_ofList (xs : List (Option α)) : (ofList key xs).total = xs.length := by
  induction xs using List.reverseRecOn with
  | nil => rfl
  | append_singleton xs x ih =>
    have hstep : ofList key (xs ++ [x]) = (ofList key xs).add key x := by simp [ofList]
    rw [hstep, total_add, ih, List.length_append, List.length_singleton]

end Index

/-! ## Owners -/

/-- Whether a tracker has an owner that is not among some entities. -/
def isUnresolved (entities : TextMap Entity) (t : Tracker) : Bool :=
  t.owner.any fun owner => !entities.contains owner

theorem Owners.unresolved_ofList (entities : TextMap Entity) (ts : List Tracker) :
    (ofList entities ts).unresolved = ts.countP (isUnresolved entities) := by
  induction ts using List.reverseRecOn with
  | nil => rfl
  | append_singleton ts t ih =>
    have hstep : ofList entities (ts ++ [t]) = (ofList entities ts).add entities t := by
      simp [ofList]
    rw [hstep, add, List.countP_append, ← ih]
    cases howner : t.owner with
    | none => simp [isUnresolved, howner]
    | some owner =>
      by_cases hknown : entities.contains owner <;> simp [isUnresolved, howner, hknown]

section

variable [Pattern.SizeLimit]

/-- An owner is missing in the dataset exactly if it is missing among all entities, as the owners of
trackers are kept. -/
theorem isUnresolved_eq {ts : List Tracker} (es : List Entity) {t : Tracker}
    (ht : t ∈ (trackersByDomain ts).values) :
    isUnresolved (entitiesByName es) t =
      (t.owner.isSome && ((build ts es).ownerOf? t).isNone) := by
  obtain ⟨k, hk⟩ := TextMap.mem_values_iff.mp ht
  cases howner : t.owner with
  | none => simp [isUnresolved, howner]
  | some n =>
    have hisOwner : isOwner (trackersByDomain ts) n := isOwner_iff.mpr ⟨k, t, hk, howner⟩
    rw [isUnresolved, ownerOf?, howner, Option.any_some, Option.bind_some, entity?,
      get?_entities_build, hisOwner, TextMap.contains]
    cases (entitiesByName es).get? n <;> rfl

/-! ## The statistics of a dataset -/

/-- The counts of what went into a dataset account for every record. -/
structure BuildStats.AccountsFor (s : BuildStats) (ts : List Tracker) (es : List Entity)
    (d : Dataset) : Prop where
  trackerRecords : ts.length = s.trackers + s.duplicateTrackers + s.invalidTrackers
  entityRecords :
    es.length = s.entities + s.unreferencedEntities + s.duplicateEntities + s.invalidEntities
  trackers : s.trackers = d.trackers.size
  entities : s.entities = d.entities.size
  unresolvedOwners :
    s.unresolvedOwners = d.trackers.values.countP fun t => t.owner.isSome && (d.ownerOf? t).isNone
  /-- No more entities are kept than there are. -/
  entities_le : d.entities.size ≤ (entitiesByName es).size
  unreferencedEntities : s.unreferencedEntities = (entitiesByName es).size - d.entities.size

variable (ts : List Tracker) (es : List Entity)

theorem unresolvedOwners_buildStats :
    (buildStats ts es).unresolvedOwners =
      (build ts es).trackers.values.countP (isUnresolved (entitiesByName es)) :=
  Owners.unresolved_ofList (entitiesByName es) (trackersByDomain ts).values

/-- The counts of a dataset account for every record that it is built from. -/
theorem accountsFor_buildStats : (buildStats ts es).AccountsFor ts es (build ts es) := by
  have htrackers : (buildStats ts es).trackers + (buildStats ts es).duplicateTrackers +
      (buildStats ts es).invalidTrackers = ts.length :=
    (Index.total_ofList Tracker.domain _).trans (List.length_map _)
  have hentities : (entitiesByName es).size + (buildStats ts es).duplicateEntities +
      (buildStats ts es).invalidEntities = es.length :=
    (Index.total_ofList Entity.name _).trans (List.length_map _)
  have hsize : (buildStats ts es).entities = (build ts es).entities.size := rfl
  have hle : (build ts es).entities.size ≤ (entitiesByName es).size := List.length_filter_le _ _
  have hdropped : (buildStats ts es).unreferencedEntities =
      (entitiesByName es).size - (build ts es).entities.size := rfl
  constructor
  case trackerRecords => exact htrackers.symm
  case entityRecords => omega
  case trackers => rfl
  case entities => rfl
  case unresolvedOwners =>
    rw [unresolvedOwners_buildStats]
    refine List.countP_congr fun t ht => ?_
    rw [isUnresolved_eq es ht]
  case entities_le => exact hle
  case unreferencedEntities => exact hdropped

end

open scoped Pattern.Estimate

/-- An invalid copy replaces nothing, and the owner of the tracker that is left is missing. -/
example : buildStats
    [{ Tracker.forDomain "a.example" .block with owner := some "A" },
      { Tracker.forDomain "A.Example" .ignore with owner := some "Nobody" },
      { Tracker.forDomain "a.example" .block with rules := [TrackerRule.forPattern "a|b" .block] }]
    [.named "A" ["a.example"], .named " A " [], .named "" []] =
      { trackers := 1, entities := 0, duplicateTrackers := 1, duplicateEntities := 1,
        invalidTrackers := 1, invalidEntities := 1, unresolvedOwners := 1,
        unreferencedEntities := 1 } := by
  decide +kernel

end Dataset

end Blocklist
