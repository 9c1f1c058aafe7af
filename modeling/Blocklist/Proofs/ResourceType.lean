import Blocklist.ResourceType

/-! # Sets of kinds of resources

A set is known by the kinds in it. Names in compiled rules tell a set as far as it does not tell
apart the kinds that share a name. -/

namespace Blocklist

theorem ResourceType.mem_all (t : ResourceType) : t ∈ all := by
  cases t <;> decide

theorem ResourceType.index_lt (t : ResourceType) : t.index < 8 := by
  cases t <;> decide

theorem ResourceType.index_inj {s t : ResourceType} : s.index = t.index ↔ s = t := by
  refine ⟨fun h => ?_, fun h => h ▸ rfl⟩
  cases s <;> cases t <;> first | rfl | cases h

theorem ResourceType.ofName?_name (t : ResourceType) : ofName? t.name = some t := by
  cases t <;> decide

theorem ResourceType.exists_index_eq {i : Nat} (h : i < 8) : ∃ t : ResourceType, t.index = i := by
  have hall : ∀ i < 8, ∃ t ∈ all, t.index = i := by decide
  obtain ⟨t, -, ht⟩ := hall i h
  exact ⟨t, ht⟩

namespace TypeMask

variable {m n : TypeMask} {s t : ResourceType}

theorem isEmpty_iff : m.isEmpty ↔ ∀ t, m.contains t = false := by
  rw [isEmpty, beq_iff_eq]
  constructor
  · intro h t
    rw [contains, h]
    exact BitVec.getLsbD_zero
  · intro h
    refine BitVec.eq_of_getLsbD_eq fun i hi => ?_
    obtain ⟨t, rfl⟩ := ResourceType.exists_index_eq hi
    exact (h t).trans BitVec.getLsbD_zero.symm

theorem contains_inter : (m.inter n).contains t = (m.contains t && n.contains t) :=
  BitVec.getLsbD_and

theorem contains_single : (single s).contains t = decide (s = t) := by
  rw [single, contains, BitVec.getLsbD_twoPow]
  simp [s.index_lt, ResourceType.index_inj]

theorem isEmpty_single : (single t).isEmpty = false := by
  cases t <;> decide

theorem isEmpty_inter_single : (m.inter (single t)).isEmpty = !m.contains t := by
  rw [Bool.eq_iff_iff, isEmpty_iff, Bool.not_eq_true']
  simp only [contains_inter, contains_single]
  constructor
  · intro h
    simpa using h t
  · intro h s
    by_cases hs : t = s
    · rw [← hs, h]
      rfl
    · simp [hs]

/-- Sets with the same kinds in them are equal. -/
theorem ext_contains (h : ∀ t, m.contains t = n.contains t) : m = n := by
  have hbits : m.bits = n.bits := BitVec.eq_of_getLsbD_eq fun i hi => by
    obtain ⟨t, rfl⟩ := ResourceType.exists_index_eq hi
    exact h t
  cases m
  cases n
  simpa using hbits

theorem eq_empty_of_isEmpty (h : m.isEmpty) : m = empty :=
  ext_contains fun t => (isEmpty_iff.mp h t).trans BitVec.getLsbD_zero.symm

/-- A set admits the requests of the kinds in it, and if it is empty all requests. -/
theorem admits_map_single (kind : Option ResourceType) :
    m.admits (kind.map single) = (m.isEmpty || kind.any m.contains) := by
  cases kind <;> simp [admits, isEmpty_inter_single]

/-! ## Lists of kinds -/

theorem mem_toList_iff : t ∈ m.toList ↔ m.contains t := by
  simp [toList, ResourceType.mem_all]

theorem contains_ofList (ts : List ResourceType) (t : ResourceType) :
    (ofList ts).contains t = decide (t ∈ ts) := by
  have hfold : ∀ m : TypeMask, (ts.foldl (fun m t => m.union (single t)) m).contains t =
      (m.contains t || decide (t ∈ ts)) := by
    induction ts with
    | nil => simp
    | cons u ts ih =>
      intro m
      have hunion : (m.union (single u)).contains t = (m.contains t || decide (u = t)) := by
        rw [← contains_single]
        exact BitVec.getLsbD_or
      rw [List.foldl_cons, ih, hunion]
      simp [Bool.or_assoc, eq_comm]
  have hempty : empty.contains t = false := BitVec.getLsbD_zero
  rw [ofList, hfold, hempty, Bool.false_or]

/-- A set is the set of the kinds in it. -/
theorem ofList_toList (m : TypeMask) : ofList m.toList = m :=
  ext_contains fun t => by
    rw [contains_ofList, Bool.eq_iff_iff, decide_eq_true_iff, mem_toList_iff]

/-- A set is the set of the names of the kinds in it. -/
theorem ofNames_names (m : TypeMask) : ofNames (m.toList.map ResourceType.name) = m := by
  have hnames : (m.toList.map ResourceType.name).filterMap ResourceType.ofName? = m.toList := by
    have hcomp : ResourceType.ofName? ∘ ResourceType.name = some :=
      funext fun t => by rw [Function.comp_apply, ResourceType.ofName?_name]
    rw [List.filterMap_map, hcomp, List.filterMap_some]
  rw [ofNames, hnames, ofList_toList]

/-! ## Names in compiled rules -/

theorem mem_hostNames_iff {name : String} :
    name ∈ m.hostNames ↔ ∃ t, m.contains t ∧ t.hostName = name := by
  have hfold : ∀ (ts : List ResourceType) (names : List String),
      name ∈ ts.foldl
          (fun names t =>
            if names.contains t.hostName then names else names ++ [t.hostName]) names ↔
        name ∈ names ∨ ∃ t ∈ ts, t.hostName = name := by
    intro ts
    induction ts with
    | nil => simp
    | cons t ts ih =>
      intro names
      rw [List.foldl_cons, ih]
      by_cases hcontains : names.contains t.hostName
      · have hmem : t.hostName = name → name ∈ names :=
          fun h => h ▸ List.contains_iff_mem.mp hcontains
        rw [if_pos hcontains]
        simp only [List.mem_cons, or_and_right, exists_or, exists_eq_left]
        exact ⟨Or.imp_right .inr, fun h => h.elim .inl (Or.imp_left hmem)⟩
      · rw [if_neg hcontains]
        simp only [List.mem_append, List.mem_cons, List.not_mem_nil, or_false, or_and_right,
          exists_or, exists_eq_left, or_assoc, @eq_comm _ name]
  rw [hostNames, hfold]
  simp [mem_toList_iff]

theorem isEmpty_hostNames : m.hostNames.isEmpty = m.isEmpty := by
  rw [Bool.eq_iff_iff, isEmpty_iff, List.isEmpty_iff, List.eq_nil_iff_forall_not_mem]
  simp only [mem_hostNames_iff]
  constructor
  · intro h t
    simpa using fun ht => h t.hostName ⟨t, ht, rfl⟩
  · rintro h name ⟨t, ht, -⟩
    rw [h t] at ht
    cases ht

/-- Whether a rule with the names of a set is for requests with a name. -/
def admitsName (m : TypeMask) (name : Option String) : Bool :=
  m.hostNames.isEmpty || name.any m.hostNames.contains

theorem hostName_single (t : ResourceType) : (single t).hostName = t.hostName := by
  cases t <;> rfl

/-- Beyond the requests that a set admits, its names admit those of a kind that only shares its name
with a kind in the set. -/
theorem admitsName_iff {kind : Option ResourceType} :
    m.admitsName (kind.map ResourceType.hostName) ↔
      m.admits (kind.map single) ∨
        ∃ s t, kind = some t ∧ s.hostName = t.hostName ∧ m.contains s ∧ m.contains t = false := by
  rw [admits_map_single, admitsName, isEmpty_hostNames]
  cases kind with
  | none => simp
  | some t =>
    simp only [Option.map_some, Option.any_some, Bool.or_eq_true, List.contains_iff_mem,
      mem_hostNames_iff, or_assoc]
    refine or_congr_right ?_
    constructor
    · rintro ⟨s, hs, hname⟩
      cases ht : m.contains t with
      | true => exact .inl rfl
      | false => exact .inr ⟨s, t, rfl, hname, hs, ht⟩
    · rintro (ht | ⟨s, u, hu, hname, hs, -⟩)
      · exact ⟨t, ht, rfl⟩
      · exact ⟨s, hs, Option.some.inj hu ▸ hname⟩

/-- What the names of the common kinds of two sets admit, the names of the first one admit. -/
theorem admitsName_of_inter {name : Option String} (hinter : ¬(m.inter n).isEmpty)
    (h : (m.inter n).admitsName name) : m.admitsName name := by
  have hsubset : ∀ s ∈ (m.inter n).hostNames, s ∈ m.hostNames := by
    intro s hs
    obtain ⟨t, ht, rfl⟩ := mem_hostNames_iff.mp hs
    rw [contains_inter, Bool.and_eq_true] at ht
    exact mem_hostNames_iff.mpr ⟨t, ht.1, rfl⟩
  rw [admitsName, isEmpty_hostNames, Bool.eq_false_iff.mpr hinter, Bool.false_or] at h
  obtain ⟨s, rfl, hs⟩ := (Option.any_eq_true _ _).mp h
  rw [admitsName, Option.any_some,
    List.contains_iff_mem.mpr (hsubset s (List.contains_iff_mem.mp hs)), Bool.or_true]

end TypeMask

end Blocklist
