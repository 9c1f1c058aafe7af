import Blocklist.Proofs.Json.Records
import Blocklist.Proofs.ResourceType
import Blocklist.Tracker.Json

/-! # Trackers in JSON

A tracker that has been written is read as the tracker, whichever of their names its fields go by.
What is left out because it is empty is empty again. Only a prevalence may be rounded. -/

namespace Blocklist

open Json (Value Gives)

/-! ## Parts of trackers -/

theorem TypeMask.take_toJson (m : TypeMask) : TypeMask.take m.toJson.toNode = .ok m := by
  have hvalid : (m.toList.map ResourceType.name).find?
      (fun name => (ResourceType.ofName? name).isNone) = none := by
    simp [List.find?_eq_none, ResourceType.ofName?_name]
  rw [take, toJson, Json.asList_strings]
  simp only [bind, Except.bind, hvalid, ofNames_names, pure, Except.pure]

theorem Action.take_name (a : Action) : Action.take (Value.string a.name).toNode = .ok a := by
  rw [Value.toNode]
  cases a <;> rfl

theorem Entity.takeTextSet_strings (s : TextSet) :
    Entity.takeTextSet (Value.strings s.toList).toNode = .ok s := by
  rw [takeTextSet, Json.asList_strings]
  exact congrArg Except.ok (TextSet.ofList_toList s)

theorem RuleOptions.take_toJson (o : RuleOptions) : shape.take o.toJson.toNode = .ok o := by
  refine Json.take_of_gives (by decide) (.member (y := o) (by decide) ?_ (.nil _))
  rw [Value.toNode]
  rfl

/-! ## Exceptions -/

namespace RuleExceptions

theorem eq_of_isEmpty {x : RuleExceptions} (h : x.isEmpty) : x = ⟨.empty, .empty⟩ := by
  obtain ⟨hdomains, htypes⟩ := Bool.and_eq_true_iff.mp h
  rw [← TextSet.eq_empty_of_isEmpty hdomains, ← TypeMask.eq_empty_of_isEmpty htypes]

/-- Exceptions as JSON, with either key for the kinds of resources. -/
def IsSpelledAs (x : RuleExceptions) (v : Value) : Prop :=
  ∃ types ∈ ["resource_types", "types"], v = .object (
    (if x.domains.isEmpty then [] else [("domains", .strings x.domains.toList)]) ++
    (if x.types.isEmpty then [] else [(types, x.types.toJson)]))

theorem isSpelledAs_toJson (x : RuleExceptions) : x.IsSpelledAs x.toJson :=
  ⟨"resource_types", by decide, rfl⟩

theorem take_of_isSpelledAs {x : RuleExceptions} {v : Value} (h : x.IsSpelledAs v) :
    shape.take v.toNode = .ok x := by
  obtain ⟨types, htypes, rfl⟩ := h
  rw [← List.append_nil (if x.types.isEmpty then [] else [(types, x.types.toJson)])]
  refine Json.take_of_gives (by decide) ?_
  refine .unless rfl (by decide) (Json.put_eq (Entity.takeTextSet_strings x.domains) _) ?_ ?_
  · intro hempty
    rw [TextSet.eq_empty_of_isEmpty hempty]
    rfl
  refine .unless rfl htypes (Json.put_eq (TypeMask.take_toJson x.types) _) ?_ (.nil x)
  intro hempty
  rw [TypeMask.eq_empty_of_isEmpty hempty]
  rfl

end RuleExceptions

/-! ## Rules -/

namespace TrackerRule

/-- A rule as JSON, with either key for its pattern, for the kinds of resources and for the domains.
-/
def IsSpelledAs (r : TrackerRule) (v : Value) : Prop :=
  ∃ pattern ∈ ["pattern", "rule"], ∃ types ∈ ["resource_types", "types"],
    ∃ domains ∈ ["matched_domains", "domains"], ∃ x, r.exceptions.IsSpelledAs x ∧ v = .object (
      [(pattern, .string r.pattern), ("action", .string r.action.name)] ++
      (if r.types.isEmpty then [] else [(types, r.types.toJson)]) ++
      (if r.domains.isEmpty then [] else [(domains, .strings r.domains.toList)]) ++
      [("options", r.options.toJson)] ++
      (if r.exceptions.isEmpty then [] else [("exceptions", x)]))

theorem isSpelledAs_toJson (r : TrackerRule) : r.IsSpelledAs r.toJson :=
  ⟨"pattern", by decide, "resource_types", by decide, "matched_domains", by decide,
    r.exceptions.toJson, r.exceptions.isSpelledAs_toJson, rfl⟩

theorem take_of_isSpelledAs {r : TrackerRule} {v : Value} (h : r.IsSpelledAs v) :
    shape.take v.toNode = .ok r := by
  obtain ⟨pattern, hpattern, types, htypes, domains, hdomains, x, hx, rfl⟩ := h
  rw [← List.append_nil (if r.exceptions.isEmpty then [] else [("exceptions", x)])]
  simp only [List.append_assoc, List.cons_append, List.nil_append]
  refine Json.take_of_gives (by decide) ?_
  refine .member hpattern (Json.put_eq (Json.asString_string r.pattern) _) ?_
  refine .member (by decide) (Json.put_eq (Action.take_name r.action) _) ?_
  refine .unless rfl htypes (Json.put_eq (TypeMask.take_toJson r.types) _) ?_ ?_
  · intro hempty
    rw [TypeMask.eq_empty_of_isEmpty hempty]
    rfl
  refine .unless rfl hdomains (Json.put_eq (Entity.takeTextSet_strings r.domains) _) ?_ ?_
  · intro hempty
    rw [TextSet.eq_empty_of_isEmpty hempty]
    rfl
  refine .member (by decide) (Json.put_eq (RuleOptions.take_toJson r.options) _) ?_
  refine .unless rfl (by decide) (Json.put_eq (RuleExceptions.take_of_isSpelledAs hx) _) ?_ (.nil r)
  intro hempty
  rw [RuleExceptions.eq_of_isEmpty hempty]
  rfl

end TrackerRule

/-! ## Trackers -/

namespace Tracker

/-- The forms in which an owner may be given: by name, or as a record that has a name. -/
def ownerForms : List (String → Value) :=
  [.string, fun name => .object [("name", .string name)]]

theorem takeOwner_of_mem {room : Nat} (hroom : 1 < room) {form : String → Value}
    (hform : form ∈ ownerForms) (name : String) :
    takeOwner room (form name).toNode = .ok (some name) := by
  simp only [ownerForms, List.mem_cons, List.not_mem_nil, or_false] at hform
  rcases hform with rfl | rfl
  · rw [Value.toNode]
    rfl
  · simp [Value.toNode, Json.toMembers, takeOwner, Json.Node.check, Json.enter, hroom]
    rfl

/-- A tracker as JSON, with either key for its owner and its action, the owner in any of its forms,
and the rules with any of their keys. -/
def IsSpelledAs (t : Tracker) (v : Value) : Prop :=
  ∃ owner ∈ ["owner_entity_name", "owner"], ∃ form ∈ ownerForms,
    ∃ action ∈ ["default_action", "default"],
      ∃ rules, List.Forall₂ TrackerRule.IsSpelledAs t.rules rules ∧ v = .object (
        [("domain", .string t.domain)] ++
        (t.owner.elim [] fun name => [(owner, form name)]) ++
        [(action, .string t.action.name)] ++
        (if t.rules.isEmpty then [] else [("rules", .array rules)]) ++
        [("prevalence", .real t.prevalence)])

theorem isSpelledAs_toJson (t : Tracker) : t.IsSpelledAs t.toJson := by
  refine ⟨"owner_entity_name", by decide, .string, by simp [ownerForms],
    "default_action", by decide, t.rules.map TrackerRule.toJson, ?_, rfl⟩
  rw [List.forall₂_map_right_iff]
  exact List.forall₂_same.mpr fun r _ => r.isSpelledAs_toJson

theorem takeRules_of_isSpelledAs {rs : List TrackerRule} {vs : List Value}
    (h : List.Forall₂ TrackerRule.IsSpelledAs rs vs) :
    (Value.array vs).toNode.asList TrackerRule.shape.take = .ok rs :=
  Json.asList_array (h.imp fun _ _ hr => TrackerRule.take_of_isSpelledAs hr)

/-- A tracker is read as it was written, up to its prevalence. -/
theorem take_of_isSpelledAs {room : Nat} (hroom : 1 < room) {t : Tracker} {v : Value}
    (h : t.IsSpelledAs v) :
    (shape room).take v.toNode = .ok { t with prevalence := t.prevalence.reread } := by
  obtain ⟨owner, howner, form, hform, action, haction, rules, hrules, rfl⟩ := h
  have hshape : (shape room).IsUnambiguous := (by decide : (shape 0).IsUnambiguous)
  simp only [List.append_assoc, List.cons_append, List.nil_append]
  refine Json.take_of_gives hshape ?_
  refine .member (by decide) (Json.put_eq (Json.asString_string t.domain) _) ?_
  refine .elim (fun owner => { forDomain t.domain .block with owner }) rfl howner
    (fun name => Json.put_eq (takeOwner_of_mem hroom hform name) _) rfl ?_
  refine .member haction (Json.put_eq (Action.take_name t.action) _) ?_
  refine .unless rfl (by decide) (Json.put_eq (takeRules_of_isSpelledAs hrules) _) ?_ ?_
  · intro hempty
    rw [List.isEmpty_iff.mp hempty]
    rfl
  exact .member (by decide) (Json.put_eq (Json.asReal_real t.prevalence) _) (.nil _)

end Tracker

end Blocklist
