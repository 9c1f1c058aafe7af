import Blocklist.Corpus.Output
import Blocklist.Proofs.FileTree
import Blocklist.Proofs.Json.Records

/-! # Rules in JSON

A list of rules that has been written is read as the same list, from its text and from a file. A
trigger leaves its empty lists out, so no field in the text has an empty array. -/

namespace Blocklist

open Json (Value Node Elements Members)

/-! ## Triggers -/

namespace Trigger

theorem takeTexts_strings (ts : List String) : takeTexts (Value.strings ts).toNode = .ok ts :=
  Json.asList_strings ts

theorem take_toJson (t : Trigger) : shape.take t.toJson.toNode = .ok t := by
  unfold toJson listMember
  rw [← List.append_nil (if t.unlessDomains.isEmpty then [] else _), List.append_assoc]
  refine Json.take_of_gives (by decide) ?_
  refine .member (by decide) (Json.put_eq (Json.asString_string t.urlFilter) _) ?_
  -- A list that is left out is empty, as it is in the record before any field is taken.
  refine .unless rfl (by decide) (Json.put_eq (takeTexts_strings t.types) _) ?_ ?_
  · intro hempty
    rw [List.isEmpty_iff.mp hempty]
    rfl
  refine .unless rfl (by decide) (Json.put_eq (takeTexts_strings t.ifDomains) _) ?_ ?_
  · intro hempty
    rw [List.isEmpty_iff.mp hempty]
    rfl
  refine .unless rfl (by decide) (Json.put_eq (takeTexts_strings t.unlessDomains) _) ?_ (.nil t)
  intro hempty
  rw [List.isEmpty_iff.mp hempty]
  rfl

end Trigger

/-! ## Actions -/

/-- An action is read as it was written. -/
theorem ContentAction.take_toJson {room : Nat} (hroom : 1 < room) (a : ContentAction) :
    take room a.toJson.toNode = .ok a := by
  cases a with
  | block =>
    simp [toJson, Value.toNode, Json.toMembers, take, Json.enter, hroom]
    rfl
  | ignorePreviousRules =>
    simp [toJson, Value.toNode, Json.toMembers, take, Json.enter, hroom]
    rfl
  | hide selector =>
    simp [toJson, Value.toNode, Json.toMembers, take, Json.enter, hroom]
    rfl

/-! ## Empty arrays -/

namespace Json

mutual

/-- Whether a field of some object in a tree has an empty array. -/
def Node.HasEmptyField : Node → Prop
  | .array es => es.HasEmptyField
  | .object ms => ms.HasEmptyField
  | _ => False

def Elements.HasEmptyField : Elements → Prop
  | .more e rest => e.HasEmptyField ∨ rest.HasEmptyField
  | _ => False

def Members.HasEmptyField : Members → Prop
  | .more _ value rest => value = .array .close ∨ value.HasEmptyField ∨ rest.HasEmptyField
  | .stray v => v.HasEmptyField
  | _ => False

end

theorem hasEmptyField_toElements_iff {vs : List Value} :
    (toElements vs).HasEmptyField ↔ ∃ v ∈ vs, v.toNode.HasEmptyField := by
  induction vs with
  | nil => simp [toElements, Elements.HasEmptyField]
  | cons v vs ih => simp [toElements, Elements.HasEmptyField, ih]

theorem hasEmptyField_toMembers_iff {ms : List (String × Value)} :
    (toMembers ms).HasEmptyField ↔
      ∃ m ∈ ms, m.2.toNode = .array .close ∨ m.2.toNode.HasEmptyField := by
  induction ms with
  | nil => simp [toMembers, Members.HasEmptyField]
  | cons m ms ih => simp [toMembers, Members.HasEmptyField, ih, or_assoc]

theorem not_hasEmptyField_strings (ts : List String) :
    ¬(Value.strings ts).toNode.HasEmptyField := by
  rw [Value.strings, Value.toNode, Node.HasEmptyField, hasEmptyField_toElements_iff]
  simp [Value.toNode, Node.HasEmptyField]

end Json

theorem Trigger.not_hasEmptyField (t : Trigger) : ¬t.toJson.toNode.HasEmptyField := by
  have hlist : ∀ name ts, ∀ m ∈ listMember name ts,
      ¬(m.2.toNode = .array .close ∨ m.2.toNode.HasEmptyField) := by
    intro name ts m hm
    cases ts with
    | nil => simp [listMember] at hm
    | cons s ts =>
      obtain rfl : m = (name, .strings (s :: ts)) := by simpa [listMember] using hm
      rintro (hempty | hfield)
      · simp [Value.strings, Value.toNode, Json.toElements] at hempty
      · exact Json.not_hasEmptyField_strings (s :: ts) hfield
  rw [toJson, Value.toNode, Node.HasEmptyField, Json.hasEmptyField_toMembers_iff]
  rintro ⟨m, hm, hempty⟩
  simp only [List.mem_cons, List.mem_append] at hm
  rcases hm with rfl | (hm | hm) | hm
  · simp [Value.toNode, Node.HasEmptyField] at hempty
  all_goals exact hlist _ _ m hm hempty

theorem ContentAction.not_hasEmptyField (a : ContentAction) : ¬a.toJson.toNode.HasEmptyField := by
  cases a <;>
    simp [toJson, Value.toNode, Json.toMembers, Node.HasEmptyField, Members.HasEmptyField]

/-! ## Rules -/

namespace ContentRule

theorem take_toJson {room : Nat} (hroom : 1 < room) (r : ContentRule) :
    (shape room).take r.toJson.toNode = .ok r := by
  have hshape : (shape room).IsUnambiguous := (by decide : (shape 0).IsUnambiguous)
  refine Json.take_of_gives hshape ?_
  refine .member List.mem_cons_self (Json.put_eq (Trigger.take_toJson r.trigger) _) ?_
  have haction := ContentAction.take_toJson hroom r.action
  exact .member List.mem_cons_self (Json.put_eq haction _) (.nil r)

/-- The text of some rules is read as these rules. -/
theorem readList_pretty (rs : List ContentRule) : readList (listToJson rs).pretty = .ok rs := by
  rw [readList, Json.decode_pretty]
  refine Json.asList_array ?_
  rw [List.forall₂_map_right_iff]
  exact List.forall₂_same.mpr fun r _ => take_toJson (by decide) r

theorem not_hasEmptyField (r : ContentRule) : ¬r.toJson.toNode.HasEmptyField := by
  rw [toJson, Value.toNode, Node.HasEmptyField, Json.hasEmptyField_toMembers_iff]
  rintro ⟨m, hm, hempty⟩
  simp only [List.mem_cons, List.not_mem_nil, or_false] at hm
  rcases hm with rfl | rfl
  · rcases hempty with hclose | hfield
    · simp [Trigger.toJson, Value.toNode] at hclose
    · exact r.trigger.not_hasEmptyField hfield
  · rcases hempty with hclose | hfield
    · cases haction : r.action <;> simp [haction, ContentAction.toJson, Value.toNode] at hclose
    · exact r.action.not_hasEmptyField hfield

theorem not_hasEmptyField_read (rs : List ContentRule) :
    ¬(Json.read (listToJson rs).pretty).root.HasEmptyField := by
  rw [Json.read_pretty, listToJson, Value.toNode, Node.HasEmptyField,
    Json.hasEmptyField_toElements_iff]
  rintro ⟨v, hv, hfield⟩
  obtain ⟨r, -, rfl⟩ := List.mem_map.mp hv
  exact r.not_hasEmptyField hfield

end ContentRule

/-! ## Files -/

/-- What has been written to a file is read from it. -/
theorem readInput_of_writeOutput {t t' : FileTree} {path text : String}
    (h : writeOutput t path text = .ok t') : readInput t' path = .ok text := by
  obtain ⟨made, -, h⟩ := bind_eq_ok_iff.mp h
  have hwrite := mapError_eq_ok_iff.mp h
  rw [readInput, FileTree.readText_of_writeText hwrite]
  rfl

namespace ContentRule

/-- Reading the text of some rules gives these rules, and so does reading a file to which they have
been written. No field in the text has an empty array. -/
theorem readList_listToJson (rs : List ContentRule) :
    readList (listToJson rs).pretty = .ok rs ∧
      ¬(Json.read (listToJson rs).pretty).root.HasEmptyField ∧
        ∀ t path t', writeRules t path rs = .ok t' → readRules t' path = .ok rs := by
  refine ⟨readList_pretty rs, not_hasEmptyField_read rs, fun t path t' h => ?_⟩
  rw [readRules, readInput_of_writeOutput h]
  simp only [bind, Except.bind, readList_pretty]
  rfl

/-- A rule for some pages, and one that hides elements on all others. -/
def smallRules : List ContentRule :=
  [⟨⟨"^https?://t\\.example/", ["script", "raw"], ["*site.example"], []⟩, .ignorePreviousRules⟩,
    ⟨⟨".*", [], [], ["*site.example"]⟩, .hide "a[title=\"é\"]"⟩]

/-- The rules are written to a file in a new directory and read from it. -/
theorem exists_writeRules_smallRules :
    ∃ t, writeRules .empty "out/rules.json" smallRules = .ok t ∧
      readRules t "out/rules.json" = .ok smallRules := by
  cases hwrite : writeRules .empty "out/rules.json" smallRules with
  | error e =>
    have hok : (writeRules .empty "out/rules.json" smallRules).toBool := by decide +kernel
    rw [hwrite] at hok
    cases hok
  | ok t => exact ⟨t, rfl, (readList_listToJson smallRules).2.2 _ _ t hwrite⟩

end ContentRule

end Blocklist
