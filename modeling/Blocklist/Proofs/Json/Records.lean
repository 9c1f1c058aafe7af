import Blocklist.Json.Decoding
import Blocklist.Proofs.Json.Layout
import Blocklist.Proofs.TextMap
import Mathlib.Data.List.Basic
import Mathlib.Data.List.Nodup

/-! # Taking records out of written values

An object that gives the fields of a record in order, each by one of its names or not at all, is
taken as that record. Lists and maps are taken element by element. -/

namespace Blocklist.Json

/-! ## Names of fields -/

/-- The keys that a field goes by. -/
def Field.keys (f : Field σ) : List String :=
  f.name :: f.alias?.toList

theorem Field.mem_keys_iff {f : Field σ} {key : String} : key ∈ f.keys ↔ f.answersTo key := by
  cases halias : f.alias? with
  | none => simp [keys, answersTo, halias]
  | some other => simp [keys, answersTo, halias, @eq_comm _ other key]

theorem Field.name_mem_keys (f : Field σ) : f.name ∈ f.keys :=
  List.mem_cons_self

/-- No two fields of a record go by one key. -/
def Shape.IsUnambiguous (s : Shape σ) : Prop :=
  (s.fields.flatMap Field.keys).Nodup

instance (s : Shape σ) : Decidable s.IsUnambiguous :=
  inferInstanceAs (Decidable (List.Nodup _))

variable {s : Shape σ} {f : Field σ} {front back : List (Field σ)} {key : String}

theorem Shape.IsUnambiguous.find? (hs : s.IsUnambiguous) (hfields : s.fields = front ++ f :: back)
    (hkey : key ∈ f.keys) : s.fields.find? (·.answersTo key) = some f := by
  rw [IsUnambiguous, hfields, List.flatMap_append, List.nodup_append] at hs
  obtain ⟨-, -, hdisjoint⟩ := hs
  have hfront : ∀ g ∈ front, ¬g.answersTo key := by
    intro g hg hanswers
    have hmem : key ∈ (f :: back).flatMap Field.keys := List.mem_flatMap.mpr ⟨f, by simp, hkey⟩
    exact hdisjoint key (List.mem_flatMap.mpr ⟨g, hg, Field.mem_keys_iff.mpr hanswers⟩) key hmem rfl
  have hnone : front.find? (·.answersTo key) = none := by
    simpa [List.find?_eq_none] using hfront
  rw [hfields, List.find?_append, hnone, Option.none_or]
  exact List.find?_cons_of_pos (Field.mem_keys_iff.mp hkey)

theorem Shape.IsUnambiguous.name_notMem (hs : s.IsUnambiguous)
    (hfields : s.fields = front ++ f :: back) : f.name ∉ front.map Field.name := by
  rw [IsUnambiguous, hfields, List.flatMap_append, List.nodup_append] at hs
  obtain ⟨-, -, hdisjoint⟩ := hs
  intro hmem
  obtain ⟨g, hg, hname⟩ := List.mem_map.mp hmem
  exact hdisjoint g.name (List.mem_flatMap.mpr ⟨g, hg, g.name_mem_keys⟩) f.name
    (List.mem_flatMap.mpr ⟨f, by simp, f.name_mem_keys⟩) hname

/-! ## Objects -/

/-- Members that give some fields in order, each by one of its keys or not at all, and lead from one
record to another. -/
inductive Gives : List (Field σ) → List (String × Value) → σ → σ → Prop where
  | nil (x : σ) : Gives [] [] x x
  | member {f : Field σ} {fs : List (Field σ)} {key : String} {v : Value}
      {ms : List (String × Value)} {x y z : σ} (hkey : key ∈ f.keys)
      (hput : f.put v.toNode x = .ok y) (h : Gives fs ms y z) : Gives (f :: fs) ((key, v) :: ms) x z
  | omitted {f : Field σ} {fs : List (Field σ)} {ms : List (String × Value)} {x z : σ}
      (hoptional : f.isRequired = false) (h : Gives fs ms x z) : Gives (f :: fs) ms x z

/-- An optional field may be left out where it would not change the record. -/
theorem Gives.unless {f : Field σ} {fs : List (Field σ)} {key : String} {v : Value}
    {ms : List (String × Value)} {x y z : σ} {c : Bool} (hoptional : f.isRequired = false)
    (hkey : key ∈ f.keys) (hput : f.put v.toNode x = .ok y) (hsame : c → y = x)
    (h : Gives fs ms y z) : Gives (f :: fs) ((if c then [] else [(key, v)]) ++ ms) x z := by
  cases c with
  | true => exact .omitted hoptional (hsame rfl ▸ h)
  | false => exact .member hkey hput h

/-- An optional field may be left out where there is no value for it. -/
theorem Gives.elim {α : Type} {f : Field σ} {fs : List (Field σ)} {key : String} {form : α → Value}
    {ms : List (String × Value)} {x z : σ} {o : Option α} (put : Option α → σ)
    (hoptional : f.isRequired = false) (hkey : key ∈ f.keys)
    (hput : ∀ a, f.put (form a).toNode x = .ok (put (some a))) (hnone : put none = x)
    (h : Gives fs ms (put o) z) :
    Gives (f :: fs) ((o.elim [] fun a => [(key, form a)]) ++ ms) x z := by
  cases o with
  | none => exact .omitted hoptional (hnone ▸ h)
  | some a => exact .member hkey (hput a) h

/-- What a field puts into a record, if its value is taken. -/
theorem put_eq {α : Type} {n : Except Error α} {a : α} (h : n = .ok a) (put : α → σ) :
    (do return put (← n)) = Except.ok (put a) := by
  rw [h]
  rfl

theorem fold_toMembers_cons {step : τ → String → Node → Except Error τ} (t : τ) (key : String)
    (v : Value) (ms : List (String × Value)) :
    (toMembers ((key, v) :: ms)).fold step t =
      (step t key v.toNode).bind fun t => (toMembers ms).fold step t := by
  rw [toMembers, Members.fold]
  rfl

theorem putMember_eq (hs : s.IsUnambiguous) (hfields : s.fields = front ++ f :: back)
    (hkey : key ∈ f.keys) {filled : List String} (hfresh : f.name ∉ filled) {v : Node} {x y : σ}
    (hput : f.put v x = .ok y) :
    s.putMember ⟨filled, x⟩ key v = .ok ⟨f.name :: filled, y⟩ := by
  rw [Shape.putMember, hs.find? hfields hkey]
  simp only [List.contains_iff_mem, hfresh, if_false, hput]
  rfl

theorem fold_putMember_of_gives (hs : s.IsUnambiguous) {fs : List (Field σ)}
    {ms : List (String × Value)} {x z : σ} (h : Gives fs ms x z) (front : List (Field σ))
    (hfields : s.fields = front ++ fs) (filled : List String)
    (hfilled : ∀ name ∈ filled, name ∈ front.map Field.name) :
    ∃ added, (∀ f ∈ fs, f.isRequired → f.name ∈ added) ∧
      (toMembers ms).fold s.putMember ⟨filled, x⟩ = .ok ⟨added ++ filled, z⟩ := by
  induction h generalizing front filled with
  | nil x => exact ⟨[], by simp, rfl⟩
  | @member f fs key v ms x y z hkey hput h ih =>
    have hfresh : f.name ∉ filled := fun hmem => hs.name_notMem hfields (hfilled f.name hmem)
    obtain ⟨added, hrequired, hfold⟩ := ih (front ++ [f]) (by simp [hfields]) (f.name :: filled) (by
      intro name hname
      rcases List.mem_cons.mp hname with rfl | hname
      · simp
      · simpa using .inl (by simpa using hfilled name hname))
    refine ⟨added ++ [f.name], ?_, ?_⟩
    · intro g hg hg'
      rcases List.mem_cons.mp hg with rfl | hg
      · simp
      · exact List.mem_append_left _ (hrequired g hg hg')
    · rw [fold_toMembers_cons, putMember_eq hs hfields hkey hfresh hput, List.append_assoc]
      exact hfold
  | @omitted f fs ms x z hoptional h ih =>
    obtain ⟨added, hrequired, hfold⟩ := ih (front ++ [f]) (by simp [hfields]) filled (by
      intro name hname
      simpa using .inl (by simpa using hfilled name hname))
    refine ⟨added, ?_, hfold⟩
    intro g hg hg'
    rcases List.mem_cons.mp hg with rfl | hg
    · rw [hoptional] at hg'
      cases hg'
    · exact hrequired g hg hg'

/-- An object that gives the fields of a record in order is taken as the record. -/
theorem take_of_gives (hs : s.IsUnambiguous) {ms : List (String × Value)} {x : σ}
    (h : Gives s.fields ms s.blank x) : s.take (Value.object ms).toNode = .ok x := by
  obtain ⟨added, hrequired, hfold⟩ := fold_putMember_of_gives hs h [] rfl [] (by simp)
  have hnone : s.fields.find? (fun f => f.isRequired && !(added ++ []).contains f.name) = none := by
    rw [List.find?_eq_none]
    intro f hf
    simpa using hrequired f hf
  rw [Value.toNode, Shape.take, hfold]
  simp only [bind, Except.bind, hnone, pure, Except.pure]

/-! ## Lists and maps -/

theorem toList_toElements {take : Node → Except Error α} {xs : List α} {vs : List Value}
    (h : List.Forall₂ (fun x v => take v.toNode = .ok x) xs vs) :
    (toElements vs).toList take = .ok xs := by
  induction h with
  | nil => rfl
  | cons hv _ ih =>
    rw [toElements, Elements.toList, hv, ih]
    rfl

theorem asList_array {take : Node → Except Error α} {xs : List α} {vs : List Value}
    (h : List.Forall₂ (fun x v => take v.toNode = .ok x) xs vs) :
    (Value.array vs).toNode.asList take = .ok xs := by
  rw [Value.toNode]
  exact toList_toElements h

theorem asString_string (t : String) : (Value.string t).toNode.asString = .ok t := by
  rw [Value.toNode]
  rfl

/-- A list of texts is taken as it was written. -/
theorem asList_strings (ts : List String) :
    (Value.strings ts).toNode.asList Node.asString = .ok ts := by
  refine asList_array ?_
  induction ts with
  | nil => exact .nil
  | cons t ts ih => exact .cons (asString_string t) ih

theorem fold_insert {take : Node → Except Error α} {es : List (String × α)}
    {ms : List (String × Value)}
    (h : List.Forall₂ (fun e w => w.1 = e.1 ∧ take w.2.toNode = .ok e.2) es ms) (m : TextMap α) :
    (toMembers ms).fold (fun m key value => do return m.insert key (← take value)) m =
      .ok (es.foldl (fun m e => m.insert e.1 e.2) m) := by
  induction h generalizing m with
  | nil => rfl
  | @cons e w es ms hw _ ih =>
    obtain ⟨hkey, hvalue⟩ := hw
    rw [fold_toMembers_cons, hvalue, hkey]
    exact ih (m.insert e.1 e.2)

/-- A written map is taken as the map. -/
theorem asMap_object {take : Node → Except Error α} {m : TextMap α} {ms : List (String × Value)}
    (h : List.Forall₂ (fun e w => w.1 = e.1 ∧ take w.2.toNode = .ok e.2) m.entries ms) :
    (Value.object ms).toNode.asMap take = .ok m := by
  rw [Value.toNode, Node.asMap, fold_insert h]
  exact congrArg Except.ok (TextMap.ofList_entries m)

theorem asReal_real (x : Binary64) : (Value.real x).toNode.asReal = .ok x.reread := by
  rw [Value.toNode]
  rfl

/-! ## Whole texts -/

/-- A value that has been written is taken out of its text as out of its tree. -/
theorem decode_pretty (take : Node → Except Error α) (v : Value) :
    decode take v.pretty = take v.toNode := by
  rw [decode, read_pretty]
  cases take v.toNode <;> rfl

end Blocklist.Json
