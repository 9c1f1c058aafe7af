import Blocklist.Dataset
import Blocklist.Proofs.Tracker.Json

/-! # Datasets in JSON

Reading the text of a dataset gives back its trackers and its entities, whichever of their names the
fields go by. Only the prevalences may be rounded. -/

namespace Blocklist

open Json (Value)

/-! ## Entities -/

namespace Entity

/-- An entity as JSON, with either key for its display name and its domains. -/
def IsSpelledAs (e : Entity) (v : Value) : Prop :=
  ∃ displayName ∈ ["display_name", "displayName"], ∃ domains ∈ ["domains", "properties"],
    v = .object [
      ("name", .string e.name),
      (displayName, .string e.displayName),
      (domains, .strings e.domains.toList),
      ("prevalence", .real e.prevalence)]

theorem isSpelledAs_toJson (e : Entity) : e.IsSpelledAs e.toJson :=
  ⟨"display_name", by decide, "domains", by decide, rfl⟩

/-- An entity is read as it was written, up to its prevalence. -/
theorem take_of_isSpelledAs {e : Entity} {v : Value} (h : e.IsSpelledAs v) :
    shape.take v.toNode = .ok { e with prevalence := e.prevalence.reread } := by
  obtain ⟨displayName, hdisplayName, domains, hdomains, rfl⟩ := h
  refine Json.take_of_gives (by decide) ?_
  refine .member (by decide) (Json.put_eq (Json.asString_string e.name) _) ?_
  refine .member hdisplayName (Json.put_eq (Json.asString_string e.displayName) _) ?_
  refine .member hdomains (Json.put_eq (takeTextSet_strings e.domains) _) ?_
  exact .member (by decide) (Json.put_eq (Json.asReal_real e.prevalence) _) (.nil _)

end Entity

/-! ## Datasets -/

namespace Dataset

/-- A dataset as JSON, with any of the keys and forms for each of its trackers and entities. -/
def IsSpelledAs (d : Dataset) (v : Value) : Prop :=
  ∃ trackers entities,
    List.Forall₂ (fun e w => w.1 = e.1 ∧ e.2.IsSpelledAs w.2) d.trackers.entries trackers ∧
    List.Forall₂ Entity.IsSpelledAs d.entities.values entities ∧
      v = .object [("trackers", .object trackers), ("entities", .array entities)]

/-- The trackers and the entities of a dataset in order, each with its prevalence as it is read once
it has been written. -/
def reread (d : Dataset) : Records :=
  ⟨d.trackers.map fun _ t => { t with prevalence := t.prevalence.reread },
    d.entities.values.map fun e => { e with prevalence := e.prevalence.reread }⟩

theorem isSpelledAs_toJson (d : Dataset) : d.IsSpelledAs d.toJson := by
  refine ⟨_, _, ?_, ?_, rfl⟩
  · rw [List.forall₂_map_right_iff]
    exact List.forall₂_same.mpr fun e _ => ⟨rfl, e.2.isSpelledAs_toJson⟩
  · rw [List.forall₂_map_right_iff]
    exact List.forall₂_same.mpr fun e _ => e.isSpelledAs_toJson

theorem takeTrackers_of_isSpelledAs {m : TextMap Tracker} {ms : List (String × Value)}
    (h : List.Forall₂ (fun e w => w.1 = e.1 ∧ e.2.IsSpelledAs w.2) m.entries ms) :
    (Value.object ms).toNode.asMap (Tracker.shape (Json.maxDepth - 3)).take =
      .ok (m.map fun _ t => { t with prevalence := t.prevalence.reread }) := by
  refine Json.asMap_object ?_
  rw [TextMap.map, List.forall₂_map_left_iff]
  exact h.imp fun e w hw => ⟨hw.1, Tracker.take_of_isSpelledAs (by decide) hw.2⟩

theorem takeEntities_of_isSpelledAs {es : List Entity} {vs : List Value}
    (h : List.Forall₂ Entity.IsSpelledAs es vs) :
    (Value.array vs).toNode.asList Entity.shape.take =
      .ok (es.map fun e => { e with prevalence := e.prevalence.reread }) := by
  refine Json.asList_array ?_
  rw [List.forall₂_map_left_iff]
  exact h.imp fun e v hv => Entity.take_of_isSpelledAs hv

theorem take_of_isSpelledAs {d : Dataset} {v : Value} (h : d.IsSpelledAs v) :
    shape.take v.toNode = .ok d.reread := by
  obtain ⟨trackers, entities, htrackers, hentities, rfl⟩ := h
  refine Json.take_of_gives (by decide) ?_
  refine .member (by decide) (Json.put_eq (takeTrackers_of_isSpelledAs htrackers) _) ?_
  exact .member (by decide) (Json.put_eq (takeEntities_of_isSpelledAs hentities) _) (.nil _)

/-- The text of a dataset is read as its trackers and entities, and so is every text that spells a
key by another of its names or gives an owner in another form. -/
theorem decode_toText (d : Dataset) :
    Json.decode shape.take d.toText = .ok d.reread ∧
      ∀ v, d.IsSpelledAs v → Json.decode shape.take v.pretty = .ok d.reread := by
  have hdecode : ∀ v, d.IsSpelledAs v → Json.decode shape.take v.pretty = .ok d.reread := by
    intro v hv
    rw [Json.decode_pretty]
    exact take_of_isSpelledAs hv
  exact ⟨hdecode d.toJson d.isSpelledAs_toJson, hdecode⟩

/-- A dataset with one tracker and its owner. -/
def smallDataset : Dataset :=
  .ofMaps
    (.ofList [("ads.com", {
      domain := "ads.com"
      owner := some "Ads"
      action := .ignore
      rules := [{
        pattern := "/a\\.js"
        action := .block
        types := .single .script
        domains := .ofList ["news.com"]
        options := ⟨false⟩
        exceptions := ⟨.empty, .single .image⟩ }]
      prevalence := .zero })])
    (.ofList [("Ads", .named "Ads" ["ads.com"])])

/-- The dataset with the second name of every field that has one, and its owner as a record. -/
def smallDatasetSpelled : Value :=
  .object [
    ("trackers", .object [("ads.com", .object [
      ("domain", .string "ads.com"),
      ("owner", .object [("name", .string "Ads")]),
      ("default", .string "ignore"),
      ("rules", .array [.object [
        ("rule", .string "/a\\.js"),
        ("action", .string "block"),
        ("types", .strings ["script"]),
        ("domains", .strings ["news.com"]),
        ("options", .object [("subdomain_match", .bool false)]),
        ("exceptions", .object [("types", .strings ["image"])])]]),
      ("prevalence", .real .zero)])]),
    ("entities", .array [.object [
      ("name", .string "Ads"),
      ("displayName", .string "Ads"),
      ("properties", .strings ["ads.com"]),
      ("prevalence", .real .zero)]])]

theorem isSpelledAs_smallDatasetSpelled : smallDataset.IsSpelledAs smallDatasetSpelled := by
  refine ⟨_, _, .cons ⟨rfl, ?_⟩ .nil, .cons ?_ .nil, rfl⟩
  · refine ⟨"owner", by decide, fun name => .object [("name", .string name)], .tail _ (.head _),
      "default", by decide, _, .cons ?_ .nil, rfl⟩
    exact ⟨"rule", by decide, "types", by decide, "domains", by decide, _,
      ⟨"types", by decide, rfl⟩, rfl⟩
  · exact ⟨"displayName", by decide, "properties", by decide, rfl⟩

theorem decode_smallDatasetSpelled :
    smallDataset.IsSpelledAs smallDatasetSpelled ∧
      Json.decode shape.take smallDatasetSpelled.pretty = .ok smallDataset.reread :=
  ⟨isSpelledAs_smallDatasetSpelled,
    (decode_toText smallDataset).2 smallDatasetSpelled isSpelledAs_smallDatasetSpelled⟩

end Dataset

end Blocklist
