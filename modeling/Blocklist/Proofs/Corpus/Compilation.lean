import Blocklist.Corpus.Compilation
import Blocklist.Pattern.Estimate
import Blocklist.Proofs.Corpus.TrackerCatalog

/-! # Compiling a corpus

What a corpus is compiled to is settled by its valid descriptor files: of those with one key the
file with the greatest path counts. Files that fail are reported and change nothing else. Main
statement: `compileCorpus_of_sameValidFiles`. -/

namespace Blocklist

open FileTree (IsFileBelow)

variable {t t' : FileTree} {trackersPath entitiesPath : String} {options : CompileOptions}
  {c c' : Compilation}

/-- Whether there is a file or a directory to go through at a path. -/
def FileTree.isEnumerable (t : FileTree) (path : String) : Bool :=
  (t.filesBelow? (.ofText path)).isSome

/-! ## Files in two trees -/

theorem readDescriptor_congr {file : Path} (h : t.entry? file = t'.entry? file)
    (hfile : t.isFile file) {α : Type} (read : String → Except Json.Error α) :
    readDescriptor t read file = readDescriptor t' read file := by
  have hbytes : t.readBytes file = t'.readBytes file := by
    unfold FileTree.readBytes
    rw [← h]
    split
    case h_4 hentry => simp [FileTree.isFile, hentry] at hfile
    all_goals rfl
  simp only [readDescriptor, FileTree.readText, hbytes]

section

variable {file : Path} (hdirectory : ∀ file, t.isDirectory file = t'.isDirectory file)
  (heq : t.entry? file = t'.entry? file)

include hdirectory heq

theorem isFileBelow_congr {dir : Path} (h : IsFileBelow t dir file) : IsFileBelow t' dir file := by
  constructor
  · have hisFile := h.isFile
    unfold FileTree.isFile at hisFile ⊢
    rwa [← heq]
  · rw [← hdirectory]
    exact h.below

theorem TrackerCatalog.isValidFile_congr [Pattern.SizeLimit] {u : Tracker}
    (h : TrackerCatalog.IsValidFile t trackersPath file u) :
    TrackerCatalog.IsValidFile t' trackersPath file u := by
  refine ⟨isFileBelow_congr hdirectory heq h.below, ?_⟩
  rw [← h.read, TrackerCatalog.readFile, TrackerCatalog.readFile,
    readDescriptor_congr heq h.below.isFile]

theorem EntityRegistry.isValidFile_congr {e : Entity}
    (h : EntityRegistry.IsValidFile t entitiesPath file e) :
    EntityRegistry.IsValidFile t' entitiesPath file e := by
  refine ⟨isFileBelow_congr hdirectory heq h.below, h.extension, ?_⟩
  rw [← h.read, EntityRegistry.readFile, EntityRegistry.readFile,
    readDescriptor_congr heq h.below.isFile]

end

/-! ## The parts of a compilation -/

section

variable [Pattern.SizeLimit]

/-- A compilation of a corpus: the parts that it is put together from. -/
structure IsCompiledFrom (t : FileTree) (trackersPath entitiesPath : String)
    (options : CompileOptions) (registry : EntityRegistry) (catalog : TrackerCatalog)
    (c : Compilation) : Prop where
  loadRegistry : EntityRegistry.load t entitiesPath = .ok registry
  loadCatalog : TrackerCatalog.load t trackersPath registry = .ok catalog
  dataset : c.dataset = catalog.dataset
  rules : c.rules = ContentRule.optimize (ContentRule.compile catalog.dataset options)
  stats : c.stats = ContentRule.optimizeStats (ContentRule.compile catalog.dataset options)
  entityReport : c.entityReport = registry.report
  trackerReport : c.trackerReport = catalog.report

/-- A corpus is compiled whenever both of its directories can be gone through. -/
theorem exists_isCompiledFrom (htrackers : t.isEnumerable trackersPath)
    (hentities : t.isEnumerable entitiesPath) (options : CompileOptions) :
    ∃ c registry catalog, compileCorpus t trackersPath entitiesPath options = .ok c ∧
      IsCompiledFrom t trackersPath entitiesPath options registry catalog c := by
  obtain ⟨trackerFiles, htrackers⟩ := Option.isSome_iff_exists.mp htrackers
  obtain ⟨entityFiles, hentities⟩ := Option.isSome_iff_exists.mp hentities
  obtain ⟨registry, hregistry⟩ : ∃ registry, EntityRegistry.load t entitiesPath = .ok registry :=
    ⟨_, EntityRegistry.load_eq_ok_iff.mpr
      ⟨_, listDescriptors_eq_ok_iff.mpr ⟨entityFiles, hentities, rfl⟩, rfl⟩⟩
  obtain ⟨catalog, hcatalog⟩ :
      ∃ catalog, TrackerCatalog.load t trackersPath registry = .ok catalog :=
    ⟨_, TrackerCatalog.load_eq_ok_iff.mpr
      ⟨_, listDescriptors_eq_ok_iff.mpr ⟨trackerFiles, htrackers, rfl⟩, rfl⟩⟩
  exact ⟨_, registry, catalog,
    bind_eq_ok_iff.mpr ⟨registry, hregistry, bind_eq_ok_iff.mpr ⟨catalog, hcatalog, rfl⟩⟩,
    hregistry, hcatalog, rfl, rfl, rfl, rfl, rfl⟩

/-! ## The files that count -/

/-- What there is in a compiled corpus comes from the valid files with the greatest paths, and the
reports list the files that fail. -/
structure IsCorpusOf (t : FileTree) (trackersPath entitiesPath : String) (c : Compilation) :
    Prop where
  trackerReport : c.trackerReport.IsReportOf (IsFileBelow t (.ofText trackersPath))
    (TrackerCatalog.readFile t)
  entityReport : c.entityReport.IsReportOf
    (fun file => IsFileBelow t (.ofText entitiesPath) file ∧ file.hasExtension "json")
    (EntityRegistry.readFile t)
  /-- The entity that the registry has for a name, and no other one, resolves owners. -/
  definition : ∀ registry, EntityRegistry.load t entitiesPath = .ok registry →
    ∀ n e, registry.entities.get? n = some e ↔
      ∃ file, IsLastFor (EntityRegistry.IsValidFile t entitiesPath) Entity.name n file e
  tracker : ∀ registry, EntityRegistry.load t entitiesPath = .ok registry →
    ∀ k v, c.dataset.tracker? k = some v ↔
      ∃ file u, IsLastFor (TrackerCatalog.IsValidFile t trackersPath) Tracker.domain k file u ∧
        (TrackerCatalog.resolveOwner registry u).normalize = .ok v
  /-- No domain of a valid file is lost. -/
  domain : ∀ file u, TrackerCatalog.IsValidFile t trackersPath file u →
    ∃ v, c.dataset.tracker? u.domain = some v
  entity : ∀ n e, c.dataset.entity? n = some e ↔
    (∃ k v, c.dataset.tracker? k = some v ∧ v.owner = some n) ∧
      ∃ file, IsLastFor (EntityRegistry.IsValidFile t entitiesPath) Entity.name n file e

theorem isCatalogOf_of_load {registry : EntityRegistry} {catalog : TrackerCatalog}
    (hregistry : EntityRegistry.load t entitiesPath = .ok registry)
    (hcatalog : TrackerCatalog.load t trackersPath registry = .ok catalog) :
    ∃ ts, TrackerCatalog.IsCatalogOf registry ts catalog := by
  obtain ⟨files, hfiles, -⟩ := TrackerCatalog.load_eq_ok_iff.mp hcatalog
  exact ⟨_, TrackerCatalog.isCatalogOf_of_isMadeOf (EntityRegistry.isSound_of_load hregistry)
    (.load hfiles hcatalog)⟩

section

variable {registry : EntityRegistry} {catalog : TrackerCatalog}

theorem IsCompiledFrom.tracker?_eq_some_iff
    (h : IsCompiledFrom t trackersPath entitiesPath options registry catalog c) {k : String}
    {v : Tracker} :
    c.dataset.tracker? k = some v ↔
      ∃ file u, IsLastFor (TrackerCatalog.IsValidFile t trackersPath) Tracker.domain k file u ∧
        (TrackerCatalog.resolveOwner registry u).normalize = .ok v := by
  obtain ⟨us, hus⟩ := TrackerCatalog.exists_isLoadedFrom_of_load h.loadCatalog
  obtain ⟨ts, hcatalog⟩ := isCatalogOf_of_load h.loadRegistry h.loadCatalog
  rw [h.dataset, hcatalog.tracker?_dataset_eq, Option.bind_eq_some_iff]
  simp only [hus.get?_trackers_eq_some_iff]
  constructor
  · intro hv
    obtain ⟨w, ⟨file, u, hlast, rfl⟩, hv⟩ := hv
    refine ⟨file, u, hlast, ?_⟩
    cases hn : (TrackerCatalog.resolveOwner registry u).normalize with
    | error e => rw [hn] at hv; cases hv
    | ok v' => rw [hn] at hv; rw [Option.some.inj hv]
  · intro hv
    obtain ⟨file, u, hlast, hv⟩ := hv
    exact ⟨_, ⟨file, u, hlast, rfl⟩, by rw [hv]; rfl⟩

theorem IsCompiledFrom.exists_tracker?
    (h : IsCompiledFrom t trackersPath entitiesPath options registry catalog c) {file : Path}
    {u : Tracker} (hu : TrackerCatalog.IsValidFile t trackersPath file u) :
    ∃ v, c.dataset.tracker? u.domain = some v := by
  obtain ⟨us, hus⟩ := TrackerCatalog.exists_isLoadedFrom_of_load h.loadCatalog
  obtain ⟨ts, hcatalog⟩ := isCatalogOf_of_load h.loadRegistry h.loadCatalog
  obtain ⟨file', u', hlast⟩ := hus.order.exists_isLastFor hus.mem_iff Tracker.domain hu
  have hget := hus.get?_trackers_eq_some_iff.mpr ⟨file', u', hlast, rfl⟩
  rw [h.dataset]
  cases hcatalog.tracker?_dataset u.domain with
  | inl hnone =>
    rw [hnone.1] at hget
    cases hget
  | inr hsome =>
    obtain ⟨-, v, -, hv, -⟩ := hsome
    exact ⟨v, hv⟩

theorem IsCompiledFrom.entity?_eq_some_iff
    (h : IsCompiledFrom t trackersPath entitiesPath options registry catalog c) {n : String}
    {e : Entity} :
    c.dataset.entity? n = some e ↔
      (∃ k v, c.dataset.tracker? k = some v ∧ v.owner = some n) ∧
        ∃ file, IsLastFor (EntityRegistry.IsValidFile t entitiesPath) Entity.name n file e := by
  obtain ⟨xs, hxs⟩ := EntityRegistry.exists_isLoadedFrom_of_load h.loadRegistry
  obtain ⟨ts, hcatalog⟩ := isCatalogOf_of_load h.loadRegistry h.loadCatalog
  have howner : Dataset.isOwner catalog.trackers n ↔
      ∃ k v, c.dataset.tracker? k = some v ∧ v.owner = some n := by
    rw [← hcatalog.isOwner_dataset, isOwner_iff, h.dataset]
    rfl
  rw [← howner, ← hxs.get?_entities_eq_some_iff, and_comm, ← hcatalog.get?_entities_eq_some_iff,
    h.dataset, Dataset.entity?, hcatalog.entities_dataset]

theorem IsCompiledFrom.isCorpusOf
    (h : IsCompiledFrom t trackersPath entitiesPath options registry catalog c) :
    IsCorpusOf t trackersPath entitiesPath c := by
  obtain ⟨xs, hxs⟩ := EntityRegistry.exists_isLoadedFrom_of_load h.loadRegistry
  obtain ⟨us, hus⟩ := TrackerCatalog.exists_isLoadedFrom_of_load h.loadCatalog
  have hregistry : ∀ {registry'}, EntityRegistry.load t entitiesPath = .ok registry' →
      registry = registry' := fun hload => Except.ok.inj (h.loadRegistry.symm.trans hload)
  constructor
  · rw [h.trackerReport]
    exact hus.isReportOf
  · rw [h.entityReport]
    exact hxs.isReportOf
  · intro registry' hload n e
    obtain rfl := hregistry hload
    exact hxs.get?_entities_eq_some_iff
  · intro registry' hload k v
    obtain rfl := hregistry hload
    exact h.tracker?_eq_some_iff
  · exact fun file u hu => h.exists_tracker? hu
  · exact fun n e => h.entity?_eq_some_iff

end

/-! ## Two runs -/

/-- Two trees with the same valid descriptor files. Files that fail may differ. -/
structure SameValidFiles (t t' : FileTree) (trackersPath entitiesPath : String) : Prop where
  trackers : ∀ file u, TrackerCatalog.IsValidFile t trackersPath file u ↔
    TrackerCatalog.IsValidFile t' trackersPath file u
  entities : ∀ file e, EntityRegistry.IsValidFile t entitiesPath file e ↔
    EntityRegistry.IsValidFile t' entitiesPath file e

/-- A path at which there is no valid descriptor file. -/
structure FailsAt (t : FileTree) (trackersPath entitiesPath : String) (file : Path) : Prop where
  tracker : ∀ u, ¬ TrackerCatalog.IsValidFile t trackersPath file u
  entity : ∀ e, ¬ EntityRegistry.IsValidFile t entitiesPath file e

/-- Trees that differ only where both have no valid file have the same valid files. -/
theorem sameValidFiles_of_failsAt
    (hdirectory : ∀ file, t.isDirectory file = t'.isDirectory file)
    (h : ∀ file, t.entry? file = t'.entry? file ∨
      FailsAt t trackersPath entitiesPath file ∧ FailsAt t' trackersPath entitiesPath file) :
    SameValidFiles t t' trackersPath entitiesPath := by
  have hdirectory' : ∀ file, t'.isDirectory file = t.isDirectory file := fun file =>
    (hdirectory file).symm
  constructor
  · intro file u
    cases h file with
    | inl heq =>
      exact ⟨TrackerCatalog.isValidFile_congr hdirectory heq,
        TrackerCatalog.isValidFile_congr hdirectory' heq.symm⟩
    | inr hfails => exact iff_of_false (hfails.1.tracker u) (hfails.2.tracker u)
  · intro file e
    cases h file with
    | inl heq =>
      exact ⟨EntityRegistry.isValidFile_congr hdirectory heq,
        EntityRegistry.isValidFile_congr hdirectory' heq.symm⟩
    | inr hfails => exact iff_of_false (hfails.1.entity e) (hfails.2.entity e)

/-- The same compilation but for the files that fail. -/
structure Compilation.SameOutput (c c' : Compilation) : Prop where
  dataset : c.dataset = c'.dataset
  rules : c.rules = c'.rules
  stats : c.stats = c'.stats
  entitiesLoaded : c.entityReport.loaded = c'.entityReport.loaded
  trackersLoaded : c.trackerReport.loaded = c'.trackerReport.loaded

theorem IsCompiledFrom.sameOutput {registry registry' : EntityRegistry}
    {catalog catalog' : TrackerCatalog}
    (h : IsCompiledFrom t trackersPath entitiesPath options registry catalog c)
    (h' : IsCompiledFrom t' trackersPath entitiesPath options registry' catalog' c')
    (hsame : SameValidFiles t t' trackersPath entitiesPath) : c.SameOutput c' := by
  obtain ⟨xs, hxs⟩ := EntityRegistry.exists_isLoadedFrom_of_load h.loadRegistry
  obtain ⟨us, hus⟩ := TrackerCatalog.exists_isLoadedFrom_of_load h.loadCatalog
  obtain ⟨xs', hxs'⟩ := EntityRegistry.exists_isLoadedFrom_of_load h'.loadRegistry
  obtain ⟨us', hus'⟩ := TrackerCatalog.exists_isLoadedFrom_of_load h'.loadCatalog
  obtain rfl : xs = xs' := by
    apply hxs.order.eq_of_mem_iff hxs'.order
    intro x
    rw [hxs.mem_iff, hxs'.mem_iff, hsame.entities]
  obtain rfl : us = us' := by
    apply hus.order.eq_of_mem_iff hus'.order
    intro u
    rw [hus.mem_iff, hus'.mem_iff, hsame.trackers]
  have hfind : registry.find? = registry'.find? := EntityRegistry.find?_congr
    (hxs.entities.trans hxs'.entities.symm) (hxs.names.trans hxs'.names.symm)
  have hdataset : catalog.dataset = catalog'.dataset := by
    rw [hus.eq, hus'.eq, TrackerCatalog.ofValid_congr hfind]
    rfl
  constructor
  · rw [h.dataset, h'.dataset, hdataset]
  · rw [h.rules, h'.rules, hdataset]
  · rw [h.stats, h'.stats, hdataset]
  · rw [h.entityReport, h'.entityReport, hxs.loaded, hxs'.loaded]
  · rw [h.trackerReport, h'.trackerReport, hus.loaded, hus'.loaded]

/-- What a corpus is compiled to depends on its valid files alone, and of those with one key on the
one with the greatest path. -/
theorem compileCorpus_of_sameValidFiles (options : CompileOptions)
    (htrackers : t.isEnumerable trackersPath ∧ t'.isEnumerable trackersPath)
    (hentities : t.isEnumerable entitiesPath ∧ t'.isEnumerable entitiesPath)
    (hsame : SameValidFiles t t' trackersPath entitiesPath) :
    ∃ c c', compileCorpus t trackersPath entitiesPath options = .ok c ∧
      compileCorpus t' trackersPath entitiesPath options = .ok c' ∧ c.SameOutput c' ∧
      IsCorpusOf t trackersPath entitiesPath c ∧ IsCorpusOf t' trackersPath entitiesPath c' := by
  obtain ⟨c, registry, catalog, hrun, hc⟩ :=
    exists_isCompiledFrom htrackers.1 hentities.1 options
  obtain ⟨c', registry', catalog', hrun', hc'⟩ :=
    exists_isCompiledFrom htrackers.2 hentities.2 options
  exact ⟨c, c', hrun, hrun', hc.sameOutput hc' hsame, hc.isCorpusOf, hc'.isCorpusOf⟩

/-- A corpus of a tracker and its owner. -/
def smallCorpus : FileTree :=
  (FileTree.empty.place ["trackers", "t.json"]
    (.file "\x7b\"domain\": \"t.example\", \"owner\": \"T Co\"\x7d".toUTF8.toList)).place
    ["entities", "T Co.json"] (.file "\x7b\"name\": \"T Co\"\x7d".toUTF8.toList)

/-- The corpus with a file that is not well-formed. -/
def smallCorpusWithBrokenFile : FileTree :=
  smallCorpus.put ["trackers", "u.json"] (.file "\x7b".toUTF8.toList)

end

open scoped Pattern.Estimate

theorem sameValidFiles_smallCorpus :
    SameValidFiles smallCorpus smallCorpusWithBrokenFile "trackers" "entities" := by
  have hentry : ∀ file, file ≠ ["trackers", "u.json"] →
      smallCorpus.entry? file = smallCorpusWithBrokenFile.entry? file := fun file hfile =>
    (FileTree.entry?_put_of_ne _ _ hfile).symm
  have hread : (TrackerCatalog.readFile smallCorpusWithBrokenFile
      ["trackers", "u.json"]).toOption = none := by
    decide +kernel
  have hbelow : ¬ (Path.ofText "entities" <+: ["trackers", "u.json"]) := by decide
  apply sameValidFiles_of_failsAt
  · intro file
    by_cases hfile : file = ["trackers", "u.json"]
    · rw [hfile]
      decide +kernel
    · rw [FileTree.isDirectory, FileTree.isDirectory, hentry file hfile]
  · intro file
    by_cases hfile : file = ["trackers", "u.json"]
    · rw [hfile]
      right
      constructor
      · exact ⟨fun u hu => absurd hu.below.isFile (by decide),
          fun e he => absurd he.below.isFile (by decide)⟩
      · constructor
        · intro u hu
          rw [hu.read] at hread
          cases hread
        · intro e he
          cases he.below.below with
          | inl heq => exact absurd heq (by decide)
          | inr hprefix => exact hbelow hprefix.2
    · exact .inl (hentry file hfile)

/-- A broken file does not change what the small corpus is compiled to. -/
theorem compileCorpus_smallCorpus :
    ∃ c c', compileCorpus smallCorpus "trackers" "entities" ⟨[], []⟩ = .ok c ∧
      compileCorpus smallCorpusWithBrokenFile "trackers" "entities" ⟨[], []⟩ = .ok c' ∧
      c.SameOutput c' ∧ IsCorpusOf smallCorpus "trackers" "entities" c ∧
      IsCorpusOf smallCorpusWithBrokenFile "trackers" "entities" c' :=
  compileCorpus_of_sameValidFiles ⟨[], []⟩ ⟨by decide +kernel, by decide +kernel⟩
    ⟨by decide +kernel, by decide +kernel⟩ sameValidFiles_smallCorpus

end Blocklist
