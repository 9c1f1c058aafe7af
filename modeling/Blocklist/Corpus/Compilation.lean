import Blocklist.ContentRule.Compile
import Blocklist.Corpus.TrackerCatalog
/-!
Compiling a corpus: a directory of trackers and one of entities.
-/

namespace Blocklist

/-- What a corpus is compiled to. -/
structure Compilation where
  dataset : Dataset
  /-- The rules, without duplicates. -/
  rules : List ContentRule
  entityReport : LoadReport
  trackerReport : LoadReport
  stats : ContentRule.OptimizeStats

def compileCorpus [Pattern.SizeLimit] (t : FileTree) (trackersPath entitiesPath : String)
    (options : CompileOptions) : Except LoadError Compilation := do
  let registry ← EntityRegistry.load t entitiesPath
  let catalog ← TrackerCatalog.load t trackersPath registry
  let dataset := catalog.dataset
  let rules := ContentRule.compile dataset options
  return {
    dataset
    rules := ContentRule.optimize rules
    entityReport := registry.report
    trackerReport := catalog.report
    stats := ContentRule.optimizeStats rules }

end Blocklist
