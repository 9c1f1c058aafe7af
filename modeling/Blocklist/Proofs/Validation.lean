import Blocklist.Pattern.Estimate
import Blocklist.Proofs.Csv
import Blocklist.Proofs.FileTree
import Blocklist.Validation
import Mathlib.Data.List.Count
import Mathlib.Data.List.Induction
import Mathlib.Data.List.ReduceOption

/-! # What the check of a table reports

Each row of a table comes to one outcome, which only the row and the detector determine. A count is
the number of the rows with its outcome, and the table for mismatches has the rows with three of
them, in their order. Compiled rules and the table for mismatches change no count but their own.
Main statement: `isReportOf_run`. -/

namespace Blocklist.Validation

/-! ## Outcomes -/

/-- What a row comes to. -/
inductive Outcome where
  /-- The row cannot be read or checked. -/
  | bad
  | notFound
  | incorrectlyIgnored
  | incorrectlyBlocked
  | badExpectation
  | passed
deriving DecidableEq, Repr

/-- Whether rows with the outcome are written to the table for mismatches. -/
def Outcome.isMismatch : Outcome → Bool
  | notFound | incorrectlyIgnored | incorrectlyBlocked => true
  | bad | badExpectation | passed => false

def Verdict.outcome : Verdict → Outcome
  | .notFound => .notFound
  | .badExpectation => .badExpectation
  | .passed => .passed
  | .failed .block _ => .incorrectlyIgnored
  | .failed .ignore _ => .incorrectlyBlocked

theorem Verdict.outcome_ne_bad (v : Verdict) : v.outcome ≠ .bad := by
  rcases v with _ | _ | _ | ⟨_ | _, _⟩ <;> simp [outcome]

/-- The outcome of a row that has been checked. -/
def outcomeOf : Option Checked → Outcome
  | none => .bad
  | some c => c.verdict.outcome

/-! ## Counting -/

namespace Counts

def number (c : Counts) : Outcome → Nat
  | .bad => c.badRows
  | .notFound => c.notFound
  | .incorrectlyIgnored => c.incorrectlyIgnored
  | .incorrectlyBlocked => c.incorrectlyBlocked
  | .badExpectation => c.badExpectedAction
  | .passed => c.passed

/-- One more row adds one to the count of its outcome. -/
theorem number_add (c : Counts) (row : Option Checked) (o : Outcome) :
    (c.add row).number o = c.number o + if outcomeOf row = o then 1 else 0 := by
  rcases row with _ | ⟨r, _ | _ | _ | ⟨_ | _, _⟩, disagrees⟩ <;> cases o <;> rfl

theorem rows_add (c : Counts) (row : Option Checked) : (c.add row).rows = c.rows + 1 := by
  rcases row with _ | ⟨r, _ | _ | _ | ⟨_ | _, _⟩, disagrees⟩ <;> rfl

theorem disagreements_add (c : Counts) (row : Option Checked) :
    (c.add row).disagreements =
      c.disagreements.map (· + if row.any Checked.disagrees then 1 else 0) := by
  rcases row with _ | ⟨r, _ | _ | _ | ⟨_ | _, _⟩, _ | _⟩ <;> simp [add]

/-- Counts of as many rows with as many of each outcome differ in the disagreements only. -/
theorem eq_of_number {c c' : Counts} (hrows : c.rows = c'.rows)
    (hnumber : ∀ o, c.number o = c'.number o)
    (hdisagreements : c.disagreements = c'.disagreements) : c = c' := by
  have hbad := hnumber .bad
  have hnotFound := hnumber .notFound
  have hignored := hnumber .incorrectlyIgnored
  have hblocked := hnumber .incorrectlyBlocked
  have hexpectation := hnumber .badExpectation
  have hpassed := hnumber .passed
  cases c
  cases c'
  simp_all [number]

theorem number_withoutRules (c : Counts) (o : Outcome) :
    number { c with disagreements := none } o = c.number o := by
  cases o <;> rfl

end Counts

theorem rows_count (withRules : Bool) (rows : List (Option Checked)) :
    (count withRules rows).rows = rows.length := by
  induction rows using List.reverseRecOn with
  | nil => rfl
  | append_singleton rows row ih =>
    rw [count, List.foldl_concat, Counts.rows_add, ← count, ih, List.length_append,
      List.length_singleton]

theorem disagreements_count (withRules : Bool) (rows : List (Option Checked)) :
    (count withRules rows).disagreements =
      if withRules then some ((rows.filterMap id).countP Checked.disagrees) else none := by
  induction rows using List.reverseRecOn with
  | nil => rfl
  | append_singleton rows row ih =>
    rw [count, List.foldl_concat, Counts.disagreements_add, ← count, ih, List.filterMap_append,
      List.countP_append]
    cases row <;> cases withRules <;> simp [List.countP_singleton]

theorem number_count (withRules : Bool) (rows : List (Option Checked)) (o : Outcome) :
    (count withRules rows).number o = (rows.map outcomeOf).count o := by
  induction rows using List.reverseRecOn with
  | nil => cases o <;> rfl
  | append_singleton rows row ih =>
    rw [count, List.foldl_concat, Counts.number_add, ← count, ih, List.map_append,
      List.count_append, List.map_singleton, List.count_singleton]
    simp

/-- Each row has one of the outcomes. -/
theorem length_eq_sum_count (os : List Outcome) :
    os.length = os.count .bad + os.count .notFound + os.count .incorrectlyIgnored +
      os.count .incorrectlyBlocked + os.count .badExpectation + os.count .passed := by
  induction os with
  | nil => rfl
  | cons o os ih =>
    cases o <;> simp [ih] <;> omega

theorem countP_isMismatch (os : List Outcome) :
    os.countP Outcome.isMismatch =
      os.count .notFound + os.count .incorrectlyIgnored + os.count .incorrectlyBlocked := by
  induction os with
  | nil => rfl
  | cons o os ih =>
    rw [List.countP_cons, ih]
    cases o <;> simp [Outcome.isMismatch] <;> omega

section

variable [Pattern.SizeLimit]

/-! ## Rows -/

def Row.isCheckable (r : Row) : Bool :=
  (Url.normalize? r.resourceUrl).isSome

/-- What a row comes to with a detector. A row that cannot be read is absent. -/
def outcome (d : Detector) : Option Row → Outcome
  | none => .bad
  | some r =>
    if r.isCheckable then
      match d.classify r.request, r.expected? with
      | none, _ => .notFound
      | some _, none => .badExpectation
      | some c, some expected =>
        if expected = c.action then .passed
        else
          match expected with
          | .block => .incorrectlyIgnored
          | .ignore => .incorrectlyBlocked
    else .bad

/-- What is written about a row that is not decided as expected. -/
def report (d : Detector) (r : Row) : List String :=
  [r.resourceUrl, r.pageUrl, r.resourceType, r.expectedAction] ++
    match d.classify r.request with
    | none => ["none", "", "not_found"]
    | some c => [c.action.name, c.trackerDomain, reasonName c.reason]

/-- The rows of the table in a file. A directory has none. -/
def rowsAt (t : FileTree) (input : String) : List (Option Row) :=
  readRows ((t.readBytes (.ofText input)).toOption.getD [])

/-- The rows that can be read and checked. -/
def checkable (rows : List (Option Row)) : List Row :=
  rows.reduceOption.filter Row.isCheckable

/-- The rows that are not decided as expected, in their order. -/
def mismatching (d : Detector) (rows : List (Option Row)) : List Row :=
  (checkable rows).filter fun r => (outcome d (some r)).isMismatch

/-- The records of the table for mismatches. There is a header if there is a mismatch. -/
def reportTable (d : Detector) (rows : List (Option Row)) : List (List String) :=
  match (mismatching d rows).map (report d) with
  | [] => []
  | records => mismatchHeader :: records

/-! ## Rows that are checked -/

/-- The rows of a table after they have been checked. What cannot be read or checked is absent. -/
def checkRows (d : Detector) (matchers : Option (List Matcher)) (rows : List (Option Row)) :
    List (Option Checked) :=
  rows.map (·.bind (check d matchers))

variable {d : Detector} {matchers : Option (List Matcher)} {rows : List (Option Row)}

/-- A row after it has been checked. -/
def checked (d : Detector) (matchers : Option (List Matcher)) (r : Row) : Checked :=
  ⟨r, judge r (d.classify r.request),
    matchers.any fun ms => disagrees ms r.request (d.classify r.request)⟩

theorem check_eq (r : Row) :
    check d matchers r = if r.isCheckable then some (checked d matchers r) else none := by
  cases hurl : Url.normalize? r.resourceUrl with
  | none => simp [check, Row.isCheckable, hurl]
  | some url => simp [check, Row.isCheckable, hurl, checked]

theorem filterMap_checkRows :
    (checkRows d matchers rows).filterMap id = (checkable rows).map (checked d matchers) := by
  unfold checkRows checkable
  induction rows with
  | nil => rfl
  | cons row rows ih =>
    cases row with
    | none => simpa using ih
    | some r =>
      cases hr : r.isCheckable with
      | true => simpa [check_eq, hr, List.reduceOption_cons_of_some] using ih
      | false => simpa [check_eq, hr, List.reduceOption_cons_of_some] using ih

theorem outcome_judge {r : Row} (hr : r.isCheckable) :
    (judge r (d.classify r.request)).outcome = outcome d (some r) := by
  rw [outcome, if_pos hr]
  cases d.classify r.request with
  | none => rfl
  | some c =>
    unfold judge
    cases r.expected? with
    | none => rfl
    | some expected =>
      by_cases hpass : expected = c.action
      · simp [hpass, Verdict.outcome]
      · cases expected <;> simp [hpass, Verdict.outcome]

theorem outcomeOf_check (row : Option Row) :
    outcomeOf (row.bind (check d matchers)) = outcome d row := by
  cases row with
  | none => rfl
  | some r =>
    rw [Option.bind_some, check_eq]
    by_cases hr : r.isCheckable
    · rw [if_pos hr, outcomeOf, checked, outcome_judge hr]
    · rw [if_neg hr, outcomeOf, outcome, if_neg hr]

theorem outcome_eq_bad_iff {r : Row} : outcome d (some r) = .bad ↔ ¬ r.isCheckable := by
  by_cases hr : r.isCheckable
  · simp [← outcome_judge hr, Verdict.outcome_ne_bad, hr]
  · simp [outcome, hr]

/-- The outcomes of the rows that can be checked are all but the bad ones. -/
theorem map_outcome_checkable (d : Detector) (rows : List (Option Row)) :
    (checkable rows).map (fun r => outcome d (some r)) =
      (rows.map (outcome d)).filter (· ≠ .bad) := by
  unfold checkable
  induction rows with
  | nil => rfl
  | cons row rows ih =>
    cases row with
    | none => simpa [outcome] using ih
    | some r =>
      by_cases hr : r.isCheckable
      · have hne : outcome d (some r) ≠ .bad := fun h => outcome_eq_bad_iff.mp h hr
        simpa [List.reduceOption_cons_of_some, hr, hne] using ih
      · have hbad : outcome d (some r) = .bad := outcome_eq_bad_iff.mpr hr
        simpa [List.reduceOption_cons_of_some, hr, hbad] using ih

/-- The rows with an outcome are as many as the check counts, whatever compiled rules decide. -/
theorem number_count_checkRows (withRules : Bool) (o : Outcome) :
    (count withRules (checkRows d matchers rows)).number o = (rows.map (outcome d)).count o := by
  have hmap : (checkRows d matchers rows).map outcomeOf = rows.map (outcome d) := by
    rw [checkRows, List.map_map]
    exact List.map_congr_left fun row _ => outcomeOf_check row
  rw [number_count, hmap]

theorem length_checkable (d : Detector) (rows : List (Option Row)) :
    (checkable rows).length + (rows.map (outcome d)).count .bad = rows.length := by
  have hlength := congrArg List.length (map_outcome_checkable d rows)
  have hsplit := List.length_eq_countP_add_countP (· == Outcome.bad) (l := rows.map (outcome d))
  rw [List.length_map, ← List.countP_eq_length_filter] at hlength
  rw [List.length_map] at hsplit
  rw [hlength, hsplit, List.count, Nat.add_comm]
  simp

theorem length_mismatching (d : Detector) (rows : List (Option Row)) :
    (mismatching d rows).length = (rows.map (outcome d)).countP Outcome.isMismatch := by
  have hcount := congrArg (List.countP Outcome.isMismatch) (map_outcome_checkable d rows)
  have hbad : ∀ o : Outcome, (o.isMismatch && decide (o ≠ .bad)) = o.isMismatch := by
    intro o
    cases o <;> rfl
  rw [List.countP_map, List.countP_filter] at hcount
  simp only [hbad] at hcount
  rw [mismatching, ← List.countP_eq_length_filter, ← hcount]
  rfl

/-- Compiled rules are compared with the detector on the rows that can be checked. -/
theorem disagreements_count_checkRows (d : Detector) (rules : Option (List ContentRule))
    (rows : List (Option Row)) :
    (count rules.isSome (checkRows d (rules.map Matcher.ofRules) rows)).disagreements =
      rules.map fun rs => (checkable rows).countP fun r =>
        disagrees (Matcher.ofRules rs) r.request (d.classify r.request) := by
  rw [disagreements_count, filterMap_checkRows]
  cases rules with
  | none => rfl
  | some rs =>
    simp only [Option.isSome_some, if_true, List.countP_map, Function.comp_def, checked,
      Option.map_some, Option.any_some]

/-! ## The table for mismatches -/

theorem mismatch?_checked {r : Row} (hr : r.isCheckable) :
    mismatch? (checked d matchers r) =
      if (outcome d (some r)).isMismatch then some (report d r) else none := by
  rw [← outcome_judge hr]
  unfold checked mismatch? report judge
  cases d.classify r.request with
  | none => rfl
  | some c =>
    cases r.expected? with
    | none => rfl
    | some expected =>
      by_cases hpass : expected = c.action
      · simp [hpass, Verdict.outcome, Outcome.isMismatch]
      · cases expected <;> simp [hpass, Verdict.outcome, Outcome.isMismatch]

theorem filterMap_mismatch? :
    ((checkable rows).map (checked d matchers)).filterMap mismatch? =
      (mismatching d rows).map (report d) := by
  have hcheckable : ∀ r ∈ checkable rows, r.isCheckable := by
    intro r hr
    exact (List.mem_filter.mp hr).2
  unfold mismatching
  generalize checkable rows = rs at hcheckable
  induction rs with
  | nil => rfl
  | cons r rs ih =>
    rw [List.forall_mem_cons] at hcheckable
    rw [List.map_cons, List.filterMap_cons, mismatch?_checked hcheckable.1, ih hcheckable.2]
    cases hmismatch : (outcome d (some r)).isMismatch <;> simp [hmismatch]

theorem mismatchTable_checkRows :
    mismatchTable ((checkRows d matchers rows).filterMap id) =
      String.join ((reportTable d rows).map Csv.writeRecord) := by
  rw [mismatchTable, filterMap_checkRows, filterMap_mismatch?, reportTable]
  cases (mismatching d rows).map (report d) with
  | nil => rfl
  | cons record records => rfl

theorem length_of_mem_reportTable {record : List String} (h : record ∈ reportTable d rows) :
    record.length = 7 := by
  have hreport : ∀ r : Row, (report d r).length = 7 := by
    intro r
    unfold report
    cases d.classify r.request <;> rfl
  unfold reportTable at h
  split at h
  · cases h
  · cases List.mem_cons.mp h with
    | inl heq => simp [heq, mismatchHeader]
    | inr hmem =>
      obtain ⟨r, -, rfl⟩ := List.mem_map.mp hmem
      exact hreport r

/-- The table for mismatches is read as its records. -/
theorem read_mismatchTable :
    Csv.read (mismatchTable ((checkRows d matchers rows).filterMap id)).toUTF8.toList =
      (reportTable d rows).map Csv.Record.ofTexts := by
  rw [mismatchTable_checkRows]
  apply Csv.read_join
  · intro record hrecord
    rw [length_of_mem_reportTable hrecord]
    decide
  · unfold reportTable
    split
    · decide +kernel
    · have hfirst : (Text.encode (Csv.writeRecord mismatchHeader).toList).head? = some 0x72 := by
        decide +kernel
      rw [Text.toList_toUTF8, String.toList_join, List.map_cons, List.flatMap_cons,
        Text.encode_append, List.head?_append, hfirst, Option.some_or]
      decide

theorem tail_reportTable : (reportTable d rows).tail = (mismatching d rows).map (report d) := by
  unfold reportTable
  split
  · rename_i hnil
    exact hnil.symm
  · rfl

/-! ## Runs -/

/-- Whether the file for mismatches, if there is one, is another than that of the table. -/
def KeepsTable (input : String) (mismatches : Option String) : Prop :=
  ∀ path, mismatches = some path → Path.ofText path ≠ Path.ofText input

section Runs

variable {t t' : FileTree} {input : String} {rules : Option (List ContentRule)}
  {mismatches : Option String} {c : Counts}

/-- A run counts the rows as they were before it, since it writes to another file. -/
theorem run_eq_ok (h : run t d input rules mismatches = .ok (c, t'))
    (hkeeps : KeepsTable input mismatches) :
    openTable t (.ofText input) = .ok () ∧
      c = count rules.isSome (checkRows d (rules.map Matcher.ofRules) (rowsAt t input)) ∧
      (∀ path, mismatches = some path → t'.readBytes (.ofText path) = .ok (mismatchTable
        ((checkRows d (rules.map Matcher.ofRules) (rowsAt t input)).filterMap id)).toUTF8.toList) ∧
      ∀ p, (∀ path, mismatches = some path → p ≠ Path.ofText path) → t'.entry? p = t.entry? p := by
  unfold run at h
  obtain ⟨_, hopen, h⟩ := bind_eq_ok_iff.mp h
  refine ⟨mapError_eq_ok_iff.mp hopen, ?_⟩
  cases mismatches with
  | none =>
    obtain ⟨rfl, rfl⟩ := Prod.mk.inj (Except.ok.inj h)
    refine ⟨rfl, ?_, fun p hp => rfl⟩
    intro path hpath
    cases hpath
  | some path =>
    obtain ⟨emptied, hempty, h⟩ := bind_eq_ok_iff.mp h
    obtain ⟨written, hwrite, h⟩ := bind_eq_ok_iff.mp h
    obtain ⟨rfl, rfl⟩ := Prod.mk.inj (Except.ok.inj h)
    have hempty := mapError_eq_ok_iff.mp hempty
    have hwrite := mapError_eq_ok_iff.mp hwrite
    -- The rows are read after the file for mismatches has been emptied.
    have hrows : readRows ((emptied.readBytes (.ofText input)).toOption.getD []) =
        rowsAt t input := by
      have hentry := FileTree.entry?_writeText_of_ne hempty (hkeeps path rfl).symm
      rw [rowsAt, FileTree.toOption_readBytes_congr hentry]
    rw [hrows] at hwrite ⊢
    refine ⟨rfl, ?_, ?_⟩
    · intro file hfile
      obtain rfl := Option.some.inj hfile
      exact FileTree.readBytes_of_writeText hwrite
    · intro p hp
      rw [FileTree.entry?_writeText_of_ne hwrite (hp path rfl),
        FileTree.entry?_writeText_of_ne hempty (hp path rfl)]

/-- Without rules and without a file for mismatches, the counts are the same and nothing is
written. -/
theorem run_plain (h : run t d input rules mismatches = .ok (c, t'))
    (hkeeps : KeepsTable input mismatches) :
    run t d input none none = .ok ({ c with disagreements := none }, t) := by
  obtain ⟨hopen, hcount, -, -⟩ := run_eq_ok h hkeeps
  have hplain : run t d input none none =
      .ok (count false (checkRows d none (rowsAt t input)), t) :=
    bind_eq_ok_iff.mpr ⟨(), mapError_eq_ok_iff.mpr hopen, rfl⟩
  have hcounts : count false (checkRows d none (rowsAt t input)) =
      { c with disagreements := none } := by
    apply Counts.eq_of_number
    · simp [hcount, rows_count, checkRows]
    · intro o
      rw [Counts.number_withoutRules, hcount, number_count_checkRows, number_count_checkRows]
    · rw [disagreements_count]
      rfl
  rw [hplain, hcounts]

/-- What the check of a table reports: the counts, and the tree that it leaves. -/
structure IsReportOf (t : FileTree) (d : Detector) (input : String)
    (rules : Option (List ContentRule)) (mismatches : Option String) (c : Counts) (t' : FileTree) :
    Prop where
  rows : c.rows = (rowsAt t input).length
  number : ∀ o, c.number o = ((rowsAt t input).map (outcome d)).count o
  partition : c.rows = c.badRows + c.notFound + c.incorrectlyIgnored + c.incorrectlyBlocked +
    c.badExpectedAction + c.passed
  /-- The file for mismatches is read as the rows that are not decided as expected, in their order,
  behind a header. -/
  table : ∀ path, mismatches = some path → ∃ bytes, t'.readBytes (.ofText path) = .ok bytes ∧
    Csv.read bytes = (reportTable d (rowsAt t input)).map Csv.Record.ofTexts ∧
    (Csv.read bytes).tail.length = c.notFound + c.incorrectlyIgnored + c.incorrectlyBlocked
  /-- Compiled rules are compared with the detector on the rows that can be checked. -/
  disagreements : c.disagreements = rules.map fun rs =>
    (checkable (rowsAt t input)).countP fun r =>
      disagrees (Matcher.ofRules rs) r.request (d.classify r.request)
  disagreements_le : ∀ n, c.disagreements = some n → n ≤ c.rows - c.badRows
  /-- The other counts are those of each other run. -/
  others : ∀ rules' mismatches' c' t'', KeepsTable input mismatches' →
    run t d input rules' mismatches' = .ok (c', t'') →
    { c' with disagreements := none } = { c with disagreements := none }
  /-- Nothing but the file for mismatches is written. -/
  entries : ∀ p, (∀ path, mismatches = some path → p ≠ Path.ofText path) →
    t'.entry? p = t.entry? p

/-- A run that writes to another file than that of the table reports on the table. -/
theorem isReportOf_run (h : run t d input rules mismatches = .ok (c, t'))
    (hkeeps : KeepsTable input mismatches) :
    IsReportOf t d input rules mismatches c t' := by
  obtain ⟨-, hcount, hwritten, hentries⟩ := run_eq_ok h hkeeps
  have hnumber : ∀ o, c.number o = ((rowsAt t input).map (outcome d)).count o := by
    intro o
    rw [hcount, number_count_checkRows]
  have hrows : c.rows = (rowsAt t input).length := by
    rw [hcount, rows_count, checkRows, List.length_map]
  have hdisagreements := disagreements_count_checkRows d rules (rowsAt t input)
  rw [← hcount] at hdisagreements
  refine
    { rows := hrows
      number := hnumber
      partition := ?_
      table := ?_
      disagreements := hdisagreements
      disagreements_le := ?_
      others := ?_
      entries := hentries }
  · have hsum := length_eq_sum_count ((rowsAt t input).map (outcome d))
    rw [List.length_map, ← hrows] at hsum
    simp only [← hnumber] at hsum
    exact hsum
  · intro path hpath
    refine ⟨_, hwritten path hpath, read_mismatchTable, ?_⟩
    rw [read_mismatchTable, ← List.map_tail, tail_reportTable, List.length_map, List.length_map,
      length_mismatching, countP_isMismatch]
    simp only [← hnumber]
    rfl
  · intro n hn
    have hlength := length_checkable d (rowsAt t input)
    rw [← hnumber, ← hrows] at hlength
    have hbad : c.badRows = c.number .bad := rfl
    rw [hdisagreements] at hn
    obtain ⟨rs, -, rfl⟩ := Option.map_eq_some_iff.mp hn
    have hle := List.countP_le_length (p := fun r : Row =>
      disagrees (Matcher.ofRules rs) r.request (d.classify r.request))
      (l := checkable (rowsAt t input))
    omega
  · intro rules' mismatches' c' t'' hkeeps' h'
    have hsame := (run_plain h' hkeeps').symm.trans (run_plain h hkeeps)
    exact congrArg Prod.fst (Except.ok.inj hsame)

end Runs

/-! A table with a row that passes, one to each of two trackers that is not decided as expected, one
to no tracker, and one that is too short. -/

private def requestsTable : String :=
  "resource_url,page_url,resource_type,expected_action\n" ++
    "https://t.io/,https://p.io/,script,block\n" ++
    "\"https://t.io/a,b\",https://p.io/,script,ignore\n" ++
    "https://u.io/,https://p.io/,,block\n" ++
    "https://v.io/,https://p.io/,script,block\n" ++
    "https://t.io/\n"

private def requestsTree : FileTree :=
  FileTree.empty.put ["requests.csv"] (.file requestsTable.toUTF8.toList)

private def requestsDetector : Detector :=
  .ofDataset (.build [Tracker.forDomain "t.io" .block, Tracker.forDomain "u.io" .ignore] [])

/-- Rules that block both trackers. -/
private def blockAll : List ContentRule :=
  [⟨.forFilter ".*", .block⟩]

end

open scoped Pattern.Estimate

theorem isReportOf_run_requestsTable :
    ∃ t', run requestsTree requestsDetector "requests.csv" (some blockAll)
        (some "mismatches.csv") = .ok (⟨5, 1, 1, 1, 1, 0, 1, some 2⟩, t') ∧
      IsReportOf requestsTree requestsDetector "requests.csv" (some blockAll)
        (some "mismatches.csv") ⟨5, 1, 1, 1, 1, 0, 1, some 2⟩ t' := by
  have hrun : (run requestsTree requestsDetector "requests.csv" (some blockAll)
      (some "mismatches.csv")).toOption.map Prod.fst = some ⟨5, 1, 1, 1, 1, 0, 1, some 2⟩ := by
    decide +kernel
  cases hresult : run requestsTree requestsDetector "requests.csv" (some blockAll)
      (some "mismatches.csv") with
  | error e =>
    rw [hresult] at hrun
    cases hrun
  | ok result =>
    obtain ⟨c, t'⟩ := result
    rw [hresult] at hrun
    obtain rfl : c = ⟨5, 1, 1, 1, 1, 0, 1, some 2⟩ := Option.some.inj hrun
    refine ⟨t', rfl, isReportOf_run hresult ?_⟩
    intro path hpath
    obtain rfl := Option.some.inj hpath
    decide +kernel

end Blocklist.Validation
