import Blocklist.Pattern.Size
/-!
An estimate of the size of matchers, for programs that run patterns. A matcher for a pattern is taken
to have a step for each byte that it reads and for each branch, and sets of characters are counted by
the stretches that their members make up. How much a set really takes also depends on what the
encodings of its members share, so the figures for large sets are rough.
-/

namespace Blocklist.Pattern

/-- The bytes that a step of a matcher takes. -/
def stepSize : Nat := 32

/-- About how many stretches without a gap the code points with a property make up. -/
def Property.stretches : Property → Nat
  | word => 800
  | digit => 75
  | space => 10
  | any | ascii => 1
  | assigned => 735
  | category name => Unicode.generalCategoryTable.stretches (name.toList.isPrefixOf ·.toList)
  | script name => Unicode.scriptTable.stretches (· == name)
  | scriptExtension name =>
    Unicode.scriptTable.stretches (· == name) +
      Unicode.scriptExtensionTable.stretches fun names => (names.splitOn "+").contains name
  | age _ => 735
  | segment s name => s.table.stretches (· == name)
  | binary name => ((Unicode.binaryProperties.lookup name).map (·.ranges.size)).getD 0

namespace CharSet

/-- The size of a matcher for one of some code points. ASCII characters share a step, the bytes of
others have steps of their own. -/
def sizeOfOrbit (ns : List Nat) : Nat :=
  match ns with
  | [n] => stepSize * (Char.ofNat n).utf8Size
  | _ =>
    if ns.all (· < 0x80) then 2 * stepSize + 8 * ns.length
    else
      2 * stepSize + ns.foldr (fun n rest => 4 + stepSize * (Char.ofNat n).utf8Size + rest) 0

/-- The size of a matcher for a set of code points. -/
def size : CharSet → Nat
  | empty => stepSize
  | range lo hi =>
    if lo = hi then sizeOfOrbit [lo] else if hi < 0x80 then 2 * stepSize + 8 else 4 * stepSize
  | property p => stepSize + 2 * stepSize * p.stretches
  | union s t | inter s t => s.size + t.size
  | compl s => s.size + stepSize
  | foldCase (range lo hi) =>
    if lo = hi then sizeOfOrbit (Unicode.orbit lo) else (range lo hi).size + 6 * stepSize
  | foldCase s => s.size + 6 * stepSize
  | foldAsciiCase s => s.size + 8

end CharSet

/-- How often a repeated part is built into a matcher. -/
def Count.copies : Count → Nat
  | zeroOrOne | zeroOrMore | oneOrMore => 1
  | exactly n => n
  | atLeast n => max 1 n
  | between _ hi => hi

namespace Ast

/-- Whether only empty texts can match a tree. Repetition does not multiply the matcher for it. -/
def isEmptyWidth : Ast → Bool
  | empty | flags _ | assertion _ => true
  | repetition e count => e.isEmptyWidth || count.copies == 0
  | group _ e => e.isEmptyWidth
  | concat e f | alternation e f => e.isEmptyWidth && f.isEmptyWidth
  | _ => false

/-- The size of a matcher for a tree, with a mode for all of its parts. -/
def size (m : Mode) : Ast → Nat
  | empty | flags _ | assertion _ => stepSize
  | literal l => (m.fold (.char l.char)).size
  | dot => 16 * stepSize
  | short c negated => (Mode.negate negated (c.toSet m.unicode)).size
  | property p negated => (Mode.negate negated (m.fold (.property p))).size
  | bracketed negated s =>
    (s.toSet? m).elim stepSize fun s => (Mode.negate negated (m.fold s)).size
  | repetition e count =>
    2 * stepSize + e.size m * if e.isEmptyWidth then 1 else count.copies
  | group .capture e => 2 * stepSize + e.size m
  | group (.flags _) e => e.size m
  | concat e f => e.size m + f.size m
  | alternation e f => 2 * stepSize + e.size m + f.size m

/-- The size of matchers for all of some trees. -/
def totalSize (m : Mode) : List Ast → Nat
  | [] => 0
  | e :: es => e.size m + totalSize m es

end Ast

/-! ## The estimate as a limit -/

theorem CharSet.stepSize_le_sizeOfOrbit (ns : List Nat) : stepSize ≤ sizeOfOrbit ns := by
  unfold sizeOfOrbit
  split
  · exact Nat.le_mul_of_pos_right _ (Char.utf8Size_pos _)
  · split <;> omega

theorem CharSet.stepSize_le_size (s : CharSet) : stepSize ≤ s.size := by
  induction s with
  | empty => exact Nat.le_refl _
  | range lo hi =>
    rw [size]
    split
    · exact stepSize_le_sizeOfOrbit _
    · split <;> omega
  | property p => exact Nat.le_add_right _ _
  | union s t hs ht | inter s t hs ht => exact Nat.le_add_right_of_le hs
  | compl s hs | foldAsciiCase s hs => exact Nat.le_add_right_of_le hs
  | foldCase s hs =>
    cases s with
    | range lo hi =>
      rw [size]
      split
      · exact stepSize_le_sizeOfOrbit _
      · exact Nat.le_add_right_of_le hs
    | _ => exact Nat.le_add_right_of_le hs

namespace Ast

variable {m : Mode}

theorem stepSize_le_size (m : Mode) (e : Ast) : stepSize ≤ e.size m := by
  induction e with
  | empty | flags _ | assertion _ => exact Nat.le_refl _
  | literal _ | short _ _ | property _ _ => exact CharSet.stepSize_le_size _
  | dot => exact Nat.le_mul_of_pos_left stepSize (by decide)
  | bracketed negated s =>
    rw [size]
    cases s.toSet? m with
    | none => exact Nat.le_refl _
    | some s => exact CharSet.stepSize_le_size _
  | repetition e count _ =>
    rw [size]
    omega
  | group kind e he =>
    cases kind with
    | capture => exact Nat.le_add_left_of_le he
    | flags change => exact he
  | concat e f he _ => exact Nat.le_add_right_of_le he
  | alternation e f he _ =>
    rw [size]
    omega

/-- No character takes less than a slash. -/
theorem size_slash_le (m : Mode) (l : Literal) :
    (literal ⟨'/', false⟩).size m ≤ (literal l).size m := by
  have hchar : ∀ c, stepSize ≤ (CharSet.char c).size := fun c => CharSet.stepSize_le_size _
  have hslash : (CharSet.char '/').size = stepSize := by decide
  rw [size, size, Mode.fold, Mode.fold]
  split
  · split
    · have hfold : (CharSet.foldCase (.char '/')).size = stepSize := by decide
      exact hfold ▸ CharSet.stepSize_le_size _
    · exact Nat.add_le_add_right (hslash ▸ hchar l.char) 8
  · exact hslash ▸ hchar l.char

/-- The same counts keep the order of sizes. -/
theorem size_repeated_le {e f : Ast} (hsize : e.size m ≤ f.size m)
    (hwidth : e.isEmptyWidth = f.isEmptyWidth) (counts : List Count) :
    (e.repeated counts).size m ≤ (f.repeated counts).size m := by
  induction counts generalizing e f with
  | nil => exact hsize
  | cons count counts ih =>
    refine @ih (repetition e count) (repetition f count) ?_ ?_
    · rw [size, size, hwidth]
      exact Nat.add_le_add_left (Nat.mul_le_mul_right _ hsize) _
    · rw [isEmptyWidth, isEmptyWidth, hwidth]

theorem size_le_size_repeated (m : Mode) (e : Ast) {counts : List Count}
    (hmarks : ∀ n ∈ counts, n.isNumeric = false) : e.size m ≤ (e.repeated counts).size m := by
  induction counts generalizing e with
  | nil => exact Nat.le_refl _
  | cons count counts ih =>
    have hcopies : count.copies = 1 := by
      have hmark := hmarks count List.mem_cons_self
      cases count <;> first | rfl | cases hmark
    have hsize : e.size m ≤ (repetition e count).size m := by
      rw [size, hcopies, ite_self, Nat.mul_one]
      exact Nat.le_add_left _ _
    exact Nat.le_trans hsize (ih _ fun n hn => hmarks n (List.mem_cons_of_mem _ hn))

theorem totalSize_append (m : Mode) (es fs : List Ast) :
    totalSize m (es ++ fs) = totalSize m es + totalSize m fs := by
  induction es with
  | nil => exact (Nat.zero_add _).symm
  | cons e es ih => rw [List.cons_append, totalSize, totalSize, ih, Nat.add_assoc]

theorem size_ofParts {es : List Ast} (hes : es ≠ []) : (ofParts es).size m = totalSize m es := by
  induction es with
  | nil => exact absurd rfl hes
  | cons e es ih =>
    cases es with
    | nil => rfl
    | cons f es =>
      have hparts : ofParts (e :: f :: es) = .concat e (ofParts (f :: es)) := rfl
      rw [hparts, size, totalSize, ih (List.cons_ne_nil _ _)]

/-- A run of parts takes no less than some of the parts. -/
theorem size_ofParts_le {es fs : List Ast} (hfs : fs ≠ [])
    (h : totalSize m es ≤ totalSize m fs) :
    (ofParts es).size m ≤ (ofParts fs).size m := by
  cases es with
  | nil => exact stepSize_le_size m _
  | cons e es => rwa [size_ofParts (List.cons_ne_nil _ _), size_ofParts hfs]

end Ast

/-- The greatest size of a matcher, in bytes. -/
def maxSize : Nat := 10 * 1024 * 1024

namespace Estimate

/-- The estimate as a limit. -/
scoped instance estimatedLimit : SizeLimit where
  fits m e := e.size m ≤ maxSize
  fits_line :=
    decide_eq_true (by simp [Ast.size, Ast.isEmptyWidth, Count.copies, stepSize, maxSize])
  fits_of_append {m es fs} h := by
    cases fs with
    | nil => rwa [List.append_nil] at h
    | cons f fs =>
      refine decide_eq_true (Nat.le_trans (Ast.size_ofParts_le (by simp) ?_) (of_decide_eq_true h))
      exact Ast.totalSize_append m es _ ▸ Nat.le_add_right _ _
  fits_of_literal {m es fs l counts} h := by
    refine decide_eq_true (Nat.le_trans (Ast.size_ofParts_le (by simp) ?_) (of_decide_eq_true h))
    simp only [Ast.totalSize_append, Ast.totalSize]
    omega
  fits_of_marks {m es fs l counts} hmarks h := by
    have hsize := Ast.size_le_size_repeated m (.literal l) hmarks
    refine decide_eq_true (Nat.le_trans (Ast.size_ofParts_le (by simp) ?_) (of_decide_eq_true h))
    simp only [Ast.totalSize_append, Ast.totalSize]
    omega
  fits_of_slash {m es fs l counts} h := by
    have hsize := Ast.size_repeated_le (Ast.size_slash_le m l) rfl counts
    refine decide_eq_true (Nat.le_trans (Ast.size_ofParts_le (by simp) ?_) (of_decide_eq_true h))
    simp only [Ast.totalSize_append, Ast.totalSize]
    omega

end Estimate

end Blocklist.Pattern
