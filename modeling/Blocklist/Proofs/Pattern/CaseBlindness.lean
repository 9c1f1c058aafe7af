import Blocklist.Pattern.Meaning
import Blocklist.Pattern.Search
import Blocklist.Proofs.Text.Ascii

/-! # Patterns that do not tell the cases of a letter apart

An expression over sets that hold both cases of each ASCII letter or neither goes through texts that
differ in letter case alone in the same way. Every tree in which letter case is never made to matter
has such a meaning. Main statements: `occursIn_congr` and `isCaseBlind_of_toExpr?`. -/

namespace Blocklist.Pattern

open Text

/-! ## Sets -/

namespace CharSet

/-- A set that holds both cases of every ASCII letter, or neither. -/
def IsCaseBlind (s : CharSet) : Prop :=
  ∀ n < 26, s.contains (0x61 + n) = s.contains (0x41 + n)

instance (s : CharSet) : Decidable s.IsCaseBlind :=
  inferInstanceAs (Decidable (∀ n < 26, s.contains (0x61 + n) = s.contains (0x41 + n)))

variable {s t : CharSet}

theorem IsCaseBlind.contains_toLower (h : s.IsCaseBlind) (c : Char) :
    s.contains c.toLower.toNat = s.contains c.toNat := by
  by_cases hupper : c.isUpper
  · have hle : c.toNat ≤ 'Z'.toNat := by
      simp only [Char.isUpper, decide_eq_true_eq] at hupper
      exact hupper.2
    have hletter : ∃ n < 26, c.toNat = 0x41 + n ∧ c.toLower.toNat = 0x61 + n :=
      forall_ascii (p := fun c => c.isUpper → ∃ n < 26, c.toNat = 0x41 + n ∧
        c.toLower.toNat = 0x61 + n) (by decide +kernel) (Nat.lt_of_le_of_lt hle (by decide)) hupper
    obtain ⟨n, hn, hc, hlower⟩ := hletter
    rw [hc, hlower, h n hn]
  · rw [Char.toLower_eq_of_not_isUpper hupper]

theorem IsCaseBlind.compl (h : s.IsCaseBlind) : (CharSet.compl s).IsCaseBlind := fun n hn => by
  rw [contains, contains, h n hn]

theorem isCaseBlind_foldCase (s : CharSet) : (foldCase s).IsCaseBlind := by
  have horbit : ∀ n < 26, Unicode.orbit (0x61 + n) = Unicode.orbit (0x41 + n) := by decide +kernel
  intro n hn
  rw [contains, contains, horbit n hn]

theorem isCaseBlind_foldAsciiCase (s : CharSet) : (foldAsciiCase s).IsCaseBlind := by
  have horbit : ∀ n < 26, Unicode.asciiCaseOrbit (0x61 + n) =
      Unicode.asciiCaseOrbit (0x41 + n) := by
    decide +kernel
  intro n hn
  rw [contains, contains, horbit n hn]

end CharSet

/-! ## Expressions -/

/-- Whether all the sets of an expression hold both cases of every letter, or neither. -/
def Expr.IsCaseBlind : Expr → Prop
  | .empty | .look _ => True
  | .set s => s.IsCaseBlind
  | .seq e f | .alt e f => e.IsCaseBlind ∧ f.IsCaseBlind
  | .times e _ _ => e.IsCaseBlind

namespace Expr

def decidableIsCaseBlind : (e : Expr) → Decidable e.IsCaseBlind
  | .empty | .look _ => .isTrue trivial
  | .set s => inferInstanceAs (Decidable s.IsCaseBlind)
  | .seq e f | .alt e f =>
    let _ := e.decidableIsCaseBlind
    let _ := f.decidableIsCaseBlind
    inferInstanceAs (Decidable (e.IsCaseBlind ∧ f.IsCaseBlind))
  | .times e _ _ => e.decidableIsCaseBlind

instance : DecidablePred IsCaseBlind := decidableIsCaseBlind

end Expr

theorem Look.isWordChar_map_toLower (unicode : Bool) (c? : Option Char) :
    isWordChar unicode (c?.map Char.toLower) = isWordChar unicode c? := by
  have hword : (CharSet.property .word).IsCaseBlind := by decide +kernel
  cases c? with
  | none => rfl
  | some c =>
    cases unicode with
    | true => exact hword.contains_toLower c
    | false =>
      exact toLower_cases (p := fun c d =>
        Unicode.isAsciiWord d.toNat = Unicode.isAsciiWord c.toNat)
        (by decide +kernel) (fun _ _ => rfl) c

/-- The conditions on positions know line ends and the characters of words alone. -/
theorem Look.holds_map_toLower (l : Look) (before after : Option Char) :
    l.holds (before.map Char.toLower) (after.map Char.toLower) = l.holds before after := by
  have hchar : ∀ {d : Char}, ¬ d.isAlpha → ∀ c? : Option Char,
      (c?.map Char.toLower == some d) = (c? == some d) := by
    intro d hd c?
    cases c? with
    | none => rfl
    | some c => rw [Bool.eq_iff_iff]; simp [toLower_eq_iff hd]
  have hlf := hchar (d := '\n') (by decide)
  have hcr := hchar (d := '\r') (by decide)
  cases l <;> simp [holds, isWordChar_map_toLower, hlf, hcr, bne]

theorem neighbours_map (f : Char → Char) (before : Option Char) (cs : List Char) :
    neighbours (before.map f) (cs.map f) =
      (neighbours before cs).map fun (b, a) => (b.map f, a.map f) := by
  induction cs generalizing before with
  | nil => rfl
  | cons c cs ih => exact congrArg _ (ih (some c))

namespace Expr

theorem over_map_toLower {e : Expr} (h : e.IsCaseBlind) (cs : List Char) :
    e.over (cs.map Char.toLower) = e.over cs := by
  induction e with
  | empty => rfl
  | set s => simp only [Expr.over, List.map_map, Function.comp_def, h.contains_toLower]
  | look l =>
    have hneighbours := neighbours_map Char.toLower none cs
    rw [Option.map_none] at hneighbours
    simp only [Expr.over, hneighbours, List.map_map, Function.comp_def, Look.holds_map_toLower]
  | seq e f ihe ihf => rw [Expr.over, Expr.over, ihe h.1, ihf h.2]
  | alt e f ihe ihf => rw [Expr.over, Expr.over, ihe h.1, ihf h.2]
  | times e min max ih => rw [Expr.over, Expr.over, ih h]

/-- Letter case in a text does not matter to an expression that is blind to it. -/
theorem occursIn_congr {e : Expr} (h : e.IsCaseBlind) {cs ds : List Char}
    (heq : cs.map Char.toLower = ds.map Char.toLower) : e.occursIn cs = e.occursIn ds := by
  have hlength : cs.length = ds.length := by simpa using congrArg List.length heq
  rw [occursIn, occursIn, ← over_map_toLower h cs, heq, over_map_toLower h ds, hlength]

end Expr

/-! ## Trees -/

/-- Whether a change of flags makes letter case matter. -/
def FlagChange.mindsCase (change : FlagChange) : Bool := change.contains (.ignoreCase, false)

/-- Whether letter case is made to matter somewhere in a tree. -/
def Ast.mindsCase : Ast → Bool
  | .flags change => change.mindsCase
  | .repetition e _ => e.mindsCase
  | .group kind e => kind.change.mindsCase || e.mindsCase
  | .concat e f | .alternation e f => e.mindsCase || f.mindsCase
  | _ => false

namespace Mode

variable {m : Mode}

theorem ignoreCase_change (hm : m.ignoreCase) {change : FlagChange} (h : change.mindsCase = false) :
    (m.change change).ignoreCase := by
  induction change generalizing m with
  | nil => exact hm
  | cons f change ih =>
    simp only [FlagChange.mindsCase, List.contains_cons, Bool.or_eq_false_iff] at h
    refine ih ?_ h.2
    obtain ⟨flag, on⟩ := f
    cases flag <;> cases on <;> simp_all [set]

theorem isCaseBlind_fold (hm : m.ignoreCase) (s : CharSet) : (m.fold s).IsCaseBlind := by
  rw [fold, if_pos hm]
  split
  · exact CharSet.isCaseBlind_foldCase s
  · exact CharSet.isCaseBlind_foldAsciiCase s

theorem isCaseBlind_negate {s : CharSet} (h : s.IsCaseBlind) (negated : Bool) :
    (negate negated s).IsCaseBlind := by
  cases negated with
  | false => exact h
  | true => exact h.compl

theorem eq_of_checked? {s t : CharSet} (h : m.checked? s = some t) : t = s := by
  rw [checked?] at h
  split at h
  · exact (Option.some.inj h).symm
  · cases h

theorem isCaseBlind_of_dot? {e : Expr} (h : m.dot? = some e) : e.IsCaseBlind := by
  have hsets : (CharSet.all).IsCaseBlind ∧ (CharSet.compl (.char '\n')).IsCaseBlind ∧
      (CharSet.compl (.union (.char '\n') (.char '\r'))).IsCaseBlind := by
    decide +kernel
  unfold dot? at h
  split at h
  · cases h
  · split at h
    · exact Option.some.inj h ▸ hsets.1
    · split at h
      · exact Option.some.inj h ▸ hsets.2.2
      · exact Option.some.inj h ▸ hsets.2.1

end Mode

theorem ShortClass.isCaseBlind_toSet (c : ShortClass) (unicode : Bool) :
    (c.toSet unicode).IsCaseBlind := by
  cases c <;> cases unicode <;> decide +kernel

/-- Where letter case does not matter at first and is never made to matter, it does not matter to
the meaning, and not behind the tree. -/
theorem isCaseBlind_of_toExpr? {e : Ast} {m m' : Mode} {x : Expr} (hm : m.ignoreCase)
    (he : e.mindsCase = false) (h : e.toExpr? m = some (x, m')) :
    x.IsCaseBlind ∧ m'.ignoreCase := by
  -- The mode behind one part is that in front of the next, so both facts go through together.
  induction e generalizing m m' x with
  | empty =>
    obtain ⟨rfl, rfl⟩ := Prod.mk.inj (Option.some.inj h)
    exact ⟨trivial, hm⟩
  | flags change =>
    obtain ⟨rfl, rfl⟩ := Prod.mk.inj (Option.some.inj h)
    exact ⟨trivial, Mode.ignoreCase_change hm he⟩
  | literal l =>
    obtain ⟨y, hy, heq⟩ := Option.map_eq_some_iff.mp h
    obtain ⟨rfl, rfl⟩ := Prod.mk.inj heq
    rw [Literal.toExpr?] at hy
    split at hy
    · cases hy
    · exact ⟨Option.some.inj hy ▸ Mode.isCaseBlind_fold hm _, hm⟩
  | dot =>
    obtain ⟨y, hy, heq⟩ := Option.map_eq_some_iff.mp h
    obtain ⟨rfl, rfl⟩ := Prod.mk.inj heq
    exact ⟨Mode.isCaseBlind_of_dot? hy, hm⟩
  | assertion a =>
    obtain ⟨rfl, rfl⟩ := Prod.mk.inj (Option.some.inj h)
    exact ⟨trivial, hm⟩
  | short c negated =>
    obtain ⟨s, hs, heq⟩ := Option.map_eq_some_iff.mp h
    obtain ⟨rfl, rfl⟩ := Prod.mk.inj heq
    rw [Mode.eq_of_checked? hs]
    exact ⟨Mode.isCaseBlind_negate (c.isCaseBlind_toSet _) negated, hm⟩
  | property p negated =>
    rw [Ast.toExpr?, Option.ite_none_right_eq_some] at h
    obtain ⟨rfl, rfl⟩ := Prod.mk.inj (Option.some.inj h.2)
    exact ⟨Mode.isCaseBlind_negate (Mode.isCaseBlind_fold hm _) negated, hm⟩
  | bracketed negated s =>
    -- Whatever the items are, the set between the brackets is folded as a whole.
    obtain ⟨t, -, h⟩ := Option.bind_eq_some_iff.mp h
    obtain ⟨u, hu, h⟩ := Option.bind_eq_some_iff.mp h
    obtain ⟨rfl, rfl⟩ := Prod.mk.inj (Option.some.inj h)
    rw [Mode.eq_of_checked? hu]
    exact ⟨Mode.isCaseBlind_negate (Mode.isCaseBlind_fold hm t) negated, hm⟩
  | repetition e count ih =>
    obtain ⟨⟨y, n⟩, hy, h⟩ := Option.bind_eq_some_iff.mp h
    obtain ⟨rfl, rfl⟩ := Prod.mk.inj (Option.some.inj h)
    obtain ⟨hblind, hn⟩ := ih hm he hy
    exact ⟨hblind, hn⟩
  | group kind e ih =>
    obtain ⟨hchange, he⟩ := Bool.or_eq_false_iff.mp he
    obtain ⟨⟨y, n⟩, hy, h⟩ := Option.bind_eq_some_iff.mp h
    obtain ⟨rfl, rfl⟩ := Prod.mk.inj (Option.some.inj h)
    exact ⟨(ih (Mode.ignoreCase_change hm hchange) he hy).1, hm⟩
  | concat e f ihe ihf | alternation e f ihe ihf =>
    obtain ⟨he, hf⟩ := Bool.or_eq_false_iff.mp he
    obtain ⟨⟨y, n⟩, hy, h⟩ := Option.bind_eq_some_iff.mp h
    obtain ⟨⟨z, k⟩, hz, h⟩ := Option.bind_eq_some_iff.mp h
    obtain ⟨rfl, rfl⟩ := Prod.mk.inj (Option.some.inj h)
    obtain ⟨hblind, hn⟩ := ihe hm he hy
    obtain ⟨hblind', hk⟩ := ihf hn hf hz
    exact ⟨⟨hblind, hblind'⟩, hk⟩

end Blocklist.Pattern
