import Blocklist.Filter
import Mathlib

/-! # Reading patterns without alternatives

A pattern in which no `|` and no opening brace stands without a backslash in front is read without
alternatives and without repetition by numbers. The test for such patterns takes a backslash and
the character behind it together, so every reader has to stop between such pairs: each lemma says
that of one reader. -/

namespace Blocklist.Pattern

/-- No `|` and no opening brace stands in a text without a backslash in front. -/
def IsClear (cs : List Char) : Prop :=
  Filter.hasUnsupported cs = false

theorem isClear_nil : IsClear [] := rfl

theorem isClear_cons_iff {c : Char} {cs : List Char} (hc : c ≠ '\\') :
    IsClear (c :: cs) ↔ (c ≠ '|' ∧ c ≠ '\x7b') ∧ IsClear cs := by
  rw [IsClear, Filter.hasUnsupported]
  · simp [IsClear]
  · simpa using fun h _ => hc h
  · intro _ _ h _
    exact hc h

theorem isClear_backslash_iff {c : Char} {cs : List Char} :
    IsClear ('\\' :: c :: cs) ↔ IsClear cs :=
  Iff.rfl

theorem IsClear.tail {c : Char} {cs : List Char} (hc : c ≠ '\\') (h : IsClear (c :: cs)) :
    IsClear cs :=
  ((isClear_cons_iff hc).mp h).2

theorem IsClear.ne_bar {c : Char} {cs : List Char} (h : IsClear (c :: cs)) : c ≠ '|' := by
  rintro rfl
  exact ((isClear_cons_iff (by decide)).mp h).1.1 rfl

theorem IsClear.ne_brace {c : Char} {cs : List Char} (h : IsClear (c :: cs)) : c ≠ '\x7b' := by
  rintro rfl
  exact ((isClear_cons_iff (by decide)).mp h).1.2 rfl

/-- A clear text at the end of another one: what is left when a reader stops between two
characters. -/
structure IsRest (cs rest : List Char) : Prop where
  suffix : rest <:+ cs
  clear : IsClear rest

theorem IsClear.isRest {cs : List Char} (h : IsClear cs) : IsRest cs cs :=
  ⟨List.suffix_refl cs, h⟩

theorem IsClear.isRest_tail {c : Char} {cs : List Char} (hc : c ≠ '\\') (h : IsClear (c :: cs)) :
    IsRest (c :: cs) cs :=
  ⟨List.suffix_cons c cs, h.tail hc⟩

theorem IsRest.trans {cs ds rest : List Char} (h : IsRest cs ds) (h' : IsRest ds rest) :
    IsRest cs rest :=
  ⟨h'.suffix.trans h.suffix, h'.clear⟩

theorem IsRest.cons {cs rest : List Char} (c : Char) (h : IsRest cs rest) : IsRest (c :: cs) rest :=
  ⟨h.suffix.trans (List.suffix_cons c cs), h.clear⟩

theorem IsRest.length_le {cs rest : List Char} (h : IsRest cs rest) : rest.length ≤ cs.length :=
  h.suffix.length_le

/-! ## Passing over characters -/

/-- Behind the first occurrence of a character that is no backslash. A backslash that belongs to
that character stands right in front of it. -/
theorem IsClear.isRest_tail_dropWhile {t : Char} (ht : t ≠ '\\') {cs : List Char}
    (h : IsClear cs) : IsRest cs (cs.dropWhile (· != t)).tail := by
  refine ⟨(List.tail_suffix _).trans (List.dropWhile_suffix _), ?_⟩
  revert h
  unfold IsClear
  fun_induction Filter.hasUnsupported cs with
  | case1 => simp [Filter.hasUnsupported]
  | case2 => simp [ht.symm, Filter.hasUnsupported]
  | case3 c cs ih =>
    intro h
    rw [List.dropWhile_cons_of_pos (by simpa using ht.symm)]
    by_cases hc : c = t
    · rwa [List.dropWhile_cons_of_neg (by simpa using hc)]
    · rw [List.dropWhile_cons_of_pos (by simpa using hc)]
      exact ih h
  | case4 c cs _ _ ih =>
    intro h
    simp only [Bool.or_eq_false_iff] at h
    by_cases hc : c = t
    · rw [List.dropWhile_cons_of_neg (by simpa using hc)]
      exact h.2
    · rw [List.dropWhile_cons_of_pos (by simpa using hc)]
      exact ih h.2

namespace Source

theorem afterComment_eq (cs : List Char) : afterComment cs = (cs.dropWhile (· != '\n')).tail := by
  induction cs with
  | nil => rfl
  | cons c cs ih => by_cases hc : c = '\n' <;> simp [afterComment, hc, ih]

theorem isRest_skipBlanks {cs : List Char} (h : IsClear cs) : IsRest cs (skipBlanks cs) := by
  fun_induction skipBlanks cs with
  | case1 => exact h.isRest
  | case2 c cs hc ih => exact (ih (h.tail fun heq => absurd hc (by rw [heq]; decide))).cons c
  | case3 cs _ ih =>
    have hcomment : IsRest cs (afterComment cs) := by
      rw [afterComment_eq]
      exact (h.tail (by decide)).isRest_tail_dropWhile (by decide)
    exact (hcomment.trans (ih hcomment.clear)).cons '#'
  | case4 => exact h.isRest

theorem isRest_skip {src : Source} (h : IsClear src.rest) : IsRest src.rest src.skip.rest := by
  unfold skip
  split
  · exact isRest_skipBlanks h
  · exact h.isRest

theorem isRest_goOnSkipping (src : Source) {rest : List Char} (h : IsClear rest) :
    IsRest rest (src.goOnSkipping rest).rest :=
  @isRest_skip (src.goOn rest) h

end Source

variable {src after : Source}

/-- The reader stops at the end of a text. -/
theorem readBody_of_rest_eq_nil (h : src.skip.rest = []) (fuel : Nat) (branches parts : List Ast) :
    readBody (fuel + 1) src branches parts =
      some (.ofAlternatives (.ofParts parts.reverse :: branches).reverse, src.skip) := by
  rw [readBody]
  simp only [h]

/-! ## Escapes -/

theorem isRest_of_readHexDigits {n : Nat} {digits : List Char} {c : Char}
    (h : IsClear src.rest) (hread : readHexDigits n src digits = some (c, after)) :
    IsRest src.rest after.rest := by
  induction n generalizing src digits with
  | zero =>
    simp only [readHexDigits, bind, Option.bind_eq_some_iff, pure, Option.some.injEq,
      Prod.mk.injEq] at hread
    obtain ⟨_, _, _, _, -, rfl⟩ := hread
    exact h.isRest
  | succ n ih =>
    unfold readHexDigits at hread
    split at hread
    · cases hread
    · rename_i d cs hrest
      split at hread
      · rename_i hd
        rw [hrest] at h ⊢
        have hne : d ≠ '\\' := fun heq => absurd hd (by rw [heq]; decide)
        have hskip := Source.isRest_goOnSkipping src (h.tail hne)
        exact (hskip.trans (ih hskip.clear hread)).cons d
      · cases hread

theorem isRest_of_readHex {width : Nat} {l : Literal} (h : IsClear src.rest)
    (hread : readHex width src = some (l, after)) : IsRest src.rest after.rest := by
  unfold readHex at hread
  split at hread
  · rename_i hrest
    exact absurd rfl (hrest ▸ h).ne_brace
  · simp only [bind, Option.bind_eq_some_iff, pure, Option.some.injEq, Prod.mk.injEq] at hread
    obtain ⟨⟨c, _⟩, hdigits, -, rfl⟩ := hread
    exact isRest_of_readHexDigits h hdigits

theorem isRest_of_readProperty {p : Property} (h : IsClear src.rest)
    (hread : readProperty src = some (p, after)) : IsRest src.rest after.rest := by
  unfold readProperty at hread
  split at hread
  · cases hread
  · rename_i hrest
    exact absurd rfl (hrest ▸ h).ne_brace
  · cases hread
  · rename_i c cs _ hne hrest
    simp only [bind, Option.bind_eq_some_iff, pure, Option.some.injEq, Prod.mk.injEq] at hread
    obtain ⟨_, -, -, rfl⟩ := hread
    rw [hrest] at h ⊢
    exact (Source.isRest_goOnSkipping src (h.tail hne)).cons c

theorem isRest_of_readWordBoundary {a : Assertion} (h : IsClear src.rest)
    (hread : readWordBoundary src = some (a, after)) : IsRest src.rest after.rest := by
  unfold readWordBoundary at hread
  split at hread
  · rename_i hrest
    exact absurd rfl (hrest ▸ h).ne_brace
  · simp only [Option.some.injEq, Prod.mk.injEq] at hread
    exact hread.2 ▸ h.isRest

theorem isRest_of_readEscape {e : Escape} (h : IsClear ('\\' :: src.rest))
    (hread : readEscape src = some (e, after)) : IsRest src.rest after.rest := by
  unfold readEscape at hread
  split at hread
  · cases hread
  · rename_i c cs hrest
    rw [hrest, isClear_backslash_iff] at h
    rw [hrest]
    apply IsRest.cons
    have hskip : IsRest cs (src.goOnSkipping cs).rest := Source.isRest_goOnSkipping src h
    have hgoOn : IsRest cs (src.goOn cs).rest := h.isRest
    split at hread
    · obtain ⟨⟨l, _⟩, hl, heq⟩ := Option.map_eq_some_iff.mp hread
      exact (Prod.mk.inj heq).2 ▸ hskip.trans (isRest_of_readHex hskip.clear hl)
    split at hread
    · obtain ⟨⟨l, _⟩, hl, heq⟩ := Option.map_eq_some_iff.mp hread
      exact (Prod.mk.inj heq).2 ▸ hskip.trans (isRest_of_readHex hskip.clear hl)
    split at hread
    · obtain ⟨⟨l, _⟩, hl, heq⟩ := Option.map_eq_some_iff.mp hread
      exact (Prod.mk.inj heq).2 ▸ hskip.trans (isRest_of_readHex hskip.clear hl)
    split at hread
    · obtain ⟨⟨p, _⟩, hp, heq⟩ := Option.map_eq_some_iff.mp hread
      exact (Prod.mk.inj heq).2 ▸ hskip.trans (isRest_of_readProperty hskip.clear hp)
    split at hread
    · obtain ⟨⟨a, _⟩, ha, heq⟩ := Option.map_eq_some_iff.mp hread
      exact (Prod.mk.inj heq).2 ▸ isRest_of_readWordBoundary h ha
    split at hread
    · exact (Prod.mk.inj (Option.some.inj hread)).2 ▸ hgoOn
    split at hread
    · exact (Prod.mk.inj (Option.some.inj hread)).2 ▸ hgoOn
    · exact (Prod.mk.inj (Option.some.inj hread)).2 ▸ hgoOn
    · exact (Prod.mk.inj (Option.some.inj hread)).2 ▸ hgoOn
    · cases hread

/-! ## Sets -/

theorem IsClear.isRest_afterCaret {cs : List Char} (h : IsClear cs) :
    IsRest cs (match cs with | '^' :: cs => (true, cs) | _ => (false, cs)).2 := by
  split
  · exact h.isRest_tail (by decide)
  · exact h.isRest

theorem isRest_of_readAsciiClass {cs rest : List Char} {s : ClassSet} (h : IsClear cs)
    (hread : readAsciiClass cs = some (s, rest)) : IsRest cs rest := by
  unfold readAsciiClass at hread
  split at hread
  · rename_i cs
    have hinner := (h.tail (by decide)).isRest_afterCaret
    simp only at hread
    split at hread
    · rename_i hdrop
      obtain ⟨_, -, heq⟩ := Option.map_eq_some_iff.mp hread
      have hafter := (congrArg (fun l => IsRest _ l.tail) hdrop).mp
        (hinner.clear.isRest_tail_dropWhile (by decide))
      have hrest := hafter.trans (hafter.clear.isRest_tail (by decide))
      exact (Prod.mk.inj heq).2 ▸ (hinner.trans hrest).cons ':'
    · cases hread
  · cases hread

/-- An item takes up at least one character. -/
theorem isRest_of_readSetItem {e : Escape} (h : IsClear src.rest)
    (hread : readSetItem src = some (e, after)) :
    IsRest src.rest after.rest ∧ after.rest.length < src.rest.length := by
  unfold readSetItem at hread
  split at hread
  · cases hread
  · rename_i cs hrest
    have hescape : IsClear ('\\' :: (src.goOn cs).rest) := hrest ▸ h
    have hcs : IsRest cs after.rest := isRest_of_readEscape hescape hread
    rw [hrest]
    exact ⟨hcs.cons '\\', Nat.lt_succ_of_le hcs.length_le⟩
  · rename_i c cs hne hrest
    rw [hrest] at h ⊢
    obtain rfl := (Prod.mk.inj (Option.some.inj hread)).2
    exact ⟨h.isRest_tail hne, Nat.lt_succ_self cs.length⟩

theorem isRest_of_readSetRange {s : ClassSet} (h : IsClear src.rest)
    (hread : readSetRange src = some (s, after)) :
    IsRest src.rest after.rest ∧ after.rest.length < src.rest.length := by
  unfold readSetRange at hread
  obtain ⟨⟨first, src'⟩, hfirst, hread⟩ := Option.bind_eq_some_iff.mp hread
  obtain ⟨hitem, hlt⟩ := isRest_of_readSetItem h hfirst
  have hskip := Source.isRest_skip hitem.clear
  have hle : ∀ {rest : List Char}, IsRest src'.skip.rest rest →
      IsRest src.rest rest ∧ rest.length < src.rest.length := by
    intro rest hrest
    have hrest' := hskip.trans hrest
    exact ⟨hitem.trans hrest', Nat.lt_of_le_of_lt hrest'.length_le hlt⟩
  simp only at hread
  split at hread
  · cases hread
  · rename_i cs hrest
    split at hread
    · obtain ⟨_, -, heq⟩ := Option.bind_eq_some_iff.mp hread
      exact (Prod.mk.inj (Option.some.inj heq)).2 ▸ hle hskip.clear.isRest
    · obtain ⟨⟨last, src''⟩, hlast, hread⟩ := Option.bind_eq_some_iff.mp hread
      have hcs : IsRest src'.skip.rest cs := hrest ▸ (hrest ▸ hskip.clear).isRest_tail (by decide)
      have hgoOn := hcs.trans (Source.isRest_goOnSkipping src'.skip hcs.clear)
      have hlast' := hgoOn.trans (isRest_of_readSetItem hgoOn.clear hlast).1
      simp only at hread
      split at hread
      · obtain ⟨_, -, heq⟩ := Option.bind_eq_some_iff.mp hread
        exact (Prod.mk.inj (Option.some.inj heq)).2 ▸ hle hlast'
      · cases hread
  · obtain ⟨_, -, heq⟩ := Option.bind_eq_some_iff.mp hread
    exact (Prod.mk.inj (Option.some.inj heq)).2 ▸ hle hskip.clear.isRest

theorem isRest_readHyphens (fuel : Nat) (items : List ClassSet) (h : IsClear src.rest) :
    IsRest src.rest (readHyphens fuel src items).2.rest := by
  induction fuel generalizing src items with
  | zero => exact h.isRest
  | succ fuel ih =>
    unfold readHyphens
    split
    · rename_i cs heq hrest
      obtain rfl := Nat.succ.inj heq
      rw [hrest] at h ⊢
      have hskip := Source.isRest_goOnSkipping src (h.tail (by decide))
      exact (hskip.trans (ih _ hskip.clear)).cons '-'
    · exact h.isRest

theorem isRest_goOnAfterCaret (h : IsClear src.rest) :
    IsRest src.rest (match src.rest with
      | '^' :: cs => (true, src.goOnSkipping cs)
      | _ => (false, src)).2.rest := by
  split
  · rename_i cs hrest
    rw [hrest] at h ⊢
    exact (Source.isRest_goOnSkipping src (h.tail (by decide))).cons '^'
  · exact h.isRest

theorem isRest_of_readSetStart {negated : Bool} {items : List ClassSet} (h : IsClear src.rest)
    (hread : readSetStart src = some (negated, items, after)) : IsRest src.rest after.rest := by
  have hstart := isRest_goOnAfterCaret h
  have hhyphens := fun fuel => hstart.trans (isRest_readHyphens fuel [] hstart.clear)
  unfold readSetStart at hread
  simp only at hread
  split at hread
  · cases hread
  · rename_i hrest
    have hcs := (congrArg (IsRest src.rest) hrest).mp (hhyphens _)
    have htail := hcs.trans (hcs.clear.isRest_tail (by decide))
    simp only [pure, Option.some.injEq, Prod.mk.injEq] at hread
    exact hread.2.2 ▸ htail.trans (Source.isRest_goOnSkipping _ htail.clear)
  · simp only [pure, Option.some.injEq, Prod.mk.injEq] at hread
    exact hread.2.2 ▸ hhyphens _

theorem isRest_of_setOp? {cs rest : List Char} {op : SetOp} (h : IsClear cs)
    (hop : setOp? cs = some (op, rest)) : IsRest cs rest ∧ rest.length < cs.length := by
  have htwo : ∀ {c : Char} {ds : List Char}, c ≠ '\\' → IsClear (c :: c :: ds) →
      IsRest (c :: c :: ds) ds ∧ ds.length < (c :: c :: ds).length := by
    intro c ds hc hclear
    refine ⟨((hclear.tail hc).isRest_tail hc).cons c, ?_⟩
    simp only [List.length_cons]
    omega
  unfold setOp? at hop
  split at hop
  · exact (Prod.mk.inj (Option.some.inj hop)).2 ▸ htwo (by decide) h
  · exact (Prod.mk.inj (Option.some.inj hop)).2 ▸ htwo (by decide) h
  · exact (Prod.mk.inj (Option.some.inj hop)).2 ▸ htwo (by decide) h
  · cases hop

/-- A set is read to a place behind it, and in the same way with any fuel that is enough. -/
structure ReadsSet (src : Source) (pending : PendingSet) (items : List ClassSet) (s : ClassSet)
    (after : Source) : Prop where
  isRest : IsRest src.rest after.rest
  readSet_eq : ∀ fuel, src.rest.length < fuel → readSet fuel src pending items = some (s, after)

theorem ReadsSet.step {src' : Source} {pending pending' : PendingSet} {items items' : List ClassSet}
    {s : ClassSet} (h : ReadsSet src' pending' items' s after) (hrest : IsRest src.rest src'.rest)
    (hlt : src'.rest.length < src.rest.length)
    (hbody : ∀ n, src.rest.length ≤ n →
      readSet (n + 1) src pending items = readSet n src' pending' items') :
    ReadsSet src pending items s after where
  isRest := hrest.trans h.isRest
  readSet_eq := by
    intro fuel hfuel
    obtain ⟨n, rfl⟩ := Nat.exists_eq_add_one_of_ne_zero (Nat.ne_zero_of_lt hfuel)
    rw [hbody n (by omega)]
    exact h.readSet_eq n (by omega)

theorem isRest_tail_of_skip_eq {c : Char} {cs : List Char} (h : IsClear src.rest)
    (hrest : src.skip.rest = c :: cs) (hc : c ≠ '\\') : IsRest src.rest cs := by
  have hskip := Source.isRest_skip h
  rw [hrest] at hskip
  exact hskip.trans (hskip.clear.isRest_tail hc)

theorem readsSet_close {cs : List Char} (h : IsClear src.rest) (hrest : src.skip.rest = ']' :: cs)
    (pending : PendingSet) (items : List ClassSet) :
    ReadsSet src pending items (closeSet pending items) (src.skip.goOn cs) where
  isRest := isRest_tail_of_skip_eq h hrest (by decide)
  readSet_eq := by
    intro fuel hfuel
    obtain ⟨n, rfl⟩ := Nat.exists_eq_add_one_of_ne_zero (Nat.ne_zero_of_lt hfuel)
    simp [readSet, hrest]

/-- The text from a set within a set on is shorter than the whole, so what is enough fuel for the
whole is enough for it. -/
theorem ReadsSet.nested {src' inner : Source} {pending : PendingSet} {items first : List ClassSet}
    {s t : ClassSet} {negated : Bool} {cs : List Char} (h : IsClear src.rest)
    (hrest : src.skip.rest = '[' :: cs) (hclass : readAsciiClass cs = none)
    (hstart : readSetStart (src.skip.goOnSkipping cs) = some (negated, first, inner))
    (hset : ReadsSet inner none first t src')
    (hbehind : ReadsSet src' pending (.bracketed negated t :: items) s after) :
    ReadsSet src pending items s after := by
  have hcs := isRest_tail_of_skip_eq h hrest (by decide)
  have hgoOn := Source.isRest_goOnSkipping src.skip hcs.clear
  have hinner := hgoOn.trans (isRest_of_readSetStart hgoOn.clear hstart)
  have hlength := (Source.isRest_skip h).length_le
  rw [hrest, List.length_cons] at hlength
  have hle := hinner.length_le
  have hle' := hset.isRest.length_le
  refine hbehind.step ((hcs.trans hinner).trans hset.isRest) (by omega) fun n hn => ?_
  have hset' := hset.readSet_eq n (by omega)
  simp only [readSet, hrest, hclass, hstart, bind, Option.bind_some, hset']

theorem readsSet_of_readSet {fuel : Nat} {pending : PendingSet} {items : List ClassSet}
    {s : ClassSet} (h : IsClear src.rest)
    (hread : readSet fuel src pending items = some (s, after)) :
    ReadsSet src pending items s after := by
  induction fuel generalizing src after pending items s with
  | zero => cases hread
  | succ fuel ih =>
    have hskip := Source.isRest_skip h
    have hlength := hskip.length_le
    unfold readSet at hread
    simp only at hread
    split at hread
    · cases hread
    · rename_i cs hrest
      obtain ⟨rfl, rfl⟩ := Prod.mk.inj (Option.some.inj hread)
      exact readsSet_close h hrest pending items
    · rename_i cs hrest
      have hcs := isRest_tail_of_skip_eq h hrest (by decide)
      split at hread
      · rename_i rest hclass
        rw [hrest, List.length_cons] at hlength
        have hafter := isRest_of_readAsciiClass hcs.clear hclass
        have hle := hafter.length_le
        have hlt : rest.length < src.rest.length := by omega
        exact (ih hafter.clear hread).step (hcs.trans hafter) hlt fun n _ => by
          simp only [readSet, hrest, hclass]
      · rename_i hclass
        obtain ⟨⟨negated, first, inner⟩, hstart, hread⟩ := Option.bind_eq_some_iff.mp hread
        obtain ⟨⟨t, src'⟩, ht, hread⟩ := Option.bind_eq_some_iff.mp hread
        have hgoOn := Source.isRest_goOnSkipping src.skip hcs.clear
        have hset := ih (isRest_of_readSetStart hgoOn.clear hstart).clear ht
        exact .nested h hrest hclass hstart hset (ih hset.isRest.clear hread)
    · split at hread
      · rename_i op cs hop
        obtain ⟨hcs, hlt⟩ := isRest_of_setOp? hskip.clear hop
        have hlt' : cs.length < src.rest.length := by omega
        refine (ih hcs.clear hread).step (hskip.trans hcs) hlt' fun n _ => ?_
        rw [readSet]
        simp only [hop]
      · rename_i hop
        obtain ⟨⟨t, src'⟩, ht, hread⟩ := Option.bind_eq_some_iff.mp hread
        obtain ⟨hrange, hlt⟩ := isRest_of_readSetRange hskip.clear ht
        have hlt' : src'.rest.length < src.rest.length := by omega
        refine (ih hrange.clear hread).step (hskip.trans hrange) hlt' fun n _ => ?_
        rw [readSet]
        simp only [hop, ht, bind, Option.bind_some]

/-! ## Groups -/

theorem isRest_of_readFlags {negated : Bool} {last : Char} {change change' : FlagChange}
    {cs rest : List Char} (h : IsClear cs)
    (hread : readFlags negated last change cs = some (change', rest)) : IsRest cs rest := by
  induction cs generalizing negated last change with
  | nil => cases hread
  | cons c cs ih =>
    unfold readFlags at hread
    split at hread
    · split at hread
      · cases hread
      · exact (Prod.mk.inj (Option.some.inj hread)).2 ▸ h.isRest
    · split at hread
      · rename_i hc
        split at hread
        · cases hread
        · exact (ih (h.tail (by rw [hc]; decide)) hread).cons c
      · split at hread
        · cases hread
        · rename_i f hf
          have hne : c ≠ '\\' := fun heq => by simp [heq, flag?] at hf
          split at hread
          · cases hread
          · exact (ih (h.tail hne) hread).cons c

theorem isRest_of_readGroupName {cs : List Char} (h : IsClear cs)
    (hread : readGroupName src cs = some after) : IsRest cs after.rest := by
  unfold readGroupName at hread
  simp only at hread
  split at hread
  · rename_i hdrop
    split at hread
    · have hafter := h.isRest_tail_dropWhile (t := '>') (by decide)
      rw [hdrop] at hafter
      exact Option.some.inj hread ▸ hafter
    · cases hread
  · cases hread

theorem isRest_of_readOpening {o : Opening} (h : IsClear src.rest)
    (hread : readOpening src = some (o, after)) : IsRest src.rest after.rest := by
  unfold readOpening at hread
  split at hread
  · cases hread
  · cases hread
  · cases hread
  · cases hread
  · rename_i cs hrest
    obtain ⟨_, hname, heq⟩ := Option.map_eq_some_iff.mp hread
    rw [hrest] at h ⊢
    have hcs : IsClear cs := ((h.tail (by decide)).tail (by decide)).tail (by decide)
    exact (Prod.mk.inj heq).2 ▸ (((isRest_of_readGroupName hcs hname).cons '<').cons 'P').cons '?'
  · rename_i cs _ _ hrest
    obtain ⟨_, hname, heq⟩ := Option.map_eq_some_iff.mp hread
    rw [hrest] at h ⊢
    have hcs : IsClear cs := (h.tail (by decide)).tail (by decide)
    exact (Prod.mk.inj heq).2 ▸ ((isRest_of_readGroupName hcs hname).cons '<').cons '?'
  · rename_i cs _ _ _ _ _ _ hrest
    rw [hrest] at h ⊢
    have hcs : IsClear cs := h.tail (by decide)
    apply IsRest.cons
    split at hread
    · rename_i hflags
      have hafter := isRest_of_readFlags hcs hflags
      exact (Prod.mk.inj (Option.some.inj hread)).2 ▸
        hafter.trans (hafter.clear.isRest_tail (by decide))
    · rename_i hflags
      have hafter := isRest_of_readFlags hcs hflags
      split at hread
      · cases hread
      · exact (Prod.mk.inj (Option.some.inj hread)).2 ▸
          hafter.trans (hafter.clear.isRest_tail (by decide))
    · cases hread
  · exact (Prod.mk.inj (Option.some.inj hread)).2 ▸ h.isRest

theorem isRest_skipLazy (src : Source) {cs : List Char} (h : IsClear cs) :
    IsRest cs (src.skipLazy cs).rest := by
  unfold Source.skipLazy
  split
  · exact h.isRest_tail (by decide)
  · exact h.isRest

end Blocklist.Pattern
