import Blocklist.Proofs.Filter.Shortening

/-! # Marks behind the slash

Repetition marks at the start of a pattern are read as marks on the slash that the path starts with.
A filter whose pattern keeps the slash matches only URLs that start as the front of the filter asks
for. Any other filter lets the slash go: it also matches what it matches without the slash and the
marks. Main statement: `occursIn_iff_of_not_hasFront`. -/

namespace Blocklist.Filter

open Pattern

/-! ## The slash with marks on it -/

/-- An expression all of whose words are empty or start with a slash. -/
structure IsMarkedSlash (x : Expr) : Prop where
  plain : x.IsPlain
  counted : x.IsCounted
  words : ∀ w, Spells x w → w = [] ∨ ∃ w', w = '/' :: w'

theorem isMarkedSlash_letter : IsMarkedSlash (letter '/') where
  plain := trivial
  counted := trivial
  words := fun _ hw => .inr ⟨[], (spells_letter_iff_eq (by decide) (by decide)).mp hw⟩

theorem IsMarkedSlash.times {x : Expr} (h : IsMarkedSlash x) {min : Nat} {max : Option Nat}
    (hmax : ∀ m, max = some m → min ≤ m) : IsMarkedSlash (.times x min max) where
  plain := h.plain
  counted := ⟨h.counted, hmax⟩
  words := by
    intro w hw
    obtain ⟨ws, -, hall, rfl⟩ := spells_times_iff.mp hw
    clear hw
    induction ws with
    | nil => exact .inl rfl
    | cons v vs ih =>
      rcases h.words v (hall v List.mem_cons_self) with rfl | ⟨v', rfl⟩
      · exact ih fun u hu => hall u (List.mem_cons_of_mem _ hu)
      · exact .inr ⟨v' ++ vs.flatten, rfl⟩

theorem spells_times_nil_iff {x : Expr} {min : Nat} {max : Option Nat}
    (hmax : ∀ m, max = some m → min ≤ m) :
    Spells (.times x min max) [] ↔ min = 0 ∨ Spells x [] := by
  rw [spells_times_iff]
  constructor
  · rintro ⟨ws, ⟨hmin, -⟩, hall, hnil⟩
    cases ws with
    | nil => exact .inl (Nat.le_zero.mp hmin)
    | cons v vs =>
      obtain ⟨rfl, -⟩ := List.append_eq_nil_iff.mp hnil.symm
      exact .inr (hall [] List.mem_cons_self)
  · intro h
    refine ⟨List.replicate min [], by simpa [Allows] using hmax, fun w hw => ?_, by simp⟩
    obtain ⟨hne, rfl⟩ := List.mem_replicate.mp hw
    exact h.resolve_left hne

/-- The meaning of the slash with marks on it. It lets the slash go if one of the marks does. -/
theorem exists_toExpr?_markedSlash {counts : List Count} (h : ∀ n ∈ counts, IsMarkCount n) :
    ∃ x, ((literal '/').repeated counts).toExpr? .filter = some (x, .filter) ∧ IsMarkedSlash x ∧
      (Spells x [] ↔ ¬ ∀ n ∈ counts, n = .oneOrMore) := by
  induction counts using List.reverseRecOn with
  | nil =>
    refine ⟨letter '/', rfl, isMarkedSlash_letter, ?_⟩
    simp [spells_letter_iff]
  | append_singleton counts count ih =>
    obtain ⟨x, hx, hslash, hnil⟩ := ih fun n hn => h n (List.mem_append_left _ hn)
    have hmeaning : ((literal '/').repeated (counts ++ [count])).toExpr? .filter =
        some (.times x count.bounds.1 count.bounds.2, .filter) := by
      simp only [Ast.repeated, List.foldl_append, List.foldl_cons, List.foldl_nil] at hx ⊢
      rw [Ast.toExpr?, hx]
      rfl
    have hbounds : (∀ m, count.bounds.2 = some m → count.bounds.1 ≤ m) ∧
        (count.bounds.1 = 0 ↔ count ≠ .oneOrMore) := by
      rcases h count (by simp) with rfl | rfl | rfl <;> simp [Count.bounds]
    refine ⟨_, hmeaning, hslash.times hbounds.1, ?_⟩
    rw [spells_times_nil_iff hbounds.1, hbounds.2, hnil, List.forall_mem_append]
    simp only [List.mem_singleton, forall_eq]
    tauto

/-- A word at a place of a text is matched there. -/
theorem matches_of_spells_drop {e : Expr} {cs w post : List Char} {i : Nat} (hi : i ≤ cs.length)
    (hw : Spells e w) (hdrop : cs.drop i = w ++ post) :
    Matches cs.toArray e i (i + w.length) := by
  have h := matches_of_spells hw (cs.take i) post
  rwa [List.append_assoc, ← hdrop, List.take_append_drop, List.length_append, List.length_take,
    Nat.min_eq_left hi] at h

/-- Where no slash follows, a slash with marks on it can only be left out. -/
theorem IsMarkedSlash.testBit_reach_iff {x : Expr} (h : IsMarkedSlash x) {cs : List Char} {s : Nat}
    (hs : IsWithin cs.length s) (hslash : ((letter '/').over cs).reach (cs.length + 1) s = 0)
    (j : Nat) :
    ((x.over cs).reach (cs.length + 1) s).testBit j ↔ s.testBit j ∧ Spells x [] := by
  obtain ⟨-, hbits⟩ := follows_reach cs h.counted s hs
  rw [hbits]
  constructor
  · rintro ⟨i, hi, hij⟩
    obtain ⟨hle, hj, hword⟩ := spells_of_matches h.plain (hs i hi) hij
    rcases h.words _ hword with hnil | ⟨w, hw⟩
    · have hlength := congrArg List.length hnil
      simp only [slice, List.length_take, List.length_drop, List.length_nil] at hlength
      obtain rfl : i = j := by omega
      rw [hnil] at hword
      exact ⟨hi, hword⟩
    · -- Here a slash does follow.
      obtain ⟨post, hpost⟩ : slice cs i j <+: cs.drop i := List.take_prefix _ _
      rw [hw] at hpost
      have hletter : Spells (letter '/') ['/'] :=
        (spells_letter_iff_eq (by decide) (by decide)).mpr rfl
      have hmatch := matches_of_spells_drop (hs i hi) hletter hpost.symm
      obtain ⟨-, hfollows⟩ := follows_reach cs (e := letter '/') trivial s hs
      have hbit := (hfollows _).mpr ⟨i, hi, hmatch⟩
      rw [hslash, Nat.zero_testBit] at hbit
      cases hbit
  · rintro ⟨hj, hnil⟩
    exact ⟨j, hj, matches_of_spells_drop (hs j hj) hnil rfl⟩

theorem IsMarkedSlash.reach_eq_self {x : Expr} (h : IsMarkedSlash x) {cs : List Char} {s : Nat}
    (hs : IsWithin cs.length s) (hslash : ((letter '/').over cs).reach (cs.length + 1) s = 0)
    (hnil : Spells x []) : (x.over cs).reach (cs.length + 1) s = s := by
  refine Nat.eq_of_testBit_eq fun j => Bool.eq_iff_iff.mpr ?_
  rw [h.testBit_reach_iff hs hslash, and_iff_left hnil]

theorem IsMarkedSlash.reach_eq_zero {x : Expr} (h : IsMarkedSlash x) {cs : List Char} {s : Nat}
    (hs : IsWithin cs.length s) (hslash : ((letter '/').over cs).reach (cs.length + 1) s = 0)
    (hnil : ¬ Spells x []) : (x.over cs).reach (cs.length + 1) s = 0 := by
  refine Nat.eq_of_testBit_eq fun j => Bool.eq_iff_iff.mpr ?_
  rw [h.testBit_reach_iff hs hslash, Nat.zero_testBit]
  simp [hnil]

/-! ## Filters without the slash -/

/-- The text of a filter without the slash and the marks on it. -/
def slashlessChars (domain pattern : List Char) (subdomains : Bool) : List Char :=
  frontChars domain subdomains ++ dropMarks (dropSlash pattern)

/-- The meaning of a filter up to the port. -/
def frontExpr (domain : List Char) (subdomains : Bool) : Expr :=
  (Expr.look .textStart :: frontExprs domain subdomains).foldr Expr.seq .empty

theorem isCounted_frontExpr (domain : List Char) (subdomains : Bool) :
    (frontExpr domain subdomains).IsCounted :=
  ⟨trivial, isCounted_foldr_seq (fun _ hx => (isPlain_of_mem_frontExprs hx).2) trivial⟩

/-- Parts that keep the mode mean what they mean one after the other. -/
theorem exists_toExpr?_ofParts {m : Mode} {es : List Ast} {xs : List Expr}
    (h : List.Forall₂ (fun e x => e.toExpr? m = some (x, m)) es xs) (hne : es ≠ []) :
    ∃ x, (Ast.ofParts es).toExpr? m = some (x, m) ∧ ∀ cs bound s,
      (x.over cs).reach bound s = ((xs.foldr Expr.seq .empty).over cs).reach bound s := by
  induction h with
  | nil => exact absurd rfl hne
  | @cons e x es xs he hes ih =>
    cases hes with
    | nil => exact ⟨x, he, fun _ _ _ => rfl⟩
    | @cons f y es xs hf hes =>
      obtain ⟨z, hz, hreach⟩ := ih (List.cons_ne_nil _ _)
      have hparts : Ast.ofParts (e :: f :: es) = .concat e (.ofParts (f :: es)) := rfl
      refine ⟨.seq x z, ?_, fun cs bound s => hreach cs bound _⟩
      rw [hparts, Ast.toExpr?, he]
      simp only [bind, Option.bind_some, hz]
      rfl

/-- The meaning `e` of a filter with an expression `x` behind its front, and the meaning `y` of the
same filter without it: both go on with `g`. -/
structure IsAround (domain : List Char) (subdomains : Bool) (x e y g : Expr) : Prop where
  reach_eq : ∀ cs bound s, (e.over cs).reach bound s = (g.over cs).reach bound
    ((x.over cs).reach bound (((frontExpr domain subdomains).over cs).reach bound s))
  reach_without_eq : ∀ cs bound s, (y.over cs).reach bound s =
    (g.over cs).reach bound (((frontExpr domain subdomains).over cs).reach bound s)

theorem frontAsts_ne_nil (domain : List Char) (subdomains : Bool) :
    frontAsts domain subdomains ≠ [] := by
  simp [frontAsts, schemeAsts]

theorem exists_isAround {domain : List Char} {subdomains : Bool} {slash : Ast} {new : List Ast}
    {x e : Expr} {m : Mode} (hx : slash.toExpr? .filter = some (x, .filter))
    (he : (Ast.ofParts (frontAsts domain subdomains ++ slash :: new)).toExpr? .filter =
      some (e, m)) :
    ∃ y g, (Ast.ofParts (frontAsts domain subdomains ++ new)).toExpr? .filter = some (y, m) ∧
      IsAround domain subdomains x e y g := by
  have hfront := toExpr?_frontAsts domain subdomains
  rw [toExpr?_ofParts_append hfront (List.cons_ne_nil _ _)] at he
  obtain ⟨⟨f, m'⟩, hf, heq⟩ := Option.map_eq_some_iff.mp he
  obtain ⟨rfl, rfl⟩ := Prod.mk.inj heq
  cases new with
  | nil =>
    obtain ⟨rfl, rfl⟩ := Prod.mk.inj (Option.some.inj (hx.symm.trans hf))
    obtain ⟨y, hy, hreach⟩ := exists_toExpr?_ofParts hfront (frontAsts_ne_nil _ _)
    exact ⟨y, .empty, by rwa [List.append_nil], fun cs bound s => reach_foldr_seq cs bound _ x s,
      hreach⟩
  | cons part parts =>
    have hcons : Ast.ofParts (slash :: part :: parts) =
        .concat slash (.ofParts (part :: parts)) := rfl
    rw [hcons, Ast.toExpr?, hx] at hf
    simp only [bind, Option.bind_some, pure] at hf
    obtain ⟨⟨g, m''⟩, hg, heq⟩ := Option.bind_eq_some_iff.mp hf
    obtain ⟨rfl, rfl⟩ := Prod.mk.inj (Option.some.inj heq)
    exact ⟨_, g, by rw [toExpr?_ofParts_append hfront (List.cons_ne_nil _ _), hg]; rfl,
      fun cs bound s => reach_foldr_seq cs bound _ (.seq x g) s,
      fun cs bound s => reach_foldr_seq cs bound _ g s⟩

theorem depth_slashless_le {domain : List Char} {subdomains : Bool} {slash : Ast} {new : List Ast}
    (h : (Ast.ofParts (frontAsts domain subdomains ++ slash :: new)).depth ≤ maxDepth) :
    (Ast.ofParts (frontAsts domain subdomains ++ new)).depth ≤ maxDepth := by
  cases new with
  | nil =>
    rw [List.append_nil]
    exact Nat.le_trans (depth_ofParts_le fun e he => depth_of_mem_frontAsts he) (by decide)
  | cons part parts =>
    have hne := frontAsts_ne_nil domain subdomains
    obtain ⟨hfront, hrest⟩ :=
      (depth_ofParts_append_le_iff (n := 249) hne (List.cons_ne_nil _ _)).mp h
    have hcons : (Ast.ofParts (slash :: part :: parts)).concatDepth =
        max slash.depth (Ast.ofParts (part :: parts)).concatDepth := rfl
    rw [hcons] at hrest
    exact (depth_ofParts_append_le_iff (n := 249) hne (List.cons_ne_nil _ _)).mpr
      ⟨hfront, (Nat.max_le.mp hrest).2⟩

section

variable {domain : List Char} (hne : domain ≠ []) (hdomain : ∀ c ∈ domain, Host.isHostChar c)

include hne hdomain

/-- The tree of a filter is that of its front, the slash with the marks on it, and what the pattern
has behind them. Without the slash the same is left. -/
theorem exists_parse?_slashless {pattern : List Char} {subdomains : Bool} {e : Ast}
    (hclear : IsClear (dropSlash pattern))
    (h : parse? (urlFilterChars domain pattern subdomains) = some e) :
    ∃ counts new, HasMarks (dropSlash pattern) counts ∧
      e = .ofParts (frontAsts domain subdomains ++ (literal '/').repeated counts :: new) ∧
      parse? (slashlessChars domain pattern subdomains) =
        some (.ofParts (frontAsts domain subdomains ++ new)) := by
  obtain ⟨src, hbody, hend, hdepth⟩ := parse?_eq_some_iff.mp h
  obtain ⟨fuel, hfuel, hread⟩ := readBody_urlFilterChars hne hdomain pattern subdomains
  obtain ⟨counts, hcounts⟩ := exists_hasMarks (dropSlash pattern)
  obtain ⟨fuel', -, hmarks⟩ := hcounts.readBody_eq fuel hfuel
  have hslash : (literal '/').IsRepeatable := fun change => by simp [literal]
  rw [hread, show literal '/' = (literal '/').repeated [] from rfl, hmarks _ _ _ _ hslash,
    List.nil_append] at hbody
  -- Behind the marks both texts go on alike, so both readings add the same parts.
  obtain ⟨moves, parts, hmoves, hreplay, rfl⟩ :=
    isReplay_of_readBody (isClear_dropMarks hclear) hbody
  obtain ⟨new, rfl, hall⟩ :=
    hmoves.exists_of_replay (not_startsRepetition_dropMarks (dropSlash pattern)) hreplay
  obtain ⟨fuel'', hfuel'', hread'⟩ :=
    readBody_frontChars hne hdomain subdomains (head?_dropMarks (dropSlash pattern))
  have hbody' := hmoves.readBody_eq fuel'' hfuel'' [] (frontAsts domain subdomains).reverse
  rw [hall, Option.map_some] at hbody'
  have htree : finished []
      (new ++ (literal '/').repeated counts :: (frontAsts domain subdomains).reverse) =
      .ofParts (frontAsts domain subdomains ++ (literal '/').repeated counts :: new.reverse) := by
    simp [finished, Ast.ofAlternatives]
  have htree' : finished [] (new ++ (frontAsts domain subdomains).reverse) =
      .ofParts (frontAsts domain subdomains ++ new.reverse) := by
    simp [finished, Ast.ofAlternatives]
  rw [htree] at hdepth ⊢
  rw [htree'] at hbody'
  exact ⟨counts, new.reverse, hcounts, rfl, parse?_eq_some_iff.mpr
    ⟨src, hread'.trans hbody', hend, depth_slashless_le hdepth⟩⟩

variable [SizeLimit]

/-- If a filter can be compiled, so can the filter without the slash. -/
theorem exists_slashless {pattern : List Char} {subdomains : Bool} {p : Pattern}
    (hclear : IsClear (dropSlash pattern))
    (h : compileChars (urlFilterChars domain pattern subdomains) .filter = .ok p) :
    ∃ x q g, IsMarkedSlash x ∧ (Spells x [] ↔ ¬ keepsSlash (dropSlash pattern)) ∧
      compileChars (slashlessChars domain pattern subdomains) .filter = .ok q ∧
      IsAround domain subdomains x p.expr q.expr g := by
  obtain ⟨e, m, hparse, hmeaning, hfits⟩ := compileChars_eq_ok_iff.mp h
  obtain ⟨counts, new, hcounts, rfl, hparse'⟩ := exists_parse?_slashless hne hdomain hclear hparse
  obtain ⟨x, hx, hmarked, hnil⟩ := exists_toExpr?_markedSlash hcounts.isMarkCount
  obtain ⟨y, g, hy, haround⟩ := exists_isAround hx hmeaning
  rw [← hcounts.keepsSlash_iff] at hnil
  refine ⟨x, ⟨y⟩, g, hmarked, hnil, ?_, haround⟩
  exact compileChars_eq_ok_iff.mpr ⟨_, m, hparse', hy, SizeLimit.fits_of_literal hfits⟩

/-- If a filter can be compiled, so can the filter without its pattern. -/
theorem exists_compileChars_hostFilter {pattern : List Char} {subdomains : Bool} {p : Pattern}
    (hclear : IsClear (dropSlash pattern))
    (h : compileChars (urlFilterChars domain pattern subdomains) .filter = .ok p) :
    ∃ q, compileChars (urlFilterChars domain [] subdomains) .filter = .ok q := by
  obtain ⟨e, m, hparse, -, hfits⟩ := compileChars_eq_ok_iff.mp h
  obtain ⟨counts, new, hcounts, rfl, -⟩ := exists_parse?_slashless hne hdomain hclear hparse
  have hmarks : ∀ n ∈ counts, n.isNumeric = false := by
    intro n hn
    rcases hcounts.isMarkCount n hn with rfl | rfl | rfl <;> rfl
  rw [List.append_cons] at hfits
  exact ⟨⟨_⟩, compileChars_eq_ok_iff.mpr ⟨_, _, parse?_hostFilter hne hdomain subdomains,
    toExpr?_hostAst domain subdomains,
    SizeLimit.fits_of_marks hmarks (SizeLimit.fits_of_append hfits)⟩⟩

/-- A filter matches a URL that does not start as its front asks for exactly if the pattern lets the
slash go and the filter without the slash matches the URL. -/
theorem occursIn_iff_of_not_hasFront {pattern : List Char} {subdomains : Bool} {p : Pattern}
    (hclear : IsClear (dropSlash pattern))
    (h : compileChars (urlFilterChars domain pattern subdomains) .filter = .ok p) {url : List Char}
    (hfront : ¬ HasFront domain subdomains url) :
    p.expr.occursIn url ↔ ¬ keepsSlash (dropSlash pattern) ∧
      ∃ q, compileChars (slashlessChars domain pattern subdomains) .filter = .ok q ∧
        q.expr.occursIn url := by
  obtain ⟨x, q, g, hmarked, hnil, hq, haround⟩ := exists_slashless hne hdomain hclear h
  -- The front ends at no place where a slash follows.
  let ends := ((frontExpr domain subdomains).over url).reach (url.length + 1)
    (1 <<< (url.length + 1) - 1)
  have hwithin : IsWithin url.length ends :=
    (follows_reach url (isCounted_frontExpr domain subdomains) _ (isWithin_all _)).1
  have hslash : ((letter '/').over url).reach (url.length + 1) ends = 0 := by
    rw [← occursIn_front_slash_iff, Expr.occursIn, reach_foldr_seq, bne_iff_ne, not_not] at hfront
    exact hfront
  have hp : p.expr.occursIn url ↔
      (g.over url).reach (url.length + 1) ((x.over url).reach (url.length + 1) ends) ≠ 0 := by
    rw [Expr.occursIn, haround.reach_eq, bne_iff_ne]
  have hq' : q.expr.occursIn url ↔ (g.over url).reach (url.length + 1) ends ≠ 0 := by
    rw [Expr.occursIn, haround.reach_without_eq, bne_iff_ne]
  simp only [hp, ← hnil, hq, Except.ok.injEq, exists_eq_left', hq']
  by_cases hempty : Spells x []
  · rw [hmarked.reach_eq_self hwithin hslash hempty]
    simp [hempty]
  · rw [hmarked.reach_eq_zero hwithin hslash hempty, Steps.reach_zero]
    simp [hempty]

/-- A URL that a filter matches starts as its front asks for, if the pattern keeps the slash. -/
theorem hasFront_of_occursIn {pattern : List Char} {subdomains : Bool} {p : Pattern}
    (hclear : IsClear (dropSlash pattern)) (hkeeps : keepsSlash (dropSlash pattern))
    (h : compileChars (urlFilterChars domain pattern subdomains) .filter = .ok p)
    {url : List Char} (hmatch : p.expr.occursIn url) : HasFront domain subdomains url := by
  by_contra hfront
  exact ((occursIn_iff_of_not_hasFront hne hdomain hclear h hfront).mp hmatch).1 hkeeps

end

end Blocklist.Filter
