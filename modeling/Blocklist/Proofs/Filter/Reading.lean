import Blocklist.Proofs.Host.NormalForm
import Blocklist.Proofs.Pattern.Trace

/-! # Reading URL filters

The front of a URL filter, up to the port, is read in the same way whatever follows it. The slash
that the path starts with is one part behind the front. Repetition marks at the start of the pattern
are put on the slash, and what the pattern has behind them is read as it is. -/

namespace Blocklist.Filter

open Pattern

/-- A character that stands for itself. -/
def literal (c : Char) : Ast := .literal ⟨c, false⟩

/-- The tree of `^(https?)?(wss?)?://`, part by part. -/
def schemeAsts : List Ast :=
  [.assertion .startLine,
    .repetition (.group .capture (.ofParts
      [literal 'h', literal 't', literal 't', literal 'p',
        .repetition (literal 's') .zeroOrOne])) .zeroOrOne,
    .repetition (.group .capture (.ofParts
      [literal 'w', literal 's', .repetition (literal 's') .zeroOrOne])) .zeroOrOne,
    literal ':', literal '/', literal '/']

/-- The tree of `[a-z0-9_-]`. -/
def labelAst : Ast :=
  .bracketed false (.ofItems [.range ⟨'a', false⟩ ⟨'z', false⟩, .range ⟨'0', false⟩ ⟨'9', false⟩,
    .literal ⟨'_', false⟩, .literal ⟨'-', false⟩])

/-- The tree of `([a-z0-9_-]+\.)*`. -/
def subdomainAst : Ast :=
  .repetition (.group .capture (.ofParts [.repetition labelAst .oneOrMore, literal '.']))
    .zeroOrMore

/-- The tree of `(:[0-9]+)?`. -/
def portAst : Ast :=
  .repetition (.group .capture (.ofParts [literal ':',
    .repetition (.bracketed false (.range ⟨'0', false⟩ ⟨'9', false⟩)) .oneOrMore])) .zeroOrOne

/-- The tree of a filter up to the port, part by part. -/
def frontAsts (domain : List Char) (subdomains : Bool) : List Ast :=
  schemeAsts ++ (if subdomains then [subdomainAst] else []) ++ domain.map literal ++ [portAst]

/-! ## The parts of the front -/

theorem readBody_schemePart (fuel : Nat) (rest : List Char) (branches parts : List Ast) :
    readBody (fuel + 20) ⟨schemePart.toList ++ rest, false, []⟩ branches parts =
      readBody (fuel + 12) ⟨rest, false, []⟩ branches (schemeAsts.reverse ++ parts) := by
  rfl

theorem readBody_escaped {c : Char} (hc : c = '.' ∨ c = '/') (fuel : Nat) (rest : List Char)
    (branches parts : List Ast) :
    readBody (fuel + 1) ⟨'\\' :: c :: rest, false, []⟩ branches parts =
      readBody fuel ⟨rest, false, []⟩ branches (literal c :: parts) := by
  have hescapable : isEscapable c = true := by
    rcases hc with rfl | rfl <;> decide +kernel
  have hescape : readEscape ⟨c :: rest, false, []⟩ =
      some (.literal ⟨c, false⟩, ⟨rest, false, []⟩) := by
    rcases hc with rfl | rfl <;> simp [readEscape, hescapable, Source.goOn]
  have hskip : (Source.mk ('\\' :: c :: rest) false []).skip = ⟨'\\' :: c :: rest, false, []⟩ := rfl
  rw [readBody, hskip]
  simp only [Source.goOn, hescape]
  rfl

theorem readBody_group {fuel : Nat} {cs rest : List Char} {branches parts : List Ast} {e : Ast}
    (hopening : readOpening ⟨cs, false, []⟩ = some (.group .capture, ⟨cs, false, []⟩))
    (hgroup : readBody fuel ⟨cs, false, []⟩ [] [] = some (e, ⟨')' :: rest, false, []⟩)) :
    readBody (fuel + 1) ⟨'(' :: cs, false, []⟩ branches parts =
      readBody fuel ⟨rest, false, []⟩ branches (.group .capture e :: parts) := by
  have hskip : (Source.mk ('(' :: cs) false []).skip = ⟨'(' :: cs, false, []⟩ := rfl
  have hgoOn : (Source.mk ('(' :: cs) false []).goOnSkipping cs = ⟨cs, false, []⟩ := rfl
  rw [readBody, hskip]
  simp only [hgoOn, hopening, bind, Option.bind_some]
  have hverbose : FlagChange.verbose GroupKind.capture.change false = false := rfl
  simp only [hverbose, hgroup, Option.bind_some]

theorem readBody_set {fuel : Nat} {cs rest : List Char} {branches parts : List Ast} {s : ClassSet}
    (hstart : readSetStart ⟨cs, false, []⟩ = some (false, [], ⟨cs, false, []⟩))
    (hset : readSet fuel ⟨cs, false, []⟩ none [] = some (s, ⟨rest, false, []⟩)) :
    readBody (fuel + 1) ⟨'[' :: cs, false, []⟩ branches parts =
      readBody fuel ⟨rest, false, []⟩ branches (.bracketed false s :: parts) := by
  have hskip : (Source.mk ('[' :: cs) false []).skip = ⟨'[' :: cs, false, []⟩ := rfl
  have hgoOn : (Source.mk ('[' :: cs) false []).goOnSkipping cs = ⟨cs, false, []⟩ := rfl
  rw [readBody, hskip]
  simp only [hgoOn, hstart, hset, bind, Option.bind_some]

theorem skipLazy_eq {text rest : List Char} (h : rest.head? ≠ some '?') :
    (Source.mk text false []).skipLazy rest = ⟨rest, false, []⟩ := by
  unfold Source.skipLazy
  split
  · exact absurd rfl h
  · rfl

theorem readBody_subdomainPart (fuel : Nat) {rest : List Char} (hrest : rest.head? ≠ some '?')
    (branches parts : List Ast) :
    readBody (fuel + 16) ⟨subdomainPart.toList ++ rest, false, []⟩ branches parts =
      readBody (fuel + 14) ⟨rest, false, []⟩ branches (subdomainAst :: parts) := by
  have hgroup : readBody (fuel + 15) ⟨"[a-z0-9_-]+\\.)*".toList ++ rest, false, []⟩ [] [] =
      some (.ofParts [.repetition labelAst .oneOrMore, literal '.'],
        ⟨')' :: '*' :: rest, false, []⟩) := by
    calc
      _ = readBody (fuel + 14) ⟨"+\\.)*".toList ++ rest, false, []⟩ [] [labelAst] :=
        readBody_set rfl rfl
      _ = readBody (fuel + 13) ⟨'\\' :: '.' :: ')' :: '*' :: rest, false, []⟩ []
          [.repetition labelAst .oneOrMore] := rfl
      _ = _ := by
        rw [readBody_escaped (.inl rfl)]
        rfl
  calc
    _ = readBody (fuel + 15) ⟨'*' :: rest, false, []⟩ branches
        (.group .capture (.ofParts [.repetition labelAst .oneOrMore, literal '.']) :: parts) :=
      readBody_group rfl hgroup
    _ = readBody (fuel + 14) ((Source.mk ('*' :: rest) false []).skipLazy rest) branches
        (subdomainAst :: parts) := rfl
    _ = _ := by rw [skipLazy_eq hrest]

theorem readBody_literal {c : Char} (hc : Host.isHostChar c) (hdot : c ≠ '.') (fuel : Nat)
    (rest : List Char) (branches parts : List Ast) :
    readBody (fuel + 1) ⟨c :: rest, false, []⟩ branches parts =
      readBody fuel ⟨rest, false, []⟩ branches (literal c :: parts) := by
  have hne : ∀ d : Char, ¬ Host.isHostChar d → c ≠ d := fun d hd heq => hd (heq ▸ hc)
  have hskip : (Source.mk (c :: rest) false []).skip = ⟨c :: rest, false, []⟩ := rfl
  rw [readBody, hskip]
  simp only
  split
  all_goals first
    | exact absurd rfl (hne _ (by decide))
    | exact absurd rfl hdot
    | rfl

/-- The domain is read character by character. -/
theorem readBody_domain {domain : List Char} (hdomain : ∀ c ∈ domain, Host.isHostChar c)
    (fuel : Nat) (rest : List Char) (branches parts : List Ast) :
    readBody (fuel + domain.length) ⟨escapeDomainChars domain ++ rest, false, []⟩ branches parts =
      readBody fuel ⟨rest, false, []⟩ branches ((domain.map literal).reverse ++ parts) := by
  induction domain generalizing parts with
  | nil => rfl
  | cons c cs ih =>
    have hcs : ∀ d ∈ cs, Host.isHostChar d := fun d hd => hdomain d (List.mem_cons_of_mem c hd)
    have hstep : readBody (fuel + cs.length + 1) ⟨escapeDomainChars (c :: cs) ++ rest, false, []⟩
        branches parts = readBody (fuel + cs.length) ⟨escapeDomainChars cs ++ rest, false, []⟩
        branches (literal c :: parts) := by
      by_cases hdot : c = '.'
      · subst hdot
        exact readBody_escaped (.inl rfl) _ _ _ _
      · have hcons : escapeDomainChars (c :: cs) = c :: escapeDomainChars cs := by
          simp [escapeDomainChars, hdot]
        rw [hcons]
        exact readBody_literal (hdomain c List.mem_cons_self) hdot _ _ _ _
    rw [List.length_cons, ← Nat.add_assoc, hstep, ih hcs]
    simp

/-- An optional port. -/
def portPart : String := "(:[0-9]+)?"

theorem readBody_portPart (fuel : Nat) {rest : List Char} (hrest : rest.head? ≠ some '?')
    (branches parts : List Ast) :
    readBody (fuel + 10) ⟨portPart.toList ++ rest, false, []⟩ branches parts =
      readBody (fuel + 8) ⟨rest, false, []⟩ branches (portAst :: parts) := by
  calc
    _ = readBody (fuel + 8) ((Source.mk ('?' :: rest) false []).skipLazy rest) branches
        (portAst :: parts) := rfl
    _ = _ := by rw [skipLazy_eq hrest]

/-! ## The front -/

theorem length_le_length_escapeDomainChars (domain : List Char) :
    domain.length ≤ (escapeDomainChars domain).length := by
  induction domain with
  | nil => rfl
  | cons c cs ih =>
    by_cases hc : c = '.' <;> simp [escapeDomainChars, hc] at ih ⊢ <;> omega

/-- The domain of a filter starts with a character that makes no repetition lazy. -/
theorem head?_escapeDomainChars_append {domain : List Char} (hne : domain ≠ [])
    (hdomain : ∀ c ∈ domain, Host.isHostChar c) (rest : List Char) :
    (escapeDomainChars domain ++ rest).head? ≠ some '?' := by
  obtain ⟨c, cs, rfl⟩ := List.exists_cons_of_ne_nil hne
  by_cases hc : c = '.'
  · simp [escapeDomainChars, hc]
  · have hmark : c ≠ '?' := by
      rintro rfl
      exact absurd (hdomain '?' List.mem_cons_self) (by decide)
    simpa [escapeDomainChars, hc] using hmark

/-- The text of a filter up to the port. -/
def frontChars (domain : List Char) (subdomains : Bool) : List Char :=
  schemePart.toList ++ (if subdomains then subdomainPart.toList else []) ++
    escapeDomainChars domain ++ portPart.toList

theorem urlFilterChars_eq (domain pattern : List Char) (subdomains : Bool) :
    urlFilterChars domain pattern subdomains =
      frontChars domain subdomains ++ '/' :: dropSlash pattern := by
  have hend : hostEnd.toList = portPart.toList ++ ['/'] := rfl
  simp [urlFilterChars, frontChars, hend]

/-- What stands behind the scheme and the subdomains is read up to the port. -/
theorem readBody_domain_port {domain : List Char} (hdomain : ∀ c ∈ domain, Host.isHostChar c)
    {rest : List Char} (hrest : rest.head? ≠ some '?') (parts : List Ast) {fuel : Nat}
    (hfuel : (escapeDomainChars domain ++ portPart.toList ++ rest).length < fuel) :
    ∃ fuel', rest.length < fuel' ∧
      readBody fuel ⟨escapeDomainChars domain ++ portPart.toList ++ rest, false, []⟩ [] parts =
        readBody fuel' ⟨rest, false, []⟩ []
          (portAst :: ((domain.map literal).reverse ++ parts)) := by
  have hlength := length_le_length_escapeDomainChars domain
  have hport : portPart.toList.length = 10 := by decide
  simp only [List.length_append, hport] at hfuel
  obtain ⟨n, rfl⟩ : ∃ n, fuel = n + 10 + domain.length := ⟨fuel - 10 - domain.length, by omega⟩
  refine ⟨n + 8, by omega, ?_⟩
  rw [List.append_assoc, readBody_domain hdomain, readBody_portPart n hrest]

section

variable {domain : List Char} (hne : domain ≠ []) (hdomain : ∀ c ∈ domain, Host.isHostChar c)

include hne hdomain

/-- A filter is read up to the port in the same way whatever follows. -/
theorem readBody_frontChars (subdomains : Bool) {rest : List Char} (hrest : rest.head? ≠ some '?') :
    ∃ fuel, rest.length < fuel ∧
      readBody ((frontChars domain subdomains ++ rest).length + 1)
          ⟨frontChars domain subdomains ++ rest, false, []⟩ [] [] =
        readBody fuel ⟨rest, false, []⟩ [] (frontAsts domain subdomains).reverse := by
  have hscheme : schemePart.toList.length = 20 := by decide
  have hsubdomain : subdomainPart.toList.length = 16 := by decide
  let tail := escapeDomainChars domain ++ portPart.toList ++ rest
  cases subdomains with
  | false =>
    have htext : frontChars domain false ++ rest = schemePart.toList ++ tail := by
      simp [frontChars, tail]
    have hlength : (schemePart.toList ++ tail).length + 1 = tail.length + 1 + 20 := by
      rw [List.length_append, hscheme]
      omega
    obtain ⟨fuel, hfuel, hread⟩ := readBody_domain_port hdomain hrest
      (schemeAsts.reverse ++ []) (show tail.length < tail.length + 1 + 12 by omega)
    refine ⟨fuel, hfuel, ?_⟩
    rw [htext, hlength, readBody_schemePart, hread]
    simp [frontAsts]
  | true =>
    have htext : frontChars domain true ++ rest =
        schemePart.toList ++ (subdomainPart.toList ++ tail) := by
      simp [frontChars, tail]
    have hlength : (schemePart.toList ++ (subdomainPart.toList ++ tail)).length + 1 =
        tail.length + 17 + 20 := by
      rw [List.length_append, List.length_append, hscheme, hsubdomain]
      omega
    have htail : tail.head? ≠ some '?' := by
      rw [show tail = escapeDomainChars domain ++ (portPart.toList ++ rest) by simp [tail]]
      exact head?_escapeDomainChars_append hne hdomain _
    obtain ⟨fuel, hfuel, hread⟩ := readBody_domain_port hdomain hrest
      (subdomainAst :: (schemeAsts.reverse ++ []))
      (show tail.length < tail.length + 13 + 14 by omega)
    refine ⟨fuel, hfuel, ?_⟩
    calc
      _ = readBody (tail.length + 13 + 16) ⟨subdomainPart.toList ++ tail, false, []⟩ []
          (schemeAsts.reverse ++ []) := by rw [htext, hlength, readBody_schemePart]
      _ = _ := by
        rw [readBody_subdomainPart _ htail, hread]
        simp [frontAsts]

/-- A filter is read up to the slash in the same way whatever pattern follows. -/
theorem readBody_urlFilterChars (pattern : List Char) (subdomains : Bool) :
    ∃ fuel, (dropSlash pattern).length < fuel ∧
      readBody ((urlFilterChars domain pattern subdomains).length + 1)
          ⟨urlFilterChars domain pattern subdomains, false, []⟩ [] [] =
        readBody fuel ⟨dropSlash pattern, false, []⟩ []
          (literal '/' :: (frontAsts domain subdomains).reverse) := by
  have hhead : ('/' :: dropSlash pattern).head? ≠ some '?' := by simp
  obtain ⟨fuel, hfuel, hread⟩ := readBody_frontChars hne hdomain subdomains hhead
  rw [List.length_cons] at hfuel
  obtain ⟨n, rfl⟩ : ∃ n, fuel = n + 1 := ⟨fuel - 1, by omega⟩
  refine ⟨n, by omega, ?_⟩
  rw [urlFilterChars_eq, hread]
  rfl

end

/-! ## The pattern -/

/-- Whether a pattern, behind a slash, lets no URL go without the slash. A repetition mark at its
start repeats the slash; only `+` asks for it then. A `?` behind the mark makes it lazy. -/
def keepsSlash : List Char → Bool
  | '*' :: _ | '?' :: _ => false
  | '+' :: '?' :: cs => keepsSlash cs
  | '+' :: cs => keepsSlash cs
  | _ => true

/-- Whether a character is a repetition mark. -/
def isMark (c : Char) : Bool :=
  c == '?' || c == '*' || c == '+'

/-- A pattern without the repetition marks at its start. -/
def dropMarks (pattern : List Char) : List Char := pattern.dropWhile isMark

/-- The counts that are written as one mark. -/
def IsMarkCount (count : Count) : Prop :=
  count = .zeroOrOne ∨ count = .zeroOrMore ∨ count = .oneOrMore

/-- The marks at the start of a text are read as some counts on the part in front, the first one
innermost, and what is behind them is left. -/
structure HasMarks (cs : List Char) (counts : List Count) : Prop where
  isMarkCount : ∀ n ∈ counts, IsMarkCount n
  keepsSlash_iff : keepsSlash cs ↔ ∀ n ∈ counts, n = .oneOrMore
  readBody_eq : ∀ fuel, cs.length < fuel → ∃ fuel', (dropMarks cs).length < fuel' ∧
    ∀ (x : Ast) (inner : List Count) (branches parts : List Ast), x.IsRepeatable →
      readBody fuel ⟨cs, false, []⟩ branches (x.repeated inner :: parts) =
        readBody fuel' ⟨dropMarks cs, false, []⟩ branches (x.repeated (inner ++ counts) :: parts)

theorem hasMarks_nil {cs : List Char} (hcs : dropMarks cs = cs) (hkeeps : keepsSlash cs) :
    HasMarks cs [] where
  isMarkCount := nofun
  keepsSlash_iff := by simp [hkeeps]
  readBody_eq := fun fuel hfuel => ⟨fuel, by rwa [hcs], fun x inner branches parts _ => by
    rw [hcs, List.append_nil]⟩

/-- A text behind a mark. A `?` there makes the repetition lazy, which changes no match. -/
def dropLazy : List Char → List Char
  | '?' :: cs => cs
  | cs => cs

theorem skipLazy_eq_dropLazy (text cs : List Char) :
    (Source.mk text false []).skipLazy cs = ⟨dropLazy cs, false, []⟩ := by
  unfold dropLazy
  split
  · rfl
  · rename_i hlazy
    exact skipLazy_eq fun h => by
      obtain ⟨cs', rfl⟩ := List.head?_eq_some_iff.mp h
      exact hlazy cs' rfl

theorem length_dropLazy_le (cs : List Char) : (dropLazy cs).length ≤ cs.length := by
  unfold dropLazy
  split
  · exact Nat.le_succ _
  · exact Nat.le_refl _

theorem keepsSlash_plus (cs : List Char) : keepsSlash ('+' :: cs) = keepsSlash (dropLazy cs) := by
  unfold dropLazy
  split
  · rfl
  · rename_i hlazy
    rw [keepsSlash]
    exact hlazy

theorem dropMarks_dropLazy (cs : List Char) : dropMarks (dropLazy cs) = dropMarks cs := by
  unfold dropLazy
  split
  · rfl
  · rfl

/-- A mark in front of a text puts its count on the part in front, below the counts of the text. -/
theorem HasMarks.cons {c : Char} {cs : List Char} {counts : List Count} {n : Count}
    (h : HasMarks (dropLazy cs) counts) (hn : IsMarkCount n)
    (hdrop : dropMarks (c :: cs) = dropMarks cs)
    (hkeeps : keepsSlash (c :: cs) ↔ n = .oneOrMore ∧ keepsSlash (dropLazy cs))
    (hbody : ∀ fuel branches parts, readBody (fuel + 1) ⟨c :: cs, false, []⟩ branches parts =
      (repeatLast parts n).bind
        (readBody fuel ((Source.mk (c :: cs) false []).skipLazy cs) branches)) :
    HasMarks (c :: cs) (n :: counts) where
  isMarkCount := List.forall_mem_cons.mpr ⟨hn, h.isMarkCount⟩
  keepsSlash_iff := by rw [hkeeps, h.keepsSlash_iff, List.forall_mem_cons]
  readBody_eq := by
    intro fuel hfuel
    rw [List.length_cons] at hfuel
    obtain ⟨m, rfl⟩ : ∃ m, fuel = m + 1 := ⟨fuel - 1, by omega⟩
    have hlength := length_dropLazy_le cs
    obtain ⟨fuel', hfuel', hread⟩ := h.readBody_eq m (by omega)
    rw [dropMarks_dropLazy, ← hdrop] at hfuel' hread
    refine ⟨fuel', hfuel', fun x inner branches parts hx => ?_⟩
    rw [hbody, hx.repeatLast_repeated, Option.bind_some, skipLazy_eq_dropLazy,
      hread x (inner ++ [n]) branches parts hx, List.append_assoc]
    rfl

theorem hasMarks_of_not_isMark {c : Char} (hc : ¬ isMark c) (cs : List Char) :
    HasMarks (c :: cs) [] := by
  refine hasMarks_nil (List.dropWhile_cons_of_neg hc) ?_
  simp only [isMark, Bool.or_eq_true, beq_iff_eq, not_or] at hc
  obtain ⟨⟨hoptional, hstar⟩, hplus⟩ := hc
  rw [keepsSlash] <;> simp [hoptional, hstar, hplus]

theorem exists_hasMarks (cs : List Char) : ∃ counts, HasMarks cs counts := by
  induction hn : cs.length using Nat.strong_induction_on generalizing cs with
  | _ n ih =>
    subst hn
    match cs with
    | [] => exact ⟨[], hasMarks_nil rfl rfl⟩
    | c :: cs =>
      have hlength : (dropLazy cs).length < (c :: cs).length :=
        Nat.lt_succ_of_le (length_dropLazy_le cs)
      obtain ⟨counts, hcounts⟩ := ih _ hlength (dropLazy cs) rfl
      by_cases hc : isMark c
      · simp only [isMark, Bool.or_eq_true, beq_iff_eq] at hc
        rcases hc with (rfl | rfl) | rfl
        · exact ⟨_, hcounts.cons (n := .zeroOrOne) (.inl rfl) rfl (by simp [keepsSlash])
            fun fuel branches parts => rfl⟩
        · exact ⟨_, hcounts.cons (n := .zeroOrMore) (.inr (.inl rfl)) rfl (by simp [keepsSlash])
            fun fuel branches parts => rfl⟩
        · exact ⟨_, hcounts.cons (n := .oneOrMore) (.inr (.inr rfl)) rfl (by simp [keepsSlash_plus])
            fun fuel branches parts => rfl⟩
      · exact ⟨[], hasMarks_of_not_isMark hc cs⟩

theorem not_startsRepetition_dropMarks (cs : List Char) : ¬ startsRepetition (dropMarks cs) := by
  have hhead := List.head?_dropWhile_not isMark cs
  rw [← dropMarks] at hhead
  cases hcs : dropMarks cs with
  | nil => simp [startsRepetition]
  | cons c cs' => simpa [startsRepetition, isMark, hcs] using hhead

theorem head?_dropMarks (cs : List Char) : (dropMarks cs).head? ≠ some '?' := by
  intro hhead
  obtain ⟨cs', hcs⟩ := List.head?_eq_some_iff.mp hhead
  apply not_startsRepetition_dropMarks cs
  rw [hcs]
  rfl

theorem isClear_dropMarks {cs : List Char} (h : IsClear cs) : IsClear (dropMarks cs) := by
  induction cs with
  | nil => exact h
  | cons c cs ih =>
    by_cases hc : isMark c
    · rw [dropMarks, List.dropWhile_cons_of_pos hc]
      refine ih (h.tail ?_)
      rintro rfl
      exact absurd hc (by decide)
    · rwa [dropMarks, List.dropWhile_cons_of_neg hc]

end Blocklist.Filter
