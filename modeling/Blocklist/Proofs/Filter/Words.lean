import Blocklist.Proofs.Filter.Reading
import Blocklist.Proofs.Pattern.LetterCase
import Blocklist.Proofs.Pattern.Spelling
import Mathlib

/-! # The words of URL filters

What the front of a URL filter matches: a scheme, `://`, labels in front of the domain where
subdomains share the filter, the domain, and a port. A slash follows. -/

namespace Blocklist.Filter

open Pattern

/-! ## From trees to expressions -/

/-- A character or what differs from it in case alone. -/
def letter (c : Char) : Expr := .set (.foldCase (.char c))

/-- The meaning of `(https?)?`. -/
def httpExpr : Expr :=
  .times (.seq (letter 'h') (.seq (letter 't') (.seq (letter 't') (.seq (letter 'p')
    (.times (letter 's') 0 (some 1)))))) 0 (some 1)

/-- The meaning of `(wss?)?`. -/
def wsExpr : Expr :=
  .times (.seq (letter 'w') (.seq (letter 's') (.times (letter 's') 0 (some 1)))) 0 (some 1)

/-- The members of `[a-z0-9_-]`. -/
def labelSet : CharSet :=
  .foldCase (.union (.range 97 122) (.union (.range 48 57) (.union (.char '_') (.char '-'))))

/-- The meaning of `([a-z0-9_-]+\.)*`. -/
def subdomainExpr : Expr :=
  .times (.seq (.times (.set labelSet) 1 none) (letter '.')) 0 none

/-- The members of `[0-9]`. -/
def digitSet : CharSet := .foldCase (.range 48 57)

/-- The meaning of `(:[0-9]+)?`. -/
def portExpr : Expr :=
  .times (.seq (letter ':') (.times (.set digitSet) 1 none)) 0 (some 1)

/-- The meaning of a filter up to the port, behind the start of the text. -/
def frontExprs (domain : List Char) (subdomains : Bool) : List Expr :=
  [httpExpr, wsExpr, letter ':', letter '/', letter '/'] ++
    (if subdomains then [subdomainExpr] else []) ++ domain.map letter ++ [portExpr]

theorem toExpr?_ofParts_append {m : Mode} {es : List Ast} {xs : List Expr}
    (h : List.Forall₂ (fun e x => e.toExpr? m = some (x, m)) es xs) {rest : List Ast}
    (hrest : rest ≠ []) :
    (Ast.ofParts (es ++ rest)).toExpr? m =
      ((Ast.ofParts rest).toExpr? m).map fun (f, m') => (xs.foldr Expr.seq f, m') := by
  induction h with
  | nil => simp
  | @cons e x es xs he _ ih =>
    obtain ⟨f, fs, hcons⟩ :=
      List.exists_cons_of_ne_nil (List.append_ne_nil_of_right_ne_nil es hrest)
    have hparts : Ast.ofParts (e :: (es ++ rest)) = .concat e (.ofParts (es ++ rest)) := by
      rw [hcons]
      rfl
    rw [List.cons_append, hparts, Ast.toExpr?, he]
    simp only [bind, Option.bind_some, ih]
    cases (Ast.ofParts rest).toExpr? m <;> rfl

theorem toExpr?_frontAsts (domain : List Char) (subdomains : Bool) :
    List.Forall₂ (fun e x => e.toExpr? .filter = some (x, .filter)) (frontAsts domain subdomains)
      (.look .textStart :: frontExprs domain subdomains) := by
  have hdomain : List.Forall₂ (fun e x => Ast.toExpr? e .filter = some (x, .filter))
      (domain.map literal) (domain.map letter) := by
    induction domain with
    | nil => exact .nil
    | cons c cs ih => exact .cons rfl ih
  have hscheme : List.Forall₂ (fun e x => Ast.toExpr? e .filter = some (x, .filter)) schemeAsts
      [.look .textStart, httpExpr, wsExpr, letter ':', letter '/', letter '/'] :=
    .cons rfl (.cons rfl (.cons rfl (.cons rfl (.cons rfl (.cons rfl .nil)))))
  have hsubdomain : List.Forall₂ (fun e x => Ast.toExpr? e .filter = some (x, .filter))
      (if subdomains then [subdomainAst] else []) (if subdomains then [subdomainExpr] else []) := by
    cases subdomains
    · exact .nil
    · exact .cons rfl .nil
  exact List.rel_append (List.rel_append (List.rel_append hscheme hsubdomain) hdomain)
    (.cons rfl .nil)

/-! ## Compiled filters -/

theorem parse?_eq_some_iff {text : List Char} {e : Ast} :
    parse? text = some e ↔
      ∃ src, readBody (text.length + 1) ⟨text, false, []⟩ [] [] = some (e, src) ∧ src.rest = [] ∧
        e.depth ≤ maxDepth := by
  simp [parse?, bind, Option.bind_eq_some_iff, guard, pure, failure]

theorem compileChars_eq_ok_iff [SizeLimit] {text : List Char} {mode : Mode} {p : Pattern} :
    compileChars text mode = .ok p ↔
      ∃ e m, parse? text = some e ∧ e.toExpr? mode = some (p.expr, m) ∧ SizeLimit.fits mode e := by
  unfold compileChars
  cases parse? text with
  | none => simp
  | some e =>
    cases hm : e.toExpr? mode with
    | none => simp [hm]
    | some result =>
      obtain ⟨x, m⟩ := result
      by_cases hfits : SizeLimit.fits mode e
      · simp only [hm, hfits, ↓reduceIte, Except.ok.injEq, Option.some.injEq]
        constructor
        · rintro rfl
          exact ⟨e, m, rfl, by simp [hm], hfits⟩
        · rintro ⟨e', m', rfl, hm', -⟩
          rw [hm] at hm'
          simp only [Option.some.injEq, Prod.mk.injEq] at hm'
          rw [hm'.1]
      · simp only [hm, hfits, Bool.false_eq_true, ↓reduceIte, reduceCtorEq, false_iff]
        rintro ⟨e', m', heq, -, hfits'⟩
        obtain rfl := Option.some.inj heq
        exact hfits hfits'

theorem concatDepth_ofParts_le {n : Nat} {es : List Ast}
    (h : ∀ e ∈ es, e.depth ≤ n ∧ e.concatDepth ≤ n) : (Ast.ofParts es).concatDepth ≤ n := by
  induction es with
  | nil => exact Nat.zero_le n
  | cons e es ih =>
    cases es with
    | nil => exact (h e List.mem_cons_self).2
    | cons f es =>
      have hcons : (Ast.ofParts (e :: f :: es)).concatDepth =
          max e.depth (Ast.ofParts (f :: es)).concatDepth := rfl
      rw [hcons]
      exact Nat.max_le.mpr ⟨(h e List.mem_cons_self).1,
        ih fun g hg => h g (List.mem_cons_of_mem e hg)⟩

theorem depth_ofParts_le {n : Nat} {es : List Ast}
    (h : ∀ e ∈ es, e.depth ≤ n ∧ e.concatDepth ≤ n) : (Ast.ofParts es).depth ≤ n + 1 := by
  cases es with
  | nil => exact Nat.zero_le _
  | cons e es =>
    cases es with
    | nil => exact Nat.le_succ_of_le (h e List.mem_cons_self).1
    | cons f es =>
      have hcons : (Ast.ofParts (e :: f :: es)).depth =
          max e.depth (Ast.ofParts (f :: es)).concatDepth + 1 := rfl
      rw [hcons]
      exact Nat.succ_le_succ (Nat.max_le.mpr ⟨(h e List.mem_cons_self).1,
        concatDepth_ofParts_le fun g hg => h g (List.mem_cons_of_mem e hg)⟩)

theorem depth_of_mem_frontAsts {domain : List Char} {subdomains : Bool} {e : Ast}
    (he : e ∈ frontAsts domain subdomains) : e.depth ≤ 10 ∧ e.concatDepth ≤ 10 := by
  have hfixed : ∀ e ∈ schemeAsts ++ [subdomainAst, portAst], e.depth ≤ 10 ∧ e.concatDepth ≤ 10 := by
    decide +kernel
  simp only [frontAsts, List.mem_append, List.mem_map, List.mem_singleton] at he
  rcases he with ((he | he) | ⟨c, -, rfl⟩) | rfl
  · exact hfixed e (List.mem_append_left _ he)
  · cases subdomains with
    | false => cases he
    | true =>
      obtain rfl := List.mem_singleton.mp he
      exact hfixed _ (by simp)
  · exact ⟨Nat.zero_le _, Nat.zero_le _⟩
  · exact hfixed _ (by simp)

theorem isPlain_foldr_seq {es : List Expr} {e : Expr} (hes : ∀ x ∈ es, x.IsPlain)
    (he : e.IsPlain) : (es.foldr Expr.seq e).IsPlain :=
  List.foldrRecOn es Expr.seq he fun _ hrest x hx => ⟨hes x hx, hrest⟩

theorem isCounted_foldr_seq {es : List Expr} {e : Expr} (hes : ∀ x ∈ es, x.IsCounted)
    (he : e.IsCounted) : (es.foldr Expr.seq e).IsCounted :=
  List.foldrRecOn es Expr.seq he fun _ hrest x hx => ⟨hes x hx, hrest⟩

/-- What holds of single characters and of the fixed parts holds of every part of the front. -/
theorem of_mem_frontExprs {P : Expr → Prop} (hletter : ∀ c, P (letter c))
    (hfixed : ∀ x ∈ [httpExpr, wsExpr, subdomainExpr, portExpr], P x) {domain : List Char}
    {subdomains : Bool} {x : Expr} (hx : x ∈ frontExprs domain subdomains) : P x := by
  simp only [frontExprs, List.mem_append, List.mem_map, List.mem_cons, List.not_mem_nil,
    or_false] at hx
  rcases hx with (((rfl | rfl | rfl | rfl | rfl) | hx) | ⟨c, -, rfl⟩) | rfl
  · exact hfixed _ (by simp)
  · exact hfixed _ (by simp)
  · exact hletter _
  · exact hletter _
  · exact hletter _
  · cases subdomains with
    | false => simp at hx
    | true =>
      obtain rfl : x = subdomainExpr := by simpa using hx
      exact hfixed _ (by simp)
  · exact hletter c
  · exact hfixed _ (by simp)

theorem isPlain_of_mem_frontExprs {domain : List Char} {subdomains : Bool} {x : Expr}
    (hx : x ∈ frontExprs domain subdomains) : x.IsPlain ∧ x.IsCounted := by
  refine of_mem_frontExprs (P := fun x => x.IsPlain ∧ x.IsCounted)
    (fun c => ⟨trivial, trivial⟩) ?_ hx
  simp [httpExpr, wsExpr, subdomainExpr, portExpr, letter, Expr.IsPlain, Expr.IsCounted]

/-! ## Words of the front -/

/-- A text that starts as a filter asks for: with a scheme, `://`, labels, the domain, and a port,
before a slash. -/
def HasFront (domain : List Char) (subdomains : Bool) (url : List Char) : Prop :=
  ∃ s₁ s₂ labels d port rest,
    url = s₁ ++ s₂ ++ ':' :: '/' :: '/' :: (labels ++ d ++ port ++ '/' :: rest) ∧
      Spells httpExpr s₁ ∧ Spells wsExpr s₂ ∧
      (if subdomains then Spells subdomainExpr labels else labels = []) ∧
      List.Forall₂ (fun c x => c ∈ CharSet.foldCase (.char x)) d domain ∧ Spells portExpr port

theorem spells_letter_iff {c : Char} {w : List Char} :
    Spells (letter c) w ↔ ∃ d ∈ CharSet.foldCase (.char c), w = [d] :=
  spells_set_iff

theorem spells_letter_iff_eq {c : Char} (hc : c.toNat < 128) (halpha : ¬ c.isAlpha)
    {w : List Char} : Spells (letter c) w ↔ w = [c] := by
  simp [spells_letter_iff, CharSet.mem_foldCase_char_iff_eq hc halpha]

theorem spells_foldr_letters_iff {domain : List Char} {e : Expr} {w : List Char} :
    Spells ((domain.map letter).foldr Expr.seq e) w ↔
      ∃ d v, w = d ++ v ∧ List.Forall₂ (fun c x => c ∈ CharSet.foldCase (.char x)) d domain ∧
        Spells e v := by
  induction domain generalizing w with
  | nil => simp
  | cons x xs ih =>
    rw [List.map_cons, List.foldr_cons, spells_seq_iff]
    simp only [spells_letter_iff, ih]
    constructor
    · rintro ⟨u, v, rfl, ⟨c, hc, rfl⟩, d, v', rfl, hd, hv'⟩
      exact ⟨c :: d, v', rfl, .cons hc hd, hv'⟩
    · rintro ⟨d, v, rfl, hd, hv⟩
      cases hd with
      | cons hc hd => exact ⟨[_], _, rfl, ⟨_, hc, rfl⟩, _, _, rfl, hd, hv⟩

theorem spells_foldr_subdomain_iff {subdomains : Bool} {e : Expr} {w : List Char} :
    Spells ((if subdomains then [subdomainExpr] else []).foldr Expr.seq e) w ↔
      ∃ labels v, w = labels ++ v ∧
        (if subdomains then Spells subdomainExpr labels else labels = []) ∧ Spells e v := by
  cases subdomains with
  | false => simp
  | true => exact spells_seq_iff

/-- The words of the front and of what follows it. -/
theorem spells_front_iff {domain : List Char} {subdomains : Bool} {e : Expr} {w : List Char} :
    Spells ((frontExprs domain subdomains).foldr Expr.seq e) w ↔
      ∃ s₁ s₂ labels d port v,
        w = s₁ ++ s₂ ++ ':' :: '/' :: '/' :: (labels ++ d ++ port ++ v) ∧
          Spells httpExpr s₁ ∧ Spells wsExpr s₂ ∧
          (if subdomains then Spells subdomainExpr labels else labels = []) ∧
          List.Forall₂ (fun c x => c ∈ CharSet.foldCase (.char x)) d domain ∧
          Spells portExpr port ∧ Spells e v := by
  have hcolon : ∀ {w : List Char}, Spells (letter ':') w ↔ w = [':'] :=
    spells_letter_iff_eq (by decide) (by decide)
  have hslash : ∀ {w : List Char}, Spells (letter '/') w ↔ w = ['/'] :=
    spells_letter_iff_eq (by decide) (by decide)
  rw [frontExprs, List.foldr_append, List.foldr_append, List.foldr_append]
  simp only [List.foldr_cons, List.foldr_nil, spells_seq_iff, hcolon, hslash,
    spells_foldr_subdomain_iff, spells_foldr_letters_iff]
  constructor
  · rintro ⟨s₁, _, rfl, hs₁, s₂, _, rfl, hs₂, _, _, rfl, rfl, _, _, rfl, rfl, _, _, rfl, rfl,
      labels, _, rfl, hlabels, d, _, rfl, hd, port, v, rfl, hport, hv⟩
    exact ⟨s₁, s₂, labels, d, port, v, by simp, hs₁, hs₂, hlabels, hd, hport, hv⟩
  · rintro ⟨s₁, s₂, labels, d, port, v, rfl, hs₁, hs₂, hlabels, hd, hport, hv⟩
    exact ⟨s₁, s₂ ++ ':' :: '/' :: '/' :: (labels ++ (d ++ (port ++ v))), by simp, hs₁, s₂, _, rfl,
      hs₂, [':'], _, rfl, rfl, ['/'], _, rfl, rfl, ['/'], _, rfl, rfl, labels, _, rfl, hlabels, d,
      _, rfl, hd, port, v, rfl, hport, hv⟩

/-! ## Matches -/

theorem occursIn_front_iff {domain : List Char} {subdomains : Bool} {e : Expr} (hplain : e.IsPlain)
    (hcounted : e.IsCounted) {url : List Char} :
    ((Expr.look .textStart :: frontExprs domain subdomains).foldr Expr.seq e).occursIn url ↔
      ∃ w, w <+: url ∧ Spells ((frontExprs domain subdomains).foldr Expr.seq e) w :=
  occursIn_textStart_iff
    (isPlain_foldr_seq (fun _ hx => (isPlain_of_mem_frontExprs hx).1) hplain)
    (isCounted_foldr_seq (fun _ hx => (isPlain_of_mem_frontExprs hx).2) hcounted)

/-- The front with a slash behind it occurs in the texts that start so. -/
theorem occursIn_front_slash_iff {domain : List Char} {subdomains : Bool} {url : List Char} :
    ((Expr.look .textStart :: frontExprs domain subdomains).foldr Expr.seq (letter '/')).occursIn
      url ↔ HasFront domain subdomains url := by
  have hslash : ∀ {w : List Char}, Spells (letter '/') w ↔ w = ['/'] :=
    spells_letter_iff_eq (by decide) (by decide)
  have hplain : (letter '/').IsPlain := trivial
  have hcounted : (letter '/').IsCounted := trivial
  rw [occursIn_front_iff hplain hcounted]
  constructor
  · rintro ⟨w, ⟨post, rfl⟩, hw⟩
    obtain ⟨s₁, s₂, labels, d, port, v, rfl, hs₁, hs₂, hlabels, hd, hport, hv⟩ :=
      spells_front_iff.mp hw
    obtain rfl := hslash.mp hv
    exact ⟨s₁, s₂, labels, d, port, post, by simp, hs₁, hs₂, hlabels, hd, hport⟩
  · rintro ⟨s₁, s₂, labels, d, port, rest, rfl, hs₁, hs₂, hlabels, hd, hport⟩
    refine ⟨_, ?_, spells_front_iff.mpr
      ⟨s₁, s₂, labels, d, port, ['/'], rfl, hs₁, hs₂, hlabels, hd, hport, hslash.mpr rfl⟩⟩
    exact ⟨rest, by simp⟩

theorem toExpr?_hostAst (domain : List Char) (subdomains : Bool) :
    (Ast.ofParts (frontAsts domain subdomains ++ [literal '/'])).toExpr? .filter =
      some ((Expr.look .textStart :: frontExprs domain subdomains).foldr Expr.seq (letter '/'),
        .filter) := by
  rw [toExpr?_ofParts_append (toExpr?_frontAsts domain subdomains) (by simp)]
  rfl

variable {domain : List Char} (hne : domain ≠ []) (hdomain : ∀ c ∈ domain, Host.isHostChar c)

include hne hdomain

/-- The filter of a domain without a pattern can be read. -/
theorem parse?_hostFilter (subdomains : Bool) :
    parse? (urlFilterChars domain [] subdomains) =
      some (.ofParts (frontAsts domain subdomains ++ [literal '/'])) := by
  obtain ⟨fuel, hfuel, hread⟩ := readBody_urlFilterChars hne hdomain [] subdomains
  obtain ⟨n, rfl⟩ : ∃ n, fuel = n + 1 := ⟨fuel - 1, by omega⟩
  have hend : readBody (n + 1) ⟨dropSlash [], false, []⟩ []
      (literal '/' :: (frontAsts domain subdomains).reverse) =
        some (.ofParts (frontAsts domain subdomains ++ [literal '/']), ⟨[], false, []⟩) := by
    simp [readBody, dropSlash, Source.skip, Ast.ofAlternatives]
  have hdepth : (Ast.ofParts (frontAsts domain subdomains ++ [literal '/'])).depth ≤ 10 + 1 := by
    refine depth_ofParts_le fun e he => ?_
    rcases List.mem_append.mp he with he | he
    · exact depth_of_mem_frontAsts he
    · rw [List.mem_singleton.mp he]
      exact ⟨Nat.zero_le _, Nat.zero_le _⟩
  exact parse?_eq_some_iff.mpr ⟨_, hread.trans hend, rfl, Nat.le_trans hdepth (by decide)⟩

variable [SizeLimit]

theorem expr_of_compileChars_hostFilter {subdomains : Bool} {p : Pattern}
    (h : compileChars (urlFilterChars domain [] subdomains) .filter = .ok p) :
    p.expr =
      (Expr.look .textStart :: frontExprs domain subdomains).foldr Expr.seq (letter '/') := by
  obtain ⟨e, m, hparse, hmeaning, -⟩ := compileChars_eq_ok_iff.mp h
  obtain rfl := Option.some.inj (hparse.symm.trans (parse?_hostFilter hne hdomain subdomains))
  exact (Prod.mk.inj (Option.some.inj
    (hmeaning.symm.trans (toExpr?_hostAst domain subdomains)))).1

/-- The filter of a domain without a pattern is compiled unless a matcher for it is too large. -/
theorem exists_of_compileChars_hostFilter {subdomains : Bool}
    (h : compileChars (urlFilterChars domain [] subdomains) .filter ≠ .error .tooLarge) :
    ∃ p, compileChars (urlFilterChars domain [] subdomains) .filter = .ok p := by
  simp only [compileChars, parse?_hostFilter hne hdomain, toExpr?_hostAst] at h ⊢
  split
  · exact ⟨_, rfl⟩
  · rename_i hfits
    exact absurd (if_neg hfits) h

/-- The filter of a domain without a pattern matches the URLs that start as its front asks for. -/
theorem occursIn_hostFilter_iff {subdomains : Bool} {p : Pattern}
    (h : compileChars (urlFilterChars domain [] subdomains) .filter = .ok p) {url : List Char} :
    p.expr.occursIn url ↔ HasFront domain subdomains url := by
  rw [expr_of_compileChars_hostFilter hne hdomain h, occursIn_front_slash_iff]

end Blocklist.Filter
