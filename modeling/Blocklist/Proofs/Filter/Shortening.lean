import Blocklist.Proofs.Filter.Words

/-! # Filters with shorter patterns

If a filter can be compiled, so can the filter without some characters that stand for themselves in
front of its pattern. What follows is read in the same way, a mark that repeated the last of these
characters repeats the slash, and no limit on the size of matchers is in the way. -/

namespace Blocklist.Filter

open Pattern

/-! ## Characters that stand for themselves -/

/-- A text that stands for a word. Dots have a backslash in front, slashes may have one. -/
inductive IsWritten : List Char → List Char → Prop where
  | nil : IsWritten [] []
  | host {c : Char} {cs w : List Char} (hc : Host.isHostChar c) (hdot : c ≠ '.')
      (h : IsWritten cs w) : IsWritten (c :: cs) (c :: w)
  | slash {cs w : List Char} (h : IsWritten cs w) : IsWritten ('/' :: cs) ('/' :: w)
  | escaped {c : Char} {cs w : List Char} (hc : c = '.' ∨ c = '/') (h : IsWritten cs w) :
      IsWritten ('\\' :: c :: cs) (c :: w)

theorem IsWritten.append {cs ds v w : List Char} (hcs : IsWritten cs v) (hds : IsWritten ds w) :
    IsWritten (cs ++ ds) (v ++ w) := by
  induction hcs with
  | nil => exact hds
  | host hc hdot _ ih => exact .host hc hdot ih
  | slash _ ih => exact .slash ih
  | escaped hc _ ih => exact .escaped hc ih

theorem IsWritten.length_le {cs w : List Char} (h : IsWritten cs w) : w.length ≤ cs.length := by
  induction h with
  | nil => exact Nat.le_refl 0
  | host _ _ _ ih | slash _ ih => exact Nat.succ_le_succ ih
  | escaped _ _ ih => exact Nat.succ_le_succ (Nat.le_succ_of_le ih)

theorem IsWritten.isClear_append {cs w rest : List Char} (h : IsWritten cs w)
    (hclear : IsClear (cs ++ rest)) : IsClear rest := by
  induction h with
  | nil => exact hclear
  | host hc _ _ ih => exact ih (hclear.tail fun heq => absurd hc (by rw [heq]; decide))
  | slash _ ih => exact ih (hclear.tail (by decide))
  | escaped _ _ ih => exact ih (isClear_backslash_iff.mp hclear)

/-- A filter goes without one slash in front of its pattern anyway. -/
theorem IsWritten.exists_dropSlash {cs w : List Char} (h : IsWritten cs w) (rest : List Char) :
    ∃ pre v, IsWritten pre v ∧ dropSlash (cs ++ rest) = pre ++ dropSlash rest := by
  obtain ⟨slash, v, hslash, hrest⟩ :
      ∃ slash v, IsWritten slash v ∧ rest = slash ++ dropSlash rest := by
    unfold dropSlash
    split
    · exact ⟨['/'], ['/'], .slash .nil, rfl⟩
    · exact ⟨[], [], .nil, rfl⟩
  cases h with
  | nil => exact ⟨[], [], .nil, rfl⟩
  | @host c cs w hc hdot h =>
    have hdrop : dropSlash (c :: cs ++ rest) = c :: cs ++ rest := by
      unfold dropSlash
      split
      · rename_i hcons
        rw [(List.cons.inj hcons).1] at hc
        exact absurd hc (by decide)
      · rfl
    refine ⟨c :: cs ++ slash, c :: w ++ v, (IsWritten.host hc hdot h).append hslash, ?_⟩
    rw [hdrop, List.append_assoc, ← hrest]
  | @slash cs w h =>
    refine ⟨cs ++ slash, w ++ v, h.append hslash, ?_⟩
    rw [List.append_assoc, ← hrest]
    rfl
  | @escaped c cs w hc h =>
    refine ⟨'\\' :: c :: cs ++ slash, c :: w ++ v, (IsWritten.escaped hc h).append hslash, ?_⟩
    rw [List.append_assoc, ← hrest]
    rfl

theorem isClear_dropSlash {cs : List Char} (h : IsClear cs) : IsClear (dropSlash cs) := by
  unfold dropSlash
  split
  · exact h.tail (by decide)
  · exact h

/-- Such a text is read character by character. -/
theorem readBody_written {cs w : List Char} (h : IsWritten cs w) (fuel : Nat) (rest : List Char)
    (branches parts : List Ast) :
    readBody (fuel + w.length) ⟨cs ++ rest, false, []⟩ branches parts =
      readBody fuel ⟨rest, false, []⟩ branches ((w.map literal).reverse ++ parts) := by
  induction h generalizing parts with
  | nil => rfl
  | @host c cs w hc hdot _ ih =>
    have hstep := readBody_literal hc hdot (fuel + w.length) (cs ++ rest) branches parts
    rw [List.length_cons, ← Nat.add_assoc, List.cons_append, hstep, ih]
    simp
  | @slash cs w _ ih =>
    have hstep : readBody (fuel + w.length + 1) ⟨'/' :: (cs ++ rest), false, []⟩ branches parts =
        readBody (fuel + w.length) ⟨cs ++ rest, false, []⟩ branches (literal '/' :: parts) := rfl
    rw [List.length_cons, ← Nat.add_assoc, List.cons_append, hstep, ih]
    simp
  | @escaped c cs w hc _ ih =>
    have hstep := readBody_escaped hc (fuel + w.length) (cs ++ rest) branches parts
    rw [List.length_cons, ← Nat.add_assoc, List.cons_append, List.cons_append, hstep, ih]
    simp

/-! ## Depth -/

theorem concatDepth_ofParts_append_le_iff {n : Nat} {es rest : List Ast} (hrest : rest ≠ []) :
    (Ast.ofParts (es ++ rest)).concatDepth ≤ n ↔
      (∀ e ∈ es, e.depth ≤ n) ∧ (Ast.ofParts rest).concatDepth ≤ n := by
  induction es with
  | nil => simp
  | cons e es ih =>
    obtain ⟨f, fs, hcons⟩ :=
      List.exists_cons_of_ne_nil (List.append_ne_nil_of_right_ne_nil es hrest)
    have hdepth : (Ast.ofParts (e :: (es ++ rest))).concatDepth =
        max e.depth (Ast.ofParts (es ++ rest)).concatDepth := by
      rw [hcons]
      rfl
    rw [List.cons_append, hdepth, Nat.max_le, ih, List.forall_mem_cons, and_assoc]

theorem depth_ofParts_append_le_iff {n : Nat} {es rest : List Ast} (hes : es ≠ [])
    (hrest : rest ≠ []) :
    (Ast.ofParts (es ++ rest)).depth ≤ n + 1 ↔
      (∀ e ∈ es, e.depth ≤ n) ∧ (Ast.ofParts rest).concatDepth ≤ n := by
  obtain ⟨e, es, rfl⟩ := List.exists_cons_of_ne_nil hes
  obtain ⟨f, fs, hcons⟩ := List.exists_cons_of_ne_nil (List.append_ne_nil_of_right_ne_nil es hrest)
  have hdepth : (Ast.ofParts (e :: es ++ rest)).depth =
      (Ast.ofParts (e :: es ++ rest)).concatDepth + 1 := by
    rw [List.cons_append, hcons]
    rfl
  rw [hdepth, Nat.succ_le_succ_iff, concatDepth_ofParts_append_le_iff hrest]

theorem depth_repeated_literal (c d : Char) (counts : List Count) :
    ((literal c).repeated counts).depth = ((literal d).repeated counts).depth ∧
      ((literal c).repeated counts).concatDepth = ((literal d).repeated counts).concatDepth := by
  induction counts using List.reverseRecOn with
  | nil => exact ⟨rfl, rfl⟩
  | append_singleton counts count ih =>
    simp [Ast.repeated, Ast.depth, Ast.concatDepth, List.foldl_append] at ih ⊢
    exact ih.1

/-- The depth of a run of parts does not change with the character that comes first. -/
theorem concatDepth_ofParts_repeated (c d : Char) (counts : List Count) (rest : List Ast) :
    (Ast.ofParts ((literal c).repeated counts :: rest)).concatDepth =
      (Ast.ofParts ((literal d).repeated counts :: rest)).concatDepth := by
  obtain ⟨hdepth, hconcat⟩ := depth_repeated_literal c d counts
  cases rest with
  | nil => exact hconcat
  | cons e es => exact congrArg (max · (Ast.ofParts (e :: es)).concatDepth) hdepth

/-! ## Meaning -/

/-- A character with counts on it has a meaning, and so does a slash in its place. -/
theorem exists_toExpr?_repeated_slash (c : Char) (counts : List Count) :
    ∃ x y, ((literal c).repeated counts).toExpr? .filter = some (x, .filter) ∧
      ((literal '/').repeated counts).toExpr? .filter = some (y, .filter) := by
  induction counts using List.reverseRecOn with
  | nil => exact ⟨letter c, letter '/', rfl, rfl⟩
  | append_singleton counts count ih =>
    obtain ⟨x, y, hx, hy⟩ := ih
    refine ⟨.times x count.bounds.1 count.bounds.2, .times y count.bounds.1 count.bounds.2, ?_, ?_⟩
    · simp only [Ast.repeated, List.foldl_append, List.foldl_cons, List.foldl_nil] at hx ⊢
      rw [Ast.toExpr?, hx]
      rfl
    · simp only [Ast.repeated, List.foldl_append, List.foldl_cons, List.foldl_nil] at hy ⊢
      rw [Ast.toExpr?, hy]
      rfl

theorem exists_toExpr?_ofParts_slash {c : Char} {counts : List Count} {rest : List Ast} {f : Expr}
    {m : Mode}
    (h : (Ast.ofParts ((literal c).repeated counts :: rest)).toExpr? .filter = some (f, m)) :
    ∃ g, (Ast.ofParts ((literal '/').repeated counts :: rest)).toExpr? .filter = some (g, m) := by
  obtain ⟨x, y, hx, hy⟩ := exists_toExpr?_repeated_slash c counts
  cases rest with
  | nil =>
    obtain ⟨rfl, rfl⟩ := Prod.mk.inj (Option.some.inj (hx.symm.trans h))
    exact ⟨y, hy⟩
  | cons e es =>
    have hparts : ∀ d, Ast.ofParts ((literal d).repeated counts :: e :: es) =
        .concat ((literal d).repeated counts) (.ofParts (e :: es)) := fun _ => rfl
    rw [hparts, Ast.toExpr?, hx] at h
    simp only [bind, Option.bind_some] at h
    obtain ⟨⟨f', m'⟩, hf', heq⟩ := Option.bind_eq_some_iff.mp h
    obtain ⟨rfl, rfl⟩ := Prod.mk.inj (Option.some.inj heq)
    refine ⟨.seq y f', ?_⟩
    rw [hparts, Ast.toExpr?, hy]
    simp only [bind, Option.bind_some, hf', pure]

/-! ## Compiled filters -/

section Tree

variable (domain : List Char) (subdomains : Bool) {us : List Char} {c : Char} {counts : List Count}
  {rest : List Ast}

theorem depth_ofParts_frontAsts_slash_le
    (h : (Ast.ofParts (frontAsts domain subdomains ++ us.map literal ++
      (literal c).repeated counts :: rest)).depth ≤ maxDepth) :
    (Ast.ofParts (frontAsts domain subdomains ++ (literal '/').repeated counts :: rest)).depth ≤
      maxDepth := by
  have hne : frontAsts domain subdomains ≠ [] := by simp [frontAsts, schemeAsts]
  have hne' := List.append_ne_nil_of_left_ne_nil hne (us.map literal)
  obtain ⟨hfront, hrest⟩ :=
    (depth_ofParts_append_le_iff (n := 249) hne' (List.cons_ne_nil _ _)).mp h
  rw [concatDepth_ofParts_repeated c '/'] at hrest
  exact (depth_ofParts_append_le_iff (n := 249) hne (List.cons_ne_nil _ _)).mpr
    ⟨fun e he => hfront e (List.mem_append_left _ he), hrest⟩

theorem exists_toExpr?_frontAsts_slash {x : Expr} {m : Mode}
    (h : (Ast.ofParts (frontAsts domain subdomains ++ us.map literal ++
      (literal c).repeated counts :: rest)).toExpr? .filter = some (x, m)) :
    ∃ y, (Ast.ofParts (frontAsts domain subdomains ++
      (literal '/').repeated counts :: rest)).toExpr? .filter = some (y, m) := by
  have hfront := toExpr?_frontAsts domain subdomains
  have hletters : List.Forall₂ (fun e x => Ast.toExpr? e .filter = some (x, .filter))
      (us.map literal) (us.map letter) := by
    rw [List.forall₂_map_left_iff, List.forall₂_map_right_iff, List.forall₂_same]
    exact fun _ _ => rfl
  rw [toExpr?_ofParts_append (List.rel_append hfront hletters) (List.cons_ne_nil _ _)] at h
  obtain ⟨⟨f, m'⟩, hf, heq⟩ := Option.map_eq_some_iff.mp h
  obtain ⟨rfl, rfl⟩ := Prod.mk.inj heq
  obtain ⟨g, hg⟩ := exists_toExpr?_ofParts_slash hf
  exact ⟨_, by rw [toExpr?_ofParts_append hfront (List.cons_ne_nil _ _), hg]; rfl⟩

variable [SizeLimit]

theorem fits_of_letters {mode : Mode} {es fs : List Ast}
    (h : SizeLimit.fits mode (.ofParts (es ++ us.map literal ++ fs))) :
    SizeLimit.fits mode (.ofParts (es ++ fs)) := by
  induction us generalizing es with
  | nil => simpa using h
  | cons u us ih =>
    have hparts : es ++ (u :: us).map literal ++ fs =
        es ++ (Ast.literal ⟨u, false⟩).repeated [] :: (us.map literal ++ fs) := by simp; rfl
    rw [hparts] at h
    exact ih (by simpa using SizeLimit.fits_of_literal h)

theorem fits_frontAsts_slash {mode : Mode}
    (h : SizeLimit.fits mode (.ofParts (frontAsts domain subdomains ++ us.map literal ++
      (literal c).repeated counts :: rest))) :
    SizeLimit.fits mode
      (.ofParts (frontAsts domain subdomains ++ (literal '/').repeated counts :: rest)) :=
  fits_of_letters (SizeLimit.fits_of_slash h)

end Tree

@[simp] theorem toList_urlFilter (domain pattern : String) (subdomains : Bool) :
    (urlFilter domain pattern subdomains).toList =
      urlFilterChars domain.toList pattern.toList subdomains :=
  String.toList_ofList

variable [SizeLimit]

/-- The filter without characters in front of its pattern that stand for themselves can be compiled
as well. -/
theorem exists_compileChars_of_written {domain pre w pattern : List Char} {subdomains : Bool}
    (hne : domain ≠ []) (hdomain : ∀ c ∈ domain, Host.isHostChar c) (hpre : IsWritten pre w)
    (hclear : IsClear pattern)
    (h : ∃ p, compileChars (urlFilterChars domain (pre ++ pattern) subdomains) .filter = .ok p) :
    ∃ p, compileChars (urlFilterChars domain pattern subdomains) .filter = .ok p := by
  obtain ⟨pre', w, hpre, hpattern⟩ := hpre.exists_dropSlash pattern
  obtain ⟨p, h⟩ := h
  obtain ⟨e, m, hparse, hmeaning, hfits⟩ := compileChars_eq_ok_iff.mp h
  obtain ⟨src, hbody, hend, hdepth⟩ := parse?_eq_some_iff.mp hparse
  obtain ⟨fuel, hfuel, hread⟩ := readBody_urlFilterChars hne hdomain (pre ++ pattern) subdomains
  obtain ⟨fuel', hfuel', hread'⟩ := readBody_urlFilterChars hne hdomain pattern subdomains
  -- The part in front of the rest is the slash or the last of the characters that follow it.
  obtain ⟨us, c, hus⟩ : ∃ us c, '/' :: w = us ++ [c] :=
    ⟨_, _, (List.dropLast_append_getLast (List.cons_ne_nil '/' w)).symm⟩
  have hparts : (w.map literal).reverse ++ literal '/' :: (frontAsts domain subdomains).reverse =
      literal c :: (frontAsts domain subdomains ++ us.map literal).reverse := by
    calc
      _ = (('/' :: w).map literal).reverse ++ (frontAsts domain subdomains).reverse := by simp
      _ = _ := by rw [hus]; simp
  obtain ⟨n, rfl⟩ : ∃ n, fuel = n + w.length := by
    have hlength := hpre.length_le
    rw [hpattern, List.length_append] at hfuel
    exact ⟨fuel - w.length, by omega⟩
  rw [hread, hpattern, readBody_written hpre, hparts] at hbody
  obtain ⟨moves, parts, hmoves, hreplay, rfl⟩ :=
    isReplay_of_readBody (isClear_dropSlash hclear) hbody
  have hliteral : ∀ d, (literal d).IsRepeatable := fun d change => by simp [literal]
  obtain ⟨new, counts, rfl, hall⟩ :=
    @exists_of_replay_repeated moves (literal c) _ [] parts (hliteral c) hreplay
  have hreplay' : replay moves (literal '/' :: (frontAsts domain subdomains).reverse) =
      some (new ++ (literal '/').repeated counts :: (frontAsts domain subdomains).reverse) :=
    hall (literal '/') _ (hliteral '/')
  have hbody' := hmoves.readBody_eq fuel' hfuel' []
    (literal '/' :: (frontAsts domain subdomains).reverse)
  rw [hreplay', Option.map_some] at hbody'
  simp only [finished, List.reverse_append, List.reverse_cons, List.reverse_reverse,
    List.reverse_nil, List.nil_append, Ast.ofAlternatives, List.append_assoc,
    List.singleton_append] at hdepth hmeaning hfits hbody'
  rw [← List.append_assoc] at hdepth hmeaning hfits
  obtain ⟨y, hy⟩ := exists_toExpr?_frontAsts_slash domain subdomains hmeaning
  have hparse := parse?_eq_some_iff.mpr ⟨src, hread'.trans hbody', hend,
    depth_ofParts_frontAsts_slash_le domain subdomains hdepth⟩
  exact ⟨⟨y⟩, compileChars_eq_ok_iff.mpr
    ⟨_, m, hparse, hy, fits_frontAsts_slash domain subdomains hfits⟩⟩

theorem compile_urlFilter (domain pattern : String) (subdomains : Bool) :
    compile (urlFilter domain pattern subdomains) =
      compileChars (urlFilterChars domain.toList pattern.toList subdomains) .filter := by
  rw [compile, Pattern.compile, toList_urlFilter]

end Blocklist.Filter
