import Blocklist.Pattern.Estimate
import Blocklist.Proofs.Filter.Anchoring

/-! # Filters that content blocking hosts can express

The test for unsupported patterns goes through the text. It knows no sets, groups, flags or
comments; all that it keeps together is a backslash and the character behind it. What it lets
through is still read as a tree without alternatives and without repetition by numbers, also behind
the front of a filter. Main statement: `exists_parse?_isSupported`. -/

namespace Blocklist.Pattern

/-! ## Supported trees -/

/-- A tree without alternatives and without repetition by numbers. -/
structure Ast.IsSupported (e : Ast) : Prop where
  alternation : e.hasAlternation = false
  numericCount : e.hasNumericCount = false

namespace Ast

variable {e : Ast}

theorem isSupported_of_isLeaf (h : e.isLeaf) : e.IsSupported := by
  cases e with
  | repetition | group | concat | alternation => cases h
  | _ => exact ⟨rfl, rfl⟩

theorem IsSupported.repetition (h : e.IsSupported) {count : Count}
    (hcount : count.isNumeric = false) : (Ast.repetition e count).IsSupported where
  alternation := h.alternation
  numericCount := by rw [hasNumericCount, hcount, h.numericCount, Bool.or_false]

theorem IsSupported.concat {f : Ast} (he : e.IsSupported) (hf : f.IsSupported) :
    (Ast.concat e f).IsSupported where
  alternation := by rw [hasAlternation, he.alternation, hf.alternation, Bool.or_false]
  numericCount := by rw [hasNumericCount, he.numericCount, hf.numericCount, Bool.or_false]

theorem isSupported_ofParts {es : List Ast} (h : ∀ e ∈ es, e.IsSupported) :
    (ofParts es).IsSupported := by
  induction es with
  | nil => exact ⟨rfl, rfl⟩
  | cons e es ih =>
    cases es with
    | nil => exact h e List.mem_cons_self
    | cons f es =>
      exact (h e List.mem_cons_self).concat (ih fun g hg => h g (List.mem_cons_of_mem e hg))

end Ast

/-! ## Reading clear texts -/

variable {src after : Source} {parts : List Ast} {e : Ast}

/-- Where there is only one alternative, the tree is a run of parts. -/
theorem isSupported_finished (h : ∀ part ∈ parts, part.IsSupported) :
    (finished [] parts).IsSupported :=
  Ast.isSupported_ofParts fun part hpart => h part (List.mem_reverse.mp hpart)

theorem isSupported_of_repeatLast {count : Count} {parts' : List Ast}
    (h : ∀ part ∈ parts, part.IsSupported) (hcount : count.isNumeric = false)
    (hrepeat : repeatLast parts count = some parts') : ∀ part ∈ parts', part.IsSupported := by
  unfold repeatLast at hrepeat
  split at hrepeat
  · cases hrepeat
  · cases hrepeat
  · obtain ⟨hlast, hothers⟩ := List.forall_mem_cons.mp h
    rw [← Option.some.inj hrepeat]
    exact List.forall_mem_cons.mpr ⟨hlast.repetition hcount, hothers⟩

/-- A clear text adds supported trees to supported ones. -/
theorem isSupported_of_readBody {fuel : Nat} (h : IsClear src.rest)
    (hparts : ∀ part ∈ parts, part.IsSupported)
    (hread : readBody fuel src [] parts = some (e, after)) : e.IsSupported := by
  induction fuel generalizing src after parts e with
  | zero => cases hread
  | succ fuel ih =>
    cases stops_or_makes h isReplay_of_readBody hread with
    | inl hstop =>
      rw [hstop fuel [] parts] at hread
      rw [← (Prod.mk.inj (Option.some.inj hread)).1]
      exact isSupported_finished hparts
    | inr hmakes =>
      obtain ⟨move, src', hmakes, hmove, hread⟩ := hmakes
      obtain ⟨parts', happly, hread⟩ := Option.bind_eq_some_iff.mp hread
      refine ih hmakes.isRest.clear ?_ hread
      cases hmove with
      | leaf hleaf =>
        rw [← Option.some.inj happly]
        exact List.forall_mem_cons.mpr ⟨Ast.isSupported_of_isLeaf hleaf, hparts⟩
      | group hinner hclear =>
        have hgroup := ih hclear (List.forall_mem_nil _) hinner
        rw [← Option.some.inj happly]
        exact List.forall_mem_cons.mpr ⟨⟨hgroup.alternation, hgroup.numericCount⟩, hparts⟩
      | count hcount => exact isSupported_of_repeatLast hparts hcount happly

end Blocklist.Pattern

/-! ## Filters -/

namespace Blocklist.Filter

open Pattern

theorem isSupported_of_mem_frontAsts {domain : List Char} {subdomains : Bool} {e : Ast}
    (h : e ∈ frontAsts domain subdomains) : e.IsSupported := by
  simp only [frontAsts, List.mem_append, List.mem_map, List.mem_singleton] at h
  rcases h with ((hscheme | hsubdomain) | ⟨c, -, rfl⟩) | rfl
  · simp only [schemeAsts, List.mem_cons, List.not_mem_nil, or_false] at hscheme
    rcases hscheme with rfl | rfl | rfl | rfl | rfl | rfl <;> exact ⟨rfl, rfl⟩
  · cases subdomains with
    | false => cases hsubdomain
    | true =>
      rw [List.mem_singleton.mp hsubdomain]
      exact ⟨rfl, rfl⟩
  · exact ⟨rfl, rfl⟩
  · exact ⟨rfl, rfl⟩

/-- The front of a filter is supported, so the tree of a filter is if the pattern is clear. -/
theorem isSupported_of_parse? {domain pattern : List Char} {subdomains : Bool} {e : Ast}
    (hne : domain ≠ []) (hdomain : ∀ c ∈ domain, Host.isHostChar c)
    (hclear : IsClear (dropSlash pattern))
    (h : parse? (urlFilterChars domain pattern subdomains) = some e) : e.IsSupported := by
  obtain ⟨src, hbody, -, -⟩ := parse?_eq_some_iff.mp h
  obtain ⟨fuel, -, hread⟩ := readBody_urlFilterChars hne hdomain pattern subdomains
  rw [hread] at hbody
  refine isSupported_of_readBody hclear (List.forall_mem_cons.mpr ⟨⟨rfl, rfl⟩, ?_⟩) hbody
  exact fun part hpart => isSupported_of_mem_frontAsts (List.mem_reverse.mp hpart)

end Blocklist.Filter

namespace Blocklist.Tracker

open Pattern

/-- The filter of every rule of an accepted tracker is read as a tree, and there are no alternatives
and no repetition by numbers in it. -/
theorem exists_parse?_isSupported [SizeLimit] {t u : Tracker} (h : t.normalize = .ok u)
    {r : TrackerRule} (hr : r ∈ u.rules) :
    ∃ e, parse? (urlFilter u.domain r).toList = some e ∧ e.hasAlternation = false ∧
      e.hasNumericCount = false := by
  have hu := isNormal_of_normalize h
  have hdomain := Host.isNormal_of_normalize? hu.domain
  have hrule := hu.rules r hr
  obtain ⟨p, hp⟩ := hrule.compiles
  rw [urlFilter, Filter.compile_urlFilter] at hp
  obtain ⟨e, -, hparse, -⟩ := Filter.compileChars_eq_ok_iff.mp hp
  have he := Filter.isSupported_of_parse? (Host.ne_nil_of_isValid hdomain.valid)
    (Host.isHostChar_of_isValid hdomain.valid) hrule.isClear hparse
  rw [urlFilter, Filter.toList_urlFilter]
  exact ⟨e, hparse, he.alternation, he.numericCount⟩

open scoped Pattern.Estimate

/-- A pattern with escapes, a set, a group and a comment in verbose mode. The comment ends with a
backslash, behind which the test passes over the line end. -/
theorem exists_parse?_isSupported_verbose :
    ({ Tracker.forDomain "t" .block with
        rules := [.forPattern "(?x) ads \\| [\\x7b(] (\\.js)? # \\\n x" .block] }).normalize =
      .ok { Tracker.forDomain "t" .block with
        rules := [.forPattern "(?x) ads \\| [\\x7b(] (\\.js)? # \\\n x" .block] } ∧
    ∃ e, parse? (urlFilter "t"
        (.forPattern "(?x) ads \\| [\\x7b(] (\\.js)? # \\\n x" .block)).toList = some e ∧
      e.hasAlternation = false ∧ e.hasNumericCount = false := by
  have hnormal : ({ Tracker.forDomain "t" .block with
        rules := [.forPattern "(?x) ads \\| [\\x7b(] (\\.js)? # \\\n x" .block] }).normalize =
      .ok { Tracker.forDomain "t" .block with
        rules := [.forPattern "(?x) ads \\| [\\x7b(] (\\.js)? # \\\n x" .block] } := by
    decide +kernel
  exact ⟨hnormal, exists_parse?_isSupported hnormal List.mem_cons_self⟩

end Blocklist.Tracker
