import Blocklist.Proofs.Pattern.Scanning

/-! # What a clear pattern adds

From a clear text the reader of patterns takes a list of moves: each one adds a part, or puts a
count on the part that was read last. The moves are those of the text alone. Parts that were read
before change under them only in that the last one may be repeated. -/

namespace Blocklist.Pattern

/-- What the reader does to the parts that it has read, the last one first. -/
inductive Move where
  | add (part : Ast)
  | count (count : Count)

namespace Move

def apply : Move → List Ast → Option (List Ast)
  | add part, parts => some (part :: parts)
  | count n, parts => repeatLast parts n

def isCount : Move → Bool
  | add _ => false
  | count _ => true

end Move

/-- The moves of a text, one after the other. -/
def replay (moves : List Move) (parts : List Ast) : Option (List Ast) :=
  moves.foldlM (fun parts move => move.apply parts) parts

@[simp] theorem replay_nil (parts : List Ast) : replay [] parts = some parts := rfl

@[simp] theorem replay_cons (move : Move) (moves : List Move) (parts : List Ast) :
    replay (move :: moves) parts = (move.apply parts).bind (replay moves) := rfl

/-! ## The moves of a text -/

/-- Whether a text starts with a mark that repeats the part in front of it. -/
def startsRepetition : List Char → Bool
  | [] => false
  | c :: _ => c == '?' || c == '*' || c == '+'

/-- The tree of finished alternatives and of one with the given parts, both with the last one
first. -/
def finished (branches parts : List Ast) : Ast :=
  .ofAlternatives (.ofParts parts.reverse :: branches).reverse

/-- A text is read up to a place further on, and some moves are all that it adds. -/
structure ReadsAs (src : Source) (moves : List Move) (after : Source) : Prop where
  isRest : IsRest src.rest after.rest
  /-- A count comes first only if the text starts with its mark. -/
  head : ¬ startsRepetition src.skip.rest → ∀ move ∈ moves.head?, ¬ move.isCount
  readBody_eq : ∀ fuel, src.rest.length < fuel → ∀ branches parts,
    readBody fuel src branches parts =
      (replay moves parts).map fun parts' => (finished branches parts', after)

/-- What is read is what the moves of the text make of the parts that were read before. -/
def IsReplay (src : Source) (branches parts : List Ast) (e : Ast) (after : Source) : Prop :=
  ∃ moves parts', ReadsAs src moves after ∧ replay moves parts = some parts' ∧
    e = finished branches parts'

/-- The reader stops at a place of a text. -/
def Stops (src : Source) : Prop :=
  ∀ fuel branches parts,
    readBody (fuel + 1) src branches parts = some (finished branches parts, src.skip)

/-- A move that the reader makes at a place of a text, and the place from where it goes on. -/
structure Makes (src : Source) (move : Move) (src' : Source) : Prop where
  isRest : IsRest src.rest src'.rest
  length_lt : src'.rest.length < src.rest.length
  head : move.isCount → startsRepetition src.skip.rest
  readBody_eq : ∀ fuel, src.rest.length ≤ fuel → ∀ branches parts,
    readBody (fuel + 1) src branches parts = (move.apply parts).bind (readBody fuel src' branches)

variable {src src' after : Source} {branches parts : List Ast} {e : Ast}

theorem IsReplay.stop (h : IsClear src.rest) (hstop : Stops src) :
    IsReplay src branches parts (finished branches parts) src.skip := by
  refine ⟨[], parts, ⟨Source.isRest_skip h, by simp, ?_⟩, rfl, rfl⟩
  intro fuel hfuel branches parts
  obtain ⟨n, rfl⟩ := Nat.exists_eq_add_one_of_ne_zero (Nat.ne_zero_of_lt hfuel)
  exact hstop n branches parts

/-- A move comes in front of the moves of the text that is left. -/
theorem IsReplay.cons {move : Move} {parts' : List Ast} (h : IsReplay src' branches parts' e after)
    (hmakes : Makes src move src') (hmove : move.apply parts = some parts') :
    IsReplay src branches parts e after := by
  obtain ⟨moves, parts'', hmoves, hreplay, he⟩ := h
  refine ⟨move :: moves, parts'', ⟨hmakes.isRest.trans hmoves.isRest, ?_, ?_⟩, ?_, he⟩
  · intro hstarts m hm
    obtain rfl : move = m := by simpa using hm
    exact fun hcount => hstarts (hmakes.head hcount)
  · intro fuel hfuel branches parts
    obtain ⟨n, rfl⟩ := Nat.exists_eq_add_one_of_ne_zero (Nat.ne_zero_of_lt hfuel)
    have hlt := hmakes.length_lt
    rw [hmakes.readBody_eq n (by omega), replay_cons]
    cases move.apply parts with
    | none => rfl
    | some parts' => exact hmoves.readBody_eq n (by omega) branches parts'
  · rw [replay_cons, hmove, Option.bind_some, hreplay]

/-! ## One move -/

section

variable {c : Char} {cs : List Char}

theorem makes_of_isRest {move : Move} (h : IsClear src.rest) (hrest : src.skip.rest = c :: cs)
    (hcs : IsRest cs src'.rest) (hhead : move.isCount → startsRepetition (c :: cs))
    (hbody : ∀ fuel, src.rest.length ≤ fuel → ∀ branches parts,
      readBody (fuel + 1) src branches parts =
        (move.apply parts).bind (readBody fuel src' branches)) :
    Makes src move src' where
  isRest := (Source.isRest_skip h).trans (hrest ▸ hcs.cons c)
  length_lt := by
    have hskip := (Source.isRest_skip h).length_le
    have hlength := hcs.length_le
    rw [hrest, List.length_cons] at hskip
    omega
  head := fun hcount => hrest ▸ hhead hcount
  readBody_eq := hbody

theorem makes_plain {part : Ast} (h : IsClear src.rest) (hrest : src.skip.rest = c :: cs)
    (hc : c ≠ '\\')
    (hbody : ∀ n branches parts, readBody (n + 1) src branches parts =
      readBody n (src.skip.goOn cs) branches (part :: parts)) :
    Makes src (.add part) (src.skip.goOn cs) :=
  makes_of_isRest h hrest (isRest_tail_of_skip_eq h hrest hc).clear.isRest (by simp [Move.isCount])
    fun n _ => hbody n

theorem makes_count {count : Count} (h : IsClear src.rest) (hrest : src.skip.rest = c :: cs)
    (hc : startsRepetition (c :: cs))
    (hbody : ∀ n branches parts, readBody (n + 1) src branches parts =
      (repeatLast parts count).bind (readBody n (src.skip.skipLazy cs) branches)) :
    Makes src (.count count) (src.skip.skipLazy cs) := by
  have hne : c ≠ '\\' := by
    rintro rfl
    cases hc
  have hcs := (isRest_tail_of_skip_eq h hrest hne).clear
  exact makes_of_isRest h hrest (isRest_skipLazy src.skip hcs) (fun _ => hc) fun n _ => hbody n

theorem makes_escape {escape : Escape} (h : IsClear src.rest) (hrest : src.skip.rest = '\\' :: cs)
    (hescape : readEscape (src.skip.goOn cs) = some (escape, src')) :
    Makes src (.add escape.toAst) src' := by
  have hclear : IsClear ('\\' :: (src.skip.goOn cs).rest) := hrest ▸ (Source.isRest_skip h).clear
  apply makes_of_isRest h hrest (isRest_of_readEscape hclear hescape) (by simp [Move.isCount])
  intro n hn branches parts
  rw [readBody]
  simp only [hrest, hescape]
  rfl

theorem makes_set {fuel : Nat} {negated : Bool} {first : List ClassSet} {inner : Source}
    {s : ClassSet} (h : IsClear src.rest) (hrest : src.skip.rest = '[' :: cs)
    (hstart : readSetStart (src.skip.goOnSkipping cs) = some (negated, first, inner))
    (hset : readSet fuel inner none first = some (s, src')) :
    Makes src (.add (.bracketed negated s)) src' := by
  have hcs := (isRest_tail_of_skip_eq h hrest (by decide)).clear
  have hgoOn := Source.isRest_goOnSkipping src.skip hcs
  have hinner := hgoOn.trans (isRest_of_readSetStart hgoOn.clear hstart)
  have hset := readsSet_of_readSet hinner.clear hset
  apply makes_of_isRest h hrest (hinner.trans hset.isRest) (by simp [Move.isCount])
  intro n hn branches parts
  have hskip := (Source.isRest_skip h).length_le
  have hlength := hinner.length_le
  rw [hrest, List.length_cons] at hskip
  rw [readBody]
  simp only [hrest, hstart, bind, Option.bind_some, hset.readSet_eq n (by omega)]
  rfl

section Groups

variable {change : FlagChange} {kind : GroupKind} {inner : Source}

theorem isRest_of_opening {o : Opening} (h : IsClear src.rest) (hrest : src.skip.rest = '(' :: cs)
    (hopening : readOpening (src.skip.goOnSkipping cs) = some (o, inner)) :
    IsRest cs inner.rest := by
  have hcs := (isRest_tail_of_skip_eq h hrest (by decide)).clear
  have hgoOn := Source.isRest_goOnSkipping src.skip hcs
  exact hgoOn.trans (isRest_of_readOpening hgoOn.clear hopening)

theorem makes_flags (h : IsClear src.rest) (hrest : src.skip.rest = '(' :: cs)
    (hopening : readOpening (src.skip.goOnSkipping cs) = some (.flags change, inner)) :
    Makes src (.add (.flags change))
      { inner with verbose := FlagChange.verbose change src.skip.verbose } := by
  have hinner := isRest_of_opening h hrest hopening
  apply makes_of_isRest h hrest
    (show IsRest cs { inner with verbose := FlagChange.verbose change src.skip.verbose }.rest from
      hinner)
    (by simp [Move.isCount])
  intro n hn branches parts
  rw [readBody]
  simp only [hrest, hopening]
  rfl

theorem makes_group {rest : List Char} (h : IsClear src.rest) (hrest : src.skip.rest = '(' :: cs)
    (hopening : readOpening (src.skip.goOnSkipping cs) = some (.group kind, inner))
    (hgroup : IsReplay { inner with verbose := FlagChange.verbose kind.change src.skip.verbose }
      [] [] e after)
    (hclose : after.rest = ')' :: rest) :
    Makes src (.add (.group kind e)) { after with rest, verbose := src.skip.verbose } := by
  obtain ⟨moves, parts', hmoves, hreplay, rfl⟩ := hgroup
  have hinner := isRest_of_opening h hrest hopening
  have hafter : IsRest cs (')' :: rest) := hclose ▸ hinner.trans hmoves.isRest
  have hbehind := hafter.trans (hafter.clear.isRest_tail (by decide))
  apply makes_of_isRest h hrest hbehind (by simp [Move.isCount])
  intro n hn branches parts
  have hskip := (Source.isRest_skip h).length_le
  have hlength := hinner.length_le
  rw [hrest, List.length_cons] at hskip
  have hread := hmoves.readBody_eq n (show inner.rest.length < n by omega) [] []
  rw [hreplay] at hread
  rw [readBody]
  simp only [hrest, hopening, bind, Option.bind_some, hread, Option.map_some, hclose]
  rfl

end Groups

/-- Whether a tree has no other trees in it. -/
def Ast.isLeaf : Ast → Bool
  | .repetition _ _ | .group _ _ | .concat _ _ | .alternation _ _ => false
  | _ => true

theorem Escape.isLeaf_toAst (escape : Escape) : escape.toAst.isLeaf := by
  cases escape <;> rfl

/-- What a move in a clear text can be: of the trees that have others in them only groups are read
in one move, and of the counts only those that are written as a mark. -/
inductive Move.IsOfClear (fuel : Nat) : Move → Prop where
  | leaf {part : Ast} (h : part.isLeaf) : IsOfClear fuel (.add part)
  | group {kind : GroupKind} {e : Ast} {inner after : Source}
      (hread : readBody fuel inner [] [] = some (e, after)) (h : IsClear inner.rest) :
      IsOfClear fuel (.add (.group kind e))
  | count {n : Count} (h : n.isNumeric = false) : IsOfClear fuel (.count n)

/-- The reader stops at a place of a clear text, or it makes a move there. A group is read by the
same reader, so its own text has to be known as a replay already. -/
theorem stops_or_makes {fuel : Nat} (h : IsClear src.rest)
    (hgroup : ∀ {inner after : Source} {e : Ast}, IsClear inner.rest →
      readBody fuel inner [] [] = some (e, after) → IsReplay inner [] [] e after)
    (hread : readBody (fuel + 1) src branches parts = some (e, after)) :
    Stops src ∨ ∃ move src', Makes src move src' ∧ move.IsOfClear fuel ∧
      (move.apply parts).bind (readBody fuel src' branches) = some (e, after) := by
  unfold readBody at hread
  simp only at hread
  split at hread
  · rename_i hrest
    exact .inl (readBody_of_rest_eq_nil hrest)
  · rename_i c cs hrest
    have hclear : IsClear (c :: cs) := hrest ▸ (Source.isRest_skip h).clear
    split at hread
    · exact .inl fun n branches parts => by simp [readBody, hrest, finished]
    · exact absurd rfl hclear.ne_bar
    -- Behind an opening parenthesis stand flags, or a group with a text of its own.
    · obtain ⟨⟨opening, inner⟩, hopening, hread⟩ := Option.bind_eq_some_iff.mp hread
      simp only at hread
      split at hread
      · exact .inr ⟨_, _, makes_flags h hrest hopening, .leaf rfl, hread⟩
      · obtain ⟨⟨e', after'⟩, hinner, hread⟩ := Option.bind_eq_some_iff.mp hread
        simp only at hread
        split at hread
        · rename_i hclose
          have hclear' : IsClear inner.rest := (isRest_of_opening h hrest hopening).clear
          have hreplay :=
            @hgroup { inner with verbose := FlagChange.verbose _ src.skip.verbose } _ _
            hclear' hinner
          exact .inr ⟨_, _, makes_group h hrest hopening hreplay hclose, .group hinner hclear',
            hread⟩
        · cases hread
    · obtain ⟨⟨negated, first, inner⟩, hstart, hread⟩ := Option.bind_eq_some_iff.mp hread
      obtain ⟨⟨s, src'⟩, hset, hread⟩ := Option.bind_eq_some_iff.mp hread
      exact .inr ⟨_, _, makes_set h hrest hstart hset, .leaf rfl, hread⟩
    -- Three marks put a count on the part in front of them.
    · refine .inr ⟨_, _, makes_count h hrest rfl fun n _ _ => ?_, .count rfl, hread⟩
      rw [readBody]
      simp only [hrest]
      rfl
    · refine .inr ⟨_, _, makes_count h hrest rfl fun n _ _ => ?_, .count rfl, hread⟩
      rw [readBody]
      simp only [hrest]
      rfl
    · refine .inr ⟨_, _, makes_count h hrest rfl fun n _ _ => ?_, .count rfl, hread⟩
      rw [readBody]
      simp only [hrest]
      rfl
    · exact absurd rfl hclear.ne_brace
    · obtain ⟨⟨escape, after'⟩, hescape, hread⟩ := Option.bind_eq_some_iff.mp hread
      exact .inr ⟨_, _, makes_escape h hrest hescape, .leaf escape.isLeaf_toAst, hread⟩
    -- Any other character is a part by itself.
    · refine .inr ⟨.add .dot, _, makes_plain h hrest (by decide) fun n _ _ => ?_, .leaf rfl, hread⟩
      rw [readBody]
      simp only [hrest]
    · refine .inr ⟨.add (.assertion .startLine), _, makes_plain h hrest (by decide) fun n _ _ => ?_,
        .leaf rfl, hread⟩
      rw [readBody]
      simp only [hrest]
    · refine .inr ⟨.add (.assertion .endLine), _, makes_plain h hrest (by decide) fun n _ _ => ?_,
        .leaf rfl, hread⟩
      rw [readBody]
      simp only [hrest]
    · rename_i hne _ _ _
      refine .inr ⟨.add (.literal ⟨c, false⟩), _, makes_plain h hrest hne fun n _ _ => ?_,
        .leaf rfl, hread⟩
      rw [readBody]
      simp only [hrest]

end

/-- From a clear text nothing is read but what its moves add, whatever was read before. -/
theorem isReplay_of_readBody {fuel : Nat} (h : IsClear src.rest)
    (hread : readBody fuel src branches parts = some (e, after)) :
    IsReplay src branches parts e after := by
  induction fuel generalizing src after branches parts e with
  | zero => cases hread
  | succ fuel ih =>
    cases stops_or_makes h ih hread with
    | inl hstop =>
      obtain ⟨rfl, rfl⟩ :=
        Prod.mk.inj (Option.some.inj ((hstop fuel branches parts).symm.trans hread))
      exact .stop h hstop
    | inr hmakes =>
      obtain ⟨move, src', hmakes, -, hread⟩ := hmakes
      obtain ⟨parts', hparts', hread⟩ := Option.bind_eq_some_iff.mp hread
      exact (ih hmakes.isRest.clear hread).cons hmakes hparts'

/-! ## Parts that were read before -/

/-- Behind a part that they are for, moves add the same parts to any others. -/
theorem exists_of_replay_append {moves : List Move} {new parts parts' : List Ast} (hne : new ≠ [])
    (h : replay moves (new ++ parts) = some parts') :
    ∃ new', parts' = new' ++ parts ∧
      ∀ others, replay moves (new ++ others) = some (new' ++ others) := by
  induction moves generalizing new with
  | nil => exact ⟨new, (Option.some.inj h).symm, fun _ => rfl⟩
  | cons move moves ih =>
    cases move with
    | add part => exact @ih (part :: new) (List.cons_ne_nil _ _) h
    | count n =>
      obtain ⟨part, new, rfl⟩ := List.exists_cons_of_ne_nil hne
      cases part with
      | flags change => cases h
      | _ => exact @ih (_ :: new) (List.cons_ne_nil _ _) h

/-- A text that starts with no count adds the same parts to any others. -/
theorem ReadsAs.exists_of_replay {moves : List Move} {parts' : List Ast}
    (h : ReadsAs src moves after) (hstarts : ¬ startsRepetition src.skip.rest)
    (hreplay : replay moves parts = some parts') :
    ∃ new, parts' = new ++ parts ∧ ∀ others, replay moves others = some (new ++ others) := by
  cases moves with
  | nil => exact ⟨[], (Option.some.inj hreplay).symm, fun _ => rfl⟩
  | cons move moves =>
    cases move with
    | add part => exact @exists_of_replay_append moves [part] _ _ (List.cons_ne_nil _ _) hreplay
    | count n => exact absurd rfl (h.head hstarts (.count n) rfl)

/-- A part that may be repeated. -/
def Ast.IsRepeatable (e : Ast) : Prop := ∀ change, e ≠ .flags change

theorem Ast.IsRepeatable.repeatLast_repeated {x : Ast} (hx : x.IsRepeatable) (counts : List Count)
    (parts : List Ast) (count : Count) :
    repeatLast (x.repeated counts :: parts) count =
      some (x.repeated (counts ++ [count]) :: parts) := by
  rw [repeated, repeated, List.foldl_append]
  cases counts using List.reverseRecOn with
  | nil =>
    cases x with
    | flags change => exact absurd rfl (hx change)
    | _ => rfl
  | append_singleton counts count' => simp [List.foldl_append, repeatLast]

/-- Moves put the same counts on any part that may be repeated, and the same parts behind it. -/
theorem exists_of_replay_repeated {moves : List Move} {x : Ast} {parts : List Ast}
    {counts : List Count} {parts' : List Ast} (hx : x.IsRepeatable)
    (h : replay moves (x.repeated counts :: parts) = some parts') :
    ∃ new counts', parts' = new ++ x.repeated counts' :: parts ∧
      ∀ (y : Ast) (others : List Ast), y.IsRepeatable →
        replay moves (y.repeated counts :: others) =
          some (new ++ y.repeated counts' :: others) := by
  induction moves generalizing counts with
  | nil => exact ⟨[], counts, (Option.some.inj h).symm, fun _ _ _ => rfl⟩
  | cons move moves ih =>
    cases move with
    | add part =>
      obtain ⟨new, heq, hall⟩ :=
        @exists_of_replay_append moves [part] _ _ (List.cons_ne_nil _ _) h
      exact ⟨new, counts, heq, fun y others _ => hall (y.repeated counts :: others)⟩
    | count n =>
      simp only [replay_cons, Move.apply, hx.repeatLast_repeated, Option.bind_some] at h
      obtain ⟨new, counts', heq, hall⟩ := ih h
      refine ⟨new, counts', heq, fun y others hy => ?_⟩
      simp only [replay_cons, Move.apply, hy.repeatLast_repeated, Option.bind_some]
      exact hall y others hy

end Blocklist.Pattern
