import Blocklist.Proofs.Host.Offsets
import Blocklist.Proofs.SuffixList.Registrable

/-! # The walk by byte offsets

The labels of a registrable domain are counted from the last one, and the walk goes from a host to
its parent as long as that has bytes enough. Main statement: `Bytewise.walk_eq`. -/

namespace Blocklist.SuffixList

open Text Host

namespace Bytewise

/-- The registrable domain of a host by the table of common suffixes. -/
def registrableByTable (host : List Char) : Except OffsetError (List Char) := do
  let labels := parts '.' host
  let n := labels.length
  if n ≤ 2 then return joined '.' labels
  else
    let first ← itemAt labels (← minus n 2)
    let second ← itemAt labels (← minus n 1)
    if commonSuffixes.contains (String.ofList (first ++ '.' :: second)) then
      return joined '.' (← itemsBetween labels (← minus n 3) n)
    else return joined '.' (← itemsBetween labels (← minus n 2) n)

/-- The registrable domain of a host in lower case. Trailing dots do not count. -/
def registrableChars (list : SuffixList) (host : List Char) : Except OffsetError (List Char) :=
  let host := dropEndWhile (· == '.') host
  match list with
  | heuristic => registrableByTable host
  | rules rs => return (registrableByRules? rs host).getD host

/-- The length that a domain must have to be looked for among the domains of a host. -/
def leastLength (list : SuffixList) (host : List Char) : Except OffsetError Nat := do
  let domain ← registrableChars list host
  if domain.isSuffixOf host then
    match ← Host.Bytewise.parentChars? domain with
    | some suffix =>
      return if suffix.contains '.' then (encode suffix).length else (encode domain).length
    | none => return (encode domain).length
  else return (encode host).length

/-- The domain that follows in a walk. The empty text ends it. -/
def next (least : Nat) (domain : List Char) : Except OffsetError (List Char) := do
  match ← Host.Bytewise.parentChars? domain with
  | some parent => return if least ≤ (encode parent).length then parent else []
  | none => return []

end Bytewise

/-! ## Registrable domains -/

theorem lastLabels_eq_drop (n : Nat) (host : List Char) :
    lastLabels n host = joined '.' ((parts '.' host).drop ((parts '.' host).length - n)) := by
  rw [lastLabels, List.take_reverse, List.reverse_reverse]

theorem exists_eq_append_pair {α : Type u} {xs : List α} (h : 2 ≤ xs.length) :
    ∃ front x y, xs = front ++ [x, y] := by
  have hlength : (xs.drop (xs.length - 2)).length = 2 := by
    rw [List.length_drop]
    omega
  obtain ⟨x, y, hlast⟩ := List.length_eq_two.mp hlength
  exact ⟨xs.take (xs.length - 2), x, y, by rw [← hlast, List.take_append_drop]⟩

theorem Bytewise.registrableByTable_eq (host : List Char) :
    registrableByTable host = pure (SuffixList.registrableByTable host) := by
  rw [SuffixList.registrableByTable_eq, registrableIn]
  by_cases hshort : (parts '.' host).length ≤ 2
  case pos =>
    rw [lastLabels_eq_self hshort, lastLabels_eq_self (Nat.le_succ_of_le hshort), ite_self]
    simp only [registrableByTable, if_pos hshort, joined_parts]
  case neg =>
    obtain ⟨front, x, y, hlabels⟩ := exists_eq_append_pair (Nat.le_of_not_le hshort)
    have hminus : ∀ k ≤ 3, minus (parts '.' host).length k = pure ((parts '.' host).length - k) :=
      fun k hk => minus_of_le (by omega)
    have hfirst : itemAt (parts '.' host) ((parts '.' host).length - 2) = pure x := by
      simp [hlabels, itemAt]
      rfl
    have hsecond : itemAt (parts '.' host) ((parts '.' host).length - 1) = pure y := by
      simp [hlabels, itemAt]
      rfl
    have hpair : lastLabels 2 host = x ++ '.' :: y := by
      rw [lastLabels_eq_drop, hlabels]
      simp [joined]
    simp only [registrableByTable, if_neg hshort]
    rw [hminus 2 (by decide), hminus 1 (by decide), hminus 3 (by decide), pure_bind, hfirst,
      pure_bind, pure_bind, hsecond, pure_bind, pure_bind, pure_bind,
      itemsBetween_length (Nat.sub_le _ _), itemsBetween_length (Nat.sub_le _ _), pure_bind,
      pure_bind, ← lastLabels_eq_drop, ← lastLabels_eq_drop, hpair]
    split <;> rfl

theorem Bytewise.registrableChars_eq (list : SuffixList) (host : List Char) :
    registrableChars list host = pure (SuffixList.registrableChars list host) := by
  cases list with
  | heuristic => exact registrableByTable_eq _
  | rules rs => rfl

theorem Bytewise.leastLength_eq (list : SuffixList) (host : List Char) :
    leastLength list host = pure (SuffixList.leastLength list host) := by
  rw [leastLength, registrableChars_eq, pure_bind, SuffixList.leastLength]
  simp only [Host.Bytewise.parentChars?_eq, pure_bind, length_encode]
  split
  · cases Host.parentChars? (list.registrableChars host) <;> rfl
  · rfl

/-! ## Walks -/

/-- The domains of a host that have a length at least. -/
def domainsFrom (least : Nat) (host : List Char) : List (List Char) :=
  if host.isEmpty then []
  else (host :: parents host).takeWhile fun d => least ≤ utf8Length d

theorem walkChars_eq (list : SuffixList) (host : List Char) :
    list.walkChars host = domainsFrom (list.leastLength host) host :=
  rfl

theorem parents_append {label : List Char} (h : '.' ∉ label) (cs : List Char) :
    parents (label ++ cs) = parents cs := by
  induction label with
  | nil => rfl
  | cons c label ih =>
    rw [List.mem_cons, not_or] at h
    simp [parents, Ne.symm h.1, ih h.2]

theorem parents_eq (host : List Char) :
    parents host = (Host.parentChars? host).elim [] fun parent => parent :: parents parent := by
  by_cases hdot : '.' ∈ host
  · obtain ⟨label, rest, rfl, hlabel⟩ := List.eq_append_cons_of_mem hdot
    rw [parents_append hlabel, Host.parentChars?, cut?_append hlabel]
    cases rest <;> simp [parents]
  · rw [← List.append_nil host, parents_append hdot, List.append_nil, Host.parentChars?,
      cut?_of_not_mem hdot]
    rfl

/-- The domain behind a domain in a walk, or the empty text. -/
def domainBehind (least : Nat) (domain : List Char) : List Char :=
  (Host.parentChars? domain).elim [] fun parent =>
    if least ≤ utf8Length parent then parent else []

theorem Bytewise.next_eq (least : Nat) (domain : List Char) :
    next least domain = pure (domainBehind least domain) := by
  rw [next, Host.Bytewise.parentChars?_eq, pure_bind, domainBehind]
  simp only [length_encode]
  cases Host.parentChars? domain <;> rfl

theorem length_domainBehind_lt {domain : List Char} (hne : domain ≠ []) (least : Nat) :
    (domainBehind least domain).length < domain.length := by
  have hpos := List.length_pos_of_ne_nil hne
  unfold domainBehind
  cases hparent : Host.parentChars? domain with
  | none => exact hpos
  | some parent =>
    obtain ⟨label, rfl⟩ := suffix_of_parentChars? hparent
    rw [Option.elim_some]
    split
    · rw [List.length_append, List.length_cons]
      omega
    · exact hpos

theorem domainsFrom_eq (least : Nat) (domain : List Char) :
    domainsFrom least domain =
      if domain = [] ∨ utf8Length domain < least then []
      else domain :: domainsFrom least (domainBehind least domain) := by
  split
  · rename_i hstop
    rcases hstop with rfl | hshort
    · rfl
    · simp [domainsFrom, hshort]
  · rename_i hgo
    obtain ⟨hne, hlong⟩ : domain ≠ [] ∧ least ≤ utf8Length domain := by simpa using hgo
    have hparents := parents_eq domain
    rw [domainsFrom, if_neg (by simpa using hne), List.takeWhile_cons_of_pos (by simpa using hlong),
      domainBehind]
    congr 1
    cases hparent : Host.parentChars? domain with
    | none =>
      rw [hparent, Option.elim_none] at hparents
      rw [hparents]
      rfl
    | some parent =>
      rw [hparent, Option.elim_some] at hparents
      have hparent : parent ≠ [] := (mem_parents_iff.mp (hparents ▸ List.mem_cons_self)).1
      rw [hparents, Option.elim_some]
      split
      · simp [domainsFrom, hparent]
      · rename_i hshort
        rw [List.takeWhile_cons_of_neg (by simpa using hshort)]
        rfl

theorem Bytewise.length_lt_of_next {least : Nat} {domain d : List Char} (hne : domain ≠ [])
    (h : next least domain = .ok d) : d.length < domain.length := by
  rw [next_eq] at h
  obtain rfl := Except.ok.inj h
  exact length_domainBehind_lt hne least

namespace Bytewise

/-- The walk from a domain on. -/
def walkFrom (least : Nat) (domain : List Char) : Except OffsetError (List (List Char)) :=
  if _hstop : domain = [] ∨ (encode domain).length < least then return []
  else
    match _hnext : next least domain with
    | .error e => .error e
    | .ok d => (walkFrom least d).map (domain :: ·)
termination_by domain.length
decreasing_by exact length_lt_of_next (fun hnil => _hstop (.inl hnil)) _hnext

/-- The domains that a host belongs to, from itself down to its public suffix. -/
def walkChars (list : SuffixList) (host : List Char) : Except OffsetError (List (List Char)) := do
  walkFrom (← leastLength list host) host

/-- The domains that a host belongs to, from itself down to its public suffix. -/
def walk (list : SuffixList) (host : String) : Except OffsetError (List String) := do
  return (← walkChars list host.toList).map String.ofList

end Bytewise

theorem Bytewise.walkFrom_eq (least : Nat) (domain : List Char) :
    walkFrom least domain = pure (domainsFrom least domain) := by
  fun_induction walkFrom least domain with
  | case1 domain hstop =>
    rw [length_encode] at hstop
    rw [domainsFrom_eq, if_pos hstop]
  | case2 domain hgo e hnext =>
    rw [next_eq] at hnext
    cases hnext
  | case3 domain hgo d hnext ih =>
    rw [length_encode] at hgo
    rw [next_eq] at hnext
    obtain rfl := Except.ok.inj hnext
    rw [ih, domainsFrom_eq least domain, if_neg hgo]
    rfl

theorem Bytewise.walkChars_eq (list : SuffixList) (host : List Char) :
    walkChars list host = pure (list.walkChars host) := by
  rw [walkChars, leastLength_eq, pure_bind, walkFrom_eq, SuffixList.walkChars_eq]

theorem Bytewise.walk_eq (list : SuffixList) (host : String) :
    walk list host = pure (list.walk host) := by
  rw [walk, walkChars_eq, pure_bind, SuffixList.walk]

end Blocklist.SuffixList
