import Blocklist.Proofs.Url.Authority

/-! # The grammar of resource URLs

The texts that are accepted as the URL of a resource: a web scheme, `://`, an authority with a valid
host, and a rest that starts with one of the characters that end authorities. The scheme, the
authority and the rest stay as they are written, and the result is accepted as it is. Main
statement: `followsGrammar`. -/

namespace Blocklist.Url

open Text

/-! ## Authorities -/

/-- An authority cut into a user with its `@`, a host, the dots behind it, and a port with its
colon. -/
structure IsAuthority (authority user host dots port : List Char) : Prop where
  eq : authority = user ++ (host ++ dots ++ port)
  user_eq : user = [] ∨ ∃ name, user = name ++ ['@']
  at_not_mem : '@' ∉ host ++ dots ++ port
  colon_not_mem : ':' ∉ host ++ dots
  port_eq : port = [] ∨ ∃ cs, port = ':' :: cs
  dots_eq : ∀ c ∈ dots, c = '.'
  last : host.getLast? ≠ some '.'

/-- The host of an authority as it is written, without dots at the end. -/
def writtenHost (authority : List Char) : List Char :=
  dropEndWhile (· == '.') (hostPart authority)

theorem IsAuthority.writtenHost_eq {authority user host dots port : List Char}
    (h : IsAuthority authority user host dots port) : writtenHost authority = host := by
  have hdots : ∀ c ∈ dots, c == '.' := by simpa using h.dots_eq
  rw [writtenHost, h.eq, hostPart_append h.user_eq h.at_not_mem,
    hostPart_eq h.at_not_mem h.colon_not_mem h.port_eq, dropEndWhile_append hdots]
  exact dropEndWhile_beq_eq_self h.last

/-- A marker at which a text is cut is the first item behind what does not hold it. -/
theorem dropWhile_bne_eq_nil_or (c : Char) (cs : List Char) :
    cs.dropWhile (· != c) = [] ∨ ∃ rest, cs.dropWhile (· != c) = c :: rest := by
  cases h : cs.dropWhile (· != c) with
  | nil => exact .inl rfl
  | cons d rest =>
    have hd := List.head?_dropWhile_not (· != c) cs
    rw [h] at hd
    exact .inr ⟨rest, by simpa using hd⟩

theorem not_mem_takeWhile_bne (c : Char) (cs : List Char) : c ∉ cs.takeWhile (· != c) := by
  intro hmem
  simpa using List.mem_takeWhile_imp hmem

/-- Every authority can be cut behind its last `@`. -/
theorem exists_user (authority : List Char) :
    ∃ user tail, authority = user ++ tail ∧ (user = [] ∨ ∃ name, user = name ++ ['@']) ∧
      '@' ∉ tail := by
  refine ⟨userInfo authority, (authority.reverse.takeWhile (· != '@')).reverse, ?_, ?_, ?_⟩
  · rw [userInfo, ← List.reverse_append, List.takeWhile_append_dropWhile, List.reverse_reverse]
  · refine (dropWhile_bne_eq_nil_or '@' authority.reverse).imp ?_ ?_
    · intro hnil
      rw [userInfo, hnil, List.reverse_nil]
    · rintro ⟨name, hname⟩
      exact ⟨name.reverse, by rw [userInfo, hname, List.reverse_cons]⟩
  · rw [List.mem_reverse]
    exact not_mem_takeWhile_bne '@' authority.reverse

theorem exists_isAuthority (authority : List Char) :
    ∃ user dots port, IsAuthority authority user (writtenHost authority) dots port := by
  obtain ⟨user, tail, rfl, huser, htail⟩ := exists_user authority
  have hpart : hostPart (user ++ tail) = tail.takeWhile (· != ':') := by
    rw [hostPart_append huser htail, hostPart_of_not_mem htail]
  obtain ⟨dots, hhost, hdots⟩ :=
    exists_eq_dropEndWhile_append (· == '.') (tail.takeWhile (· != ':'))
  have heq : tail = dropEndWhile (· == '.') (tail.takeWhile (· != ':')) ++ dots ++
      tail.dropWhile (· != ':') := by
    rw [← hhost, List.takeWhile_append_dropWhile]
  refine ⟨user, dots, tail.dropWhile (· != ':'), ?_⟩
  rw [writtenHost, hpart]
  constructor
  case eq => rw [← heq]
  case user_eq => exact huser
  case at_not_mem => rwa [← heq]
  case colon_not_mem =>
    rw [← hhost]
    exact not_mem_takeWhile_bne ':' tail
  case port_eq => exact dropWhile_bne_eq_nil_or ':' tail
  case dots_eq => simpa using hdots
  case last => exact fun hlast => not_of_getLast?_dropEndWhile hlast (by simp)

/-- The host that an authority is cut around is the one that is read. -/
theorem exists_isAuthority_iff {authority host : List Char} :
    (∃ user dots port, IsAuthority authority user host dots port) ↔
      writtenHost authority = host := by
  constructor
  · rintro ⟨user, dots, port, h⟩
    exact h.writtenHost_eq
  · rintro rfl
    exact exists_isAuthority authority

/-! ## URLs -/

/-- The characters of a host as it is written. -/
structure IsWrittenHost (host : List Char) : Prop where
  ne_nil : host ≠ []
  head : host.head? ≠ some '.'
  noDots : ¬['.', '.'] <:+: host
  chars : ∀ c ∈ host, c.isAlphanum ∨ c = '.' ∨ c = '-' ∨ c = '_'

/-- A URL of the grammar, with the host as it is written. -/
structure IsWebUrl (url scheme authority rest host : List Char) : Prop where
  eq : url = scheme ++ ':' :: '/' :: '/' :: (authority ++ rest)
  isScheme : String.ofList (scheme.map Char.toLower) ∈ ["http", "https", "ws", "wss"]
  authority_chars : ∀ c ∈ authority, c ∉ ['/', '?', '#']
  rest_eq : rest = [] ∨ ∃ c cs, rest = c :: cs ∧ c ∈ ['/', '?', '#']
  isAuthority : ∃ user dots port, IsAuthority authority user host dots port
  isHost : IsWrittenHost host

theorem isWrittenHost_iff {host : List Char} : IsWrittenHost host ↔ Host.isValid host := by
  have hvalid : Host.isValid host ↔ host ≠ [] ∧ host.head? ≠ some '.' ∧ ¬['.', '.'] <:+: host ∧
      ∀ c ∈ host, c.isAlphanum ∨ c = '.' ∨ c = '-' ∨ c = '_' := by
    rw [← Host.hasEmptyLabel_iff]
    simp [Host.isValid, Host.isHostChar, and_assoc, or_assoc]
  rw [hvalid]
  constructor
  · intro h
    exact ⟨h.ne_nil, h.head, h.noDots, h.chars⟩
  · intro h
    exact ⟨h.1, h.2.1, h.2.2.1, h.2.2.2⟩

theorem exists_name_iff {scheme : List Char} :
    (∃ s : Scheme, scheme.map Char.toLower = s.name.toList) ↔
      String.ofList (scheme.map Char.toLower) ∈ ["http", "https", "ws", "wss"] := by
  constructor
  · rintro ⟨s, hs⟩
    rw [hs, String.ofList_toList]
    cases s <;> simp [Scheme.name]
  · intro hmem
    have hname : ∀ name : String, String.ofList (scheme.map Char.toLower) = name →
        scheme.map Char.toLower = name.toList := by
      rintro name rfl
      rw [String.toList_ofList]
    simp only [List.mem_cons, List.not_mem_nil, or_false] at hmem
    rcases hmem with h | h | h | h
    · exact ⟨.http, hname _ h⟩
    · exact ⟨.https, hname _ h⟩
    · exact ⟨.ws, hname _ h⟩
    · exact ⟨.wss, hname _ h⟩

theorem endsAuthority_iff {c : Char} : endsAuthority c ↔ c ∈ ['/', '?', '#'] := by
  simp [endsAuthority, or_assoc]

/-- The texts of the grammar are those that can be cut around an authority with a valid host. -/
theorem isWebUrl_iff {url scheme authority rest host : List Char} :
    IsWebUrl url scheme authority rest host ↔ IsCutAs url scheme authority rest ∧
      writtenHost authority = host ∧ Host.isValid host := by
  constructor
  · intro h
    refine ⟨⟨h.eq, exists_name_iff.mpr h.isScheme, ?_, ?_⟩, exists_isAuthority_iff.mp h.isAuthority,
      isWrittenHost_iff.mp h.isHost⟩
    · simpa only [endsAuthority_iff] using h.authority_chars
    · simpa only [endsAuthority_iff] using h.rest_eq
  · rintro ⟨hcut, hhost, hvalid⟩
    refine ⟨hcut.eq, exists_name_iff.mp hcut.isScheme, ?_, ?_, exists_isAuthority_iff.mpr hhost,
      isWrittenHost_iff.mpr hvalid⟩
    · simpa only [endsAuthority_iff] using hcut.isAuthority
    · simpa only [endsAuthority_iff] using hcut.isRest

section

variable {url scheme authority rest host : List Char}

/-- A text of the grammar is accepted, and the parts stay as they are written. -/
theorem IsWebUrl.normalizeChars?_eq {resource : List Char}
    (h : IsWebUrl (withScheme (trimChars resource)) scheme authority rest host) :
    normalizeChars? resource =
      some (scheme ++ ':' :: '/' :: '/' :: (authority ++ withPath rest),
        host.map Char.toLower) := by
  obtain ⟨hcut, hhost, hvalid⟩ := isWebUrl_iff.mp h
  have hsome : hostOfAuthority? authority = some (host.map Char.toLower) := by
    rw [writtenHost] at hhost
    simp only [hostOfAuthority?, hhost, hvalid, if_true]
  rw [hcut.normalizeChars?_eq, hsome, Option.map_some]

theorem IsWebUrl.normalize?_eq {resource : String}
    (h : IsWebUrl (withScheme (trimChars resource.toList)) scheme authority rest host) :
    normalize? resource = some
      ⟨String.ofList (scheme ++ ':' :: '/' :: '/' :: (authority ++ withPath rest)),
        String.ofList (host.map Char.toLower)⟩ := by
  rw [normalize?, h.normalizeChars?_eq, Option.map_some]

/-- A text that is accepted belongs to the grammar. -/
theorem exists_isWebUrl {resource : List Char} (h : (normalizeChars? resource).isSome) :
    ∃ scheme authority rest host,
      IsWebUrl (withScheme (trimChars resource)) scheme authority rest host := by
  obtain ⟨scheme, authority, rest, hcut⟩ := exists_isCutAs_of_normalizeChars? h
  rw [hcut.normalizeChars?_eq, Option.isSome_map] at h
  obtain ⟨host, hhost⟩ := Option.isSome_iff_exists.mp h
  exact ⟨scheme, authority, rest, writtenHost authority,
    isWebUrl_iff.mpr ⟨hcut, rfl, (Option.ite_none_right_eq_some.mp hhost).1⟩⟩

/-! ## The result -/

/-- The result belongs to the grammar, with the same parts. -/
theorem IsWebUrl.withPath (h : IsWebUrl url scheme authority rest host) :
    IsWebUrl (scheme ++ ':' :: '/' :: '/' :: (authority ++ withPath rest)) scheme authority
      (withPath rest) host := by
  obtain ⟨path, hpath⟩ := exists_withPath_eq rest
  exact { h with eq := rfl, rest_eq := .inr ⟨'/', path, hpath, by simp⟩ }

theorem withPath_withPath (rest : List Char) : withPath (withPath rest) = withPath rest := by
  by_cases hslash : rest.head? = some '/' <;> simp [Url.withPath, hslash]

/-- A path that is added does not end with a blank. -/
theorem IsWebUrl.not_isBlank_withPath (h : IsWebUrl url scheme authority rest host)
    (hlast : ∀ c, url.getLast? = some c → ¬isBlank c) :
    ∀ c, (scheme ++ ':' :: '/' :: '/' :: (authority ++ Url.withPath rest)).getLast? = some c →
      ¬isBlank c := by
  have hback : ∀ cs ≠ [], (scheme ++ ':' :: '/' :: '/' :: (authority ++ cs)).getLast? =
      cs.getLast? := by
    intro cs hcs
    rw [← List.getLast?_append_of_ne_nil (scheme ++ ':' :: '/' :: '/' :: authority) hcs]
    simp
  intro c hc
  by_cases hrest : rest = []
  · obtain rfl : '/' = c := by
      rw [hrest, hback _ (by decide)] at hc
      exact Option.some.inj hc
    decide
  · refine hlast c ?_
    have hslash : Url.withPath rest = rest ∨ Url.withPath rest = '/' :: rest :=
      ite_eq_or_eq ..
    rw [h.eq, hback rest hrest]
    rcases hslash with heq | heq
    · rwa [heq, hback rest hrest] at hc
    · rwa [heq, hback _ (List.cons_ne_nil '/' rest), List.getLast?_cons_of_ne_nil hrest] at hc

theorem IsWebUrl.exists_isAlpha_head (h : IsWebUrl url scheme authority rest host) :
    ∃ c, url.head? = some c ∧ c.isAlpha := by
  obtain ⟨s, hs⟩ := exists_name_iff.mpr h.isScheme
  cases scheme with
  | nil => cases s <;> simp [Scheme.name] at hs
  | cons c cs => exact ⟨c, by rw [h.eq]; rfl, isAlpha_of_mem_scheme hs c List.mem_cons_self⟩

/-- A URL of the grammar without a blank at its end is read as it is. -/
theorem IsWebUrl.withScheme_trimChars (h : IsWebUrl url scheme authority rest host)
    (hlast : ∀ c, url.getLast? = some c → ¬isBlank c) : withScheme (trimChars url) = url := by
  obtain ⟨d, hd, hletter⟩ := h.exists_isAlpha_head
  have htrim : trimChars url = url := by
    refine trimChars_eq_self (fun c hc => ?_) hlast
    obtain rfl : d = c := by simpa [hd] using hc
    exact Host.not_isBlank_of_isHostChar (by simp [Host.isHostChar, Char.isAlphanum, hletter])
  rw [htrim, withScheme, if_neg]
  intro hslashes
  obtain ⟨after, rfl⟩ := List.isPrefixOf_iff_prefix.mp hslashes
  obtain rfl : '/' = d := by simpa using hd
  cases hletter

/-- The result is accepted as it is. -/
theorem IsWebUrl.normalize?_url {resource : String}
    (h : IsWebUrl (withScheme (trimChars resource.toList)) scheme authority rest host) :
    ∀ r, normalize? resource = some r → normalize? r.url = some r := by
  intro r hr
  rw [h.normalize?_eq] at hr
  obtain rfl := Option.some.inj hr
  have hlast := h.not_isBlank_withPath fun c hc => by
    rw [← trimChars_withScheme] at hc
    exact not_isBlank_of_getLast?_trimChars hc
  have hread := h.withPath.withScheme_trimChars hlast
  have hagain := h.withPath
  rw [← hread, ← String.toList_ofList (l := scheme ++ _)] at hagain
  rw [hagain.normalize?_eq, withPath_withPath]

end

/-! ## Readings -/

/-- The URL that a text is read as: a text that starts with two slashes with `http:` in front of it,
and any other as it is. -/
def IsReadAs (text url : List Char) : Prop :=
  ['/', '/'] <+: text ∧ url = ['h', 't', 't', 'p', ':'] ++ text ∨
    ¬['/', '/'] <+: text ∧ url = text

/-- What stands behind the authority in the result: the rest with a slash in front of it, which may
be its own. -/
def IsPathOf (rest path : List Char) : Prop :=
  rest.head? = some '/' ∧ path = rest ∨ rest.head? ≠ some '/' ∧ path = '/' :: rest

theorem isReadAs_iff {text url : List Char} : IsReadAs text url ↔ url = withScheme text := by
  have hscheme : "http:".toList = ['h', 't', 't', 'p', ':'] := by decide
  rw [IsReadAs, withScheme, hscheme]
  simp only [List.isPrefixOf_iff_prefix]
  by_cases hslashes : ['/', '/'] <+: text <;> simp [hslashes]

theorem isPathOf_iff {rest path : List Char} : IsPathOf rest path ↔ path = withPath rest := by
  rw [IsPathOf, withPath]
  by_cases hslash : rest.head? = some '/' <;> simp [hslash]

/-- How the URL of a resource is read by the grammar: exactly its texts are accepted, with the host
in lower case and the other parts as they are written, and the result is accepted as it is. -/
structure FollowsGrammar (resource : String) : Prop where
  isSome_iff : (normalize? resource).isSome ↔ ∃ url scheme authority rest host,
    IsReadAs (trimChars resource.toList) url ∧ IsWebUrl url scheme authority rest host
  normalize?_eq : ∀ url scheme authority rest host path,
    IsReadAs (trimChars resource.toList) url → IsWebUrl url scheme authority rest host →
      IsPathOf rest path →
      normalize? resource = some
        ⟨String.ofList (scheme ++ ':' :: '/' :: '/' :: (authority ++ path)),
          String.ofList (host.map Char.toLower)⟩
  normalize?_url : ∀ r, normalize? resource = some r → normalize? r.url = some r

/-- The URLs of resources that are accepted are those of the grammar. -/
theorem followsGrammar (resource : String) : FollowsGrammar resource := by
  have hgrammar : (normalize? resource).isSome → ∃ scheme authority rest host,
      IsWebUrl (withScheme (trimChars resource.toList)) scheme authority rest host := by
    intro h
    exact exists_isWebUrl (by simpa [normalize?] using h)
  constructor
  case isSome_iff =>
    constructor
    · intro h
      obtain ⟨scheme, authority, rest, host, h⟩ := hgrammar h
      exact ⟨_, scheme, authority, rest, host, isReadAs_iff.mpr rfl, h⟩
    · rintro ⟨url, scheme, authority, rest, host, hread, h⟩
      obtain rfl := isReadAs_iff.mp hread
      rw [h.normalize?_eq, Option.isSome_some]
  case normalize?_eq =>
    intro url scheme authority rest host path hread h hpath
    obtain rfl := isReadAs_iff.mp hread
    obtain rfl := isPathOf_iff.mp hpath
    exact h.normalize?_eq
  case normalize?_url =>
    intro r hr
    obtain ⟨scheme, authority, rest, host, h⟩ := hgrammar (by rw [hr, Option.isSome_some])
    exact h.normalize?_url r hr

/-- A text without a scheme and without a path, with a user, a dot behind the host and a port. -/
theorem followsGrammar_of_slashes :
    IsReadAs (trimChars " //user@Cdn.Example.:80?q=a@b".toList)
        "http://user@Cdn.Example.:80?q=a@b".toList ∧
      IsWebUrl "http://user@Cdn.Example.:80?q=a@b".toList "http".toList
        "user@Cdn.Example.:80".toList "?q=a@b".toList "Cdn.Example".toList ∧
      normalize? " //user@Cdn.Example.:80?q=a@b" =
        some ⟨"http://user@Cdn.Example.:80/?q=a@b", "cdn.example"⟩ := by
  have hread : IsReadAs (trimChars " //user@Cdn.Example.:80?q=a@b".toList)
      "http://user@Cdn.Example.:80?q=a@b".toList :=
    .inl (by decide +kernel)
  have hurl : IsWebUrl "http://user@Cdn.Example.:80?q=a@b".toList "http".toList
      "user@Cdn.Example.:80".toList "?q=a@b".toList "Cdn.Example".toList := by
    constructor
    case authority_chars => simp
    case rest_eq => exact .inr ⟨'?', "q=a@b".toList, by decide, by decide⟩
    case isAuthority =>
      refine ⟨"user@".toList, ".".toList, ":80".toList, ?_⟩
      constructor
      case user_eq => exact .inr ⟨"user".toList, by decide⟩
      case port_eq => exact .inr ⟨"80".toList, by decide⟩
      case dots_eq => simp
      all_goals decide +kernel
    case isHost =>
      constructor
      case chars => simp
      all_goals decide +kernel
    all_goals decide +kernel
  have hpath : IsPathOf "?q=a@b".toList "/?q=a@b".toList := .inr (by decide)
  have heq := (followsGrammar " //user@Cdn.Example.:80?q=a@b").normalize?_eq _ _ _ _ _ _ hread hurl
    hpath
  exact ⟨hread, hurl, heq⟩

end Blocklist.Url
