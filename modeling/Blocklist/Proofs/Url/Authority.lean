import Blocklist.Proofs.Host.NormalForm
import Blocklist.Proofs.Text.Parts
import Blocklist.Url

/-! # URLs of resources

The form that the URL of a resource is brought into: a web scheme, `://`, an authority with a valid
host, and a path. -/

namespace Blocklist.Url

open Text

/-- A URL with a web scheme, an authority, and a path. -/
structure IsResource (url host : List Char) (scheme authority path : List Char) : Prop where
  eq : url = scheme ++ ':' :: '/' :: '/' :: (authority ++ '/' :: path)
  isScheme : ∃ s : Scheme, scheme.map Char.toLower = s.name.toList
  isAuthority : ∀ c ∈ authority, ¬ endsAuthority c
  hasHost : hostOfAuthority? authority = some host

/-- Nothing, or a colon and digits. -/
def IsPort (port : List Char) : Prop :=
  port = [] ∨ ∃ ds, ds ≠ [] ∧ (∀ c ∈ ds, c.isDigit) ∧ port = ':' :: ds

/-- An authority that is a host in any letter case with an optional port behind it: there is no user
in front, and no dot at the end of the host. -/
def IsPlainAuthority (host authority : List Char) : Prop :=
  ∃ port, authority.map Char.toLower = host ++ port ∧ IsPort port

theorem IsPort.not_isAlpha {port : List Char} (h : IsPort port) : ∀ c ∈ port, ¬ c.isAlpha := by
  rcases h with rfl | ⟨ds, -, hds, rfl⟩
  · simp
  · intro c hc
    rcases List.mem_cons.mp hc with rfl | hc
    · decide
    · have hdigit := hds c hc
      have hle : c.toNat ≤ 57 := by
        simp only [Char.isDigit, Bool.and_eq_true, decide_eq_true_eq] at hdigit
        exact hdigit.2
      exact forall_ascii (p := fun c => c.isDigit → ¬ c.isAlpha) (by decide +kernel)
        (by omega) hdigit

theorem IsPort.eq_of_map_toLower_eq {port cs : List Char} (hport : IsPort port)
    (h : cs.map Char.toLower = port) : cs = port := by
  rw [← h, map_toLower_eq_self fun c hc => ?_]
  rw [← Char.isAlpha_toLower_eq_isAlpha]
  exact hport.not_isAlpha c.toLower (h ▸ List.mem_map_of_mem hc)

theorem isNormal_of_hostOfAuthority? {authority host : List Char}
    (h : hostOfAuthority? authority = some host) : Host.IsNormal host := by
  obtain ⟨hvalid, heq⟩ := Option.ite_none_right_eq_some.mp h
  rw [← Option.some.inj heq]
  exact Host.isNormal_map_toLower hvalid fun hlast => not_of_getLast?_dropEndWhile hlast (by simp)

theorem isValid_of_hostOfAuthority? {authority host : List Char}
    (h : hostOfAuthority? authority = some host) : Host.isValid host :=
  (isNormal_of_hostOfAuthority? h).valid

/-- The host of a URL is in normal form. -/
theorem isNormal_of_host? {url host : String} (h : host? url = some host) :
    Host.IsNormal host.toList := by
  obtain ⟨cs, hcs, rfl⟩ := Option.map_eq_some_iff.mp h
  obtain ⟨cut, -, hhost⟩ := Option.bind_eq_some_iff.mp hcs
  simpa using isNormal_of_hostOfAuthority? hhost

theorem IsResource.isValid_host {url host scheme authority path : List Char}
    (h : IsResource url host scheme authority path) : Host.isValid host :=
  isValid_of_hostOfAuthority? h.hasHost

/-! ## Hosts in authorities -/

theorem takeWhile_reverse_of_not_mem {tail : List Char} (h : '@' ∉ tail) :
    tail.reverse.takeWhile (· != '@') = tail.reverse := by
  refine List.takeWhile_eq_self_iff.mpr fun c hc => ?_
  rw [bne_iff_ne]
  rintro rfl
  exact h (List.mem_reverse.mp hc)

theorem hostPart_of_not_mem {authority : List Char} (h : '@' ∉ authority) :
    hostPart authority = authority.takeWhile (· != ':') := by
  rw [hostPart, takeWhile_reverse_of_not_mem h, List.reverse_reverse]

theorem hostPart_eq {host port : List Char} (hat : '@' ∉ host ++ port) (hcolon : ':' ∉ host)
    (hport : port = [] ∨ ∃ ds, port = ':' :: ds) : hostPart (host ++ port) = host := by
  have hhost : ∀ c ∈ host, c != ':' := fun c hc => by
    rw [bne_iff_ne]
    rintro rfl
    exact hcolon hc
  rw [hostPart_of_not_mem hat, List.takeWhile_append_of_pos hhost]
  rcases hport with rfl | ⟨ds, rfl⟩ <;> simp

/-- The host stands behind the user. -/
theorem hostPart_append {user tail : List Char} (huser : user = [] ∨ ∃ name, user = name ++ ['@'])
    (htail : '@' ∉ tail) : hostPart (user ++ tail) = hostPart tail := by
  have hpos : ∀ c ∈ tail.reverse, c != '@' :=
    List.takeWhile_eq_self_iff.mp (takeWhile_reverse_of_not_mem htail)
  rw [hostPart, hostPart, List.reverse_append, List.takeWhile_append_of_pos hpos,
    takeWhile_reverse_of_not_mem htail]
  rcases huser with rfl | ⟨name, rfl⟩ <;> simp

/-! ## Schemes -/

theorem all_isAlpha_name (s : Scheme) : s.name.toList.all Char.isAlpha := by
  cases s <;> decide

/-- A scheme consists of letters. -/
theorem isAlpha_of_mem_scheme {scheme : List Char} {s : Scheme}
    (h : scheme.map Char.toLower = s.name.toList) : ∀ c ∈ scheme, c.isAlpha := by
  intro c hc
  rw [← Char.isAlpha_toLower_eq_isAlpha]
  exact List.all_eq_true.mp (all_isAlpha_name s) c.toLower (h ▸ List.mem_map_of_mem hc)

theorem colon_not_mem_scheme {scheme : List Char} {s : Scheme}
    (h : scheme.map Char.toLower = s.name.toList) : ':' ∉ scheme := by
  intro hmem
  exact absurd (isAlpha_of_mem_scheme h ':' hmem) (by decide)

theorem exists_eq_append_of_opens {url : List Char} {s : Scheme} (h : s.opens url) :
    ∃ scheme after, url = scheme ++ ':' :: '/' :: '/' :: after ∧
      scheme.map Char.toLower = s.name.toList := by
  have hmark : (url.take (s.name.toList.length + 3)).map Char.toLower =
      s.name.toList ++ [':', '/', '/'] := by
    simpa [Scheme.opens] using h
  obtain ⟨scheme, mark, heq, hscheme, hmark⟩ := List.map_eq_append_iff.mp hmark
  obtain ⟨c₁, c₂, c₃, rfl⟩ : ∃ c₁ c₂ c₃, mark = [c₁, c₂, c₃] := by
    have hlen := congrArg List.length hmark
    simpa [List.length_eq_three] using hlen
  simp only [List.map_cons, List.map_nil, List.cons.injEq, and_true] at hmark
  obtain ⟨h₁, h₂, h₃⟩ := hmark
  rw [toLower_eq_iff (by decide)] at h₁ h₂ h₃
  subst h₁ h₂ h₃
  refine ⟨scheme, url.drop (s.name.toList.length + 3), ?_, hscheme⟩
  conv_lhs => rw [← List.take_append_drop (s.name.toList.length + 3) url, heq]
  simp

/-- A text that starts with a web scheme in any letter case is taken for a web URL. -/
theorem isSome_schemeChars? {scheme : List Char} {s : Scheme}
    (h : scheme.map Char.toLower = s.name.toList) (after : List Char) :
    (schemeChars? (scheme ++ ':' :: '/' :: '/' :: after)).isSome := by
  have hmem : s ∈ Scheme.all := by cases s <;> decide
  rw [schemeChars?, List.find?_isSome]
  refine ⟨s, hmem, ?_⟩
  simp [Scheme.opens, ← h, List.take_append]

/-! ## Cutting a URL -/

/-- A URL cut into a web scheme, an authority, and a rest. -/
structure IsCutAs (url scheme authority rest : List Char) : Prop where
  eq : url = scheme ++ ':' :: '/' :: '/' :: (authority ++ rest)
  isScheme : ∃ s : Scheme, scheme.map Char.toLower = s.name.toList
  isAuthority : ∀ c ∈ authority, ¬ endsAuthority c
  isRest : rest = [] ∨ ∃ c cs, rest = c :: cs ∧ endsAuthority c

theorem IsCutAs.cutUrl?_eq {url scheme authority rest : List Char}
    (h : IsCutAs url scheme authority rest) :
    cutUrl? url = some ⟨scheme ++ [':', '/', '/'], authority, rest⟩ := by
  obtain ⟨s, hs⟩ := h.isScheme
  have hpos : ∀ c ∈ authority, !endsAuthority c := by simpa using h.isAuthority
  rw [h.eq, cutUrl?, cutScheme?, cut?_append (colon_not_mem_scheme hs)]
  simp only [Option.map_some]
  rw [List.takeWhile_append_of_pos hpos, List.dropWhile_append_of_pos hpos]
  rcases h.isRest with rfl | ⟨c, cs, rfl, hc⟩ <;> simp [*]

/-- The texts with a web scheme are those that can be cut. -/
theorem isSome_schemeChars?_iff {url : List Char} :
    (schemeChars? url).isSome ↔ ∃ scheme authority rest, IsCutAs url scheme authority rest := by
  constructor
  · intro h
    obtain ⟨s, hs⟩ := Option.isSome_iff_exists.mp h
    have hopens : s.opens url := List.find?_some (p := fun s => Scheme.opens s url) hs
    obtain ⟨scheme, after, rfl, hscheme⟩ := exists_eq_append_of_opens hopens
    refine ⟨scheme, after.takeWhile (!endsAuthority ·), after.dropWhile (!endsAuthority ·), ?_⟩
    constructor
    case eq => rw [List.takeWhile_append_dropWhile]
    case isScheme => exact ⟨s, hscheme⟩
    case isAuthority => exact fun c hc => by simpa using List.mem_takeWhile_imp hc
    case isRest =>
      cases hdrop : after.dropWhile (!endsAuthority ·) with
      | nil => exact .inl rfl
      | cons c cs =>
        have hc := List.head?_dropWhile_not (!endsAuthority ·) after
        rw [hdrop] at hc
        exact .inr ⟨c, cs, rfl, by simpa using hc⟩
  · rintro ⟨scheme, authority, rest, h⟩
    obtain ⟨s, hs⟩ := h.isScheme
    rw [h.eq]
    exact isSome_schemeChars? hs (authority ++ rest)

/-! ## Resources -/

/-- Blanks do not come back when a scheme is put in front. -/
theorem trimChars_withScheme (cs : List Char) :
    trimChars (withScheme (trimChars cs)) = withScheme (trimChars cs) := by
  unfold withScheme
  split
  · rename_i hslashes
    have hne : trimChars cs ≠ [] := fun hnil => by simp [hnil] at hslashes
    refine trimChars_eq_self (fun c hc => ?_) fun c hc => ?_
    · obtain rfl : 'h' = c := by simpa using hc
      decide
    · rw [List.getLast?_append_of_ne_nil _ hne] at hc
      exact not_isBlank_of_getLast?_trimChars hc
  · exact trimChars_trimChars cs

/-- If the text of a resource can be cut, only the host decides whether it is accepted. -/
theorem IsCutAs.normalizeChars?_eq {resource scheme authority rest : List Char}
    (h : IsCutAs (withScheme (trimChars resource)) scheme authority rest) :
    normalizeChars? resource = (hostOfAuthority? authority).map fun host =>
      (scheme ++ ':' :: '/' :: '/' :: (authority ++ withPath rest), host) := by
  have hscheme : (schemeChars? (withScheme (trimChars resource))).isNone = false := by
    simpa using isSome_schemeChars?_iff.mpr ⟨scheme, authority, rest, h⟩
  have hhost : hostChars? (withScheme (trimChars resource)) = hostOfAuthority? authority := by
    rw [hostChars?, trimChars_withScheme, h.cutUrl?_eq, Option.bind_some]
  rw [normalizeChars?]
  simp only [hscheme, hhost, h.cutUrl?_eq, Bool.false_eq_true, if_false, Option.map_some]
  cases hostOfAuthority? authority <;> simp

theorem exists_isCutAs_of_normalizeChars? {resource : List Char}
    (h : (normalizeChars? resource).isSome) :
    ∃ scheme authority rest, IsCutAs (withScheme (trimChars resource)) scheme authority rest := by
  refine isSome_schemeChars?_iff.mp ?_
  by_contra hscheme
  rw [Bool.not_eq_true, Option.isSome_eq_false_iff] at hscheme
  simp [normalizeChars?, hscheme] at h

theorem exists_withPath_eq (rest : List Char) : ∃ path, withPath rest = '/' :: path := by
  unfold withPath
  split
  · rename_i hslash
    exact ⟨_, List.eq_cons_of_mem_head? hslash⟩
  · exact ⟨rest, rfl⟩

/-- The URL of a resource has the form that filters are matched against. -/
theorem exists_isResource {resource url host : List Char}
    (h : normalizeChars? resource = some (url, host)) :
    ∃ scheme authority path, IsResource url host scheme authority path := by
  obtain ⟨scheme, authority, rest, hcut⟩ :=
    exists_isCutAs_of_normalizeChars? (by rw [h, Option.isSome_some])
  obtain ⟨path, hpath⟩ := exists_withPath_eq rest
  rw [hcut.normalizeChars?_eq, hpath] at h
  obtain ⟨host', hhost, heq⟩ := Option.map_eq_some_iff.mp h
  obtain ⟨hurl, rfl⟩ := Prod.mk.inj heq
  exact ⟨scheme, authority, path, hurl.symm, hcut.isScheme, hcut.isAuthority, hhost⟩

theorem IsResource.isCutAs {url host scheme authority path : List Char}
    (h : IsResource url host scheme authority path) :
    IsCutAs url scheme authority ('/' :: path) :=
  ⟨h.eq, h.isScheme, h.isAuthority, .inr ⟨'/', path, rfl, by decide⟩⟩

theorem IsResource.cutUrl?_eq {url host scheme authority path : List Char}
    (h : IsResource url host scheme authority path) :
    cutUrl? url = some ⟨scheme ++ [':', '/', '/'], authority, '/' :: path⟩ :=
  h.isCutAs.cutUrl?_eq

/-- A URL with nothing but the host and a port in its authority. -/
def Resource.IsPlain (r : Resource) : Prop :=
  ∃ cut, cutUrl? r.url.toList = some cut ∧ IsPlainAuthority r.host.toList cut.authority

theorem IsResource.isPlain_iff {r : Resource} {scheme authority path : List Char}
    (h : IsResource r.url.toList r.host.toList scheme authority path) :
    r.IsPlain ↔ IsPlainAuthority r.host.toList authority := by
  simp [Resource.IsPlain, h.cutUrl?_eq]

theorem exists_isResource_of_normalize? {resource : String} {r : Resource}
    (h : normalize? resource = some r) :
    ∃ scheme authority path, IsResource r.url.toList r.host.toList scheme authority path := by
  obtain ⟨⟨url, host⟩, hchars, rfl⟩ := Option.map_eq_some_iff.mp h
  simpa using exists_isResource hchars

end Blocklist.Url
