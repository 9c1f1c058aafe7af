import Blocklist.Pattern.Estimate
import Blocklist.Proofs.Filter.Hosts
import Blocklist.Proofs.Filter.Shortening

/-! # What the filter of a domain covers

The host of a URL is read off its authority, while the filter of a domain is matched against the URL
as it is written. A match is always at the domain's own hosts: nothing else in a URL is taken for
the host. The other way round, the filter misses hosts that are written with a user in front, with
dots at the end, or with a port that is none. Main statements: `host_of_isMatch_hostFilter`,
`isMatch_scope_iff_of_covers`. -/

namespace Blocklist.Url

open Text

/-! ## Bare hosts -/

/-- An authority without a user, whose host is without a dot at the end, and with nothing but a port
behind it. -/
structure IsBare (authority : List Char) : Prop where
  user : '@' ∉ authority
  dots : (hostPart authority).getLast? ≠ some '.'
  port : IsPort (authority.drop (hostPart authority).length)

theorem IsPort.at_not_mem {port : List Char} (h : IsPort port) : '@' ∉ port := by
  rcases h with rfl | ⟨ds, -, hds, rfl⟩
  · exact List.not_mem_nil
  · rw [List.mem_cons, not_or]
    exact ⟨by decide, fun hmem => absurd (hds '@' hmem) (by decide)⟩

/-- The two ways to read an authority agree on those that are bare. -/
theorem isPlainAuthority_iff_isBare {authority host : List Char}
    (h : hostOfAuthority? authority = some host) :
    IsPlainAuthority host authority ↔ IsBare authority := by
  constructor
  · rintro ⟨port, hauthority, hport⟩
    obtain ⟨name, port', rfl, rfl, hport'⟩ := List.map_eq_append_iff.mp hauthority
    obtain rfl := hport.eq_of_map_toLower_eq hport'
    have hnormal := isNormal_of_hostOfAuthority? h
    have hvalid := hnormal.valid
    rw [Host.isValid_map_toLower] at hvalid
    have hchars := Host.isHostChar_of_isValid hvalid
    have huser : '@' ∉ name ++ port' :=
      List.not_mem_append (fun hmem => absurd (hchars '@' hmem) (by decide)) hport.at_not_mem
    have hpart : hostPart (name ++ port') = name :=
      hostPart_eq huser (fun hmem => absurd (hchars ':' hmem) (by decide))
        (hport.imp_right fun ⟨ds, _, _, hds⟩ => ⟨ds, hds⟩)
    refine ⟨huser, ?_, ?_⟩
    · rw [hpart]
      intro hlast
      exact hnormal.last (by rw [List.getLast?_map, hlast]; rfl)
    · rwa [hpart, List.drop_left]
  · rintro ⟨huser, hdots, hport⟩
    obtain ⟨-, hhost⟩ := Option.ite_none_right_eq_some.mp h
    rw [dropEndWhile_beq_eq_self hdots] at hhost
    have hcut : authority = hostPart authority ++ authority.drop (hostPart authority).length := by
      have hprefix : hostPart authority <+: authority := by
        rw [hostPart_of_not_mem huser]
        exact List.takeWhile_prefix _
      exact (List.prefix_iff_eq_append.mp hprefix).symm
    refine ⟨authority.drop (hostPart authority).length, ?_, hport⟩
    rw [← Option.some.inj hhost]
    conv_lhs => rw [hcut, List.map_append, map_toLower_eq_self hport.not_isAlpha]

/-- A URL with a bare authority. -/
def Resource.IsBare (r : Resource) : Prop :=
  ∃ cut, cutUrl? r.url.toList = some cut ∧ Url.IsBare cut.authority

theorem isPlain_iff_isBare {text : String} {r : Resource} (h : normalize? text = some r) :
    r.IsPlain ↔ r.IsBare := by
  obtain ⟨scheme, authority, path, hurl⟩ := exists_isResource_of_normalize? h
  rw [hurl.isPlain_iff, isPlainAuthority_iff_isBare hurl.hasHost]
  simp [Resource.IsBare, hurl.cutUrl?_eq]

end Blocklist.Url

namespace Blocklist.Filter

open Pattern Url

/-! ## Foreign hosts -/

variable {raw text domain : String} {resource : Resource}

/-- The filter of a domain matches no URL of a foreign host. -/
theorem host_of_isMatch_hostFilter [SizeLimit] (hdomain : Host.normalize? raw = some domain)
    (hresource : normalize? text = some resource) {subdomains : Bool}
    (h : isMatch (urlFilter domain "" subdomains) resource.url) :
    resource.host = domain ∨
      subdomains = true ∧ ('.' :: domain.toList) <:+ resource.host.toList := by
  have hnormal := Host.isNormal_of_normalize? hdomain
  have hne := Host.ne_nil_of_isValid hnormal.valid
  have hchars := Host.isHostChar_of_isValid hnormal.valid
  obtain ⟨scheme, authority, path, hurl⟩ := exists_isResource_of_normalize? hresource
  obtain ⟨p, hp, hmatch⟩ := isMatch_iff.mp h
  rw [toList_urlFilter] at hp
  have hfront := (occursIn_hostFilter_iff hne hchars hp).mp hmatch
  obtain ⟨-, hcovers, hexact⟩ := host_of_hasFront hnormal hurl hfront
  cases subdomains with
  | false => exact .inl (String.toList_injective (hexact rfl))
  | true =>
    rcases Host.coversChars_iff.mp hcovers with heq | hsuffix
    · exact .inl (String.toList_injective heq)
    · exact .inr ⟨rfl, hsuffix⟩

open scoped Estimate

theorem host_of_isMatch_hostFilter_of_subdomain :
    Host.normalize? "T.example." = some "t.example" ∧
      normalize? "//News.T.example:80/?u=//u.example/" =
        some ⟨"http://News.T.example:80/?u=//u.example/", "news.t.example"⟩ ∧
      isMatch (urlFilter "t.example" "" true) "http://News.T.example:80/?u=//u.example/" ∧
      ("news.t.example" = "t.example" ∨
        true = true ∧ ('.' :: "t.example".toList) <:+ "news.t.example".toList) := by
  have hdomain : Host.normalize? "T.example." = some "t.example" := by decide +kernel
  have hresource : normalize? "//News.T.example:80/?u=//u.example/" =
      some ⟨"http://News.T.example:80/?u=//u.example/", "news.t.example"⟩ := by decide +kernel
  have hmatch :
      isMatch (urlFilter "t.example" "" true) "http://News.T.example:80/?u=//u.example/" := by
    decide +kernel
  exact ⟨hdomain, hresource, hmatch, host_of_isMatch_hostFilter hdomain hresource hmatch⟩

/-! ## Hosts of the domain -/

/-- Of the URLs of its hosts, the filter of a domain matches those with a bare authority and no
others. -/
theorem isMatch_scope_iff_of_covers [SizeLimit] (hdomain : Host.normalize? raw = some domain)
    (hresource : normalize? text = some resource) (hcovers : Host.covers domain resource.host) :
    isMatch (scope domain) resource.url ↔
      compile (scope domain) ≠ .error .tooLarge ∧ resource.IsBare := by
  have hnormal := Host.isNormal_of_normalize? hdomain
  by_cases hsize : compile (scope domain) = .error .tooLarge
  · simp [isMatch, hsize, Except.toOption]
  · rw [isMatch_scope_iff hnormal hresource hsize, isPlain_iff_isBare hresource]
    simp [hsize, hcovers]

theorem isMatch_scope_iff_of_covers_of_port :
    Host.normalize? "t.example" = some "t.example" ∧
      normalize? "WSS://News.T.example:443" =
        some ⟨"WSS://News.T.example:443/", "news.t.example"⟩ ∧
      Host.covers "t.example" "news.t.example" ∧
      (isMatch (scope "t.example") "WSS://News.T.example:443/" ↔
        compile (scope "t.example") ≠ .error .tooLarge ∧
          Resource.IsBare ⟨"WSS://News.T.example:443/", "news.t.example"⟩) := by
  have hdomain : Host.normalize? "t.example" = some "t.example" := by decide +kernel
  have hresource : normalize? "WSS://News.T.example:443" =
      some ⟨"WSS://News.T.example:443/", "news.t.example"⟩ := by decide +kernel
  have hcovers : Host.covers "t.example" "news.t.example" := by decide +kernel
  have hmatch := isMatch_scope_iff_of_covers hdomain hresource hcovers
  exact ⟨hdomain, hresource, hcovers, hmatch⟩

/-- A user, an empty port and a dot at the end are read over in the host of a URL, and not by the
filter of its domain. -/
theorem not_isMatch_scope_of_not_isBare :
    Host.normalize? "t.example" = some "t.example" ∧ Host.covers "t.example" "t.example" ∧
      ∀ url ∈ ["https://user@t.example/", "https://t.example:/", "https://t.example./"],
        normalize? url = some ⟨url, "t.example"⟩ ∧ isMatch (scope "t.example") url = false := by
  decide +kernel

end Blocklist.Filter
