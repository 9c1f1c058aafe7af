import Blocklist.Host
import Blocklist.Text.Utf8
/-!
The parts of a URL: scheme, authority and host. A URL is cut as
`before "://" authority rest`, where the authority has no `/`, `?` or `#`; the host is the authority
after its last `@`, up to the next `:`.
-/

namespace Blocklist.Url

open Text

/-- The schemes that a resource is loaded over. -/
inductive Scheme where
  | http
  | https
  | ws
  | wss
deriving DecidableEq, Repr

/-- The spelling of a scheme, in lower case. -/
def Scheme.name : Scheme → String
  | .http => "http"
  | .https => "https"
  | .ws => "ws"
  | .wss => "wss"

/-- The schemes, a longer name before a shorter one that it starts with. -/
def Scheme.all : List Scheme := [.https, .http, .wss, .ws]

/-- Whether a URL starts with a scheme and `://`; letter case does not matter. -/
def Scheme.opens (s : Scheme) (url : List Char) : Bool :=
  let mark := s.name.toList ++ [':', '/', '/']
  (url.take mark.length).map Char.toLower == mark

/-- The web scheme that a URL starts with. -/
def schemeChars? (url : List Char) : Option Scheme :=
  Scheme.all.find? (·.opens url)

/-- The web scheme that a URL starts with. -/
def scheme? (url : String) : Option Scheme :=
  schemeChars? url.toList

/-- The text up to and with the first `:`, if that is followed by `//`, and the text after both. -/
def cutScheme? (url : List Char) : Option (List Char × List Char) :=
  match cut? ':' url with
  | some (before, '/' :: '/' :: after) => some (before ++ [':', '/', '/'], after)
  | _ => none

/-- Whether a character ends the authority of a URL. -/
def endsAuthority (c : Char) : Bool :=
  c == '/' || c == '?' || c == '#'

/-- A URL cut into the text before its authority, the authority, and the text after it. -/
structure Cut where
  before : List Char
  authority : List Char
  rest : List Char
deriving DecidableEq

def cutUrl? (url : List Char) : Option Cut :=
  (cutScheme? url).map fun (before, after) =>
    ⟨before, after.takeWhile (!endsAuthority ·), after.dropWhile (!endsAuthority ·)⟩

/-- The part of an authority that names a user: everything up to and with the last `@`. -/
def userInfo (authority : List Char) : List Char :=
  (authority.reverse.dropWhile (· != '@')).reverse

/-- The host in an authority: the text after the last `@`, up to the next `:`. -/
def hostPart (authority : List Char) : List Char :=
  (authority.reverse.takeWhile (· != '@')).reverse.takeWhile (· != ':')

/-- The byte offset after `://`. -/
def schemeEnd? (url : String) : Option Nat :=
  (cutScheme? url.toList).map fun (before, _) => utf8Length before

/-- The byte offsets at which the host starts and ends. -/
def hostSpan? (url : String) : Option (Nat × Nat) :=
  (cutUrl? url.toList).map fun cut =>
    let start := utf8Length cut.before + utf8Length (userInfo cut.authority)
    (start, start + utf8Length (hostPart cut.authority))

/-- The host as it is written in a URL. -/
def rawHost? (url : String) : Option String :=
  (cutUrl? url.toList).map fun cut => String.ofList (hostPart cut.authority)

/-- The host of an authority in lower case and without trailing dots, if it is valid. -/
def hostOfAuthority? (authority : List Char) : Option (List Char) :=
  let host := dropEndWhile (· == '.') (hostPart authority)
  if Host.isValid host then some (host.map Char.toLower) else none

/-- The host of a URL of any scheme, in lower case and without trailing dots, if it is valid. -/
def hostChars? (url : List Char) : Option (List Char) :=
  (cutUrl? (trimChars url)).bind fun cut => hostOfAuthority? cut.authority

/-- The host of a URL of any scheme, in lower case and without trailing dots, if it is valid. -/
def host? (url : String) : Option String :=
  (hostChars? url.toList).map String.ofList

/-- The URL of a resource, with a scheme and a path, and its host. -/
structure Resource where
  /-- The URL, with a scheme and at least the path `/`. -/
  url : String
  host : String
deriving DecidableEq

/-- A URL that starts with `//` is one over `http`. -/
def withScheme (url : List Char) : List Char :=
  if ['/', '/'].isPrefixOf url then "http:".toList ++ url else url

/-- Puts a `/` in front of what follows the authority, unless it starts with one. -/
def withPath (rest : List Char) : List Char :=
  if rest.head? = some '/' then rest else '/' :: rest

/-- Brings the URL of a resource into the form that URL filters are matched against. Only web
schemes and valid hosts are accepted. -/
def normalizeChars? (resource : List Char) : Option (List Char × List Char) :=
  let url := withScheme (trimChars resource)
  if (schemeChars? url).isNone then none
  else
    (hostChars? url).bind fun host =>
      (cutUrl? url).map fun cut => (cut.before ++ cut.authority ++ withPath cut.rest, host)

/-- Brings the URL of a resource into the form that URL filters are matched against. Only web
schemes and valid hosts are accepted. -/
def normalize? (resource : String) : Option Resource :=
  (normalizeChars? resource.toList).map fun (url, host) => ⟨String.ofList url, String.ofList host⟩

end Blocklist.Url
