import Webrev.Url.Ipv4
import Webrev.Url.Ipv6

/-!
# URLs

An absolute URL and its written form. A URL with an authority names a host; one without an authority
whose path does not begin with a slash is a base for fragments only.

## Main definitions

* `Url`, `Url.Authority`, `Url.Host` : the parts of a URL.
* `Url.text` : the written form.
* `Url.hostText` : the host as it is compared.
* `Url.pathSegments` : the segments of a path.
* `Url.ParseError` : why a text is not a URL.
-/

namespace Webrev

/-- What a URL names as its host. -/
inductive Url.Host where
  | domain (name : String)
  | ipv4 (address : Nat)
  | ipv6 (pieces : List Nat)
  deriving DecidableEq, Repr

/-- Whose resources a URL is among: a host, who asks it, and its port number if that is not the usual
one. -/
structure Url.Authority where
  username : String
  password : String
  host : Url.Host
  portNumber : Option Nat
  deriving DecidableEq, Repr

/-- An absolute URL. -/
structure Url where
  scheme : String
  authority : Option Url.Authority
  path : String
  query : Option String
  fragment : Option String
  deriving DecidableEq, Repr

namespace Url

/-- Why a text is not a URL. -/
inductive ParseError where
  | emptyHost
  | internationalName
  | portNumber
  | ipv4Address
  | ipv6Address
  | domainCharacter
  | relativeWithoutBase
  | relativeWithRootlessBase
  deriving DecidableEq, Repr

/-- The description of a reason. -/
def ParseError.message : ParseError → String
  | .emptyHost => "empty host"
  | .internationalName => "invalid international domain name"
  | .portNumber => "invalid port number"
  | .ipv4Address => "invalid IPv4 address"
  | .ipv6Address => "invalid IPv6 address"
  | .domainCharacter => "invalid domain character"
  | .relativeWithoutBase => "relative URL without a base"
  | .relativeWithRootlessBase => "relative URL with a cannot-be-a-base base"

/-! ### Written forms -/

/-- A host as it is written. -/
def Host.text : Host → String
  | .domain name => name
  | .ipv4 address => String.ofList (Ipv4.text address)
  | .ipv6 pieces => "[" ++ String.ofList (Ipv6.text pieces) ++ "]"

/-- Who asks a host, as it is written before the host. -/
def Authority.userinfo (authority : Authority) : String :=
  if authority.username.isEmpty && authority.password.isEmpty then ""
  else
    authority.username ++
      (if authority.password.isEmpty then "" else ":" ++ authority.password) ++ "@"

/-- An authority as it is written after two slashes. -/
def Authority.text (authority : Authority) : String :=
  authority.userinfo ++ authority.host.text ++
    match authority.portNumber with
    | some number => ":" ++ String.ofList (Numeral.decimal number)
    | none => ""

/-- What is written between a scheme and a path. A path with two slashes in front is kept apart from
an authority. -/
def hierarchy (authority : Option Authority) (path : String) : String :=
  match authority with
  | some authority => "//" ++ authority.text
  | none => if ['/', '/'].isPrefixOf path.toList then "/." else ""

/-- A part with the mark in front of it, if there is one. -/
def marked (mark : String) : Option String → String
  | some part => mark ++ part
  | none => ""

/-- A URL as it is written. -/
def text (url : Url) : String :=
  url.scheme ++ ":" ++ hierarchy url.authority url.path ++ url.path ++ marked "?" url.query ++
    marked "#" url.fragment

/-! ### Parts -/

/-- The host of a URL, if it names one. -/
def hostText (url : Url) : Option String :=
  match url.authority with
  | some ⟨_, _, .domain name, _⟩ => if name.isEmpty then none else some name
  | some authority => some authority.host.text
  | none => none

/-- A URL is a base for fragments only. -/
def isRootless (url : Url) : Bool := url.authority.isNone && url.path.toList.head? != some '/'

/-- The segments of the path of a URL, if it begins with a slash. -/
def pathSegments (url : Url) : Option (List (List Char)) :=
  match url.path.toList with
  | '/' :: rest => some (rest.splitOn '/')
  | _ => none

end Url

end Webrev
