import Webrev.Url.Basic
import Webrev.Url.Path
import Webrev.Url.Idna.Domain

/-!
# Authorities of URLs

What follows the two slashes of a URL: who asks, the host and the port number. The host of a special
scheme is a domain name in its ASCII form, an IPv4 address or an IPv6 address; that of another scheme
is kept as it is written.

## Main definitions

* `Url.readHost`, `Url.readPlainHost` : the host that a text names.
* `Url.readPort` : the port number after a host.
* `Url.readAuthority` : an authority, and what follows it.
* `Url.readFileHost` : the host of a `file` URL, and what follows it.
-/

namespace Webrev.Url

/-- The port number that the resources of a scheme are usually at. -/
def usualPort (scheme : List Char) : Option Nat :=
  if ["http".toList, "ws".toList].contains scheme then some 80
  else if ["https".toList, "wss".toList].contains scheme then some 443
  else if scheme = "ftp".toList then some 21
  else none

/-! ### Hosts -/

/-- The address between brackets. -/
def readBracketed (text : List Char) : Except ParseError Host :=
  if text.getLast? = some ']' then
    match Ipv6.parse? (text.drop 1).dropLast with
    | some pieces => .ok (.ipv6 pieces)
    | none => .error .ipv6Address
  else .error .ipv6Address

/-- The host of a URL of a special scheme. -/
def readHost (text : List Char) : Except ParseError Host :=
  if text.head? = some '[' then readBracketed text
  else
    match Idna.toAscii? (Utf8.decodeLossy (Percent.decode text)) with
    | none => .error .internationalName
    | some [] => .error .emptyHost
    | some name =>
      if Ipv4.endsInNumber name then
        match Ipv4.parse? name with
        | some address => .ok (.ipv4 address)
        | none => .error .ipv4Address
      else .ok (.domain (String.ofList name))

/-- A character that the host of a URL of another scheme cannot have. -/
def isForbiddenHostChar (c : Char) : Bool :=
  ['\x00', '\t', '\n', '\r', ' ', '#', '/', ':', '<', '>', '?', '@', '[', '\\', ']', '^',
    '|'].contains c

/-- The host of a URL of another scheme, which is kept as it is written. -/
def readPlainHost (text : List Char) : Except ParseError Host :=
  if text.head? = some '[' then readBracketed text
  else if text.any isForbiddenHostChar then .error .domainCharacter
  else .ok (.domain (String.ofList (Percent.encode [] text)))

/-- A host, and what follows it: it ends before a colon outside brackets, a slash, a question mark
or a number sign. -/
def splitHost (scheme : Scheme) (inBrackets : Bool) : List Char → List Char × List Char
  | [] => ([], [])
  | c :: rest =>
    if (c == ':' && !inBrackets) || scheme.isSlash c || isPathEnd c then ([], c :: rest)
    else
      let (host, after) :=
        splitHost scheme (if c = '[' then true else if c = ']' then false else inBrackets) rest
      (c :: host, after)

/-- The port number after a host, and what follows it. -/
def readPort (scheme : List Char) : List Char → Except ParseError (Option Nat × List Char)
  | ':' :: rest =>
    let digits := rest.takeWhile (Numeral.isDigit 10)
    let after := rest.dropWhile (Numeral.isDigit 10)
    let number := Numeral.value 10 digits
    if after.head?.any (fun c => !(isAnySlash c || isPathEnd c)) || 0x10000 ≤ number then
      .error .portNumber
    else if digits.isEmpty || some number == usualPort scheme then .ok (none, after)
    else .ok (some number, after)
  | after => .ok (none, after)

/-! ### Authorities -/

/-- A character that an authority ends before. -/
def endsAuthority (scheme : Scheme) (c : Char) : Bool := scheme.isSlash c || isPathEnd c

/-- Who asks a host, and what follows the last at-sign of an authority, if it has one. -/
def splitUserinfo (scheme : Scheme) (text : List Char) : Option (List Char) × List Char :=
  let authority := text.takeWhile fun c => !endsAuthority scheme c
  if authority.contains '@' then
    let hostLength := (authority.reverse.takeWhile (· ≠ '@')).length
    let userLength := authority.length - hostLength - 1
    (some (authority.take userLength), text.drop (userLength + 1))
  else (none, text)

/-- The user name and the password written in front of an at-sign. -/
def readUserinfo (text : List Char) : String × String :=
  let part := fun t => String.ofList (Percent.encode .userinfo t)
  (part (text.takeWhile (· ≠ ':')), part ((text.dropWhile (· ≠ ':')).drop 1))

/-- An authority, and what follows it. -/
def readAuthority (scheme : List Char) (text : List Char) :
    Except ParseError (Authority × List Char) := do
  let kind := Scheme.of scheme
  let (userinfo, rest) := splitUserinfo kind text
  if userinfo = some [] ∧ rest.head?.any (endsAuthority kind) then throw .emptyHost
  let (username, password) := readUserinfo (userinfo.getD [])
  let (hostText, rest) := splitHost kind false rest
  if kind.isSpecial ∧ hostText = [] then throw .emptyHost
  let host ← if kind.isSpecial then readHost hostText else readPlainHost hostText
  if host = .domain "" ∧ rest.head? = some ':' then throw .emptyHost
  let (portNumber, rest) ← readPort scheme rest
  if host = .domain "" ∧ (username ≠ "" ∨ password ≠ "") then throw .emptyHost
  return (⟨username, password, host, portNumber⟩, rest)

/-- The host of a `file` URL, and what follows it. A drive letter is no host, and `localhost` is
named by no host. -/
def readFileHost (text : List Char) : Except ParseError (Option Host × List Char) := do
  let name := text.takeWhile fun c => !endsAuthority .file c
  let rest := text.dropWhile fun c => !endsAuthority .file c
  if isDrive name then return (none, text)
  else if name.isEmpty then return (none, rest)
  else
    let host ← readHost name
    return (if host = .domain "localhost" then none else some host, rest)

end Webrev.Url
