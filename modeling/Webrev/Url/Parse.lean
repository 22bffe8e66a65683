import Webrev.Url.Authority

/-!
# Reading URLs

A text is read as a URL on its own, or as a reference relative to a base. Blanks and controls around
it and tabs and line ends within it do not count.

## Main definitions

* `Url.clean` : the characters of a text that count.
* `Url.parse` : the URL that a text is.
* `Url.join` : the URL that a reference denotes relative to a base.
-/

namespace Webrev.Url

/-- A character that does not count at the ends of a text. -/
def isMargin (c : Char) : Bool := c.toNat ≤ 0x20

/-- The characters of a text that count. -/
def clean (text : List Char) : List Char :=
  (((text.dropWhile isMargin).reverse.dropWhile isMargin).reverse).filter fun c =>
    !(c == '\t' || c == '\n' || c == '\r')

/-- A character that a scheme may have after its first letter. -/
def isSchemeChar (c : Char) : Bool := c.isAlphanum || c == '+' || c == '-' || c == '.'

/-- The scheme in front of a text, in small letters, and what follows its colon. -/
def splitScheme? (text : List Char) : Option (List Char × List Char) :=
  let scheme := text.takeWhile isSchemeChar
  match scheme.head?, text.dropWhile isSchemeChar with
  | some c, ':' :: rest => if c.isAlpha then some (scheme.map Char.toLower, rest) else none
  | _, _ => none

/-! ### Paths, queries and fragments -/

/-- A text up to the end of the path at its front. -/
def pathText (text : List Char) : List Char := text.takeWhile fun c => !isPathEnd c

/-- What follows the path at the front of a text. -/
def afterPath (text : List Char) : List Char := text.dropWhile fun c => !isPathEnd c

/-- The fragment after a number sign. -/
def readFragment (text : List Char) : String := String.ofList (Percent.encode .fragment text)

/-- The query and the fragment that follow a path. -/
def readTail (scheme : Scheme) : List Char → Option String × Option String
  | '?' :: rest =>
    let query := rest.takeWhile (· ≠ '#')
    let reserved := if scheme.isSpecial then Percent.Reserved.specialQuery else .query
    (some (String.ofList (Percent.encode reserved query)),
      match rest.dropWhile (· ≠ '#') with
      | [] => none
      | _ :: fragment => some (readFragment fragment))
  | '#' :: rest => (none, some (readFragment rest))
  | _ => (none, none)

/-- A URL with another query and another fragment. -/
def withTail (url : Url) (text : List Char) : Url :=
  let (query, fragment) := readTail (Scheme.of url.scheme.toList) text
  { url with query, fragment }

/-- A URL with another fragment. -/
def withFragment (url : Url) (text : List Char) : Url :=
  { url with fragment := some (readFragment text) }

/-- A URL whose path goes on from the part of it that there is. -/
def withPath (scheme : List Char) (authority : Option Authority) (path text : List Char) : Url :=
  let last := readPath (Scheme.of scheme) ⟨path, true⟩ (pathText text)
  withTail ⟨String.ofList scheme, authority, String.ofList last.path, none, none⟩ (afterPath text)

/-- The path that begins after an authority, and the text that goes on with it. The path of a special
scheme is never empty. -/
def pathStart (scheme : Scheme) : List Char → List Char × List Char
  | [] => (if scheme.isSpecial then ['/'] else [], [])
  | c :: rest =>
    if scheme.isSpecial then (['/'], if scheme.isSlash c then rest else c :: rest)
    else (if c = '/' ∨ isPathEnd c then [] else ['/'], c :: rest)

/-- A URL after the two slashes of its authority. -/
def afterSlashes (scheme text : List Char) : Except ParseError Url := do
  let (authority, rest) ← readAuthority scheme text
  let (path, rest) := pathStart (Scheme.of scheme) rest
  return withPath scheme (some authority) path rest

/-! ### Schemes other than the special ones -/

/-- A URL of another scheme, after its colon. Without a slash, what follows is kept as it is,
controls and characters beyond ASCII apart. -/
def readOther (scheme : List Char) : List Char → Except ParseError Url
  | '/' :: '/' :: rest => afterSlashes scheme rest
  | '/' :: rest => .ok (withPath scheme none ['/'] rest)
  | text =>
    let path := String.ofList (Percent.encode [] (pathText text))
    .ok (withTail ⟨String.ofList scheme, none, path, none, none⟩ (afterPath text))

/-! ### References -/

/-- The URL of a reference without a scheme, relative to a base with a path. -/
def readRelative (base : Url) (text : List Char) : Except ParseError Url :=
  let scheme := base.scheme.toList
  match text with
  | [] => .ok { base with fragment := none }
  | '?' :: _ => .ok (base.withTail text)
  | '#' :: rest => .ok (base.withFragment rest)
  | '/' :: '/' :: rest => afterSlashes scheme rest
  | c :: rest =>
    if isAnySlash c then
      if rest.head?.any isAnySlash then afterSlashes scheme (text.dropWhile isAnySlash)
      else .ok (withPath scheme base.authority ['/'] rest)
    else
      let front := pop (Scheme.of scheme) base.path.toList
      .ok (withPath scheme base.authority (if front.isEmpty then ['/'] else front) text)

/-! ### `file` URLs -/

/-- The scheme of files. -/
def fileScheme : List Char := "file".toList

/-- A `file` URL that names no host. -/
def withoutHost (path text : List Char) : Url :=
  withPath fileScheme (some ⟨"", "", .domain "", none⟩) path text

/-- A `file` URL after the two slashes of its authority. A path that begins with a drive letter takes
the host away. -/
def afterFileSlashes (text : List Char) : Except ParseError Url := do
  match ← readFileHost text with
  | (none, rest) => return withoutHost ['/'] rest
  | (some host, rest) =>
    let (path, rest) := pathStart .file rest
    if (readPath .file ⟨path, true⟩ (pathText rest)).hasHost then
      return withPath fileScheme (some ⟨"", "", host, none⟩) path rest
    else return withoutHost path rest

/-- The drive letter at the front of the path of a URL. -/
def drive? (base : Url) : Option (List Char) :=
  ((base.pathSegments.bind List.head?).filter isPlainDrive)

/-- A `file` URL after one slash: the drive letter of the base stays in front of the path, and else
its host stays. -/
def afterFileSlash (base : Option Url) (rest : List Char) : Url :=
  match if startsWithDrive rest then none else base with
  | none => withoutHost [] ('/' :: rest)
  | some base =>
    match base.drive? with
    | some drive => withoutHost ('/' :: drive) ('/' :: rest)
    | none => withPath fileScheme base.authority [] ('/' :: rest)

/-- A `file` URL after its colon, relative to a base that is one, if there is one. -/
def readFile (base : Option Url) (text : List Char) : Except ParseError Url :=
  match text with
  | c :: rest =>
    if isAnySlash c then
      match rest with
      | [] => .ok (afterFileSlash base [])
      | d :: after =>
        if isAnySlash d then afterFileSlashes after else .ok (afterFileSlash base rest)
    else
      match base with
      | none => .ok (withoutHost ['/'] text)
      | some base =>
        if startsWithDrive text then .ok (withoutHost ['/'] text) else readRelative base text
  | [] =>
    match base with
    | none => .ok (withoutHost ['/'] [])
    | some base => .ok { base with fragment := none }

/-! ### Any text -/

/-- The URL of a text with a scheme. A reference may have the special scheme of its base and no
authority. -/
def readWithScheme (base : Option Url) (scheme text : List Char) : Except ParseError Url :=
  let sameScheme := base.filter fun base => base.scheme.toList = scheme
  match Scheme.of scheme, sameScheme with
  | .file, base => readFile base text
  | .special, some base =>
    if 2 ≤ (text.takeWhile isAnySlash).length then afterSlashes scheme (text.dropWhile isAnySlash)
    else readRelative base text
  | .special, none => afterSlashes scheme (text.dropWhile isAnySlash)
  | .other, _ => readOther scheme text

/-- The URL of a text without a scheme. -/
def readWithoutScheme (base : Option Url) (text : List Char) : Except ParseError Url :=
  match base with
  | none => .error .relativeWithoutBase
  | some base =>
    match text with
    | '#' :: rest => .ok (base.withFragment rest)
    | _ =>
      if base.isRootless then .error .relativeWithRootlessBase
      else if base.scheme = "file" then readFile (some base) text
      else readRelative base text

/-- The URL of a text, relative to a base if there is one. -/
def read (base : Option Url) (text : String) : Except ParseError Url :=
  let text := clean text.toList
  match splitScheme? text with
  | some (scheme, rest) => readWithScheme base scheme rest
  | none => readWithoutScheme base text

/-- The URL that a text is. -/
def parse (text : String) : Except ParseError Url := read none text

/-- The URL that a reference denotes relative to a base. -/
def join (base : Url) (reference : String) : Except ParseError Url := read (some base) reference

end Webrev.Url
