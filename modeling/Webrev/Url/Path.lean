import Webrev.Url.Percent

/-!
# Paths of URLs

A path is read segment by segment. A segment `..` takes the one before it away and a segment `.`
stands for nothing, also when their full stops are written by number. In a `file` URL a drive letter
is a segment that is not taken away.

## Main definitions

* `Url.Scheme` : the kinds of schemes that are read in their own ways.
* `Url.Segment`, `Url.segments` : the segments of a path as they are given.
* `Url.Trail` : a path as far as it is read.
* `Url.readPath` : a path read.
-/

namespace Webrev.Url

/-- The kinds of schemes that are read in their own ways. -/
inductive Scheme where
  | file
  | special
  | other
  deriving DecidableEq, Repr

/-- The kind of a scheme. -/
def Scheme.of (scheme : List Char) : Scheme :=
  if scheme = "file".toList then .file
  else if ["http".toList, "https".toList, "ws".toList, "wss".toList, "ftp".toList].contains scheme
    then .special
  else .other

/-- A scheme whose backslashes are slashes and whose path is never empty. -/
def Scheme.isSpecial (scheme : Scheme) : Bool := scheme != .other

/-- A slash, or what is read as one. -/
def Scheme.isSlash (scheme : Scheme) (c : Char) : Bool :=
  c == '/' || (c == '\\' && scheme.isSpecial)

/-- A slash or a backslash. -/
def isAnySlash (c : Char) : Bool := c == '/' || c == '\\'

/-- A path, a host or a query ends before a question mark or a number sign. -/
def isPathEnd (c : Char) : Bool := c == '?' || c == '#'

/-! ### Segments -/

/-- A segment as it is given, and whether a slash follows it. -/
structure Segment where
  text : List Char
  slash : Bool
  deriving DecidableEq, Repr

/-- The segments of a path, the characters of the segment in hand being `pending`, last one
first. -/
def segmentsFrom (scheme : Scheme) (pending : List Char) : List Char → List Segment
  | [] => [⟨pending.reverse, false⟩]
  | c :: rest =>
    if scheme.isSlash c then ⟨pending.reverse, true⟩ :: segmentsFrom scheme [] rest
    else segmentsFrom scheme (c :: pending) rest

/-- The segments of a path as they are given. -/
def segments (scheme : Scheme) (path : List Char) : List Segment := segmentsFrom scheme [] path

/-- A full stop, or what stands for one, in front of a text; what follows it. -/
def skipStop : List Char → Option (List Char)
  | '.' :: rest => some rest
  | '%' :: '2' :: 'e' :: rest => some rest
  | '%' :: '2' :: 'E' :: rest => some rest
  | _ => none

/-- A segment that stands for nothing. -/
def isHere (segment : List Char) : Bool := skipStop segment == some []

/-- A segment that takes the one before it away. -/
def isUp (segment : List Char) : Bool := (skipStop segment).bind skipStop == some []

/-! ### Drive letters -/

/-- A letter and a colon or a bar. -/
def isDrive : List Char → Bool
  | [c, mark] => c.isAlpha && (mark == ':' || mark == '|')
  | _ => false

/-- A letter and a colon. -/
def isPlainDrive : List Char → Bool
  | [c, ':'] => c.isAlpha
  | _ => false

/-- A text begins with a drive letter that something other than a slash cannot follow. -/
def startsWithDrive : List Char → Bool
  | [c, mark] => isDrive [c, mark]
  | c :: mark :: next :: _ => isDrive [c, mark] && (isAnySlash next || isPathEnd next)
  | _ => false

/-! ### Reading a path -/

/-- A path as far as it is read, and whether the URL still names a host. -/
structure Trail where
  path : List Char
  hasHost : Bool
  deriving DecidableEq, Repr

/-- What follows the last slash of a path. -/
def lastSegment (path : List Char) : List Char := (path.reverse.takeWhile (· ≠ '/')).reverse

/-- A path up to its last slash, that one included. -/
def uptoSlash (path : List Char) : List Char := (path.reverse.dropWhile (· ≠ '/')).reverse

/-- A path without what follows its last slash; a drive letter stays. -/
def pop (scheme : Scheme) (path : List Char) : List Char :=
  if scheme = .file ∧ isPlainDrive (lastSegment path) then path else uptoSlash path

/-- A path that ends in a slash, without that slash, unless it is the first one or follows a drive
letter. -/
def dropSlash (path : List Char) : List Char :=
  let front := path.dropLast
  if front.contains '/' && !startsWithDrive (lastSegment front ++ ['/']) then front else path

/-- A path that ends in a slash. -/
def endsInSlash (path : List Char) : Bool := path.getLast? == some '/'

/-- A path with a slash at its end. -/
def withSlash (path : List Char) : List Char := if endsInSlash path then path else path ++ ['/']

/-- A path with the segment before its end taken away. -/
def goUp (scheme : Scheme) (path : List Char) : List Char :=
  pop scheme (if endsInSlash path then dropSlash path else path)

/-- The part of a path before a segment: a drive letter at its end is closed by a slash. -/
def openDrive (scheme : Scheme) (path segment : List Char) : List Char :=
  if scheme = .file ∧ isPlainDrive (path.drop 1) ∧ segment ≠ [] then path ++ ['/'] else path

/-- A path with a segment read. -/
def Trail.add (scheme : Scheme) (trail : Trail) (segment : Segment) : Trail :=
  let path := openDrive scheme trail.path segment.text
  let close := fun p : List Char => if segment.slash then p ++ ['/'] else p
  if isUp segment.text then
    let up := goUp scheme path
    { trail with path := if segment.slash then withSlash up else up }
  else if isHere segment.text then { trail with path := withSlash path }
  else if scheme = .file ∧ path.length = 1 ∧ isDrive segment.text then
    ⟨path ++ close (segment.text.take 1 ++ [':']), false⟩
  else { trail with path := path ++ close (Percent.encode .path segment.text) }

/-- A path of a `file` URL has one slash in front. -/
def oneSlash (scheme : Scheme) (path : List Char) : List Char :=
  if scheme = .file then '/' :: path.dropWhile (· = '/') else path

/-- A path read after the part of it that there is. -/
def readPath (scheme : Scheme) (trail : Trail) (path : List Char) : Trail :=
  let last := (segments scheme path).foldl (Trail.add scheme) trail
  { last with path := oneSlash scheme last.path }

end Webrev.Url
