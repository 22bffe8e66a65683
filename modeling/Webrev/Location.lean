import Webrev.Text.Quoted
import Webrev.Url.Parse

/-!
# Locations

Where a webrev lies, and where the repository is that it was made for. The location of a webrev is
the URL of its index page, without the name of the document. The place of a repository is a URL or a
reference relative to one, such as a local path.

## Main definitions

* `Location.sanitize` : the URL of a webrev.
* `UriReference` : a URL, or a reference that is kept as it is written.
* `UriReference.parse` : the reference that a text is.
* `Location.Fault` : what is wrong with a location.
-/

namespace Webrev

namespace Location

/-- What is wrong with a location. -/
inductive Fault where
  | url (reason : Url.ParseError)
  | illegalCharacter (c : Char)
  deriving DecidableEq, Repr

/-- The description of a fault. -/
def Fault.message : Fault → String
  | .url reason => reason.message
  | .illegalCharacter c => "illegal character " ++ Text.quoted c

/-- The name of the document that an index page is. -/
def indexDocument : List Char := "index.html".toList

/-- A location without the name of the document at its end. -/
def withoutDocument (location : List Char) : List Char :=
  if indexDocument.isSuffixOf location then location.take (location.length - indexDocument.length)
  else location

/-- The URL of a webrev, relative to which the links of its index page are read. -/
def sanitize (location : String) : Except Fault Url :=
  (Url.parse (String.ofList (withoutDocument location.toList))).mapError .url

end Location

/-- A URL, or a reference relative to one that is kept as it is written. -/
inductive UriReference where
  | absolute (url : Url)
  | relative (text : String)
  deriving DecidableEq, Repr

namespace UriReference

/-- The punctuation marks of URI references. -/
def marks : List Char := "-._~:/?#[]@!$&'()*+,;=%".toList

/-- A character that a URI reference may hold: the ASCII letters and digits, some marks, and beyond
ASCII whatever is neither a control nor a blank. -/
def isUriChar (c : Char) : Bool :=
  c.isAlphanum || marks.contains c ||
    (0x80 ≤ c.toNat && !Text.isControl c && !Text.isBlank c)

/-- A reference as it is written. -/
def text : UriReference → String
  | .absolute url => url.text
  | .relative text => text

/-- The reference that a text is. -/
def parse (text : String) : Except Location.Fault UriReference :=
  match text.toList.find? fun c => !isUriChar c with
  | some c => .error (.illegalCharacter c)
  | none =>
    match Url.parse text with
    | .ok url => .ok (.absolute url)
    | .error .relativeWithoutBase => .ok (.relative text)
    | .error reason => .error (.url reason)

end UriReference

end Webrev
