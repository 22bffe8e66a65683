import Webrev.Text.Utf8
import Webrev.Text.Numeral

/-!
# Percent encoding

A character that a part of a URL cannot hold is written as its octets, each as a percent sign and
two hexadecimal digits. Which ASCII characters those are depends on the part; a character beyond
ASCII is never kept.

## Main definitions

* `Percent.Reserved` : the characters that a part does not keep.
* `Percent.encode` : a text as it stands in a part.
* `Percent.decode` : the octets of a text in which the octets written by number are read.
-/

namespace Webrev.Percent

/-- The ASCII characters that a part of a URL does not keep, controls apart. -/
abbrev Reserved := List Char

/-- What a fragment does not keep. -/
def Reserved.fragment : Reserved := [' ', '"', '<', '>', '\x60']

/-- What a path does not keep. -/
def Reserved.path : Reserved := Reserved.fragment ++ ['#', '?', '\x7b', '\x7d']

/-- What a user name or a password does not keep. -/
def Reserved.userinfo : Reserved :=
  Reserved.path ++ ['/', ':', ';', '=', '@', '[', '\\', ']', '^', '|']

/-- What a query does not keep. -/
def Reserved.query : Reserved := [' ', '"', '#', '<', '>']

/-- What the query of a URL of a special scheme does not keep. -/
def Reserved.specialQuery : Reserved := Reserved.query ++ ['\'']

/-- A part keeps a character as it is. -/
def keeps (reserved : Reserved) (c : Char) : Bool :=
  0x20 ≤ c.toNat && c.toNat < 0x7F && !reserved.contains c

/-- An octet by its number. -/
def encodeOctet (b : UInt8) : List Char :=
  ['%', Numeral.upperHexDigit (b.toNat / 16), Numeral.upperHexDigit (b.toNat % 16)]

/-- A character as it stands in a part. -/
def encodeChar (reserved : Reserved) (c : Char) : List Char :=
  if keeps reserved c then [c] else (Utf8.encode [c]).flatMap encodeOctet

/-- A text as it stands in a part. -/
def encode (reserved : Reserved) (text : List Char) : List Char :=
  text.flatMap (encodeChar reserved)

/-- The octets of a text in which the octets written by number are read. -/
def decode : List Char → List UInt8
  | [] => []
  | '%' :: h :: l :: rest =>
    match Numeral.digit? 16 h, Numeral.digit? 16 l with
    | some high, some low => UInt8.ofNat (high * 16 + low) :: decode rest
    | _, _ => 0x25 :: decode (h :: l :: rest)
  | c :: rest => Utf8.encode [c] ++ decode rest

/-! ### Texts that a part keeps -/

theorem encode_append (reserved : Reserved) (front rest : List Char) :
    encode reserved (front ++ rest) = encode reserved front ++ encode reserved rest := by
  simp [encode]

/-- A text whose characters are kept stands as it is. -/
theorem encode_eq_self {reserved : Reserved} {text : List Char}
    (h : ∀ c ∈ text, keeps reserved c = true) : encode reserved text = text := by
  induction text with
  | nil => rfl
  | cons c text ih =>
    have hc : encodeChar reserved c = [c] := by
      rw [encodeChar, if_pos (h c List.mem_cons_self)]
    unfold encode at ih ⊢
    rw [List.flatMap_cons, hc, ih fun d hd => h d (List.mem_cons_of_mem _ hd)]
    rfl

end Webrev.Percent
