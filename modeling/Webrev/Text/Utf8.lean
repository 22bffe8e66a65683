/-!
# UTF-8

Texts as octets. A reader takes one octet after the other and keeps the part of the character that
it has seen, so a text may be cut at any octet. Octets that no character has are read in two ways:
`decodeLossy` puts one replacement character for each longest part that begins a character, and
`decode` refuses the text and says where.

## Main definitions

* `Utf8.State`, `Utf8.step` : the reader.
* `Utf8.decodeLossy` : the text of any octets.
* `Utf8.decode` : the text of well-formed octets.
* `Utf8.encode` : the octets of a text.

## Main results

* `Utf8.decodeFrom_append` : reading in two parts is reading at once.
-/

namespace Webrev.Utf8

/-- Where a reader stands: between two characters, or inside one. Inside, `seen` octets have been
read and `owed` ones are to come, the next of them from `low` to `high`; `value` is what the octets
so far say of the character. -/
inductive State where
  | between
  | inside (seen owed : Nat) (low high : UInt8) (value : Nat)
  deriving DecidableEq, Repr

/-- What an octet does: it completes a character, leads on to more octets, or is out of place. -/
inductive Outcome where
  | character (c : Char)
  | more (next : State)
  | misplaced
  deriving DecidableEq, Repr

/-- The effect of the first octet of a character. -/
def first (b : UInt8) : Outcome :=
  if b < 0x80 then .character (Char.ofNat b.toNat)
  else if b < 0xC2 then .misplaced
  else if b < 0xE0 then .more (.inside 1 1 0x80 0xBF (b.toNat - 0xC0))
  else if b = 0xE0 then .more (.inside 1 2 0xA0 0xBF 0)
  else if b = 0xED then .more (.inside 1 2 0x80 0x9F 0xD)
  else if b < 0xF0 then .more (.inside 1 2 0x80 0xBF (b.toNat - 0xE0))
  else if b = 0xF0 then .more (.inside 1 3 0x90 0xBF 0)
  else if b < 0xF4 then .more (.inside 1 3 0x80 0xBF (b.toNat - 0xF0))
  else if b = 0xF4 then .more (.inside 1 3 0x80 0x8F 4)
  else .misplaced

/-- The effect of an octet on a reader. -/
def State.step : State → UInt8 → Outcome
  | .between, b => first b
  | .inside seen owed low high value, b =>
    if low ≤ b ∧ b ≤ high then
      let value := value * 64 + (b.toNat - 0x80)
      if owed ≤ 1 then .character (Char.ofNat value)
      else .more (.inside (seen + 1) (owed - 1) 0x80 0xBF value)
    else .misplaced

/-! ### Reading any octets -/

/-- The character that stands for octets that no character has. -/
def replacement : Char := '\uFFFD'

/-- What a lossy reader writes at the first octet of a character, and where it stands after it. -/
def restart (b : UInt8) : List Char × State :=
  match first b with
  | .character c => ([c], .between)
  | .more next => ([], next)
  | .misplaced => ([replacement], .between)

/-- What a lossy reader writes at an octet, and where it stands after it. An octet that the
character before it has no room for is read afresh. -/
def State.stepLossy (state : State) (b : UInt8) : List Char × State :=
  match state.step b with
  | .character c => ([c], .between)
  | .more next => ([], next)
  | .misplaced =>
    match state with
    | .between => ([replacement], .between)
    | .inside .. => (replacement :: (restart b).1, (restart b).2)

/-- The characters that octets add to a text, and where the reader stands after them. -/
def decodeFrom (state : State) : List UInt8 → List Char × State
  | [] => ([], state)
  | b :: rest =>
    let (written, next) := state.stepLossy b
    let (more, last) := decodeFrom next rest
    (written ++ more, last)

/-- What a lossy reader writes at the end of the text. -/
def State.finish : State → List Char
  | .between => []
  | .inside .. => [replacement]

/-- The text of any octets, one replacement character for each longest part of them that begins a
character and does not complete it. -/
def decodeLossy (octets : List UInt8) : List Char :=
  let (text, last) := decodeFrom .between octets
  text ++ last.finish

/-- Reading in two parts is reading at once. -/
theorem decodeFrom_append (state : State) (front rest : List UInt8) :
    decodeFrom state (front ++ rest) =
      ((decodeFrom state front).1 ++ (decodeFrom (decodeFrom state front).2 rest).1,
        (decodeFrom (decodeFrom state front).2 rest).2) := by
  induction front generalizing state with
  | nil => simp [decodeFrom]
  | cons b front ih => simp [decodeFrom, ih, List.append_assoc]

/-! ### Reading well-formed octets -/

/-- Why octets are not a text. -/
inductive Malformed where
  | sequence (length index : Nat)
  | unfinished (index : Nat)
  deriving DecidableEq, Repr

/-- The description of a malformed text. -/
def Malformed.message : Malformed → String
  | .sequence length index =>
    "invalid utf-8 sequence of " ++ toString length ++ " bytes from index " ++ toString index
  | .unfinished index => "incomplete utf-8 byte sequence from index " ++ toString index

/-- The number of octets of an unfinished character that have been read. -/
def State.seen : State → Nat
  | .between => 0
  | .inside seen .. => seen

/-- The text of well-formed octets, `index` being the place of the character in hand. -/
def decodeAt (state : State) (index : Nat) : List UInt8 → Except Malformed (List Char)
  | [] =>
    match state with
    | .between => .ok []
    | .inside .. => .error (.unfinished index)
  | b :: rest =>
    match state.step b with
    | .character c => (decodeAt .between (index + state.seen + 1) rest).map (c :: ·)
    | .more next => decodeAt next index rest
    | .misplaced => .error (.sequence (max 1 state.seen) index)

/-- The text of well-formed octets. -/
def decode (octets : List UInt8) : Except Malformed (List Char) := decodeAt .between 0 octets

/-! ### Writing -/

/-- The octets of a text. -/
def encode (text : List Char) : List UInt8 := text.flatMap String.utf8EncodeChar

end Webrev.Utf8
