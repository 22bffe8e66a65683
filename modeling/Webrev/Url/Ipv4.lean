import Webrev.Text.Numeral

/-!
# IPv4 addresses in URLs

A host whose last part is a number is an IPv4 address. It has up to four parts, each decimal, octal
after `0` or hexadecimal after `0x`; the last part fills the octets that the others leave, and a
full stop may follow it.

## Main definitions

* `Ipv4.number?` : the number of a part.
* `Ipv4.endsInNumber` : a host that has to be an address.
* `Ipv4.span` : how many numbers some octets can hold.
* `Ipv4.parse?` : the address that a host denotes.
* `Ipv4.text` : an address as four decimal parts.

## Main results

* `Ipv4.parse?_lt` : an address has 32 bits.
-/

namespace Webrev.Ipv4

/-- The number of nonempty digits in a base; of no digits, zero. -/
def numberIn (base : Nat) (digits : List Char) : Option Nat :=
  if digits.all (Numeral.isDigit base) then some (Numeral.value base digits) else none

/-- The number of a part. -/
def number? : List Char → Option Nat
  | [] => none
  | '0' :: 'x' :: digits => numberIn 16 digits
  | '0' :: 'X' :: digits => numberIn 16 digits
  | '0' :: d :: digits => numberIn 8 (d :: digits)
  | digits => numberIn 10 digits

/-- The parts of a host; an empty one at the end is left out. -/
def parts (host : List Char) : List (List Char) :=
  let all := host.splitOn '.'
  if all.getLast? = some [] then all.dropLast else all

/-- A host whose last part is a number or consists of decimal digits. -/
def endsInNumber (host : List Char) : Bool :=
  match (parts host).getLast? with
  | none => false
  | some last => (!last.isEmpty && last.all (Numeral.isDigit 10)) || (number? last).isSome

/-- How many numbers so many octets can hold. -/
def span : Nat → Nat
  | 0 => 1
  | octets + 1 => span octets * 256

theorem span_add (m n : Nat) : span m * span n = span (m + n) := by
  induction n with
  | zero => exact Nat.mul_one _
  | succ n ih => rw [span, ← Nat.mul_assoc, ih]; rfl

/-- The address of numbers: the last one fills the octets that the others leave, each of which is
one octet. -/
def ofNumbers? (numbers : List Nat) : Option Nat :=
  match numbers.getLast? with
  | none => none
  | some last =>
    let octets := numbers.dropLast
    let room := span (4 - octets.length)
    if 3 < octets.length || room ≤ last || !octets.all (· < 256) then none
    else some (octets.foldl (fun acc n => acc * 256 + n) 0 * room + last)

/-- The address that a host denotes. -/
def parse? (host : List Char) : Option Nat :=
  if 4 < (parts host).length then none
  else ((parts host).mapM number?).bind ofNumbers?

/-- An address as four decimal parts. -/
def text (address : Nat) : List Char :=
  let octet := fun place => Numeral.decimal (address / span place % 256)
  octet 3 ++ '.' :: octet 2 ++ '.' :: octet 1 ++ '.' :: octet 0

private theorem foldl_lt (octets : List Nat) (acc bound : Nat) (hacc : acc < bound)
    (h : ∀ n ∈ octets, n < 256) :
    octets.foldl (fun acc n => acc * 256 + n) acc < bound * span octets.length := by
  induction octets generalizing acc bound with
  | nil => simpa [span] using hacc
  | cons n octets ih =>
    have hn : n < 256 := h n List.mem_cons_self
    have := ih (acc * 256 + n) (bound * 256) (by omega) fun m hm => h m (List.mem_cons_of_mem _ hm)
    rw [List.foldl_cons, List.length_cons, span, Nat.mul_comm (span _), ← Nat.mul_assoc]
    exact this

/-- An address has 32 bits. -/
theorem parse?_lt {host : List Char} {address : Nat} (h : parse? host = some address) :
    address < 0x100000000 := by
  simp only [parse?] at h
  split at h
  · cases h
  obtain ⟨numbers, -, h⟩ := Option.bind_eq_some_iff.mp h
  unfold ofNumbers? at h
  split at h
  · cases h
  next last _ =>
  dsimp only at h
  split at h
  · cases h
  next hno =>
  simp only [Bool.or_eq_true, decide_eq_true_eq, Bool.not_eq_true', not_or, Nat.not_lt,
    Nat.not_le, Bool.not_eq_false] at hno
  obtain ⟨⟨hlen, hlast⟩, hall⟩ := hno
  obtain rfl := Option.some.inj h
  have hoct : ∀ n ∈ numbers.dropLast, n < 256 := by
    intro n hn
    simpa using List.all_eq_true.mp hall n hn
  have hf := foldl_lt numbers.dropLast 0 1 (by decide) hoct
  rw [Nat.one_mul] at hf
  have hspan : span numbers.dropLast.length * span (4 - numbers.dropLast.length) = span 4 := by
    rw [span_add, Nat.add_sub_cancel' (Nat.le_succ_of_le hlen)]
  calc _ < numbers.dropLast.foldl (fun acc n => acc * 256 + n) 0 *
          span (4 - numbers.dropLast.length) + span (4 - numbers.dropLast.length) :=
        Nat.add_lt_add_left hlast _
    _ = (numbers.dropLast.foldl (fun acc n => acc * 256 + n) 0 + 1) *
          span (4 - numbers.dropLast.length) := by rw [Nat.add_mul, Nat.one_mul]
    _ ≤ span numbers.dropLast.length * span (4 - numbers.dropLast.length) :=
        Nat.mul_le_mul_right _ hf
    _ = 0x100000000 := hspan

end Webrev.Ipv4
