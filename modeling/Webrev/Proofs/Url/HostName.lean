import Webrev.Proofs.Text.Scan
import Webrev.Url.Idna.Domain

/-!
# Characters of host names

Whatever script a host name is written in, its ASCII form has only ASCII characters, and none of
those that would end a host in a URL. It may have quotation marks and braces all the same.

## Main definitions

* `Idna.isNameChar` : the characters of host names in ASCII.

## Main results

* `Punycode.encode_ascii` : a label in Punycode is ASCII.
* `Idna.isNameChar_of_toAscii?` : the characters of the ASCII form of a host name.
-/

namespace Webrev

namespace Punycode

theorem digit_ascii {d : Nat} (h : d < base) : (digit d).toNat < firstCode := by
  have hall : ∀ d < base, (digit d).toNat < firstCode := by decide
  exact hall d h

/-- The digits of a distance are ASCII, the last one and those before it. -/
theorem distance_ascii (bias k q : Nat) : ∀ c ∈ distance bias k q, c.toNat < firstCode := by
  have hbound := threshold_le bias k
  induction k, q using distance.induct bias with
  | case1 k q t hlast =>
    rw [distance, if_pos hlast, List.forall_mem_singleton]
    exact digit_ascii (Nat.lt_of_lt_of_le hlast (Nat.le_trans hbound (by decide)))
  | case2 k q t hmore ih =>
    have hroom : 0 < base - threshold bias k := Nat.sub_pos_of_lt
      (Nat.lt_of_le_of_lt hbound (by decide))
    have hdigit := Nat.mod_lt (q - threshold bias k) hroom
    rw [distance, if_neg hmore, List.forall_mem_cons]
    exact ⟨digit_ascii (by omega), ih (threshold_le bias _)⟩

theorem encodeCode_ascii (basic code : Nat) (label : List Char) (encoder : Encoder) :
    ∀ c ∈ (encodeCode basic code encoder label).1, c.toNat < firstCode := by
  induction label generalizing encoder with
  | nil => exact List.forall_mem_nil _
  | cons c label ih =>
    rw [encodeCode]
    split
    · exact ih _
    split
    · exact List.forall_mem_append.mpr ⟨distance_ascii _ _ _, ih _⟩
    · exact ih _

theorem encodeCodes_ascii (label : List Char) (basic code : Nat) (encoder : Encoder)
    (codes : List Nat) :
    ∀ c ∈ encodeCodes label basic code encoder codes, c.toNat < firstCode := by
  induction codes generalizing code encoder with
  | nil => exact List.forall_mem_nil _
  | cons next codes ih =>
    rw [encodeCodes]
    exact List.forall_mem_append.mpr ⟨encodeCode_ascii _ _ _ _, ih _ _⟩

/-- A label in Punycode is ASCII. -/
theorem encode_ascii (label : List Char) : ∀ c ∈ encode label, c.toNat < firstCode := by
  refine List.forall_mem_append.mpr ⟨?_, encodeCodes_ascii _ _ _ _ _⟩
  split
  · exact List.forall_mem_nil _
  · refine List.forall_mem_append.mpr ⟨fun c hc => ?_, List.forall_mem_singleton.mpr (by decide)⟩
    exact of_decide_eq_true (List.mem_filter.mp hc).2

end Punycode

namespace Idna

/-- A character of a host name in ASCII. -/
def isNameChar (c : Char) : Bool := c.toNat < 0x80 && !isForbidden c

theorem forall_mem_of_isAscii {text : List Char} (h : isAscii text = true) :
    ∀ c ∈ text, c.toNat < 0x80 := fun c hc => of_decide_eq_true (List.all_eq_true.mp h c hc)

/-- A label is written in ASCII. -/
theorem writeLabel?_ascii {label written : List Char} (h : writeLabel? label = some written) :
    ∀ c ∈ written, c.toNat < 0x80 := by
  unfold writeLabel? at h
  split at h
  next hascii =>
    obtain rfl := Option.some.inj h
    exact forall_mem_of_isAscii hascii
  split at h
  · cases h
  · obtain rfl := Option.some.inj h
    exact List.forall_mem_append.mpr
      ⟨forall_mem_of_isAscii (by decide), Punycode.encode_ascii label⟩

/-- Labels are written in ASCII, each of them. -/
theorem mapM_writeLabel?_ascii {labels written : List (List Char)}
    (h : labels.mapM writeLabel? = some written) :
    ∀ label ∈ written, ∀ c ∈ label, c.toNat < 0x80 := by
  induction labels generalizing written with
  | nil =>
    obtain rfl := Option.some.inj h
    exact List.forall_mem_nil _
  | cons label labels ih =>
    rw [List.mapM_cons] at h
    obtain ⟨first, hfirst, h⟩ := Option.bind_eq_some_iff.mp h
    obtain ⟨others, hothers, h⟩ := Option.bind_eq_some_iff.mp h
    obtain rfl := Option.some.inj h
    exact List.forall_mem_cons.mpr ⟨writeLabel?_ascii hfirst, ih hothers⟩

/-- The characters of the ASCII form of a host name. -/
theorem isNameChar_of_toAscii? {name ascii : List Char} (h : toAscii? name = some ascii) :
    ∀ c ∈ ascii, isNameChar c = true := by
  obtain ⟨labels, -, h⟩ := Option.bind_eq_some_iff.mp h
  obtain ⟨written, hwritten, h⟩ := Option.bind_eq_some_iff.mp h
  dsimp only at h
  split at h
  · cases h
  next hno =>
    obtain rfl := Option.some.inj h
    intro c hc
    have hallowed : isForbidden c = false := by
      simpa using fun hbad => hno (List.any_eq_true.mpr ⟨c, hc, hbad⟩)
    have hascii : c.toNat < 0x80 := by
      rcases Scan.mem_of_mem_intercalate hc with hstop | ⟨label, hlabel, hc⟩
      · obtain rfl := List.mem_singleton.mp hstop
        decide
      · exact mapM_writeLabel?_ascii hwritten label hlabel c hc
    rw [isNameChar, hallowed, Bool.not_false, Bool.and_true]
    exact decide_eq_true hascii

end Idna

end Webrev
