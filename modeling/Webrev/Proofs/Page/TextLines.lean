import Webrev.Proofs.Page.Lines
import Webrev.Proofs.Text.Lossy
import Mathlib.Data.List.Induction

/-!
# The lines of a body are the lines of its text

A body is cut into lines by its octets, before they are read as text, and each line is read on its
own. The text of the whole body, cut at its line feeds, has the same lines: a line feed and a
carriage return are octets of their own wherever they stand, so that nothing in one line changes
what is read of another one, and a part of a character before them is replaced as it is at the end
of a text. The chunks in which a body arrives do not count.

## Main definitions

* `Page.textLines` : the lines of a text.

## Main results

* `Page.splitOn_decodeLossy` : a body is cut where its text is cut.
* `Page.bodyLines_eq_textLines` : the lines of a body are those of its text.
* `Page.LineReader.pushAll_lines` : what is read of a body that arrives in chunks.
-/

namespace Webrev.Page

/-- The lines of a text: its pieces between the line feeds, of which the last one does not count
when nothing is in it, each without a carriage return at its end. -/
def textLines (text : List Char) : List Line :=
  let pieces := text.splitOn '\n'
  (if pieces.getLast? = some [] then pieces.dropLast else pieces).map Text.dropReturn

/-- A text has the line feeds of its octets. -/
theorem lineFeed_mem_decodeLossy_iff {octets : List UInt8} :
    '\n' ∈ Utf8.decodeLossy octets ↔ lineFeed ∈ octets := by
  constructor
  · intro h
    obtain ⟨front, back, hcut⟩ := List.append_of_mem h
    obtain ⟨before, after, rfl, -, -⟩ := Utf8.exists_of_decodeLossy_eq_cons (by decide) hcut
    exact List.mem_append_right before List.mem_cons_self
  · exact Utf8.mem_decodeLossy (by decide)

/-- A body is cut where its text is cut. -/
theorem splitOn_decodeLossy (body : List UInt8) :
    (Utf8.decodeLossy body).splitOn '\n' = (pieces body).map Utf8.decodeLossy := by
  induction hlength : body.length using Nat.strongRecOn generalizing body with
  | ind n ih =>
    by_cases hfeed : lineFeed ∈ body
    · obtain ⟨front, rest, rfl, hfront⟩ := List.eq_append_cons_of_mem hfeed
      have htext : Utf8.decodeLossy (front ++ lineFeed :: rest) =
          Utf8.decodeLossy front ++ '\n' :: Utf8.decodeLossy rest :=
        Utf8.decodeLossy_append_ascii front rest (by decide)
      have hrest : rest.length < n := by
        rw [← hlength, List.length_append, List.length_cons]
        omega
      rw [htext,
        List.splitOn_append_cons_self_of_not_mem (mt lineFeed_mem_decodeLossy_iff.mp hfront),
        ih rest.length hrest rest rfl, pieces, pieces,
        List.splitOn_append_cons_self_of_not_mem hfront, List.map_cons]
    · rw [pieces, List.splitOn_eq_singleton hfeed,
        List.splitOn_eq_singleton (mt lineFeed_mem_decodeLossy_iff.mp hfeed), List.map_singleton]

/-- A carriage return at the end is dropped from the octets of a line or from its text. -/
theorem decodeLine_eq_dropReturn (octets : List UInt8) :
    decodeLine octets = Text.dropReturn (Utf8.decodeLossy octets) := by
  unfold decodeLine Text.dropReturn
  by_cases hreturn : octets.getLast? = some carriageReturn
  · have htext : Utf8.decodeLossy octets = Utf8.decodeLossy octets.dropLast ++ ['\r'] := by
      conv_lhs => rw [← List.dropLast_append_getLast? _ hreturn]
      exact Utf8.decodeLossy_append_ascii octets.dropLast [] (by decide)
    rw [if_pos hreturn, htext, if_pos List.getLast?_concat, List.dropLast_concat]
  · have htext : (Utf8.decodeLossy octets).getLast? ≠ some '\r' := fun hlast => by
      -- What is read after the carriage return is nothing, and so is what stands after it.
      obtain ⟨before, after, rfl, -, hafter⟩ := Utf8.exists_of_decodeLossy_eq_cons (by decide)
        (List.dropLast_append_getLast? _ hlast).symm
      rw [Utf8.decodeLossy_eq_nil_iff.mp hafter, List.getLast?_concat] at hreturn
      exact hreturn rfl
    rw [if_neg hreturn, if_neg htext]

/-- The lines of a body are those of its text. -/
theorem bodyLines_eq_textLines (body : List UInt8) :
    bodyLines body = textLines (Utf8.decodeLossy body) := by
  have hne : pieces body ≠ [] := List.splitOn_ne_nil lineFeed body
  have hlast : (pieces body).getLast? = some (lastPiece body) := by
    rw [lastPiece, List.getLastD_eq_getLast?, List.getLast?_eq_some_getLast hne, Option.getD_some]
  have hlines : endedLines body =
      ((pieces body).dropLast.map Utf8.decodeLossy).map Text.dropReturn := by
    rw [endedLines, List.map_map]
    exact List.map_congr_left fun octets _ => decodeLine_eq_dropReturn octets
  simp only [textLines, splitOn_decodeLossy, List.getLast?_map, hlast, Option.map_some,
    Option.some.injEq, Utf8.decodeLossy_eq_nil_iff]
  rw [bodyLines, hlines]
  by_cases hend : lastPiece body = []
  · rw [if_pos hend, if_pos hend, List.append_nil, List.map_dropLast]
  · have hcut : pieces body = (pieces body).dropLast ++ [lastPiece body] :=
      (List.dropLast_append_getLast? _ hlast).symm
    rw [if_neg hend, if_neg hend, decodeLine_eq_dropReturn]
    conv_rhs => rw [hcut]
    simp only [List.map_append, List.map_singleton]

/-- Nothing stands after the last line feed exactly when a body is empty or ends in one. -/
theorem lastPiece_eq_nil_iff {body : List UInt8} :
    lastPiece body = [] ↔ body = [] ∨ body.getLast? = some lineFeed := by
  induction body using List.reverseRecOn with
  | nil => simp [lastPiece, pieces]
  | append_singleton front b =>
    -- The last octet is the last one that a reader takes.
    have hpending : (lastPiece (front ++ [b])).reverse =
        ((LineReader.empty.push front).2.push [b]).2.pending := by
      have hpush := LineReader.push_append .empty front [b]
      rw [LineReader.push_empty] at hpush
      exact congrArg (fun read => read.2.pending) hpush
    rw [← List.reverse_eq_nil_iff, hpending, List.getLast?_concat, Option.some.injEq]
    by_cases hb : b = lineFeed
    · simp [LineReader.push, LineReader.empty, hb]
    · simp [LineReader.push, hb]

namespace LineReader

/-- **A body is read as its text is cut.** The octets of a body have one text in which every misfit
is replaced. The lines that are completed as its chunks arrive, and then the one that nothing ended,
are the lines of that text, in whatever chunks it arrives: also when one of them ends inside a
character, or between a carriage return and its line feed. No line is left over exactly when the
body is empty or ends in a line feed. -/
theorem pushAll_lines (chunks : List (List UInt8)) :
    ∃ text, (∀ other, Utf8.IsLossyText chunks.flatten other ↔ other = text) ∧
      (empty.pushAll chunks).1.flatten ++ (empty.pushAll chunks).2.finish.toList = textLines text ∧
      ((empty.pushAll chunks).2.finish = none ↔
        chunks.flatten = [] ∨ chunks.flatten.getLast? = some lineFeed) := by
  have hread := (pushAll_flatten empty chunks).symm.trans (push_empty chunks.flatten)
  obtain ⟨hlines, hreader⟩ := Prod.mk.inj hread
  refine ⟨Utf8.decodeLossy chunks.flatten, fun _ => Utf8.isLossyText_iff, ?_, ?_⟩
  · rw [hlines, hreader, endedLines_append_finish, bodyLines_eq_textLines]
  · rw [hreader, ← lastPiece_eq_nil_iff]
    simp [finish]

example :
    ((empty.pushAll [[0xC3], [0xA9, 0x0D], [0x0A, 0xE2, 0x82]]).1,
      (empty.pushAll [[0xC3], [0xA9, 0x0D], [0x0A, 0xE2, 0x82]]).2.finish) =
      ([[], [], ["é".toList]], some "\uFFFD".toList) := by decide

end LineReader

end Webrev.Page
