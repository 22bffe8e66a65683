/-!
# Lines of a text

A text is a sequence of lines, each ended by a line feed or by a carriage return and a line feed.
The end mark of the last line may be missing; a carriage return alone ends no line.

## Main definitions

* `Text.lines` : the lines of a text, without their end marks.

## Main results

* `Text.lines_append_lineFeed` : the first line of a text that ends in a line feed is read off.
-/

namespace Webrev.Text

/-- A line without the carriage return at its end. -/
def dropReturn (line : List Char) : List Char :=
  if line.getLast? = some '\r' then line.dropLast else line

/-- The lines of a text, the characters of the unfinished line being `pending`, last one first. -/
def linesFrom (pending : List Char) : List Char → List (List Char)
  | [] => if pending.isEmpty then [] else [pending.reverse]
  | c :: rest =>
    if c = '\n' then dropReturn pending.reverse :: linesFrom [] rest
    else linesFrom (c :: pending) rest

/-- The lines of a text, without their end marks. -/
def lines (text : List Char) : List (List Char) := linesFrom [] text

theorem linesFrom_append_lineFeed (pending line rest : List Char) (h : '\n' ∉ line) :
    linesFrom pending (line ++ '\n' :: rest) =
      dropReturn (pending.reverse ++ line) :: linesFrom [] rest := by
  induction line generalizing pending with
  | nil => simp [linesFrom]
  | cons c line ih =>
    have hc : c ≠ '\n' := fun e => h (by simp [e])
    rw [List.cons_append, linesFrom, if_neg hc, ih _ fun hm => h (List.mem_cons_of_mem _ hm)]
    simp

/-- The first line of a text that ends in a line feed is read off. -/
theorem lines_append_lineFeed {line : List Char} (rest : List Char) (h : '\n' ∉ line) :
    lines (line ++ '\n' :: rest) = dropReturn line :: lines rest := by
  simpa [lines] using linesFrom_append_lineFeed [] line rest h

end Webrev.Text
