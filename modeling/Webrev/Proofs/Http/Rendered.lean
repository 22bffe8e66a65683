import Webrev.Proofs.Http.Streaming
import Webrev.Proofs.Page.Rendered

/-!
# Rendered pages are read back

What is read from a rendered page is what was rendered, in whichever chunks the page arrives:
reading chunks is reading the lines of the whole page, and those up to the end of the table give the
table.

## Main results

* `Http.readHeaderFrom_rendered` : a rendered page is read back.
-/

namespace Webrev.Http

open Page

/-- Whatever follows the end of the table, and in whichever chunks the page arrives, its table is
read. -/
theorem readHeaderFrom_of_rendered (page : Rendered) (broken : Bool) {chunks : List (List UInt8)}
    (h : chunks.flatten = page.octets) :
    readHeaderFrom .empty .empty broken chunks = .ok page.header := by
  have hdone : (⟨.done, page.header⟩ : TableReader).isDone = true := rfl
  rw [readHeaderFrom_eq _ _ _ _ rfl, h, Rendered.octets, LineReader.push_sent, List.foldl_append,
    page.foldl_feed, TableReader.foldl_feed_of_isDone hdone, endOfBody, if_pos hdone]

/-- A page with carriage returns at the ends of some of its lines, octets of no text before its
table, a label twice, tags in a label and in the contents, and the beginning of another table after
its own. -/
def taggedPage : Rendered where
  preamble := [⟨[0xFF, 0x0D], .lineFeed, by decide⟩]
  opening := ⟨Utf8.encode "<table>\u00e9".toList, .returnAndLineFeed, by decide⟩
  rows := [(⟨⟨"Branch".toList, "a".toList⟩, by decide⟩, .lineFeed),
    (⟨⟨":</th><td>x<tr><th>:".toList, "</td></tr>:</th>y<td>\u00e9".toList⟩, by decide +kernel⟩,
      .returnAndLineFeed),
    (⟨⟨"Branch".toList, "b:</td>".toList⟩, by decide⟩, .returnAndLineFeed)]
  closing := ⟨Utf8.encode "</table>".toList, .lineFeed, by decide⟩
  rest := [0x0A, 0xC3] ++ Utf8.encode "<table>\n<tr><th>Branch:</th><td>c</td></tr>\n".toList
  preamble_opens := by decide
  opening_opens := by decide +kernel
  opening_hasRowEnd := by decide +kernel
  closing_closes := by decide +kernel

/-- The page in chunks, the first of which ends inside a character. -/
def taggedChunks : List (List UInt8) :=
  [taggedPage.octets.take 11, [], (taggedPage.octets.drop 11).take 100, taggedPage.octets.drop 111]

/-- **A rendered page is read back.** In whichever chunks the octets of a page arrive, and whether
or not the connection breaks after them, what is read is the table that the page was rendered from:
a label has the contents of its last row, and nothing else has contents. The same is fetched with
every successful response whose body the page is. -/
theorem readHeaderFrom_rendered (page : Rendered) {chunks : List (List UInt8)}
    (h : chunks.flatten = page.octets) :
    (∀ broken, readHeaderFrom .empty .empty broken chunks = .ok page.header) ∧
      (∀ label, page.header.get? label = page.pairs.reverse.lookup label) ∧
      ∀ agent url session response, session.Obtains agent url response →
        response.bodyChunks = chunks →
        ((fetchHeader agent url).runAt session).1 = .ok page.header := by
  refine ⟨fun broken => readHeaderFrom_of_rendered page broken h,
    Header.get?_ofList page.pairs, fun agent url session response hobtains hchunks => ?_⟩
  rw [runAt_fetchHeader_of_obtains hobtains, readHeader, hchunks,
    readHeaderFrom_of_rendered page _ h]
  rfl

theorem readHeaderFrom_rendered_of_tagged :
    readHeaderFrom .empty .empty true taggedChunks = .ok taggedPage.header ∧
      taggedPage.header.get? "Branch" = some "b:</td>" ∧
      taggedPage.header.get? ":</th><td>x<tr><th>:" = some "</td></tr>:</th>y<td>\u00e9" := by
  have hchunks : taggedChunks.flatten = taggedPage.octets := by decide +kernel
  obtain ⟨hread, hget, -⟩ := readHeaderFrom_rendered taggedPage hchunks
  refine ⟨hread true, ?_, ?_⟩
  · rw [hget]
    decide +kernel
  · rw [hget]
    decide +kernel

end Webrev.Http
