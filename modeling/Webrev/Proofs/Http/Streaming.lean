import Webrev.Proofs.Http.Retrieval
import Webrev.Proofs.Page.Lines
import Webrev.Proofs.Page.Table

/-!
# A page is read while it arrives

The table of a page is read chunk by chunk, and reading stops at the end of the table, also in the
middle of a chunk. What is read is nevertheless the table of the whole body: the state between two
chunks is what the octets before them leave of the line reader and of the table reader, and a table
reader that has not seen the end has looked at all lines so far. The chunks matter only through the
body that they make, and of a body that goes on after the table only the part up to its end.

## Main results

* `Http.readHeaderFrom_eq` : reading chunks is reading them together.
* `Http.readHeader_eq` : the table by the body.
* `Http.fetchHeader_of_obtains` : what is fetched, by the body of the response.
-/

namespace Webrev.Http

open Page

/-- The end of a table is looked for once there are no more chunks. -/
def endOfBody (lines : LineReader) (table : TableReader) (broken : Bool) :
    Except RetrievalFault Header :=
  if table.isDone then .ok table.header
  else if broken then .error .transport
  else .ok (lines.finish.toList.foldl TableReader.feed table).header

/-- Reading chunks one after the other is reading them together. -/
theorem readHeaderFrom_eq (lines : LineReader) (table : TableReader) (broken : Bool)
    (chunks : List (List UInt8)) (h : table.isDone = false) :
    readHeaderFrom lines table broken chunks =
      endOfBody (lines.push chunks.flatten).2
        ((lines.push chunks.flatten).1.foldl TableReader.feed table) broken := by
  -- Both readers change with every chunk; that the table reader is not done is kept, because
  -- reading stops when it is.
  induction chunks generalizing lines table with
  | nil =>
    rw [readHeaderFrom, List.flatten_nil, LineReader.push, List.foldl_nil, endOfBody, h]
    cases lines.finish <;> rfl
  | cons chunk chunks ih =>
    rw [readHeaderFrom, List.flatten_cons, LineReader.push_append, List.foldl_append]
    simp only [TableReader.feedUntilDone_fst]
    cases hd : ((lines.push chunk).1.foldl TableReader.feed table).isDone with
    | true => rw [if_pos rfl, TableReader.foldl_feed_of_isDone hd, endOfBody, if_pos hd]
    | false => rw [if_neg Bool.false_ne_true, ih _ _ hd]

/-- The table of a page is that of all lines of its body, unless the connection breaks before the
end of the table is among the lines that have an end. -/
theorem readHeader_eq (response : Response) :
    readHeader response =
      if response.isBroken = true ∧
          closesAmong (endedLines response.bodyChunks.flatten) = false then
        .error .transport
      else .ok (readTable (bodyLines response.bodyChunks.flatten)).1 := by
  rw [readHeader, readHeaderFrom_eq _ _ _ _ rfl, LineReader.push_empty, endOfBody]
  dsimp only
  rw [isDone_foldl_feed]
  -- The line without an end is read only when the connection does not break, and counts only when
  -- the end of the table is not among the lines before it.
  cases hc : closesAmong (endedLines response.bodyChunks.flatten) with
  | true =>
    rw [if_pos rfl, if_neg (by simp), bodyLines, readTable_of_closesAmong hc, readTable_fst]
  | false =>
    rw [if_neg Bool.false_ne_true, ← List.foldl_append, LineReader.endedLines_append_finish,
      ← readTable_fst]
    simp only [and_true]

/-- What is fetched with a successful response, by its body. -/
theorem fetchHeader_fst_of_obtains {agent : String} {url : Url} {session : Session}
    {response : Response} (h : session.Obtains agent url response) :
    ((fetchHeader agent url).runAt session).1 =
      if response.isBroken = true ∧
          closesAmong (endedLines response.bodyChunks.flatten) = false then
        .error (.retrieval url.text .transport)
      else .ok (readTable (bodyLines response.bodyChunks.flatten)).1 := by
  rw [runAt_fetchHeader_of_obtains h, readHeader_eq]
  split <;> rfl

/-- A page whose chunks end between a carriage return and its line feed and inside a character, and
whose connection breaks after the table. -/
def brokenPage : Response where
  status := ⟨200⟩
  chunks := [Utf8.encode "<table>\r".toList,
    Utf8.encode "\n<tr><th>Branch:</th><td>".toList ++ [0xC3], [],
    0xA9 :: Utf8.encode "</td></tr>\n</table>\n<tr>".toList]
  location := none
  truncated := true

/-- A network with the page. -/
def brokenSession : Session := ⟨⟨true, [brokenPage], []⟩, ⟨"/tmp", true, [], 0, []⟩, []⟩

/-- Where the page is. -/
def brokenUrl : Url := ⟨"http", some ⟨"", "", .domain "h", none⟩, "/w/", none, none⟩

/-- **A page that arrives in chunks is read as a whole.** What is fetched with a successful response
is the table of all lines of the body; only when the connection breaks, and the end of the table is
not among the lines that have an end, it is a failure. Responses with the same body give the same,
in whichever chunks it arrives. Of a body in which the table ends, what comes after its end does not
count, nor whether the connection breaks there. -/
theorem fetchHeader_of_obtains {agent : String} {url : Url} {session : Session}
    {response : Response} (h : session.Obtains agent url response) :
    ((fetchHeader agent url).runAt session).1 =
        (if response.isBroken = true ∧
            closesAmong (endedLines response.bodyChunks.flatten) = false then
          .error (.retrieval url.text .transport)
        else .ok (readTable (bodyLines response.bodyChunks.flatten)).1) ∧
      (∀ session' response', session'.Obtains agent url response' →
        response'.bodyChunks.flatten = response.bodyChunks.flatten →
        response'.isBroken = response.isBroken →
        ((fetchHeader agent url).runAt session').1 = ((fetchHeader agent url).runAt session).1) ∧
      ∀ front rest, response.bodyChunks.flatten = front ++ rest →
        closesAmong (endedLines front) = true →
        ((fetchHeader agent url).runAt session).1 = .ok (readTable (endedLines front)).1 := by
  have hfetch := fetchHeader_fst_of_obtains h
  refine ⟨hfetch, fun session' response' h' hbody hbroken => ?_, fun front rest hbody hclosed => ?_⟩
  · rw [hfetch, fetchHeader_fst_of_obtains h', hbody, hbroken]
  · obtain ⟨more, hmore⟩ := endedLines_prefix_append front rest
    rw [← hbody] at hmore
    rw [hfetch, ← hmore, closesAmong_append hclosed, if_neg (by simp), bodyLines, ← hmore,
      List.append_assoc, readTable_of_closesAmong hclosed]

theorem fetchHeader_of_broken :
    ((fetchHeader "agent" brokenUrl).runAt brokenSession).1 =
      .ok (Header.ofList [("Branch", "\u00e9")]) := by
  have hobtains : brokenSession.Obtains "agent" brokenUrl brokenPage :=
    ⟨by decide +kernel, by decide⟩
  have hclosed : ¬(brokenPage.isBroken = true ∧
      closesAmong (endedLines brokenPage.bodyChunks.flatten) = false) := by decide +kernel
  have htable : (readTable (bodyLines brokenPage.bodyChunks.flatten)).1 =
      Header.ofList [("Branch", "\u00e9")] := by decide +kernel
  rw [(fetchHeader_of_obtains hobtains).1, if_neg hclosed, htable]

end Webrev.Http
