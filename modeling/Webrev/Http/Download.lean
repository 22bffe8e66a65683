import Webrev.Client
import Webrev.Http.Network
import Webrev.Page.Table

/-!
# Downloads

A client that asks a network. The table of an index page is read while the body arrives; what comes
after the table is not waited for. A patch is written to a file while the body arrives, and counts
only when its body is complete and stored; else the file is removed.

## Main definitions

* `Http.readHeader` : the table of a page that arrives in chunks.
* `Http.writeBody` : the body of a response in a file.
* `Http.Session` : a network, the temporary files, and what was asked for.
* `Http.client` : the client with a name.
* `Http.client?` : the client with a name that can be sent.
-/

namespace Webrev.Http

/-- The table of a page, part of which has been read, when the rest arrives in chunks. When the
connection breaks before the end of the table is seen, there is none. -/
def readHeaderFrom (lines : Page.LineReader) (table : Page.TableReader) (broken : Bool) :
    List (List UInt8) → Except RetrievalFault Page.Header
  | [] =>
    if broken then .error .transport
    else
      match lines.finish with
      | some line => .ok (table.feed line).header
      | none => .ok table.header
  | chunk :: rest =>
    let (complete, lines) := lines.push chunk
    let (table, _) := table.feedUntilDone complete
    if table.isDone then .ok table.header else readHeaderFrom lines table broken rest

/-- The table of a page. -/
def readHeader (response : Response) : Except RetrievalFault Page.Header :=
  readHeaderFrom .empty .empty response.isBroken response.bodyChunks

/-- What a client asked for. -/
inductive Visit where
  | header (url : Url)
  | patch (url : Url)
  deriving DecidableEq, Repr

/-- A network, the temporary files, and what was asked for. -/
structure Session where
  network : Network
  spool : Spool
  visits : List Visit
  deriving DecidableEq, Repr

/-- The successful response to a request. -/
def fetch (agent : String) (url : Url) : Attempt Session RetrievalFault Response :=
  ExceptT.mk fun session =>
    let (response, network) := session.network.get agent url
    (match response with
      | none => .error .transport
      | some response =>
        if response.status.isSuccess then .ok response else .error (.status response.status),
      { session with network })

/-- The table of the page at a URL. -/
def fetchHeader (agent : String) (url : Url) : Attempt Session AccessError Page.Header := do
  modify fun session => { session with visits := session.visits ++ [.header url] }
  Attempt.mapError (.retrieval url.text) do
    let response ← fetch agent url
    Attempt.ofExcept (readHeader response)

/-! ### Files -/

/-- A fresh file. -/
def createFile : Attempt Spool RetrievalFault String :=
  ExceptT.mk fun spool =>
    match spool.create with
    | some (path, spool) => (.ok path, spool)
    | none => (.error .storage, spool)

/-- A request to the device, which has to be carried out. -/
def storing (request : Spool → Bool × Spool) : Attempt Spool RetrievalFault Unit :=
  ExceptT.mk fun spool =>
    let (done, spool) := request spool
    (if done then .ok () else .error .storage, spool)

/-- The chunks of a body, each of which is written at the end of a file when it is there. That the
connection breaks is found out when the next chunk is waited for. -/
def writeChunks (path : String) (broken : Bool) :
    List (List UInt8) → Attempt Spool RetrievalFault Unit
  | [] => if broken then throw .transport else return ()
  | chunk :: rest => do
    storing (·.write path chunk)
    writeChunks path broken rest

/-- A step on a file, which is removed when the step fails. -/
def removingOnFailure {α : Type} (path : String) (step : Attempt Spool RetrievalFault α) :
    Attempt Spool RetrievalFault α :=
  tryCatch step fun fault => do
    modify (·.remove path)
    throw fault

/-- The file at a path, once what was written to it is stored. -/
def finishFile (path : String) : Attempt Spool RetrievalFault PatchFile := do
  storing Spool.flush
  return (← get).fileAt path

/-- The body of a response in the file at a path. -/
def fillFile (response : Response) (path : String) : Attempt Spool RetrievalFault PatchFile := do
  writeChunks path response.isBroken response.bodyChunks
  finishFile path

/-- The body of a response in a fresh file. -/
def writeBody (response : Response) : Attempt Spool RetrievalFault PatchFile := do
  let path ← createFile
  removingOnFailure path (fillFile response path)

/-- The body of a response in a fresh file of a session. -/
def store (response : Response) : Attempt Session RetrievalFault PatchFile :=
  (writeBody response).zoom Session.spool fun spool session => { session with spool }

/-! ### Clients -/

/-- The patch at a URL. -/
def fetchPatch (agent : String) (url : Url) : Attempt Session AccessError PatchFile := do
  modify fun session => { session with visits := session.visits ++ [.patch url] }
  Attempt.mapError (.retrieval url.text) do
    let response ← fetch agent url
    store response

/-- An octet that the name of a client may hold. -/
def isAgentOctet (b : UInt8) : Bool := (0x20 ≤ b && b != 0x7F) || b == 0x09

/-- The client with a name. -/
def client (agent : String) : Client Session where
  fetchHeader := fetchHeader agent
  fetchPatch := fetchPatch agent
  release file := fun session => ((), { session with spool := session.spool.remove file.path })

/-- The client with a name, if the name can be sent. -/
def client? (agent : String) : Except AccessError (Client Session) :=
  if (Utf8.encode agent.toList).all isAgentOctet then .ok (client agent) else .error .client

end Webrev.Http
