import Webrev.Http.Status
import Webrev.Url.Parse

/-!
# Requests and responses

A network answers requests one after the other, as long as it has answers. A response that says that
the resource is elsewhere is followed, ten times at most.

## Main definitions

* `Http.Response` : a response, its body in the chunks in which it arrives.
* `Http.Network` : the answers to come, and the requests that were made.
* `Http.Network.ask` : one request.
* `Http.Network.get` : the final response to a request.
-/

namespace Webrev.Http

/-- A response. When it is truncated, the connection breaks after the body, if there is one. -/
structure Response where
  status : Status
  chunks : List (List UInt8)
  location : Option String
  truncated : Bool
  deriving DecidableEq, Repr

/-- The chunks in which the body of a response arrives. -/
def Response.bodyChunks (response : Response) : List (List UInt8) :=
  if response.status.isBodiless then [] else response.chunks

/-- The connection breaks before a reader knows that the body is complete. -/
def Response.isBroken (response : Response) : Bool :=
  response.truncated && !response.status.isBodiless

/-- A request as it reaches the server: what is asked for, and by whom. -/
structure Request where
  url : Url
  agent : String
  deriving DecidableEq, Repr

/-- What a server is asked for: neither the fragment nor who asks is part of it. -/
def target (url : Url) : Url :=
  { url with
    fragment := none
    authority := url.authority.map fun a => { a with username := "", password := "" } }

/-- The answers to come, and the requests that were made. Of a network that cannot be reached no
request gets an answer. -/
structure Network where
  reachable : Bool
  responses : List Response
  wire : List Request
  deriving DecidableEq, Repr

/-- The schemes of the URLs that a request can be made for, over a plain connection or over a
secured one. -/
def schemes : List String := ["http", "https"]

namespace Network

/-- One request. It has no answer when the connection fails, and is not made for a URL with another
scheme. -/
def ask (network : Network) (agent : String) (url : Url) : Option Response × Network :=
  if network.reachable && schemes.contains url.scheme then
    let wire := network.wire ++ [⟨target url, agent⟩]
    match network.responses with
    | [] => (none, { network with wire })
    | response :: rest => (some response, { network with responses := rest, wire })
  else (none, network)

/-- Where the resource at `url` is, when a response says that it is elsewhere. -/
def redirect? (url : Url) (response : Response) : Option Url :=
  if response.status.isRedirect then
    response.location.bind fun location => (url.join location).toOption
  else none

/-- The final response to a request, of which so many redirections are followed. -/
def follow (agent : String) : Nat → Network → Url → Option Response × Network
  | 0, network, url =>
    match network.ask agent url with
    | (some response, network) =>
      (if (redirect? url response).isSome then none else some response, network)
    | (none, network) => (none, network)
  | redirections + 1, network, url =>
    match network.ask agent url with
    | (some response, network) =>
      match redirect? url response with
      | some next => follow agent redirections network next
      | none => (some response, network)
    | (none, network) => (none, network)

/-- The number of redirections that are followed. -/
def redirectionLimit : Nat := 10

/-- The final response to a request. -/
def get (network : Network) (agent : String) (url : Url) : Option Response × Network :=
  follow agent redirectionLimit network url

end Network

end Webrev.Http
