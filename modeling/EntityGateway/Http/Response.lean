import EntityGateway.Json.Basic
import EntityGateway.Error
import EntityGateway.Sorted
import EntityGateway.Service.Lookup

/-!
# Responses

Every answer of the gateway is an envelope: on success the data, the request's metadata, a
link to the request itself and, when asked for, the engine's raw payload; on failure the error
(with the engine's code when the engine failed), the link and the metadata, with the status
the error calls for. The metadata names the server and its versions, the request's method and
status, and the timers the request ran: `overall` always, `enqueued` and `engine` once a
request reached the engine pool, `refresh` while the pool was refreshed.

An unknown route or a method a route does not take is answered with an empty body, and a path
segment that is not UTF-8 with a line of plain text.
-/

namespace EntityGateway

/-- The server's name in every envelope. -/
def serverName : String := "resolution-gateway"

/-- The server's version. -/
def serverVersion : String := "0.1.0"

/-- The version of the interface the server offers. -/
def restApiVersion : String := "3.0"

/-- A timer a request can run. -/
inductive Timer where
  | overall
  | enqueued
  | engine
  | refresh
  deriving DecidableEq, Repr

/-- The timer's name. -/
def Timer.name : Timer → String
  | .overall => "overall"
  | .enqueued => "enqueued"
  | .engine => "engine"
  | .refresh => "refresh"

/-- The body of a response: a JSON value, or plain text. -/
inductive ResponseBody where
  | json (value : Json)
  | text (content : String)
  deriving Repr

/-- A response: a status and a body. -/
structure HttpResponse where
  status : Nat
  body : ResponseBody
  deriving Repr

/-- What a successful request shows: its data and, when asked for, the engine's raw payload. -/
structure Shown where
  data : Json
  raw : Option Json := none

/-- An answer presented through a rendering of its data, with its raw payload when asked for. -/
def Answer.present (withRaw : Bool) (render : α → Json) (a : Answer α) : Shown :=
  ⟨render a.data, if withRaw then some a.raw else none⟩

/-- The request a response answers, as the envelope reports it. -/
structure RequestInfo where
  method : String
  target : String

namespace RequestInfo

/-- The metadata of a response with a status, after running some timers. -/
def metadata (r : RequestInfo) (status : Nat) (timers : List Timer) : Json :=
  let names := timers.foldl (fun acc t => insertAscending t.name acc) []
  Json.obj [("server", .string serverName), ("httpMethod", .string r.method),
    ("httpStatusCode", Json.nat status), ("version", .string serverVersion),
    ("restApiVersion", .string restApiVersion), ("timings", Json.strings names)]

/-- The link to the request itself. -/
def links (r : RequestInfo) : Json := Json.obj [("self", .string r.target)]

/-- The envelope of a request's outcome. -/
def respond (r : RequestInfo) (timers : List Timer) : Except GatewayError Shown → HttpResponse
  | .ok s =>
    ⟨200, .json (Json.objOf [some ("data", s.data), some ("meta", r.metadata 200 timers),
      some ("links", r.links), s.raw.map ("rawData", ·)])⟩
  | .error e =>
    let detail := Json.objOf [e.engineCode?.map (("code", Json.int ·)), some ("message", .string e.message)]
    ⟨e.status, .json (Json.obj [("meta", r.metadata e.status timers), ("links", r.links),
      ("errors", .array [detail])])⟩

end RequestInfo

end EntityGateway
