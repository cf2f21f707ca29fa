import LinkRegistry.Wire.Part

/-!
# Messages

**Input.** JSON values that are requests, answers, or parts of them.

**Rule.** Each kind of message has a payload type, a reading and a printed form.  Requests
and answers are objects whose fields are parts; options and notes that are left out
have their defaults, and options that are given have to be objects.
-/

namespace LinkRegistry
namespace Wire

/-- Ask for a link. -/
structure FetchRequest where
  id : String
  options : PageOptions
  deriving DecidableEq

namespace FetchRequest

/-- Read a request for a link. -/
def read : Json → Reading FetchRequest :=
  object fun j =>
    Reading.of FetchRequest.mk
      |> Reading.arg (required "connection_id" text j)
      |> Reading.arg (optional "query_options" PageOptions.all PageOptions.read j)

/-- Print a request for a link. -/
def write (r : FetchRequest) : Json :=
  .object [("connection_id", .text r.id), ("query_options", r.options.write)]

end FetchRequest

/-- Answer with a link. -/
structure LinkAnswer where
  link : LinkBody
  note : Note
  deriving DecidableEq

namespace LinkAnswer

/-- Read an answer with a link. -/
def read : Json → Reading LinkAnswer :=
  object fun j =>
    Reading.of LinkAnswer.mk
      |> Reading.arg (required "connection" LinkBody.read j)
      |> Reading.arg (optional "meta" Note.initial Note.read j)

/-- Print an answer with a link. -/
def write (a : LinkAnswer) : Json :=
  .object [("connection", a.link.write), ("meta", a.note.write)]

end LinkAnswer

/-- Ask to store a link. -/
structure UpsertRequest where
  link : LinkBody
  options : WriteOptions
  deriving DecidableEq

namespace UpsertRequest

/-- Read a request to store a link. -/
def read : Json → Reading UpsertRequest :=
  object fun j =>
    Reading.of UpsertRequest.mk
      |> Reading.arg (required "connection" LinkBody.read j)
      |> Reading.arg (optional "write_options" {} WriteOptions.read j)

/-- Print a request to store a link. -/
def write (r : UpsertRequest) : Json :=
  .object [("connection", r.link.write), ("write_options", r.options.write)]

end UpsertRequest

/-- Ask to delete links. -/
structure DeleteRequest where
  ids : List String
  options : WriteOptions
  deriving DecidableEq

namespace DeleteRequest

/-- Read a request to delete links. -/
def read : Json → Reading DeleteRequest :=
  object fun j =>
    Reading.of DeleteRequest.mk
      |> Reading.arg (required "connection_ids" (nonemptyArray text) j)
      |> Reading.arg (optional "write_options" {} WriteOptions.read j)

/-- Print a request to delete links. -/
def write (r : DeleteRequest) : Json :=
  .object [("connection_ids", Json.texts r.ids), ("write_options", r.options.write)]

end DeleteRequest

/-- Ask for a listing. -/
structure ListRequest where
  interface : Option String
  node : Option String
  network : Option String
  options : PageOptions
  deriving DecidableEq

namespace ListRequest

/-- Read a request for a listing. -/
def read : Json → Reading ListRequest :=
  object fun j =>
    Reading.of ListRequest.mk
      |> Reading.arg (optional "interface_id" none (nullable text) j)
      |> Reading.arg (optional "node_id" none (nullable text) j)
      |> Reading.arg (optional "network_id" none (nullable text) j)
      |> Reading.arg (optional "query_options" PageOptions.all PageOptions.read j)

/-- Print a request for a listing. -/
def write (r : ListRequest) : Json :=
  .object [("interface_id", Json.orNull .text r.interface),
    ("node_id", Json.orNull .text r.node), ("network_id", Json.orNull .text r.network),
    ("query_options", r.options.write)]

end ListRequest

/-- Answer with a page of a listing. -/
structure ListAnswer where
  items : List Summary
  next : Option String
  note : Note
  deriving DecidableEq

namespace ListAnswer

/-- Read an answer with a page. -/
def read : Json → Reading ListAnswer :=
  object fun j =>
    Reading.of ListAnswer.mk
      |> Reading.arg (optional "items" [] (array Summary.ofWire) j)
      |> Reading.arg (optional "next_token" none (nullable text) j)
      |> Reading.arg (optional "meta" Note.initial Note.read j)

/-- Print an answer with a page. -/
def write (a : ListAnswer) : Json :=
  .object [("items", .array (a.items.map Summary.toWire)),
    ("next_token", Json.orNull .text a.next), ("meta", a.note.write)]

end ListAnswer

/-- Ask to allow a range at both ends of a link. -/
structure AllowRequest where
  ip : String
  options : WriteOptions
  deriving DecidableEq

namespace AllowRequest

/-- Read a request to allow a range. -/
def read : Json → Reading AllowRequest :=
  object fun j =>
    Reading.of AllowRequest.mk
      |> Reading.arg (required "ip" nonemptyText j)
      |> Reading.arg (optional "write_options" {} WriteOptions.read j)

/-- Print a request to allow a range. -/
def write (r : AllowRequest) : Json :=
  .object [("ip", .text r.ip), ("write_options", r.options.write)]

end AllowRequest

/-- The kinds of messages and parts. -/
inductive Message where
  | pageOptions
  | writeOptions
  | note
  | routing
  | peer
  | link
  | summary
  | fetchRequest
  | linkAnswer
  | upsertRequest
  | deleteRequest
  | listRequest
  | listAnswer
  | allowRequest
  deriving DecidableEq

namespace Message

/-- What a message of the kind carries. -/
def Payload : Message → Type
  | pageOptions => PageOptions
  | writeOptions => WriteOptions
  | note => Note
  | routing => Routing
  | peer => Peer
  | link => LinkBody
  | summary => Summary
  | fetchRequest => FetchRequest
  | linkAnswer => LinkAnswer
  | upsertRequest => UpsertRequest
  | deleteRequest => DeleteRequest
  | listRequest => ListRequest
  | listAnswer => ListAnswer
  | allowRequest => AllowRequest

/-- Read a message of the kind. -/
def read : (k : Message) → Json → Reading k.Payload
  | pageOptions => PageOptions.read
  | writeOptions => WriteOptions.read
  | note => Note.read
  | routing => Routing.ofWire
  | peer => Peer.ofWire
  | link => LinkBody.read
  | summary => Summary.ofWire
  | fetchRequest => FetchRequest.read
  | linkAnswer => LinkAnswer.read
  | upsertRequest => UpsertRequest.read
  | deleteRequest => DeleteRequest.read
  | listRequest => ListRequest.read
  | listAnswer => ListAnswer.read
  | allowRequest => AllowRequest.read

/-- Print a message of the kind. -/
def write : (k : Message) → k.Payload → Json
  | pageOptions => PageOptions.write
  | writeOptions => WriteOptions.write
  | note => Note.write
  | routing => Routing.toRecord
  | peer => Peer.toRecord
  | link => LinkBody.write
  | summary => Summary.toWire
  | fetchRequest => FetchRequest.write
  | linkAnswer => LinkAnswer.write
  | upsertRequest => UpsertRequest.write
  | deleteRequest => DeleteRequest.write
  | listRequest => ListRequest.write
  | listAnswer => ListAnswer.write
  | allowRequest => AllowRequest.write

/-- The printed form of what is read. -/
def normalize (k : Message) (j : Json) : Reading Json :=
  (k.read j).map k.write

end Message
end Wire
end LinkRegistry
