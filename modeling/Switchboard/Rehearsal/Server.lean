import Switchboard.Stream.Reader
import Switchboard.Transport.Request

set_option autoImplicit false

namespace Switchboard.Rehearsal

/-- A reply, and how long it is on its way, in milliseconds. -/
structure Reply where
  delay : Nat
  result : Except TransportError Json

/-- The reply to a request that nothing is written down for. -/
def Reply.success : Reply := ⟨0, .ok (.ofMembers [("code", .int 0), ("msg", .str "success")])⟩

/-- The number of a feed, in the order of making. -/
abbrev FeedId := Nat

/-- A server whose answers are written down beforehand: for each path the replies in their order,
and the streams that are handed out one after the other. -/
structure Server where
  replies : List (String × Reply)
  streams : List (Except TransportError FeedId)

namespace Server

def addReply (server : Server) (path : String) (reply : Reply) : Server :=
  { server with replies := server.replies ++ [(path, reply)] }

/-- Writes down what one more opening of a stream gives. -/
def addStream (server : Server) (stream : Except TransportError FeedId) : Server :=
  { server with streams := server.streams ++ [stream] }

def takeReply (server : Server) (path : String) : Reply × Server :=
  match server.replies.find? fun entry => entry.1 = path with
  | none => (.success, server)
  | some entry =>
    (entry.2, { server with replies := server.replies.eraseP fun other => other.1 = path })

def takeStream (server : Server) (path : String) : Except TransportError FeedId × Server :=
  match server.streams with
  | [] => (.error (.connectionFailed path "no stream queued"), server)
  | stream :: rest => (stream, { server with streams := rest })

end Server

/-- What went to the server. -/
inductive Traffic where
  | request (request : Request)
  /-- The opening of a stream. -/
  | opening (path : String) (query : List (String × String))

/-- The far end of a stream. What is put in is read in the same order. -/
structure Feed where
  name : Option String
  /-- What was put in and not read yet. -/
  pending : List ReaderSignal
  /-- Nothing more will be put in. -/
  ended : Bool
  /-- Nothing more will be read. -/
  abandoned : Bool
  /-- The stream was closed by its reader. -/
  closed : Bool

namespace Feed

def ofName (name : Option String) : Feed := ⟨name, [], false, false, false⟩

/-- Puts something in; tells whether it can still be read. -/
def offer (feed : Feed) (signal : ReaderSignal) : Bool × Feed :=
  if feed.ended || feed.abandoned then (false, feed)
  else (true, { feed with pending := feed.pending ++ [signal] })

def next? (feed : Feed) : Option ReaderSignal :=
  match feed.pending with
  | signal :: _ => some signal
  | [] => if feed.ended then some .ended else none

def advance (feed : Feed) : Feed := { feed with pending := feed.pending.tail }

end Feed
end Switchboard.Rehearsal
