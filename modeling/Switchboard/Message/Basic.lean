import Switchboard.Message.Segment

set_option autoImplicit false

namespace Switchboard

/-- Appends a segment to a list of segments; text continues text. -/
def appendSegment (segments : List Segment) (segment : Segment) : List Segment :=
  match segments, segment with
  | [], segment => [segment]
  | [.plain before], .plain text => [.plain (before ++ text)]
  | [last], segment => [last, segment]
  | first :: next :: rest, segment => first :: appendSegment (next :: rest) segment

/-- A message: segments of which no two plain ones follow each other. A plain segment that is
appended to another one continues its text. -/
structure Message where
  segments : List Segment

namespace Message

def empty : Message := ⟨[]⟩

def push (message : Message) (segment : Segment) : Message :=
  ⟨appendSegment message.segments segment⟩

def extend (message : Message) (segments : List Segment) : Message :=
  segments.foldl push message

def ofSegments (segments : List Segment) : Message := empty.extend segments

def ofText (text : String) : Message := empty.push (.plain text)

def plain (message : Message) (text : String) : Message := message.push (.plain text)

def mention (message : Message) (target : UserId) : Message := message.push (.mentionOf target)

def mentionAll (message : Message) : Message := message.push .mentionAll

def image (message : Message) (ref : ImageRef) : Message := message.push (.image ref)

def plainText (message : Message) : String :=
  String.join (message.segments.filterMap Segment.text?)

def decode : Shape.Decoder Message := fun value =>
  (Shape.list Segment.decode value).map ofSegments

def encode (message : Message) : Json := .array (Segment.encodeAll message.segments)

end Message

/-- The identity of a received message. -/
structure MessageSource where
  id : MessageId
  time : Int
deriving DecidableEq

/-- A message without an identity has the number 0. -/
def MessageSource.absent : MessageSource := ⟨⟨0⟩, 0⟩

/-- The message that another one quotes. -/
structure QuotedMessage where
  id : MessageId
  groupId : GroupId
  senderId : UserId
  targetId : Int
  origin : Message

/-- A chain split into its identity, the message it quotes, and its content. Of several identities
or quotes the last counts. -/
structure ReceivedMessage where
  source : MessageSource
  quote : Option QuotedMessage
  content : Message

namespace ReceivedMessage

def empty : ReceivedMessage := ⟨.absent, none, .empty⟩

def receive (message : ReceivedMessage) : Segment → ReceivedMessage
  | .source id time => { message with source := ⟨id, time⟩ }
  | .quote id groupId senderId targetId origin =>
    { message with quote := some ⟨id, groupId, senderId, targetId, .ofSegments origin⟩ }
  | segment => { message with content := message.content.push segment }

def ofMessage (chain : Message) : ReceivedMessage :=
  chain.segments.foldl receive empty

def decode : Shape.Decoder ReceivedMessage := fun value =>
  (Message.decode value).map ofMessage

def plainText (message : ReceivedMessage) : String := message.content.plainText

end ReceivedMessage
end Switchboard
