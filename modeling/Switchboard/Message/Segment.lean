import Switchboard.Contact.Basic

set_option autoImplicit false

namespace Switchboard

/-- A reference to an image: the number the server gave it, an address, or a path. -/
structure ImageRef where
  imageId : Option String
  url : Option String
  path : Option String
deriving DecidableEq

/-- One element of a message chain. -/
inductive Segment where
  /-- The identity of a received message. -/
  | source (id : MessageId) (time : Int)
  | quote (id : MessageId) (groupId : GroupId) (senderId : UserId) (targetId : Int)
      (origin : List Segment)
  | mention (target : UserId) (display : String)
  | mentionAll
  | face (faceId : Option Int) (name : Option String)
  | plain (text : String)
  | image (ref : ImageRef)
  | flashImage (ref : ImageRef)
  | voice (voiceId url path : Option String)
  | xml (content : String)
  | json (content : String)
  | app (content : String)
  | poke (name : String)
  /-- A segment of a kind that is not modelled. -/
  | unknown

namespace ImageRef

def none : ImageRef := ⟨.none, .none, .none⟩

def ofId (id : String) : ImageRef := ⟨some id, .none, .none⟩

def ofUrl (url : String) : ImageRef := ⟨.none, some url, .none⟩

def fields : Shape.Fields ImageRef :=
  ImageRef.mk <$> .optional "imageId" Shape.text <*> .optional "url" Shape.text <*>
    .optional "path" Shape.text

def decode (medium : Shape.Medium) : Shape.Decoder ImageRef :=
  Shape.record medium "struct ImageRef" fields

def members (image : ImageRef) : List (String × Option Json) :=
  [("imageId", image.imageId.map .str), ("url", image.url.map .str), ("path", image.path.map .str)]

def encode (image : ImageRef) : Json := .ofPresent image.members

end ImageRef

namespace Segment

/-- The kinds of segments. -/
inductive Tag where
  | source | quote | mention | mentionAll | face | plain | image | flashImage | voice | xml | json
  | app | poke | unknown
deriving DecidableEq

/-- The kinds in the order of their numbers, with their names on the wire. -/
def Tag.names : List (String × Tag) :=
  [("Source", .source), ("Quote", .quote), ("At", .mention), ("AtAll", .mentionAll),
    ("Face", .face), ("Plain", .plain), ("Image", .image), ("FlashImage", .flashImage),
    ("Voice", .voice), ("Xml", .xml), ("Json", .json), ("App", .app), ("Poke", .poke),
    ("Unknown", .unknown)]

def Tag.ofName (name : String) : Tag :=
  match Tag.names.find? fun entry => entry.1 = name with
  | some entry => entry.2
  | none => .unknown

/-- The kind of a number. -/
def Tag.ofIndex (index : Nat) : Tag :=
  match Tag.names[index]? with
  | some entry => entry.2
  | none => .unknown

def Tag.name : Tag → String
  | .source => "Source"
  | .quote => "Quote"
  | .mention => "At"
  | .mentionAll => "AtAll"
  | .face => "Face"
  | .plain => "Plain"
  | .image => "Image"
  | .flashImage => "FlashImage"
  | .voice => "Voice"
  | .xml => "Xml"
  | .json => "Json"
  | .app => "App"
  | .poke => "Poke"
  | .unknown => "Unknown"

/-- The name of a kind, or its number in data that was set aside. -/
def Tag.decode (medium : Shape.Medium) : Shape.Decoder Tag
  | .str name => .ok (Tag.ofName name)
  | .int index =>
    if medium = .buffered ∧ 0 ≤ index then .ok (Tag.ofIndex index.toNat)
    else Shape.mismatch (.int index) "variant identifier"
  | other => Shape.mismatch other "variant identifier"

def Tag.title (tag : Tag) : String := "struct variant Segment::" ++ tag.name

/-- A segment of a given kind whose fields are in the object or array `body`. -/
def ofBody (decodeOrigin : Shape.Decoder (List Segment)) (tag : Tag) (body : Json) :
    Except Shape.Fault Segment :=
  let fields (shape : Shape.Fields Segment) := Shape.record .buffered tag.title shape body
  match tag with
  | .source =>
    fields (Segment.source <$> .required "id" MessageId.decode <*> .required "time" Shape.int64)
  | .quote =>
    fields (Segment.quote <$> .required "id" MessageId.decode <*>
      .defaulted "groupId" ⟨0⟩ GroupId.decode <*> .required "senderId" UserId.decode <*>
      .defaulted "targetId" 0 Shape.int64 <*> .defaulted "origin" [] decodeOrigin)
  | .mention =>
    fields (Segment.mention <$> .required "target" UserId.decode <*>
      .defaulted "display" "" Shape.text)
  | .mentionAll =>
    match body with
    | .array (item :: items) => .error (.here
        (.wrongLength (item :: items).length (Shape.elements 0 ++ " in sequence")))
    | _ => .ok .mentionAll
  | .face =>
    fields (Segment.face <$> .optional "faceId" Shape.int32 <*> .optional "name" Shape.text)
  | .plain => fields (Segment.plain <$> .required "text" Shape.text)
  | .image => Segment.image <$> ImageRef.decode .buffered body
  | .flashImage => Segment.flashImage <$> ImageRef.decode .buffered body
  | .voice =>
    fields (Segment.voice <$> .optional "voiceId" Shape.text <*> .optional "url" Shape.text <*>
      .optional "path" Shape.text)
  | .xml => fields (Segment.xml <$> .required "xml" Shape.text)
  | .json => fields (Segment.json <$> .required "json" Shape.text)
  | .app => fields (Segment.app <$> .required "content" Shape.text)
  | .poke => fields (Segment.poke <$> .required "name" Shape.text)
  | .unknown =>
    match body with
    | .array (item :: items) => .error (.here
        (.wrongLength (item :: items).length (Shape.elements 0 ++ " in sequence")))
    | _ => .ok .unknown

/-- A segment in data that nests at most `depth` segments. -/
def decodeWithin : Nat → Shape.Medium → Shape.Decoder Segment
  | 0, _, value => Shape.mismatch value "internally tagged enum Segment"
  | depth + 1, medium, value =>
    let origin := Shape.list (decodeWithin depth .buffered)
    match value with
    | .object members =>
      match Json.lookup "type" members with
      | none => .error (.here (.missingField "type"))
      | some tag => do ofBody origin (← Tag.decode medium tag) (.object members)
    | .array [] => .error (.here (.missingField "type"))
    | .array (tag :: items) => do ofBody origin (← Tag.decode medium tag) (.array items)
    | other => Shape.mismatch other "internally tagged enum Segment"

end Segment

mutual

def Json.depth : Json → Nat
  | .array items => Json.depthOfItems items + 1
  | .object members => Json.depthOfMembers members + 1
  | _ => 0

def Json.depthOfItems : List Json → Nat
  | [] => 0
  | item :: items => max item.depth (Json.depthOfItems items)

def Json.depthOfMembers : List (String × Json) → Nat
  | [] => 0
  | (_, value) :: members => max value.depth (Json.depthOfMembers members)

end

namespace Segment

/-- A segment. Segments cannot nest deeper than the data. -/
def decode : Shape.Decoder Segment := fun value => decodeWithin (value.depth + 1) .document value

mutual

/-- The object that a segment is on the wire. Options that are not set are left out. -/
def encode : Segment → Json
  | .source id time =>
    .ofMembers [("type", .str "Source"), ("id", id.encode), ("time", .int time)]
  | .quote id groupId senderId targetId origin =>
    .ofMembers [("type", .str "Quote"), ("id", id.encode), ("groupId", groupId.encode),
      ("senderId", senderId.encode), ("targetId", .int targetId),
      ("origin", .array (encodeAll origin))]
  | .mention target display =>
    .ofMembers [("type", .str "At"), ("target", target.encode), ("display", .str display)]
  | .mentionAll => .ofMembers [("type", .str "AtAll")]
  | .face faceId name =>
    .ofPresent [("type", some (.str "Face")), ("faceId", faceId.map .int), ("name", name.map .str)]
  | .plain text => .ofMembers [("type", .str "Plain"), ("text", .str text)]
  | .image ref => .ofPresent (("type", some (.str "Image")) :: ref.members)
  | .flashImage ref => .ofPresent (("type", some (.str "FlashImage")) :: ref.members)
  | .voice voiceId url path =>
    .ofPresent [("type", some (.str "Voice")), ("voiceId", voiceId.map .str), ("url", url.map .str),
      ("path", path.map .str)]
  | .xml content => .ofMembers [("type", .str "Xml"), ("xml", .str content)]
  | .json content => .ofMembers [("type", .str "Json"), ("json", .str content)]
  | .app content => .ofMembers [("type", .str "App"), ("content", .str content)]
  | .poke name => .ofMembers [("type", .str "Poke"), ("name", .str name)]
  | .unknown => .ofMembers [("type", .str "Unknown")]

def encodeAll : List Segment → List Json
  | [] => []
  | segment :: segments => encode segment :: encodeAll segments

end

def text? : Segment → Option String
  | .plain text => some text
  | _ => none

def mentionOf (target : UserId) : Segment := .mention target ""

end Segment
end Switchboard
