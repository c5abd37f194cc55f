import Switchboard.Api.Call
import Switchboard.Files.Path

set_option autoImplicit false

namespace Switchboard.Api

def about : Call String := do
  let response ← Call.send (.get "/about" [])
  match ((response.member? "data").bind fun data => data.member? "version").bind Json.str? with
  | some version => return version
  | none => throw (.response ("missing " ++ Shape.ticked "data.version"))

/-- Posts a message, perhaps as an answer to another one, and reads the number it got. -/
def postMessage (path : String) (addressee : List (String × Json)) (message : Message)
    (quote : Option MessageId) : Call MessageId := do
  let quoted := match quote with
    | some id => [("quote", id.encode)]
    | none => []
  let response ← Call.post path (addressee ++ [("messageChain", message.encode)] ++ quoted)
  Call.ofExcept (Call.decodeMember MessageId.decode "messageId" response)

def sendFriendMessage (target : UserId) (message : Message) (quote : Option MessageId) :
    Call MessageId :=
  postMessage "/sendFriendMessage" [("target", target.encode)] message quote

def sendGroupMessage (target : GroupId) (message : Message) (quote : Option MessageId) :
    Call MessageId :=
  postMessage "/sendGroupMessage" [("target", target.encode)] message quote

def sendTempMessage (target : TempId) (message : Message) (quote : Option MessageId) :
    Call MessageId :=
  postMessage "/sendTempMessage" [("qq", target.user.encode), ("group", target.group.encode)]
    message quote

def sendMessage (target : ReplyTarget) (message : Message) (quote : Option MessageId) :
    Call MessageId :=
  match target with
  | .friend user => sendFriendMessage user message quote
  | .group group => sendGroupMessage group message quote
  | .temp member => sendTempMessage member message quote

/-- A message that can be answered: the way back, and its number. -/
structure Origin where
  target : ReplyTarget
  id : MessageId
deriving DecidableEq

/-- Where the answer to an event goes, if it is a message. -/
def Origin.ofEvent? (event : Event) : Option Origin :=
  event.message?.map fun (message, _, target) => ⟨target, message.source.id⟩

def reply (origin : Origin) (message : Message) : Call MessageId :=
  sendMessage origin.target message none

/-- Answers in the chat that a message came from, and quotes it. -/
def quoteReply (origin : Origin) (message : Message) : Call MessageId :=
  sendMessage origin.target message (some origin.id)

def recallMessage (message : MessageId) : Call Unit :=
  Call.command "/recall" [("target", message.encode)]

/-- The members that address a chat when images are sent. -/
def imageAddressee : ReplyTarget → List (String × Json)
  | .friend user => [("qq", user.encode)]
  | .group group => [("group", group.encode)]
  | .temp member => [("qq", member.user.encode), ("group", member.group.encode)]

/-- Sends images by their addresses and reads the numbers they got. -/
def sendImageMessage (target : ReplyTarget) (urls : List String) : Call (List String) := do
  let members := imageAddressee target ++ [("urls", .array (urls.map .str))]
  Call.ofExcept (Call.decode (Shape.list Shape.text) (← Call.post "/sendImageMessage" members))

/-- The kind of chat that a file is uploaded for. -/
inductive UploadTarget where
  | friend
  | group
  | temp
deriving DecidableEq

def UploadTarget.name : UploadTarget → String
  | .friend => "friend"
  | .group => "group"
  | .temp => "temp"

def UploadTarget.ofReply : ReplyTarget → UploadTarget
  | .friend _ => .friend
  | .group _ => .group
  | .temp _ => .temp

/-- The type of a file, by its extension in letters of either case. -/
def mimeOf (fileName : String) : String :=
  match (Path.extension? fileName).map fun extension => extension.map Char.toLower with
  | some "png" => "image/png"
  | some "jpg" => "image/jpeg"
  | some "jpeg" => "image/jpeg"
  | some "gif" => "image/gif"
  | some "bmp" => "image/bmp"
  | some "amr" => "audio/amr"
  | some "silk" => "audio/silk"
  | some "slk" => "audio/silk"
  | _ => "application/octet-stream"

def upload (path field : String) (target : UploadTarget) (fileName : String)
    (bytes : List UInt8) : Call Json := do
  let key ← Call.sessionKey
  Call.send (.postMultipart path [.text "sessionKey" key, .text "type" target.name,
    .file field fileName (mimeOf fileName) bytes])

def uploadImage (target : UploadTarget) (fileName : String) (bytes : List UInt8) :
    Call ImageRef := do
  let response ← upload "/uploadImage" "img" target fileName bytes
  Call.ofExcept (Call.decode (ImageRef.decode .document) response)

def textIn? (response : Json) (name : String) : Option String :=
  (response.member? name).bind Json.str?

/-- Uploads a voice and makes the segment that sends it. -/
def uploadVoice (target : UploadTarget) (fileName : String) (bytes : List UInt8) :
    Call Segment := do
  let response ← upload "/uploadVoice" "voice" target fileName bytes
  return .voice (textIn? response "voiceId") (textIn? response "url") (textIn? response "path")

/-- The bytes of a file, with the name under which they are uploaded. -/
def readUpload (path : String) : Call (String × List UInt8) := do
  match ← Call.perform (.readFile path) with
  | .ok bytes => return ((Path.fileName? path).getD "upload", bytes)
  | .error error => throw (.transport error)

def uploadImageFile (target : UploadTarget) (path : String) : Call ImageRef := do
  let (fileName, bytes) ← readUpload path
  uploadImage target fileName bytes

def uploadVoiceFile (target : UploadTarget) (path : String) : Call Segment := do
  let (fileName, bytes) ← readUpload path
  uploadVoice target fileName bytes

end Switchboard.Api
