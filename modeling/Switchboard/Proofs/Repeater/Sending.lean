import Switchboard.Proofs.Message.Wire
import Switchboard.Proofs.Session.Points
import Switchboard.Proofs.Trace
import Switchboard.Repeater.Answer

set_option autoImplicit false

namespace Switchboard

namespace Api

def messagePath : ReplyTarget → String
  | .friend _ => "/sendFriendMessage"
  | .group _ => "/sendGroupMessage"
  | .temp _ => "/sendTempMessage"

def messageAddressee : ReplyTarget → List (String × Json)
  | .friend user => [("target", user.encode)]
  | .group group => [("target", group.encode)]
  | .temp member => [("qq", member.user.encode), ("group", member.group.encode)]

def quoteMember : Option MessageId → List (String × Json)
  | some id => [("quote", id.encode)]
  | none => []

def messageMembers (key : String) (target : ReplyTarget) (message : Message)
    (quote : Option MessageId) : List (String × Json) :=
  messageAddressee target ++ [("messageChain", message.encode)] ++ quoteMember quote ++
    [("sessionKey", .str key)]

def messageRequest (key : String) (target : ReplyTarget) (message : Message)
    (quote : Option MessageId) : Request :=
  .postJson (messagePath target) (.ofMembers (messageMembers key target message quote))

/-- What came of the request: the number of the message. -/
def receipt (result : Except TransportError Json) : Except ApiError MessageId :=
  (Call.verdict result).bind (Call.decodeMember MessageId.decode "messageId")

section Request

variable (key : String) (target : ReplyTarget) (message : Message) (quote : Option MessageId)

theorem postMessage_eq (path : String) (addressee : List (String × Json)) :
    (postMessage path addressee message quote).run = .step .session fun
      | none => .done (.error .notAuthorized)
      | some session =>
        .step (.request (.postJson path (.ofMembers
          (addressee ++ [("messageChain", message.encode)] ++ quoteMember quote ++
            [("sessionKey", .str session.key)])))) fun result => .done (receipt result) := by
  refine (Activity.perform_bind .session _).trans (congrArg _ (funext fun bound => ?_))
  cases bound with
  | none => rfl
  | some session =>
    have sent := Call.send_bind (.postJson path (.ofMembers
        (addressee ++ [("messageChain", message.encode)] ++ quoteMember quote ++
          [("sessionKey", .str session.key)])))
      fun response => Call.ofExcept (Call.decodeMember MessageId.decode "messageId" response)
    refine Eq.trans (by cases quote <;> rfl) (sent.trans (congrArg _ (funext fun result => ?_)))
    rw [receipt]
    cases Call.verdict result <;> rfl

theorem sendMessage_eq : (sendMessage target message quote).run = .step .session fun
    | none => .done (.error .notAuthorized)
    | some session =>
      .step (.request (messageRequest session.key target message quote)) fun result =>
        .done (receipt result) := by
  cases target <;> exact postMessage_eq ..

theorem messageMembers_distinct :
    ((messageMembers key target message quote).map Prod.fst).Nodup := by
  cases target <;> cases quote <;> simp [messageMembers, messageAddressee, quoteMember]

end Request
end Api

def Segment.spoken? (value : Json) : Option String :=
  if (value.member? "type").bind Json.str? = some "Plain" then
    (value.member? "text").bind Json.str?
  else none

/-- The texts of the plain segments in a chain, joined. -/
def Message.spoken : Json → String
  | .array items => String.join (items.filterMap Segment.spoken?)
  | _ => ""

namespace Request

def member? (request : Request) (key : String) : Option Json :=
  match request.body with
  | .json value => value.member? key
  | _ => none

/-- The text of the message that a request sends, if it sends one. -/
def spoken? (request : Request) : Option String :=
  (request.member? "messageChain").map Message.spoken

def quoted? (request : Request) : Option Json := request.member? "quote"

end Request

theorem Segment.spoken?_encode (segment : Segment) :
    Segment.spoken? segment.encode = segment.text? := by
  have holds (key : String) :
      segment.encode.member? key = Json.present? key segment.members := by
    rw [encode_eq]
    exact segment.lookup_members key
  rw [spoken?, holds, holds, present?_type]
  cases segment <;> rfl

theorem Segment.filterMap_encodeAll (segments : List Segment) :
    (Segment.encodeAll segments).filterMap Segment.spoken? = segments.filterMap Segment.text? := by
  induction segments with
  | nil => rfl
  | cons segment segments ih =>
    simp only [Segment.encodeAll, List.filterMap_cons, Segment.spoken?_encode, ih]

theorem Message.spoken_encode (message : Message) : spoken message.encode = message.plainText :=
  congrArg String.join (Segment.filterMap_encodeAll message.segments)

theorem Message.plainText_ofText (text : String) : (Message.ofText text).plainText = text := by
  simp [plainText, ofText, push, empty, appendSegment, Segment.text?, String.join]

namespace Api

variable (key : String) (target : ReplyTarget) (message : Message) (quote : Option MessageId)

theorem member?_messageRequest (name : String) :
    (messageRequest key target message quote).member? name =
      Json.lookup name (messageMembers key target message quote) :=
  Json.lookup_ofMembers name (messageMembers_distinct key target message quote)

@[simp] theorem spoken?_messageRequest :
    (messageRequest key target message quote).spoken? = some message.plainText := by
  rw [Request.spoken?, member?_messageRequest, ← Message.spoken_encode]
  cases target <;> rfl

@[simp] theorem quoted?_messageRequest :
    (messageRequest key target message quote).quoted? = quote.map MessageId.encode := by
  rw [Request.quoted?, member?_messageRequest]
  cases target <;> cases quote <;> rfl

end Api

namespace Repeater

def requests (exchanges : List Exchange) : List Request :=
  exchanges.filterMap fun exchange =>
    match exchange.op with
    | .request request => some request
    | _ => none

theorem requests_append (begun later : List Exchange) :
    requests (begun ++ later) = requests begun ++ requests later :=
  List.filterMap_append

variable {α : Type}

def fromPosting (key : String) (target : ReplyTarget) (message : Message)
    (quote : Option MessageId) (next : Activity (Except Fault α)) : Activity (Except Fault α) :=
  .step (.request (Api.messageRequest key target message quote)) fun result =>
    match Api.receipt result with
    | .ok _ => next
    | .error error => .done (.error (.api error))

def fromSending (target : ReplyTarget) (message : Message) (quote : Option MessageId)
    (next : Activity (Except Fault α)) : Activity (Except Fault α) :=
  .step .session fun
    | none => .done (.error (.api .notAuthorized))
    | some session => fromPosting session.key target message quote next

theorem sendMessage_bind (target : ReplyTarget) (message : Message) (quote : Option MessageId)
    (next : Handling α) :
    (calling (Api.sendMessage target message quote) >>= fun _ => next).run =
      fromSending target message quote next.run := by
  have whole : (calling (Api.sendMessage target message quote) >>= fun _ => next).run =
      (Api.sendMessage target message quote).run.andThen fun
        | .ok _ => next.run
        | .error error => .done (.error (.api error)) := by
    refine (Activity.andThen_assoc _ _ _).trans ?_
    refine congrArg (Activity.andThen · _) (funext fun sent => ?_)
    cases sent <;> rfl
  rw [whole, Api.sendMessage_eq]
  refine congrArg _ (funext fun bound => ?_)
  cases bound with
  | none => rfl
  | some session =>
    refine congrArg _ (funext fun result => ?_)
    cases received : Api.receipt result <;> simp only [Activity.andThen, received]

end Repeater
end Switchboard
