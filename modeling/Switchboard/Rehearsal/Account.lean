import Switchboard.Event.Account
import Switchboard.Rehearsal.Scene
import Switchboard.Report.Failure

set_option autoImplicit false

namespace Switchboard

def DispatchError.kind : DispatchError → String
  | .undecodable _ => "Decode"
  | .callbackFailed _ _ => "Callback"
  | .callbackCrashed _ _ => "CallbackPanicked"

def DispatchError.report (error : DispatchError) : Json := Report.failure error.kind error.message

def ServiceError.kind : ServiceError → String
  | .transport _ => "Transport"
  | .api _ => "Api"
  | .stream _ => "Stream"
  | .task _ => "Task"

def ServiceError.report (error : ServiceError) : Json := Report.failure error.kind error.message

def Repeater.Fault.report : Repeater.Fault → Json
  | .api error => error.report
  | .wait error => Report.failure "Wait" error.message
  | .crash reason => Report.failure "Panic" reason

namespace Rehearsal

def waitAccount : Except WaitError (Option Event) → Json :=
  Report.outcome WaitError.report (Json.ofOption Event.brief)

def plainSuccess (_ : Unit) : Json := .str "ok"

def Result.account : Result → Json
  | .slept => .str "slept"
  | .stopped => .str "stopped"
  | .waited result => waitAccount result
  | .monitored result => Report.outcome ServiceError.report plainSuccess result
  | .called result => Report.outcome ApiError.report (fun value => value) result
  | .handled result => Report.outcome Repeater.Fault.report plainSuccess result

mutual

def Answer.account : Answer → Json
  | .nothing => .null
  | .flag value => .bool value
  | .text value => .str value
  | .count value => .int value
  | .pending => .str "pending"
  | .gone => .str "gone"
  | .noBot => .str "no bot"
  | .claimed => .str "claimed"
  | .unclaimed event => .ofMembers [("unclaimed", event.brief)]
  | .undecodable error => error.report
  | .outcome result => waitAccount result
  | .called result => Report.outcome ApiError.report (fun value => value) result
  | .stopTable entries => .ofMembers (entries.map fun entry => (entry.1, .bool entry.2))
  | .several answers => .array (Answer.accounts answers)

def Answer.accounts : List Answer → List Json
  | [] => []
  | answer :: rest => answer.account :: Answer.accounts rest

end

def entryAccount : Entry → Json
  | .begun event => .ofMembers [("begin", event.brief)]
  | .finished event flow => .ofMembers [("end", event.brief), ("flow", .str flow.name)]
  | .got event result => .ofMembers [("in", event.brief), ("got", waitAccount result)]
  | .fault error => .ofMembers [("sink", error.report)]

def logAccount (log : List Entry) : List Json :=
  let told := log.map fun entry => ((entryAccount entry).write, entryAccount entry)
  (told.mergeSort fun a b => a.1 ≤ b.1).map Prod.snd

def hexByte (byte : UInt8) : List Char :=
  [Json.hexDigit (byte.toNat / 16), Json.hexDigit byte.toNat]

def partAccount : Part → Json
  | .text name value => .ofMembers [("name", .str name), ("value", .str value)]
  | .file name fileName mime bytes =>
    .ofMembers [("name", .str name), ("file_name", .str fileName), ("mime", .str mime),
      ("hex", .str (String.ofList (bytes.flatMap hexByte)))]

def bodyAccount : Body → Json
  | .empty => .null
  | .json value => .ofMembers [("json", value)]
  | .multipart parts => .ofMembers [("multipart", .array (parts.map partAccount))]

def trafficMembers (method path : String) (query : List (String × String)) (body : Json) : Json :=
  let pairs := query.map fun entry => Json.array [.str entry.1, .str entry.2]
  .ofMembers [("method", .str method), ("path", .str path), ("query", .array pairs),
    ("body", body)]

def trafficAccount : Traffic → Json
  | .opening path query => trafficMembers "Stream" path query .null
  | .request request =>
    let method := match request.method with
      | .get => "Get"
      | .post => "Post"
    trafficMembers method request.path request.query (bodyAccount request.body)

namespace Stage

def readerAccounts (stage : Stage) : List (String × Json) :=
  stage.readers.filterMap fun reader => reader.name.map fun name =>
    (name, .ofMembers [("state", .str reader.published.name),
      ("result", .ofOption (Report.outcome StreamError.report plainSuccess) reader.result),
      ("stop", .bool (stage.stops.isRequested reader.stop))])

def feedAccounts (stage : Stage) : List (String × Json) :=
  stage.feeds.filterMap fun feed => feed.name.map fun name => (name, .bool feed.closed)

def finishedAccounts (stage : Stage) : List (String × Json) :=
  stage.finished.map fun task =>
    (task.name, .ofMembers [("at", .int task.time), ("result", task.result.account)])

def sessionAccount (stage : Stage) : Json :=
  .ofOption (fun session => .array [.str session.key, session.botId.encode]) stage.session

def membersIfAny (name : String) (members : List (String × Json)) : List (String × Json) :=
  if members.isEmpty then [] else [(name, .ofMembers members)]

def itemsIfAny (name : String) (items : List Json) : List (String × Json) :=
  if items.isEmpty then [] else [(name, .array items)]

def account (stage : Stage) (answer : Answer) : Json :=
  .ofMembers ([("r", answer.account), ("now", .int stage.now), ("len", .int stage.queue.size),
      ("empty", .bool (stage.queue.size = 0)), ("closed", .bool stage.queue.closed.isSome)] ++
    membersIfAny "done" stage.finishedAccounts ++ itemsIfAny "log" (logAccount stage.log) ++
    itemsIfAny "requests" (stage.traffic.map trafficAccount) ++
    membersIfAny "readers" stage.readerAccounts ++ membersIfAny "feeds" stage.feedAccounts ++
    (if stage.held then [("session", stage.sessionAccount)] else []))

def told (stage : Stage) : Stage := { stage with log := [], traffic := [], finished := [] }

/-- Does the steps one after the other, with an account after each. -/
def accounts (stage : Stage) : List Step → List Json
  | [] => []
  | step :: rest =>
    let (answer, done) := step.perform stage
    let settled := done.settle
    settled.account answer :: accounts settled.told rest

end Stage
end Rehearsal
end Switchboard
