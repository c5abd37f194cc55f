import Switchboard.Api.Method
import Switchboard.Proofs.Session.Staging
import Switchboard.Proofs.Trace
import Switchboard.Rehearsal.Run

set_option autoImplicit false

namespace Switchboard

namespace Call

variable {α β : Type} {call : Call α}

/-- What comes first is the look for the session, and without one the call ends there. -/
def LooksFirst (work : Activity (Except ApiError α)) : Prop :=
  ∃ next, work = .step .session next ∧ next none = .done (.error .notAuthorized)

theorem looksFirst_sessionKey : LooksFirst sessionKey.run :=
  ⟨_, rfl, rfl⟩

theorem LooksFirst.bind (looks : LooksFirst call.run) (next : α → Call β) :
    LooksFirst (call >>= next).run := by
  obtain ⟨rest, asks, refused⟩ := looks
  refine ⟨fun answer => (rest answer).andThen (ExceptT.bindCont next), ?_, ?_⟩
  · change Activity.andThen _ call.run = _
    rw [asks]
    rfl
  · change Activity.andThen _ (rest none) = _
    rw [refused]
    rfl

theorem looksFirst_post (path : String) (members : List (String × Json)) :
    LooksFirst (post path members).run :=
  looksFirst_sessionKey.bind _

theorem looksFirst_command (path : String) (members : List (String × Json)) :
    LooksFirst (command path members).run :=
  (looksFirst_post path members).bind _

theorem looksFirst_ask (path : String) (query : List (String × String)) :
    LooksFirst (ask path query).run :=
  looksFirst_sessionKey.bind _

theorem looksFirst_askFor (decoder : Shape.Decoder α) (path : String)
    (query : List (String × String)) : LooksFirst (askFor decoder path query).run :=
  (looksFirst_ask path query).bind _

end Call

namespace Api

open Call

theorem looksFirst_postMessage (path : String) (addressee : List (String × Json))
    (message : Message) (quote : Option MessageId) :
    LooksFirst (postMessage path addressee message quote).run :=
  (looksFirst_post path _).bind _

theorem looksFirst_sendMessage (target : ReplyTarget) (message : Message)
    (quote : Option MessageId) : LooksFirst (sendMessage target message quote).run := by
  cases target <;> exact looksFirst_postMessage ..

theorem looksFirst_upload (path field : String) (target : UploadTarget) (fileName : String)
    (bytes : List UInt8) : LooksFirst (upload path field target fileName bytes).run :=
  looksFirst_sessionKey.bind _

theorem looksFirst_uploadImage (target : UploadTarget) (fileName : String)
    (bytes : List UInt8) : LooksFirst (uploadImage target fileName bytes).run :=
  (looksFirst_upload ..).bind _

theorem looksFirst_uploadVoice (target : UploadTarget) (fileName : String)
    (bytes : List UInt8) : LooksFirst (uploadVoice target fileName bytes).run :=
  (looksFirst_upload ..).bind _

/-- A method that sends no file of the caller's looks for the session first. -/
theorem Method.looksFirst {method : Method} (fileless : method.file? = none) :
    LooksFirst method.call.run := by
  cases method with
  | sendFriendMessage | sendGroupMessage | sendTempMessage => exact looksFirst_postMessage ..
  | sendMessage | reply | quoteReply => exact looksFirst_sendMessage ..
  | sendImageMessage => exact (looksFirst_post ..).bind _
  | uploadImage => exact looksFirst_uploadImage ..
  | uploadVoice => exact looksFirst_uploadVoice ..
  | uploadImageFile | uploadVoiceFile => cases fileless
  | pollEvents | messageFromId | countMessage => exact (looksFirst_ask ..).bind _
  | listFriends | listGroups | listMembers | groupConfig | memberInfo | sessionConfig =>
    exact looksFirst_askFor ..
  | recallMessage | mute | unmute | muteAll | unmuteAll | kick | quit | respondNewFriend
  | respondMemberJoin | respondBotInvited | setGroupConfig | setMemberInfo | setSessionConfig =>
    exact looksFirst_command ..

/-- What comes first is the reading of a file. A fault of the file ends the call; with the content
it looks for the session. -/
def ReadsFirst {α : Type} (path : String) (work : Activity (Except ApiError α)) : Prop :=
  ∃ next, work = .step (.readFile path) next ∧
    (∀ error, next (.error error) = .done (.error (.transport error))) ∧
    ∀ bytes, LooksFirst (next (.ok bytes))

theorem readsFirst_of_readUpload {α : Type} {path : String}
    {next : String × List UInt8 → Call α} (looks : ∀ file, LooksFirst (next file).run) :
    ReadsFirst path (readUpload path >>= next).run :=
  ⟨_, rfl, fun _ => rfl, fun bytes => looks ((Path.fileName? path).getD "upload", bytes)⟩

theorem Method.readsFirst {method : Method} {path : String} (sends : method.file? = some path) :
    ReadsFirst path method.call.run := by
  cases method with
  | uploadImageFile target other =>
    obtain rfl := Option.some.inj sends
    exact readsFirst_of_readUpload fun file => looksFirst_uploadImage target file.1 file.2
  | uploadVoiceFile target other =>
    obtain rfl := Option.some.inj sends
    exact readsFirst_of_readUpload fun file => looksFirst_uploadVoice target file.1 file.2
  | _ => cases sends

namespace Method

variable {method : Method} {history : List Exchange}
  {work after : Activity (Except ApiError method.Result)}

/-- What has to be done before a method looks for the session: a file of the caller's is read. -/
inductive Prepared (method : Method) : List Exchange → Prop
  | fileless (without : method.file? = none) : Prepared method []
  | read (path : String) (bytes : List UInt8) (sends : method.file? = some path) :
      Prepared method [⟨.readFile path, .ok bytes⟩]

/-- Where a method stands after what it did, as long as it is shown no session. It never stands
before a request. -/
inductive Stands (method : Method) :
    List Exchange → Activity (Except ApiError method.Result) → Prop
  | reading (path : String) (work : Activity (Except ApiError method.Result))
      (sends : method.file? = some path) (reads : ReadsFirst path work) : Stands method [] work
  | unreadable (path : String) (error : TransportError) (sends : method.file? = some path) :
      Stands method [⟨.readFile path, .error error⟩] (.done (.error (.transport error)))
  | looking (before : List Exchange) (work : Activity (Except ApiError method.Result))
      (prepared : method.Prepared before) (looks : LooksFirst work) : Stands method before work
  | refused (before : List Exchange) (prepared : method.Prepared before) :
      Stands method (before ++ [⟨.session, none⟩]) (.done (.error .notAuthorized))

theorem stands_call (method : Method) : method.Stands [] method.call.run := by
  cases sends : method.file? with
  | none => exact .looking [] _ (.fileless sends) (looksFirst sends)
  | some path => exact .reading path _ sends (readsFirst sends)

theorem Stands.goesOn {exchange : Exchange} (stands : method.Stands history work)
    (goes : work.GoesOn exchange after)
    (unbound : ∀ answer, exchange = ⟨.session, answer⟩ → answer = none) :
    method.Stands (history ++ [exchange]) after := by
  cases stands with
  | reading path work sends reads =>
    obtain ⟨next, rfl, faulty, read⟩ := reads
    cases goes with
    | answer op next answer =>
      cases answer with
      | error error => exact faulty error ▸ .unreadable path error sends
      | ok bytes => exact .looking _ _ (.read path bytes sends) (read bytes)
  | unreadable path error sends => cases goes
  | looking before work prepared looks =>
    obtain ⟨next, rfl, refused⟩ := looks
    cases goes with
    | answer op next answer =>
      obtain rfl := unbound answer rfl
      exact refused ▸ .refused _ prepared
  | refused before prepared => cases goes

/-- Whatever else goes on, a method that is shown no session sends nothing. -/
theorem stands_of_trace (trace : Trace Activity.GoesOn method.call.run history work)
    (unbound : ∀ answer, (⟨.session, answer⟩ : Exchange) ∈ history → answer = none) :
    method.Stands history work := by
  induction trace with
  | nil => exact method.stands_call
  | snoc trace goes ih =>
    refine (ih fun answer held => ?_).goesOn goes fun answer same => ?_
    · exact unbound answer (List.mem_append_left _ held)
    · exact unbound answer (same ▸ List.mem_append_right _ (List.mem_singleton_self _))

/-- The error of a method without a session, by what comes of reading files. -/
def refusal (method : Method) (fetch : String → Except TransportError (List UInt8)) : ApiError :=
  match method.file?.map fetch with
  | some (.error error) => .transport error
  | _ => .notAuthorized

end Method
end Api

namespace Rehearsal.Stage

/-- Nobody is at work: no task is ready, and the player is none. -/
structure AtRest (stage : Stage) : Prop where
  quiet : stage.ready = []
  idle : stage.tasks[player]?.all Task.isOver = true

/-- Nothing went to the server, and neither the session nor the queue of waiters changed. -/
structure Untouched (stage after : Stage) : Prop where
  traffic : after.traffic = stage.traffic
  session : after.session = stage.session
  queue : after.queue = stage.queue

theorem wake_untouched (stage : Stage) (id : TaskId) : stage.Untouched (stage.wake id) := by
  unfold wake
  split <;> exact ⟨rfl, rfl, rfl⟩

theorem attempt_untouched (stage : Stage) (id : TaskId) (op : Op) (progress : Progress)
    (harmless : op = .session ∨ ∃ path, op = .readFile path) :
    stage.Untouched (stage.attempt id op progress).stage := by
  rcases harmless with rfl | ⟨path, rfl⟩
  · exact ⟨rfl, rfl, rfl⟩
  · cases progress with
    | fetching => exact ⟨rfl, rfl, rfl⟩
    | _ => exact wake_untouched stage id

theorem turns_of_ready {stage : Stage} (quiet : stage.ready = []) (fuel : Nat) :
    stage.turns fuel = stage := by
  cases fuel with
  | zero => rfl
  | succ fuel => rw [turns, quiet]

theorem clearTimers_clearTimers (stage : Stage) (id : TaskId) :
    (stage.clearTimers id).clearTimers id = stage.clearTimers id := by
  simp [clearTimers]

theorem play_of_looksFirst {α : Type} {work : Activity (Except ApiError α)}
    (looks : Call.LooksFirst work) (stage : Stage) (unbound : stage.session = none) :
    stage.play work = some (.error .notAuthorized, stage.clearTimers player) := by
  obtain ⟨next, rfl, refused⟩ := looks
  simp only [play, attempt, unbound, refused]

theorem play_of_readsFirst {α : Type} {path : String} {work : Activity (Except ApiError α)}
    (reads : Api.ReadsFirst path work) (stage : Stage) (unbound : stage.session = none)
    (rests : stage.AtRest) :
    stage.play work = some (.error (match stage.fetch path with
      | .error error => .transport error
      | .ok _ => .notAuthorized), stage.clearTimers player) := by
  obtain ⟨next, rfl, faulty, read⟩ := reads
  have unwoken : stage.wake player = stage := by rw [wake, rests.idle]; rfl
  obtain ⟨fuel, limit⟩ : ∃ fuel, turnLimit = fuel + 1 := ⟨999999, rfl⟩
  have settled : stage.settle = stage := turns_of_ready rests.quiet turnLimit
  simp only [play, attempt, unwoken, limit, await, settled]
  cases stage.fetch path with
  | error error => simp only [faulty, play]
  | ok bytes =>
    rw [play_of_looksFirst (read bytes) (stage.clearTimers player) unbound,
      clearTimers_clearTimers]

/-- A method that is called when nobody is at work ends, on a bot that holds no session, with its
refusal. -/
theorem play_refused (method : Api.Method) (stage : Stage) (unbound : stage.session = none)
    (rests : stage.AtRest) :
    stage.play method.call.run =
      some (.error (method.refusal stage.fetch), stage.clearTimers player) := by
  cases sends : method.file? with
  | none =>
    rw [play_of_looksFirst (Api.Method.looksFirst sends) stage unbound, Api.Method.refusal, sends]
    rfl
  | some path =>
    rw [play_of_readsFirst (Api.Method.readsFirst sends) stage unbound rests,
      Api.Method.refusal, sends, Option.map_some]
    cases stage.fetch path <;> rfl

/-- On a bot that holds no session every method fails and touches nothing. However it is interleaved
with whatever else goes on, it does not get further than looking for the session: it is refused
there, or before that by the fault of a file that it was to send. Called while nobody else is at
work it returns, with the session as missing unless a file of the caller's cannot be read. -/
theorem refused_without_session (method : Api.Method) :
    (∀ history work, Trace Activity.GoesOn method.call.run history work →
      (∀ answer, (⟨.session, answer⟩ : Exchange) ∈ history → answer = none) →
      method.Stands history work) ∧
    (∀ (stage : Stage) (id : TaskId) (op : Op) (progress : Progress),
      (op = .session ∨ ∃ path, op = .readFile path) →
      stage.Untouched (stage.attempt id op progress).stage) ∧
    ∀ stage : Stage, stage.session = none → stage.AtRest →
      ∃ after, stage.play method.call.run = some (.error (method.refusal stage.fetch), after) ∧
        stage.Untouched after := by
  refine ⟨fun history work trace unbound => Api.Method.stands_of_trace trace unbound,
    fun stage id op progress => attempt_untouched stage id op progress,
    fun stage unbound rests => ?_⟩
  exact ⟨_, play_refused method stage unbound rests, rfl, rfl, rfl⟩

def unauthorized : Stage :=
  { start ⟨[], []⟩ [] true false with folder := ⟨[(["hello.amr"], [35, 33])], [[]]⟩ }

theorem unauthorized_rests : unauthorized.AtRest := ⟨rfl, rfl⟩

def greeting : Api.Method := .uploadVoiceFile .group "hello.amr"

def fruitless : List Exchange := [⟨.readFile "hello.amr", .ok [35, 33]⟩, ⟨.session, none⟩]

theorem greeting_trace :
    Trace Activity.GoesOn greeting.call.run fruitless (.done (.error .notAuthorized)) :=
  (Trace.nil.snoc (.answer (.readFile "hello.amr") _ (.ok [35, 33]))).snoc (.answer .session _ none)

theorem fruitless_unbound (answer : Option Session)
    (seen : (⟨.session, answer⟩ : Exchange) ∈ fruitless) : answer = none := by
  simpa [fruitless] using seen

/-- The voice that can be read is not sent either. -/
theorem greeting_refused :
    Trace Activity.GoesOn greeting.call.run fruitless (.done (.error .notAuthorized)) ∧
      greeting.Stands fruitless (.done (.error .notAuthorized)) ∧
      unauthorized.session = none ∧ unauthorized.AtRest ∧
      ∃ after, unauthorized.play greeting.call.run = some (.error .notAuthorized, after) ∧
        unauthorized.Untouched after :=
  ⟨greeting_trace,
    (refused_without_session greeting).1 fruitless _ greeting_trace fruitless_unbound,
    rfl, unauthorized_rests,
    (refused_without_session greeting).2.2 unauthorized rfl unauthorized_rests⟩

/-- An image that is not there is reported as such, though there is no session to send it in. -/
theorem missing_image_reported :
    unauthorized.session = none ∧ unauthorized.AtRest ∧
      (unauthorized.play (Api.Method.uploadImageFile .friend "nowhere.png").call.run).map Prod.fst =
        some (.error (.transport (.io "No such file or directory (os error 2)"))) := by
  refine ⟨rfl, unauthorized_rests, ?_⟩
  rw [play_refused _ _ rfl unauthorized_rests]
  decide

end Rehearsal.Stage
end Switchboard
