import Mathlib.Data.Fintype.EquivFin
import Switchboard.Proofs.Service.Whereabouts

set_option autoImplicit false

namespace Switchboard

def Session.Point.rank : Session.Point → Nat
  | .beginning _ => 5
  | .opening _ _ => 4
  | .verifying _ => 3
  | .binding _ | .releasing _ => 2
  | .returning _ | .unbinding _ => 1
  | .settled _ => 0

theorem Session.Goes.rank_lt {point after : Session.Point} {op : Op} {answer : op.Answer}
    (goes : Session.Goes point op answer after) : after.rank < point.rank := by
  cases goes <;> simp [Point.rank]

namespace Service

def Point.rank : Point → Nat
  | .signing call => 16 + call.rank
  | .pushing _ _ => 15
  | .beginning => 14
  | .watching => 13
  | .stopping => 12
  | .timing => 11
  | .waiting _ => 10
  | .abandoning => 9
  | .checking _ => 8
  | .releasing _ call => 1 + call.rank
  | .ceased _ => 0

variable {settings : SessionSettings} {shutdown : Option Instant}

theorem Goes.rank_lt {point after : Point} {op : Op} {answer : op.Answer}
    (goes : Goes settings shutdown point op answer after) : after.rank < point.rank := by
  cases goes with
  | signs _ _ _ _ goes | releases _ _ _ _ _ goes => exact Nat.add_lt_add_left goes.rank_lt _
  | _ => simp [Point.rank, Session.Point.rank]

/-- What a service asks: it deals with the server and its session, begins its task, waits for it,
tells it to stop or gives it up. -/
theorem Point.asks_cases {point : Point} {op : Op}
    {next : op.Answer → Activity (Except ServiceError Unit)}
    (asks : point.work settings shutdown = .step op next) :
    op.isShared = true ∨ op = .beginTask ∨ (∃ deadline, op = .awaitTask deadline) ∨
      op = .requestStop ∨ op = .now ∨ op = .giveUpTask := by
  have shared {call : Session.Point} {rest : op.Answer → Activity (Except ApiError Unit)}
      (going : call.work = .step op rest) : op.isShared = true := by
    rcases Session.Point.asks_cases going with ⟨_, rfl⟩ | rfl | ⟨_, rfl⟩ | ⟨_, rfl⟩ <;> rfl
  cases point with
  | signing call =>
    obtain ⟨signed, -, follows⟩ | ⟨rest, going, -⟩ := Activity.andThen_step asks
    · rcases signed with error | ⟨⟨⟩⟩
      · cases follows
      · rw [afterSigning] at follows
        split at follows
        · cases (run_eq shutdown).symm.trans follows
          exact .inr (.inl rfl)
        · cases follows
          exact .inl rfl
    · exact .inl (shared going)
  | releasing outcome call =>
    obtain ⟨_, -, follows⟩ | ⟨rest, going, -⟩ := Activity.andThen_step asks
    · cases follows
    · exact .inl (shared going)
  | beginning =>
    cases (run_eq shutdown).symm.trans asks
    exact .inr (.inl rfl)
  | watching | waiting =>
    cases asks
    exact .inr (.inr (.inl ⟨_, rfl⟩))
  | stopping | timing | abandoning =>
    cases asks
    simp
  | pushing | checking =>
    cases asks
    exact .inl rfl
  | ceased => cases asks

end Service

namespace Tenure

open Service (Point Goes conclude grace)

variable {settings : SessionSettings} {shutdown : Option Instant} {stops : StopForest}
  {history : List Proceeding} {tenure : Tenure} {op : Op}

theorem exists_answered (slot : Option Session) (shared : op.isShared = true) :
    ∃ answer left, Custody.Answered slot op answer left := by
  cases op with
  | request request => exact ⟨.error default, slot, .request slot request _⟩
  | session => exact ⟨slot, slot, .session slot⟩
  | bindSession session =>
    cases slot with
    | none => exact ⟨true, _, .bound session⟩
    | some other => exact ⟨false, _, .occupied session other⟩
  | unbindSession session =>
    by_cases held : slot = some session
    · rw [held]
      exact ⟨(), _, .unbound session⟩
    · exact ⟨(), slot, .elsewhere slot session held⟩
  | _ => cases shared

theorem Orderly.due (orderly : Orderly settings shutdown stops history tenure)
    {rest : op.Answer → Activity (Except ServiceError Unit)} (asks : tenure.work = .step op rest) :
    tenure.asked = op.isSent ∨ tenure.asked = false ∧ ∃ request, op = .request request := by
  cases sent : tenure.asked with
  | true =>
    obtain ⟨request, _, stands⟩ := orderly.sent sent
    cases asks.symm.trans stands
    exact .inl rfl
  | false =>
    cases op with
    | request request => exact .inr ⟨rfl, request, rfl⟩
    | _ => exact .inl rfl

/-- Where a service waits for its task, the task is underway or has ended. -/
theorem Orderly.awaits (orderly : Orderly settings shutdown stops history tenure)
    {deadline : Option Instant}
    {rest : Op.Answer (.awaitTask deadline) → Activity (Except ServiceError Unit)}
    (asks : tenure.work = .step (.awaitTask deadline) rest) :
    tenure.stint = .underway ∨ ∃ outcome, tenure.stint = .ended outcome := by
  obtain ⟨point, stands, tells⟩ := orderly.stands
  obtain ⟨later, goes, -⟩ := point.goes (stands.symm.trans asks) none
  cases goes with
  | signs _ _ _ _ goes => cases goes
  | releases _ _ _ _ _ goes => cases goes
  | shutDown => exact tells.2.imp_right fun ⟨outcome, ceased, _⟩ => ⟨outcome, ceased⟩
  | late deadline =>
    obtain ⟨_, _, -, -, progress⟩ := tells
    exact progress.imp_right fun ⟨outcome, ceased, _⟩ => ⟨outcome, ceased⟩

/-- Whatever a service asks it is answered in the end, if need be once its task has ended. -/
theorem Reached.advances (reached : Reached settings shutdown stops history tenure)
    {rest : op.Answer → Activity (Except ServiceError Unit)} (asks : tenure.work = .step op rest) :
    ∃ more next answer, Run tenure more next ∧ next.work = rest answer := by
  have orderly := reached.orderly
  obtain ⟨point, stands, -⟩ := orderly.stands
  have at_once {answer : op.Answer} {bot : Custody} {stint : Stint}
      (due : tenure.asked = op.isSent) (answered : Answered tenure op answer bot stint) :
      ∃ more next answer, Run tenure more next ∧ next.work = rest answer :=
    ⟨_, _, answer, Trace.single (Step.answer op rest answer bot stint asks due answered), rfl⟩
  rcases orderly.due asks with due | ⟨unsent, request, rfl⟩
  · rcases point.asks_cases (stands.symm.trans asks) with
      shared | rfl | ⟨deadline, rfl⟩ | rfl | rfl | rfl
    · obtain ⟨answer, left, answered⟩ := exists_answered tenure.bot.slot shared
      exact at_once due (.bot op answer left answered)
    · obtain ⟨clone, unused⟩ := Infinite.exists_notMem_finset tenure.bot.clones.toFinset
      exact at_once due (.begun clone fun held => unused (List.mem_toFinset.mpr held))
    · rcases orderly.awaits asks with underway | ⟨outcome, ceased⟩
      · have ended := Trace.single (Step.ended (.ok ()) underway ⟨deadline, rest, asks⟩)
        have told := ended.snoc (.answer _ rest _ _ _ asks due (.ended _ _ rfl))
        exact ⟨_, _, some (.ok ()), told, rfl⟩
      · exact at_once due (.ended deadline outcome ceased)
    · exact at_once due .stopped
    · exact at_once due .told
    · exact at_once due .givenUp
  · have sent := Trace.single (Step.asks request rest asks unsent)
    let failed : Except TransportError Json := .error default
    have answered : Answered { tenure with asked := true } (.request request) failed
        { tenure.bot with slot := tenure.bot.slot } tenure.stint :=
      .bot _ _ _ (.request _ request failed)
    exact ⟨_, _, failed, sent.snoc (.answer _ rest failed _ _ asks rfl answered), rfl⟩

theorem Reached.returns (reached : Reached settings shutdown stops history tenure) :
    ∃ more last result, Run tenure more last ∧ last.Returned result := by
  obtain ⟨point, stands, -⟩ := reached.orderly.stands
  induction left : point.rank using Nat.strongRecOn generalizing history tenure point with
  | ind rank ih =>
    cases work : tenure.work with
    | done result => exact ⟨[], tenure, result, .nil, work⟩
    | step op rest =>
      obtain ⟨more, next, answer, run, goes⟩ := reached.advances work
      obtain ⟨later, leads, onward⟩ := point.goes (stands.symm.trans work) answer
      have fewer : later.rank < rank := left ▸ leads.rank_lt
      obtain ⟨further, last, result, ended, returned⟩ :=
        ih _ fewer (reached.append run) later (goes.trans onward) rfl
      exact ⟨more ++ further, last, result, run.append ended, returned⟩

/-- The service has returned, nobody holds its bot any more, and what was left to tasks is done. -/
structure Dissolved (history : List Proceeding) (tenure : Tenure) : Prop where
  returned : ∃ result, tenure.Returned result
  gone : tenure.bot.clones = []
  ran : ∀ request ∈ tenure.bot.spawned, .ran request ∈ history

theorem Careful.requested {session : Session} (careful : Careful settings shutdown history tenure)
    (verified : Verified history session) (dissolved : Dissolved history tenure) :
    Requested history session.releaseRequest := by
  obtain ⟨⟨result, returned⟩, gone, ran⟩ := dissolved
  cases careful.whereabouts session verified with
  | binding stands => cases returned.symm.trans stands
  | returning stands => cases returned.symm.trans stands
  | bound held => cases held.symm.trans (careful.gone gone)
  | requested sent => exact sent
  | left spawned => exact .inr (.inr (ran _ spawned))

/-- **Every session is given back, and the result of the task is not masked.** In every state that
a service can come to:
* the release of a session that the service learned to be tied to its account was requested, once
  the service has returned, all clones of its bot were dropped and the tasks that were left behind
  have run;
* once it has begun its task, the service asks for the release of a session only after the task
  ended, or after the streams were asked to stop and the task ended or the grace was over, and only
  if this session was bound then;
* a service that has returned without beginning its task failed to start its session, and any other
  one came to the outcome of its task in one of these ways and returned an error exactly if the task
  ended with one;
* the service can go on until it returns. -/
theorem session_given_back (reached : Reached settings shutdown stops history tenure) :
    (∀ session, Verified history session → Dissolved history tenure →
      Requested history session.releaseRequest) ∧
    (∀ before after session, history = before ++ .asked session.releaseRequest :: after →
      Begun before → ∃ outcome, Authorized settings shutdown stops before outcome session) ∧
    (∀ result, tenure.Returned result →
      (¬ Begun history → ∃ error, result = .error (.api error)) ∧
      (Begun history →
        (∃ outcome, Finale shutdown history outcome ∧ result = conclude outcome) ∧
        ∀ failure, result = .error failure ↔
          ∃ error, .ended (.error error) ∈ history ∧ failure = .task error.message)) ∧
    ∃ more last result, Run tenure more last ∧ last.Returned result := by
  have orderly := reached.orderly
  refine ⟨fun session verified => reached.careful.requested verified, ?_, ?_, reached.returns⟩
  · rintro before after session rfl begun
    obtain ⟨middle, next, early, step, -⟩ := Trace.split_at reached
    exact step.authorized (Reached.orderly early) begun
  · intro result returned
    rcases orderly.returned returned with ⟨unbegun, failed⟩ | ⟨outcome, finale, closed, rfl⟩
    · exact ⟨fun _ => failed, fun begun => absurd unbegun (orderly.begun begun)⟩
    · refine ⟨fun unbegun => absurd finale.begun unbegun, fun _ => ⟨⟨outcome, finale, rfl⟩, ?_⟩⟩
      intro failure
      simp only [← orderly.outcome_eq closed]
      rcases outcome with error | ⟨⟨⟩⟩ <;> simp [conclude, Except.mapError, eq_comm]

def plain : SessionSettings := ⟨"secret", ⟨1⟩, none, none⟩

def opened : Session := ⟨"key", ⟨1⟩⟩

def given : Except TransportError Json :=
  .ok (.ofMembers [("code", .int 0), ("session", .str "key")])

def agreed : Except TransportError Json := .ok (.ofMembers [("code", .int 0)])

def lost : Except TransportError Json := .error default

/-- The session is opened, tied to its account and bound. -/
def opening : List Proceeding :=
  [.answered .session none,
    .asked (Session.openRequest "secret"),
    .answered (.request (Session.openRequest "secret")) given,
    .asked (Session.verifyRequest opened),
    .answered (.request (Session.verifyRequest opened)) agreed,
    .answered (.bindSession opened) true]

/-- The task is begun, told to stop some time later, and given up. -/
def overrun : List Proceeding :=
  [.answered .beginTask (), .passed 3, .answered (.awaitTask (some (3 : Instant))) none,
    .answered .requestStop (), .answered .now (3 : Instant), .passed 5000,
    .answered (.awaitTask (some (5003 : Instant))) none, .answered .giveUpTask ()]

/-- The service tries to release the session in vain. Then the bot is dropped. -/
def farewell : List Proceeding :=
  [.answered .session (some opened), .answered .session (some opened),
    .asked opened.releaseRequest, .answered (.request opened.releaseRequest) lost,
    .shared (.dropped own), .shared (.dropped 1), .ran opened.releaseRequest]

def idle (slot : Option Session) (clones : List CloneId) (stops : StopForest) : Custody :=
  ⟨slot, fun _ => none, clones, stops, 0, [], []⟩

def placed (bot : Custody) (point : Point) (asked : Bool) (stint : Stint) (clock : Instant) :
    Tenure :=
  ⟨bot, point.work plain (some 3), asked, stint, clock⟩

theorem placed_goes {bot left : Custody} {point after : Point} {stint onward : Stint}
    {clock : Instant} {op : Op} {answer : op.Answer}
    (goes : Goes plain (some 3) point op answer after)
    (answered : Answered (placed bot point op.isSent stint clock) op answer left onward) :
    Step (placed bot point op.isSent stint clock) (.answered op answer)
      (placed left after false onward clock) :=
  .of_goes goes rfl rfl answered

theorem placed_asks {bot : Custody} (point : Point) {stint : Stint} {clock : Instant}
    {request : Request} {next : Except TransportError Json → Activity (Except ServiceError Unit)}
    (asks : point.work plain (some 3) = .step (.request request) next) :
    Step (placed bot point false stint clock) (.asked request)
      (placed bot point true stint clock) :=
  .asks request next asks rfl

theorem opening_run : Reached plain (some 3) .empty opening
    (placed (idle (some opened) [own] StopForest.empty.addRoot.2) (.signing (.settled (.ok ())))
      false .unbegun 0) := by
  have h0 : Reached plain (some 3) .empty []
      (placed (idle none [own] StopForest.empty.addRoot.2)
        (.signing (.beginning (.authorize "secret" ⟨1⟩))) false .unbegun 0) := by
    change Run (start plain (some 3) .empty) [] _
    rw [start_eq]
    exact .nil
  have h1 := h0.snoc (placed_goes (.signs _ _ _ _ (.vacant "secret" ⟨1⟩))
    (.bot _ _ _ (.session none)))
  have h2 := h1.snoc (placed_asks (.signing (.opening "secret" ⟨1⟩)) rfl)
  have h3 := h2.snoc (placed_goes (.signs _ _ _ _ (.granted "secret" ⟨1⟩ given "key" rfl))
    (.bot _ _ _ (.request _ _ _)))
  have h4 := h3.snoc (placed_asks (.signing (.verifying opened)) rfl)
  have h5 := h4.snoc (placed_goes (.signs _ _ _ _ (.verified opened agreed _ rfl))
    (.bot _ _ _ (.request _ _ _)))
  exact h5.snoc (placed_goes (.signs _ _ _ _ (.bound opened)) (.bot _ _ _ (.bound opened)))

theorem overrun_run (stops : StopForest) :
    Run (placed (idle (some opened) [own] stops) (.signing (.settled (.ok ()))) false .unbegun 0)
      overrun
      (placed (idle (some opened) [1, own] (stops.request 0)) (.checking (.ok ())) false .givenUp
        5003) := by
  have h0 := @Trace.nil _ _ Step
    (placed (idle (some opened) [own] stops) (.signing (.settled (.ok ()))) false .unbegun 0)
  have h1 := h0.snoc (placed_goes (.plain rfl) (.begun 1 (by simp [placed, idle, own])))
  have h2 := h1.snoc (.passed 3)
  have h3 := h2.snoc (placed_goes .shutDown (.elapsed 3 (Nat.le_refl 3) rfl))
  have h4 := h3.snoc (placed_goes .stopped .stopped)
  have h5 := h4.snoc (placed_goes (.timed 3) .told)
  have h6 := h5.snoc (.passed 5000)
  have h7 := h6.snoc (placed_goes (.late 5003) (.elapsed 5003 (Nat.le_refl 5003) rfl))
  exact h7.snoc (placed_goes .abandoned .givenUp)

theorem farewell_run (stops : StopForest) : ∃ last,
    Run (placed (idle (some opened) [1, own] stops) (.checking (.ok ())) false .givenUp 5003)
      farewell last ∧
    last.Returned (.ok ()) ∧ last.bot.clones = [] ∧
      last.bot.spawned = [opened.releaseRequest] := by
  have h0 := @Trace.nil _ _ Step
    (placed (idle (some opened) [1, own] stops) (.checking (.ok ())) false .givenUp 5003)
  have h1 := h0.snoc (placed_goes (.bound (.ok ()) opened) (.bot _ _ _ (.session (some opened))))
  have h2 := h1.snoc (placed_goes (.releases _ _ _ _ _ (.found opened))
    (.bot _ _ _ (.session (some opened))))
  have h3 := h2.snoc (placed_asks (.releasing (.ok ()) (.releasing opened)) rfl)
  have h4 := h3.snoc (placed_goes (.releases _ _ _ _ _ (.kept opened lost _ rfl))
    (.bot _ _ _ (.request _ _ _)))
  have both : own ∈ [1, own] := List.mem_cons_of_mem _ List.mem_cons_self
  have h5 := h4.snoc (.shared (.dropped own) _ (.drop own both nofun) fun _ => ⟨_, rfl⟩)
  have h6 := h5.snoc (.shared (.dropped 1) _ (.drop 1 (List.mem_singleton_self 1) nofun) nofun)
  exact ⟨_, h6.snoc (.ran _ (List.mem_singleton_self _)), rfl, rfl, rfl⟩

/-- The session of the service is given back although its release failed, and the service returns
without an error. -/
theorem overrun_given_back : ∃ tenure,
    Reached plain (some 3) .empty (opening ++ overrun ++ farewell) tenure ∧
      Verified (opening ++ overrun ++ farewell) opened ∧
      Dissolved (opening ++ overrun ++ farewell) tenure ∧ tenure.Returned (.ok ()) ∧
      Requested (opening ++ overrun ++ farewell) opened.releaseRequest ∧
      ∃ outcome, Finale (some 3) (opening ++ overrun ++ farewell) outcome ∧
        .ok () = conclude outcome := by
  obtain ⟨last, late, returned, gone, spawned⟩ :=
    farewell_run (StopForest.empty.addRoot.2.request 0)
  have reached := (opening_run.append (overrun_run _)).append late
  have begun : Begun (opening ++ overrun ++ farewell) := by simp [Begun, overrun]
  have verified : Verified (opening ++ overrun ++ farewell) opened :=
    ⟨agreed, _, rfl, by simp [opening]⟩
  have ran : .ran opened.releaseRequest ∈ opening ++ overrun ++ farewell := by simp [farewell]
  have dissolved : Dissolved (opening ++ overrun ++ farewell) last :=
    ⟨⟨_, returned⟩, gone, fun request left => by
      rw [spawned] at left
      rwa [List.mem_singleton.mp left]⟩
  obtain ⟨requested, -, outcome, -⟩ := session_given_back reached
  exact ⟨last, reached, verified, dissolved, returned, requested opened verified dissolved,
    ((outcome _ returned).2 begun).1⟩

end Tenure
end Switchboard
