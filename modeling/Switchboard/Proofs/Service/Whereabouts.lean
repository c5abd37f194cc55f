import Switchboard.Proofs.Service.Order

set_option autoImplicit false

/- Where the session of a service is. From when the service learned that its session is tied to its
account, the session is in the hands of the service or bound, or its release was requested, or left
to a task by whoever dropped the last clone of the bot. Only who asked for the release of a session
unbinds it, also if it is somebody with whom the bot is shared. -/

namespace Switchboard

namespace Session

def Point.given (asked : Bool) : Point → Option Session
  | .releasing session => if asked then some session else none
  | .unbinding session => some session
  | _ => none

theorem Goes.given {point after : Point} {op : Op} {answer : op.Answer} {session : Session}
    (goes : Goes point op answer after) (known : after.given false = some session) :
    point.given op.isSent = some session := by
  cases goes with
  | released => exact known
  | _ => cases known

theorem Point.given_asked {point : Point} {request : Request} {session : Session}
    {rest : Except TransportError Json → Activity (Except ApiError Unit)}
    (asks : point.work = .step (.request request) rest) (known : point.given true = some session) :
    request = session.releaseRequest := by
  cases point with
  | releasing other =>
    cases asks
    cases known
    rfl
  | unbinding => cases asks
  | _ => cases known

theorem Goes.given_of_unbind {point after : Point} {session : Session}
    (goes : Goes point (.unbindSession session) () after) (asked : Bool) :
    point.given asked = some session := by
  cases goes
  rfl

theorem verifyRequest_ne_releaseRequest {session other : Session} :
    verifyRequest session ≠ other.releaseRequest := by
  simp [verifyRequest, releaseRequest, Request.postJson]

end Session

/-- An answer leaves the session that is bound alone, binds one or unbinds one. -/
theorem Custody.Answered.change {slot left : Option Session} {op : Op} {answer : op.Answer}
    (answered : Custody.Answered slot op answer left) :
    left = slot ∨ (∃ session, op = .bindSession session ∧ slot = none ∧ left = some session) ∨
      ∃ session, op = .unbindSession session ∧ slot = some session ∧ left = none := by
  cases answered with
  | request | session | occupied | elsewhere => exact .inl rfl
  | bound session => exact .inr (.inl ⟨session, rfl, rfl, rfl⟩)
  | unbound session => exact .inr (.inr ⟨session, rfl, rfl, rfl⟩)

theorem Custody.Answered.slot_of_bound {slot left : Option Session} {session : Session}
    (answered : Custody.Answered slot (.bindSession session) true left) : left = some session := by
  cases answered
  rfl

theorem Custody.Step.keeps_spawned {custody next : Custody} {affair : Affair} {request : Request}
    (step : Custody.Step custody affair next) (spawned : request ∈ custody.spawned) :
    request ∈ next.spawned := by
  cases step with
  | drop clone =>
    by_cases last : custody.clones.erase clone = []
    · rw [(Custody.leave_last _ _ last).2.1]
      exact List.mem_append_left _ spawned
    · rwa [(Custody.leave_others _ _ last).2.1]
  | call | ask | answer | clone | startStream | requestStop => exact spawned

theorem Custody.Step.keeps {custody next : Custody} {affair : Affair} {clone : CloneId}
    (step : Custody.Step custody affair next) (held : clone ∈ custody.clones)
    (other : affair ≠ .dropped clone) : clone ∈ next.clones := by
  cases step with
  | call | ask | answer | startStream | requestStop => exact held
  | clone => exact List.mem_cons_of_mem _ held
  | drop leaver =>
    rw [Custody.leave_clones]
    exact (List.mem_erase_of_ne fun same => other (congrArg _ same.symm)).mpr held

namespace Service

def Point.given (asked : Bool) : Point → Option Session
  | .signing call | .releasing _ call => call.given asked
  | _ => none

theorem Point.given_asked {settings : SessionSettings} {shutdown : Option Instant} {point : Point}
    {request : Request} {session : Session}
    {rest : Except TransportError Json → Activity (Except ServiceError Unit)}
    (asks : point.work settings shutdown = .step (.request request) rest)
    (known : point.given true = some session) : request = session.releaseRequest := by
  cases point with
  | signing call | releasing _ call =>
    obtain ⟨result, settled, -⟩ | ⟨rest, going, -⟩ := Activity.andThen_step asks
    · cases Session.Point.settled_of_work settled
      cases known
    · exact Session.Point.given_asked going known
  | _ => cases known

theorem Goes.given {settings : SessionSettings} {shutdown : Option Instant} {point after : Point}
    {op : Op} {answer : op.Answer} {session : Session}
    (goes : Goes settings shutdown point op answer after)
    (known : after.given false = some session) : point.given op.isSent = some session := by
  cases goes with
  | signs _ _ _ _ goes => exact goes.given known
  | releases _ _ _ _ _ goes => exact goes.given known
  | _ => cases known

/-- A service that learned that a session is tied to its account goes on to bind it, unless it is
releasing one. -/
theorem Goes.of_verified {settings : SessionSettings} {shutdown : Option Instant}
    {point after : Point} {session : Session} {result : Except TransportError Json}
    {response : Json}
    (goes : Goes settings shutdown point (.request (Session.verifyRequest session)) result after)
    (succeeded : Call.verdict result = .ok response) :
    after = .signing (.binding session) ∨ ∃ outcome call onward,
      point = .releasing outcome call ∧
        Session.Goes call (.request (Session.verifyRequest session)) result onward := by
  generalize same : Session.verifyRequest session = request at goes ⊢
  cases goes with
  | signs call onward _ _ goes =>
    subst same
    exact .inl (congrArg _ (goes.of_verified succeeded))
  | refused | pushed => simp [Session.verifyRequest, configRequest, Request.postJson] at same
  | releases outcome call onward _ _ goes => exact .inr ⟨outcome, call, onward, rfl, goes⟩

theorem Goes.given_of_unbind {settings : SessionSettings} {shutdown : Option Instant}
    {point after : Point} {session : Session}
    (goes : Goes settings shutdown point (.unbindSession session) () after) (asked : Bool) :
    point.given asked = some session := by
  cases goes with
  | signs _ _ _ _ goes => exact goes.given_of_unbind asked
  | releases _ _ _ _ _ goes => exact goes.given_of_unbind asked

end Service

namespace Tenure

open Service (Point Goes conclude grace)

/-- Where a session is that a service learned to be tied to its account. -/
inductive Whereabouts (settings : SessionSettings) (shutdown : Option Instant)
    (history : List Proceeding) (tenure : Tenure) (session : Session) : Prop
  /-- The service has still to bind it. -/
  | binding (stands : tenure.work = (Point.signing (.binding session)).work settings shutdown)
  /-- The service has still to give it back. -/
  | returning (stands : tenure.work = (Point.signing (.returning session)).work settings shutdown)
      (unsent : tenure.asked = false)
  | bound (held : tenure.bot.slot = some session)
  | requested (sent : Requested history session.releaseRequest)
  | left (spawned : session.releaseRequest ∈ tenure.bot.spawned)

/-- Nobody loses the session of a service. -/
structure Careful (settings : SessionSettings) (shutdown : Option Instant)
    (history : List Proceeding) (tenure : Tenure) : Prop where
  stands : ∃ point : Point, tenure.work = point.work settings shutdown ∧
    ∀ session, point.given tenure.asked = some session →
      Requested history session.releaseRequest
  calls : ∀ call engagement, tenure.bot.calls call = some engagement →
    ∃ point : Session.Point, engagement.work = point.work ∧
      ∀ session, point.given engagement.asked = some session →
        Requested history session.releaseRequest
  tended : tenure.bot.Tended
  present : (∃ result, tenure.Returned result) ∨ own ∈ tenure.bot.clones
  gone : tenure.bot.clones = [] → tenure.bot.slot = none
  whereabouts : ∀ session, Verified history session →
    Whereabouts settings shutdown history tenure session

variable {settings : SessionSettings} {shutdown : Option Instant} {stops : StopForest}
  {history more : List Proceeding} {tenure next : Tenure} {proceeding : Proceeding}
  {session : Session} {bot : Custody} {stint : Stint} {op : Op} {answer : op.Answer}

section Frames

variable (answered : Answered tenure op answer bot stint)

include answered

theorem Answered.calls : bot.calls = tenure.bot.calls := by
  cases answered <;> rfl

theorem Answered.spawned : bot.spawned = tenure.bot.spawned := by
  cases answered <;> rfl

theorem Answered.clones {clone : CloneId} (held : clone ∈ tenure.bot.clones) :
    clone ∈ bot.clones := by
  cases answered with
  | begun => exact List.mem_cons_of_mem _ held
  | bot | ended | elapsed | stopped | told | givenUp => exact held

/-- The service leaves the session that is bound alone, binds one or unbinds one. -/
theorem Answered.change : bot.slot = tenure.bot.slot ∨
    (∃ session, op = .bindSession session ∧ tenure.bot.slot = none ∧ bot.slot = some session) ∨
      ∃ session, op = .unbindSession session ∧ tenure.bot.slot = some session ∧
        bot.slot = none := by
  cases answered with
  | bot _ _ slot answered => exact answered.change
  | begun | ended | elapsed | stopped | told | givenUp => exact .inl rfl

end Frames

section Preservation

variable (step : Step tenure proceeding next)
  (careful : Careful settings shutdown history tenure)

include step careful

theorem Step.own_given :
    ∃ point : Point, next.work = point.work settings shutdown ∧
      ∀ session, point.given next.asked = some session →
        Requested (history ++ [proceeding]) session.releaseRequest := by
  obtain ⟨point, asks, given⟩ := careful.stands
  cases step with
  | shared | forsaken | ended | passed | ran =>
    exact ⟨point, asks, fun session known => (given session known).mono⟩
  | asks request rest stands =>
    refine ⟨point, asks, fun session known => .inl (List.mem_append_right _ ?_)⟩
    rw [Point.given_asked (asks.symm.trans stands) known]
    exact List.mem_singleton_self _
  | answer op rest answer bot stint stands due answered =>
    obtain ⟨later, goes, left⟩ := point.goes (asks.symm.trans stands) answer
    refine ⟨later, left, fun session known => (given session ?_).mono⟩
    rw [due]
    exact goes.given known

theorem Step.calls_given (call : CallId) (engagement : Engagement)
    (made : next.bot.calls call = some engagement) :
    ∃ point : Session.Point, engagement.work = point.work ∧
      ∀ session, point.given engagement.asked = some session →
        Requested (history ++ [proceeding]) session.releaseRequest := by
  have before (known : tenure.bot.calls call = some engagement) :
      ∃ point : Session.Point, engagement.work = point.work ∧
        ∀ session, point.given engagement.asked = some session →
          Requested (history ++ [proceeding]) session.releaseRequest := by
    obtain ⟨point, stands, given⟩ := careful.calls call engagement known
    exact ⟨point, stands, fun session known => (given session known).mono⟩
  cases step with
  | shared affair bot step =>
    by_cases own : affair.call? = some call
    · cases step with
      | call _ clone demand =>
        cases own
        cases (Function.update_self ..).symm.trans made
        exact ⟨.beginning demand, rfl, nofun⟩
      | ask _ clone request rest stands =>
        cases own
        cases (Function.update_self ..).symm.trans made
        obtain ⟨point, asks, -⟩ := careful.calls _ _ stands
        refine ⟨point, asks, fun session known => .inr (.inl ⟨call, List.mem_append_right _ ?_⟩)⟩
        rw [Session.Point.given_asked asks.symm known]
        exact List.mem_singleton_self _
      | answer _ clone op rest answer slot stands =>
        cases own
        cases (Function.update_self ..).symm.trans made
        obtain ⟨point, asks, given⟩ := careful.calls _ _ stands
        obtain ⟨later, goes, left⟩ := point.goes asks.symm answer
        exact ⟨later, left, fun session known => (given session (goes.given known)).mono⟩
      | _ => cases own
    · exact before ((step.calls_frame own).symm.trans made)
  | forsaken other =>
    by_cases same : call = other
    · cases same
      cases (Function.update_self ..).symm.trans made
    · exact before ((Function.update_of_ne same ..).symm.trans made)
  | answer _ _ _ _ _ _ _ answered =>
    rw [answered.calls] at made
    exact before made
  | asks | ended | passed | ran => exact before made

theorem Step.tended : next.bot.Tended := by
  cases step with
  | shared affair bot step => exact step.tended careful.tended
  | forsaken other =>
    intro call engagement made
    by_cases same : call = other
    · cases same
      cases (Function.update_self ..).symm.trans made
    · exact careful.tended call engagement ((Function.update_of_ne same ..).symm.trans made)
  | answer _ _ _ _ _ _ _ answered =>
    intro call engagement made
    rw [answered.calls] at made
    exact (careful.tended call engagement made).imp_right answered.clones
  | asks | ended | passed | ran => exact careful.tended

theorem Step.present : (∃ result, next.Returned result) ∨ own ∈ next.bot.clones := by
  rcases careful.present with ⟨result, returned⟩ | held
  · refine .inl ⟨result, ?_⟩
    cases step with
    | answer _ _ _ _ _ stands => cases returned.symm.trans stands
    | _ => exact returned
  cases step with
  | shared affair bot step kept =>
    by_cases leaves : affair = .dropped own
    · exact .inl (kept leaves)
    · exact .inr (step.keeps held leaves)
  | answer _ _ _ _ _ _ _ answered => exact .inr (answered.clones held)
  | forsaken | asks | ended | passed | ran => exact .inr held

theorem Step.gone (last : next.bot.clones = []) : next.bot.slot = none := by
  cases step with
  | shared affair bot step => exact step.vacant careful.tended careful.gone last
  | answer op _ _ _ _ stands _ answered =>
    -- the service itself still holds a clone
    rcases careful.present with ⟨result, returned⟩ | held
    · cases returned.symm.trans stands
    · exact nomatch (last ▸ answered.clones held : own ∈ [])
  | forsaken | asks | ended | passed | ran => exact careful.gone last

/-- A session that is bound stays so, or its release was requested, or whoever drops the last clone
leaves the release to a task. -/
theorem Step.moves_bound (held : tenure.bot.slot = some session) :
    Whereabouts settings shutdown (history ++ [proceeding]) next session := by
  cases step with
  | shared affair bot step =>
    cases step with
    | call | ask | clone | startStream | requestStop => exact .bound held
    | answer call clone op rest answer slot stands answered =>
      rcases answered.change with same | ⟨other, -, vacant, -⟩ | ⟨other, rfl, bound, -⟩
      · exact .bound (same.trans held)
      · cases held.symm.trans vacant
      · cases held.symm.trans bound
        obtain ⟨point, asks, given⟩ := careful.calls _ _ stands
        obtain ⟨later, goes, -⟩ := point.goes asks.symm answer
        exact .requested (given session (goes.given_of_unbind _)).mono
    | drop clone =>
      by_cases last : tenure.bot.clones.erase clone = []
      · refine .left ?_
        rw [(Custody.leave_last _ _ last).2.1, held]
        exact List.mem_append_right _ (List.mem_singleton_self _)
      · exact .bound ((Custody.leave_others _ _ last).1.trans held)
  | answer op rest answer bot stint stands due answered =>
    rcases answered.change with same | ⟨other, -, vacant, -⟩ | ⟨other, rfl, bound, -⟩
    · exact .bound (same.trans held)
    · cases held.symm.trans vacant
    · cases held.symm.trans bound
      obtain ⟨point, asks, given⟩ := careful.stands
      obtain ⟨later, goes, -⟩ := point.goes (asks.symm.trans stands) answer
      exact .requested (given session (goes.given_of_unbind _)).mono
  | forsaken | asks | ended | passed | ran => exact .bound held

theorem Step.moves (place : Whereabouts settings shutdown history tenure session) :
    Whereabouts settings shutdown (history ++ [proceeding]) next session := by
  cases place with
  | binding here =>
    cases step with
    | answer op rest answer bot stint stands due answered =>
      cases here.symm.trans stands
      cases answer with
      | true =>
        obtain ⟨-, slot, binds, rfl⟩ := answered.of_call (.bound session)
        exact .bound binds.slot_of_bound
      | false => exact .returning rfl rfl
    | shared | forsaken | asks | ended | passed | ran => exact .binding here
  | returning here unsent =>
    cases step with
    | asks request rest stands =>
      cases here.symm.trans stands
      exact .requested (.inl (List.mem_append_right _ (List.mem_singleton_self _)))
    | answer op rest answer bot stint stands due answered =>
      cases here.symm.trans stands
      cases unsent.symm.trans due
    | shared | forsaken | ended | passed | ran => exact .returning here unsent
  | bound held => exact step.moves_bound careful held
  | requested sent => exact .requested sent.mono
  | left spawned =>
    refine .left ?_
    cases step with
    | shared affair bot step => exact step.keeps_spawned spawned
    | answer _ _ _ _ _ _ _ answered => exact answered.spawned ▸ spawned
    | forsaken | asks | ended | passed | ran => exact spawned

theorem Step.whereabouts (orderly : Orderly settings shutdown stops history tenure)
    (session : Session) (verified : Verified (history ++ [proceeding]) session) :
    Whereabouts settings shutdown (history ++ [proceeding]) next session := by
  obtain ⟨result, response, succeeded, member⟩ := verified
  rcases List.mem_append.mp member with old | new
  · exact step.moves careful (careful.whereabouts session ⟨result, response, succeeded, old⟩)
  · cases List.mem_singleton.mp new
    obtain ⟨point, asks, tells⟩ := orderly.stands
    cases step with
    | answer _ rest _ bot stint stands =>
      obtain ⟨later, goes, left⟩ := point.goes (asks.symm.trans stands) result
      rcases goes.of_verified succeeded with rfl | ⟨outcome, call, onward, rfl, sends⟩
      · exact .binding left
      · obtain ⟨other, same, -⟩ := tells.2.2.request sends
        exact absurd same Session.verifyRequest_ne_releaseRequest

end Preservation

theorem start_careful : Careful settings shutdown [] (start settings shutdown stops) where
  stands := ⟨.signing (.beginning (.authorize settings.authKey settings.botId)),
    Service.serve_eq settings shutdown, nofun⟩
  calls := nofun
  tended := nofun
  present := .inr List.mem_cons_self
  gone := nofun
  whereabouts := fun _ ⟨_, _, _, member⟩ => nomatch member

theorem Reached.careful (reached : Reached settings shutdown stops history tenure) :
    Careful settings shutdown history tenure := by
  induction reached with
  | nil => exact start_careful
  | snoc run step ih =>
    exact ⟨step.own_given ih, step.calls_given ih, step.tended ih, step.present ih, step.gone ih,
      step.whereabouts ih (Reached.orderly run)⟩

end Tenure
end Switchboard
