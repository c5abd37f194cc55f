import Switchboard.Session.Lifecycle

set_option autoImplicit false

namespace Switchboard

def Call.verdict : Except TransportError Json → Except ApiError Json
  | .ok response => checkStatus response
  | .error error => .error (.transport error)

namespace Call

variable {α β : Type}

theorem ofExcept_bind (result : Except ApiError α) (next : α → Call β) :
    (ofExcept result >>= next).run = match result with
      | .ok value => (next value).run
      | .error error => .done (.error error) := by
  cases result <;> rfl

theorem send_bind (request : Request) (next : Json → Call β) :
    (send request >>= next).run = .step (.request request) fun result =>
      match verdict result with
      | .ok response => (next response).run
      | .error error => .done (.error error) := by
  refine (Activity.perform_bind (.request request) _).trans (congrArg _ (funext fun result => ?_))
  cases result with
  | error error => rfl
  | ok response =>
    change (ofExcept (checkStatus response) >>= next).run = _
    rw [ofExcept_bind, verdict]
    cases checkStatus response <;> rfl

end Call

namespace Session

def grant (result : Except TransportError Json) : Except ApiError String :=
  (Call.verdict result).bind keyOf

/-- What a caller wants of the session of a bot. -/
inductive Demand where
  | authorize (authKey : String) (botId : UserId)
  | release

def Demand.work : Demand → Activity (Except ApiError Unit)
  | .authorize authKey botId => (Session.authorize authKey botId).run
  | .release => Session.release.run

/-- Where a call stands. -/
inductive Point where
  | beginning (demand : Demand)
  | opening (authKey : String) (botId : UserId)
  | verifying (session : Session)
  | binding (session : Session)
  /-- Another session is bound; the one that was opened is to be given back. -/
  | returning (session : Session)
  | releasing (session : Session)
  | unbinding (session : Session)
  | settled (result : Except ApiError Unit)

section Rest

variable (session : Session)

def fromReturning : Activity (Except ApiError Unit) :=
  .step (.request session.releaseRequest) fun _ => .done (.error .alreadyAuthorized)

def fromBinding : Activity (Except ApiError Unit) :=
  .step (.bindSession session) fun bound => if bound then .done (.ok ()) else fromReturning session

def fromVerifying : Activity (Except ApiError Unit) :=
  .step (.request (verifyRequest session)) fun result =>
    match Call.verdict result with
    | .ok _ => fromBinding session
    | .error error => .done (.error error)

def fromOpening (authKey : String) (botId : UserId) : Activity (Except ApiError Unit) :=
  .step (.request (openRequest authKey)) fun result =>
    match grant result with
    | .ok key => fromVerifying ⟨key, botId⟩
    | .error error => .done (.error error)

def fromUnbinding : Activity (Except ApiError Unit) :=
  .step (.unbindSession session) fun _ => .done (.ok ())

def fromReleasing : Activity (Except ApiError Unit) :=
  .step (.request session.releaseRequest) fun result =>
    match Call.verdict result with
    | .ok _ => fromUnbinding session
    | .error error => .done (.error error)

open Activity (perform_bind)

theorem authorize_eq (authKey : String) (botId : UserId) :
    (authorize authKey botId).run = .step .session fun
      | some _ => .done (.error .alreadyAuthorized)
      | none => fromOpening authKey botId := by
  refine (perform_bind .session _).trans (congrArg _ (funext fun bound => ?_))
  cases bound with
  | some other => rfl
  | none =>
    refine (Call.send_bind (openRequest authKey) _).trans (congrArg _ (funext fun opening => ?_))
    cases opened : Call.verdict opening with
    | error error => simp only [grant, opened, Except.bind]
    | ok response =>
      simp only [grant, opened, Except.bind]
      refine (Call.ofExcept_bind (keyOf response) _).trans ?_
      cases keyOf response with
      | error error => rfl
      | ok key =>
        refine (Call.send_bind (verifyRequest ⟨key, botId⟩) _).trans
          (congrArg _ (funext fun verification => ?_))
        cases Call.verdict verification with
        | error error => rfl
        | ok response =>
          refine (perform_bind (.bindSession ⟨key, botId⟩) _).trans
            (congrArg _ (funext fun bound => ?_))
          cases bound <;> rfl

theorem release_eq : release.run = .step .session fun
    | none => .done (.error .notAuthorized)
    | some session => fromReleasing session := by
  refine (perform_bind .session _).trans (congrArg _ (funext fun bound => ?_))
  cases bound with
  | none => rfl
  | some session =>
    refine (Call.send_bind session.releaseRequest _).trans (congrArg _ (funext fun result => ?_))
    cases Call.verdict result <;> rfl

end Rest

def Point.work : Point → Activity (Except ApiError Unit)
  | .beginning demand => demand.work
  | .opening authKey botId => fromOpening authKey botId
  | .verifying session => fromVerifying session
  | .binding session => fromBinding session
  | .returning session => fromReturning session
  | .releasing session => fromReleasing session
  | .unbinding session => fromUnbinding session
  | .settled result => .done result

/-- Where an answer leads. -/
inductive Goes : Point → (op : Op) → op.Answer → Point → Prop
  | occupied (authKey : String) (botId : UserId) (other : Session) :
      Goes (.beginning (.authorize authKey botId)) .session (some other)
        (.settled (.error .alreadyAuthorized))
  | vacant (authKey : String) (botId : UserId) :
      Goes (.beginning (.authorize authKey botId)) .session none (.opening authKey botId)
  | refused (authKey : String) (botId : UserId) (result : Except TransportError Json)
      (error : ApiError) (failed : grant result = .error error) :
      Goes (.opening authKey botId) (.request (openRequest authKey)) result
        (.settled (.error error))
  | granted (authKey : String) (botId : UserId) (result : Except TransportError Json)
      (key : String) (succeeded : grant result = .ok key) :
      Goes (.opening authKey botId) (.request (openRequest authKey)) result
        (.verifying ⟨key, botId⟩)
  | rejected (session : Session) (result : Except TransportError Json) (error : ApiError)
      (failed : Call.verdict result = .error error) :
      Goes (.verifying session) (.request (verifyRequest session)) result
        (.settled (.error error))
  | verified (session : Session) (result : Except TransportError Json) (response : Json)
      (succeeded : Call.verdict result = .ok response) :
      Goes (.verifying session) (.request (verifyRequest session)) result (.binding session)
  | bound (session : Session) :
      Goes (.binding session) (.bindSession session) true (.settled (.ok ()))
  | outrun (session : Session) :
      Goes (.binding session) (.bindSession session) false (.returning session)
  | returned (session : Session) (result : Except TransportError Json) :
      Goes (.returning session) (.request session.releaseRequest) result
        (.settled (.error .alreadyAuthorized))
  | unbound : Goes (.beginning .release) .session none (.settled (.error .notAuthorized))
  | found (session : Session) :
      Goes (.beginning .release) .session (some session) (.releasing session)
  | kept (session : Session) (result : Except TransportError Json) (error : ApiError)
      (failed : Call.verdict result = .error error) :
      Goes (.releasing session) (.request session.releaseRequest) result
        (.settled (.error error))
  | released (session : Session) (result : Except TransportError Json) (response : Json)
      (succeeded : Call.verdict result = .ok response) :
      Goes (.releasing session) (.request session.releaseRequest) result (.unbinding session)
  | finished (session : Session) :
      Goes (.unbinding session) (.unbindSession session) () (.settled (.ok ()))

theorem Point.goes (point : Point) {op : Op} {next : op.Answer → Activity (Except ApiError Unit)}
    (asks : point.work = .step op next) (answer : op.Answer) :
    ∃ after : Point, Goes point op answer after ∧ next answer = after.work := by
  cases point with
  | beginning demand =>
    cases demand with
    | authorize authKey botId =>
      rw [Point.work, Demand.work, authorize_eq] at asks
      cases asks
      rcases answer with none | other
      · exact ⟨_, .vacant authKey botId, rfl⟩
      · exact ⟨_, .occupied authKey botId other, rfl⟩
    | release =>
      rw [Point.work, Demand.work, release_eq] at asks
      cases asks
      rcases answer with none | session
      · exact ⟨_, .unbound, rfl⟩
      · exact ⟨_, .found session, rfl⟩
  | opening authKey botId =>
    cases asks
    cases opened : grant answer with
    | error error =>
      exact ⟨_, .refused authKey botId answer error opened, by simp only [opened, work]⟩
    | ok key => exact ⟨_, .granted authKey botId answer key opened, by simp only [opened, work]⟩
  | verifying session =>
    cases asks
    cases judged : Call.verdict answer with
    | error error => exact ⟨_, .rejected session answer error judged, by simp only [judged, work]⟩
    | ok response =>
      exact ⟨_, .verified session answer response judged, by simp only [judged, work]⟩
  | binding session =>
    cases asks
    cases answer with
    | true => exact ⟨_, .bound session, rfl⟩
    | false => exact ⟨_, .outrun session, rfl⟩
  | returning session =>
    cases asks
    exact ⟨_, .returned session answer, rfl⟩
  | releasing session =>
    cases asks
    cases judged : Call.verdict answer with
    | error error => exact ⟨_, .kept session answer error judged, by simp only [judged, work]⟩
    | ok response =>
      exact ⟨_, .released session answer response judged, by simp only [judged, work]⟩
  | unbinding session =>
    cases asks
    exact ⟨_, .finished session, rfl⟩
  | settled result => cases asks

/-- A call makes requests, and looks at the session that is bound, binds one or unbinds it. -/
theorem Point.asks_cases {point : Point} {op : Op}
    {next : op.Answer → Activity (Except ApiError Unit)} (asks : point.work = .step op next) :
    (∃ request, op = .request request) ∨ op = .session ∨ (∃ session, op = .bindSession session) ∨
      ∃ session, op = .unbindSession session := by
  cases point with
  | beginning demand =>
    cases demand with
    | authorize authKey botId =>
      rw [Point.work, Demand.work, authorize_eq] at asks
      cases asks
      exact .inr (.inl rfl)
    | release =>
      rw [Point.work, Demand.work, release_eq] at asks
      cases asks
      exact .inr (.inl rfl)
  | opening | verifying | returning | releasing =>
    cases asks
    exact .inl ⟨_, rfl⟩
  | binding session =>
    cases asks
    exact .inr (.inr (.inl ⟨session, rfl⟩))
  | unbinding session =>
    cases asks
    exact .inr (.inr (.inr ⟨session, rfl⟩))
  | settled result => cases asks

theorem Goes.asks {point after : Point} {op : Op} {answer : op.Answer}
    (goes : Goes point op answer after) :
    ∃ next : op.Answer → Activity (Except ApiError Unit),
      point.work = .step op next ∧ next answer = after.work := by
  cases goes with
  | occupied authKey botId other => exact ⟨_, authorize_eq authKey botId, rfl⟩
  | vacant authKey botId => exact ⟨_, authorize_eq authKey botId, rfl⟩
  | unbound | found => exact ⟨_, release_eq, rfl⟩
  | refused authKey botId result error failed => exact ⟨_, rfl, by simp only [failed, Point.work]⟩
  | granted authKey botId result key succeeded =>
    exact ⟨_, rfl, by simp only [succeeded, Point.work]⟩
  | rejected session result error failed => exact ⟨_, rfl, by simp only [failed, Point.work]⟩
  | verified session result response succeeded =>
    exact ⟨_, rfl, by simp only [succeeded, Point.work]⟩
  | kept session result error failed => exact ⟨_, rfl, by simp only [failed, Point.work]⟩
  | released session result response succeeded =>
    exact ⟨_, rfl, by simp only [succeeded, Point.work]⟩
  | bound | outrun | returned | finished => exact ⟨_, rfl, rfl⟩

def credentials (session : Session) : Json :=
  .ofMembers [("sessionKey", .str session.key), ("qq", session.botId.encode)]

theorem credentials_key (session : Session) :
    session.credentials.member? "sessionKey" = some (.str session.key) :=
  (Json.lookup_insertMember_of_ne _ _ (show "sessionKey" ≠ "qq" by decide)).trans
    (Json.lookup_insertMember_self _ _ _)

theorem credentials_account (session : Session) :
    session.credentials.member? "qq" = some (.int session.botId.number) :=
  Json.lookup_insertMember_self _ _ _

theorem credentials_inj {session other : Session}
    (same : session.credentials = other.credentials) : session = other := by
  have key := session.credentials_key.symm.trans (same ▸ other.credentials_key)
  have account := session.credentials_account.symm.trans (same ▸ other.credentials_account)
  obtain ⟨_, ⟨_⟩⟩ := session
  obtain ⟨_, ⟨_⟩⟩ := other
  cases key
  cases account
  rfl

theorem verifyRequest_inj {session other : Session}
    (same : verifyRequest session = verifyRequest other) : session = other :=
  credentials_inj (Body.json.inj (Request.mk.inj same).2.2.2)

theorem releaseRequest_inj {session other : Session}
    (same : session.releaseRequest = other.releaseRequest) : session = other :=
  credentials_inj (Body.json.inj (Request.mk.inj same).2.2.2)

theorem Goes.of_verified {point after : Point} {session : Session}
    {result : Except TransportError Json} {response : Json}
    (goes : Goes point (.request (verifyRequest session)) result after)
    (succeeded : Call.verdict result = .ok response) : after = .binding session := by
  generalize same : verifyRequest session = request at goes
  cases goes with
  | rejected other _ error failed => cases succeeded.symm.trans failed
  | verified other _ _ _ => rw [verifyRequest_inj same]
  | refused | granted | returned | kept | released =>
    simp [verifyRequest, openRequest, releaseRequest, Request.postJson] at same

end Session
end Switchboard
