import Switchboard.Proofs.Repeater.Interview

set_option autoImplicit false

namespace Switchboard

namespace Pattern

variable (event : Event)

theorem accepts_eq_true (pattern : Pattern) :
    pattern.accepts event = true ↔ (pattern.evaluate event).2 = .accepts := decide_eq_true_iff

@[simp] theorem accepts_fromUser (user : UserId) :
    (fromUser user).accepts event = decide (event.user? = some user) := by
  by_cases same : event.user? = some user <;> simp [accepts, evaluate, Verdict.ofBool, same]

@[simp] theorem accepts_fromGroup (group : GroupId) :
    (fromGroup group).accepts event = decide (event.group? = some group) := by
  by_cases same : event.group? = some group <;> simp [accepts, evaluate, Verdict.ofBool, same]

@[simp] theorem accepts_all (patterns : List Pattern) :
    (all patterns).accepts event = patterns.all (·.accepts event) := by
  induction patterns with
  | nil => rfl
  | cons pattern rest ih =>
    rw [List.all_cons, ← ih, Bool.eq_iff_iff, Bool.and_eq_true]
    simp only [accepts_eq_true, evaluate, evaluateAll]
    rcases pattern.evaluate event with ⟨names, verdict⟩
    cases verdict <;> simp

end Pattern

namespace Repeater

open Hall (Answers captors)

/-- The chat in which an answer is heard. In a temporary chat, that is the chat with the same user
as a friend. -/
def heardChat (asker : UserId) : ReplyTarget → ReplyTarget
  | .temp _ => .friend asker
  | chat => chat

/-- An event is a message of somebody in a chat. -/
def Replies (asker : UserId) (chat : ReplyTarget) (event : Event) : Prop :=
  ∃ message, event.message? = some (message, asker, chat)

def answerSlot (asker : UserId) (target : ReplyTarget) (id : WaiterId) : Slot :=
  ⟨id, (answerPattern asker target).1, (answerPattern asker target).2⟩

theorem accepts_iff_replies {asker : UserId} {target : ReplyTarget}
    (own : ∀ user, target = .friend user → user = asker) (id : WaiterId) (event : Event) :
    (answerSlot asker target id).kind = event.kind ∧
        (answerSlot asker target id).pattern.accepts event = true ↔
      Replies asker (heardChat asker target) event := by
  obtain ⟨kind, payload⟩ := event
  cases target with
  | friend user =>
    obtain rfl := own user rfl
    cases kind <;> simp [answerSlot, answerPattern, heardChat, Replies, Event.message?, Event.user?]
  | group group =>
    cases kind <;> simp [answerSlot, answerPattern, heardChat, Replies, Event.message?, Event.user?,
      Event.group?]
  | temp member =>
    cases kind <;> simp [answerSlot, answerPattern, heardChat, Replies, Event.message?, Event.user?]

section Wait

variable {answers : Answers} {past : List Act} {asker : UserId} {origin : Api.Origin}
  {id : WaiterId} {now : Instant} {before after history : List Happening}
  {first begun final : Interview}

/-- A handling has posed its question, and has registered a waiter for the answer. -/
structure Attends (answers : Answers) (past : List Act) (asker : UserId) (origin : Api.Origin)
    (id : WaiterId) (now : Instant) (before after : List Happening) (interview : Interview) :
    Prop where
  reached : Hall.Reached answers (past ++ acts after) interview.station.hall
  waiting : Hall.Waiting (answerSlot asker origin.target id) (now + answerTime)
    (past ++ acts after) interview.station.hall
  course : Course asker origin (exchanges before ++ exchanges after) interview.work
  stage : Interview.Pending id (answerPattern asker origin.target).1
      (answerPattern asker origin.target).2 (some (now + answerTime)) after interview ∨
    ∃ result, Interview.Ended id (answerPattern asker origin.target).1
      (answerPattern asker origin.target).2 (some (now + answerTime)) result after interview

theorem attends_of_register {kind : EventKind} {deadline : Option Instant}
    {refusal : Option WaitError}
    (reached : Hall.Reached answers past first.station.hall) (calm : first.station.hall.Calm)
    (course : Course asker origin (exchanges before) first.work)
    (step : Interview.Step answers first (.registered id kind deadline refusal) begun) :
    refusal = none ∧ ∃ now, Posed origin now (exchanges before) ∧
      deadline = some (now + answerTime) ∧
      captors (past ++ [.registered id kind (.waiting deadline) refusal]) id = [] ∧
      Attends answers (past ++ [.registered id kind (.waiting deadline) refusal]) asker origin id
        now before [] begun := by
  cases step with
  | register kind pattern deadline next stands vacant free =>
    have standing := course
    rw [stands] at standing
    obtain ⟨now, posed, rfl, rfl, rfl⟩ := standing.posed
    have registers : Hall.Step answers first.station.hall _ _ :=
      .register (answerPattern asker origin.target).1 (answerPattern asker origin.target).2
        (.waiting (some (now + answerTime))) free
    have waiting : Hall.Waiting (answerSlot asker origin.target _) (now + answerTime) _ _ :=
      reached.waiting_of_register calm (answerPattern asker origin.target).1
        (answerPattern asker origin.target).2 free
    rw [calm.open_] at registers ⊢
    refine ⟨rfl, now, posed, rfl, ?_, ?_, ?_, ?_, .inl ⟨rfl, rfl, ?_, ?_⟩⟩
    · refine List.eq_nil_iff_forall_not_mem.mpr fun capture captor => ?_
      rcases Hall.captors_snoc_cases captor with old | hit
      · rw [reached.captors_nextId] at old
        cases old
      · cases hit
    · exact (List.append_nil _).symm ▸ reached.snoc registers
    · exact (List.append_nil _).symm ▸ waiting
    · exact (List.append_nil _).symm ▸ course
    · exact ⟨next, stands⟩
    · exact congrArg Holder.use? (Hall.enrol_holders ..)

variable (attends : Attends answers past asker origin id now before [] begun)
  (frank : Hall.Frank answers (answerSlot asker origin.target id))
  (trace : Trace (Interview.Step answers) begun after final)
  (granted : ∀ exchange ∈ exchanges after, Granted exchange)
  (unswept : Hall.Unswept (acts after))

include attends frank trace granted unswept

/-- Whatever happens beside it, the handling has its waiter until the wait has ended. -/
theorem Attends.of_trace :
    (∀ won, .abandoned id won ∉ acts after) ∧
      Attends answers past asker origin id now before after final := by
  have run := Interview.hall_of_trace trace
  have pending := attends.stage.resolve_right fun ⟨_, ended⟩ => nomatch ended.once
  obtain ⟨kept, stage⟩ :=
    Interview.sequel_of_trace attends.reached attends.course pending trace granted
  obtain ⟨reached, waiting, course, -⟩ := attends
  simp only [acts, exchanges, List.filterMap_nil, List.append_nil] at reached waiting course
  exact ⟨kept, reached.append run, waiting.run reached frank run unswept kept,
    Interview.course_of_trace course trace granted, stage⟩

omit attends frank trace granted unswept

/-- A message of somebody in a chat arrives before a deadline: an errand offers it to the waiters,
and its search is over by then. -/
structure Arrives (past during : List Act) (deadline : Instant) (asker : UserId)
    (chat : ReplyTarget) (before : List Act) (errand : ErrandId) (search : List Act)
    (shown : Event) : Prop where
  searched : ∃ later, during = before ++ [.entered errand] ++ search ++ [.left errand] ++ later
  offered : .offer shown ∈ Hall.requests (past ++ during) errand
  replies : Replies asker chat shown
  early : Hall.clock (past ++ (before ++ [.entered errand] ++ search)) < deadline

/-- The first message of somebody in a chat that arrives before a deadline goes to a waiter, unless
one that was registered before takes it. -/
def Hears (past during : List Act) (id : WaiterId) (deadline : Instant) (asker : UserId)
    (chat : ReplyTarget) : Prop :=
  ∀ before errand search shown, Arrives past during deadline asker chat before errand search shown →
    (∃ other < id, .saw errand shown other .taken ∈ search) ∨
      .saw errand shown id .taken ∈ search ∨
        ∃ owner earlier, .saw owner earlier id .taken ∈ before

include attends frank trace granted unswept in
theorem Attends.hears (fresh : captors past id = [])
    (own : ∀ user, origin.target = .friend user → user = asker) :
    Hears past (acts after) id (now + answerTime) asker (heardChat asker origin.target) := by
  rintro earlier errand search shown ⟨⟨later, split⟩, offered, replies, early⟩
  obtain ⟨kept, -⟩ := attends.of_trace frank trace granted unswept
  obtain ⟨kind, accepts⟩ := (accepts_iff_replies own id shown).mpr replies
  have run := Interview.hall_of_trace trace
  obtain ⟨reached, waiting, -, -⟩ := attends
  simp only [acts, List.filterMap_nil, List.append_nil] at reached waiting
  rw [split] at run kept offered unswept
  obtain first | taken | ⟨owner, before, saw⟩ :=
    waiting.heard reached frank run unswept kept offered kind accepts early
  · exact .inl first
  · exact .inr (.inl taken)
  · rcases List.mem_append.mp saw with old | new
    · exact absurd fresh (List.ne_nil_of_mem (Hall.captor_of_saw old))
    · exact .inr (.inr ⟨owner, before, new⟩)

variable (present : Attends answers past asker origin id now before after final) {errand : ErrandId}
  {shown : Event} (taken : .saw errand shown id .taken ∈ acts after)

include taken

theorem captor_of_taken : .deliver errand shown ∈ captors (past ++ acts after) id :=
  Hall.captor_of_saw (List.mem_append_right _ taken)

include present

theorem Attends.replies_of_taken (own : ∀ user, origin.target = .friend user → user = asker) :
    Replies asker (heardChat asker origin.target) shown := by
  cases present.waiting.fair _ (captor_of_taken taken) with
  | deliver _ _ kind accepts => exact (accepts_iff_replies own id shown).mp ⟨kind, accepts⟩

theorem Attends.outcomes_of_taken (posed : Posed origin now (exchanges before)) :
    (Interview.Pending id (answerPattern asker origin.target).1
        (answerPattern asker origin.target).2 (some (now + answerTime)) after final) ∨
      outcomes (exchanges before ++ exchanges after) = [.ok (some shown)] := by
  refine present.stage.imp_right fun ⟨result, ended⟩ => ?_
  rw [posed.outcomes_append, ended.once]
  -- what the wait returns is what its waiter was won with, and a waiter is won once
  have concluded := present.reached.concluded (List.mem_append_right past ended.returned)
  obtain ⟨capture, captor, came⟩ :=
    concluded.captor fun awaited => nomatch (concluded.awaited awaited).1
  rw [present.reached.captor_unique captor (captor_of_taken taken)] at came
  rw [← Option.some.inj came]

end Wait

section Progress

variable {answers : Answers} {past : List Act} {asker : UserId} {origin : Api.Origin}
  {id : WaiterId} {now : Instant} {before after history : List Happening}
  {interview final : Interview} {errand : ErrandId} {shown : Event}

variable (interview) in
theorem trace_of_run {hall : Hall} {during : List Act}
    (run : Hall.Run answers interview.station.hall during hall)
    (apart : ∀ act ∈ during, act.holder? = none) :
    Trace (Interview.Step answers) interview (during.map fun act => .beside (.party act))
      { interview with station := { interview.station with hall := hall } } := by
  induction run with
  | nil => exact .nil
  | @snoc during before next act run step ih =>
    rw [List.map_append]
    refine (ih fun other among => apart other (List.mem_append_left _ among)).snoc ?_
    refine .beside _ _ (.party act next step) fun other id does _ own => ?_
    cases does
    rw [apart act (List.mem_append_right _ (List.mem_singleton_self _))] at own
    cases own

theorem exchanges_of_acts (during : List Act) :
    exchanges (during.map fun act => .beside (.party act)) = [] := by
  rw [exchanges, List.filterMap_map, List.filterMap_eq_nil_iff]
  exact fun _ _ => rfl

def accepted : Except TransportError Json :=
  .ok (.object [("code", .int 0), ("messageId", .int 7)])

theorem receipt_accepted : Api.receipt accepted = .ok ⟨7⟩ := rfl

theorem granted_of_sending (session : Session) (target : ReplyTarget) (message : Message)
    (quote : Option MessageId) :
    ∀ exchange ∈ sending session target message quote accepted, Granted exchange := by
  rintro exchange among
  rcases List.mem_pair.mp among with rfl | rfl
  · rfl
  · exact ⟨_, receipt_accepted⟩

variable (answers) in
theorem completes_of_posting {key : String} {target : ReplyTarget} {message : Message}
    {quote : Option MessageId}
    (stands : interview.work = fromPosting key target message quote fromEnd) :
    ∃ more last, Trace (Interview.Step answers) interview more last ∧
      (∀ exchange ∈ exchanges more, Granted exchange) ∧ last.work = fromEnd ∧
        Api.messageRequest key target message quote ∈ requests (exchanges more) := by
  have goes : interview.work.GoesOn
      ⟨.request (Api.messageRequest key target message quote), accepted⟩ fromEnd := by
    rw [stands]
    exact .answer (.request _) _ accepted
  refine ⟨[.answered _], _, .single (.answer _ _ goes trivial), ?_, rfl, List.mem_cons_self⟩
  rintro exchange among
  obtain rfl := List.mem_singleton.mp among
  exact ⟨_, receipt_accepted⟩

variable (answers) in
/-- A handling that has waited can come to its end, and says its last word. -/
theorem completes_of_course {event : Option Event} {begun : List Exchange}
    (course : Course asker origin begun interview.work) (waited : outcomes begun = [.ok event]) :
    ∃ more last, Trace (Interview.Step answers) interview more last ∧
      (∀ exchange ∈ exchanges more, Granted exchange) ∧ last.work = fromEnd ∧
        ∃ key, Api.messageRequest key origin.target (lastWord origin (heard event)).1
          (lastWord origin (heard event)).2 ∈ requests (begun ++ exchanges more) := by
  obtain telling | ⟨session, posting⟩ | ⟨finished, key, made⟩ := course.after_wait waited
  · have goes : interview.work.GoesOn ⟨.session, some ⟨"", ⟨0⟩⟩⟩
        (fromPosting "" origin.target (lastWord origin (heard event)).1
          (lastWord origin (heard event)).2 fromEnd) := by
      rw [telling, fromAnswer_eq]
      exact .answer .session _ (some ⟨"", ⟨0⟩⟩)
    have looks : Interview.Step answers interview _ _ := .answer _ _ goes trivial
    obtain ⟨more, last, trace, granted, finished, made⟩ := completes_of_posting answers
      (show Interview.work { interview with work := _ } = _ from rfl)
    refine ⟨_, last, .cons looks trace, ?_, finished, "", ?_⟩
    · rintro exchange among
      rcases List.mem_cons.mp among with rfl | later
      · rfl
      · exact granted exchange later
    · rw [requests_append]
      exact List.mem_append_right _ made
  · obtain ⟨more, last, trace, granted, finished, made⟩ := completes_of_posting answers posting
    refine ⟨more, last, trace, granted, finished, session.key, ?_⟩
    rw [requests_append]
    exact List.mem_append_right _ made
  · exact ⟨[], interview, .nil, List.forall_mem_nil _, finished, key,
      (List.append_nil begun).symm ▸ made⟩

theorem Attends.returns (present : Attends answers past asker origin id now before after final)
    (taken : .saw errand shown id .taken ∈ acts after)
    (pending : Interview.Pending id (answerPattern asker origin.target).1
      (answerPattern asker origin.target).2 (some (now + answerTime)) after final) :
    ∃ more next, Trace (Interview.Step answers) final more next ∧
      exchanges more = [waited asker origin.target now (.ok (some shown))] := by
  obtain ⟨-, waiter, ⟨next, stands⟩, begun⟩ := pending
  have captor : .deliver errand shown ∈ captors (past ++ acts after) id := captor_of_taken taken
  have waits := present.reached.waits_of_deliver captor begun
  obtain ⟨hall, ⟨during, run, apart⟩, sent⟩ := present.reached.serves_deliver captor waits
  have reached : Hall.Reached answers _ hall := present.reached.append run
  obtain ⟨left, step⟩ := reached.returns (Hall.mem_captors_append captor during) sent
    (by rw [run.holders_eq apart]; exact begun)
  have trace := trace_of_run final run apart
  have returns : Interview.Step answers { final with station := { final.station with hall } } _ _ :=
    .return id _ _ _ next _ left stands waiter step
  refine ⟨_, _, trace.snoc returns, ?_⟩
  rw [exchanges_snoc, exchanges_of_acts]
  rfl

/-- A handling whose wait took a message can come to its end, and says its last word about it. -/
theorem Attends.completes (present : Attends answers past asker origin id now before after final)
    (taken : .saw errand shown id .taken ∈ acts after)
    (posed : Posed origin now (exchanges before)) :
    ∃ more last, Trace (Interview.Step answers) final more last ∧
      (∀ exchange ∈ exchanges more, Granted exchange) ∧ last.work = fromEnd ∧
        ∃ key, Api.messageRequest key origin.target (lastWord origin (heard (some shown))).1
          (lastWord origin (heard (some shown))).2 ∈
            requests (exchanges before ++ exchanges after ++ exchanges more) := by
  rcases present.outcomes_of_taken taken posed with pending | came
  · obtain ⟨more, next, trace, sole⟩ := present.returns taken pending
    have granted : ∀ exchange ∈ exchanges more, Granted exchange := by
      rintro exchange among
      rw [sole] at among
      obtain rfl := List.mem_singleton.mp among
      trivial
    have course := Interview.course_of_trace present.course trace granted
    have came : outcomes (exchanges before ++ exchanges after ++ exchanges more) =
        [.ok (some shown)] := by
      rw [List.append_assoc, posed.outcomes_append, pending.idle, sole]
      rfl
    obtain ⟨rest, last, ended, later, finished, key, made⟩ :=
      completes_of_course answers course came
    refine ⟨more ++ rest, last, trace.append ended, ?_, finished, key, ?_⟩
    · rintro exchange among
      rw [exchanges_append] at among
      exact (List.mem_append.mp among).elim (granted exchange) (later exchange)
    · rw [exchanges_append, ← List.append_assoc]
      exact made
  · exact completes_of_course answers present.course came

end Progress

/-- An answer is dealt with: the callback does not get it, the handling says nothing but the
question and a comment on the answer, and it comes to its end with the comment if it comes to one;
and it can come to one. -/
structure Commented (answers : Answers) (done : List Deed) (origin : Api.Origin)
    (history : List Happening) (final : Interview) (errand : ErrandId) (answer : String) :
    Prop where
  unspawned : ∀ frame back, .spawned frame errand back ∉ done ++ deeds history
  said : ∀ request ∈ requests (exchanges history), ∃ key,
    request = Api.messageRequest key origin.target question none ∨
      request = Api.messageRequest key origin.target (comment answer) (some origin.id)
  ended : ∀ result, final.work = .done result → result = .ok () ∧ ∃ key,
    Api.messageRequest key origin.target (comment answer) (some origin.id) ∈
      requests (exchanges history)
  completes : ∃ more last, Trace (Interview.Step answers) final more last ∧
    (∀ exchange ∈ exchanges more, Granted exchange) ∧ last.work = .done (.ok ()) ∧ ∃ key,
      Api.messageRequest key origin.target (comment answer) (some origin.id) ∈
        requests (exchanges (history ++ more))

theorem exchanges_of_registered {before after : List Happening} {id : WaiterId} {kind : EventKind}
    {deadline : Option Instant} {refusal : Option WaitError} :
    exchanges (before ++ .registered id kind deadline refusal :: after) =
      exchanges before ++ exchanges after := by
  rw [exchanges_append]
  rfl

theorem heard_of_message {event : Event} {answer : ReceivedMessage} {sender : UserId}
    {chat : ReplyTarget} (said : event.message? = some (answer, sender, chat)) :
    heard (some event) = some answer.plainText := by
  rw [heard, Option.bind_some, Event.received?, said]
  rfl

section Answer

variable {answers : Answers} {prior past : List Act} {done : List Deed} {asker : UserId}
  {origin : Api.Origin} {id : WaiterId} {now : Instant} {history before after : List Happening}
  {first final : Interview} {errand : ErrandId} {shown : Event}

theorem not_spawned (reached : Station.Reached answers prior done final.station)
    (hall : Hall.Reached answers past final.station.hall)
    (captor : .deliver errand shown ∈ captors past id) (frame : String) (back : Event) :
    .spawned frame errand back ∉ done := by
  intro spawned
  have passed : .passedOn frame errand back ∈ Station.dealings done :=
    List.mem_filterMap.mpr ⟨_, spawned, rfl⟩
  have balanced := hall.balanced errand
  simp only [Hall.Balanced, (reached.faithful.decided _ passed).2] at balanced
  have reply := (hall.claimed_of_deliver captor).2 (.unclaimed back)
    (balanced.2.2.1 ▸ List.mem_singleton_self _)
  cases reply

theorem Attends.commented
    (station : Station.Reached answers prior (done ++ deeds history) final.station)
    (present : Attends answers past asker origin id now before after final)
    (posed : Posed origin now (exchanges before))
    (whole : exchanges history = exchanges before ++ exchanges after)
    (taken : .saw errand shown id .taken ∈ acts after) {answer : ReceivedMessage}
    {sender : UserId} {chat : ReplyTarget}
    (said : shown.message? = some (answer, sender, chat)) :
    Commented answers done origin history final errand answer.plainText := by
  have text := heard_of_message said
  have came {result : Except WaitError (Option Event)}
      (waited : outcomes (exchanges before ++ exchanges after) = [result]) :
      result = .ok (some shown) := by
    rcases present.outcomes_of_taken taken posed with pending | came
    · rw [posed.outcomes_append, pending.idle] at waited
      cases waited
    · exact List.singleton_inj.mp (waited.symm.trans came)
  refine ⟨not_spawned station present.reached (captor_of_taken taken), ?_, ?_, ?_⟩
  · intro request made
    rw [whole] at made
    obtain ⟨key, rfl⟩ | ⟨event, waited, key, rfl⟩ := present.course.said made
    · exact ⟨key, .inl rfl⟩
    · cases came waited
      rw [text]
      exact ⟨key, .inr rfl⟩
  · intro result ended
    have course := present.course
    obtain ⟨outcome, waited⟩ : ∃ outcome,
        outcomes (exchanges before ++ exchanges after) = [outcome] := by
      rcases present.stage with pending | ⟨outcome, concluded⟩
      · obtain ⟨next, stands⟩ := pending.stands
        cases ended.symm.trans stands
      · exact ⟨outcome, (posed.outcomes_append _).trans concluded.once⟩
    rw [ended] at course
    cases came waited
    obtain telling | ⟨session, posting⟩ | ⟨finished, key, made⟩ := course.after_wait waited
    · rw [fromAnswer_eq] at telling
      cases telling
    · cases posting
    · cases finished
      rw [text] at made
      exact ⟨rfl, key, whole ▸ made⟩
  · obtain ⟨more, last, trace, granted, finished, key, made⟩ := present.completes taken posed
    refine ⟨more, last, trace, granted, finished, key, ?_⟩
    rw [text, ← whole, ← exchanges_append] at made
    exact made

theorem unwaited_of_trace (trace : Trace (Interview.Step answers) first history final)
    (vacant : first.waiter = none)
    (unregistered : ∀ id kind deadline refusal,
      .registered id kind deadline refusal ∉ history) :
    final.waiter = none ∧ outcomes (exchanges history) = [] := by
  induction trace with
  | nil => exact ⟨vacant, rfl⟩
  | @snoc history before final happening trace step ih =>
    obtain ⟨vacant, unwaited⟩ := ih fun id kind deadline refusal among =>
      unregistered id kind deadline refusal (List.mem_append_left _ among)
    obtain ⟨vacant, still⟩ := step.unwaited vacant fun id kind deadline refusal same =>
      unregistered id kind deadline refusal (by rw [same]; simp)
    rw [exchanges_snoc, outcomes_append, unwaited, still]
    exact ⟨vacant, rfl⟩

theorem tooSlow_ne_question (key other : String) (target : ReplyTarget) :
    Api.messageRequest key target tooSlow none ≠ Api.messageRequest other target question none := by
  intro same
  have texts := congrArg Request.spoken? same
  simp [tooSlow, question, Message.plainText_ofText] at texts

theorem tooSlow_ne_comment (key other answer : String) (target : ReplyTarget) (id : MessageId) :
    Api.messageRequest key target tooSlow none ≠
      Api.messageRequest other target (comment answer) (some id) := by
  intro same
  have quotes := congrArg Request.quoted? same
  simp at quotes

theorem Commented.not_slow {answer : String}
    (commented : Commented answers done origin history final errand answer) (key : String) :
    Api.messageRequest key origin.target tooSlow none ∉ requests (exchanges history) := by
  intro slow
  obtain ⟨other, same | same⟩ := commented.said _ slow
  · exact tooSlow_ne_question key other origin.target same
  · exact tooSlow_ne_comment key other answer origin.target origin.id same

theorem registered_of_slow (course : Course asker origin [] first.work)
    (vacant : first.waiter = none) (went : Trace (Interview.Step answers) first history final)
    (granted : ∀ exchange ∈ exchanges history, Granted exchange) {key : String}
    (slow : Api.messageRequest key origin.target tooSlow none ∈ requests (exchanges history)) :
    ∃ id kind deadline refusal, .registered id kind deadline refusal ∈ history := by
  by_contra unregistered
  simp only [not_exists] at unregistered
  have whole := Interview.course_of_trace course went granted
  rw [List.nil_append] at whole
  obtain ⟨other, same⟩ | ⟨event, came, -⟩ := whole.said slow
  · exact tooSlow_ne_question key other origin.target same
  · rw [(unwaited_of_trace went vacant unregistered).2] at came
    cases came

theorem handle_of_ask {event : Event} {message : ReceivedMessage} {target : ReplyTarget}
    (said : event.message? = some (message, asker, target))
    (asks : Text.trim message.plainText = "/ask") :
    (handle event).run = fromAsking asker ⟨target, message.source.id⟩ := by
  rw [handle_eq, said]
  dsimp only
  rw [fromMessage, Command.ofText_of_ask asks]

theorem friend_of_message {event : Event} {message : ReceivedMessage} {target : ReplyTarget}
    (said : event.message? = some (message, asker, target)) (user : UserId)
    (friend : target = .friend user) : user = asker := by
  obtain ⟨kind, payload⟩ := event
  subst friend
  cases kind <;> simp [Event.message?] at said
  exact said.2.2.symm.trans said.2.1

theorem attends_of_trace {kind : EventKind} {deadline : Option Instant}
    {refusal : Option WaitError} (reached : Hall.Reached answers past first.station.hall)
    (calm : first.station.hall.Calm) (course : Course asker origin [] first.work)
    (own : ∀ user, origin.target = .friend user → user = asker)
    (frank : ∀ id, Hall.Frank answers (answerSlot asker origin.target id))
    (went : Trace (Interview.Step answers) first
      (before ++ .registered id kind deadline refusal :: after) final)
    (granted : ∀ exchange ∈ exchanges (before ++ .registered id kind deadline refusal :: after),
      Granted exchange)
    (unswept : Hall.Unswept (acts (before ++ .registered id kind deadline refusal :: after))) :
    refusal = none ∧ ∃ now, Posed origin now (exchanges before) ∧
      deadline = some (now + answerTime) ∧
      Hears (past ++ acts before ++ [.registered id kind (.waiting deadline) refusal]) (acts after)
        id (now + answerTime) asker (heardChat asker origin.target) ∧
      Attends answers (past ++ acts before ++ [.registered id kind (.waiting deadline) refusal])
        asker origin id now before after final := by
  obtain ⟨gate, begun, begins, step, ends⟩ := went.split_at
  rw [exchanges_of_registered] at granted
  have granted_before : ∀ exchange ∈ exchanges before, Granted exchange := fun exchange among =>
    granted exchange (List.mem_append_left _ among)
  have granted_after : ∀ exchange ∈ exchanges after, Granted exchange := fun exchange among =>
    granted exchange (List.mem_append_right _ among)
  have parts : acts (before ++ .registered id kind deadline refusal :: after) =
      acts before ++ ([.registered id kind (.waiting deadline) refusal] ++ acts after) := by
    rw [acts_append]
    rfl
  rw [parts] at unswept
  have calm := (Interview.hall_of_trace begins).calm calm fun errand reason closing among =>
    unswept errand reason closing (List.mem_append_left _ among)
  have course := Interview.course_of_trace course begins granted_before
  obtain ⟨rfl, now, posed, rfl, fresh, attends⟩ :=
    attends_of_register (reached.append (Interview.hall_of_trace begins)) calm course step
  have unswept_after : Hall.Unswept (acts after) := fun errand reason closing among =>
    unswept errand reason closing (List.mem_append_right _ (List.mem_append_right _ among))
  exact ⟨rfl, now, posed, rfl,
    attends.hears (frank id) ends granted_after unswept_after fresh own,
    (attends.of_trace (frank id) ends granted_after unswept_after).2⟩

/-- Whoever asks for a question is heard. The question is posed and a waiter registered for half a
minute from when the clock was looked at. The first message of the asker that arrives within this
time, in the chat where answers are heard, goes to that waiter, unless a waiter that was registered
before takes it; nothing else goes to it. Then the callback does not get the message, and the bot
comments on it, quoting the question. It complains of the delay only if every message that arrived
in time went to a waiter that was registered before. -/
theorem ask_hears_answer {station : Station} {event : Event} {message : ReceivedMessage}
    {target : ReplyTarget} (reached : Station.Reached answers prior done station)
    (calm : station.hall.Calm) (said : event.message? = some (message, asker, target))
    (asks : Text.trim message.plainText = "/ask")
    (frank : ∀ id, Hall.Frank answers (answerSlot asker target id))
    (went : Trace (Interview.Step answers) ⟨station, (handle event).run, none⟩ history final)
    (granted : ∀ exchange ∈ exchanges history, Granted exchange)
    (unswept : Hall.Unswept (acts history)) :
    (∀ before id kind deadline refusal after,
      history = before ++ .registered id kind deadline refusal :: after →
        refusal = none ∧ ∃ now, Posed ⟨target, message.source.id⟩ now (exchanges before) ∧
          deadline = some (now + answerTime) ∧
          Hears (prior ++ Station.acts done ++ acts before ++
            [.registered id kind (.waiting deadline) refusal]) (acts after) id (now + answerTime)
            asker (heardChat asker target) ∧
          ∀ errand shown, .saw errand shown id .taken ∈ acts after → ∃ answer,
            shown.message? = some (answer, asker, heardChat asker target) ∧
              Commented answers done ⟨target, message.source.id⟩ history final errand
                answer.plainText) ∧
      ∀ key, Api.messageRequest key target tooSlow none ∈ requests (exchanges history) →
        ∃ before id kind now refusal after,
          history = before ++ .registered id kind (some (now + answerTime)) refusal :: after ∧
            ∀ earlier errand search shown,
              Arrives (prior ++ Station.acts done ++ acts before ++
                [.registered id kind (.waiting (some (now + answerTime))) refusal]) (acts after)
                (now + answerTime) asker (heardChat asker target) earlier errand search shown →
                ∃ other < id, .saw errand shown other .taken ∈ search := by
  have station := Interview.reached_of_trace reached went
  have course : Course asker ⟨target, message.source.id⟩ [] (handle event).run :=
    handle_of_ask said asks ▸ .asking
  have own := friend_of_message said
  refine ⟨?_, fun key slow => ?_⟩
  · rintro before id kind deadline refusal after rfl
    obtain ⟨rfl, now, posed, rfl, hears, attends⟩ :=
      attends_of_trace reached.faithful.hall calm course own frank went granted unswept
    refine ⟨rfl, now, posed, rfl, hears, fun errand shown taken => ?_⟩
    obtain ⟨answer, told⟩ := attends.replies_of_taken taken own
    exact ⟨answer, told, attends.commented station posed exchanges_of_registered taken told⟩
  · obtain ⟨id, kind, deadline, refusal, among⟩ := registered_of_slow course rfl went granted slow
    obtain ⟨before, after, rfl⟩ := List.append_of_mem among
    obtain ⟨rfl, now, posed, rfl, hears, attends⟩ :=
      attends_of_trace reached.faithful.hall calm course own frank went granted unswept
    have untaken (errand : ErrandId) (shown : Event) :
        .saw errand shown id .taken ∉ acts after := by
      intro taken
      obtain ⟨answer, told⟩ := attends.replies_of_taken taken own
      have commented := attends.commented station posed exchanges_of_registered taken told
      exact commented.not_slow key slow
    refine ⟨before, id, kind, now, none, after, rfl, fun earlier errand search shown arrives => ?_⟩
    obtain ⟨later, split⟩ := arrives.searched
    obtain first | taken | ⟨owner, sooner, taken⟩ := hears earlier errand search shown arrives
    · exact first
    · exact absurd (by simp [split, taken]) (untaken errand shown)
    · exact absurd (by simp [split, taken]) (untaken owner sooner)

end Answer

theorem evaluated_frank (asker : UserId) (target : ReplyTarget) (id : WaiterId) :
    Hall.Frank Hall.evaluated (answerSlot asker target id) := by
  rintro event verdict rfl
  by_cases user : event.user? = some asker
  · cases target with
    | group group =>
      by_cases here : event.group? = some group <;>
        simp [answerSlot, answerPattern, Pattern.evaluate, Pattern.evaluateAll, Verdict.ofBool,
          user, here]
    | friend | temp => simp [answerSlot, answerPattern, Pattern.evaluate, Verdict.ofBool, user]
  · cases target <;>
      simp [answerSlot, answerPattern, Pattern.evaluate, Pattern.evaluateAll, Verdict.ofBool, user]

def written (id : MessageId) (text : String) : MemberMessage :=
  ⟨⟨⟨id, 0⟩, none, .ofText text⟩, ⟨⟨42⟩, "", .member, ⟨⟨1⟩, "", .member⟩⟩⟩

/-- A question is posed in a chat, and the clock is looked at. -/
def posing (target : ReplyTarget) : List Happening :=
  List.map .answered
    (sending ⟨"key", ⟨1⟩⟩ target question none accepted ++ [⟨.now, (0 : Instant)⟩])

/-- A question is posed in a chat, and a waiter registered for the answer. -/
def opening (target : ReplyTarget) : List Happening :=
  posing target ++ [.registered 0 (answerPattern ⟨42⟩ target).1 (some answerTime) none]

theorem opening_went (origin : Api.Origin) :
    Trace (Interview.Step Hall.evaluated)
      ⟨Station.start Hall.start, fromAsking ⟨42⟩ origin, none⟩ (opening origin.target)
      ⟨Station.start (Hall.start.enrol (answerPattern ⟨42⟩ origin.target).1
        (answerPattern ⟨42⟩ origin.target).2 (.waiting (some answerTime))),
        fromWaiting ⟨42⟩ origin answerTime, some 0⟩ := by
  have h0 : Trace (Interview.Step Hall.evaluated)
    ⟨Station.start Hall.start, fromAsking ⟨42⟩ origin, none⟩ [] _ := .nil
  have h1 := h0.snoc (.answer _ _ (.answer .session _ (some ⟨"key", ⟨1⟩⟩)) trivial)
  have h2 := h1.snoc (.answer _ _ (.answer (.request _) _ accepted) trivial)
  have h3 := h2.snoc (.answer _ _ (.answer .now _ (0 : Instant)) rfl)
  exact h3.snoc (.register _ _ _ _ rfl rfl rfl)

def answerInGroup : Event := ⟨.groupMessage, written ⟨6⟩ "red"⟩

def searchInGroup : List Act :=
  [.asked 0 (.offer answerInGroup), .entered 0, .consulted 0 answerInGroup 0,
    .saw 0 answerInGroup 0 .taken, .left 0, .sent 0 0 (.ok answerInGroup), .answered 0 .claimed]

def groupDialogue : List Happening :=
  opening (.group ⟨1⟩) ++ searchInGroup.map (fun act => .beside (.party act)) ++
    [.returned 0 .groupMessage (answerPattern ⟨42⟩ (.group ⟨1⟩)).2 (some answerTime)
      (.ok (some answerInGroup))] ++
    (sending ⟨"key", ⟨1⟩⟩ (.group ⟨1⟩) (comment "red") (some ⟨5⟩) accepted).map .answered

theorem groupDialogue_went : ∃ final, Trace (Interview.Step Hall.evaluated)
    ⟨Station.start Hall.start, (handle ⟨.groupMessage, written ⟨5⟩ "/ask"⟩).run, none⟩
    groupDialogue final ∧ final.work = fromEnd := by
  have opened := opening_went ⟨.group ⟨1⟩, ⟨5⟩⟩
  have h0 : Hall.Run Hall.evaluated (Hall.start.enrol .groupMessage
    (answerPattern ⟨42⟩ (.group ⟨1⟩)).2 (.waiting (some answerTime))) [] _ := .nil
  have h1 := h0.snoc (.ask 0 (.offer answerInGroup) rfl)
  have h2 := h1.snoc (.enterSearch 0 answerInGroup rfl rfl)
  have h3 := h2.snoc (.consult 0 answerInGroup _ _ _ rfl (by decide) rfl)
  have h4 := h3.snoc (.judge 0 answerInGroup _ _ _ _ .accepts _ rfl rfl rfl)
  have h5 := h4.snoc (.leaveSearch 0 answerInGroup _ rfl)
  have h6 := h5.snoc (.send 0 _ _ 0 (.ok answerInGroup) _ rfl)
  have h7 := h6.snoc (.answer 0 _ _ rfl)
  have heard := opened.append (trace_of_run ⟨Station.start _, _, _⟩ h7 (by decide))
  have h8 := heard.snoc (.return 0 _ _ _ _ _ _ rfl rfl (.finish 0 _ _ _ _ _ rfl rfl))
  have h9 := h8.snoc (.answer _ _ (.answer .session _ (some ⟨"key", ⟨1⟩⟩)) trivial)
  have h10 := h9.snoc (.answer _ _ (.answer (.request _) _ accepted) trivial)
  rw [handle_of_ask rfl (by decide)]
  exact ⟨_, h10, rfl⟩

theorem start_calm : (Station.start Hall.start).hall.Calm where
  open_ := rfl
  unasked _ _ _ asked := by cases asked

/-- The answer is taken by the wait, and the bot comments on it. -/
theorem group_answer_heard : ∃ final,
    Trace (Interview.Step Hall.evaluated)
      ⟨Station.start Hall.start, (handle ⟨.groupMessage, written ⟨5⟩ "/ask"⟩).run, none⟩
      groupDialogue final ∧
    (∀ exchange ∈ exchanges groupDialogue, Granted exchange) ∧
    Hall.Unswept (acts groupDialogue) ∧ .saw 0 answerInGroup 0 .taken ∈ acts groupDialogue ∧
    Commented Hall.evaluated [] ⟨.group ⟨1⟩, ⟨5⟩⟩ groupDialogue final 0 "red" := by
  obtain ⟨final, went, -⟩ := groupDialogue_went
  have seen : acts groupDialogue =
      [.registered 0 .groupMessage (.waiting (some answerTime)) none] ++ searchInGroup ++
        [.returned 0 (.waiting (some answerTime)) (.ok (some answerInGroup))] := rfl
  have told : exchanges groupDialogue =
      sending ⟨"key", ⟨1⟩⟩ (.group ⟨1⟩) question none accepted ++
        [⟨.now, (0 : Instant)⟩, waited ⟨42⟩ (.group ⟨1⟩) 0 (.ok (some answerInGroup))] ++
        sending ⟨"key", ⟨1⟩⟩ (.group ⟨1⟩) (comment "red") (some ⟨5⟩) accepted := rfl
  have granted : ∀ exchange ∈ exchanges groupDialogue, Granted exchange := by
    simp only [told, List.forall_mem_append]
    exact ⟨⟨granted_of_sending _ _ _ _, by simp [Granted, waited]⟩, granted_of_sending _ _ _ _⟩
  have unswept : Hall.Unswept (acts groupDialogue) := by simp [Hall.Unswept, seen, searchInGroup]
  have taken : .saw 0 answerInGroup 0 .taken ∈ acts groupDialogue := by simp [seen, searchInGroup]
  refine ⟨final, went, granted, unswept, taken, ?_⟩
  obtain ⟨-, now, -, -, -, heard⟩ := (ask_hears_answer (.start .nil) start_calm rfl (by decide)
    (evaluated_frank _ _) went granted unswept).1
      (posing (.group ⟨1⟩)) _ _ _ _ _ rfl
  obtain ⟨answer, told, commented⟩ := heard 0 answerInGroup (by
    simp [acts, searchInGroup, Happening.act?, Happening.deed?, Deed.act?])
  cases told
  exact commented

def answerInPrivate : Event := ⟨.tempMessage, written ⟨6⟩ "red"⟩

def privately : ReplyTarget := .temp ⟨⟨42⟩, ⟨1⟩⟩

def searchInPrivate : List Act :=
  [.asked 0 (.offer answerInPrivate), .entered 0, .saw 0 answerInPrivate 0 .otherKind, .left 0,
    .answered 0 (.unclaimed answerInPrivate)]

/-- Somebody asks in a temporary chat, and answers in time. -/
def privateDialogue : List Happening :=
  opening privately ++
    List.map (fun act => .beside (.party act)) (searchInPrivate ++ [.passed answerTime]) ++
    [.withdrew 0 true,
      .returned 0 .friendMessage (answerPattern ⟨42⟩ privately).2 (some answerTime) (.ok none)] ++
    (sending ⟨"key", ⟨1⟩⟩ privately tooSlow none accepted).map .answered

theorem privateDialogue_went : ∃ final, Trace (Interview.Step Hall.evaluated)
    ⟨Station.start Hall.start, (handle ⟨.tempMessage, written ⟨5⟩ "/ask"⟩).run, none⟩
    privateDialogue final ∧ final.work = fromEnd := by
  have opened := opening_went ⟨privately, ⟨5⟩⟩
  have h0 : Hall.Run Hall.evaluated (Hall.start.enrol .friendMessage
    (answerPattern ⟨42⟩ privately).2 (.waiting (some answerTime))) [] _ := .nil
  have h1 := h0.snoc (.ask 0 (.offer answerInPrivate) rfl)
  have h2 := h1.snoc (.enterSearch 0 answerInPrivate rfl rfl)
  have h3 := h2.snoc (.passKind 0 answerInPrivate _ _ _ rfl (by decide) (by decide))
  have h4 := h3.snoc (.leaveSearch 0 answerInPrivate _ rfl)
  have h5 := h4.snoc (.answer 0 _ _ rfl)
  have h6 := h5.snoc (.pass answerTime (Nat.zero_le _))
  have missed := opened.append (trace_of_run ⟨Station.start _, _, _⟩ h6 (by decide))
  have h7 := missed.snoc (.withdraw 0 true _ rfl (.cancel 0 _ _ _ _ rfl rfl rfl))
  have h8 := h7.snoc (.return 0 _ _ _ _ _ _ rfl rfl (.remove 0 _ rfl rfl))
  have h9 := h8.snoc (.answer _ _ (.answer .session _ (some ⟨"key", ⟨1⟩⟩)) trivial)
  have h10 := h9.snoc (.answer _ _ (.answer (.request _) _ accepted) trivial)
  rw [handle_of_ask rfl (by decide)]
  exact ⟨_, h10, rfl⟩

/-- In a temporary chat the answer of the asker in the same chat arrives in time, and no other
waiter is there; yet nobody takes it, it comes back to be handled by the callback, and the bot
complains of the delay. -/
theorem private_answer_missed : ∃ final,
    (Station.start Hall.start).hall.Calm ∧
    (⟨.tempMessage, written ⟨5⟩ "/ask"⟩ : Event).message? =
      some ((written ⟨5⟩ "/ask").message, ⟨42⟩, privately) ∧
    Text.trim (written ⟨5⟩ "/ask").message.plainText = "/ask" ∧
    Trace (Interview.Step Hall.evaluated)
      ⟨Station.start Hall.start, (handle ⟨.tempMessage, written ⟨5⟩ "/ask"⟩).run, none⟩
      privateDialogue final ∧
    (∀ exchange ∈ exchanges privateDialogue, Granted exchange) ∧
    Hall.Unswept (acts privateDialogue) ∧
    (∃ during, acts privateDialogue =
        .registered 0 .friendMessage (.waiting (some answerTime)) none :: during ∧
      Arrives [.registered 0 .friendMessage (.waiting (some answerTime)) none] during answerTime
        ⟨42⟩ privately [.asked 0 (.offer answerInPrivate)] 0
        [.saw 0 answerInPrivate 0 .otherKind] answerInPrivate) ∧
    (∀ errand shown id, .saw errand shown id .taken ∉ acts privateDialogue) ∧
    .answered 0 (.unclaimed answerInPrivate) ∈ acts privateDialogue ∧
    Api.messageRequest "key" privately tooSlow none ∈ requests (exchanges privateDialogue) := by
  obtain ⟨final, went, -⟩ := privateDialogue_went
  have seen : acts privateDialogue =
      .registered 0 .friendMessage (.waiting (some answerTime)) none :: (searchInPrivate ++
        [.passed answerTime, .withdrew 0 true,
          .returned 0 (.waiting (some answerTime)) (.ok none)]) := rfl
  have told : exchanges privateDialogue =
      sending ⟨"key", ⟨1⟩⟩ privately question none accepted ++
        [⟨.now, (0 : Instant)⟩, waited ⟨42⟩ privately 0 (.ok none)] ++
        sending ⟨"key", ⟨1⟩⟩ privately tooSlow none accepted := rfl
  refine ⟨final, start_calm, rfl, by decide, went, ?_, ?_, ⟨_, seen, ?_⟩, ?_, ?_, ?_⟩
  · simp only [told, List.forall_mem_append]
    exact ⟨⟨granted_of_sending _ _ _ _, by simp [Granted, waited]⟩, granted_of_sending _ _ _ _⟩
  · simp [Hall.Unswept, seen, searchInPrivate]
  · exact ⟨⟨_, rfl⟩, by simp [searchInPrivate, Hall.requests, Act.request?], ⟨_, rfl⟩, by decide⟩
  · simp [seen, searchInPrivate]
  · simp [seen, searchInPrivate]
  · simp [told, requests, sending]

end Repeater
end Switchboard
