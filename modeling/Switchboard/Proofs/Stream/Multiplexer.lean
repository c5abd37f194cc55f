import Switchboard.Proofs.Stream.Station
import Switchboard.Proofs.Waiter.Search

set_option autoImplicit false

namespace Switchboard

open Hall (Answers Chosen evaluated requests replies recipients filterMap_snoc)

/-- What a reader does to others about its frames. -/
inductive Effect where
  | reported (error : DispatchError)
  | offered (errand : ErrandId) (event : Event)
  | spawned (event : Event)

/-- How a frame was dealt with. -/
inductive Dealing where
  | skipped (frame : String) (error : DecodeError)
  | claimed (frame : String) (errand : ErrandId) (event : Event)
  | passedOn (frame : String) (errand : ErrandId) (event : Event)

namespace Dealing

def frame : Dealing → String
  | .skipped frame _ | .claimed frame _ _ | .passedOn frame _ _ => frame

def errand? : Dealing → Option ErrandId
  | .skipped _ _ => none
  | .claimed _ errand _ | .passedOn _ errand _ => some errand

def error? : Dealing → Option DecodeError
  | .skipped _ error => some error
  | .claimed .. | .passedOn .. => none

/-- What the multiplexer does about a frame that it deals with like this. -/
def effects : Dealing → List Effect
  | .skipped _ error => [.reported (.undecodable error)]
  | .claimed _ errand event => [.offered errand event]
  | .passedOn _ errand event => [.offered errand event, .spawned event]

/-- The frame had to be dealt with like this, as things were in the hall. -/
def Right (answers : Answers) (acts : List Act) : Dealing → Prop
  | .skipped frame error => Event.decode frame = .error error
  | .claimed frame errand event =>
    Event.decode frame = .ok event ∧ replies acts errand = [.claimed] ∧
      ∃ waiter, recipients acts errand = [(waiter, event)] ∧
        Chosen answers acts errand event (some waiter)
  | .passedOn frame errand event =>
    Event.decode frame = .ok event ∧ replies acts errand = [.unclaimed event] ∧
      recipients acts errand = [] ∧ Chosen answers acts errand event none

end Dealing

def DispatchError.decodeError? : DispatchError → Option DecodeError
  | .undecodable error => some error
  | _ => none

def ReaderSignal.frame? : ReaderSignal → Option String
  | .frame text => some text
  | _ => none

def ReaderAction.frame? : ReaderAction → Option String
  | .dispatch frame => some frame
  | _ => none

namespace Deed

def effect? : Deed → Option Effect
  | .skipped _ error => some (.reported (.undecodable error))
  | .offered _ errand event => some (.offered errand event)
  | .spawned _ _ event => some (.spawned event)
  | _ => none

def dealing? : Deed → Option Dealing
  | .skipped frame error => some (.skipped frame error)
  | .claimed frame errand event => some (.claimed frame errand event)
  | .spawned frame errand event => some (.passedOn frame errand event)
  | _ => none

def offered? : Deed → Option ErrandId
  | .offered _ errand _ => some errand
  | _ => none

def delivered? : Deed → Option ReaderSignal
  | .delivered signal => some signal
  | _ => none

def taken? : Deed → Option ReaderSignal
  | .heard signal => if signal.isStreamed then some signal else none
  | _ => none

end Deed

namespace Pursuit

def frame? : Pursuit → Option String
  | .offering frame _ _ => some frame
  | .closing .. => none

def errand? : Pursuit → Option ErrandId
  | .offering _ errand _ => some errand
  | .closing .. => none

/-- What was done about the frame so far. -/
def effects : Pursuit → List Effect
  | .offering _ errand event => [.offered errand event]
  | .closing .. => []

end Pursuit

namespace Station

/-- The frames that the stream has delivered. -/
def framesDelivered (history : List Deed) : List String :=
  (history.filterMap Deed.delivered?).filterMap ReaderSignal.frame?

/-- The frames that the reader has taken up. -/
def framesTaken (history : List Deed) : List String :=
  (history.filterMap Deed.taken?).filterMap ReaderSignal.frame?

def dealings (history : List Deed) : List Dealing := history.filterMap Deed.dealing?

def effects (history : List Deed) : List Effect := history.filterMap Deed.effect?

/-- The decoding errors that the sink got, from the reader or from anybody else. -/
def decodeErrors (history : List Deed) : List DecodeError :=
  (history.filterMap Deed.report?).filterMap DispatchError.decodeError?

/-- The frames that the reader has taken up and not dealt with. -/
def inHand (station : Station) : List String :=
  (station.pursuit.bind Pursuit.frame?).toList ++ station.agenda.filterMap ReaderAction.frame?

def begun (station : Station) : List Effect := station.pursuit.toList.flatMap Pursuit.effects

/-- What was decided about a frame stands in the hall. -/
def Decided (hall : Hall) : Dealing → Prop
  | .skipped frame error => Event.decode frame = .error error
  | .claimed frame errand event =>
    Event.decode frame = .ok event ∧ hall.errands errand = .answered (.offer event) .claimed
  | .passedOn frame errand event =>
    Event.decode frame = .ok event ∧
      hall.errands errand = .answered (.offer event) (.unclaimed event)

/-- The reader waits for the answer to an errand that it made. -/
def Pursued (acts : List Act) : Pursuit → Prop
  | .offering frame errand event =>
    Event.decode frame = .ok event ∧ .offer event ∈ requests acts errand
  | .closing .. => True

/-- What a reader has done agrees with the frames that it has taken up. -/
structure Faithful (answers : Answers) (before : List Act) (history : List Deed)
    (station : Station) : Prop where
  hall : Hall.Reached answers (before ++ acts history) station.hall
  signals : history.filterMap Deed.delivered? =
    history.filterMap Deed.taken? ++ station.stream
  frames : framesTaken history = (dealings history).map Dealing.frame ++ station.inHand
  single : station.inHand.length ≤ 1
  effects : effects history = (dealings history).flatMap Dealing.effects ++ station.begun
  pursued : ∀ pursuit, station.pursuit = some pursuit →
    Pursued (before ++ acts history) pursuit
  decided : ∀ dealing ∈ dealings history, Decided station.hall dealing
  distinct : ((dealings history).filterMap Dealing.errand? ++
    (station.pursuit.bind Pursuit.errand?).toList).Nodup

variable {answers : Answers} {before : List Act} {history : List Deed} {station next : Station}
  {deed : Deed}

theorem start_faithful {hall : Hall} (reached : Hall.Reached answers before hall) :
    Faithful answers before [] (start hall) where
  hall := by
    rw [acts, List.filterMap_nil, List.append_nil]
    exact reached
  signals := rfl
  frames := rfl
  single := Nat.zero_le _
  effects := rfl
  pursued := fun _ found => nomatch found
  decided := fun _ member => nomatch member
  distinct := List.nodup_nil

/-- A reader that takes up a frame has to deal with it, and with no frame after another signal. -/
theorem listen_react {phase : ReaderPhase} {view : ReaderView} {signal : ReaderSignal}
    (heard : phase.listen view = some signal) :
    (phase.react signal).2.filterMap ReaderAction.frame? =
      (if signal.isStreamed then signal.frame? else none).toList := by
  cases phase with
  | reading => cases signal <;> rfl
  | starting =>
    cases heard
    rfl
  | connecting =>
    have other : signal.isStreamed = false := by
      simp only [ReaderPhase.listen] at heard
      split at heard
      · cases heard
        rfl
      · split at heard <;> cases heard <;> rfl
    rw [other]
    cases signal <;> rfl
  | draining outcome =>
    simp only [ReaderPhase.listen] at heard
    split at heard <;> cases heard
    rfl
  | closed => cases heard

theorem listen_streamed {phase : ReaderPhase} {view : ReaderView} {signal : ReaderSignal}
    (heard : phase.listen view = some signal) (streamed : signal.isStreamed = true) :
    view.next = some signal := by
  cases phase with
  | reading =>
    simp only [ReaderPhase.listen] at heard
    split at heard
    · cases heard
      cases streamed
    · exact heard
  | starting =>
    cases heard
    cases streamed
  | connecting =>
    simp only [ReaderPhase.listen] at heard
    split at heard
    · cases heard
      cases streamed
    · split at heard <;> cases heard <;> cases streamed
  | draining outcome =>
    simp only [ReaderPhase.listen] at heard
    split at heard <;> cases heard
    cases streamed
  | closed => cases heard

/-- A step by which nothing is taken up and nothing is done about a frame in hand. -/
theorem Step.signals (step : Step answers station deed next)
    (signals : history.filterMap Deed.delivered? =
      history.filterMap Deed.taken? ++ station.stream) :
    (history ++ [deed]).filterMap Deed.delivered? =
      (history ++ [deed]).filterMap Deed.taken? ++ next.stream := by
  rw [filterMap_snoc, filterMap_snoc, signals, List.append_assoc, List.append_assoc]
  refine congrArg _ ?_
  cases step with
  | deliver signal streamed => rfl
  | hear signal idle quiet heard =>
    cases streamed : signal.isStreamed with
    | false => simp [Deed.delivered?, Deed.taken?, Station.hear, streamed]
    | true =>
      have first : station.stream.head? = some signal := listen_streamed heard streamed
      obtain ⟨rest, split⟩ := List.head?_eq_some_iff.mp first
      simp [Deed.delivered?, Deed.taken?, Station.hear, streamed, split]
  | _ => exact List.append_nil _

theorem Step.inHand (step : Step answers station deed next) :
    station.inHand ++ (deed.taken?.bind ReaderSignal.frame?).toList =
      (deed.dealing?.map Dealing.frame).toList ++ next.inHand ∧
    (deed.taken? = none ∨ station.inHand = []) := by
  cases step with
  | hear signal idle quiet heard =>
    have empty : station.inHand = [] := by simp [Station.inHand, idle, quiet]
    have fresh : (station.hear signal).inHand =
        (station.phase.react signal).2.filterMap ReaderAction.frame? := by
      simp [Station.inHand, Station.hear, quiet]
    refine ⟨?_, Or.inr empty⟩
    rw [empty, fresh, listen_react heard]
    simp only [Deed.taken?, Deed.dealing?]
    split <;> rfl
  | skip frame error rest quiet upcoming decoded =>
    simp [Station.inHand, quiet, upcoming, Deed.taken?, Deed.dealing?, Dealing.frame,
      ReaderAction.frame?]
  | offer frame event rest errand hall quiet upcoming decoded step =>
    simp [Station.inHand, quiet, upcoming, Deed.taken?, Deed.dealing?, Pursuit.frame?,
      ReaderAction.frame?]
  | claimed frame errand event request pursued answered =>
    simp [Station.inHand, pursued, Deed.taken?, Deed.dealing?, Dealing.frame, Pursuit.frame?]
  | spawn frame errand event back request pursued answered =>
    simp [Station.inHand, pursued, Deed.taken?, Deed.dealing?, Dealing.frame, Pursuit.frame?]
  | close reason rest errand hall quiet upcoming step =>
    simp [Station.inHand, quiet, upcoming, Deed.taken?, Deed.dealing?, Pursuit.frame?,
      ReaderAction.frame?, List.filterMap_cons]
  | closed reason errand request reply pursued answered =>
    simp [Station.inHand, pursued, Deed.taken?, Deed.dealing?, Pursuit.frame?]
  | reopen rest hall quiet upcoming step =>
    simp [Station.inHand, quiet, upcoming, Deed.taken?, Deed.dealing?, ReaderAction.frame?,
      List.filterMap_cons]
  | publish state rest quiet upcoming =>
    simp [Station.inHand, quiet, upcoming, Deed.taken?, Deed.dealing?, ReaderAction.frame?,
      List.filterMap_cons]
  | closeStream outcome rest quiet upcoming =>
    simp [Station.inHand, quiet, upcoming, Deed.taken?, Deed.dealing?, ReaderAction.frame?,
      List.filterMap_cons]
  | finish result rest quiet upcoming =>
    simp [Station.inHand, quiet, upcoming, Deed.taken?, Deed.dealing?, ReaderAction.frame?,
      List.filterMap_cons]
  | _ => exact ⟨List.append_nil _, Or.inl rfl⟩

theorem dealings_snoc :
    dealings (history ++ [deed]) = dealings history ++ deed.dealing?.toList :=
  filterMap_snoc _ _ _

theorem acts_snoc : acts (history ++ [deed]) = acts history ++ deed.act?.toList :=
  filterMap_snoc _ _ _

theorem Step.hall (step : Step answers station deed next)
    (reached : Hall.Reached answers (before ++ acts history) station.hall) :
    Hall.Reached answers (before ++ acts (history ++ [deed])) next.hall := by
  rw [acts_snoc, ← List.append_assoc]
  cases step with
  | party act hall step => exact Hall.Run.snoc reached step
  | reopen rest hall quiet upcoming step => exact Hall.Run.snoc reached step
  | close reason rest errand hall quiet upcoming step => exact Hall.Run.snoc reached step
  | offer frame event rest errand hall quiet upcoming decoded step =>
    exact Hall.Run.snoc reached step
  | _ =>
    simp only [Deed.act?, Option.toList_none, List.append_nil]
    exact reached

theorem answered_offer {acts : List Act} {hall : Hall} (reached : Hall.Reached answers acts hall)
    {errand : ErrandId} {event : Event} {request : Errand} {reply : Reply}
    (offered : .offer event ∈ requests acts errand)
    (answered : hall.errands errand = .answered request reply) :
    request = .offer event ∧ ∀ back, reply = .unclaimed back → back = event := by
  have balanced := reached.balanced errand
  simp only [Hall.Balanced, answered] at balanced
  rw [balanced.1, List.mem_singleton] at offered
  subst offered
  refine ⟨rfl, ?_⟩
  intro back same
  obtain ⟨taker, -, -, -, made⟩ := reached.chosen answered
  rw [same] at made
  split at made <;> cases made
  rfl

/-- What a reader has begun about a frame in hand is the first of what there is to do about it. -/
theorem Step.begun (step : Step answers station deed next)
    (faithful : Faithful answers before history station) :
    station.begun ++ deed.effect?.toList =
      deed.dealing?.toList.flatMap Dealing.effects ++ next.begun := by
  cases step with
  | offer frame event rest errand hall quiet upcoming decoded step =>
    simp [Station.begun, quiet, Deed.effect?, Deed.dealing?, Pursuit.effects]
  | skip frame error rest quiet upcoming decoded =>
    simp [Station.begun, quiet, Deed.effect?, Deed.dealing?, Dealing.effects]
  | claimed frame errand event request pursued answered =>
    simp [Station.begun, pursued, Deed.effect?, Deed.dealing?, Dealing.effects, Pursuit.effects]
  | spawn frame errand event back request pursued answered =>
    obtain ⟨decoded, offered⟩ := faithful.pursued _ pursued
    obtain ⟨-, same⟩ := answered_offer faithful.hall offered answered
    rw [same back rfl]
    simp [Station.begun, pursued, Deed.effect?, Deed.dealing?, Dealing.effects, Pursuit.effects]
  | close reason rest errand hall quiet upcoming step =>
    simp [Station.begun, quiet, Deed.effect?, Deed.dealing?, Pursuit.effects]
  | closed reason errand request reply pursued answered =>
    simp [Station.begun, pursued, Deed.effect?, Deed.dealing?, Pursuit.effects]
  | _ => exact List.append_nil _

theorem Pursued.append {acts : List Act} {pursuit : Pursuit} (pursued : Pursued acts pursuit)
    (later : List Act) : Pursued (acts ++ later) pursuit := by
  cases pursuit with
  | offering frame errand event =>
    obtain ⟨decoded, offered⟩ := pursued
    refine ⟨decoded, ?_⟩
    rw [requests, List.filterMap_append]
    exact List.mem_append_left _ offered
  | closing => trivial

theorem Step.pursued (step : Step answers station deed next)
    (faithful : Faithful answers before history station) (pursuit : Pursuit)
    (found : next.pursuit = some pursuit) :
    Pursued (before ++ acts (history ++ [deed])) pursuit := by
  have kept : station.pursuit = some pursuit →
      Pursued (before ++ acts (history ++ [deed])) pursuit := by
    intro before
    rw [acts_snoc, ← List.append_assoc]
    exact (faithful.pursued pursuit before).append _
  cases step with
  | offer frame event rest errand hall quiet upcoming decoded step =>
    cases found
    refine ⟨decoded, ?_⟩
    rw [acts_snoc, ← List.append_assoc, requests, List.filterMap_append]
    exact List.mem_append_right _ (by simp [Deed.act?, Act.request?])
  | close reason rest errand hall quiet upcoming step =>
    cases found
    trivial
  | claimed | spawn | closed => cases found
  | _ => exact kept found

theorem answered_kept {hall later : Hall} {act : Act} (step : Hall.Step answers hall act later)
    (orderly : Hall.Orderly hall) {errand : ErrandId} {request : Errand} {reply : Reply}
    (answered : hall.errands errand = .answered request reply) :
    later.errands errand = .answered request reply := by
  have other : act.errand? ≠ some errand := by
    intro own
    obtain ⟨asked, answer, ⟨letter, rest, found, -⟩ | ⟨found, -⟩⟩ :=
      step.own_of_told orderly (by rw [answered]; trivial) own <;>
      exact nomatch answered.symm.trans found
  rw [(step.errand_frame other).1, answered]

theorem Decided.kept {hall later : Hall} {act : Act} {dealing : Dealing}
    (decided : Decided hall dealing) (step : Hall.Step answers hall act later)
    (orderly : Hall.Orderly hall) : Decided later dealing := by
  cases dealing with
  | skipped => exact decided
  | claimed | passedOn => exact ⟨decided.1, answered_kept step orderly decided.2⟩

theorem Step.decided (step : Step answers station deed next)
    (faithful : Faithful answers before history station) (dealing : Dealing)
    (member : dealing ∈ dealings (history ++ [deed])) : Decided next.hall dealing := by
  have orderly := faithful.hall.orderly
  rw [dealings_snoc] at member
  rcases List.mem_append.mp member with old | new
  · have decided := faithful.decided dealing old
    cases step with
    | party act hall step => exact decided.kept step orderly
    | reopen rest hall quiet upcoming step => exact decided.kept step orderly
    | close reason rest errand hall quiet upcoming step => exact decided.kept step orderly
    | offer frame event rest errand hall quiet upcoming decoded step =>
      exact decided.kept step orderly
    | _ => exact decided
  · cases step with
    | skip frame error rest quiet upcoming decoded =>
      cases List.mem_singleton.mp new
      exact decoded
    | claimed frame errand event request pursued answered =>
      cases List.mem_singleton.mp new
      obtain ⟨decoded, offered⟩ := faithful.pursued _ pursued
      obtain ⟨rfl, -⟩ := answered_offer faithful.hall offered answered
      exact ⟨decoded, answered⟩
    | spawn frame errand event back request pursued answered =>
      cases List.mem_singleton.mp new
      obtain ⟨decoded, offered⟩ := faithful.pursued _ pursued
      obtain ⟨rfl, same⟩ := answered_offer faithful.hall offered answered
      obtain rfl := same back rfl
      exact ⟨decoded, answered⟩
    | _ => cases new

/-- The reader waits for the errand by which it offered an event until the frame is dealt with. -/
theorem Step.errands (step : Step answers station deed next) :
    (station.pursuit.bind Pursuit.errand?).toList ++ deed.offered?.toList =
      deed.dealing?.toList.filterMap Dealing.errand? ++
        (next.pursuit.bind Pursuit.errand?).toList := by
  cases step with
  | offer frame event rest errand hall quiet upcoming decoded step =>
    simp [quiet, Deed.offered?, Deed.dealing?, Pursuit.errand?]
  | claimed frame errand event request pursued answered =>
    simp [pursued, Deed.offered?, Deed.dealing?, Pursuit.errand?, Dealing.errand?]
  | spawn frame errand event back request pursued answered =>
    simp [pursued, Deed.offered?, Deed.dealing?, Pursuit.errand?, Dealing.errand?]
  | skip frame error rest quiet upcoming decoded =>
    simp [quiet, Deed.offered?, Deed.dealing?, Dealing.errand?]
  | close reason rest errand hall quiet upcoming step =>
    simp [quiet, Deed.offered?, Deed.dealing?, Pursuit.errand?]
  | closed reason errand request reply pursued answered =>
    simp [pursued, Deed.offered?, Deed.dealing?, Pursuit.errand?]
  | _ => exact List.append_nil _

theorem Step.distinct (step : Step answers station deed next)
    (faithful : Faithful answers before history station) :
    ((dealings (history ++ [deed])).filterMap Dealing.errand? ++
      (next.pursuit.bind Pursuit.errand?).toList).Nodup := by
  rw [dealings_snoc, List.filterMap_append, List.append_assoc, ← step.errands,
    ← List.append_assoc, List.nodup_append]
  refine ⟨faithful.distinct, ?_, ?_⟩
  · cases deed.offered? with
    | none => exact List.nodup_nil
    | some errand => exact List.pairwise_singleton _ _
  · rintro old dealt new offered rfl
    cases step with
    | offer frame event rest errand hall quiet upcoming decoded step =>
      obtain rfl := List.mem_singleton.mp offered
      cases step with
      | ask _ _ fresh =>
        simp only [quiet, Option.bind_none, Option.toList_none, List.append_nil] at dealt
        obtain ⟨dealing, member, own⟩ := List.mem_filterMap.mp dealt
        have decided := faithful.decided dealing member
        cases dealing with
        | skipped => cases own
        | claimed | passedOn =>
          cases own
          exact nomatch fresh.symm.trans decided.2
    | _ => cases offered

theorem Step.faithful (step : Step answers station deed next)
    (faithful : Faithful answers before history station) :
    Faithful answers before (history ++ [deed]) next where
  hall := step.hall faithful.hall
  signals := step.signals faithful.signals
  frames := by
    have taken : framesTaken (history ++ [deed]) =
        framesTaken history ++ (deed.taken?.bind ReaderSignal.frame?).toList := by
      rw [framesTaken, filterMap_snoc, List.filterMap_append]
      cases deed.taken? with
      | none => rfl
      | some signal => cases signal <;> rfl
    rw [taken, faithful.frames, List.append_assoc, step.inHand.1, dealings_snoc, List.map_append,
      List.append_assoc, Option.toList_map]
  single := by
    obtain ⟨moved, calm | empty⟩ := step.inHand
    · have fewer := faithful.single
      rw [calm, Option.bind_none, Option.toList_none, List.append_nil] at moved
      rw [moved, List.length_append] at fewer
      omega
    · rw [empty, List.nil_append] at moved
      have whole := congrArg List.length moved
      have small : (deed.taken?.bind ReaderSignal.frame?).toList.length ≤ 1 := by
        cases deed.taken?.bind ReaderSignal.frame? <;> simp
      rw [List.length_append] at whole
      omega
  effects := by
    rw [Station.effects, filterMap_snoc, ← Station.effects, faithful.effects, List.append_assoc,
      step.begun faithful, dealings_snoc, List.flatMap_append, List.append_assoc]
  pursued := step.pursued faithful
  decided := step.decided faithful
  distinct := step.distinct faithful

theorem Reached.faithful (reached : Reached answers before history station) :
    Faithful answers before history station := by
  induction reached with
  | start reached => exact start_faithful reached
  | snoc run step ih => exact step.faithful ih

theorem Decided.right {acts : List Act} {hall : Hall} {dealing : Dealing}
    (decided : Decided hall dealing) (reached : Hall.Reached answers acts hall) :
    dealing.Right answers acts := by
  cases dealing with
  | skipped frame error => exact decided
  | claimed frame errand event =>
    obtain ⟨decoded, answered⟩ := decided
    obtain ⟨taker, chosen, replied, received, made⟩ := reached.chosen answered
    cases taker with
    | none => cases made
    | some waiter => exact ⟨decoded, replied, waiter, received, chosen⟩
  | passedOn frame errand event =>
    obtain ⟨decoded, answered⟩ := decided
    obtain ⟨taker, chosen, replied, received, made⟩ := reached.chosen answered
    cases taker with
    | none => exact ⟨decoded, replied, received, chosen⟩
    | some waiter => cases made

theorem decodeErrors_eq (history : List Deed) :
    decodeErrors history = (dealings history).filterMap Dealing.error? := by
  rw [decodeErrors, dealings, List.filterMap_filterMap, List.filterMap_filterMap]
  apply List.filterMap_congr
  intro deed _
  cases deed with
  | callbackEnded kind ending => cases ending <;> rfl
  | _ => rfl

def onlineFrame : String := "\x7b\"type\":\"BotOnlineEvent\",\"qq\":1\x7d"

def online : Event := ⟨.botOnline, ⟨.login, ⟨1⟩⟩⟩

theorem read_online (get : String → Option Json) (number : get "qq" = some (.int 1)) :
    Shape.recordOfMembers (Event.mk .botOnline <$> Event.botOnlineFields .login) get =
      .ok online := by
  have field : (Shape.Fields.required "qq" UserId.decode).fromMembers get = .ok ⟨1⟩ := by
    simp only [Shape.Fields.required, Shape.Fields.single, number]
    rfl
  have fields : (Event.mk .botOnline <$> Event.botOnlineFields .login).fromMembers get =
      Shape.combine (.ok (Event.mk .botOnline)) (Shape.combine (.ok (BotOnline.mk .login))
        ((Shape.Fields.required "qq" UserId.decode).fromMembers get)) := rfl
  rw [Shape.recordOfMembers, fields, field]
  rfl

theorem decode_onlineFrame : Event.decode onlineFrame = .ok online := by
  have named : ((Json.parse? onlineFrame).bind (·.member? "type")).bind Json.str? =
      some "BotOnlineEvent" := by decide +kernel
  have numbered : ((Json.parse? onlineFrame).bind (·.member? "qq")).bind Json.int? = some 1 := by
    decide +kernel
  have known : Event.fields? "BotOnlineEvent" =
      some (Event.mk .botOnline <$> Event.botOnlineFields .login) := rfl
  cases parsed : Json.parse? onlineFrame with
  | none =>
    rw [parsed] at named
    cases named
  | some value =>
    rw [parsed] at named numbered
    obtain ⟨name, typed, text⟩ := Option.bind_eq_some_iff.mp named
    obtain ⟨field, found, number⟩ := Option.bind_eq_some_iff.mp numbered
    rw [Json.str?_eq_some.mp text] at typed
    rw [Json.int?_eq_some.mp number] at found
    simp only [Option.bind_some] at typed found
    simp only [Event.decode, parsed, Event.ofJson, typed, known, read_online _ found]
    rfl

/-- A waiter is registered and three frames come. The first cannot be decoded, the waiter takes the
event of the second, and nobody is left for that of the third. -/
def shift : List Deed :=
  [.heard .begun, .reopened, .party (.registered 0 .botOnline .keeping none), .connected (.ok ()),
    .heard .connected, .published .reading, .delivered (.frame "?"),
    .delivered (.frame onlineFrame), .delivered (.frame onlineFrame),
    .heard (.frame "?"), .published .dispatching, .skipped "?" .syntaxError, .published .reading,
    .heard (.frame onlineFrame), .published .dispatching, .offered onlineFrame 0 online,
    .party (.entered 0), .party (.consulted 0 online 0), .party (.saw 0 online 0 .taken),
    .party (.left 0), .party (.sent 0 0 (.ok online)), .party (.answered 0 .claimed),
    .claimed onlineFrame 0 online, .published .reading,
    .heard (.frame onlineFrame), .published .dispatching, .offered onlineFrame 1 online,
    .party (.entered 1), .party (.left 1), .party (.answered 1 (.unclaimed online)),
    .spawned onlineFrame 1 online, .published .reading]

theorem shift_reached : ∃ station, Reached evaluated [] shift station := by
  have h0 : Reached evaluated [] [] (start Hall.start) := .start .nil
  have h1 := h0.snoc (.hear .begun rfl rfl rfl)
  have h2 := h1.snoc (.reopen _ _ rfl rfl (.reopen rfl))
  have h3 := h2.snoc (.party _ _ (.register .botOnline .any .keeping rfl))
  have h4 := h3.snoc (.connect (.ok ()) rfl)
  have h5 := h4.snoc (.hear .connected rfl rfl rfl)
  have h6 := h5.snoc (.publish .reading _ rfl rfl)
  have h7 := h6.snoc (.deliver (.frame "?") rfl)
  have h8 := h7.snoc (.deliver (.frame onlineFrame) rfl)
  have h9 := h8.snoc (.deliver (.frame onlineFrame) rfl)
  have h10 := h9.snoc (.hear (.frame "?") rfl rfl rfl)
  have h11 := h10.snoc (.publish .dispatching _ rfl rfl)
  have h12 := h11.snoc (.skip "?" .syntaxError _ rfl rfl rfl)
  have h13 := h12.snoc (.publish .reading _ rfl rfl)
  have h14 := h13.snoc (.hear (.frame onlineFrame) rfl rfl rfl)
  have h15 := h14.snoc (.publish .dispatching _ rfl rfl)
  have h16 := h15.snoc (.offer onlineFrame online _ 0 _ rfl rfl decode_onlineFrame
    (.ask 0 (.offer online) rfl))
  have h17 := h16.snoc (.party _ _ (.enterSearch 0 online rfl rfl))
  have h18 := h17.snoc (.party _ _ (.consult 0 online _ _ _ rfl (by decide) rfl))
  have h19 := h18.snoc (.party _ _ (.judge 0 online _ _ _ _ .accepts _ rfl
    (by simp [evaluated, Pattern.evaluate]) rfl))
  have h20 := h19.snoc (.party _ _ (.leaveSearch 0 online _ rfl))
  have h21 := h20.snoc (.party _ _ (.send 0 _ _ _ _ _ rfl))
  have h22 := h21.snoc (.party _ _ (.answer 0 _ _ rfl))
  have h23 := h22.snoc (.claimed onlineFrame 0 online _ rfl rfl)
  have h24 := h23.snoc (.publish .reading _ rfl rfl)
  have h25 := h24.snoc (.hear (.frame onlineFrame) rfl rfl rfl)
  have h26 := h25.snoc (.publish .dispatching _ rfl rfl)
  have h27 := h26.snoc (.offer onlineFrame online _ 1 _ rfl rfl decode_onlineFrame
    (.ask 1 (.offer online) rfl))
  have h28 := h27.snoc (.party _ _ (.enterSearch 1 online rfl rfl))
  have h29 := h28.snoc (.party _ _ (.leaveSearch 1 online _ rfl))
  have h30 := h29.snoc (.party _ _ (.answer 1 _ _ rfl))
  have h31 := h30.snoc (.spawn onlineFrame 1 online online _ rfl rfl)
  have h32 := h31.snoc (.publish .reading _ rfl rfl)
  exact ⟨_, h32⟩

end Station
end Switchboard
