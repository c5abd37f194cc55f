import Switchboard.Proofs.Repeater.Sending

set_option autoImplicit false

namespace Switchboard.Repeater

/-- The question. -/
def question : Message := .ofText "What is your favourite colour?"

def comment (answer : String) : Message := .ofText (answer ++ " is a fine colour.")

/-- What is said when there was no answer. -/
def tooSlow : Message := .ofText "Too slow!"

def fromEnd : Activity (Except Fault Unit) := .done (.ok ())

section Rest

variable (asker : UserId) (origin : Api.Origin)

def fromAnswer : Option String → Activity (Except Fault Unit)
  | some answer => fromSending origin.target (comment answer) (some origin.id) fromEnd
  | none => fromSending origin.target tooSlow none fromEnd

def heard (event : Option Event) : Option String :=
  (event.bind Event.received?).map ReceivedMessage.plainText

def fromWaiting (deadline : Instant) : Activity (Except Fault Unit) :=
  .step (.awaitEvent (answerPattern asker origin.target).1 (answerPattern asker origin.target).2
      (some deadline)) fun
    | .ok event => fromAnswer origin (heard event)
    | .error error => .done (.error (.wait error))

def fromTiming : Activity (Except Fault Unit) :=
  .step .now fun now =>
    match now.after? (.ofMillis answerTime) with
    | none => .done (.error (.crash Instant.overflow))
    | some deadline => fromWaiting asker origin deadline

def fromAsking : Activity (Except Fault Unit) :=
  fromSending origin.target question none (fromTiming asker origin)

def fromTalk (content : Message) (text : String) : Activity (Except Fault Unit) :=
  match origin.target with
  | .group group =>
    if text = "" then fromEnd
    else .step (.recordText group text) fun due =>
      if due then fromSending origin.target content none fromEnd else fromEnd
  | _ => fromEnd

open Activity (perform_bind)

theorem awaitAnswer_bind (next : Option String → Handling Unit) :
    (awaitAnswer asker origin.target >>= next).run = .step .now fun now =>
      match now.after? (.ofMillis answerTime) with
      | none => .done (.error (.crash Instant.overflow))
      | some deadline =>
        .step (.awaitEvent (answerPattern asker origin.target).1
            (answerPattern asker origin.target).2 (some deadline)) fun
          | .ok event => (next (heard event)).run
          | .error error => .done (.error (.wait error)) := by
  refine (Activity.andThen_assoc _ _ _).trans ((Activity.andThen_assoc _ _ _).trans
    ((Activity.awaitWithin_bind _ _ _ _).trans (congrArg _ (funext fun now => ?_))))
  cases now.after? (.ofMillis answerTime) with
  | none => rfl
  | some deadline =>
    refine congrArg (Activity.step _) (funext fun result => ?_)
    cases result <;> rfl

theorem ask_eq : (ask asker origin).run = fromAsking asker origin := by
  refine (sendMessage_bind origin.target question none _).trans (congrArg _ ?_)
  refine (awaitAnswer_bind asker origin _).trans (congrArg _ (funext fun now => ?_))
  cases now.after? (.ofMillis answerTime) with
  | none => rfl
  | some deadline =>
    refine congrArg (Activity.step _) (funext fun result => ?_)
    rcases result with error | event
    · rfl
    · dsimp only
      cases heard event with
      | none => exact sendMessage_bind origin.target tooSlow none _
      | some answer => exact sendMessage_bind origin.target (comment answer) (some origin.id) _

theorem repeatTalk_eq (content : Message) (text : String) :
    (repeatTalk origin content text).run = fromTalk origin content text := by
  obtain ⟨target, id⟩ := origin
  cases target with
  | friend | temp => rfl
  | group group =>
    rw [repeatTalk, fromTalk]
    dsimp only
    by_cases empty : text = ""
    · rw [if_pos empty, if_pos empty]
      rfl
    · rw [if_neg empty, if_neg empty]
      refine (perform_bind (.recordText group text) _).trans (congrArg _ (funext fun due => ?_))
      cases due with
      | false => rfl
      | true => exact sendMessage_bind (.group group) content none _

end Rest

def fromMessage (message : ReceivedMessage) (sender : UserId) (target : ReplyTarget) :
    Activity (Except Fault Unit) :=
  match Command.ofText message.plainText with
  | .ping => fromSending target (.ofText "Pong!") none fromEnd
  | .echo text => fromSending target (.ofText text) none fromEnd
  | .ask => fromAsking sender ⟨target, message.source.id⟩
  | .talk text => fromTalk ⟨target, message.source.id⟩ message.content text

theorem handle_eq (event : Event) : (handle event).run = match event.message? with
    | none => fromEnd
    | some (message, sender, target) => fromMessage message sender target := by
  rw [handle]
  rcases event.message? with - | ⟨message, sender, target⟩
  · rfl
  · dsimp only
    rw [fromMessage]
    cases Command.ofText message.plainText with
    | ping => exact sendMessage_bind target (.ofText "Pong!") none _
    | echo text => exact sendMessage_bind target (.ofText text) none _
    | ask => exact ask_eq sender ⟨target, message.source.id⟩
    | talk text => exact repeatTalk_eq ⟨target, message.source.id⟩ message.content text

end Switchboard.Repeater
