import Switchboard.Proofs.Repeater.Points
import Switchboard.Proofs.Repeater.Runs
import Switchboard.Proofs.Trace

set_option autoImplicit false

namespace Switchboard

/-- An activity performs allowed operations only, whatever it is answered. -/
inductive Activity.Only {α : Type} (allowed : Op → Prop) : Activity α → Prop
  | done (value : α) : Only allowed (.done value)
  | step (op : Op) (next : op.Answer → Activity α) (fine : allowed op)
      (rest : ∀ answer, Only allowed (next answer)) : Only allowed (.step op next)

namespace Repeater

/-- What becomes of a history while an operation is answered. A text that is entered is answered by
the history; nothing else touches it. -/
inductive Keeps (history : History) : Exchange → History → Prop
  | entered (group : GroupId) (text : String) :
      Keeps history ⟨.recordText group text, (history.record group text).1⟩
        (history.record group text).2
  | other (exchange : Exchange) (plain : ∀ group text, exchange.op ≠ .recordText group text) :
      Keeps history exchange history

/-- A handling goes on with an answer. -/
inductive Turn : Activity (Except Fault Unit) × History → Exchange →
    Activity (Except Fault Unit) × History → Prop
  | turn {work rest : Activity (Except Fault Unit)} {history after : History}
      {exchange : Exchange} (goes : work.GoesOn exchange rest)
      (keeps : Keeps history exchange after) : Turn (work, history) exchange (rest, after)

/-- An event that was handled, and what happened on the way. -/
structure Handled where
  event : Event
  exchanges : List Exchange
  result : Except Fault Unit

/-- Whoever looks for the session sees one. -/
def Signed (exchanges : List Exchange) : Prop :=
  ∀ bound : Option Session, ⟨.session, bound⟩ ∈ exchanges → bound.isSome

/-- An event is handled to its end. -/
def Handles (history : History) (handled : Handled) (after : History) : Prop :=
  Trace Turn ((handle handled.event).run, history) handled.exchanges (.done handled.result, after)

/-- Is a text a command? -/
def IsCommand (text : String) : Prop :=
  text = "/ping" ∨ text = "/ask" ∨ "/echo ".toList <+: text.toList

instance (text : String) : Decidable (IsCommand text) :=
  inferInstanceAs (Decidable (_ ∨ _ ∨ _))

/-- What an event says in a group: the text of a message there, without the white space around it.
A message without a text says nothing, and neither does a command. -/
def talk? (event : Event) : Option (GroupId × String) :=
  match event.message? with
  | some (message, _, .group group) =>
    if Text.trim message.plainText = "" ∨ IsCommand (Text.trim message.plainText) then none
    else some (group, Text.trim message.plainText)
  | _ => none

def saying? (group : GroupId) (event : Event) : Option String :=
  (talk? event).bind fun talk => if talk.1 = group then some talk.2 else none

def said (group : GroupId) (evening : List Handled) : List String :=
  evening.filterMap fun handled => saying? group handled.event

theorem echoed?_eq_some {chars rest : List Char} :
    echoed? chars = some rest ↔ chars = "/echo ".toList ++ rest := by
  constructor
  · intro shown
    unfold echoed? at shown
    split at shown
    · cases shown
      rfl
    · cases shown
  · rintro rfl
    rfl

theorem Command.ofText_cases (text : String) :
    (¬ IsCommand (Text.trim text) ∧ Command.ofText text = .talk (Text.trim text)) ∨
      (Text.trim text = "/ping" ∧ Command.ofText text = .ping) ∨
      (Text.trim text = "/ask" ∧ Command.ofText text = .ask) ∨
      ∃ rest, (Text.trim text).toList = "/echo ".toList ++ rest ∧
        Command.ofText text = .echo (String.ofList rest) := by
  simp only [Command.ofText]
  by_cases ping : Text.trim text = "/ping"
  · exact .inr (.inl ⟨ping, if_pos ping⟩)
  · rw [if_neg ping]
    cases shown : echoed? (Text.trim text).toList with
    | some rest => exact .inr (.inr (.inr ⟨rest, echoed?_eq_some.mp shown, rfl⟩))
    | none =>
      by_cases ask : Text.trim text = "/ask"
      · exact .inr (.inr (.inl ⟨ask, if_pos ask⟩))
      · refine .inl ⟨?_, if_neg ask⟩
        rintro (other | other | ⟨rest, whole⟩)
        · exact ping other
        · exact ask other
        · cases shown.symm.trans (echoed?_eq_some.mpr whole.symm)

theorem Command.ofText_of_talk {text : String} (plain : ¬ IsCommand (Text.trim text)) :
    Command.ofText text = .talk (Text.trim text) := by
  obtain ⟨-, talk⟩ | ⟨ping, -⟩ | ⟨ask, -⟩ | ⟨rest, whole, -⟩ := Command.ofText_cases text
  · exact talk
  · exact absurd (.inl ping) plain
  · exact absurd (.inr (.inl ask)) plain
  · exact absurd (.inr (.inr ⟨rest, whole.symm⟩)) plain

section Course

variable {work rest : Activity (Except Fault Unit)} {history after : History}
  {exchanges : List Exchange} {result : Except Fault Unit}

theorem of_done {value : Except Fault Unit}
    (trace : Trace Turn (.done value, history) exchanges (work, after)) :
    exchanges = [] ∧ after = history := by
  cases exchanges with
  | nil =>
    cases trace.eq_of_nil
    exact ⟨rfl, rfl⟩
  | cons exchange later =>
    obtain ⟨_, ⟨⟨⟩, _⟩, _⟩ := trace.first_step

theorem of_step {op : Op} {next : op.Answer → Activity (Except Fault Unit)}
    (trace : Trace Turn (.step op next, history) exchanges (.done result, after)) :
    ∃ answer middle later, exchanges = ⟨op, answer⟩ :: later ∧
      Keeps history ⟨op, answer⟩ middle ∧
      Trace Turn (next answer, middle) later (.done result, after) := by
  cases exchanges with
  | nil => cases trace.eq_of_nil
  | cons exchange later =>
    obtain ⟨_, ⟨goes, keeps⟩, ended⟩ := trace.first_step
    cases goes with
    | answer op next answer => exact ⟨answer, _, later, rfl, keeps, ended⟩

theorem Keeps.eq_of_plain {exchange : Exchange} (keeps : Keeps history exchange after)
    (plain : ∀ group text, exchange.op ≠ .recordText group text) : after = history := by
  cases keeps with
  | entered group text => exact absurd rfl (plain group text)
  | other exchange plain => rfl

/-- Nothing but allowed operations happens to an activity that performs no others. -/
theorem allowed_of_trace {allowed : Op → Prop} (only : work.Only allowed)
    {last : Activity (Except Fault Unit) × History}
    (trace : Trace Turn (work, history) exchanges last) :
    last.1.Only allowed ∧ ∀ exchange ∈ exchanges, allowed exchange.op := by
  induction trace with
  | nil => exact ⟨only, List.forall_mem_nil _⟩
  | snoc trace next ih =>
    obtain ⟨goes, _⟩ := next
    obtain ⟨only, earlier⟩ := ih
    cases goes with
    | answer op next answer =>
      cases only with
      | step op next fine rest =>
        refine ⟨rest answer, fun exchange among => ?_⟩
        rcases List.mem_append.mp among with before | now
        · exact earlier exchange before
        · rw [List.mem_singleton.mp now]
          exact fine

theorem history_of_trace (plain : ∀ exchange ∈ exchanges, ∀ group text,
      exchange.op ≠ .recordText group text)
    {last : Activity (Except Fault Unit) × History}
    (trace : Trace Turn (work, history) exchanges last) : last.2 = history := by
  induction trace with
  | nil => rfl
  | snoc trace next ih =>
    obtain ⟨_, keeps⟩ := next
    have earlier := ih fun exchange among => plain exchange (List.mem_append_left _ among)
    have now := keeps.eq_of_plain (plain _ (List.mem_append_right _ (List.mem_singleton_self _)))
    exact now.trans earlier

theorem only_sending {allowed : Op → Prop} {target : ReplyTarget} {message : Message}
    {quote : Option MessageId} (looks : allowed .session)
    (sends : ∀ key, allowed (.request (Api.messageRequest key target message quote)))
    (rest : work.Only allowed) : (fromSending target message quote work).Only allowed := by
  refine .step _ _ looks fun bound => ?_
  cases bound with
  | none => exact .done _
  | some session =>
    refine .step _ _ (sends session.key) fun result => ?_
    cases Api.receipt result with
    | ok _ => exact rest
    | error error => exact .done _

theorem requests_of_sending {target : ReplyTarget} {message : Message}
    {quote : Option MessageId} (signed : Signed exchanges)
    (trace : Trace Turn (fromSending target message quote fromEnd, history) exchanges
      (.done result, after)) :
    after = history ∧ ∃ session : Session, ⟨.session, some session⟩ ∈ exchanges ∧
      requests exchanges = [Api.messageRequest session.key target message quote] := by
  obtain ⟨bound, middle, later, rfl, keeps, trace⟩ := of_step trace
  cases keeps.eq_of_plain nofun
  cases bound with
  | none => exact absurd (signed none List.mem_cons_self) Bool.false_ne_true
  | some session =>
    obtain ⟨result, middle, later, rfl, keeps, trace⟩ := of_step trace
    cases keeps.eq_of_plain nofun
    have nothing : later = [] ∧ after = history := by
      cases received : Api.receipt result <;> rw [received] at trace <;> exact of_done trace
    obtain ⟨rfl, rfl⟩ := nothing
    exact ⟨rfl, session, List.mem_cons_self, rfl⟩

end Course

/-- An operation neither enters a text nor sends a content as it is. -/
def Foreign (content : Message) (op : Op) : Prop :=
  (∀ group text, op ≠ .recordText group text) ∧
    ∀ key target, op ≠ .request (Api.messageRequest key target content none)

section Foreign

variable {content message : Message} {quote : Option MessageId}

theorem foreign_request (different : message.plainText = content.plainText → quote ≠ none)
    (key : String) (target : ReplyTarget) :
    Foreign content (.request (Api.messageRequest key target message quote)) := by
  refine ⟨nofun, fun other chat same => ?_⟩
  have alike := Op.request.inj same
  apply different
  · simpa using congrArg Request.spoken? alike
  · simpa using congrArg Request.quoted? alike

theorem plainText_ne_of_trim {text trimmed : String}
    (trim : Text.trim content.plainText = trimmed) (different : Text.trim text ≠ trimmed) :
    (Message.ofText text).plainText ≠ content.plainText := by
  rw [Message.plainText_ofText]
  rintro rfl
  exact different trim

theorem only_asking {asker : UserId} {origin : Api.Origin}
    (ask : Text.trim content.plainText = "/ask") :
    (fromAsking asker origin).Only (Foreign content) := by
  have looks : Foreign content .session := ⟨nofun, nofun⟩
  have unlike (text : String) (different : Text.trim text ≠ "/ask") (key : String) :
      Foreign content (.request (Api.messageRequest key origin.target (.ofText text) none)) :=
    foreign_request (fun same => absurd same (plainText_ne_of_trim ask different)) _ _
  refine only_sending looks (unlike _ (by decide)) ?_
  refine .step _ _ ⟨nofun, nofun⟩ fun now => ?_
  cases now.after? (.ofMillis answerTime) with
  | none => exact .done _
  | some deadline =>
    refine .step _ _ ⟨nofun, nofun⟩ fun result => ?_
    rcases result with error | event
    · exact .done _
    · dsimp only
      cases heard event with
      | none => exact only_sending looks (unlike _ (by decide)) (.done _)
      | some answer =>
        refine only_sending looks (fun key => ?_) (.done _)
        exact foreign_request (fun _ => Option.some_ne_none _) key origin.target

theorem echoed_ne {rest : List Char}
    (whole : (Text.trim content.plainText).toList = "/echo ".toList ++ rest) :
    (Message.ofText (String.ofList rest)).plainText ≠ content.plainText := by
  rw [Message.plainText_ofText]
  intro same
  obtain ⟨before, after, parts, -, -⟩ := Text.exists_eq_append_trimChars content.plainText.toList
  rw [Text.trim, String.toList_ofList] at whole
  rw [whole, ← same, String.toList_ofList] at parts
  have lengths := congrArg List.length parts
  simp only [List.length_append] at lengths
  have longer : "/echo ".toList.length = 6 := by decide
  omega

theorem only_foreign {message : ReceivedMessage} {sender : UserId} {target : ReplyTarget}
    (silent : ∀ group, target = .group group → Text.trim message.plainText = "" ∨
      IsCommand (Text.trim message.plainText)) :
    (fromMessage message sender target).Only (Foreign message.content) := by
  have looks : Foreign message.content .session := ⟨nofun, nofun⟩
  have plainly (text : String)
      (different : (Message.ofText text).plainText ≠ message.content.plainText) :
      (fromSending target (.ofText text) none fromEnd).Only (Foreign message.content) :=
    only_sending looks
      (fun key => foreign_request (fun same => absurd same different) key target) (.done _)
  rw [fromMessage]
  obtain ⟨talk, shown⟩ | ⟨ping, shown⟩ | ⟨ask, shown⟩ | ⟨rest, whole, shown⟩ :=
    Command.ofText_cases message.plainText <;> rw [shown]
  · cases target with
    | friend | temp => exact .done _
    | group group =>
      have empty := (silent group rfl).resolve_right talk
      rw [empty]
      exact .done _
  · exact plainly "Pong!" (plainText_ne_of_trim ping (by decide))
  · exact only_asking ask
  · exact plainly _ (echoed_ne whole)

end Foreign

section Evening

variable {history after : History} {handled : Handled} {evening : List Handled}
  {group : GroupId} {text : String}

theorem talk?_eq_some {event : Event} :
    talk? event = some (group, text) ↔ ∃ message sender,
      event.message? = some (message, sender, .group group) ∧ Text.trim message.plainText = text ∧
        text ≠ "" ∧ ¬ IsCommand text := by
  rw [talk?]
  rcases event.message? with - | ⟨message, sender, user | other | member⟩
  · simp
  · simp
  · dsimp only
    by_cases silent : Text.trim message.plainText = "" ∨ IsCommand (Text.trim message.plainText)
    · rw [if_pos silent]
      refine ⟨nofun, ?_⟩
      rintro ⟨_, _, same, rfl, spoken, plain⟩
      cases same
      exact (silent.elim spoken plain).elim
    · rw [if_neg silent]
      obtain ⟨spoken, plain⟩ := not_or.mp silent
      constructor
      · intro same
        cases same
        exact ⟨message, sender, rfl, rfl, spoken, plain⟩
      · rintro ⟨_, _, same, rfl, -, -⟩
        cases same
        rfl
  · simp

/-- Talk is entered into the history, and sent back if the history says so. -/
theorem Handles.of_talk (handles : Handles history handled after)
    (signed : Signed handled.exchanges) (talk : talk? handled.event = some (group, text)) :
    after = (history.record group text).2 ∧
      ∀ message sender, handled.event.message? = some (message, sender, .group group) →
        if (history.record group text).1 then
          ∃ session : Session, ⟨.session, some session⟩ ∈ handled.exchanges ∧
            requests handled.exchanges =
              [Api.messageRequest session.key (.group group) message.content none]
        else requests handled.exchanges = [] := by
  obtain ⟨message, sender, said, rfl, spoken, plain⟩ := talk?_eq_some.mp talk
  obtain ⟨event, exchanges, result⟩ := handled
  dsimp only at said signed ⊢
  have command := Command.ofText_of_talk plain
  have course : (handle event).run = .step (.recordText group (Text.trim message.plainText))
      fun due => if due then fromSending (.group group) message.content none fromEnd
        else fromEnd := by
    rw [handle_eq, said]
    simp only [fromMessage, command, fromTalk, if_neg spoken]
  rw [Handles, course] at handles
  obtain ⟨answer, middle, later, rfl, keeps, trace⟩ := of_step handles
  have still : Signed later := fun bound among => signed bound (List.mem_cons_of_mem _ among)
  cases keeps with
  | other exchange plain => exact absurd rfl (plain _ _)
  | entered group text =>
    cases due : (history.record group (Text.trim message.plainText)).1 with
    | false =>
      rw [due] at trace
      obtain ⟨rfl, rfl⟩ := of_done trace
      exact ⟨rfl, fun _ _ _ => rfl⟩
    | true =>
      rw [due] at trace
      obtain ⟨rfl, session, seen, made⟩ := requests_of_sending still trace
      refine ⟨rfl, fun other person same => ?_⟩
      cases said.symm.trans same
      exact ⟨session, List.mem_cons_of_mem _ seen, made⟩

theorem Handles.of_no_talk (handles : Handles history handled after)
    (silent : talk? handled.event = none) :
    after = history ∧ ∀ message sender target,
      handled.event.message? = some (message, sender, target) → ∀ key chat,
        Api.messageRequest key chat message.content none ∉ requests handled.exchanges := by
  rw [Handles, handle_eq] at handles
  cases said : handled.event.message? with
  | none =>
    rw [said] at handles
    refine ⟨(of_done handles).2, fun _ _ _ same => ?_⟩
    cases same
  | some parts =>
    obtain ⟨message, sender, target⟩ := parts
    rw [said] at handles
    have only : (fromMessage message sender target).Only (Foreign message.content) := by
      apply only_foreign
      rintro group rfl
      by_contra spoken
      obtain ⟨spoken, plain⟩ := not_or.mp spoken
      have talk := talk?_eq_some.mpr ⟨message, sender, said, rfl, spoken, plain⟩
      cases silent.symm.trans talk
    obtain ⟨-, foreign⟩ := allowed_of_trace only handles
    refine ⟨history_of_trace (fun exchange among => (foreign exchange among).1) handles, ?_⟩
    intro other person chat same key chat among
    cases same
    obtain ⟨exchange, happened, made⟩ := List.mem_filterMap.mp among
    obtain ⟨op, answer⟩ := exchange
    cases op with
    | request request =>
      cases made
      exact (foreign _ happened).2 key chat rfl
    | _ => cases made

theorem said_concat (group : GroupId) (evening : List Handled) (handled : Handled) :
    said group (evening ++ [handled]) =
      said group evening ++ (saying? group handled.event).toList := by
  rw [said, List.filterMap_append]
  cases shown : saying? group handled.event <;> simp [said, shown]

theorem marked_of_evening (went : Trace Handles [] evening history)
    (signed : ∀ handled ∈ evening, Signed handled.exchanges) (group : GroupId) :
    history.last group = mark (said group evening) := by
  induction went with
  | nil => rfl
  | @snoc evening before after handled trace handles ih =>
    have earlier := ih fun other among => signed other (List.mem_append_left _ among)
    have now : Signed handled.exchanges :=
      signed handled (List.mem_append_right _ (List.mem_singleton_self _))
    rw [said_concat]
    cases talk : talk? handled.event with
    | none =>
      have silent : saying? group handled.event = none := by rw [saying?, talk, Option.bind_none]
      rw [(handles.of_no_talk talk).1, earlier, silent, Option.toList_none, List.append_nil]
    | some talked =>
      obtain ⟨other, text⟩ := talked
      obtain ⟨rfl, -⟩ := handles.of_talk now talk
      obtain ⟨_, _, _, _, spoken, _⟩ := talk?_eq_some.mp talk
      by_cases here : other = group
      · subst here
        have spoke : saying? other handled.event = some text := by simp [saying?, talk]
        rw [spoke, Option.toList_some, History.record_of_mark earlier spoken, History.last_put_self]
        rw [mark_concat spoken]
      · have silent : saying? group handled.event = none := by simp [saying?, talk, here]
        rw [silent, Option.toList_none, List.append_nil,
          History.last_record_of_ne (Ne.symm here), earlier]

theorem exists_keeps (history : History) (op : Op) :
    ∃ answer after, Keeps history ⟨op, answer⟩ after ∧ Signed [⟨op, answer⟩] := by
  have plainly (answer : op.Answer) (plain : ∀ group text, op ≠ .recordText group text)
      (unlike : op ≠ .session) :
      ∃ answer after, Keeps history ⟨op, answer⟩ after ∧ Signed [⟨op, answer⟩] := by
    refine ⟨answer, history, .other _ plain, fun bound among => ?_⟩
    exact absurd (congrArg Exchange.op (List.mem_singleton.mp among)).symm unlike
  cases op with
  | recordText group text => exact ⟨_, _, .entered group text, by simp [Signed]⟩
  | session => exact ⟨some ⟨"", ⟨0⟩⟩, history, .other _ nofun, by simp [Signed]⟩
  | request => exact plainly (.ok .null) nofun nofun
  | readFile => exact plainly (.ok []) nofun nofun
  | awaitEvent => exact plainly (.ok none) nofun nofun
  | awaitResult => exact plainly (.ok ()) nofun nofun
  | awaitTask => exact plainly none nofun nofun
  | bindSession | awaitReading | stopRequested | pause => exact plainly true nofun nofun
  | now | startReader => exact plainly 0 nofun nofun
  | unbindSession | sleepUntil | note | awaitStop | requestStop | beginTask | giveUpTask =>
    exact plainly () nofun nofun

theorem exists_turns (work : Activity (Except Fault Unit)) (history : History) :
    ∃ exchanges result after,
      Trace Turn (work, history) exchanges (.done result, after) ∧ Signed exchanges := by
  induction work generalizing history with
  | done value => exact ⟨[], value, history, .nil, nofun⟩
  | step op next ih =>
    obtain ⟨answer, middle, keeps, signed⟩ := exists_keeps history op
    obtain ⟨exchanges, result, after, trace, still⟩ := ih answer middle
    refine ⟨_, result, after, .cons ⟨.answer op next answer, keeps⟩ trace, fun bound among => ?_⟩
    rcases List.mem_cons.mp among with now | later
    · exact signed bound (List.mem_singleton.mpr now)
    · exact still bound later

/-- The repeater repeats each run once. The content of a message is sent back to its group, in one
request and nothing beside it, when the message is the second of a run of the same text; and the
content of no other message is sent back to anywhere. Whatever was handled, the next event can be
handled too. -/
theorem repeats_each_run_once (went : Trace Handles [] evening history)
    (signed : ∀ handled ∈ evening, Signed handled.exchanges) :
    (∀ before handled after, evening = before ++ handled :: after →
      ∀ message sender group, handled.event.message? = some (message, sender, .group group) →
        ((saying? group handled.event).isSome ∧
            SecondOfRun (said group evening) (said group before).length →
          ∃ session : Session, ⟨.session, some session⟩ ∈ handled.exchanges ∧
            requests handled.exchanges =
              [Api.messageRequest session.key (.group group) message.content none]) ∧
        (¬ ((saying? group handled.event).isSome ∧
            SecondOfRun (said group evening) (said group before).length) →
          ∀ key chat, Api.messageRequest key chat message.content none ∉
            requests handled.exchanges)) ∧
      ∀ event, ∃ handled after, handled.event = event ∧ Signed handled.exchanges ∧
        Handles history handled after := by
  refine ⟨?_, fun event => ?_⟩
  · rintro before handled after rfl message sender group told
    obtain ⟨earlier, later, begun, handles, -⟩ := went.split_at
    have among : ∀ other ∈ before, other ∈ before ++ handled :: after :=
      fun other => List.mem_append_left _
    have now : Signed handled.exchanges := signed handled (by simp)
    have marked := marked_of_evening begun (fun other before => signed other (among other before))
      group
    have whole : said group (before ++ handled :: after) =
        said group before ++ ((saying? group handled.event).toList ++ said group after) := by
      rw [List.append_cons, said, List.filterMap_append]
      exact (congrArg (· ++ said group after) (said_concat group before handled)).trans
        (List.append_assoc _ _ _)
    cases talk : talk? handled.event with
    | none =>
      have silent : saying? group handled.event = none := by rw [saying?, talk, Option.bind_none]
      obtain ⟨-, unsent⟩ := handles.of_no_talk talk
      refine ⟨fun second => ?_, fun _ => unsent message sender _ told⟩
      rw [silent] at second
      cases second.1
    | some talked =>
      obtain ⟨other, text⟩ := talked
      obtain ⟨other, person, same, -, spoken, -⟩ := talk?_eq_some.mp talk
      cases told.symm.trans same
      obtain ⟨-, sent⟩ := handles.of_talk now talk
      have spoke : saying? group handled.event = some text := by simp [saying?, talk]
      have turns := sent message sender told
      rw [History.record_of_mark marked spoken] at turns
      rw [spoke, Option.toList_some, List.singleton_append] at whole
      rw [whole, secondOfRun_iff spoken, spoke]
      -- the mark says whether this text stands last, and whether it was repeated
      by_cases second : mark (said group before) = (text, false)
      · rw [if_pos (decide_eq_true second)] at turns
        exact ⟨fun _ => turns, fun first => absurd ⟨rfl, second⟩ first⟩
      · rw [if_neg (by simpa using second)] at turns
        refine ⟨fun other => absurd other.2 second, fun _ key chat => ?_⟩
        rw [turns]
        exact List.not_mem_nil
  · obtain ⟨exchanges, result, after, trace, signed⟩ := exists_turns (handle event).run history
    exact ⟨⟨event, exchanges, result⟩, after, rfl, signed, trace⟩

end Evening

def remark (group : GroupId) (text : String) : Event :=
  ⟨.groupMessage, ⟨.absent, none, .ofText text⟩, ⟨⟨42⟩, "", .member, ⟨group, "", .member⟩⟩⟩

def noted (group : GroupId) (text : String) : Handled :=
  ⟨remark group text, [⟨.recordText group (Text.trim text), false⟩], .ok ()⟩

def echoed (group : GroupId) (text : String) : Handled :=
  ⟨remark group text, [⟨.recordText group (Text.trim text), true⟩,
    ⟨.session, some ⟨"key", ⟨1⟩⟩⟩,
    ⟨.request (Api.messageRequest "key" (.group group) (.ofText text) none),
      .ok (.object [("code", .int 0), ("messageId", .int 7)])⟩], .ok ()⟩

/-- Two groups greet in turns. Each greeting is repeated when it comes again in its group. -/
def greetings : List Handled :=
  [noted ⟨1⟩ "hello", noted ⟨2⟩ "hi", echoed ⟨1⟩ " hello", echoed ⟨2⟩ "hi"]

theorem greetings_handled : ∃ history, Trace Handles [] greetings history := by
  have greeted : Handles [] (noted ⟨1⟩ "hello") [(⟨1⟩, "hello", false)] :=
    .cons ⟨.answer _ _ _, .entered ⟨1⟩ "hello"⟩ .nil
  have beside : Handles [(⟨1⟩, "hello", false)] (noted ⟨2⟩ "hi")
      [(⟨2⟩, "hi", false), (⟨1⟩, "hello", false)] :=
    .cons ⟨.answer _ _ _, .entered ⟨2⟩ "hi"⟩ .nil
  have again : Handles [(⟨2⟩, "hi", false), (⟨1⟩, "hello", false)] (echoed ⟨1⟩ " hello")
      [(⟨1⟩, "hello", true), (⟨2⟩, "hi", false)] :=
    .cons ⟨.answer _ _ _, .entered ⟨1⟩ "hello"⟩ <|
      .cons ⟨.answer _ _ _, .other _ nofun⟩ <| .cons ⟨.answer _ _ _, .other _ nofun⟩ .nil
  have answered : Handles [(⟨1⟩, "hello", true), (⟨2⟩, "hi", false)] (echoed ⟨2⟩ "hi")
      [(⟨2⟩, "hi", true), (⟨1⟩, "hello", true)] :=
    .cons ⟨.answer _ _ _, .entered ⟨2⟩ "hi"⟩ <|
      .cons ⟨.answer _ _ _, .other _ nofun⟩ <| .cons ⟨.answer _ _ _, .other _ nofun⟩ .nil
  exact ⟨_, (((Trace.single greeted).snoc beside).snoc again).snoc answered⟩

theorem greetings_signed : ∀ handled ∈ greetings, Signed handled.exchanges := by
  simp [greetings, noted, echoed, Signed]

/-- The greeting of the first group comes back though the other group greeted in between. -/
theorem greetings_repeated_once :
    (∃ history, Trace Handles [] greetings history) ∧
      (∀ handled ∈ greetings, Signed handled.exchanges) ∧
      ∃ session : Session, ⟨.session, some session⟩ ∈ (echoed ⟨1⟩ " hello").exchanges ∧
        requests (echoed ⟨1⟩ " hello").exchanges =
          [Api.messageRequest session.key (.group ⟨1⟩) (.ofText " hello") none] := by
  obtain ⟨history, went⟩ := greetings_handled
  have second : SecondOfRun (said ⟨1⟩ greetings) (said ⟨1⟩ (greetings.take 2)).length :=
    ⟨[], ["hello", "hello"], [], by decide, by decide, by decide⟩
  refine ⟨⟨history, went⟩, greetings_signed, ?_⟩
  exact ((repeats_each_run_once went greetings_signed).1 (greetings.take 2) _ _ rfl _ _ _ rfl).1
    ⟨by decide, second⟩

end Repeater
end Switchboard
