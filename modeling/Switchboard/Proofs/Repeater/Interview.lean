import Switchboard.Proofs.Repeater.Course
import Switchboard.Proofs.Stream.Discipline
import Switchboard.Proofs.Waiter.Hearing

set_option autoImplicit false

namespace Switchboard.Repeater

open Hall (Answers captors)

/-- A handling of the repeater (`on_message`) with the reader and all parties of the hall beside it.
In the hall the handling registers one waiter at a time, waits for it, and withdraws it when its
deadline has come; nobody else has that waiter in hand. -/
structure Interview where
  station : Station
  work : Activity (Except Fault Unit)
  /-- The waiter that the handling waits for. -/
  waiter : Option WaiterId

/-- What happens in an interview. -/
inductive Happening where
  /-- The reader, or anybody else, does something. -/
  | beside (deed : Deed)
  | answered (exchange : Exchange)
  /-- The handling begins to wait. -/
  | registered (id : WaiterId) (kind : EventKind) (deadline : Option Instant)
      (refusal : Option WaitError)
  | withdrew (id : WaiterId) (won : Bool)
  /-- The wait ends, and the handling goes on. -/
  | returned (id : WaiterId) (kind : EventKind) (pattern : Pattern) (deadline : Option Instant)
      (result : Except WaitError (Option Event))

namespace Happening

def deed? : Happening → Option Deed
  | .beside deed => some deed
  | .answered _ => none
  | .registered id kind deadline refusal =>
    some (.party (.registered id kind (.waiting deadline) refusal))
  | .withdrew id won => some (.party (.withdrew id won))
  | .returned id _ _ deadline result => some (.party (.returned id (.waiting deadline) result))

def act? (happening : Happening) : Option Act := happening.deed?.bind Deed.act?

def exchange? : Happening → Option Exchange
  | .answered exchange => some exchange
  | .returned _ kind pattern deadline result => some ⟨.awaitEvent kind pattern deadline, result⟩
  | _ => none

end Happening

section Histories

variable (history : List Happening)

def deeds : List Deed := history.filterMap Happening.deed?

def acts : List Act := history.filterMap Happening.act?

def exchanges : List Exchange := history.filterMap Happening.exchange?

variable (later : List Happening) (happening : Happening)

theorem acts_append : acts (history ++ later) = acts history ++ acts later :=
  List.filterMap_append

theorem exchanges_append : exchanges (history ++ later) = exchanges history ++ exchanges later :=
  List.filterMap_append

theorem deeds_snoc : deeds (history ++ [happening]) = deeds history ++ happening.deed?.toList :=
  Hall.filterMap_snoc ..

theorem acts_snoc : acts (history ++ [happening]) = acts history ++ happening.act?.toList :=
  Hall.filterMap_snoc ..

theorem exchanges_snoc :
    exchanges (history ++ [happening]) = exchanges history ++ happening.exchange?.toList :=
  Hall.filterMap_snoc ..

end Histories

/-- An operation is answered at once: the clock tells the time, and nobody answers a wait like
this. -/
def Prompt (now : Instant) : Exchange → Prop
  | ⟨.now, time⟩ => time = now
  | ⟨.awaitEvent _ _ _, _⟩ => False
  | _ => True

namespace Interview

/-- A step of the handling, or of anybody else. -/
inductive Step (answers : Answers) (interview : Interview) : Happening → Interview → Prop
  | beside (deed : Deed) (station : Station)
      (step : Station.Step answers interview.station deed station)
      (apart : ∀ act id, deed.act? = some act → interview.waiter = some id →
        act.holder? ≠ some id) :
      Step answers interview (.beside deed) { interview with station := station }
  | answer (exchange : Exchange) (rest : Activity (Except Fault Unit))
      (goes : interview.work.GoesOn exchange rest)
      (prompt : Prompt interview.station.hall.now exchange) :
      Step answers interview (.answered exchange) { interview with work := rest }
  | register (kind : EventKind) (pattern : Pattern) (deadline : Option Instant)
      (next : Except WaitError (Option Event) → Activity (Except Fault Unit))
      (stands : interview.work = .step (.awaitEvent kind pattern deadline) next)
      (vacant : interview.waiter = none) (free : interview.station.hall.lock = .free) :
      Step answers interview
        (.registered interview.station.hall.queue.nextId kind deadline
          interview.station.hall.queue.closed)
        { interview with
          station :=
            { interview.station with
              hall := interview.station.hall.enrol kind pattern (.waiting deadline) }
          waiter := some interview.station.hall.queue.nextId }
  | withdraw (id : WaiterId) (won : Bool) (hall : Hall) (waits : interview.waiter = some id)
      (step : Hall.Step answers interview.station.hall (.withdrew id won) hall) :
      Step answers interview (.withdrew id won)
        { interview with station := { interview.station with hall := hall } }
  | return (id : WaiterId) (kind : EventKind) (pattern : Pattern) (deadline : Option Instant)
      (next : Except WaitError (Option Event) → Activity (Except Fault Unit))
      (result : Except WaitError (Option Event)) (hall : Hall)
      (stands : interview.work = .step (.awaitEvent kind pattern deadline) next)
      (waits : interview.waiter = some id)
      (step : Hall.Step answers interview.station.hall (.returned id (.waiting deadline) result)
        hall) :
      Step answers interview (.returned id kind pattern deadline result)
        ⟨{ interview.station with hall := hall }, next result, none⟩

variable {answers : Answers} {interview first next final : Interview} {happening : Happening}
  {history after : List Happening}

theorem Step.station_cases (step : Step answers interview happening next) :
    (happening.deed? = none ∧ next.station = interview.station) ∨
      ∃ deed, happening.deed? = some deed ∧
        Station.Step answers interview.station deed next.station := by
  cases step with
  | beside deed station step apart => exact .inr ⟨deed, rfl, step⟩
  | answer => exact .inl ⟨rfl, rfl⟩
  | register kind pattern deadline next stands vacant free =>
    exact .inr ⟨_, rfl, .party _ _ (.register kind pattern (.waiting deadline) free)⟩
  | withdraw _ _ _ _ step => exact .inr ⟨_, rfl, .party _ _ step⟩
  | «return» _ _ _ _ _ _ _ _ _ step => exact .inr ⟨_, rfl, .party _ _ step⟩

theorem Step.hall_cases (step : Step answers interview happening next) :
    (happening.act? = none ∧ next.station.hall = interview.station.hall) ∨
      ∃ act, happening.act? = some act ∧
        Hall.Step answers interview.station.hall act next.station.hall := by
  rcases step.station_cases with ⟨idle, same⟩ | ⟨deed, does, step⟩
  · exact .inl ⟨by rw [Happening.act?, idle, Option.bind_none], by rw [same]⟩
  · rw [Happening.act?, does, Option.bind_some]
    exact Relay.hall_cases step

theorem Step.work_cases (step : Step answers interview happening next) :
    (happening.exchange? = none ∧ next.work = interview.work) ∨
      ∃ exchange, happening.exchange? = some exchange ∧
        interview.work.GoesOn exchange next.work := by
  cases step with
  | answer exchange rest goes prompt => exact .inr ⟨exchange, rfl, goes⟩
  | «return» id kind pattern deadline next result hall stands waits step =>
    refine .inr ⟨_, rfl, ?_⟩
    rw [stands]
    exact .answer (.awaitEvent kind pattern deadline) next result
  | _ => exact .inl ⟨rfl, rfl⟩

/-- A handling without a waiter that registers none asks for nothing and gets none. -/
theorem Step.unwaited (step : Step answers interview happening next)
    (vacant : interview.waiter = none)
    (unregistered : ∀ id kind deadline refusal,
      happening ≠ .registered id kind deadline refusal) :
    next.waiter = none ∧ outcomes happening.exchange?.toList = [] := by
  cases step with
  | beside => exact ⟨vacant, rfl⟩
  | answer exchange rest goes prompt =>
    obtain ⟨op, answer⟩ := exchange
    cases op with
    | awaitEvent => cases prompt
    | _ => exact ⟨vacant, rfl⟩
  | register => exact (unregistered _ _ _ _ rfl).elim
  | withdraw _ _ _ waits => cases vacant.symm.trans waits
  | «return» _ _ _ _ _ _ _ _ waits => cases vacant.symm.trans waits

theorem reached_of_trace {before : List Act} {done : List Deed}
    (reached : Station.Reached answers before done first.station)
    (trace : Trace (Step answers) first history final) :
    Station.Reached answers before (done ++ deeds history) final.station := by
  induction trace with
  | nil => exact (List.append_nil done).symm ▸ reached
  | snoc trace step ih =>
    rw [deeds_snoc, ← List.append_assoc]
    rcases step.station_cases with ⟨idle, same⟩ | ⟨deed, does, step⟩
    · rw [idle, same, Option.toList_none, List.append_nil]
      exact ih
    · rw [does]
      exact ih.snoc step

theorem hall_of_trace (trace : Trace (Step answers) first history final) :
    Hall.Run answers first.station.hall (acts history) final.station.hall := by
  induction trace with
  | nil => exact .nil
  | snoc trace step ih =>
    rw [acts_snoc]
    rcases step.hall_cases with ⟨idle, same⟩ | ⟨act, does, step⟩
    · rw [idle, same, Option.toList_none, List.append_nil]
      exact ih
    · rw [does]
      exact ih.snoc step

theorem course_of_trace {asker : UserId} {origin : Api.Origin} {begun : List Exchange}
    (course : Course asker origin begun first.work)
    (trace : Trace (Step answers) first history final)
    (granted : ∀ exchange ∈ exchanges history, Granted exchange) :
    Course asker origin (begun ++ exchanges history) final.work := by
  induction trace with
  | nil => exact (List.append_nil begun).symm ▸ course
  | snoc trace step ih =>
    rw [exchanges_snoc] at granted ⊢
    have earlier := ih fun exchange among => granted exchange (List.mem_append_left _ among)
    rw [← List.append_assoc]
    rcases step.work_cases with ⟨idle, same⟩ | ⟨exchange, answered, goes⟩
    · rw [idle, same, Option.toList_none, List.append_nil]
      exact earlier
    · rw [answered] at granted ⊢
      exact earlier.snoc goes (granted exchange (List.mem_append_right _ List.mem_cons_self))

/-- The handling has registered a waiter, and still stands before its wait. -/
structure Pending (id : WaiterId) (kind : EventKind) (pattern : Pattern)
    (deadline : Option Instant) (after : List Happening) (interview : Interview) : Prop where
  idle : exchanges after = []
  waiter : interview.waiter = some id
  stands : ∃ next, interview.work = .step (.awaitEvent kind pattern deadline) next
  begun : (interview.station.hall.holders id).use? = some (.waiting deadline)

/-- The wait of the handling has ended with a result. -/
structure Ended (id : WaiterId) (kind : EventKind) (pattern : Pattern)
    (deadline : Option Instant) (result : Except WaitError (Option Event))
    (after : List Happening) (interview : Interview) : Prop where
  returned : .returned id (.waiting deadline) result ∈ acts after
  /-- The handling waits once only. -/
  once : outcomes (exchanges after) = [result]
  vacant : interview.waiter = none
  gone : interview.station.hall.holders id = .gone

variable {id : WaiterId} {kind : EventKind} {pattern : Pattern} {deadline : Option Instant}
  {result : Except WaitError (Option Event)}

theorem Step.pending (step : Step answers interview happening next)
    (pending : Pending id kind pattern deadline after interview) :
    (∀ won, happening.act? ≠ some (.abandoned id won)) ∧
      (Pending id kind pattern deadline (after ++ [happening]) next ∨
        ∃ result, Ended id kind pattern deadline result (after ++ [happening]) next) := by
  obtain ⟨idle, waiter, ⟨rest, stands⟩, begun⟩ := pending
  cases step with
  | beside deed station step apart =>
    refine ⟨fun won does => apart _ id does waiter rfl, .inl ⟨?_, waiter, ⟨rest, stands⟩, ?_⟩⟩
    · rw [exchanges_snoc, idle]
      rfl
    · rcases Relay.hall_cases step with ⟨-, same⟩ | ⟨act, does, step⟩
      · rw [same]
        exact begun
      · rw [step.holder_frame (apart act id does waiter)]
        exact begun
  | answer exchange rest goes prompt =>
    rw [stands] at goes
    cases goes
    cases prompt
  | register _ _ _ _ _ vacant => cases waiter.symm.trans vacant
  | withdraw other won hall waits step =>
    cases waiter.symm.trans waits
    refine ⟨nofun, .inl ⟨?_, waiter, ⟨rest, stands⟩, ?_⟩⟩
    · rw [exchanges_snoc, idle]
      rfl
    · exact step.use_of_withdrew.trans begun
  | «return» other kind pattern deadline next result hall standing waits step =>
    cases waiter.symm.trans waits
    cases stands.symm.trans standing
    refine ⟨nofun, .inr ⟨result, ?_, ?_, rfl, ?_⟩⟩
    · rw [acts_snoc]
      exact List.mem_append_right _ List.mem_cons_self
    · rw [exchanges_snoc, idle]
      rfl
    · cases step <;> exact Function.update_self ..

theorem Step.ended (step : Step answers interview happening next)
    (orderly : Hall.Orderly interview.station.hall)
    (ended : Ended id kind pattern deadline result after interview)
    (last : ∀ kind pattern deadline next,
      interview.work ≠ .step (.awaitEvent kind pattern deadline) next) :
    (∀ won, happening.act? ≠ some (.abandoned id won)) ∧
      Ended id kind pattern deadline result (after ++ [happening]) next := by
  obtain ⟨returned, once, vacant, gone⟩ := ended
  have both : (∀ won, happening.act? ≠ some (.abandoned id won)) ∧
      next.station.hall.holders id = .gone := by
    rcases step.hall_cases with ⟨idle, same⟩ | ⟨act, does, step⟩
    · rw [idle, same]
      exact ⟨nofun, gone⟩
    · refine ⟨fun won abandons => ?_, step.gone_kept orderly gone⟩
      cases does.symm.trans abandons
      exact step.not_gone_of_abandoned gone
  have goes_on : outcomes (exchanges (after ++ [happening])) = [result] ∧ next.waiter = none := by
    have unregistered : ∀ id kind deadline refusal,
        happening ≠ .registered id kind deadline refusal := by
      rintro id kind deadline refusal rfl
      cases step with
      | register _ _ _ _ stands => exact last _ _ _ _ stands
    obtain ⟨vacant, unwaited⟩ := step.unwaited vacant unregistered
    rw [exchanges_snoc, outcomes_append, unwaited, once]
    exact ⟨rfl, vacant⟩
  refine ⟨both.1, ?_, goes_on.1, goes_on.2, both.2⟩
  rw [acts_snoc]
  exact List.mem_append_left _ returned

theorem sequel_of_trace {past : List Act} {asker : UserId} {origin : Api.Origin}
    {begun : List Exchange} (reached : Hall.Reached answers past first.station.hall)
    (course : Course asker origin begun first.work)
    (pending : Pending id kind pattern deadline [] first)
    (trace : Trace (Step answers) first after final)
    (granted : ∀ exchange ∈ exchanges after, Granted exchange) :
    (∀ won, .abandoned id won ∉ acts after) ∧
      (Pending id kind pattern deadline after final ∨
        ∃ result, Ended id kind pattern deadline result after final) := by
  induction trace with
  | nil => exact ⟨fun _ => List.not_mem_nil, .inl pending⟩
  | @snoc after before final happening trace step ih =>
    have granted : ∀ exchange ∈ exchanges after, Granted exchange := fun exchange among =>
      granted exchange (by rw [exchanges_snoc]; exact List.mem_append_left _ among)
    obtain ⟨kept, stage⟩ := ih granted
    have course := course_of_trace course trace granted
    have orderly := Hall.Reached.orderly (reached.append (hall_of_trace trace))
    have both : (∀ won, happening.act? ≠ some (.abandoned id won)) ∧
        (Pending id kind pattern deadline (after ++ [happening]) final ∨
          ∃ result, Ended id kind pattern deadline result (after ++ [happening]) final) := by
      rcases stage with pending | ⟨result, ended⟩
      · exact step.pending pending
      · -- the course has one wait, and that one has ended
        have last : ∀ kind pattern deadline next,
            before.work ≠ .step (.awaitEvent kind pattern deadline) next := by
          intro kind pattern deadline next stands
          rw [stands] at course
          obtain ⟨now, posed, -⟩ := course.posed
          have none_waited := posed.outcomes_eq
          rw [outcomes_append, ended.once] at none_waited
          exact List.concat_ne_nil _ _ none_waited
        obtain ⟨kept, ended⟩ := step.ended orderly ended last
        exact ⟨kept, .inr ⟨result, ended⟩⟩
    refine ⟨fun won among => ?_, both.2⟩
    rw [acts_snoc] at among
    rcases List.mem_append.mp among with old | new
    · exact kept won old
    · exact both.1 won (Option.mem_toList.mp new)

end Interview
end Switchboard.Repeater
