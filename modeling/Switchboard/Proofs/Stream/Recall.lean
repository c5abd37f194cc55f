import Switchboard.Proofs.Stream.Fleet

set_option autoImplicit false

namespace Switchboard

open Hall (Answers)

namespace StopForest

variable {forest : StopForest} {id : StopId}

theorem lineage_of_prefix {later : StopForest} (grows : forest.ancestry <+: later.ancestry)
    (made : id < forest.ancestry.length) : later.lineage id = forest.lineage id := by
  obtain ⟨more, whole⟩ := grows
  simp only [lineage, List.getD_eq_getElem?_getD, ← whole, List.getElem?_append_left made]

theorem isRequested_iff :
    forest.isRequested id = true ↔ ∃ handle ∈ forest.lineage id, handle ∈ forest.requested := by
  simp [isRequested]

end StopForest

theorem Desk.Step.handle_eq {answers : Answers} {hall left : Hall} {stop : Bool} {motion : Motion}
    {desk after : Desk} (step : Desk.Step answers hall stop desk motion after left) :
    after.handle = desk.handle := by
  cases step <;> rfl

theorem CallbackEnd.stops_iff {ending : CallbackEnd} :
    ending.stops = true ↔ ending = .returned .stop := by
  rcases ending with (_ | _) | _ | _ | _ <;> simp [stops]

theorem Motion.stops_iff {motion : Motion} :
    motion.stops = true ↔ ∃ kind, motion = .ended kind (.returned .stop) := by
  cases motion <;> simp [stops, CallbackEnd.stops_iff]

namespace Fleet

variable {answers : Answers} {history : List Incident} {fleet next : Fleet} {incident : Incident}
  {reader : ReaderId} {desk : Desk}

/-- A callback of a reader asked it to stop. -/
def CalledOff (history : List Incident) (reader : ReaderId) : Prop :=
  ∃ kind, .moved reader (.ended kind (.returned .stop)) ∈ history

/-- A stop was requested of a bot or of one of its readers. -/
def Halted (history : List Incident) (botStop handle : StopId) (reader : ReaderId) : Prop :=
  .stopped botStop ∈ history ∨ .stopped handle ∈ history ∨ CalledOff history reader

theorem Halted.append {botStop handle : StopId} (halted : Halted history botStop handle reader)
    (more : List Incident) : Halted (history ++ more) botStop handle reader := by
  rcases halted with all | own | ⟨kind, ended⟩
  · exact .inl (List.mem_append_left _ all)
  · exact .inr (.inl (List.mem_append_left _ own))
  · exact .inr (.inr ⟨kind, List.mem_append_left _ ended⟩)

/-- The stop handles are made from each other, and requested, as the history tells. -/
structure Accounted (history : List Incident) (fleet : Fleet) : Prop where
  bot : fleet.botStop < fleet.stops.ancestry.length ∧
    fleet.stops.lineage fleet.botStop = [fleet.botStop]
  desks : ∀ reader desk, fleet.desks reader = some desk →
    desk.handle < fleet.stops.ancestry.length ∧ desk.handle ≠ fleet.botStop ∧
      fleet.stops.lineage desk.handle = [desk.handle, fleet.botStop]
  /-- No two readers have the same handle. -/
  apart : ∀ reader other desk another, fleet.desks reader = some desk →
    fleet.desks other = some another → desk.handle = another.handle → reader = other
  /-- Nothing has happened to a reader that was not started. -/
  unmoved : ∀ reader, fleet.desks reader = none → ∀ motion, .moved reader motion ∉ history
  made : ∀ handle ∈ fleet.stops.requested, handle < fleet.stops.ancestry.length
  requested : ∀ handle, handle ∈ fleet.stops.requested ↔ .stopped handle ∈ history ∨
    ∃ reader desk, fleet.desks reader = some desk ∧ desk.handle = handle ∧
      CalledOff history reader

section Change

variable (change : Change answers fleet incident next)

include change

theorem Change.botStop_eq : next.botStop = fleet.botStop := by
  cases change with
  | handle parent => cases parent <;> rfl
  | _ => rfl

theorem Change.grows : fleet.stops.ancestry <+: next.stops.ancestry := by
  cases change with
  | hall | stop | aside => exact List.prefix_refl _
  | handle parent => cases parent <;> exact List.prefix_append _ _
  | reader => exact List.prefix_append _ _
  | motion reader motion =>
    dsimp only
    split <;> exact List.prefix_refl _

/-- What a step means to a reader: it is a step of the reader, or the reader stays as it is. -/
theorem Change.of_reader (sits : fleet.desks reader = some desk) :
    (next.desks reader = some desk ∧ ∀ motion, incident ≠ .moved reader motion) ∨
      ∃ motion after, incident = .moved reader motion ∧ next.desks reader = some after ∧
        Desk.Step answers fleet.hall (fleet.stops.isRequested desk.handle) desk motion after
          next.hall := by
  cases change with
  | hall | stop => exact .inl ⟨sits, fun _ own => by cases own⟩
  | handle parent => cases parent <;> exact .inl ⟨sits, fun _ own => by cases own⟩
  | reader _ other _ opens fresh =>
    have apart : reader ≠ other := by
      rintro rfl
      cases sits.symm.trans fresh
    refine .inl ⟨(Function.update_of_ne apart ..).trans sits, ?_⟩
    rintro motion rfl
    cases opens
  | motion other motion before after hall present step =>
    by_cases same : reader = other
    · cases same
      cases present.symm.trans sits
      exact .inr ⟨motion, after, rfl, Function.update_self .., step⟩
    · refine .inl ⟨(Function.update_of_ne same ..).trans sits, ?_⟩
      rintro motion ⟨⟩
      exact same rfl
  | aside _ _ _ _ unmoved =>
    refine .inl ⟨sits, ?_⟩
    rintro motion rfl
    simpa [Incident.motion?] using unmoved reader

theorem Change.persists (sits : fleet.desks reader = some desk) :
    ∃ after, next.desks reader = some after ∧ after.handle = desk.handle := by
  rcases change.of_reader sits with ⟨stays, -⟩ | ⟨motion, after, -, stays, step⟩
  · exact ⟨desk, stays, rfl⟩
  · exact ⟨after, stays, step.handle_eq⟩

theorem Change.origin (sits : next.desks reader = some desk) :
    (∃ before, fleet.desks reader = some before ∧ before.handle = desk.handle) ∨
      fleet.desks reader = none ∧ incident.opens? = some reader ∧
        desk = .start fleet.stops.ancestry.length fleet.hall ∧
        next.stops = (fleet.stops.addChild fleet.botStop).2 := by
  cases change with
  | hall | stop | aside => exact .inl ⟨desk, sits, rfl⟩
  | handle parent => cases parent <;> exact .inl ⟨desk, sits, rfl⟩
  | reader _ other _ opens fresh =>
    by_cases same : reader = other
    · cases same
      cases (Function.update_self ..).symm.trans sits
      exact .inr ⟨fresh, opens, rfl, rfl⟩
    · exact .inl ⟨desk, (Function.update_of_ne same ..).symm.trans sits, rfl⟩
  | motion other _ before after _ present step =>
    by_cases same : reader = other
    · cases same
      cases (Function.update_self ..).symm.trans sits
      exact .inl ⟨before, present, step.handle_eq.symm⟩
    · exact .inl ⟨desk, (Function.update_of_ne same ..).symm.trans sits, rfl⟩

theorem Change.requested_iff (handle : StopId) :
    handle ∈ next.stops.requested ↔ handle ∈ fleet.stops.requested ∨ incident = .stopped handle ∨
      ∃ reader desk kind, incident = .moved reader (.ended kind (.returned .stop)) ∧
        fleet.desks reader = some desk ∧ desk.handle = handle := by
  cases change with
  | hall => simp
  | handle parent => cases parent <;> simp [makeHandle, StopForest.addRoot, StopForest.addChild]
  | stop other => simp [StopForest.request, or_comm, eq_comm]
  | reader _ other _ opens =>
    have elsewhere : incident ≠ .stopped handle ∧
        ∀ reader motion, incident ≠ .moved reader motion := by
      cases incident <;> simp_all [Incident.opens?]
    simp [enlist, StopForest.addChild, elsewhere]
  | motion other motion before after _ present step =>
    by_cases stops : motion.stops = true
    · obtain ⟨kind, rfl⟩ := Motion.stops_iff.mp stops
      simp [Motion.stops, CallbackEnd.stops, StopForest.request, present, or_comm, eq_comm]
    · have other : ∀ kind, motion ≠ .ended kind (.returned .stop) :=
        fun kind same => stops (Motion.stops_iff.mpr ⟨kind, same⟩)
      simp [stops, other]
  | aside _ _ _ unstopped unmoved =>
    have still : ∀ reader motion, incident ≠ .moved reader motion := by
      rintro reader motion rfl
      simpa [Incident.motion?] using unmoved reader
    simp [unstopped, still]

theorem Change.moved {motion : Motion} (own : incident = .moved reader motion) :
    ∃ desk, fleet.desks reader = some desk := by
  cases own
  cases change with
  | reader _ _ _ opens => cases opens
  | motion _ _ desk _ _ sits => exact ⟨desk, sits⟩
  | aside _ _ _ _ unmoved =>
    have still := unmoved reader
    simp [Incident.motion?] at still

end Change

section Preservation

variable (change : Change answers fleet incident next) (accounted : Accounted history fleet)

include change accounted

theorem Change.bot : next.botStop < next.stops.ancestry.length ∧
    next.stops.lineage next.botStop = [next.botStop] := by
  obtain ⟨made, alone⟩ := accounted.bot
  rw [change.botStop_eq, StopForest.lineage_of_prefix change.grows made]
  exact ⟨made.trans_le change.grows.length_le, alone⟩

theorem Change.desks (reader : ReaderId) (desk : Desk) (sits : next.desks reader = some desk) :
    desk.handle < next.stops.ancestry.length ∧ desk.handle ≠ next.botStop ∧
      next.stops.lineage desk.handle = [desk.handle, next.botStop] := by
  rw [change.botStop_eq]
  rcases change.origin sits with ⟨before, sat, same⟩ | ⟨-, -, rfl, grown⟩
  · obtain ⟨made, apart, lineage⟩ := accounted.desks reader before sat
    rw [← same, StopForest.lineage_of_prefix change.grows made]
    exact ⟨made.trans_le change.grows.length_le, apart, lineage⟩
  · obtain ⟨made, alone⟩ := accounted.bot
    have lineage := StopForest.lineage_addChild fleet.stops fleet.botStop
    rw [alone] at lineage
    rw [grown]
    exact ⟨by simp [Desk.start, StopForest.addChild], made.ne', lineage⟩

theorem Change.apart (reader other : ReaderId) (desk another : Desk)
    (sits : next.desks reader = some desk) (beside : next.desks other = some another)
    (same : desk.handle = another.handle) : reader = other := by
  -- the handle of a reader that is just started is newer than any other
  have older {reader : ReaderId} {desk : Desk} (sits : fleet.desks reader = some desk) :=
    (accounted.desks reader desk sits).1
  rcases change.origin sits with ⟨before, sat, kept⟩ | ⟨-, opens, rfl, -⟩ <;>
    rcases change.origin beside with ⟨former, was, stayed⟩ | ⟨-, opened, rfl, -⟩
  · exact accounted.apart reader other before former sat was
      (kept.trans (same.trans stayed.symm))
  · have newer := older sat
    rw [kept, same] at newer
    exact absurd newer (Nat.lt_irrefl _)
  · have newer := older was
    rw [stayed, ← same] at newer
    exact absurd newer (Nat.lt_irrefl _)
  · exact Option.some.inj (opens.symm.trans opened)

theorem Change.unmoved (reader : ReaderId) (absent : next.desks reader = none) (motion : Motion) :
    .moved reader motion ∉ history ++ [incident] := by
  have was : fleet.desks reader = none := by
    cases before : fleet.desks reader with
    | none => rfl
    | some desk =>
      obtain ⟨after, sits, -⟩ := change.persists before
      cases absent.symm.trans sits
  intro member
  rcases List.mem_append.mp member with old | new
  · exact accounted.unmoved reader was motion old
  · obtain ⟨desk, sits⟩ := change.moved (List.mem_singleton.mp new).symm
    cases was.symm.trans sits

theorem Change.made (handle : StopId) (asked : handle ∈ next.stops.requested) :
    handle < next.stops.ancestry.length := by
  refine Nat.lt_of_lt_of_le ?_ change.grows.length_le
  rcases (change.requested_iff handle).mp asked with old | rfl | ⟨reader, desk, _, -, sits, rfl⟩
  · exact accounted.made handle old
  · cases change with
    | stop _ made => exact made
    | reader _ _ _ opens => cases opens
    | aside _ _ _ unstopped => exact absurd rfl (unstopped handle)
  · exact (accounted.desks reader desk sits).1

theorem Change.requested (handle : StopId) :
    handle ∈ next.stops.requested ↔ .stopped handle ∈ history ++ [incident] ∨
      ∃ reader desk, next.desks reader = some desk ∧ desk.handle = handle ∧
        CalledOff (history ++ [incident]) reader := by
  rw [change.requested_iff, accounted.requested]
  constructor
  · rintro ((stopped | ⟨reader, desk, sits, rfl, kind, ended⟩) | rfl |
      ⟨reader, desk, kind, rfl, sits, rfl⟩)
    · exact .inl (List.mem_append_left _ stopped)
    · obtain ⟨after, stays, same⟩ := change.persists sits
      exact .inr ⟨reader, after, stays, same, kind, List.mem_append_left _ ended⟩
    · exact .inl (List.mem_append_right _ (List.mem_singleton_self _))
    · obtain ⟨after, stays, same⟩ := change.persists sits
      exact .inr ⟨reader, after, stays, same, kind,
        List.mem_append_right _ (List.mem_singleton_self _)⟩
  · rintro (stopped | ⟨reader, desk, sits, rfl, kind, ended⟩)
    · rcases List.mem_append.mp stopped with old | new
      · exact .inl (.inl old)
      · exact .inr (.inl (List.mem_singleton.mp new).symm)
    · rcases List.mem_append.mp ended with old | new
      · rcases change.origin sits with ⟨before, sat, same⟩ | ⟨absent, -⟩
        · exact .inl (.inr ⟨reader, before, sat, same, kind, old⟩)
        · exact absurd old (accounted.unmoved reader absent _)
      · have own := (List.mem_singleton.mp new).symm
        obtain ⟨before, sat⟩ := change.moved own
        obtain ⟨after, stays, same⟩ := change.persists sat
        cases stays.symm.trans sits
        exact .inr (.inr ⟨reader, before, kind, own, sat, same.symm⟩)

end Preservation

theorem start_accounted (hall : Hall) : Accounted [] (start hall) where
  bot := ⟨Nat.zero_lt_one, rfl⟩
  desks := fun _ _ sits => nomatch sits
  apart := fun _ _ _ _ sits => nomatch sits
  unmoved := fun _ _ _ => List.not_mem_nil
  made := fun _ asked => nomatch asked
  requested := fun handle => by simp [start, StopForest.addRoot, StopForest.empty]

theorem Run.accounted {hall : Hall} (run : Run answers (start hall) history fleet) :
    Accounted history fleet := by
  induction run with
  | nil => exact start_accounted hall
  | snoc run step ih =>
    have change := step.change
    exact ⟨change.bot ih, change.desks ih, change.apart ih, change.unmoved ih, change.made ih,
      change.requested ih⟩

theorem Run.persists {more : List Incident} {last : Fleet} (run : Run answers fleet more last)
    (sits : fleet.desks reader = some desk) :
    ∃ after, last.desks reader = some after ∧ after.handle = desk.handle ∧
      last.botStop = fleet.botStop := by
  induction run with
  | nil => exact ⟨desk, sits, rfl, rfl⟩
  | snoc run step ih =>
    obtain ⟨before, sat, same, kept⟩ := ih
    obtain ⟨after, stays, alike⟩ := step.change.persists sat
    exact ⟨after, stays, alike.trans same, step.change.botStop_eq.trans kept⟩

theorem Accounted.bot_iff (accounted : Accounted history fleet) :
    fleet.stops.isRequested fleet.botStop = true ↔ .stopped fleet.botStop ∈ history := by
  rw [StopForest.isRequested_iff, accounted.bot.2]
  simp only [List.mem_singleton, exists_eq_left, accounted.requested, or_iff_left_iff_imp]
  rintro ⟨reader, desk, sits, same, -⟩
  exact absurd same (accounted.desks reader desk sits).2.1

/-- A reader is asked to stop by requests on its own handle, by its callbacks and by requests on the
handle of the bot. -/
theorem Accounted.desk_iff (accounted : Accounted history fleet)
    (sits : fleet.desks reader = some desk) :
    fleet.stops.isRequested desk.handle = true ↔
      Halted history fleet.botStop desk.handle reader := by
  obtain ⟨-, apart, lineage⟩ := accounted.desks reader desk sits
  have bot := accounted.bot_iff
  rw [StopForest.isRequested_iff, accounted.bot.2] at bot
  simp only [List.mem_singleton, exists_eq_left] at bot
  rw [StopForest.isRequested_iff, lineage]
  simp only [List.mem_cons, List.not_mem_nil, or_false, exists_eq_or_imp, exists_eq_left, bot,
    accounted.requested desk.handle, Halted]
  constructor
  · rintro ((own | ⟨other, another, present, same, ended⟩) | all)
    · exact .inr (.inl own)
    · rw [accounted.apart _ _ _ _ sits present same.symm]
      exact .inr (.inr ended)
    · exact .inl all
  · rintro (all | own | ended)
    · exact .inr all
    · exact .inl (.inl own)
    · exact .inl (.inr ⟨reader, desk, sits, rfl, ended⟩)

end Fleet
end Switchboard
