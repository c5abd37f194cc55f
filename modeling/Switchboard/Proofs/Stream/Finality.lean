import Switchboard.Proofs.Stream.Dispatching

set_option autoImplicit false

namespace Switchboard

open Hall (Answers Responsive evaluated)

/-- A reader is woken, or started. -/
def Incident.Begins (reader : ReaderId) (incident : Incident) : Prop :=
  incident = .moved reader .woke ∨ incident.opens? = some reader

theorem ReaderPhase.stop_of_listen {phase : ReaderPhase} {view : ReaderView}
    (streamed : ∀ signal, view.next = some signal → signal.isStreamed = true)
    (heard : phase.listen view = some .stopRequested) : view.stopRequested = true := by
  cases phase with
  | starting | closed => cases heard
  | connecting =>
    simp only [listen] at heard
    split at heard
    · assumption
    · split at heard <;> cases heard
  | reading =>
    simp only [listen] at heard
    split at heard
    · assumption
    · cases streamed _ heard
  | draining outcome =>
    simp only [listen] at heard
    split at heard <;> cases heard

namespace Fleet

open Station (framesTaken dealings onlineFrame online decode_onlineFrame)

variable {answers : Answers} {history earlier later : List Incident} {fleet next : Fleet}
  {incident : Incident} {reader : ReaderId} {desk : Desk}

theorem Change.unlooked (change : Change answers fleet incident next)
    (begins : incident.Begins reader) :
    ∃ desk, next.desks reader = some desk ∧ desk.looked = false := by
  rcases begins with woke | opens
  · obtain ⟨desk, after, -, sits, step⟩ := change.moves woke
    exact ⟨after, sits, step.unlooked⟩
  · cases change with
    | reader _ other _ opened =>
      cases opens.symm.trans opened
      exact ⟨_, Function.update_self .., rfl⟩
    | hall | handle | stop | motion => cases opens
    | aside _ _ _ _ _ unopened => cases opens.symm.trans unopened

section Run

variable {hall : Hall} (run : Run answers (start hall) (earlier ++ incident :: later) fleet)
  (sits : fleet.desks reader = some desk)

include run sits

/-- A reader that a stop is meant for leaves the server alone once it was woken. -/
theorem Run.leaves_alone (begins : incident.Begins reader)
    (halted : Halted earlier fleet.botStop desk.handle reader) : LeavesAlone later reader := by
  obtain ⟨moment, after, begun, step, run⟩ := run.split_at
  obtain ⟨before, sat, unlooked⟩ := step.change.unlooked begins
  obtain ⟨final, stays, same, kept⟩ := Run.persists run sat
  cases stays.symm.trans sits
  have accounted := Run.accounted (begun.snoc step)
  have asked := (accounted.desk_iff sat).mpr (by rw [← kept, ← same]; exact halted.append _)
  have wary : before.Wary := fun looked => nomatch unlooked.symm.trans looked
  exact (Run.heeds (begun.snoc step) run ⟨sat, asked, wary⟩).2

/-- Whenever something happens to a reader, it is asked to stop if and only if a stop was meant for
it. -/
theorem Run.asked_iff {motion : Motion} (own : incident = .moved reader motion) :
    ∃ moment before, Run answers (start hall) earlier moment ∧
      (∃ after, Change answers moment incident after) ∧ moment.desks reader = some before ∧
      (moment.stops.isRequested before.handle = true ↔
        Halted earlier fleet.botStop desk.handle reader) := by
  obtain ⟨moment, after, begun, step, run⟩ := run.split_at
  obtain ⟨before, sat⟩ := step.change.moved own
  obtain ⟨final, remains, same, kept⟩ := Run.persists (Trace.append (.single step) run) sat
  cases remains.symm.trans sits
  refine ⟨moment, before, begun, ⟨after, step.change⟩, sat, ?_⟩
  rw [same, kept]
  exact (Run.accounted begun).desk_iff sat

end Run

/-- Where a reader looks for a stop, it sees one if and only if one was meant for it. -/
theorem Reached.looked_iff {seen : Bool}
    (reached : Reached answers (earlier ++ .moved reader (.looked seen) :: later) fleet)
    (sits : fleet.desks reader = some desk) :
    seen = true ↔ Halted earlier fleet.botStop desk.handle reader := by
  obtain ⟨-, run⟩ := reached
  obtain ⟨moment, before, -, ⟨after, change⟩, sat, iff⟩ := Run.asked_iff run sits rfl
  obtain ⟨present, left, here, -, step⟩ := change.moves rfl
  cases here.symm.trans sat
  rw [← iff]
  generalize moment.stops.isRequested before.handle = stop at step
  generalize after.hall = hall at step
  cases step
  rfl

theorem Reached.halted_of_stop
    (reached :
      Reached answers (earlier ++ .moved reader (.did (.heard .stopRequested)) :: later) fleet)
    (sits : fleet.desks reader = some desk) :
    Halted earlier fleet.botStop desk.handle reader := by
  obtain ⟨begun, run⟩ := reached
  obtain ⟨moment, before, run, ⟨after, change⟩, sat, iff⟩ := Run.asked_iff run sits rfl
  obtain ⟨present, here, -, -, heard⟩ := change.hears rfl
  cases here.symm.trans sat
  obtain ⟨acts, done, station, -⟩ := (Reached.intro begun run).station sat
  have stopping := ReaderPhase.stop_of_listen
    (fun signal next => station.disciplined.streamed signal (List.mem_of_head? next)) heard
  exact iff.mp (Run.seen run reader before sat stopping)

/-- A stop reaches whom it is meant for, and nobody else. The bot is asked to stop by its own handle
only. A reader is asked to stop by the handle of the bot, by its own and by its callbacks; no two
readers have the same handle, and none has that of the bot. Whenever a reader looks, it sees whether
it was asked to stop before, and it takes up a stop only then.

And a stop is final. When a reader is woken, or started, after it was asked to stop, it never goes
on connecting and takes up nothing from the server any more. All frames that it had taken up were
dealt with in their turn and as it had to be, before it took up anything else, except for one at
most that is in hand. This one too it can come to deal with, whoever was asked to stop, if it has
not crashed and the patterns answer: nothing else has to happen for it but its own steps and those
in the hall. -/
theorem stop_is_final (reached : Reached answers history fleet)
    (sits : fleet.desks reader = some desk) :
    (fleet.stops.isRequested fleet.botStop = true ↔ .stopped fleet.botStop ∈ history) ∧
    (fleet.stops.isRequested desk.handle = true ↔
      Halted history fleet.botStop desk.handle reader) ∧
    desk.handle ≠ fleet.botStop ∧
    (∀ other another, fleet.desks other = some another → another.handle = desk.handle →
      other = reader) ∧
    (∀ earlier seen later, history = earlier ++ .moved reader (.looked seen) :: later →
      (seen = true ↔ Halted earlier fleet.botStop desk.handle reader)) ∧
    (∀ earlier later, history = earlier ++ .moved reader (.did (.heard .stopRequested)) :: later →
      Halted earlier fleet.botStop desk.handle reader) ∧
    (∀ earlier incident later, history = earlier ++ incident :: later → incident.Begins reader →
      Halted earlier fleet.botStop desk.handle reader → LeavesAlone later reader) ∧
    (framesTaken (deeds history reader) =
        (dealings (deeds history reader)).map Dealing.frame ++ desk.station.inHand ∧
      desk.station.inHand.length ≤ 1 ∧
      ∃ acts, Hall.Reached answers acts fleet.hall ∧
        ∀ dealing ∈ dealings (deeds history reader), dealing.Right answers acts) ∧
    (∀ earlier signal later, history = earlier ++ .moved reader (.did (.heard signal)) :: later →
      framesTaken (deeds earlier reader) =
        (dealings (deeds earlier reader)).map Dealing.frame) ∧
    (desk.Alive → Responsive answers →
      ∃ more last, Run answers fleet more last ∧ (∀ incident ∈ more, incident.Attends reader) ∧
        (dealings (deeds (history ++ more) reader)).map Dealing.frame =
          framesTaken (deeds history reader)) := by
  obtain ⟨begun, run⟩ := id reached
  have accounted := Run.accounted run
  refine ⟨accounted.bot_iff, accounted.desk_iff sits, (accounted.desks reader desk sits).2.1, ?_,
    ?_, ?_, ?_, reached.frames sits, ?_, reached.completes sits⟩
  · intro other another beside same
    exact accounted.apart other reader another desk beside sits same
  · rintro earlier seen later rfl
    exact reached.looked_iff sits
  · rintro earlier later rfl
    exact reached.halted_of_stop sits
  · rintro earlier incident later rfl begins halted
    exact Run.leaves_alone run sits begins halted
  · rintro earlier signal later rfl
    exact reached.dealt

/-- Two readers are started. The first is stopped by its handle while it has a frame in hand, and
the second goes on connecting until the bot is stopped. A third is started after that. -/
def dismissal : List Incident :=
  [.opened 0, .opened 1, .moved 0 .woke, .moved 0 (.did (.heard .begun)),
    .moved 0 (.did .reopened), .moved 0 (.looked false), .moved 0 (.dialled (some (.ok ()))),
    .moved 0 (.did (.heard .connected)), .moved 0 (.did (.published .reading)),
    .moved 0 (.delivered (.frame onlineFrame)), .moved 0 (.looked false),
    .moved 0 (.did (.heard (.frame onlineFrame))), .moved 0 .slept, .stopped 1, .moved 0 .woke,
    .moved 0 (.did (.published .dispatching)), .moved 0 (.did (.offered onlineFrame 0 online)),
    .acted (.entered 0), .acted (.left 0), .acted (.answered 0 (.unclaimed online)),
    .moved 0 (.did (.spawned onlineFrame 0 online)), .moved 0 (.did (.published .reading)),
    .moved 0 (.looked true), .moved 0 (.did (.heard .stopRequested)), .moved 1 .woke,
    .moved 1 (.did (.heard .begun)), .moved 1 (.did .reopened), .moved 1 (.looked false),
    .moved 1 (.dialled none), .stopped 0, .opened 2, .moved 2 .woke,
    .moved 2 (.did (.heard .begun)), .moved 2 (.did .reopened), .moved 2 (.looked true),
    .moved 2 (.did (.heard .stopRequested))]

theorem dismissal_reached : ∃ fleet first second third, Reached evaluated dismissal fleet ∧
    fleet.botStop = 0 ∧ fleet.desks 0 = some first ∧ first.handle = 1 ∧ first.Alive ∧
    fleet.desks 1 = some second ∧ second.handle = 2 ∧
    fleet.desks 2 = some third ∧ third.handle = 3 := by
  have h0 : Run evaluated (start Hall.start) [] (start Hall.start) := .nil
  have h1 := h0.snoc (.start 0 rfl)
  have h2 := h1.snoc (.start 1 rfl)
  have h3 := h2.snoc (.move 0 .woke _ _ _ rfl (.wake rfl nofun))
  have h4 := h3.snoc (.move 0 _ _ _ _ rfl
    (.act (.heard .begun) _ rfl rfl nofun (.hear .begun rfl rfl rfl)))
  have h5 := h4.snoc (.move 0 _ _ _ _ rfl
    (.act .reopened _ rfl rfl nofun (.reopen _ _ rfl rfl (.reopen rfl))))
  have h6 := h5.snoc (.move 0 (.looked false) _ _ _ rfl (.look rfl rfl rfl rfl))
  have h7 := h6.snoc (.move 0 _ _ _ _ rfl (.dial (some (.ok ())) rfl rfl rfl rfl rfl rfl))
  have h8 := h7.snoc (.move 0 _ _ _ _ rfl
    (.act (.heard .connected) _ rfl rfl (fun _ _ _ => rfl) (.hear .connected rfl rfl rfl)))
  have h9 := h8.snoc (.move 0 _ _ _ _ rfl
    (.act (.published .reading) _ rfl rfl nofun (.publish .reading _ rfl rfl)))
  have h10 := h9.snoc (.move 0 _ _ _ _ rfl (.deliver (.frame onlineFrame) rfl))
  have h11 := h10.snoc (.move 0 (.looked false) _ _ _ rfl (.look rfl rfl rfl rfl))
  have h12 := h11.snoc (.move 0 _ _ _ _ rfl (.act (.heard (.frame onlineFrame)) _ rfl rfl
    (fun _ _ _ => rfl) (.hear (.frame onlineFrame) rfl rfl rfl)))
  have h13 := h12.snoc (.move 0 _ _ _ _ rfl (.sleep rfl))
  have h14 := h13.snoc (.stop 1 (by decide))
  have h15 := h14.snoc (.move 0 .woke _ _ _ rfl (.wake rfl nofun))
  have h16 := h15.snoc (.move 0 _ _ _ _ rfl
    (.act (.published .dispatching) _ rfl rfl nofun (.publish .dispatching _ rfl rfl)))
  have h17 := h16.snoc (.move 0 _ _ _ _ rfl (.act (.offered onlineFrame 0 online) _ rfl rfl nofun
    (.offer onlineFrame online _ 0 _ rfl rfl decode_onlineFrame (.ask 0 (.offer online) rfl))))
  have h18 := h17.snoc (.act _ _ (.enterSearch 0 online rfl rfl))
  have h19 := h18.snoc (.act _ _ (.leaveSearch 0 online _ rfl))
  have h20 := h19.snoc (.act _ _ (.answer 0 _ _ rfl))
  have h21 := h20.snoc (.move 0 _ _ _ _ rfl (.act (.spawned onlineFrame 0 online) _ rfl rfl nofun
    (.spawn onlineFrame 0 online online _ rfl rfl)))
  have h22 := h21.snoc (.move 0 _ _ _ _ rfl
    (.act (.published .reading) _ rfl rfl nofun (.publish .reading _ rfl rfl)))
  have h23 := h22.snoc (.move 0 (.looked true) _ _ _ rfl (.look rfl rfl rfl rfl))
  have h24 := h23.snoc (.move 0 _ _ _ _ rfl (.act (.heard .stopRequested) _ rfl rfl
    (fun _ _ _ => rfl) (.hear .stopRequested rfl rfl rfl)))
  have h25 := h24.snoc (.move 1 .woke _ _ _ rfl (.wake rfl nofun))
  have h26 := h25.snoc (.move 1 _ _ _ _ rfl
    (.act (.heard .begun) _ rfl rfl nofun (.hear .begun rfl rfl rfl)))
  have h27 := h26.snoc (.move 1 _ _ _ _ rfl
    (.act .reopened _ rfl rfl nofun (.reopen _ _ rfl rfl (.reopen rfl))))
  have h28 := h27.snoc (.move 1 (.looked false) _ _ _ rfl (.look rfl rfl rfl rfl))
  have h29 := h28.snoc (.move 1 _ _ _ _ rfl (.dial none rfl rfl rfl rfl rfl rfl))
  have h30 := h29.snoc (.stop 0 (by decide))
  have h31 := h30.snoc (.start 2 rfl)
  have h32 := h31.snoc (.move 2 .woke _ _ _ rfl (.wake rfl nofun))
  have h33 := h32.snoc (.move 2 _ _ _ _ rfl
    (.act (.heard .begun) _ rfl rfl nofun (.hear .begun rfl rfl rfl)))
  have h34 := h33.snoc (.move 2 _ _ _ _ rfl
    (.act .reopened _ rfl rfl nofun (.reopen _ _ rfl rfl (.reopen rfl))))
  have h35 := h34.snoc (.move 2 (.looked true) _ _ _ rfl (.look rfl rfl rfl rfl))
  have h36 := h35.snoc (.move 2 _ _ _ _ rfl (.act (.heard .stopRequested) _ rfl rfl
    (fun _ _ _ => rfl) (.hear .stopRequested rfl rfl rfl)))
  exact ⟨_, _, _, _, .intro .nil h36, rfl, rfl, rfl, nofun, rfl, rfl, rfl, rfl⟩

/-- In the dismissal the first reader is stopped and still passes its event on, the second is not
stopped by that, and the third comes too late to do anything. -/
theorem dismissal_final : ∃ fleet first second third, Reached evaluated dismissal fleet ∧
    fleet.desks 0 = some first ∧ fleet.desks 1 = some second ∧ fleet.desks 2 = some third ∧
    LeavesAlone (dismissal.drop 15) 0 ∧
    dealings (deeds dismissal 0) = [.passedOn onlineFrame 0 online] ∧
    (∃ acts, Dealing.Right evaluated acts (.passedOn onlineFrame 0 online)) ∧
    ¬ Halted (dismissal.take 27) fleet.botStop second.handle 1 ∧
    fleet.stops.isRequested second.handle = true ∧
    LeavesAlone (dismissal.drop 31) 2 ∧
    ∃ more last, Run evaluated fleet more last ∧
      (dealings (deeds (dismissal ++ more) 0)).map Dealing.frame = [onlineFrame] := by
  obtain ⟨fleet, first, second, third, reached, bot, sits, own, alive, beside, other, later, -⟩ :=
    dismissal_reached
  obtain ⟨-, -, -, -, -, -, final, ⟨-, -, acts, -, right⟩, -, clears⟩ :=
    stop_is_final reached sits
  obtain ⟨-, asked, -, -, looked, -⟩ := stop_is_final reached beside
  obtain ⟨-, -, -, -, -, -, late, -⟩ := stop_is_final reached later
  have dismissed : .stopped 1 ∈ dismissal.take 13 ++ [.stopped 1] :=
    List.mem_append_right _ (List.mem_singleton_self _)
  have closed : .stopped 0 ∈ dismissal.take 29 ++ .stopped 0 :: dismissal.drop 30 :=
    List.mem_append_right _ List.mem_cons_self
  have lately : .stopped 0 ∈ dismissal.take 29 ++ [.stopped 0] :=
    List.mem_append_right _ (List.mem_singleton_self _)
  obtain ⟨more, last, run, -, dealt⟩ := clears alive Hall.evaluated_responsive
  refine ⟨fleet, first, second, third, reached, sits, beside, later, ?_, rfl, ⟨acts, ?_⟩, ?_, ?_,
    ?_, more, last, run, dealt⟩
  · refine final (dismissal.take 14) (.moved 0 .woke) (dismissal.drop 15) rfl (.inl rfl) ?_
    rw [own]
    exact .inr (.inl dismissed)
  · exact right _ (List.mem_singleton_self _)
  · have unseen := looked (dismissal.take 27) false (dismissal.drop 28) rfl
    exact fun halted => nomatch unseen.mpr halted
  · rw [asked, bot]
    exact .inl closed
  · refine late (dismissal.take 30) (.opened 2) (dismissal.drop 31) rfl (.inr rfl) ?_
    rw [bot]
    exact .inl lately

end Fleet
end Switchboard
