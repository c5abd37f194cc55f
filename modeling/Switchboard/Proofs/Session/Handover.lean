import Switchboard.Proofs.Session.Custody

set_option autoImplicit false

namespace Switchboard.Custody

open Session (Goes Point)
open Hall (filterMap_snoc)

variable {history : List Affair} {custody next : Custody} {affair : Affair} {call : CallId}
  {asked : Bool}

section Frames

variable (custody) (clone : CloneId)

@[simp] theorem leave_calls : (custody.leave clone).calls = custody.calls := by
  unfold leave
  split <;> rfl

@[simp] theorem leave_clones : (custody.leave clone).clones = custody.clones.erase clone := by
  unfold leave
  split <;> rfl

@[simp] theorem leave_botStop : (custody.leave clone).botStop = custody.botStop := by
  unfold leave
  split <;> rfl

@[simp] theorem leave_streams : (custody.leave clone).streams = custody.streams := by
  unfold leave
  split <;> rfl

@[simp] theorem leave_lineage (handle : StopId) :
    (custody.leave clone).stops.lineage handle = custody.stops.lineage handle := by
  unfold leave
  split <;> rfl

/-- Whoever drops the last clone takes the session out, leaves its release to a task and asks the
streams to stop. -/
theorem leave_last (last : custody.clones.erase clone = []) :
    (custody.leave clone).slot = none ∧
      (custody.leave clone).spawned =
        custody.spawned ++ (custody.slot.map Session.releaseRequest).toList ∧
      (custody.leave clone).stops = custody.stops.request custody.botStop := by
  rw [leave, if_pos last]
  exact ⟨rfl, rfl, rfl⟩

theorem leave_others (others : custody.clones.erase clone ≠ []) :
    (custody.leave clone).slot = custody.slot ∧
      (custody.leave clone).spawned = custody.spawned ∧
      (custody.leave clone).stops = custody.stops := by
  rw [leave, if_neg others]
  exact ⟨rfl, rfl, rfl⟩

end Frames

theorem Step.calls_frame (step : Step custody affair next) (bystander : affair.call? ≠ some call) :
    next.calls call = custody.calls call := by
  have apart : ∀ {other : CallId}, some other ≠ some call → call ≠ other :=
    fun differ same => differ (congrArg some same.symm)
  cases step with
  | call | ask | answer => exact Function.update_of_ne (apart bystander) _ _
  | drop clone held idle => rw [leave_calls]
  | clone | startStream | requestStop => rfl

/-- A call that was made sends the request that it stands before, or is answered. -/
theorem Step.own_cases {clone : CloneId} {work : Activity (Except ApiError Unit)}
    (step : Step custody affair next) (made : custody.calls call = some ⟨clone, work, asked⟩)
    (own : affair.call? = some call) :
    (∃ request rest, asked = false ∧ work = .step (.request request) rest ∧
      affair = .asked call request) ∨
    ∃ op rest answer, asked = op.isSent ∧ work = .step op rest ∧
      affair = .answered call op answer ∧ Answered custody.slot op answer next.slot ∧
      next.calls call = some ⟨clone, rest answer, false⟩ := by
  cases step with
  | call other clone demand unmade held =>
    cases own
    cases unmade.symm.trans made
  | ask other clone request rest stands =>
    cases own
    cases stands.symm.trans made
    exact .inl ⟨request, rest, rfl, rfl, rfl⟩
  | answer other clone op rest answer slot stands answered =>
    cases own
    cases stands.symm.trans made
    exact .inr ⟨op, rest, answer, rfl, rfl, rfl, answered, Function.update_self ..⟩
  | _ => cases own

theorem Step.unfinished {result : Except ApiError Unit} (step : Step custody affair next)
    (returned : custody.Returned call result) : affair.call? ≠ some call := by
  obtain ⟨⟨clone, _, asked⟩, made, rfl⟩ := returned
  intro own
  obtain ⟨_, _, -, asks, -⟩ | ⟨_, _, _, -, asks, -⟩ := step.own_cases made own <;> cases asks

theorem Step.returned {result : Except ApiError Unit} (step : Step custody affair next)
    (returned : custody.Returned call result) : next.Returned call result := by
  have same := step.calls_frame (step.unfinished returned)
  obtain ⟨engagement, made, ended⟩ := returned
  exact ⟨engagement, same.trans made, ended⟩

theorem Run.returned {first last : Custody} {result : Except ApiError Unit}
    (run : Run first history last) (returned : first.Returned call result) :
    last.Returned call result := by
  induction run with
  | nil => exact returned
  | snoc run step ih => exact step.returned ih

/-- Where a session is that a call learned to be tied to its account. -/
inductive Whereabouts (history : List Affair) (custody : Custody) (call : CallId)
    (session : Session) : Prop
  /-- The call has still to bind it. -/
  | binding (clone : CloneId) (asked : Bool)
      (made : custody.calls call = some ⟨clone, (Point.binding session).work, asked⟩)
  /-- The call has still to give it back. -/
  | returning (clone : CloneId)
      (made : custody.calls call = some ⟨clone, (Point.returning session).work, false⟩)
  | bound (held : custody.slot = some session)
  | released (other : CallId) (sent : .asked other session.releaseRequest ∈ history)
  | left (gone : custody.clones = []) (spawned : custody.spawned = [session.releaseRequest])

/-- A call keeps its clone until it returns. -/
def Tended (custody : Custody) : Prop :=
  ∀ call engagement, custody.calls call = some engagement →
    engagement.Over ∨ engagement.clone ∈ custody.clones

/-- What the bot shows agrees with what happened. -/
structure Sound (history : List Affair) (custody : Custody) : Prop where
  stands : ∀ call clone work asked, custody.calls call = some ⟨clone, work, asked⟩ →
    ∃ point : Point, work = point.work ∧ Tells history call asked point
  tended : custody.Tended
  known : ∀ session, custody.slot = some session →
    ∃ opener, .answered opener (.bindSession session) true ∈ history
  gone : custody.clones = [] → custody.slot = none ∧ custody.botStop ∈ custody.stops.requested
  unspawned : custody.clones ≠ [] → custody.spawned = []
  earned : ∀ opener session, (opener, session) ∈ bindings history →
    custody.Returned opener (.ok ()) ∧ (opener, session.key) ∈ grants history
  once : ((bindings history).map Prod.fst).Nodup
  whereabouts : ∀ call session, Verified history call session →
    Whereabouts history custody call session
  descent : custody.botStop ∈ custody.stops.lineage custody.botStop ∧
    ∀ stream ∈ custody.streams, custody.botStop ∈ custody.stops.lineage stream

theorem bindings_snoc :
    bindings (history ++ [affair]) = bindings history ++ affair.binding?.toList :=
  filterMap_snoc _ _ _

theorem grants_snoc : grants (history ++ [affair]) = grants history ++ affair.grant?.toList :=
  filterMap_snoc _ _ _

theorem Step.answered {op : Op} {answer : op.Answer}
    (step : Step custody (.answered call op answer) next) (sound : Sound history custody) :
    ∃ clone point after, custody.calls call = some ⟨clone, point.work, op.isSent⟩ ∧
      Tells history call op.isSent point ∧ Goes point op answer after ∧
      Answered custody.slot op answer next.slot ∧
      next = { custody with slot := next.slot }.setCall call ⟨clone, after.work, false⟩ := by
  cases step with
  | answer _ clone _ rest _ slot stands answered =>
    obtain ⟨point, asks, tells⟩ := sound.stands _ _ _ _ stands
    obtain ⟨after, goes, left⟩ := point.goes asks.symm answer
    rw [asks] at stands
    exact ⟨clone, point, after, stands, tells, goes, answered, by rw [← left]; rfl⟩

theorem Step.held (step : Step custody affair next) (tended : custody.Tended)
    (own : affair.call? = some call) :
    next.clones = custody.clones ∧ next.spawned = custody.spawned ∧
      ∃ engagement, next.calls call = some engagement ∧ engagement.clone ∈ custody.clones := by
  cases step with
  | call other clone demand unmade held =>
    cases own
    exact ⟨rfl, rfl, _, Function.update_self .., held⟩
  | ask other clone request rest stands =>
    cases own
    have held := (tended _ _ stands).resolve_left fun ⟨_, ended⟩ => nomatch ended
    exact ⟨rfl, rfl, _, Function.update_self .., held⟩
  | answer other clone op rest answer slot stands answered =>
    cases own
    have held := (tended _ _ stands).resolve_left fun ⟨_, ended⟩ => nomatch ended
    exact ⟨rfl, rfl, _, Function.update_self .., held⟩
  | _ => cases own

theorem Step.tended (step : Step custody affair next) (tended : custody.Tended) :
    next.Tended := by
  intro call engagement made
  by_cases own : affair.call? = some call
  · obtain ⟨same, -, other, found, held⟩ := step.held tended own
    cases found.symm.trans made
    exact .inr (same ▸ held)
  · rw [step.calls_frame own] at made
    rcases tended call engagement made with ended | held
    · exact .inl ended
    cases step with
    | call | ask | answer | startStream | requestStop => exact .inr held
    | clone clone other _ unused => exact .inr (List.mem_cons_of_mem _ held)
    | drop clone _ idle =>
      by_cases same : engagement.clone = clone
      · exact .inl (idle call engagement made same)
      · rw [leave_clones]
        exact .inr ((List.mem_erase_of_ne same).mpr held)

theorem Step.vacant (step : Step custody affair next) (tended : custody.Tended)
    (before : custody.clones = [] → custody.slot = none) (last : next.clones = []) :
    next.slot = none := by
  cases own : affair.call? with
  | some call =>
    obtain ⟨same, -, engagement, -, held⟩ := step.held tended own
    rw [← same, last] at held
    cases held
  | none =>
    cases step with
    | clone clone other held unused => cases last
    | startStream clone held => exact nomatch (last ▸ held : clone ∈ [])
    | requestStop handle => exact before last
    | drop clone held idle =>
      rw [leave_clones] at last
      exact (leave_last _ _ last).1
    | _ => cases own

/-- After the last clone was dropped nothing more is left to tasks, and no clone is made. -/
theorem Step.after_last (step : Step custody affair next) (sound : Sound history custody)
    (gone : custody.clones = []) : next.clones = [] ∧ next.spawned = custody.spawned := by
  cases own : affair.call? with
  | some call =>
    obtain ⟨-, -, engagement, -, held⟩ := step.held sound.tended own
    rw [gone] at held
    cases held
  | none =>
    cases step with
    | clone clone other held unused => exact nomatch (gone ▸ held : clone ∈ [])
    | drop clone held idle => exact nomatch (gone ▸ held : clone ∈ [])
    | startStream clone held => exact nomatch (gone ▸ held : clone ∈ [])
    | requestStop handle => exact ⟨gone, rfl⟩
    | _ => cases own

/-- The release of the session that is bound when the last clone is dropped is left to one task. -/
theorem Step.disbands {clone : CloneId} (step : Step custody (.dropped clone) next)
    (sound : Sound history custody) (gone : next.clones = []) :
    custody.spawned = [] ∧
      next.spawned = (custody.slot.map Session.releaseRequest).toList := by
  cases step with
  | drop _ held idle =>
    rw [leave_clones] at gone
    have unspawned := sound.unspawned (List.ne_nil_of_mem held)
    refine ⟨unspawned, ?_⟩
    rw [(leave_last _ _ gone).2.1, unspawned, List.nil_append]

/-- Each step leaves the session that is bound alone, or a call binds one that it earned, or a call
unbinds one that it released, or the last clone is dropped. -/
inductive Handover (history : List Affair) (custody : Custody) : Affair → Custody → Prop
  | nothing {affair : Affair} {next : Custody} (same : next.slot = custody.slot)
      (binds : affair.binding? = none) : Handover history custody affair next
  | bound {next : Custody} (call : CallId) (session : Session) (vacant : custody.slot = none)
      (filled : next.slot = some session) (earned : Earned history call session)
      (returned : next.Returned call (.ok ())) :
      Handover history custody (.answered call (.bindSession session) true) next
  | unbound {next : Custody} (call : CallId) (session : Session)
      (filled : custody.slot = some session) (vacant : next.slot = none)
      (released : Released history call session) (returned : next.Returned call (.ok ())) :
      Handover history custody (.answered call (.unbindSession session) ()) next
  | disbanded {next : Custody} (clone : CloneId) (last : next.clones = [])
      (vacant : next.slot = none) : Handover history custody (.dropped clone) next

theorem Step.handover (step : Step custody affair next) (sound : Sound history custody) :
    Handover history custody affair next := by
  cases affair with
  | answered call op answer =>
    obtain ⟨clone, point, after, stands, tells, goes, answered, whole⟩ := step.answered sound
    have settled (result : Except ApiError Unit) (ended : after = .settled result) :
        next.Returned call result := by
      rw [whole]
      exact ⟨_, Function.update_self .., by rw [ended]; rfl⟩
    generalize held : custody.slot = before at answered
    generalize left : next.slot = slot at answered
    cases answered with
    | request slot request result => exact .nothing (left.trans held.symm) rfl
    | session slot => exact .nothing (left.trans held.symm) rfl
    | occupied session other => exact .nothing (left.trans held.symm) rfl
    | elsewhere slot session differs => exact .nothing (left.trans held.symm) rfl
    | bound session =>
      cases goes
      exact .bound call session held left tells (settled _ rfl)
    | unbound session =>
      cases goes
      exact .unbound call session held left tells (settled _ rfl)
  | dropped clone =>
    cases step with
    | drop _ held idle =>
      by_cases last : custody.clones.erase clone = []
      · exact .disbanded clone ((leave_clones _ _).trans last) (leave_last _ _ last).1
      · exact .nothing (leave_others _ _ last).1 rfl
  | called | asked | cloned | started | stopped =>
    cases step
    exact .nothing rfl rfl

section Preservation

variable (step : Step custody affair next) (sound : Sound history custody)

include step sound

theorem Step.stands (call : CallId) (clone : CloneId) (work : Activity (Except ApiError Unit))
    (asked : Bool) (made : next.calls call = some ⟨clone, work, asked⟩) :
    ∃ point : Point, work = point.work ∧ Tells (history ++ [affair]) call asked point := by
  by_cases own : affair.call? = some call
  · cases affair with
    | called other demand =>
      cases own
      cases step
      cases (Function.update_self ..).symm.trans made
      exact ⟨.beginning demand, rfl, List.mem_append_right _ (List.mem_singleton_self _)⟩
    | asked other request =>
      cases own
      cases step with
      | ask _ clone request rest stands =>
        cases (Function.update_self ..).symm.trans made
        obtain ⟨point, asks, tells⟩ := sound.stands _ _ _ _ stands
        exact ⟨point, asks, tells.ask asks.symm⟩
    | answered other op answer =>
      cases own
      obtain ⟨clone, point, after, stands, tells, goes, answered, whole⟩ := step.answered sound
      rw [whole] at made
      cases (Function.update_self ..).symm.trans made
      refine ⟨after, rfl, tells.answer goes ?_⟩
      intro session same
      cases same
      exact sound.known session answered.session_eq.symm
    | _ => cases own
  · rw [step.calls_frame own] at made
    obtain ⟨point, stands, tells⟩ := sound.stands _ _ _ _ made
    exact ⟨point, stands, tells.mono⟩

theorem Step.known (session : Session) (filled : next.slot = some session) :
    ∃ opener, .answered opener (.bindSession session) true ∈ history ++ [affair] := by
  cases step.handover sound with
  | nothing same =>
    obtain ⟨opener, bound⟩ := sound.known session (same ▸ filled)
    exact ⟨opener, List.mem_append_left _ bound⟩
  | bound call other vacant bound earned returned =>
    cases bound.symm.trans filled
    exact ⟨call, List.mem_append_right _ (List.mem_singleton_self _)⟩
  | unbound call other before vacant released returned => cases vacant.symm.trans filled
  | disbanded clone last vacant => cases vacant.symm.trans filled

theorem Step.gone (last : next.clones = []) :
    next.slot = none ∧ next.botStop ∈ next.stops.requested := by
  refine ⟨step.vacant sound.tended (fun last => (sound.gone last).1) last, ?_⟩
  cases own : affair.call? with
  | some call =>
    obtain ⟨same, -, engagement, -, held⟩ := step.held sound.tended own
    rw [← same, last] at held
    cases held
  | none =>
    cases step with
    | clone clone other held unused => cases last
    | startStream clone held => exact nomatch (last ▸ held : clone ∈ [])
    | requestStop handle =>
      exact List.mem_cons_of_mem _ (sound.gone last).2
    | drop clone held idle =>
      rw [leave_clones] at last
      rw [(leave_last _ _ last).2.2, leave_botStop]
      exact List.mem_cons_self
    | _ => cases own

theorem Step.unspawned (held : next.clones ≠ []) : next.spawned = [] := by
  cases own : affair.call? with
  | some call =>
    obtain ⟨same, spawned, -⟩ := step.held sound.tended own
    exact spawned.trans (sound.unspawned (same ▸ held))
  | none =>
    cases step with
    | clone clone other present unused => exact sound.unspawned (List.ne_nil_of_mem present)
    | startStream | requestStop => exact sound.unspawned held
    | drop clone present idle =>
      rw [leave_clones] at held
      exact (leave_others _ _ held).2.1.trans (sound.unspawned (List.ne_nil_of_mem present))
    | _ => cases own

theorem Step.earned (opener : CallId) (session : Session)
    (member : (opener, session) ∈ bindings (history ++ [affair])) :
    next.Returned opener (.ok ()) ∧ (opener, session.key) ∈ grants (history ++ [affair]) := by
  rw [grants_snoc]
  rw [bindings_snoc, List.mem_append] at member
  rcases member with old | new
  · obtain ⟨returned, granted⟩ := sound.earned opener session old
    exact ⟨step.returned returned, List.mem_append_left _ granted⟩
  · cases step.handover sound with
    | nothing same binds =>
      rw [binds] at new
      cases new
    | bound call other vacant filled earned returned =>
      cases List.mem_singleton.mp new
      exact ⟨returned, List.mem_append_left _ earned.granted⟩
    | unbound | disbanded => cases new

theorem Step.once : ((bindings (history ++ [affair])).map Prod.fst).Nodup := by
  rw [bindings_snoc, List.map_append]
  cases binds : affair.binding? with
  | none => simpa using sound.once
  | some binding =>
    refine List.nodup_append.mpr ⟨sound.once, by simp, ?_⟩
    rintro opener member _ new rfl
    obtain ⟨⟨_, session⟩, old, rfl⟩ := List.mem_map.mp member
    -- whoever has bound a session has returned
    have own := Affair.call?_of_binding binds
    rw [← List.mem_singleton.mp new] at own
    exact step.unfinished (sound.earned _ _ old).1 own

/-- Whatever anybody does, a session that a call learned to be tied to its account stays known. -/
theorem Step.moves (call : CallId) (session : Session)
    (place : Whereabouts history custody call session) :
    Whereabouts (history ++ [affair]) next call session := by
  cases place with
  | binding clone asked made =>
    by_cases own : affair.call? = some call
    · obtain ⟨_, _, -, asks, -⟩ | ⟨op, rest, answer, -, asks, -, answered, left⟩ :=
        step.own_cases made own
      · cases asks
      · cases asks
        generalize custody.slot = before at answered
        generalize filled : next.slot = slot at answered
        cases answered with
        | bound => exact .bound filled
        | occupied => exact .returning clone left
    · exact .binding clone asked ((step.calls_frame own).trans made)
  | returning clone made =>
    by_cases own : affair.call? = some call
    · obtain ⟨_, _, -, asks, sent⟩ | ⟨_, _, _, sent, asks, -⟩ := step.own_cases made own
      · cases asks
        rw [sent]
        exact .released call (List.mem_append_right _ (List.mem_singleton_self _))
      · cases asks
        cases sent
    · exact .returning clone ((step.calls_frame own).trans made)
  | bound held =>
    cases step.handover sound with
    | nothing same => exact .bound (same.trans held)
    | bound other newer vacant => cases vacant.symm.trans held
    | unbound other newer filled vacant released =>
      cases filled.symm.trans held
      obtain ⟨-, opener, result, response, -, order⟩ := released
      have sent := order.subset (List.mem_cons_of_mem _ List.mem_cons_self)
      exact .released other (List.mem_append_left _ sent)
    | disbanded clone last vacant =>
      have spawned := (step.disbands sound last).2
      rw [held] at spawned
      exact .left last spawned
  | released other sent => exact .released other (List.mem_append_left _ sent)
  | left gone spawned =>
    obtain ⟨still, same⟩ := step.after_last sound gone
    exact .left still (same.trans spawned)

theorem Step.whereabouts (call : CallId) (session : Session)
    (verified : Verified (history ++ [affair]) call session) :
    Whereabouts (history ++ [affair]) next call session := by
  obtain ⟨result, response, succeeded, member⟩ := verified
  rcases List.mem_append.mp member with old | new
  · exact step.moves sound call session
      (sound.whereabouts call session ⟨result, response, succeeded, old⟩)
  · cases List.mem_singleton.mp new
    obtain ⟨clone, point, after, stands, tells, goes, answered, whole⟩ := step.answered sound
    have now := goes.of_verified succeeded
    rw [now] at whole
    exact .binding clone false (by rw [whole]; exact Function.update_self ..)

theorem Step.descent :
    next.botStop ∈ next.stops.lineage next.botStop ∧
      ∀ stream ∈ next.streams, next.botStop ∈ next.stops.lineage stream := by
  obtain ⟨own, started⟩ := sound.descent
  cases step with
  | call | ask | answer | clone | requestStop => exact ⟨own, started⟩
  | drop clone held idle =>
    simp only [leave_botStop, leave_streams, leave_lineage]
    exact ⟨own, started⟩
  | startStream clone held =>
    refine ⟨StopForest.mem_lineage_addChild own _, fun stream member => ?_⟩
    rcases List.mem_append.mp member with old | new
    · exact StopForest.mem_lineage_addChild (started stream old) _
    · rw [List.mem_singleton.mp new, StopForest.lineage_addChild]
      exact List.mem_cons_of_mem _ own

end Preservation

theorem start_sound (stops : StopForest) : Sound [] (start stops) where
  stands := fun _ _ _ _ made => nomatch made
  tended := fun _ _ made => nomatch made
  known := fun _ filled => nomatch filled
  gone := fun last => nomatch last
  unspawned := fun _ => rfl
  earned := fun _ _ member => nomatch member
  once := List.nodup_nil
  whereabouts := fun _ _ ⟨_, _, _, member⟩ => nomatch member
  descent := by
    refine ⟨?_, fun _ member => nomatch member⟩
    simp only [start, StopForest.lineage_addRoot, List.mem_singleton]

theorem Step.sound (step : Step custody affair next) (sound : Sound history custody) :
    Sound (history ++ [affair]) next where
  stands := step.stands sound
  tended := step.tended sound.tended
  known := step.known sound
  gone := step.gone sound
  unspawned := step.unspawned sound
  earned := step.earned sound
  once := step.once sound
  whereabouts := step.whereabouts sound
  descent := step.descent sound

theorem Reached.sound {stops : StopForest} (reached : Reached stops history custody) :
    Sound history custody := by
  induction reached with
  | nil => exact start_sound stops
  | snoc run step ih => exact step.sound ih

theorem Step.sent_request (step : Step custody affair next)
    (before : ∀ clone work, custody.calls call = some ⟨clone, work, true⟩ →
      ∃ request rest, work = .step (.request request) rest)
    (clone : CloneId) (work : Activity (Except ApiError Unit))
    (made : next.calls call = some ⟨clone, work, true⟩) :
    ∃ request rest, work = .step (.request request) rest := by
  by_cases own : affair.call? = some call
  · cases step with
    | call other clone demand unmade held =>
      cases own
      cases (Function.update_self ..).symm.trans made
    | ask other clone request rest stands =>
      cases own
      cases (Function.update_self ..).symm.trans made
      exact ⟨request, rest, rfl⟩
    | answer other clone op rest answer slot stands answered =>
      cases own
      cases (Function.update_self ..).symm.trans made
    | _ => cases own
  · exact before clone work ((step.calls_frame own).symm.trans made)

theorem Reached.sent_request {stops : StopForest} (reached : Reached stops history custody) :
    ∀ clone work, custody.calls call = some ⟨clone, work, true⟩ →
      ∃ request rest, work = .step (.request request) rest := by
  induction reached with
  | nil => exact fun _ _ made => nomatch made
  | snoc run step ih => exact step.sent_request ih

theorem exists_answered (slot : Option Session) {point : Point} {op : Op}
    {next : op.Answer → Activity (Except ApiError Unit)} (asks : point.work = .step op next) :
    ∃ answer left, Answered slot op answer left := by
  rcases Point.asks_cases asks with ⟨request, rfl⟩ | rfl | ⟨session, rfl⟩ | ⟨session, rfl⟩
  · have failed : Except TransportError Json := .error default
    exact ⟨failed, slot, .request slot request failed⟩
  · exact ⟨slot, slot, .session slot⟩
  · cases slot with
    | none => exact ⟨true, _, .bound session⟩
    | some other => exact ⟨false, _, .occupied session other⟩
  · by_cases held : slot = some session
    · rw [held]
      exact ⟨(), _, .unbound session⟩
    · exact ⟨(), slot, .elsewhere slot session held⟩

theorem Reached.goes_on {stops : StopForest} (reached : Reached stops history custody)
    {engagement : Engagement} (made : custody.calls call = some engagement) :
    engagement.Over ∨ ∃ affair next, affair.call? = some call ∧ Step custody affair next := by
  obtain ⟨clone, work, asked⟩ := engagement
  cases work with
  | done result => exact .inl ⟨result, rfl⟩
  | step op rest =>
    refine .inr ?_
    obtain ⟨point, asks, -⟩ := reached.sound.stands _ _ _ _ made
    by_cases due : asked = op.isSent
    · obtain ⟨answer, left, answered⟩ := exists_answered custody.slot asks.symm
      rw [due] at made
      exact ⟨_, _, rfl, .answer call clone op rest answer left made answered⟩
    · cases asked with
      | true =>
        obtain ⟨request, _, same⟩ := reached.sent_request _ _ made
        cases same
        exact absurd rfl due
      | false =>
        cases op with
        | request request => exact ⟨_, _, rfl, .ask call clone request rest made⟩
        | _ => exact absurd rfl due

end Switchboard.Custody
