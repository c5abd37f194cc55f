import Mathlib.Data.List.Nodup
import Switchboard.Proofs.Session.Handover

set_option autoImplicit false

namespace Switchboard.Custody

open Session (Demand Goes Point grant openRequest verifyRequest)

variable {stops : StopForest} {history before after : List Affair} {custody next last : Custody}
  {affair : Affair}

/-- No two calls were given the same key. -/
def Fresh (history : List Affair) : Prop := ((grants history).map Prod.snd).Nodup

theorem Sound.bindings_nodup (sound : Sound history custody) (fresh : Fresh history) :
    ((bindings history).map Prod.snd).Nodup := by
  refine List.Nodup.map_on ?_ sound.once.of_map
  rintro ⟨opener, session⟩ member ⟨other, same⟩ known rfl
  have granted := (sound.earned _ _ member).2
  have alike := List.inj_on_of_nodup_map fresh granted (sound.earned _ _ known).2 rfl
  cases alike
  rfl

theorem Run.after_last (run : Run next after last) (sound : Sound before next)
    (gone : next.clones = []) : last.clones = [] ∧ last.spawned = next.spawned := by
  have extended :
      Sound (before ++ after) last ∧ last.clones = [] ∧ last.spawned = next.spawned := by
    induction run with
    | nil => exact ⟨(List.append_nil before).symm ▸ sound, gone, rfl⟩
    | snoc run step ih =>
      obtain ⟨reached, still, same⟩ := ih
      obtain ⟨ends, left⟩ := step.after_last reached still
      rw [← List.append_assoc]
      exact ⟨step.sound reached, ends, left.trans same⟩
  exact extended.2

/-- A session that a call learned to be tied to its account is with the bot once the call has
returned, or its release was asked for, or it was left to a task by whoever dropped the last
clone. -/
theorem Sound.kept {call : CallId} {session : Session} {result : Except ApiError Unit}
    (sound : Sound history custody) (verified : Verified history call session)
    (returned : custody.Returned call result) :
    custody.slot = some session ∨
      (∃ other, .asked other session.releaseRequest ∈ history) ∨
      custody.clones = [] ∧ custody.spawned = [session.releaseRequest] := by
  obtain ⟨engagement, made, ended⟩ := returned
  cases sound.whereabouts call session verified with
  | binding clone asked found =>
    cases found.symm.trans made
    cases ended
  | returning clone found =>
    cases found.symm.trans made
    cases ended
  | bound held => exact .inl held
  | released other sent => exact .inr (.inl ⟨other, sent⟩)
  | left gone spawned => exact .inr (.inr ⟨gone, spawned⟩)

/-- **No session is lost.** Around any step of anybody:
* the bot gets a session only by a call that earned it and returns without an error then;
* as long as there is a clone, the bot gets rid of a session only by a call that released it after
  it was bound, and no session is bound twice;
* a call that returns an error does neither;
* once a call has returned, the session that it learned to be tied to its account is the bot's, or
  its release was asked for, or whoever dropped the last clone left the release to a task;
* whoever drops the last clone leaves the release of the session that is bound to exactly one task,
  and the streams are asked to stop. -/
theorem no_session_lost (early : Reached stops before custody) (step : Step custody affair next)
    (late : Run next after last) (fresh : Fresh (before ++ affair :: after)) :
    (∀ session, custody.slot = none → next.slot = some session →
      ∃ call, affair = .answered call (.bindSession session) true ∧
        Earned before call session ∧ next.Returned call (.ok ())) ∧
    (∀ session, custody.slot = some session → next.slot ≠ some session → next.clones ≠ [] →
      next.slot = none ∧ ∃ call, affair = .answered call (.unbindSession session) () ∧
        Released before call session ∧ next.Returned call (.ok ())) ∧
    ((bindings (before ++ affair :: after)).map Prod.snd).Nodup ∧
    (∀ call error, affair.call? = some call → last.Returned call (.error error) →
      next.slot = custody.slot) ∧
    (∀ call session result, Verified (before ++ affair :: after) call session →
      last.Returned call result →
        last.slot = some session ∨
          (∃ other, .asked other session.releaseRequest ∈ before ++ affair :: after) ∨
          last.clones = [] ∧ last.spawned = [session.releaseRequest]) ∧
    (∀ clone, affair = .dropped clone → next.clones = [] →
      custody.spawned = [] ∧
        last.spawned = (custody.slot.map Session.releaseRequest).toList ∧
        ∀ stream ∈ last.streams, last.stops.isRequested stream = true) := by
  have sound := early.sound
  have whole : Sound (before ++ affair :: after) last := by
    have run := (early.snoc step).append late
    rw [List.append_assoc] at run
    exact Reached.sound run
  have change := step.handover sound
  refine ⟨?_, ?_, whole.bindings_nodup fresh, ?_, fun _ _ _ => whole.kept, ?_⟩
  · intro session vacant filled
    cases change with
    | nothing same => cases vacant.symm.trans (same.symm.trans filled)
    | bound call other _ found earned returned =>
      cases found.symm.trans filled
      exact ⟨call, rfl, earned, returned⟩
    | unbound call other _ left => cases left.symm.trans filled
    | disbanded clone _ left => cases left.symm.trans filled
  · intro session filled changed held
    cases change with
    | nothing same => exact absurd (same.trans filled) changed
    | bound call other vacant => cases vacant.symm.trans filled
    | unbound call other found vacant released returned =>
      cases found.symm.trans filled
      exact ⟨vacant, call, rfl, released, returned⟩
    | disbanded clone gone => exact absurd gone held
  · -- whoever changes the session has returned, and stays so
    intro call error own failed
    have settled (returned : next.Returned call (.ok ())) : False := by
      obtain ⟨engagement, made, ended⟩ := late.returned returned
      obtain ⟨_, found, broken⟩ := failed
      cases made.symm.trans found
      cases ended.symm.trans broken
    cases change with
    | nothing same => exact same
    | bound other session vacant filled earned returned =>
      cases own
      exact (settled returned).elim
    | unbound other session filled vacant released returned =>
      cases own
      exact (settled returned).elim
    | disbanded clone => cases own
  · rintro clone rfl gone
    obtain ⟨unspawned, spawned⟩ := step.disbands sound gone
    obtain ⟨still, same⟩ := late.after_last (step.sound sound) gone
    refine ⟨unspawned, same.trans spawned, fun stream member => ?_⟩
    exact StopForest.isRequested_of_mem (whole.descent.2 stream member) (whole.gone still).2

def secret : String := "secret"

def account : UserId := ⟨1⟩

def early : Session := ⟨"early", account⟩

def late : Session := ⟨"late", account⟩

def given (session : Session) : Except TransportError Json :=
  .ok (.ofMembers [("code", .int 0), ("session", .str session.key)])

def agreed : Except TransportError Json := .ok (.ofMembers [("code", .int 0)])

/-- Two calls find no session and earn one each. -/
def race : List Affair :=
  [.called 0 (.authorize secret account), .called 1 (.authorize secret account),
    .answered 0 .session none, .answered 1 .session none,
    .asked 0 (openRequest secret), .asked 1 (openRequest secret),
    .answered 0 (.request (openRequest secret)) (given early),
    .answered 1 (.request (openRequest secret)) (given late),
    .asked 0 (verifyRequest early), .asked 1 (verifyRequest late),
    .answered 0 (.request (verifyRequest early)) agreed,
    .answered 1 (.request (verifyRequest late)) agreed]

def won : Affair := .answered 0 (.bindSession early) true

/-- The second call gives its session back; then the bot is dropped. -/
def finish : List Affair :=
  [.answered 1 (.bindSession late) false, .asked 1 late.releaseRequest,
    .answered 1 (.request late.releaseRequest) agreed, .dropped 0]

/-- A bot in the middle of its calls. -/
def staged (slot : Option Session) (calls : CallId → Option Engagement) : Custody :=
  { start .empty with slot := slot, calls := calls }

theorem staged_asks {slot : Option Session} {calls : CallId → Option Engagement} (call : CallId)
    (point : Point) {request : Request}
    {next : Except TransportError Json → Activity (Except ApiError Unit)}
    (stands : calls call = some ⟨0, point.work, false⟩)
    (asks : point.work = .step (.request request) next) :
    Step (staged slot calls) (.asked call request)
      (staged slot (Function.update calls call (some ⟨0, point.work, true⟩))) :=
  .of_asks call point stands asks

theorem staged_goes {slot left : Option Session} {calls : CallId → Option Engagement}
    (call : CallId) {point after : Point} {op : Op} {answer : op.Answer}
    (stands : calls call = some ⟨0, point.work, op.isSent⟩) (goes : Goes point op answer after)
    (answered : Answered slot op answer left) :
    Step (staged slot calls) (.answered call op answer)
      (staged left (Function.update calls call (some ⟨0, after.work, false⟩))) :=
  .of_goes call stands goes answered

theorem race_run : ∃ calls, Reached .empty race (staged none calls) ∧
    calls 0 = some ⟨0, (Point.binding early).work, false⟩ ∧
    calls 1 = some ⟨0, (Point.binding late).work, false⟩ ∧ ∀ call, calls (call + 2) = none := by
  have h0 : Reached .empty [] (staged none fun _ => none) := .nil
  have h1 := h0.snoc (.call 0 0 (.authorize secret account) rfl List.mem_cons_self)
  have h2 := h1.snoc (.call 1 0 (.authorize secret account) rfl List.mem_cons_self)
  have h3 := h2.snoc (staged_goes 0 rfl (.vacant secret account) (.session none))
  have h4 := h3.snoc (staged_goes 1 rfl (.vacant secret account) (.session none))
  have h5 := h4.snoc (staged_asks 0 (.opening secret account) rfl rfl)
  have h6 := h5.snoc (staged_asks 1 (.opening secret account) rfl rfl)
  have h7 := h6.snoc (staged_goes 0 rfl (.granted secret account (given early) "early" rfl)
    (.request _ _ _))
  have h8 := h7.snoc (staged_goes 1 rfl (.granted secret account (given late) "late" rfl)
    (.request _ _ _))
  have h9 := h8.snoc (staged_asks 0 (.verifying early) rfl rfl)
  have h10 := h9.snoc (staged_asks 1 (.verifying late) rfl rfl)
  have h11 := h10.snoc (staged_goes 0 rfl (.verified early agreed _ rfl) (.request _ _ _))
  have h12 := h11.snoc (staged_goes 1 rfl (.verified late agreed _ rfl) (.request _ _ _))
  exact ⟨_, h12, rfl, rfl, fun _ => rfl⟩

theorem race_won : ∃ custody next last, Reached .empty race custody ∧ Step custody won next ∧
    Run next finish last ∧ custody.slot = none ∧ next.slot = some early ∧
    last.Returned 1 (.error .alreadyAuthorized) := by
  obtain ⟨calls, reached, first, second, others⟩ := race_run
  have win := staged_goes 0 first (.bound early) (.bound early)
  have lagging := (Function.update_of_ne (by decide : (1 : CallId) ≠ 0)
    (some (Engagement.mk 0 (Point.settled (.ok ())).work false)) calls).trans second
  have t1 := Run.nil.snoc (staged_goes 1 lagging (.outrun late) (.occupied late early))
  have t2 := t1.snoc (staged_asks 1 (.returning late) (Function.update_self ..) rfl)
  have t3 := t2.snoc (staged_goes 1 (Function.update_self ..) (.returned late agreed)
    (.request _ _ _))
  have t4 := t3.snoc (.drop 0 List.mem_cons_self fun call engagement made _ => ?idle)
  · exact ⟨_, _, _, reached, win, t4, rfl, rfl, ⟨_, rfl, rfl⟩⟩
  · rcases call with _ | _ | call
    · cases made
      exact ⟨_, rfl⟩
    · cases made
      exact ⟨_, rfl⟩
    · exact nomatch (others call).symm.trans made

/-- The session of the first call is the bot's, and the one of the second is given back. -/
theorem race_kept : ∃ custody next last, Reached .empty race custody ∧ Step custody won next ∧
    Run next finish last ∧ Fresh (race ++ won :: finish) ∧
    (∃ call, won = .answered call (.bindSession early) true ∧ Earned race call early ∧
      next.Returned call (.ok ())) ∧
    ((bindings (race ++ won :: finish)).map Prod.snd).Nodup ∧
    (last.slot = some late ∨
      (∃ other, .asked other late.releaseRequest ∈ race ++ won :: finish) ∨
      last.clones = [] ∧ last.spawned = [late.releaseRequest]) := by
  obtain ⟨custody, next, last, reached, step, run, vacant, filled, returned⟩ := race_won
  have keys : (grants (race ++ won :: finish)).map Prod.snd = ["early", "late"] := rfl
  have fresh : Fresh (race ++ won :: finish) := by
    rw [Fresh, keys]
    decide
  have verified : Verified (race ++ won :: finish) 1 late :=
    ⟨agreed, _, rfl, List.mem_append_left _ (List.mem_of_getLast? rfl)⟩
  obtain ⟨gains, -, once, -, kept, -⟩ := no_session_lost reached step run fresh
  exact ⟨custody, next, last, reached, step, run, fresh, gains early vacant filled, once,
    kept 1 late _ verified returned⟩

end Switchboard.Custody
