import Switchboard.Proofs.Waiter.Ledger

set_option autoImplicit false

namespace Switchboard

/-- How a waiter ends. -/
inductive Ending where
  | resolved (resolution : Resolution)
  | withdrawn
  | abandoned

def Capture.ending : Capture → Ending
  | .deliver _ event => .resolved (.ok event)
  | .fail _ reason => .resolved (.error (.patternFailed reason))
  | .sweep _ reason | .refuse reason => .resolved (.error reason)
  | .withdraw => .withdrawn
  | .abandon => .abandoned

theorem Capture.ending_of_resolution {capture : Capture} {resolution : Resolution}
    (owed : capture.resolution? = some resolution) : capture.ending = .resolved resolution := by
  cases capture <;> cases owed <;> rfl

/-- The waiter that a step brings to its end, with the party that does it. -/
def Act.ending? : Act → Option (WaiterId × Party × Ending)
  | .sent errand id resolution => some (id, .errand errand, .resolved resolution)
  | .registered id _ _ (some reason) => some (id, .registrar, .resolved (.error reason))
  | .withdrew id true => some (id, .holder, .withdrawn)
  | .abandoned id true => some (id, .holder, .abandoned)
  | _ => none

namespace Hall

variable {answers : Answers} {hall next : Hall} {act : Act} {history : List Act}

def delivered? : WaiterId × Resolution → Option (WaiterId × Event)
  | (id, .ok event) => some (id, event)
  | (_, .error _) => none

/-- The waiters that were sent an event by an errand, with the event. -/
def recipients (history : List Act) (errand : ErrandId) : List (WaiterId × Event) :=
  (letters history errand).filterMap delivered?

/-- How a waiter ended, with the parties that saw to it. -/
def endings (history : List Act) (id : WaiterId) : List (Party × Ending) :=
  history.filterMap fun act => (act.ending?.filter fun ended => ended.1 = id).map Prod.snd

/-- Winning waiters is all that a history of distinct waiters has to say about each of them. -/
theorem filterMap_length_le_one {α : Type} (pairs : List (WaiterId × α))
    (distinct : (pairs.map Prod.fst).Nodup) (id : WaiterId) :
    (pairs.filterMap fun pair => if pair.1 = id then some pair.2 else none).length ≤ 1 := by
  induction pairs with
  | nil => exact Nat.zero_le _
  | cons pair rest ih =>
    rw [List.map_cons, List.nodup_cons] at distinct
    by_cases same : pair.1 = id
    · have none_left : (rest.filterMap fun pair =>
          if pair.1 = id then some pair.2 else none) = [] := by
        rw [List.filterMap_eq_nil_iff]
        intro other member
        have apart : other.1 ≠ id := by
          intro equal
          exact distinct.1 (List.mem_map.mpr ⟨other, member, equal.trans same.symm⟩)
        simp only [apart, ↓reduceIte]
      simp only [List.filterMap_cons, same, ↓reduceIte, none_left, List.length_singleton,
        Nat.le_refl]
    · simpa only [List.filterMap_cons, same, ↓reduceIte] using ih distinct.2

theorem Reached.captors_le_one (reached : Reached answers history hall) (id : WaiterId) :
    (captors history id).length ≤ 1 :=
  filterMap_length_le_one _ reached.won.2 id

theorem Reached.captors_eq (reached : Reached answers history hall) {id : WaiterId}
    {capture : Capture} (member : capture ∈ captors history id) :
    captors history id = [capture] := by
  have bound := reached.captors_le_one id
  cases found : captors history id with
  | nil =>
    rw [found] at member
    cases member
  | cons first rest =>
    rw [found] at bound member
    have alone : rest = [] := List.eq_nil_of_length_eq_zero (by simpa using bound)
    subst alone
    rw [List.mem_singleton.mp member]

theorem Reached.captor_unique (reached : Reached answers history hall) {id : WaiterId}
    {first second : Capture} (one : first ∈ captors history id)
    (other : second ∈ captors history id) : first = second := by
  rw [reached.captors_eq other] at one
  exact List.mem_singleton.mp one

theorem Reached.letters_prefix (reached : Reached answers history hall) (errand : ErrandId) :
    letters history errand <+: pledges history errand := by
  have balanced := reached.balanced errand
  unfold Balanced at balanced
  split at balanced
  · rw [balanced.2.2.1]
    exact List.nil_prefix
  · rw [balanced.2.2.1]
    exact List.nil_prefix
  · rw [balanced.2.1]
    exact List.prefix_append _ _
  · exact balanced.2.1 ▸ List.prefix_refl _

theorem Reached.captor_of_letter (reached : Reached answers history hall) {errand : ErrandId}
    {id : WaiterId} {resolution : Resolution} (sent : (id, resolution) ∈ letters history errand) :
    ∃ capture ∈ captors history id,
      capture.party = .errand errand ∧ capture.resolution? = some resolution :=
  mem_pledges.mp ((reached.letters_prefix errand).subset sent)

theorem Reached.pledges_distinct (reached : Reached answers history hall) (errand : ErrandId) :
    ((pledges history errand).map Prod.fst).Nodup :=
  (pledges_sublist history errand).nodup reached.won.2

theorem Reached.letters_distinct (reached : Reached answers history hall) (errand : ErrandId) :
    ((letters history errand).map Prod.fst).Nodup :=
  ((reached.letters_prefix errand).sublist.map _).nodup (reached.pledges_distinct errand)

/-- Whoever brings a waiter to its end has won it, and the end is the one that follows from that. -/
theorem Reached.captor_of_ending (reached : Reached answers history hall) {id : WaiterId}
    {ending : Party × Ending} (ended : ending ∈ endings history id) :
    ∃ capture ∈ captors history id, capture.party = ending.1 ∧ capture.ending = ending.2 := by
  obtain ⟨act, member, found⟩ := List.mem_filterMap.mp ended
  obtain ⟨⟨other, party, last⟩, sought, rfl⟩ := Option.map_eq_some_iff.mp found
  obtain ⟨ends, same⟩ := Option.filter_eq_some_iff.mp sought
  obtain rfl : other = id := by simpa using same
  have won : ∀ {capture : Capture}, act.capture? = some (other, capture) →
      capture ∈ captors history other := fun hit =>
    mem_captors.mpr (List.mem_filterMap.mpr ⟨act, member, hit⟩)
  cases act with
  | sent errand id resolution =>
    cases ends
    have sent : (other, resolution) ∈ letters history errand :=
      List.mem_filterMap.mpr ⟨_, member, by simp [Act.letter?]⟩
    obtain ⟨capture, captor, owner, owed⟩ := reached.captor_of_letter sent
    exact ⟨capture, captor, owner, capture.ending_of_resolution owed⟩
  | registered id kind use refusal =>
    cases refusal <;> cases ends
    exact ⟨.refuse _, won rfl, rfl, rfl⟩
  | withdrew id hit =>
    cases hit <;> cases ends
    exact ⟨.withdraw, won rfl, rfl, rfl⟩
  | abandoned id hit =>
    cases hit <;> cases ends
    exact ⟨.abandon, won rfl, rfl, rfl⟩
  | _ => cases ends

theorem letter_of_ending {id : WaiterId} {errand : ErrandId} {last : Ending}
    (ended : (.errand errand, last) ∈ endings history id) :
    ∃ resolution, (id, resolution) ∈ letters history errand := by
  obtain ⟨act, member, found⟩ := List.mem_filterMap.mp ended
  obtain ⟨⟨other, party, _⟩, sought, same⟩ := Option.map_eq_some_iff.mp found
  cases same
  obtain ⟨ends, named⟩ := Option.filter_eq_some_iff.mp sought
  obtain rfl : other = id := by simpa using named
  cases act with
  | sent owner id resolution =>
    cases ends
    exact ⟨resolution, List.mem_filterMap.mpr ⟨_, member, by simp [Act.letter?]⟩⟩
  | registered id kind use refusal => cases refusal <;> cases ends
  | withdrew id hit => cases hit <;> cases ends
  | abandoned id hit => cases hit <;> cases ends
  | _ => cases ends

theorem Reached.mem_won (reached : Reached answers history hall) {id : WaiterId} :
    id ∈ hall.queue.won ↔ ∃ capture, capture ∈ captors history id := by
  rw [reached.won.1, List.mem_reverse, List.mem_map]
  constructor
  · rintro ⟨⟨other, capture⟩, member, rfl⟩
    exact ⟨capture, mem_captors.mpr member⟩
  · rintro ⟨capture, member⟩
    exact ⟨(id, capture), mem_captors.mp member, rfl⟩

theorem Reached.ending_fresh (reached : Reached answers history hall)
    (step : Step answers hall act next) {id : WaiterId} {party : Party} {last : Ending}
    (ends : act.ending? = some (id, party, last)) : endings history id = [] := by
  apply List.eq_nil_iff_forall_not_mem.mpr
  intro ending member
  obtain ⟨capture, captor, owner, -⟩ := reached.captor_of_ending member
  have unwon : ∀ {new : Capture}, act.capture? ≠ some (id, new) := fun hit =>
    step.effect.fresh reached.orderly.won id _ hit (reached.mem_won.mpr ⟨capture, captor⟩)
  cases act with
  | sent errand id resolution =>
    cases ends
    have later : Reached answers (history ++ [.sent errand id resolution]) next := reached.snoc step
    have sent : letters (history ++ [.sent errand id resolution]) errand =
        letters history errand ++ [(id, resolution)] := by
      simp [letters_snoc, Act.letter?]
    have fresh : (id, resolution) ∈
        letters (history ++ [.sent errand id resolution]) errand := by
      rw [sent]
      exact List.mem_append_right _ (List.mem_singleton_self _)
    obtain ⟨new, held, party, -⟩ := later.captor_of_letter fresh
    have kept := mem_captors_append captor [.sent errand id resolution]
    rw [later.captor_unique kept held, party] at owner
    obtain ⟨first, last⟩ := ending
    cases owner
    -- sent before, the waiter would be named twice among what the errand owed
    obtain ⟨old, before⟩ := letter_of_ending member
    have distinct := later.letters_distinct errand
    rw [sent, List.map_append, List.nodup_append] at distinct
    exact distinct.2.2 id (List.mem_map.mpr ⟨_, before, rfl⟩) id (by simp) rfl
  | registered other kind use refusal =>
    cases refusal <;> cases ends
    exact unwon rfl
  | withdrew other hit =>
    cases hit <;> cases ends
    exact unwon rfl
  | abandoned other hit =>
    cases hit <;> cases ends
    exact unwon rfl
  | _ => cases ends

theorem Reached.endings_le_one (reached : Reached answers history hall) (id : WaiterId) :
    (endings history id).length ≤ 1 := by
  induction reached with
  | nil => exact Nat.zero_le _
  | @snoc history hall next act run step ih =>
    rw [endings, filterMap_snoc, List.length_append]
    cases found : act.ending?.filter fun ended => ended.1 = id with
    | none => exact ih
    | some ended =>
      obtain ⟨ends, named⟩ := Option.filter_eq_some_iff.mp found
      obtain ⟨other, party, last⟩ := ended
      obtain rfl : other = id := by simpa using named
      have fresh := Reached.ending_fresh run step ends
      rw [endings] at fresh
      rw [fresh]
      exact Nat.le_refl _

theorem delivered_failures (failed : List (WaiterId × String)) :
    (failed.map fun entry =>
      (entry.1, (.error (.patternFailed entry.2) : Resolution))).filterMap delivered? = [] := by
  rw [List.filterMap_map, List.filterMap_eq_nil_iff]
  exact fun _ _ => rfl

theorem delivered_letters (findings : Findings) (event : Event) :
    (findings.letters event).filterMap delivered? =
      findings.winner.toList.map fun id => (id, event) := by
  rw [Findings.letters, List.filterMap_append, delivered_failures, List.nil_append]
  cases findings.winner <;> rfl

theorem delivered_sweep (ids : List WaiterId) (reason : WaitError) :
    (ids.map fun id => (id, (.error reason : Resolution))).filterMap delivered? = [] := by
  rw [List.filterMap_map, List.filterMap_eq_nil_iff]
  exact fun _ _ => rfl

theorem Reached.requests_eq (reached : Reached answers history hall) {errand : ErrandId}
    {request : Errand} (asked : request ∈ requests history errand) :
    requests history errand = [request] := by
  have balanced := reached.balanced errand
  unfold Balanced at balanced
  split at balanced <;> rw [balanced.1] at asked ⊢
  · cases asked
  all_goals rw [List.mem_singleton.mp asked]

/-- What an errand owes at any time agrees with some reply, and it gives no other than that. -/
theorem Reached.owed (reached : Reached answers history hall) {errand : ErrandId}
    {request : Errand} (asked : request ∈ requests history errand) :
    ∃ reply, request.Fits reply (pledges history errand) ∧
      ∀ answer ∈ replies history errand,
        answer = reply ∧ letters history errand = pledges history errand := by
  have only := reached.requests_eq asked
  have balanced := reached.balanced errand
  unfold Balanced at balanced
  split at balanced
  · rw [balanced.1] at asked
    cases asked
  · rename_i found
    obtain ⟨requested, owed, -, replied⟩ := balanced
    rw [only] at requested
    cases requested
    obtain ⟨reply, fits⟩ := reached.orderly.lock.fits found
    refine ⟨reply, owed ▸ fits, ?_⟩
    intro answer member
    rw [replied] at member
    cases member
  · obtain ⟨requested, -, replied, fits⟩ := balanced
    rw [only] at requested
    cases requested
    refine ⟨_, fits, ?_⟩
    intro answer member
    rw [replied] at member
    cases member
  · obtain ⟨requested, owed, replied, fits⟩ := balanced
    rw [only] at requested
    cases requested
    refine ⟨_, fits, ?_⟩
    intro answer member
    rw [replied] at member
    exact ⟨List.mem_singleton.mp member, owed.symm⟩

theorem Reached.recipients_of_offer (reached : Reached answers history hall) {errand : ErrandId}
    {event : Event} (asked : .offer event ∈ requests history errand) :
    ∃ findings : Findings,
      recipients history errand <+: findings.winner.toList.map (fun id => (id, event)) ∧
        ∀ reply ∈ replies history errand, reply = findings.reply event ∧
          recipients history errand = findings.winner.toList.map fun id => (id, event) := by
  obtain ⟨reply, ⟨findings, owed, fits⟩, answered⟩ := reached.owed asked
  refine ⟨findings, ?_, ?_⟩
  · rw [← delivered_letters, ← owed]
    exact (reached.letters_prefix errand).filterMap _
  · intro answer member
    obtain ⟨rfl, sent⟩ := answered answer member
    have received : recipients history errand =
        findings.winner.toList.map fun id => (id, event) := by
      rw [recipients, sent, owed, delivered_letters]
    exact ⟨fits, received⟩

theorem Reached.recipients_of_sweep (reached : Reached answers history hall) {errand : ErrandId}
    {reason : WaitError} {closing : Bool}
    (asked : .sweep reason closing ∈ requests history errand) :
    recipients history errand = [] := by
  obtain ⟨reply, ⟨ids, owed, -⟩, -⟩ := reached.owed asked
  refine List.prefix_nil.mp ?_
  rw [← delivered_sweep ids reason, ← owed]
  exact (reached.letters_prefix errand).filterMap _

theorem Reached.requested (reached : Reached answers history hall) {errand : ErrandId}
    {letter : WaiterId × Resolution} (owed : letter ∈ pledges history errand) :
    ∃ request, request ∈ requests history errand := by
  have balanced := reached.balanced errand
  unfold Balanced at balanced
  split at balanced
  · rw [balanced.2.1] at owed
    cases owed
  all_goals rw [balanced.1]; exact ⟨_, List.mem_singleton_self _⟩

/-- Every event that is offered is sent to one waiter at most, and handed back just in case it was
sent to none. Every waiter is won by one party at most, and comes to one end at most, by the hand of
the one who won it. -/
theorem exactly_once (reached : Reached answers history hall) :
    (∀ errand event, .offer event ∈ requests history errand →
      (recipients history errand).length ≤ 1 ∧
        (∀ recipient ∈ recipients history errand, recipient.2 = event) ∧
        ∀ reply ∈ replies history errand,
          reply = if (recipients history errand).isEmpty then .unclaimed event else .claimed) ∧
      (∀ errand, ∀ recipient ∈ recipients history errand,
        .offer recipient.2 ∈ requests history errand) ∧
      ∀ id, (captors history id).length ≤ 1 ∧
        (id ∈ hall.queue.won ↔ ∃ capture, captors history id = [capture]) ∧
        (endings history id).length ≤ 1 ∧
        ∀ ending ∈ endings history id, ∃ capture,
          captors history id = [capture] ∧ capture.party = ending.1 ∧
            capture.ending = ending.2 := by
  refine ⟨?_, ?_, ?_⟩
  · intro errand event asked
    obtain ⟨findings, sent, answered⟩ := reached.recipients_of_offer asked
    refine ⟨?_, ?_, ?_⟩
    · refine Nat.le_trans sent.length_le ?_
      cases findings.winner <;> simp
    · intro recipient member
      obtain ⟨id, -, rfl⟩ := List.mem_map.mp (sent.subset member)
      rfl
    · intro reply member
      obtain ⟨rfl, all⟩ := answered reply member
      rw [all, Findings.reply]
      cases findings.winner <;> rfl
  · intro errand recipient member
    obtain ⟨letter, sent, -⟩ := List.mem_filterMap.mp member
    obtain ⟨request, asked⟩ := reached.requested ((reached.letters_prefix errand).subset sent)
    cases request with
    | offer event =>
      obtain ⟨findings, sent, -⟩ := reached.recipients_of_offer asked
      obtain ⟨id, -, rfl⟩ := List.mem_map.mp (sent.subset member)
      exact asked
    | sweep reason closing =>
      rw [reached.recipients_of_sweep asked] at member
      cases member
  · intro id
    refine ⟨reached.captors_le_one id, ?_, reached.endings_le_one id, ?_⟩
    · rw [reached.mem_won]
      apply exists_congr
      intro capture
      refine ⟨reached.captors_eq, ?_⟩
      intro only
      rw [only]
      exact List.mem_singleton_self capture
    · intro ending member
      obtain ⟨capture, captor, owner, last⟩ := reached.captor_of_ending member
      exact ⟨capture, reached.captors_eq captor, owner, last⟩

def raceEvent : Event := ⟨.botOnline, ⟨.login, ⟨10⟩⟩⟩

/-- Four waiters and one event. The pattern of the first fails; the second is cancelled while its
pattern looks at the event; the third takes it, and its deadline passes before the event is sent;
the fourth is not looked at. -/
def raceBefore : List Act :=
  [.registered 0 .botOnline .keeping none, .registered 1 .botOnline .keeping none,
    .registered 2 .botOnline (.waiting (some 0)) none, .registered 3 .botOnline .keeping none,
    .asked 0 (.offer raceEvent)]

def raceDuring : List Act :=
  [.consulted 0 raceEvent 0, .saw 0 raceEvent 0 (.failed "bad"), .consulted 0 raceEvent 1,
    .withdrew 1 true, .saw 0 raceEvent 1 .late, .consulted 0 raceEvent 2,
    .saw 0 raceEvent 2 .taken, .withdrew 2 false]

def raceAfter : List Act :=
  [.returned 1 .keeping (.ok none), .sent 0 0 (.error (.patternFailed "bad")),
    .sent 0 2 (.ok raceEvent), .returned 2 (.waiting (some 0)) (.ok (some raceEvent)),
    .answered 0 .claimed]

def race : List Act := raceBefore ++ [.entered 0] ++ raceDuring ++ [.left 0] ++ raceAfter

theorem race_reached : ∃ hall, Reached evaluated race hall := by
  have h0 : Reached evaluated [] start := .nil
  have h1 := h0.snoc (.register .botOnline (.fails "bad") .keeping rfl)
  have h2 := h1.snoc (.register .botOnline .any .keeping rfl)
  have h3 := h2.snoc (.register .botOnline .any (.waiting (some 0)) rfl)
  have h4 := h3.snoc (.register .botOnline .any .keeping rfl)
  have h5 := h4.snoc (.ask 0 (.offer raceEvent) rfl)
  have h6 := h5.snoc (.enterSearch 0 raceEvent rfl rfl)
  have h7 := h6.snoc (.consult 0 raceEvent _ _ _ rfl (by decide) rfl)
  have h8 := h7.snoc (.judge 0 raceEvent _ _ _ _ (.fails "bad") _ rfl
    (by simp [evaluated, Pattern.evaluate]) rfl)
  have h9 := h8.snoc (.consult 0 raceEvent _ _ _ rfl (by decide) rfl)
  have h10 := h9.snoc (.cancel 1 .botOnline .keeping true _ rfl rfl rfl)
  have h11 := h10.snoc (.judge 0 raceEvent _ _ _ _ .accepts _ rfl
    (by simp [evaluated, Pattern.evaluate]) rfl)
  have h12 := h11.snoc (.consult 0 raceEvent _ _ _ rfl (by decide) rfl)
  have h13 := h12.snoc (.judge 0 raceEvent _ _ _ _ .accepts _ rfl
    (by simp [evaluated, Pattern.evaluate]) rfl)
  have h14 := h13.snoc (.cancel 2 .botOnline (.waiting (some 0)) false _ rfl (by decide) rfl)
  have h15 := h14.snoc (.leaveSearch 0 raceEvent _ rfl)
  have h16 := h15.snoc (.remove 1 .keeping rfl rfl)
  have h17 := h16.snoc (.send 0 _ _ _ _ _ rfl)
  have h18 := h17.snoc (.send 0 _ _ _ _ _ rfl)
  have h19 := h18.snoc (.collect 2 .botOnline (.waiting (some 0)) (.ok raceEvent) _ _ rfl rfl)
  have h20 := h19.snoc (.answer 0 _ _ rfl)
  exact ⟨_, h20⟩

/-- The one event of the race goes to the third waiter, and the second ends by its cancellation. -/
theorem race_exactly_once :
    (∃ hall, Reached evaluated race hall) ∧ recipients race 0 = [(2, raceEvent)] ∧
      (∀ reply ∈ replies race 0, reply = .claimed) ∧
      ∃ capture, captors race 1 = [capture] ∧ capture.party = .holder ∧
        capture.ending = .withdrawn := by
  obtain ⟨hall, reached⟩ := race_reached
  obtain ⟨offered, -, ended⟩ := exactly_once reached
  have asked : .offer raceEvent ∈ requests race 0 := List.mem_singleton_self _
  have withdrawn : (.holder, .withdrawn) ∈ endings race 1 := List.mem_singleton_self _
  exact ⟨⟨hall, reached⟩, rfl, (offered 0 raceEvent asked).2.2, (ended 1).2.2.2 _ withdrawn⟩

end Hall
end Switchboard
