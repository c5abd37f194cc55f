import Switchboard.Proofs.Waiter.Hall

set_option autoImplicit false

namespace Switchboard

/-- The parties that may win a waiter. -/
inductive Party where
  | errand (errand : ErrandId)
  /-- Whoever refuses a new waiter. -/
  | registrar
  | holder
deriving DecidableEq

/-- The ways to win a waiter. -/
inductive Capture where
  | deliver (errand : ErrandId) (event : Event)
  /-- Its pattern failed. -/
  | fail (errand : ErrandId) (reason : String)
  | sweep (errand : ErrandId) (reason : WaitError)
  | refuse (reason : WaitError)
  /-- It was cancelled. -/
  | withdraw
  /-- It was given up. -/
  | abandon

namespace Capture

def party : Capture → Party
  | .deliver errand _ | .fail errand _ | .sweep errand _ => .errand errand
  | .refuse _ => .registrar
  | .withdraw | .abandon => .holder

def resolution? : Capture → Option Resolution
  | .deliver _ event => some (.ok event)
  | .fail _ reason => some (.error (.patternFailed reason))
  | .sweep _ reason | .refuse reason => some (.error reason)
  | .withdraw | .abandon => none

def pledge? (errand : ErrandId) (capture : Capture) : Option Resolution :=
  if capture.party = .errand errand then capture.resolution? else none

theorem pledge?_eq_some {errand : ErrandId} {capture : Capture} {resolution : Resolution} :
    capture.pledge? errand = some resolution ↔
      capture.party = .errand errand ∧ capture.resolution? = some resolution := by
  simp only [pledge?, Option.ite_none_right_eq_some]

theorem resolution_of_errand (capture : Capture) {errand : ErrandId}
    (party : capture.party = .errand errand) :
    ∃ resolution, capture.resolution? = some resolution := by
  cases capture <;> first | exact ⟨_, rfl⟩ | cases party

end Capture

namespace Act

def capture? : Act → Option (WaiterId × Capture)
  | .registered id _ _ (some reason) => some (id, .refuse reason)
  | .saw errand event id .taken => some (id, .deliver errand event)
  | .saw errand _ id (.failed reason) => some (id, .fail errand reason)
  | .swept errand reason id true => some (id, .sweep errand reason)
  | .withdrew id true => some (id, .withdraw)
  | .abandoned id true => some (id, .abandon)
  | _ => none

def errand? : Act → Option ErrandId
  | .asked errand _ | .entered errand | .consulted errand _ _ | .saw errand _ _ _
  | .swept errand _ _ _ | .left errand | .sent errand _ _ | .answered errand _ => some errand
  | _ => none

def registered? : Act → Option WaiterId
  | .registered id _ _ _ => some id
  | _ => none

def request? (errand : ErrandId) : Act → Option Errand
  | .asked other request => if other = errand then some request else none
  | _ => none

def pledge? (errand : ErrandId) (act : Act) : Option (WaiterId × Resolution) :=
  act.capture?.bind fun won => (won.2.pledge? errand).map (won.1, ·)

def letter? (errand : ErrandId) : Act → Option (WaiterId × Resolution)
  | .sent other id resolution => if other = errand then some (id, resolution) else none
  | _ => none

def reply? (errand : ErrandId) : Act → Option Reply
  | .answered other reply => if other = errand then some reply else none
  | _ => none

theorem pledge?_of_errand_ne {act : Act} {errand : ErrandId} (other : act.errand? ≠ some errand) :
    act.pledge? errand = none := by
  cases act with
  | registered id kind use refusal => cases refusal <;> rfl
  | saw owner event id sight =>
    have apart : owner ≠ errand := fun same => other (congrArg some same)
    cases sight <;> simp [pledge?, capture?, Capture.pledge?, Capture.party, apart]
  | swept owner reason id won =>
    have apart : owner ≠ errand := fun same => other (congrArg some same)
    cases won <;> simp [pledge?, capture?, Capture.pledge?, Capture.party, apart]
  | withdrew id won => cases won <;> rfl
  | abandoned id won => cases won <;> rfl
  | _ => rfl

theorem request?_of_errand_ne {act : Act} {errand : ErrandId}
    (other : act.errand? ≠ some errand) : act.request? errand = none := by
  cases act with
  | asked owner request =>
    have apart : owner ≠ errand := fun same => other (congrArg some same)
    simp only [request?, apart, ↓reduceIte]
  | _ => rfl

theorem letter?_of_errand_ne {act : Act} {errand : ErrandId}
    (other : act.errand? ≠ some errand) : act.letter? errand = none := by
  cases act with
  | sent owner id resolution =>
    have apart : owner ≠ errand := fun same => other (congrArg some same)
    simp only [letter?, apart, ↓reduceIte]
  | _ => rfl

theorem reply?_of_errand_ne {act : Act} {errand : ErrandId}
    (other : act.errand? ≠ some errand) : act.reply? errand = none := by
  cases act with
  | answered owner reply =>
    have apart : owner ≠ errand := fun same => other (congrArg some same)
    simp only [reply?, apart, ↓reduceIte]
  | _ => rfl

end Act

namespace Hall

/-- The waiters that were won, in the order of winning. -/
def captures (history : List Act) : List (WaiterId × Capture) := history.filterMap Act.capture?

/-- How a waiter was won. -/
def captors (history : List Act) (id : WaiterId) : List Capture :=
  (captures history).filterMap fun won => if won.1 = id then some won.2 else none

/-- The numbers that were given out. -/
def registrations (history : List Act) : List WaiterId := history.filterMap Act.registered?

def requests (history : List Act) (errand : ErrandId) : List Errand :=
  history.filterMap (Act.request? errand)

/-- The outcomes that an errand owed to the waiters it won. -/
def pledges (history : List Act) (errand : ErrandId) : List (WaiterId × Resolution) :=
  history.filterMap (Act.pledge? errand)

def letters (history : List Act) (errand : ErrandId) : List (WaiterId × Resolution) :=
  history.filterMap (Act.letter? errand)

def replies (history : List Act) (errand : ErrandId) : List Reply :=
  history.filterMap (Act.reply? errand)

theorem filterMap_snoc {α β : Type} (f : α → Option β) (list : List α) (last : α) :
    (list ++ [last]).filterMap f = list.filterMap f ++ (f last).toList := by
  rw [List.filterMap_append]
  cases found : f last <;> simp [found]

theorem filterMap_sublist {α β : Type} {narrow wide : α → Option β}
    (agree : ∀ value found, narrow value = some found → wide value = some found) (list : List α) :
    (list.filterMap narrow).Sublist (list.filterMap wide) := by
  induction list with
  | nil => exact List.Sublist.refl _
  | cons value rest ih =>
    simp only [List.filterMap_cons]
    cases kept : narrow value with
    | some found =>
      rw [agree value found kept]
      exact ih.cons_cons found
    | none =>
      cases wide value with
      | none => exact ih
      | some found => exact ih.cons found

section Append

variable (history : List Act) (act : Act) (errand : ErrandId) (id : WaiterId)

theorem captures_snoc :
    captures (history ++ [act]) = captures history ++ act.capture?.toList :=
  filterMap_snoc _ _ _

theorem requests_snoc :
    requests (history ++ [act]) errand = requests history errand ++ (act.request? errand).toList :=
  filterMap_snoc _ _ _

theorem pledges_snoc :
    pledges (history ++ [act]) errand = pledges history errand ++ (act.pledge? errand).toList :=
  filterMap_snoc _ _ _

theorem letters_snoc :
    letters (history ++ [act]) errand = letters history errand ++ (act.letter? errand).toList :=
  filterMap_snoc _ _ _

theorem replies_snoc :
    replies (history ++ [act]) errand = replies history errand ++ (act.reply? errand).toList :=
  filterMap_snoc _ _ _

end Append

theorem mem_captors {history : List Act} {id : WaiterId} {capture : Capture} :
    capture ∈ captors history id ↔ (id, capture) ∈ captures history := by
  simp only [captors, List.mem_filterMap, Option.ite_none_right_eq_some, Option.some.injEq,
    Prod.exists]
  constructor
  · rintro ⟨_, _, member, rfl, rfl⟩
    exact member
  · intro member
    exact ⟨id, capture, member, rfl, rfl⟩

theorem mem_captors_append {history : List Act} {id : WaiterId} {capture : Capture}
    (captor : capture ∈ captors history id) (later : List Act) :
    capture ∈ captors (history ++ later) id := by
  rw [mem_captors, captures, List.filterMap_append]
  exact List.mem_append_left _ (mem_captors.mp captor)

theorem mem_pledges {history : List Act} {errand : ErrandId} {id : WaiterId}
    {resolution : Resolution} :
    (id, resolution) ∈ pledges history errand ↔
      ∃ capture ∈ captors history id,
        capture.party = .errand errand ∧ capture.resolution? = some resolution := by
  simp only [pledges, Act.pledge?, List.mem_filterMap, Option.bind_eq_some_iff,
    Option.map_eq_some_iff, mem_captors, captures, Capture.pledge?_eq_some]
  constructor
  · rintro ⟨act, member, ⟨_, capture⟩, won, _, owed, same⟩
    cases same
    exact ⟨capture, ⟨act, member, won⟩, owed⟩
  · rintro ⟨capture, ⟨act, member, won⟩, owed⟩
    exact ⟨act, member, (id, capture), won, resolution, owed, rfl⟩

theorem pledges_sublist (history : List Act) (errand : ErrandId) :
    ((pledges history errand).map Prod.fst).Sublist ((captures history).map Prod.fst) := by
  induction history with
  | nil => exact List.Sublist.refl _
  | cons act rest ih =>
    simp only [pledges, captures, List.filterMap_cons, Act.pledge?] at ih ⊢
    cases act.capture? with
    | none => exact ih
    | some won =>
      cases owed : won.2.pledge? errand with
      | none => simpa [owed] using ih.cons won.1
      | some resolution => simpa [owed] using ih

end Hall
end Switchboard
