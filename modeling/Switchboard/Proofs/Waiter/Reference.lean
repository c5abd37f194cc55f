import Mathlib.Data.List.Basic
import Mathlib.Data.List.Induction
import Mathlib.Data.List.TakeWhile
import Switchboard.Proofs.Waiter.Ledger

set_option autoImplicit false

namespace Switchboard

namespace Sight

def removes : Sight → Bool
  | .won | .taken | .failed _ | .late => true
  | .otherKind | .rejected => false

def failure? : Sight → Option String
  | .failed reason => some reason
  | _ => none

def capture? (errand : ErrandId) (event : Event) : Sight → Option Capture
  | .taken => some (.deliver errand event)
  | .failed reason => some (.fail errand reason)
  | _ => none

end Sight

section Reference

variable (sight : Slot → Sight) (slots : List Slot)

def taker? : Option Slot := slots.find? fun slot => sight slot = .taken

/-- The slots that are looked at: those up to the first whose waiter takes the event. -/
def looked : List Slot :=
  slots.takeWhile (fun slot => sight slot ≠ .taken) ++ (taker? sight slots).toList

/-- The waiters whose patterns failed, with the reasons. -/
def failures : List (WaiterId × String) :=
  (looked sight slots).filterMap fun slot => (sight slot).failure?.map (slot.id, ·)

def removals : List WaiterId :=
  ((looked sight slots).filter fun slot => (sight slot).removes).map Slot.id

def outcomes (event : Event) : List (WaiterId × Resolution) :=
  (failures sight slots).map (fun entry => (entry.1, .error (.patternFailed entry.2))) ++
    (taker? sight slots).toList.map fun slot => (slot.id, .ok event)

def replyTo (event : Event) : Reply :=
  match taker? sight slots with
  | some _ => .claimed
  | none => .unclaimed event

variable {sight slots}

theorem taker?_eq_none : taker? sight slots = none ↔ ∀ slot ∈ slots, sight slot ≠ .taken := by
  simp only [taker?, List.find?_eq_none, decide_eq_true_eq, ne_eq]

theorem replyTo_unclaimed (event : Event) :
    replyTo sight slots event = .unclaimed event ↔ ∀ slot ∈ slots, sight slot ≠ .taken := by
  rw [← taker?_eq_none, replyTo]
  cases taker? sight slots <;> simp

theorem looked_of_untaken (untaken : ∀ slot ∈ slots, sight slot ≠ .taken) :
    looked sight slots = slots := by
  rw [looked, taker?_eq_none.mpr untaken, Option.toList_none, List.append_nil]
  exact List.takeWhile_eq_self_iff.mpr (by simpa using untaken)

theorem taker?_append {earlier later : List Slot} {slot : Slot}
    (untaken : ∀ slot ∈ earlier, sight slot ≠ .taken) (taken : sight slot = .taken) :
    taker? sight (earlier ++ slot :: later) = some slot := by
  rw [taker?, List.find?_append, List.find?_eq_none.mpr (by simpa using untaken), Option.none_or,
    List.find?_cons_of_pos (by simpa using taken)]

theorem looked_append {earlier later : List Slot} {slot : Slot}
    (untaken : ∀ slot ∈ earlier, sight slot ≠ .taken) (taken : sight slot = .taken) :
    looked sight (earlier ++ slot :: later) = earlier ++ [slot] := by
  rw [looked, taker?_append untaken taken, Option.toList_some,
    List.takeWhile_append_of_pos (by simpa using untaken),
    List.takeWhile_cons_of_neg (by simpa using taken), List.append_nil]

end Reference

/-- A slot that was visited, and what was seen of it. -/
abbrev Visit := Slot × Sight

namespace Findings

def note (findings : Findings) (visit : Visit) : Findings :=
  match visit.2 with
  | .won | .late => findings.addStale visit.1.id
  | .failed reason => findings.addFailed visit.1.id reason
  | .taken => { findings with winner := some visit.1.id }
  | .otherKind | .rejected => findings

def after (visits : List Visit) : Findings := visits.foldl note blank

theorem after_snoc (visits : List Visit) (visit : Visit) :
    after (visits ++ [visit]) = (after visits).note visit := by
  simp only [after, List.foldl_append, List.foldl_cons, List.foldl_nil]

theorem failed_after (visits : List Visit) :
    (after visits).failed =
      visits.filterMap fun visit => visit.2.failure?.map (visit.1.id, ·) := by
  induction visits using List.reverseRecOn with
  | nil => rfl
  | append_singleton visits visit ih =>
    rw [after_snoc, List.filterMap_append, ← ih]
    obtain ⟨slot, sight⟩ := visit
    cases sight <;> simp [note, addStale, addFailed, Sight.failure?]

theorem winner_after_open (visits : List Visit) (untaken : ∀ visit ∈ visits, visit.2 ≠ .taken) :
    (after visits).winner = none := by
  induction visits using List.reverseRecOn with
  | nil => rfl
  | append_singleton visits visit ih =>
    have before := ih fun other member => untaken other (List.mem_append_left _ member)
    have last := untaken visit (by simp)
    obtain ⟨slot, sight⟩ := visit
    rw [after_snoc]
    cases sight with
    | taken => exact absurd rfl last
    | _ => exact before

theorem mem_leaving_note (findings : Findings) (open_ : findings.winner = none) (visit : Visit)
    (id : WaiterId) :
    id ∈ (findings.note visit).leaving ↔
      id ∈ findings.leaving ∨ visit.1.id = id ∧ visit.2.removes = true := by
  obtain ⟨slot, sight⟩ := visit
  cases sight with
  | otherKind | rejected => simp [note, Sight.removes]
  | taken => simp [note, leaving, Sight.removes, open_, or_assoc, eq_comm (a := id)]
  | won | late | failed =>
    simp only [note, addStale, addFailed, leaving, Sight.removes, open_, List.mem_append,
      List.map_append, List.mem_singleton, List.map_cons, List.map_nil, Option.toList_none,
      List.not_mem_nil, and_true, or_false, eq_comm (a := id)]
    grind

/-- The slots that are taken out after some visits of which at most the last found a taker. -/
theorem mem_leaving_after (visits : List Visit)
    (untaken : ∀ visit ∈ visits.dropLast, visit.2 ≠ .taken) (id : WaiterId) :
    id ∈ (after visits).leaving ↔ ∃ visit ∈ visits, visit.1.id = id ∧ visit.2.removes = true := by
  induction visits using List.reverseRecOn with
  | nil => simp [after, blank, leaving]
  | append_singleton visits visit ih =>
    rw [List.dropLast_concat] at untaken
    have before := ih fun other member => untaken other (List.dropLast_subset _ member)
    rw [after_snoc, mem_leaving_note _ (winner_after_open visits untaken), before]
    simp [or_and_right, exists_or]

end Findings

theorem find_visit {visits : List Visit} (distinct : (visits.map fun visit => visit.1.id).Nodup)
    {visit : Visit} (member : visit ∈ visits) :
    (visits.map fun visit => (visit.1.id, visit.2)).find? (fun seen => seen.1 = visit.1.id) =
      some (visit.1.id, visit.2) := by
  induction visits with
  | nil => cases member
  | cons first rest ih =>
    rw [List.map_cons, List.nodup_cons] at distinct
    rcases List.mem_cons.mp member with rfl | later
    · simp
    · have apart : first.1.id ≠ visit.1.id := by
        intro same
        exact distinct.1 (List.mem_map.mpr ⟨visit, later, same.symm⟩)
      rw [List.map_cons, List.find?_cons_of_neg (by simpa using apart)]
      exact ih distinct.2 later

/-- The visits of a search that is over are those that follow from what it saw. -/
structure Tallied (sight : Slot → Sight) (slots : List Slot) (visits : List Visit) : Prop where
  agree : ∀ visit ∈ visits, sight visit.1 = visit.2
  visited : looked sight slots = visits.map Prod.fst
  winner : (Findings.after visits).winner = (taker? sight slots).map Slot.id
  untaken : ∀ visit ∈ visits.dropLast, visit.2 ≠ .taken

section Tallied

variable {sight : Slot → Sight} {slots : List Slot} {visits : List Visit}

theorem Tallied.filterMap {β : Type} (tallied : Tallied sight slots visits)
    (f : Slot → Sight → Option β) :
    (looked sight slots).filterMap (fun slot => f slot (sight slot)) =
      visits.filterMap fun visit => f visit.1 visit.2 := by
  rw [tallied.visited, List.filterMap_map]
  apply List.filterMap_congr
  intro visit member
  rw [Function.comp_apply, tallied.agree visit member]

theorem Tallied.failed (tallied : Tallied sight slots visits) :
    (Findings.after visits).failed = failures sight slots := by
  rw [Findings.failed_after, failures]
  exact (tallied.filterMap fun slot sight => sight.failure?.map (slot.id, ·)).symm

theorem Tallied.letters (tallied : Tallied sight slots visits) (event : Event) :
    (Findings.after visits).letters event = outcomes sight slots event := by
  rw [Findings.letters, outcomes, tallied.failed, tallied.winner]
  cases taker? sight slots <;> rfl

theorem Tallied.reply (tallied : Tallied sight slots visits) (event : Event) :
    (Findings.after visits).reply event = replyTo sight slots event := by
  rw [Findings.reply, replyTo, tallied.winner]
  cases taker? sight slots <;> rfl

theorem Tallied.mem_removals (tallied : Tallied sight slots visits) (id : WaiterId) :
    id ∈ (Findings.after visits).leaving ↔ id ∈ removals sight slots := by
  rw [Findings.mem_leaving_after visits tallied.untaken, removals, List.mem_map, tallied.visited]
  constructor
  · rintro ⟨visit, member, rfl, removed⟩
    rw [← tallied.agree visit member] at removed
    exact ⟨visit.1, List.mem_filter.mpr ⟨List.mem_map.mpr ⟨visit, member, rfl⟩, removed⟩, rfl⟩
  · rintro ⟨slot, kept, rfl⟩
    obtain ⟨visited, removed⟩ := List.mem_filter.mp kept
    obtain ⟨visit, member, rfl⟩ := List.mem_map.mp visited
    rw [tallied.agree visit member] at removed
    exact ⟨visit, member, rfl, removed⟩

end Tallied

end Switchboard
