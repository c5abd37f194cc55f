import Mathlib.Data.Option.Basic
import Switchboard.Proofs.Json.Ordered
import Switchboard.Toml.Reader

set_option autoImplicit false

namespace Switchboard.Toml

mutual

/-- All values in the node are ordered. -/
def Node.Ordered : Node → Prop
  | .value value => value.Ordered
  | .table _ members => MembersOrdered members
  | .tables items => ItemsOrdered items

/-- All values in the table are ordered. -/
def MembersOrdered : List (String × Node) → Prop
  | [] => True
  | (_, node) :: members => node.Ordered ∧ MembersOrdered members

/-- All values in the tables are ordered. -/
def ItemsOrdered : List (List (String × Node)) → Prop
  | [] => True
  | members :: items => MembersOrdered members ∧ ItemsOrdered items

end

theorem membersOrdered_iff {members : Members} :
    MembersOrdered members ↔ ∀ member ∈ members, member.2.Ordered := by
  induction members with
  | nil => exact iff_of_true trivial fun _ member => nomatch member
  | cons head rest ih =>
    obtain ⟨key, node⟩ := head
    rw [MembersOrdered, ih, List.forall_mem_cons]

theorem itemsOrdered_iff {items : List Members} :
    ItemsOrdered items ↔ ∀ members ∈ items, MembersOrdered members := by
  induction items with
  | nil => exact iff_of_true trivial fun _ member => nomatch member
  | cons members items ih => rw [ItemsOrdered, ih, List.forall_mem_cons]

mutual

theorem Node.ordered_toJson (node : Node) (ordered : node.Ordered) : node.toJson.Ordered := by
  cases node with
  | value value => exact ordered
  | table origin members => exact Json.ordered_ofMembers (ordered_membersToJson members ordered)
  | tables items => exact Json.allOrdered_iff.mpr (ordered_itemsToJson items ordered)

theorem ordered_membersToJson (members : Members) (ordered : MembersOrdered members) :
    ∀ member ∈ membersToJson members, member.2.Ordered := by
  cases members with
  | nil => exact fun _ member => nomatch member
  | cons head rest =>
    obtain ⟨key, node⟩ := head
    rw [membersToJson]
    exact List.forall_mem_cons.mpr
      ⟨node.ordered_toJson ordered.1, ordered_membersToJson rest ordered.2⟩

theorem ordered_itemsToJson (items : List Members) (ordered : ItemsOrdered items) :
    ∀ item ∈ itemsToJson items, item.Ordered := by
  cases items with
  | nil => exact fun _ member => nomatch member
  | cons members rest =>
    rw [itemsToJson]
    exact List.forall_mem_cons.mpr ⟨Json.ordered_ofMembers
      (ordered_membersToJson members ordered.1), ordered_itemsToJson rest ordered.2⟩

end

/-- A change that leaves tables ordered. -/
def Keeps (change : Members → Option Members) : Prop :=
  ∀ members changed, MembersOrdered members → change members = some changed →
    MembersOrdered changed

theorem ordered_of_find? {key : String} {members : Members} {node : Node}
    (ordered : MembersOrdered members) (found : find? key members = some node) :
    node.Ordered := by
  obtain ⟨member, first, rfl⟩ := Option.map_eq_some_iff.mp found
  exact membersOrdered_iff.mp ordered member (List.mem_of_find?_eq_some first)

theorem ordered_put {key : String} {members : Members} {node : Node}
    (ordered : MembersOrdered members) (fits : node.Ordered) :
    MembersOrdered (put key node members) := by
  unfold put
  refine membersOrdered_iff.mpr (List.forall_mem_append.mpr ⟨fun member kept => ?_,
    List.forall_mem_singleton.mpr fits⟩)
  exact membersOrdered_iff.mp ordered member (List.mem_filter.mp kept).1

theorem ordered_changeLast {change : Members → Option Members} (keeps : Keeps change)
    {items changed : List Members} (ordered : ItemsOrdered items)
    (done : changeLast change items = some changed) : ItemsOrdered changed := by
  fun_induction changeLast change items generalizing changed with
  | case1 => cases done
  | case2 last =>
    obtain ⟨members, once, rfl⟩ := Option.map_eq_some_iff.mp done
    exact ⟨keeps last members ordered.1 once, trivial⟩
  | case3 first next rest ih =>
    obtain ⟨others, once, rfl⟩ := Option.map_eq_some_iff.mp done
    exact ⟨ordered.1, ih ordered.2 once⟩

theorem keeps_changeAt {byDots : Bool} {change : Bool → Members → Option Members}
    (keeps : ∀ isDotted, Keeps (change isDotted)) (path : List String) (isDotted : Bool) :
    Keeps (changeAt byDots change path isDotted) := by
  induction path generalizing isDotted with
  | nil => exact keeps isDotted
  | cons key path ih =>
    intro members changed ordered done
    rw [changeAt] at done
    cases found : find? key members with
    | none =>
      rw [found] at done
      obtain ⟨inner, once, rfl⟩ := Option.map_eq_some_iff.mp done
      exact ordered_put ordered (ih byDots [] inner trivial once)
    | some node =>
      have fits := ordered_of_find? ordered found
      rw [found] at done
      cases node with
      | value value => cases done
      | table origin inner =>
        dsimp only at done
        split at done
        · cases done
        · obtain ⟨members', once, rfl⟩ := Option.map_eq_some_iff.mp done
          exact ordered_put ordered (ih _ inner members' fits once)
      | tables items =>
        obtain ⟨items', once, rfl⟩ := Option.map_eq_some_iff.mp done
        exact ordered_put ordered (ordered_changeLast (ih false) fits once)

theorem keeps_define {value : Json} (fits : value.Ordered) (path : List String) (key : String) :
    Keeps (define path key value) := by
  apply keeps_changeAt
  intro isDotted members changed ordered done
  split at done
  · cases done
  · dsimp only at done
    split at done
    · cases done
    · cases done
      exact ordered_put ordered fits

namespace Draft

variable {draft next : Draft} {path : List String} {key : String}

theorem ordered_assign {value : Json} (fits : value.Ordered)
    (ordered : MembersOrdered draft.members) (done : draft.assign path key value = some next) :
    MembersOrdered next.members := by
  obtain ⟨members, once, rfl⟩ := Option.map_eq_some_iff.mp done
  exact keeps_changeAt (fun _ => keeps_define fits path key) _ _ _ members ordered once

theorem ordered_openTable (ordered : MembersOrdered draft.members)
    (done : draft.openTable path key = some next) : MembersOrdered next.members := by
  obtain ⟨members, once, rfl⟩ := Option.map_eq_some_iff.mp done
  refine keeps_changeAt (fun _ => ?_) _ _ _ members ordered once
  intro inner changed held opened
  dsimp only at opened
  split at opened
  · cases opened
    exact ordered_put held trivial
  · next found =>
    cases opened
    have fits : MembersOrdered _ := ordered_of_find? held found
    exact ordered_put held fits
  · cases opened

theorem ordered_openItem (ordered : MembersOrdered draft.members)
    (done : draft.openItem path key = some next) : MembersOrdered next.members := by
  obtain ⟨members, once, rfl⟩ := Option.map_eq_some_iff.mp done
  refine keeps_changeAt (fun _ => ?_) _ _ _ members ordered once
  intro inner changed held opened
  dsimp only at opened
  split at opened
  · cases opened
    exact ordered_put held ⟨trivial, trivial⟩
  · next items found =>
    cases opened
    have fits : ItemsOrdered items := ordered_of_find? held found
    exact ordered_put held (itemsOrdered_iff.mpr (List.forall_mem_append.mpr
      ⟨itemsOrdered_iff.mp fits, List.forall_mem_singleton.mpr trivial⟩))
  · cases opened

end Draft

section Scalars

variable {text after : List Char} {value : Json}

theorem ordered_takeMoment (taken : takeMoment text = some (value, after)) : value.Ordered := by
  rw [takeMoment] at taken
  split at taken
  · cases taken
  · cases taken
    exact ⟨List.pairwise_singleton _ _, trivial, trivial⟩

theorem ordered_takeFraction (taken : takeFraction text = some (value, after)) :
    value.Ordered := by
  unfold takeFraction at taken
  dsimp only [bind] at taken
  split at taken
  · cases taken
    trivial
  · cases taken
    trivial
  · obtain ⟨⟨whole, afterWhole⟩, _, taken⟩ := Option.bind_eq_some_iff.mp taken
    split at taken
    · cases taken
    · split at taken
      · cases taken
      · cases taken
        trivial

theorem ordered_takeInteger (taken : takeInteger text = some (value, after)) : value.Ordered := by
  unfold takeInteger at taken
  dsimp only at taken
  repeat' split at taken
  all_goals first
    | cases taken; trivial
    | cases taken

theorem ordered_takeNumber (taken : takeNumber text = some (value, after)) : value.Ordered := by
  rw [takeNumber] at taken
  rcases (Option.orElse_eq_some _ _ _).mp taken with taken | ⟨_, taken⟩
  · rcases (Option.orElse_eq_some _ _ _).mp taken with taken | ⟨_, taken⟩
    · exact ordered_takeMoment taken
    · exact ordered_takeFraction taken
  · exact ordered_takeInteger taken

end Scalars

/-- What the readers of values, of arrays and of tables in one line return is ordered. The fuel goes
down from each of them to the next. -/
structure ReadsOrdered (fuel : Nat) : Prop where
  value : ∀ depth text value after, takeValue fuel depth text = some (value, after) →
    value.Ordered
  items : ∀ depth text items after, takeItems fuel depth text = some (items, after) →
    Json.AllOrdered items
  members : ∀ depth held text members after, MembersOrdered held →
    takeMembers fuel depth held text = some (members, after) → MembersOrdered members

theorem ReadsOrdered.value_succ {fuel : Nat} (reads : ReadsOrdered fuel) (depth : Nat)
    (text : List Char) (value : Json) (after : List Char)
    (taken : takeValue (fuel + 1) depth text = some (value, after)) : value.Ordered := by
  rw [takeValue.eq_def] at taken
  dsimp only at taken
  split at taken
  · cases taken
  · -- an array
    split at taken
    · cases taken
    · obtain ⟨⟨items, _⟩, once, same⟩ := Option.map_eq_some_iff.mp taken
      cases same
      exact reads.items _ _ items _ once
  · -- a table in one line
    split at taken
    · cases taken
    · split at taken
      · cases taken
        exact Json.ordered_empty
      · obtain ⟨⟨members, _⟩, once, same⟩ := Option.map_eq_some_iff.mp taken
        cases same
        exact Json.ordered_ofMembers
          (ordered_membersToJson members (reads.members _ [] _ members _ trivial once))
  · obtain ⟨_, _, same⟩ := Option.map_eq_some_iff.mp taken
    cases same
    trivial
  · obtain ⟨_, _, same⟩ := Option.map_eq_some_iff.mp taken
    cases same
    trivial
  · split at taken
    · obtain ⟨_, _, same⟩ := Option.map_eq_some_iff.mp taken
      cases same
      trivial
    · exact ordered_takeNumber taken

theorem ReadsOrdered.items_succ {fuel : Nat} (reads : ReadsOrdered fuel) (depth : Nat)
    (text : List Char) (items : List Json) (after : List Char)
    (taken : takeItems (fuel + 1) depth text = some (items, after)) : Json.AllOrdered items := by
  rw [takeItems.eq_def] at taken
  obtain ⟨start, filled, taken⟩ := Option.bind_eq_some_iff.mp taken
  dsimp only at taken
  split at taken
  · cases taken
    trivial
  · obtain ⟨⟨first, _⟩, once, taken⟩ := Option.bind_eq_some_iff.mp taken
    obtain ⟨rest, _, taken⟩ := Option.bind_eq_some_iff.mp taken
    obtain ⟨next, _, taken⟩ := Option.bind_eq_some_iff.mp taken
    have fits := reads.value _ _ _ _ once
    cases next with
    | closed _ =>
      cases taken
      exact ⟨fits, trivial⟩
    | more more =>
      obtain ⟨⟨others, _⟩, later, taken⟩ := Option.bind_eq_some_iff.mp taken
      cases taken
      exact ⟨fits, reads.items _ _ others _ later⟩

theorem ReadsOrdered.members_succ {fuel : Nat} (reads : ReadsOrdered fuel) (depth : Nat)
    (held : Members) (text : List Char) (members : Members) (after : List Char)
    (ordered : MembersOrdered held)
    (taken : takeMembers (fuel + 1) depth held text = some (members, after)) :
    MembersOrdered members := by
  rw [takeMembers.eq_def] at taken
  obtain ⟨⟨⟨path, key⟩, _⟩, _, taken⟩ := Option.bind_eq_some_iff.mp taken
  obtain ⟨_, _, taken⟩ := Option.bind_eq_some_iff.mp taken
  obtain ⟨⟨value, _⟩, once, taken⟩ := Option.bind_eq_some_iff.mp taken
  obtain ⟨added, defined, taken⟩ := Option.bind_eq_some_iff.mp taken
  obtain ⟨next, _, taken⟩ := Option.bind_eq_some_iff.mp taken
  have more := keeps_define (reads.value _ _ _ _ once) path key held added ordered defined
  cases next with
  | closed _ =>
    cases taken
    exact more
  | more rest => exact reads.members _ _ _ members _ more taken

theorem reads_ordered (fuel : Nat) : ReadsOrdered fuel := by
  induction fuel with
  | zero =>
    refine ⟨?_, ?_, ?_⟩
    · intro depth text value after taken
      cases taken
    · intro depth text items after taken
      cases taken
    · intro depth held text members after ordered taken
      cases taken
  | succ fuel ih => exact ⟨ih.value_succ, ih.items_succ, ih.members_succ⟩

section Lines

variable {draft next : Draft} {text rest : List Char}

theorem ordered_takeAssignment (ordered : MembersOrdered draft.members)
    (taken : takeAssignment draft text = some (next, rest)) : MembersOrdered next.members := by
  unfold takeAssignment at taken
  obtain ⟨⟨⟨path, key⟩, _⟩, _, taken⟩ := Option.bind_eq_some_iff.mp taken
  obtain ⟨_, _, taken⟩ := Option.bind_eq_some_iff.mp taken
  obtain ⟨⟨value, _⟩, once, taken⟩ := Option.bind_eq_some_iff.mp taken
  obtain ⟨assigned, done, taken⟩ := Option.bind_eq_some_iff.mp taken
  cases taken
  exact Draft.ordered_assign ((reads_ordered _).value _ _ _ _ once) ordered done

theorem ordered_takeHeader (ordered : MembersOrdered draft.members)
    (taken : takeHeader draft text = some (next, rest)) : MembersOrdered next.members := by
  unfold takeHeader at taken
  split at taken
  all_goals
    obtain ⟨⟨⟨path, key⟩, _⟩, _, taken⟩ := Option.bind_eq_some_iff.mp taken
    obtain ⟨_, _, taken⟩ := Option.bind_eq_some_iff.mp taken
    obtain ⟨opened, done, taken⟩ := Option.bind_eq_some_iff.mp taken
    cases taken
  · exact Draft.ordered_openItem ordered done
  · exact Draft.ordered_openTable ordered done

theorem ordered_takeLine (ordered : MembersOrdered draft.members)
    (taken : takeLine draft text = some (next, rest)) : MembersOrdered next.members := by
  unfold takeLine at taken
  dsimp only at taken
  split at taken
  all_goals
    obtain ⟨⟨read, after⟩, done, taken⟩ := Option.bind_eq_some_iff.mp taken
    obtain ⟨_, _, taken⟩ := Option.bind_eq_some_iff.mp taken
    cases taken
  · cases done
    exact ordered
  · cases done
    exact ordered
  · cases done
    exact ordered
  · cases done
    exact ordered
  · exact ordered_takeHeader ordered done
  · exact ordered_takeAssignment ordered done

theorem ordered_takeLines {fuel : Nat} (ordered : MembersOrdered draft.members)
    (taken : takeLines fuel draft text = some next) : MembersOrdered next.members := by
  induction fuel generalizing draft text with
  | zero => cases taken
  | succ fuel ih =>
    rw [takeLines] at taken
    split at taken
    · cases taken
      exact ordered
    · split at taken
      · cases taken
      · next read => exact ih (ordered_takeLine ordered read) taken

end Lines

theorem ordered_parse? {document : String} {value : Json} (read : parse? document = some value) :
    value.Ordered ∧ ∃ members, value = .object members := by
  unfold parse? at read
  obtain ⟨draft, taken, rfl⟩ := Option.map_eq_some_iff.mp read
  have empty : MembersOrdered Draft.empty.members := trivial
  have ordered := ordered_takeLines empty taken
  exact ⟨Json.ordered_ofMembers (ordered_membersToJson _ ordered), _, rfl⟩

end Switchboard.Toml
