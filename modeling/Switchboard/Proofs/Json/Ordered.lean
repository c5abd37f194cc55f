import Switchboard.Json.Value

set_option autoImplicit false

namespace Switchboard.Json

/-- The keys of the members ascend, and none comes twice. -/
def Ascending (members : List (String × Json)) : Prop := (members.map Prod.fst).Pairwise (· < ·)

mutual

/-- All objects in the value have ascending members. -/
def Ordered : Json → Prop
  | .array items => AllOrdered items
  | .object members => Ascending members ∧ MembersOrdered members
  | _ => True

/-- All items are ordered. -/
def AllOrdered : List Json → Prop
  | [] => True
  | item :: items => item.Ordered ∧ AllOrdered items

/-- The values of all members are ordered. -/
def MembersOrdered : List (String × Json) → Prop
  | [] => True
  | (_, value) :: members => value.Ordered ∧ MembersOrdered members

end

theorem allOrdered_iff {items : List Json} : AllOrdered items ↔ ∀ item ∈ items, item.Ordered := by
  induction items with
  | nil => exact iff_of_true trivial fun _ member => nomatch member
  | cons item items ih => rw [AllOrdered, ih, List.forall_mem_cons]

theorem membersOrdered_iff {members : List (String × Json)} :
    MembersOrdered members ↔ ∀ member ∈ members, member.2.Ordered := by
  induction members with
  | nil => exact iff_of_true trivial fun _ member => nomatch member
  | cons head rest ih =>
    obtain ⟨key, value⟩ := head
    rw [MembersOrdered, ih, List.forall_mem_cons]

section Members

variable {key wanted : String} {value held : Json} {members : List (String × Json)}

theorem ascending_cons {head : String × Json} :
    Ascending (head :: members) ↔ (∀ other ∈ members.map Prod.fst, head.1 < other) ∧
      Ascending members := by
  unfold Ascending
  rw [List.map_cons, List.pairwise_cons]

theorem lookup_eq_none_iff : lookup key members = none ↔ key ∉ members.map Prod.fst := by
  induction members with
  | nil => exact iff_of_true rfl List.not_mem_nil
  | cons head rest ih =>
    obtain ⟨other, held⟩ := head
    rw [lookup, List.map_cons, List.mem_cons, not_or]
    by_cases same : key = other
    · rw [if_pos same]
      exact iff_of_false (Option.some_ne_none _) fun absent => absent.1 same
    · rw [if_neg same, ih]
      exact ⟨fun absent => ⟨same, absent⟩, And.right⟩

theorem mem_of_lookup (found : lookup key members = some value) : (key, value) ∈ members := by
  induction members with
  | nil => cases found
  | cons head rest ih =>
    obtain ⟨other, held⟩ := head
    rw [lookup] at found
    split at found
    · next same =>
      cases found
      rw [same]
      exact List.mem_cons_self
    · exact List.mem_cons_of_mem _ (ih found)

theorem mem_keys_insertMember :
    wanted ∈ (insertMember key value members).map Prod.fst ↔
      wanted = key ∨ wanted ∈ members.map Prod.fst := by
  apply Decidable.not_iff_not.mp
  rw [← lookup_eq_none_iff, not_or, ← lookup_eq_none_iff]
  by_cases same : wanted = key
  · rw [same, lookup_insertMember_self]
    exact iff_of_false (Option.some_ne_none _) fun absent => absent.1 rfl
  · rw [lookup_insertMember_of_ne value members same]
    exact ⟨fun absent => ⟨same, absent⟩, And.right⟩

theorem ascending_insertMember (ascending : Ascending members) :
    Ascending (insertMember key value members) := by
  induction members with
  | nil => exact List.pairwise_singleton _ _
  | cons head rest ih =>
    obtain ⟨other, held⟩ := head
    obtain ⟨above, below⟩ := ascending_cons.mp ascending
    unfold insertMember
    split
    · next first =>
      apply ascending_cons.mpr
      refine ⟨fun later member => ?_, ascending⟩
      rcases List.mem_cons.mp member with rfl | member
      · exact first
      · exact String.lt_trans first (above later member)
    · next not_first =>
      split
      · next same =>
        subst same
        exact ascending_cons.mpr ⟨above, below⟩
      · next differs =>
        apply ascending_cons.mpr
        refine ⟨fun later member => ?_, ih below⟩
        rcases mem_keys_insertMember.mp member with rfl | member
        · apply String.not_le.mp
          intro reverse
          exact differs (String.le_antisymm reverse (String.not_lt.mp not_first))
        · exact above later member

theorem forall_mem_insertMember {property : Json → Prop} (holds : property value)
    (all : ∀ member ∈ members, property member.2) :
    ∀ member ∈ insertMember key value members, property member.2 := by
  induction members with
  | nil => exact List.forall_mem_singleton.mpr holds
  | cons head rest ih =>
    obtain ⟨other, held⟩ := head
    obtain ⟨first, others⟩ := List.forall_mem_cons.mp all
    unfold insertMember
    split
    · exact List.forall_mem_cons.mpr ⟨holds, all⟩
    · split
      · exact List.forall_mem_cons.mpr ⟨holds, others⟩
      · exact List.forall_mem_cons.mpr ⟨first, ih others⟩

theorem ordered_of_lookup (ordered : Ordered (.object members))
    (found : lookup key members = some value) : value.Ordered :=
  membersOrdered_iff.mp ordered.2 _ (mem_of_lookup found)

theorem ordered_insertMember (ordered : Ordered (.object members)) (fits : value.Ordered) :
    Ordered (.object (insertMember key value members)) :=
  ⟨ascending_insertMember ordered.1, membersOrdered_iff.mpr
    (forall_mem_insertMember fits (membersOrdered_iff.mp ordered.2))⟩

end Members

theorem ordered_empty : Ordered (.object []) := ⟨List.Pairwise.nil, trivial⟩

theorem ordered_ofMembers {members : List (String × Json)}
    (all : ∀ member ∈ members, member.2.Ordered) : (ofMembers members).Ordered := by
  unfold ofMembers
  have built : ∀ (rest held : List (String × Json)), (∀ member ∈ rest, member.2.Ordered) →
      Ordered (.object held) → Ordered (.object
        (rest.foldl (fun held member => insertMember member.1 member.2 held) held)) := by
    intro rest
    induction rest with
    | nil => exact fun _ _ ordered => ordered
    | cons member rest ih =>
      intro held all ordered
      obtain ⟨first, others⟩ := List.forall_mem_cons.mp all
      exact ih _ others (ordered_insertMember ordered first)
  exact built members [] all ordered_empty

theorem ordered_ofPresent {members : List (String × Option Json)}
    (all : ∀ member ∈ members, ∀ value ∈ member.2, Ordered value) :
    (ofPresent members).Ordered := by
  apply ordered_ofMembers
  intro member present
  obtain ⟨⟨key, option⟩, listed, shown⟩ := List.mem_filterMap.mp present
  obtain ⟨value, set, rfl⟩ := Option.map_eq_some_iff.mp shown
  exact all _ listed value set

def at? (value : Json) : List String → Option Json
  | [] => some value
  | key :: path => (value.member? key).bind fun held => held.at? path

/-- What is seen of a value from outside: all of it, but of an object only that it is one. -/
def face : Json → Option Json
  | .object _ => none
  | other => some other

theorem at?_cons (members : List (String × Json)) (key : String) (path : List String) :
    at? (.object members) (key :: path) =
      (lookup key members).bind fun held => held.at? path := rfl

theorem at?_append (value : Json) (front back : List String) :
    value.at? (front ++ back) = (value.at? front).bind fun held => held.at? back := by
  induction front generalizing value with
  | nil => rfl
  | cons key front ih =>
    cases value with
    | object members =>
      rw [List.cons_append, at?_cons, at?_cons]
      cases lookup key members with
      | none => rfl
      | some held => exact ih held
    | _ => rfl

theorem eq_of_lookup_eq {members others : List (String × Json)} (ascending : Ascending members)
    (ascending' : Ascending others) (same : ∀ key, lookup key members = lookup key others) :
    members = others := by
  induction members generalizing others with
  | nil =>
    cases others with
    | nil => rfl
    | cons head rest =>
      have found := same head.1
      simp only [lookup, if_true] at found
      cases found
  | cons head rest ih =>
    obtain ⟨key, value⟩ := head
    cases others with
    | nil =>
      have found := same key
      simp only [lookup, if_true] at found
      cases found
    | cons head' rest' =>
      obtain ⟨key', value'⟩ := head'
      obtain ⟨above, below⟩ := ascending_cons.mp ascending
      obtain ⟨above', below'⟩ := ascending_cons.mp ascending'
      -- the first key of each is a key of the other, and no key of a list is below its first
      have first : key = key' := by
        apply Decidable.byContradiction
        intro differs
        have here := same key
        have there := same key'
        simp only [lookup, if_true, if_neg differs] at here
        simp only [lookup, if_true, if_neg (Ne.symm differs)] at there
        have greater := above' _ (List.mem_map_of_mem (f := Prod.fst) (mem_of_lookup here.symm))
        have less := above _ (List.mem_map_of_mem (f := Prod.fst) (mem_of_lookup there))
        exact String.lt_asymm greater less
      subst first
      have values := same key
      simp only [lookup, if_true, Option.some.injEq] at values
      subst values
      congr 1
      apply ih below below'
      intro wanted
      by_cases itself : wanted = key
      · subst itself
        have absent := lookup_eq_none_iff.mpr fun member => String.lt_irrefl _ (above _ member)
        have absent' := lookup_eq_none_iff.mpr fun member => String.lt_irrefl _ (above' _ member)
        rw [absent, absent']
      · have rest_same := same wanted
        simp only [lookup, if_neg itself] at rest_same
        exact rest_same

theorem face_eq_none {value : Json} : value.face = none ↔ ∃ members, value = .object members := by
  constructor
  · intro hidden
    cases value with
    | object members => exact ⟨members, rfl⟩
    | _ => cases hidden
  · rintro ⟨members, rfl⟩
    rfl

theorem eq_of_face {value seen : Json} (shown : value.face = some seen) : value = seen := by
  cases value with
  | object members => cases shown
  | _ => exact Option.some.inj shown

theorem eq_of_faces {value other : Json} (ordered : value.Ordered) (ordered' : other.Ordered)
    (same : ∀ path, (value.at? path).map face = (other.at? path).map face) : value = other := by
  have outside : value.face = other.face := Option.some.inj (same [])
  cases shown : value.face with
  | some seen => rw [eq_of_face shown, eq_of_face (outside.symm.trans shown)]
  | none =>
    obtain ⟨members, rfl⟩ := face_eq_none.mp shown
    obtain ⟨others, rfl⟩ := face_eq_none.mp (outside.symm.trans shown)
    congr 1
    apply eq_of_lookup_eq ordered.1 ordered'.1
    intro key
    have here := same [key]
    simp only [at?_cons] at here
    cases found : lookup key members with
    | none =>
      cases found' : lookup key others with
      | none => rfl
      | some held' => simp [found, found', at?] at here
    | some held =>
      cases found' : lookup key others with
      | none => simp [found, found', at?] at here
      | some held' =>
        congr 1
        have smaller := List.sizeOf_lt_of_mem (mem_of_lookup found)
        apply eq_of_faces (ordered_of_lookup ordered found) (ordered_of_lookup ordered' found')
        intro path
        have inside := same (key :: path)
        simp only [at?_cons, found, found', Option.bind_some] at inside
        exact inside
termination_by sizeOf value
decreasing_by
  subst_vars
  simp only [Json.object.sizeOf_spec, Prod.mk.sizeOf_spec] at smaller ⊢
  omega

end Switchboard.Json
