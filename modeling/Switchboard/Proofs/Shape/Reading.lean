import Mathlib.Data.List.Nodup
import Switchboard.Proofs.Json.Ordered
import Switchboard.Shape.Record

set_option autoImplicit false

namespace Switchboard

namespace Json

theorem lookup_append (key : String) (front back : List (String × Json)) :
    lookup key (front ++ back) = (lookup key front).or (lookup key back) := by
  induction front with
  | nil => rfl
  | cons head rest ih =>
    obtain ⟨other, held⟩ := head
    by_cases same : key = other
    · simp only [List.cons_append, lookup, if_pos same, Option.some_or]
    · simp only [List.cons_append, lookup, if_neg same, ih]

theorem lookup_insertAll (key : String) (members held : List (String × Json)) :
    lookup key (members.foldl (fun held member => insertMember member.1 member.2 held) held) =
      (lookup key members.reverse).or (lookup key held) := by
  induction members generalizing held with
  | nil => rfl
  | cons member rest ih =>
    obtain ⟨other, value⟩ := member
    rw [List.foldl_cons, ih, List.reverse_cons, lookup_append, Option.or_assoc]
    congr 1
    by_cases same : key = other
    · subst same
      rw [lookup_insertMember_self, lookup, if_pos rfl, Option.some_or]
    · rw [lookup_insertMember_of_ne value held same, lookup, if_neg same, lookup, Option.none_or]

theorem lookup_reverse {key : String} {members : List (String × Json)}
    (distinct : (members.map Prod.fst).Nodup) :
    lookup key members.reverse = lookup key members := by
  induction members with
  | nil => rfl
  | cons head rest ih =>
    obtain ⟨other, value⟩ := head
    obtain ⟨fresh, distinct⟩ := List.nodup_cons.mp distinct
    rw [List.reverse_cons, lookup_append, ih distinct]
    by_cases same : key = other
    · subst same
      rw [lookup_eq_none_iff.mpr fresh, Option.none_or]
      simp only [lookup, if_true]
    · simp only [lookup, if_neg same, Option.or_none]

theorem lookup_ofMembers (key : String) {members : List (String × Json)}
    (distinct : (members.map Prod.fst).Nodup) :
    lookup key (members.foldl (fun held member => insertMember member.1 member.2 held) []) =
      lookup key members := by
  rw [lookup_insertAll, lookup_reverse distinct, lookup, Option.or_none]

theorem at?_ofMembers {members : List (String × Json)} (distinct : (members.map Prod.fst).Nodup)
    (key : String) (path : List String) :
    (ofMembers members).at? (key :: path) =
      (lookup key members).bind fun held => held.at? path := by
  rw [ofMembers, at?_cons, lookup_ofMembers key distinct]

/-- An object that is ordered already stays as it is when it is built again. -/
theorem ofMembers_of_ordered {members : List (String × Json)}
    (ordered : Ordered (.object members)) : ofMembers members = .object members := by
  have distinct : (members.map Prod.fst).Nodup := by
    apply List.Pairwise.imp _ ordered.1
    rintro key _ below rfl
    exact String.lt_irrefl key below
  have built := ordered_ofMembers (membersOrdered_iff.mp ordered.2)
  rw [ofMembers] at built ⊢
  congr 1
  apply eq_of_lookup_eq built.1 ordered.1
  intro key
  exact lookup_ofMembers key distinct

def present? (key : String) : List (String × Option Json) → Option Json
  | [] => none
  | (other, value) :: rest => if key = other then value else present? key rest

def presentMembers (members : List (String × Option Json)) : List (String × Json) :=
  (members.filterMap fun member => member.2.map fun value => (member.1, value)).foldl
    (fun held member => insertMember member.1 member.2 held) []

theorem keys_of_set (members : List (String × Option Json)) :
    ((members.filterMap fun member => member.2.map fun value => (member.1, value)).map
      Prod.fst).Sublist (members.map Prod.fst) := by
  induction members with
  | nil => exact .slnil
  | cons head rest ih =>
    obtain ⟨other, value⟩ := head
    cases value with
    | none => exact ih.cons _
    | some value => exact ih.cons_cons _

theorem lookup_set (key : String) {members : List (String × Option Json)}
    (distinct : (members.map Prod.fst).Nodup) :
    lookup key (members.filterMap fun member => member.2.map fun value => (member.1, value)) =
      present? key members := by
  induction members with
  | nil => rfl
  | cons head rest ih =>
    obtain ⟨other, value⟩ := head
    obtain ⟨fresh, distinct⟩ := List.nodup_cons.mp distinct
    have absent : key = other →
        lookup key (rest.filterMap fun member => member.2.map fun value => (member.1, value)) =
          none := by
      rintro rfl
      exact lookup_eq_none_iff.mpr fun member => fresh ((keys_of_set rest).subset member)
    by_cases same : key = other
    · cases value with
      | none => rw [present?, if_pos same]; exact absent same
      | some value =>
        rw [present?, if_pos same]
        simp only [List.filterMap_cons, Option.map_some, lookup, if_pos same]
    · rw [present?, if_neg same, ← ih distinct]
      cases value with
      | none => rfl
      | some value => simp only [List.filterMap_cons, Option.map_some, lookup, if_neg same]

theorem lookup_presentMembers (key : String) {members : List (String × Option Json)}
    (distinct : (members.map Prod.fst).Nodup) :
    lookup key (presentMembers members) = present? key members := by
  rw [presentMembers, lookup_insertAll, lookup_reverse (distinct.sublist (keys_of_set members)),
    lookup_set key distinct, lookup, Option.or_none]

theorem ofMembers_eq (members : List (String × Json)) :
    ofMembers members = ofPresent (members.map fun member => (member.1, some member.2)) := by
  have kept : (members.map fun member => (member.1, some member.2)).filterMap
      (fun member => member.2.map fun value => (member.1, value)) = members := by
    rw [List.filterMap_map]
    exact List.filterMap_some
  rw [ofPresent, kept]

theorem at?_ofPresent {members : List (String × Option Json)}
    (distinct : (members.map Prod.fst).Nodup) (key : String) (path : List String) :
    (ofPresent members).at? (key :: path) =
      (present? key members).bind fun held => held.at? path := by
  rw [← lookup_presentMembers key distinct]
  rfl

end Json

namespace Shape

theorem bind_eq_ok_iff {ε α β : Type} {first : Except ε α} {second : α → Except ε β} {result : β} :
    first >>= second = .ok result ↔ ∃ value, first = .ok value ∧ second value = .ok result := by
  cases first with
  | error fault => exact iff_of_false nofun fun ⟨_, failed, _⟩ => nomatch failed
  | ok value =>
    constructor
    · intro done
      exact ⟨value, rfl, done⟩
    · rintro ⟨_, ⟨⟩, done⟩
      exact done

theorem intBetween_eq_ok {low high result : Int} {expected : String} {value : Json} :
    intBetween low high expected value = .ok result ↔
      value = .int result ∧ low ≤ result ∧ result ≤ high := by
  constructor
  · intro read
    cases value with
    | int number =>
      rw [intBetween] at read
      split at read
      · next within =>
        cases read
        exact ⟨rfl, within⟩
      · cases read
    | _ => cases read
  · rintro ⟨rfl, within⟩
    rw [intBetween, if_pos within]

theorem natUpTo_int {high value : Nat} (fits : value ≤ high) (expected : String) :
    natUpTo high expected (.int value) = .ok value := by
  have read : intBetween 0 high expected (.int value) = .ok value :=
    intBetween_eq_ok.mpr ⟨rfl, Int.natCast_nonneg value, Int.ofNat_le.mpr fits⟩
  rw [natUpTo, read]
  rfl

theorem text_str (value : String) : text (.str value) = .ok value := rfl

theorem bool_bool (value : Bool) : bool (.bool value) = .ok value := rfl

theorem itemsFrom_all {α : Type} {decode : Decoder α} {property : α → Prop}
    (each : ∀ value result, decode value = .ok result → property result) {position : Nat}
    {items : List Json} {results : List α} (read : itemsFrom decode position items = .ok results) :
    ∀ result ∈ results, property result := by
  induction items generalizing position results with
  | nil =>
    cases read
    exact fun _ member => nomatch member
  | cons item rest ih =>
    rw [itemsFrom] at read
    cases first : decode item with
    | error fault =>
      rw [first] at read
      cases read
    | ok result =>
      rw [first] at read
      cases others : itemsFrom decode (position + 1) rest with
      | error fault =>
        simp only [others, Except.mapError, bind, Except.bind] at read
        cases read
      | ok results =>
        simp only [others, Except.mapError, bind, Except.bind] at read
        cases read
        intro found member
        rcases List.mem_cons.mp member with rfl | later
        · exact each item _ first
        · exact ih others found later

theorem list_all {α : Type} {decode : Decoder α} {property : α → Prop}
    (each : ∀ value result, decode value = .ok result → property result) {value : Json}
    {results : List α} (read : list decode value = .ok results) :
    ∀ result ∈ results, property result := by
  cases value with
  | array items => exact itemsFrom_all each read
  | _ => cases read

@[simp] theorem combine_ok {α β : Type} (f : α → β) (value : α) :
    combine (.ok f) (.ok value) = .ok (f value) := rfl

namespace Fields

variable {α β : Type}

@[simp] theorem fromMembers_map (f : α → β) (fields : Fields α) (get : String → Option Json) :
    (f <$> fields).fromMembers get = combine (.ok f) (fields.fromMembers get) := rfl

@[simp] theorem fromMembers_seq (f : Fields (α → β)) (fields : Fields α)
    (get : String → Option Json) :
    (f <*> fields).fromMembers get = combine (f.fromMembers get) (fields.fromMembers get) := rfl

section Single

variable {key : String} {decode : Decoder α} {held : List (String × Json)} {value : Json}
  {result : α}

theorem fromMembers_required (found : Json.lookup key held = some value)
    (read : decode value = .ok result) :
    (required key decode).fromMembers (fun key => Json.lookup key held) = .ok result := by
  simp only [required, single, found, read]

theorem fromMembers_defaulted {default : α} (found : Json.lookup key held = some value)
    (read : decode value = .ok result) :
    (defaulted key default decode).fromMembers (fun key => Json.lookup key held) = .ok result := by
  simp only [defaulted, single, found, read]

theorem fromMembers_optional {encode : α → Json} {option : Option α}
    (found : Json.lookup key held = option.map encode)
    (read : ∀ result ∈ option, decode (encode result) = .ok result ∧ encode result ≠ .null) :
    (optional key decode).fromMembers (fun key => Json.lookup key held) = .ok option := by
  cases option with
  | none =>
    rw [Option.map_none] at found
    simp only [optional, single, found]
  | some result =>
    obtain ⟨reads, set⟩ := read result rfl
    have shown : nullable decode (encode result) = .ok (some result) := by
      rw [nullable.eq_2 decode _ set, reads]
      rfl
    rw [Option.map_some] at found
    simp only [optional, single, found, shown]

end Single

/-- Whatever is read of the fields has a property. -/
structure Yields (fields : Fields α) (property : α → Prop) : Prop where
  ofMembers : ∀ get value, fields.fromMembers get = .ok value → property value
  ofItems : ∀ position items value next rest,
    fields.fromItems position items = .ok (value, next, rest) → property value

namespace Yields

variable {property : α → Prop} {fields : Fields α}

theorem both {goal : β → Prop} {f : Fields (α → β)}
    (function : f.Yields fun g => ∀ value, property value → goal (g value))
    (argument : fields.Yields property) : (f <*> fields).Yields goal where
  ofMembers get value read := by
    rw [fromMembers_seq] at read
    cases first : f.fromMembers get with
    | error problem =>
      rw [first] at read
      cases second : fields.fromMembers get <;> rw [second] at read <;> cases read
    | ok g =>
      rw [first] at read
      cases second : fields.fromMembers get with
      | error problem =>
        rw [second] at read
        cases read
      | ok found =>
        rw [second] at read
        cases read
        exact function.ofMembers get g first found (argument.ofMembers get found second)
  ofItems position items value next rest read := by
    change (f.fromItems position items >>= fun taken =>
      fields.fromItems taken.2.1 taken.2.2 >>= fun others =>
        return (taken.1 others.1, others.2.1, others.2.2)) = _ at read
    cases first : f.fromItems position items with
    | error fault =>
      rw [first] at read
      cases read
    | ok taken =>
      obtain ⟨g, middle, more⟩ := taken
      rw [first] at read
      change (fields.fromItems middle more >>= fun others =>
        return (g others.1, others.2.1, others.2.2)) = _ at read
      cases second : fields.fromItems middle more with
      | error fault =>
        rw [second] at read
        cases read
      | ok others =>
        obtain ⟨found, final, after⟩ := others
        rw [second] at read
        cases read
        exact function.ofItems position items g middle more first found
          (argument.ofItems middle more found final after second)

theorem map {goal : β → Prop} {g : α → β} (argument : fields.Yields property)
    (holds : ∀ value, property value → goal (g value)) : (g <$> fields).Yields goal :=
  both (f := const g)
    ⟨fun _ _ read => by cases read; exact holds, fun _ _ _ _ _ read => by cases read; exact holds⟩
    argument

theorem single {key : String} {decode : Decoder α} {absentMember : Except Problem α}
    {absentItem : Option α} (each : ∀ value result, decode value = .ok result → property result)
    (member : ∀ result, absentMember = .ok result → property result)
    (item : ∀ result, absentItem = some result → property result) :
    (single key decode absentMember absentItem).Yields property where
  ofMembers get value read := by
    cases found : get key with
    | none =>
      simp only [Fields.single, found] at read
      exact member value read
    | some json =>
      cases shown : decode json with
      | ok result =>
        simp only [Fields.single, found, shown] at read
        cases read
        exact each json value shown
      | error fault =>
        simp only [Fields.single, found, shown] at read
        cases read
  ofItems position items value next rest read := by
    cases items with
    | nil =>
      cases given : absentItem with
      | none =>
        simp only [Fields.single, given] at read
        cases read
      | some result =>
        simp only [Fields.single, given] at read
        cases read
        exact item value given
    | cons json more =>
      cases shown : decode json with
      | ok result =>
        simp only [Fields.single, shown] at read
        cases read
        exact each json value shown
      | error fault =>
        simp only [Fields.single, shown] at read
        cases read

section Kinds

variable {key : String} {decode : Decoder α}

theorem required (each : ∀ value result, decode value = .ok result → property result) :
    (required key decode).Yields property :=
  single each (fun _ read => nomatch read) (fun _ read => nomatch read)

theorem defaulted {default : α}
    (each : ∀ value result, decode value = .ok result → property result)
    (holds : property default) : (defaulted key default decode).Yields property := by
  refine single each ?_ ?_
  · rintro result ⟨⟩
    exact holds
  · rintro result ⟨⟩
    exact holds

theorem optional (each : ∀ value result, decode value = .ok result → property result) :
    (optional key decode).Yields fun option => ∀ result ∈ option, property result := by
  refine single ?_ ?_ ?_
  · intro value option read result member
    by_cases unset : value = .null
    · subst unset
      cases read
      cases member
    · rw [nullable.eq_2 decode value unset] at read
      cases shown : decode value with
      | error fault =>
        rw [shown] at read
        cases read
      | ok found =>
        rw [shown] at read
        cases read
        cases member
        exact each value result shown
  · rintro option ⟨⟩ result member
    cases member
  · rintro option ⟨⟩ result member
    cases member

end Kinds

end Yields

end Fields

theorem record_all {α : Type} {property : α → Prop} {medium : Medium} {title : String}
    {fields : Fields α} (yields : fields.Yields property) {value : Json} {result : α}
    (read : record medium title fields value = .ok result) : property result := by
  cases value with
  | object members =>
    rw [record, recordOfMembers] at read
    cases found : fields.fromMembers fun key => Json.lookup key members with
    | error problem =>
      rw [found] at read
      cases read
    | ok value =>
      rw [found] at read
      cases read
      exact yields.ofMembers _ _ found
  | array items =>
    rw [record, recordOfItems] at read
    split at read
    · next value next found =>
      cases read
      exact yields.ofItems _ _ _ _ _ found
    · next value used item rest found =>
      split at read
      · cases read
      · cases read
        exact yields.ofItems _ _ _ _ _ found
    · cases read
    · cases read
  | _ => cases read

theorem recordOfMembers_ok {α : Type} {fields : Fields α} {get : String → Option Json} {result : α}
    (read : fields.fromMembers get = .ok result) : recordOfMembers fields get = .ok result := by
  rw [recordOfMembers, read]
  rfl

/-- A record is read from the object that was built for it, if its fields are read from what was
set. -/
theorem record_ofPresent {α : Type} {medium : Medium} {title : String}
    {fields : Fields α} {members : List (String × Option Json)} {result : α}
    (distinct : (members.map Prod.fst).Nodup)
    (read : ∀ held, (∀ key, Json.lookup key held = Json.present? key members) →
      fields.fromMembers (fun key => Json.lookup key held) = .ok result) :
    record medium title fields (.ofPresent members) = .ok result :=
  recordOfMembers_ok (read _ fun key => Json.lookup_presentMembers key distinct)

theorem record_ofMembers {α : Type} {medium : Medium} {title : String}
    {fields : Fields α} {members : List (String × Json)} {result : α}
    (distinct : (members.map Prod.fst).Nodup)
    (read : ∀ held, (∀ key, Json.lookup key held = Json.lookup key members) →
      fields.fromMembers (fun key => Json.lookup key held) = .ok result) :
    record medium title fields (.ofMembers members) = .ok result :=
  recordOfMembers_ok (read _ fun key => Json.lookup_ofMembers key distinct)

end Shape
end Switchboard
