import Switchboard.Config.Variable
import Switchboard.Proofs.Config.Layers

set_option autoImplicit false

namespace Switchboard.Variable

theorem ordered_word (text : List Char) : (word text).Ordered := by
  unfold word
  dsimp only
  split
  · trivial
  · split
    · trivial
    · trivial

/-- What the readers of values, lists and tables return is ordered. The fuel goes down from each of
them to the next. -/
structure ReadsOrdered (fuel : Nat) : Prop where
  value : ∀ text value after, takeValue fuel text = some (value, after) → value.Ordered
  items : ∀ text items after, takeItems fuel text = some (items, after) → Json.AllOrdered items
  members : ∀ text members after, takeMembers fuel text = some (members, after) →
    ∀ member ∈ members, member.2.Ordered

theorem ReadsOrdered.value_succ {fuel : Nat} (reads : ReadsOrdered fuel) (text : List Char)
    (value : Json) (after : List Char) (taken : takeValue (fuel + 1) text = some (value, after)) :
    value.Ordered := by
  rw [takeValue.eq_def] at taken
  dsimp only at taken
  split at taken
  all_goals
    obtain ⟨⟨found, _⟩, once, taken⟩ := Option.bind_eq_some_iff.mp taken
    cases taken
  · cases once
    trivial
  · cases once
    trivial
  · -- a table
    obtain ⟨⟨members, _⟩, read, same⟩ := Option.map_eq_some_iff.mp once
    cases same
    exact Json.ordered_ofMembers (reads.members _ members _ read)
  · -- a list
    obtain ⟨⟨items, _⟩, read, same⟩ := Option.map_eq_some_iff.mp once
    cases same
    exact reads.items _ items _ read
  · obtain ⟨_, _, same⟩ := Option.map_eq_some_iff.mp once
    cases same
    trivial
  · cases once
    trivial
  · cases once
  · cases once
    exact ordered_word _

theorem ReadsOrdered.items_succ {fuel : Nat} (reads : ReadsOrdered fuel) (text : List Char)
    (items : List Json) (after : List Char)
    (taken : takeItems (fuel + 1) text = some (items, after)) : Json.AllOrdered items := by
  rw [takeItems.eq_def] at taken
  dsimp only at taken
  split at taken
  · cases taken
    trivial
  · obtain ⟨⟨first, _⟩, once, taken⟩ := Option.bind_eq_some_iff.mp taken
    have fits := reads.value _ first _ once
    dsimp only at taken
    split at taken
    · cases taken
      exact ⟨fits, trivial⟩
    · obtain ⟨⟨others, _⟩, later, taken⟩ := Option.bind_eq_some_iff.mp taken
      cases taken
      exact ⟨fits, reads.items _ others _ later⟩
    · cases taken

theorem ReadsOrdered.members_succ {fuel : Nat} (reads : ReadsOrdered fuel) (text : List Char)
    (members : List (String × Json)) (after : List Char)
    (taken : takeMembers (fuel + 1) text = some (members, after)) :
    ∀ member ∈ members, member.2.Ordered := by
  rw [takeMembers.eq_def] at taken
  dsimp only at taken
  split at taken
  · cases taken
    exact fun _ member => nomatch member
  · obtain ⟨⟨key, _⟩, _, taken⟩ := Option.bind_eq_some_iff.mp taken
    obtain ⟨_, _, taken⟩ := Option.bind_eq_some_iff.mp taken
    obtain ⟨⟨value, _⟩, once, taken⟩ := Option.bind_eq_some_iff.mp taken
    have fits := reads.value _ value _ once
    dsimp only at taken
    split at taken
    · cases taken
      exact List.forall_mem_singleton.mpr fits
    · obtain ⟨⟨others, _⟩, later, taken⟩ := Option.bind_eq_some_iff.mp taken
      cases taken
      exact List.forall_mem_cons.mpr ⟨fits, reads.members _ others _ later⟩
    · cases taken

theorem reads_ordered (fuel : Nat) : ReadsOrdered fuel := by
  induction fuel with
  | zero =>
    refine ⟨?_, ?_, ?_⟩
    · intro text value after taken
      cases taken
    · intro text items after taken
      cases taken
    · intro text members after taken
      cases taken
  | succ fuel ih => exact ⟨ih.value_succ, ih.items_succ, ih.members_succ⟩

theorem ordered_value (text : String) : (value text).Ordered := by
  unfold value
  dsimp only
  split
  · next read => exact (reads_ordered _).value _ _ _ read
  · trivial

theorem ordered_nest {value : Json} (ordered : value.Ordered) (path : List String) :
    (nest value path).Ordered := by
  induction path with
  | nil => exact ordered
  | cons key path ih => exact ⟨List.pairwise_singleton _ _, ih, trivial⟩

def settings (environment : List (String × String)) : List Json :=
  environment.filterMap fun (name, text) => (path? name).map (nest (value text))

theorem layer_eq (environment : List (String × String)) :
    layer environment = Layer.stack (settings environment) := rfl

theorem ordered_settings (environment : List (String × String)) :
    ∀ setting ∈ settings environment, setting.Ordered := by
  intro setting listed
  obtain ⟨⟨name, text⟩, _, set⟩ := List.mem_filterMap.mp listed
  obtain ⟨path, _, rfl⟩ := Option.map_eq_some_iff.mp set
  exact ordered_nest (ordered_value text) path

theorem path?_ne_nil {name : String} {path : List String} (found : path? name = some path) :
    path ≠ [] := by
  unfold path? at found
  split at found
  · cases found
  · dsimp only at found
    split at found
    · cases found
    · cases found
      intro empty
      exact Text.partsBetween_ne_nil _ _ (List.map_eq_nil_iff.mp empty)

theorem settings_objects (environment : List (String × String)) :
    ∀ setting ∈ settings environment, ∃ members, setting = .object members := by
  intro setting listed
  obtain ⟨⟨name, text⟩, _, set⟩ := List.mem_filterMap.mp listed
  obtain ⟨path, found, rfl⟩ := Option.map_eq_some_iff.mp set
  cases path with
  | nil => exact absurd rfl (path?_ne_nil found)
  | cons key path => exact ⟨_, rfl⟩

theorem layer_object (environment : List (String × String)) :
    (layer environment).Ordered ∧ ∃ members, layer environment = .object members :=
  ⟨Layer.ordered_stack (ordered_settings environment),
    Layer.stack_object (settings_objects environment)⟩

/-- A key that stands in the name of a variable as it is: it has no dot and no white space, no two
underscores in a row, and no underscore at its end. -/
structure PlainKey (key : String) : Prop where
  nonempty : key.toList ≠ []
  noDot : '.' ∉ key.toList
  noBlank : key.toList.any Text.isBlank = false
  noPair : ¬ ['_', '_'] <:+: key.toList
  closed : key.toList.getLast? ≠ some '_'

def nameOf (keys : List String) : String := "MIRAI_" ++ "__".intercalate keys

/-- A key in small letters. -/
def lowerKey (key : String) : String := String.ofList (key.toList.map Char.toLower)

theorem dotted_cons {c : Char} {rest : List Char}
    (single : ∀ more, c = '_' → rest ≠ '_' :: more) : dotted (c :: rest) = c :: dotted rest := by
  rw [dotted]
  intro more underscore again
  exact single more underscore again

/-- A key with single underscores stays as it is, and the two behind it become a point. -/
theorem dotted_append {key : List Char} (noPair : ¬ ['_', '_'] <:+: key)
    (closed : key.getLast? ≠ some '_') (rest : List Char) :
    dotted (key ++ '_' :: '_' :: rest) = key ++ '.' :: dotted rest := by
  induction key with
  | nil => rw [List.nil_append, dotted, List.nil_append]
  | cons c key ih =>
    have later : ¬ ['_', '_'] <:+: key := fun pair => noPair (List.infix_cons pair)
    rw [List.cons_append, dotted_cons]
    · cases key with
      | nil => rw [List.nil_append, dotted, List.cons_append, List.nil_append]
      | cons next key =>
        rw [List.getLast?_cons_cons] at closed
        rw [ih later closed, List.cons_append, List.cons_append, List.cons_append]
    · rintro more rfl pair
      cases key with
      | nil => exact closed rfl
      | cons next key =>
        rw [List.cons_append] at pair
        cases pair
        exact noPair (List.IsPrefix.isInfix ⟨key, rfl⟩)

theorem dotted_of_noPair {key : List Char} (noPair : ¬ ['_', '_'] <:+: key) :
    dotted key = key := by
  induction key with
  | nil => rfl
  | cons c key ih =>
    rw [dotted_cons, ih fun pair => noPair (List.infix_cons pair)]
    rintro more rfl rfl
    exact noPair (List.IsPrefix.isInfix ⟨more, rfl⟩)

section Names

variable {keys : List String}

theorem dotted_intercalate (plain : ∀ key ∈ keys, PlainKey key) :
    dotted (['_', '_'].intercalate (keys.map String.toList)) =
      ['.'].intercalate (keys.map String.toList) := by
  induction keys with
  | nil => rfl
  | cons key keys ih =>
    obtain ⟨first, others⟩ := List.forall_mem_cons.mp plain
    cases keys with
    | nil =>
      rw [List.map_singleton, List.intercalate_singleton, List.intercalate_singleton]
      exact dotted_of_noPair first.noPair
    | cons next keys =>
      rw [List.map_cons, List.map_cons, List.intercalate_cons_cons, List.intercalate_cons_cons]
      rw [List.append_assoc, List.append_assoc]
      exact (dotted_append first.noPair first.closed _).trans (congrArg _ (congrArg _ (ih others)))

theorem partsBetween_intercalate (nonempty : keys ≠ []) (plain : ∀ key ∈ keys, PlainKey key) :
    Text.partsBetween '.' (['.'].intercalate (keys.map String.toList)) =
      keys.map String.toList := by
  induction keys with
  | nil => exact absurd rfl nonempty
  | cons key keys ih =>
    obtain ⟨first, others⟩ := List.forall_mem_cons.mp plain
    cases keys with
    | nil =>
      rw [List.map_singleton, List.intercalate_singleton]
      exact Text.partsBetween_of_not_mem first.noDot
    | cons next keys =>
      rw [List.map_cons, List.map_cons, List.intercalate_cons_cons, List.append_assoc]
      have later := ih (List.cons_ne_nil _ _) others
      exact (Text.partsBetween_append first.noDot _).trans (congrArg _ later)

/-- Keys have no white space, and so what is made of them has none either. -/
theorem noBlank_intercalate (plain : ∀ key ∈ keys, PlainKey key) {separator : List Char}
    (visible : separator.any Text.isBlank = false) :
    (separator.intercalate (keys.map String.toList)).any Text.isBlank = false := by
  induction keys with
  | nil => rfl
  | cons key keys ih =>
    obtain ⟨first, others⟩ := List.forall_mem_cons.mp plain
    cases keys with
    | nil =>
      rw [List.map_singleton, List.intercalate_singleton]
      exact first.noBlank
    | cons next keys =>
      rw [List.map_cons, List.map_cons, List.intercalate_cons_cons, List.any_append,
        List.any_append, first.noBlank, visible]
      exact ih others

theorem path?_nameOf (nonempty : keys ≠ []) (plain : ∀ key ∈ keys, PlainKey key) :
    path? (nameOf keys) = some (keys.map lowerKey) := by
  have prefix_visible : "MIRAI_".toList.any Text.isBlank = false := by decide
  have underscores_visible : "__".toList.any Text.isBlank = false := by decide
  have point_visible : ['.'].any Text.isBlank = false := by decide
  have chars : (nameOf keys).toList =
      "MIRAI_".toList ++ "__".toList.intercalate (keys.map String.toList) := by
    rw [nameOf, String.toList_append, String.toList_intercalate]
  have trimmed : Text.trimChars (nameOf keys).toList = (nameOf keys).toList := by
    apply Text.trimChars_of_noBlank
    rw [chars]
    rw [List.any_append, prefix_visible, noBlank_intercalate plain underscores_visible]
    rfl
  have stripped : withoutPrefix? (nameOf keys).toList =
      some ("__".toList.intercalate (keys.map String.toList)) := by
    rw [chars]
    rfl
  have parts : Text.partsBetween '.' (Text.trimChars (dotted
      ("__".toList.intercalate (keys.map String.toList)))) = keys.map String.toList := by
    rw [show "__".toList = ['_', '_'] from rfl, dotted_intercalate plain,
      Text.trimChars_of_noBlank (noBlank_intercalate plain point_visible),
      partsBetween_intercalate nonempty plain]
  have full : (keys.map String.toList).any List.isEmpty = false := by
    apply List.any_eq_false.mpr
    intro part listed
    obtain ⟨key, member, rfl⟩ := List.mem_map.mp listed
    rw [List.isEmpty_iff]
    exact (plain key member).nonempty
  rw [path?, trimmed, stripped]
  dsimp only
  rw [parts, full, if_neg Bool.false_ne_true, List.map_map]
  rfl

theorem settings_nameOf (nonempty : keys ≠ []) (plain : ∀ key ∈ keys, PlainKey key)
    (text : String) :
    settings [(nameOf keys, text)] = [nest (value text) (keys.map lowerKey)] := by
  have set : (path? (nameOf keys)).map (nest (value text)) =
      some (nest (value text) (keys.map lowerKey)) := by
    rw [path?_nameOf nonempty plain]
    rfl
  exact List.filterMap_cons_some set

end Names

end Switchboard.Variable
