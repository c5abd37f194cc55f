import Mathlib.Data.List.Induction
import Switchboard.Config.Layer
import Switchboard.Proofs.Json.Ordered

set_option autoImplicit false

namespace Switchboard.Layer

open Json (Ordered Ascending lookup)

def decides (layer : Json) : List String → Bool
  | [] => true
  | key :: path =>
    match layer with
    | .object members =>
      match lookup key members with
      | some held => decides held path
      | none => false
    | _ => true

/-- The highest of the layers that decide about a path. -/
def highest? (layers : List Json) (path : List String) : Option Json :=
  layers.reverse.find? fun layer => decides layer path

def laidOver : Option Json → Json → Json
  | some lower, upper => overlay lower upper
  | none, upper => upper

/-- What is laid over something is seen from outside as if nothing lay below. -/
theorem face_laidOver (lower : Option Json) (upper : Json) :
    (laidOver lower upper).face = upper.face := by
  cases lower with
  | none => rfl
  | some lower =>
    cases upper with
    | object members => cases lower <;> simp [laidOver, overlay, Json.face]
    | _ => simp [laidOver, overlay]

theorem at?_of_silent {layer : Json} {path : List String} (silent : decides layer path = false) :
    layer.at? path = none := by
  induction path generalizing layer with
  | nil => cases silent
  | cons key path ih =>
    cases layer with
    | object members =>
      rw [Json.at?_cons]
      rw [decides] at silent
      cases found : lookup key members with
      | none => rfl
      | some held =>
        simp only [found] at silent
        exact ih silent
    | _ => rfl

theorem lookup_overlayMembers {upper : List (String × Json)} (ascending : Ascending upper)
    (lower : List (String × Json)) (key : String) :
    lookup key (overlayMembers lower upper) =
      ((lookup key upper).map (laidOver (lookup key lower))).or (lookup key lower) := by
  induction upper generalizing lower with
  | nil => simp [overlayMembers, lookup]
  | cons head rest ih =>
    obtain ⟨other, value⟩ := head
    obtain ⟨above, below⟩ := Json.ascending_cons.mp ascending
    rw [overlayMembers, ih below]
    by_cases same : key = other
    · subst same
      have absent := Json.lookup_eq_none_iff.mpr fun member => String.lt_irrefl _ (above _ member)
      rw [absent, Json.lookup_insertMember_self, lookup, if_pos rfl]
      cases lookup key lower <;> rfl
    · rw [Json.lookup_insertMember_of_ne _ _ same, lookup, if_neg same]

theorem at?_overlay (lower : Json) {upper : Json} (ordered : upper.Ordered) (path : List String) :
    (overlay lower upper).at? path =
      if decides upper path then (upper.at? path).map (laidOver (lower.at? path))
      else lower.at? path := by
  induction path generalizing lower upper with
  | nil => rfl
  | cons key path ih =>
    -- what lies over nothing is itself
    have alone : ∀ value : Json, value.at? path =
        if decides value path then (value.at? path).map (laidOver none) else none := by
      intro value
      cases decided : decides value path with
      | false => exact at?_of_silent decided
      | true => exact Option.map_id'.symm
    cases upper with
    | object members =>
      cases lower with
      | object held =>
        rw [overlay, Json.at?_cons, Json.at?_cons, Json.at?_cons,
          lookup_overlayMembers ordered.1, decides]
        cases found : lookup key members with
        | none => rfl
        | some value =>
          cases below : lookup key held with
          | none => exact alone value
          | some lower => exact ih lower (Json.ordered_of_lookup ordered found)
      | _ =>
        rw [overlay, Json.at?_cons, decides]
        · cases found : lookup key members with
          | none => rfl
          | some value => exact alone value
        · exact nofun
    | _ => rfl

mutual

theorem ordered_overlay (lower upper : Json) (low : lower.Ordered) (up : upper.Ordered) :
    (overlay lower upper).Ordered := by
  cases upper with
  | object members =>
    cases lower with
    | object held => exact ordered_overlayMembers held members low up.2
    | _ => exact up
  | _ => exact up

theorem ordered_overlayMembers (lower upper : List (String × Json))
    (low : Ordered (.object lower)) (up : Json.MembersOrdered upper) :
    Ordered (.object (overlayMembers lower upper)) := by
  cases upper with
  | nil => exact low
  | cons head rest =>
    obtain ⟨key, value⟩ := head
    rw [overlayMembers]
    apply ordered_overlayMembers _ rest _ up.2
    apply Json.ordered_insertMember low
    cases below : lookup key lower with
    | none => exact up.1
    | some held => exact ordered_overlay held value (Json.ordered_of_lookup low below) up.1

end

theorem stack_concat (layers : List Json) (layer : Json) :
    stack (layers ++ [layer]) = overlay (stack layers) layer := List.foldl_append

theorem ordered_stack {layers : List Json} (ordered : ∀ layer ∈ layers, layer.Ordered) :
    (stack layers).Ordered := by
  induction layers using List.reverseRecOn with
  | nil => exact Json.ordered_empty
  | append_singleton layers layer ih =>
    obtain ⟨below, top⟩ := List.forall_mem_append.mp ordered
    rw [stack_concat]
    exact ordered_overlay _ _ (ih below) (List.forall_mem_singleton.mp top)

theorem highest?_concat (layers : List Json) (layer : Json) (path : List String) :
    highest? (layers ++ [layer]) path =
      if decides layer path then some layer else highest? layers path := by
  unfold highest?
  rw [List.reverse_concat, List.find?_cons]
  cases decides layer path <;> rfl

theorem stack_face {layers : List Json} (ordered : ∀ layer ∈ layers, layer.Ordered)
    {path : List String} (inside : path ≠ []) :
    ((stack layers).at? path).map Json.face =
      ((highest? layers path).bind fun layer => layer.at? path).map Json.face := by
  induction layers using List.reverseRecOn with
  | nil =>
    cases path with
    | nil => exact absurd rfl inside
    | cons key path => rfl
  | append_singleton layers layer ih =>
    obtain ⟨below, top⟩ := List.forall_mem_append.mp ordered
    rw [stack_concat, at?_overlay _ (List.forall_mem_singleton.mp top), highest?_concat]
    cases decides layer path with
    | false => exact ih below
    | true =>
      rw [if_pos rfl, if_pos rfl, Option.map_map, Option.bind_some]
      congr 1
      funext value
      exact face_laidOver _ value

theorem at?_stack_append {lower upper : List Json} (ordered : ∀ layer ∈ upper, layer.Ordered)
    {path : List String} (silent : ∀ layer ∈ upper, decides layer path = false) :
    (stack (lower ++ upper)).at? path = (stack lower).at? path := by
  induction upper using List.reverseRecOn with
  | nil => rw [List.append_nil]
  | append_singleton upper layer ih =>
    obtain ⟨ordered_below, ordered_top⟩ := List.forall_mem_append.mp ordered
    obtain ⟨silent_below, silent_top⟩ := List.forall_mem_append.mp silent
    rw [← List.append_assoc, stack_concat, at?_overlay _ (List.forall_mem_singleton.mp ordered_top),
      List.forall_mem_singleton.mp silent_top]
    exact ih ordered_below silent_below

/-- The layer leaves a path to others, or holds a table at its end. -/
def TableAt (path : List String) (layer : Json) : Prop :=
  decides layer path → ∃ members, layer.at? path = some (.object members)

/-- Where something is held, it is what decides about the paths that go on from there. -/
theorem decides_append {layer held : Json} {front : List String}
    (found : layer.at? front = some held) (back : List String) :
    decides layer (front ++ back) = decides held back := by
  induction front generalizing layer with
  | nil =>
    cases found
    rfl
  | cons key front ih =>
    cases layer with
    | object members =>
      rw [Json.at?_cons] at found
      obtain ⟨value, shown, found⟩ := Option.bind_eq_some_iff.mp found
      rw [List.cons_append, decides, shown]
      exact ih found
    | _ => cases found

theorem decides_of_below {layer : Json} {path further : List String}
    (below : decides layer (path ++ further)) : decides layer path := by
  induction path generalizing layer with
  | nil => rfl
  | cons first path ih =>
    cases layer with
    | object members =>
      rw [List.cons_append, decides] at below
      rw [decides]
      cases found : lookup first members with
      | none => simp [found] at below
      | some held =>
        simp only [found] at below
        exact ih below
    | _ => rfl

theorem decides_iff {layer : Json} {path : List String} (table : TableAt path layer)
    (key : String) :
    decides layer (path ++ [key]) ↔ (layer.at? (path ++ [key])).isSome := by
  constructor
  · intro decided
    obtain ⟨members, shown⟩ := table (decides_of_below decided)
    rw [decides_append shown, decides] at decided
    rw [Json.at?_append, shown, Option.bind_some, Json.at?_cons]
    cases found : lookup key members with
    | none => simp [found] at decided
    | some held => rfl
  · intro held
    cases decided : decides layer (path ++ [key]) with
    | true => rfl
    | false =>
      rw [at?_of_silent decided] at held
      cases held

/-- Among tables, the highest layer that decides about a key is the highest one that has it. -/
theorem highest?_held {layers : List Json} {path : List String}
    (tables : ∀ layer ∈ layers, TableAt path layer) (key : String) :
    ((highest? layers (path ++ [key])).bind fun layer => layer.at? (path ++ [key])) =
      layers.reverse.findSome? fun layer => layer.at? (path ++ [key]) := by
  induction layers using List.reverseRecOn with
  | nil => rfl
  | append_singleton layers layer ih =>
    obtain ⟨below, top⟩ := List.forall_mem_append.mp tables
    have table := List.forall_mem_singleton.mp top
    rw [highest?_concat, List.reverse_concat, List.findSome?_cons]
    cases decided : decides layer (path ++ [key]) with
    | false =>
      rw [if_neg Bool.false_ne_true, at?_of_silent decided]
      exact ih below
    | true =>
      obtain ⟨value, held⟩ := Option.isSome_iff_exists.mp ((decides_iff table key).mp decided)
      rw [if_pos rfl, Option.bind_some, held]

/-- Where every layer that decides holds a table, the highest layer that has a key counts. -/
theorem stack_held {layers : List Json} (ordered : ∀ layer ∈ layers, layer.Ordered)
    {path : List String} (tables : ∀ layer ∈ layers, TableAt path layer) (key : String) :
    ((stack layers).at? (path ++ [key])).map Json.face =
      (layers.reverse.findSome? fun layer => layer.at? (path ++ [key])).map Json.face := by
  have inside : path ++ [key] ≠ [] := List.append_ne_nil_of_right_ne_nil _ (List.cons_ne_nil _ _)
  rw [stack_face ordered inside, highest?_held tables key]

/-- Where every layer that decides holds a table, the tables are united: a key is there if some
layer has it. -/
theorem stack_union {layers : List Json} (ordered : ∀ layer ∈ layers, layer.Ordered)
    {path : List String} (tables : ∀ layer ∈ layers, TableAt path layer) (key : String) :
    ((stack layers).at? (path ++ [key])).isSome ↔
      ∃ layer ∈ layers, (layer.at? (path ++ [key])).isSome := by
  have same := congrArg Option.isSome (stack_held ordered tables key)
  rw [Option.isSome_map, Option.isSome_map] at same
  rw [same, List.findSome?_isSome_iff]
  simp only [List.mem_reverse]

/-- Layers that have tables at a path but not this key in them are silent about all that the key
leads to. -/
theorem silent_of_no_key {layer : Json} {path : List String} {key : String}
    (table : TableAt path layer) (none_there : layer.at? (path ++ [key]) = none)
    (further : List String) : decides layer (path ++ key :: further) = false := by
  apply Bool.eq_false_iff.mpr
  intro decided
  have split : path ++ key :: further = (path ++ [key]) ++ further := by
    rw [List.append_assoc, List.singleton_append]
  rw [split] at decided
  have held := (decides_iff table key).mp (decides_of_below decided)
  rw [none_there] at held
  cases held

theorem stack_object {layers : List Json}
    (objects : ∀ layer ∈ layers, ∃ members, layer = .object members) :
    ∃ members, stack layers = .object members := by
  induction layers using List.reverseRecOn with
  | nil => exact ⟨[], rfl⟩
  | append_singleton layers layer ih =>
    obtain ⟨below, top⟩ := List.forall_mem_append.mp objects
    obtain ⟨held, lower⟩ := ih below
    obtain ⟨members, rfl⟩ := List.forall_mem_singleton.mp top
    rw [stack_concat, lower]
    exact ⟨_, rfl⟩

theorem stack_skip {lower : List Json}
    (objects : ∀ layer ∈ lower, ∃ members, layer = .object members) (upper : List Json) :
    stack (lower ++ .object [] :: upper) = stack (lower ++ upper) := by
  have empty_over : overlay (stack lower) (.object []) = stack lower := by
    obtain ⟨members, held⟩ := stack_object objects
    rw [held]
    rfl
  unfold stack at empty_over ⊢
  rw [List.foldl_append, List.foldl_cons, empty_over, List.foldl_append]

/-- A table holds what the layers come to. -/
structure Represents (table : Json) (layers : List Json) : Prop where
  ordered : table.Ordered
  /-- At every path the highest layer that says what is there counts. -/
  highest : ∀ path, path ≠ [] → (table.at? path).map Json.face =
    ((highest? layers path).bind fun layer => layer.at? path).map Json.face
  /-- In tables, that is the highest layer that has the key. -/
  held : ∀ path key, (∀ layer ∈ layers, TableAt path layer) →
    (table.at? (path ++ [key])).map Json.face =
      (layers.reverse.findSome? fun layer => layer.at? (path ++ [key])).map Json.face
  /-- The keys of tables are united. -/
  united : ∀ path, (∀ layer ∈ layers, TableAt path layer) → ∀ key,
    (table.at? (path ++ [key])).isSome ↔ ∃ layer ∈ layers, (layer.at? (path ++ [key])).isSome
  /-- Upper layers that do not have a key leave all that lower layers have there. -/
  siblings : ∀ lower upper path key, layers = lower ++ upper →
    (∀ layer ∈ upper, TableAt path layer ∧ layer.at? (path ++ [key]) = none) →
    ∀ further, table.at? (path ++ key :: further) = (stack lower).at? (path ++ key :: further)

theorem represents_stack {layers : List Json} (ordered : ∀ layer ∈ layers, layer.Ordered) :
    Represents (stack layers) layers where
  ordered := ordered_stack ordered
  highest path inside := stack_face ordered inside
  held path key tables := stack_held ordered tables key
  united path tables := stack_union ordered tables
  siblings lower upper path key split without further := by
    subst split
    apply at?_stack_append (List.forall_mem_append.mp ordered).2
    intro layer listed
    obtain ⟨table, none_there⟩ := without layer listed
    exact silent_of_no_key table none_there further

theorem Represents.unique {table other : Json} {layers : List Json}
    (represents : Represents table layers) (represents' : Represents other layers)
    (object : ∃ members, table = .object members) (object' : ∃ members, other = .object members) :
    table = other := by
  apply Json.eq_of_faces represents.ordered represents'.ordered
  intro path
  cases path with
  | nil =>
    obtain ⟨members, rfl⟩ := object
    obtain ⟨members', rfl⟩ := object'
    rfl
  | cons key path =>
    have inside : key :: path ≠ [] := List.cons_ne_nil _ _
    rw [represents.highest _ inside, represents'.highest _ inside]

theorem Represents.at?_eq {table layer value : Json} {layers : List Json} {path : List String}
    (represents : Represents table layers) (inside : path ≠ [])
    (top : highest? layers path = some layer) (found : layer.at? path = some value)
    (plain : value.face = some value) : table.at? path = some value := by
  have faces := represents.highest path inside
  rw [top, Option.bind_some, found, Option.map_some, plain] at faces
  obtain ⟨held, there, shown⟩ := Option.map_eq_some_iff.mp faces
  rw [there, Json.eq_of_face shown]

/-- The upper layer holds something wherever the lower one does. -/
def Covers (upper lower : Json) : Prop :=
  ∀ path, (lower.at? path).isSome → (upper.at? path).isSome

theorem overlay_of_covers {lower upper : Json} (covers : Covers upper lower)
    (low : lower.Ordered) (up : upper.Ordered) : overlay lower upper = upper := by
  apply Json.eq_of_faces (ordered_overlay lower upper low up) up
  intro path
  rw [at?_overlay lower up]
  cases decided : decides upper path with
  | false =>
    have absent := at?_of_silent decided
    have hidden : lower.at? path = none := by
      apply Option.not_isSome_iff_eq_none.mp
      intro held
      have above := covers path held
      rw [absent] at above
      cases above
    rw [if_neg Bool.false_ne_true, hidden, absent]
  | true =>
    rw [if_pos rfl, Option.map_map]
    congr 1
    funext value
    exact face_laidOver _ value

theorem Covers.overlay {upper lowest : Json} (covers : Covers upper lowest) (up : upper.Ordered)
    (lower : Json) : Covers (overlay lower upper) lowest := by
  intro path held
  have above := covers path held
  rw [at?_overlay lower up]
  cases decided : decides upper path with
  | false =>
    rw [at?_of_silent decided] at above
    cases above
  | true =>
    rw [if_pos rfl, Option.isSome_map]
    exact above

theorem covers_plain {upper lower : Json} (plain : ∀ members, lower ≠ .object members) :
    Covers upper lower := by
  intro path held
  cases path with
  | nil => rfl
  | cons key path =>
    cases lower with
    | object members => exact absurd rfl (plain members)
    | _ => cases held

theorem covers_object {upper lower : List (String × Json)}
    (each : ∀ key held, lookup key lower = some held →
      ∃ value, lookup key upper = some value ∧ Covers value held) :
    Covers (.object upper) (.object lower) := by
  intro path held
  cases path with
  | nil => rfl
  | cons key path =>
    rw [Json.at?_cons] at held ⊢
    cases found : lookup key lower with
    | none =>
      rw [found] at held
      cases held
    | some inner =>
      obtain ⟨value, above, covers⟩ := each key inner found
      rw [found, Option.bind_some] at held
      rw [above, Option.bind_some]
      exact covers path held

theorem overlay_nothing {members : List (String × Json)} (ordered : Ordered (.object members)) :
    overlay (.object []) (.object members) = .object members :=
  overlay_of_covers (covers_object fun _ _ found => nomatch found) Json.ordered_empty ordered

end Switchboard.Layer
