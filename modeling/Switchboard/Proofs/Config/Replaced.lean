import Switchboard.Proofs.Config.Precedence

set_option autoImplicit false

/- What the text of a single variable changes. Two environments that differ in the text of one
variable come to dictionaries that hold the same everywhere beside the path of this variable, and at
its end stands what the variable sets. So the key of a session is the text that its variable is read
as, and a variable that is read as anything else makes the configuration unreadable. -/

namespace Switchboard

namespace Layer

open Json (Ordered lookup)

theorem decides_of_held {layer held : Json} {path : List String}
    (found : layer.at? path = some held) : decides layer path = true := by
  cases silent : decides layer path with
  | true => rfl
  | false => cases found.symm.trans (at?_of_silent silent)

/-- Two layers that both hold something at the end of a path, and the same beside it. -/
inductive AgreeBeside : List String → Json → Json → Prop
  | atEnd (value value' : Json) : AgreeBeside [] value value'
  | onWay {key : String} {path : List String} {members members' : List (String × Json)}
      {held held' : Json}
      (same : ∀ other, other ≠ key → lookup other members' = lookup other members)
      (found : lookup key members = some held) (found' : lookup key members' = some held')
      (deeper : AgreeBeside path held held') :
      AgreeBeside (key :: path) (.object members) (.object members')

namespace AgreeBeside

variable {path : List String} {lower lower' upper upper' : Json}

theorem as_upper (agree : AgreeBeside path upper upper') (up : upper.Ordered) (up' : upper'.Ordered)
    (lower : Json) : AgreeBeside path (overlay lower upper) (overlay lower upper') := by
  induction agree generalizing lower with
  | atEnd value value' => exact .atEnd _ _
  | @onWay key path members members' held held' same found found' deeper ih =>
    cases lower with
    | object low =>
      rw [overlay, overlay]
      refine @onWay key path _ _ (laidOver (lookup key low) held) (laidOver (lookup key low) held')
        ?_ ?_ ?_ ?_
      · intro other differs
        rw [lookup_overlayMembers up.1, lookup_overlayMembers up'.1, same other differs]
      · rw [lookup_overlayMembers up.1, found, Option.map_some, Option.some_or]
      · rw [lookup_overlayMembers up'.1, found', Option.map_some, Option.some_or]
      · cases lookup key low with
        | none => exact deeper
        | some value =>
          exact ih (Json.ordered_of_lookup up found) (Json.ordered_of_lookup up' found') value
    | _ => exact .onWay same found found' deeper

/-- Two layers still agree beside a path when the same is laid over both, if that does not decide
about the path. -/
theorem as_lower (agree : AgreeBeside path lower lower') (up : upper.Ordered)
    (silent : decides upper path = false) :
    AgreeBeside path (overlay lower upper) (overlay lower' upper) := by
  induction agree generalizing upper with
  | atEnd value value' => cases silent
  | @onWay key path members members' held held' same found found' deeper ih =>
    cases upper with
    | object high =>
      have shown : ∀ low value, lookup key low = some value →
          lookup key (overlayMembers low high) =
            some (((lookup key high).map (overlay value)).getD value) := by
        intro low value there
        rw [lookup_overlayMembers up.1, there]
        cases lookup key high <;> rfl
      rw [overlay, overlay]
      refine .onWay ?_ (shown _ _ found) (shown _ _ found') ?_
      · intro other differs
        rw [lookup_overlayMembers up.1, lookup_overlayMembers up.1, same other differs]
      · rw [decides] at silent
        cases above : lookup key high with
        | none => exact deeper
        | some value =>
          simp only [above] at silent
          exact ih (Json.ordered_of_lookup up above) silent
    | _ => cases silent

theorem as_lowest {layers : List Json} (agree : AgreeBeside path lower lower')
    (ordered : ∀ layer ∈ layers, layer.Ordered)
    (silent : ∀ layer ∈ layers, decides layer path = false) :
    AgreeBeside path (layers.foldl overlay lower) (layers.foldl overlay lower') := by
  induction layers generalizing lower lower' with
  | nil => exact agree
  | cons layer layers ih =>
    obtain ⟨up, others_up⟩ := List.forall_mem_cons.mp ordered
    obtain ⟨quiet, others_quiet⟩ := List.forall_mem_cons.mp silent
    exact ih (agree.as_lower up quiet) others_up others_quiet

end AgreeBeside

end Layer

namespace Variable

theorem nest_agree (value value' : Json) (path : List String) :
    Layer.AgreeBeside path (nest value path) (nest value' path) := by
  induction path with
  | nil => exact .atEnd _ _
  | cons key path ih =>
    refine .onWay ?_ (if_pos rfl) (if_pos rfl) ih
    intro other differs
    have absent : ∀ held, Json.lookup other [(key, held)] = none := by
      intro held
      rw [Json.lookup, if_neg differs, Json.lookup]
    rw [absent, absent]

theorem at?_nest (value : Json) (path : List String) : (nest value path).at? path = some value := by
  induction path with
  | nil => rfl
  | cons key path ih =>
    rw [nest, Json.at?_cons, Json.lookup, if_pos rfl]
    exact ih

theorem agree_nest {lower held : Json} {path : List String} (found : lower.at? path = some held)
    (value : Json) : Layer.AgreeBeside path lower (Layer.overlay lower (nest value path)) := by
  induction path generalizing lower with
  | nil => exact .atEnd _ _
  | cons key path ih =>
    cases lower with
    | object members =>
      rw [Json.at?_cons] at found
      obtain ⟨inner, there, deeper⟩ := Option.bind_eq_some_iff.mp found
      have single : Json.Ascending [(key, nest value path)] := List.pairwise_singleton _ _
      rw [nest, Layer.overlay]
      refine .onWay ?_ there ?_ (ih deeper)
      · intro other differs
        rw [Layer.lookup_overlayMembers single, Json.lookup, if_neg differs, Json.lookup]
        rfl
      · rw [Layer.lookup_overlayMembers single, Json.lookup, if_pos rfl, there]
        rfl
    | _ => cases found

/-- An environment in which the text of one variable is left open. -/
structure Gap where
  before : List (String × String)
  name : String
  after : List (String × String)

namespace Gap

/-- The environment with a text in the gap. -/
def fill (gap : Gap) (text : String) : List (String × String) :=
  gap.before ++ (gap.name, text) :: gap.after

/-- The variable sets what a path leads to, and no later variable says anything about it. -/
structure Sets (gap : Gap) (path : List String) : Prop where
  named : path? gap.name = some path
  last : ∀ setting ∈ settings gap.after, Layer.decides setting path = false

variable {gap : Gap} {path : List String}

theorem settings_fill (sets : gap.Sets path) (text : String) :
    settings (gap.fill text) =
      settings gap.before ++ nest (value text) path :: settings gap.after := by
  have own : settings ((gap.name, text) :: gap.after) =
      nest (value text) path :: settings gap.after := by
    simp only [settings, List.filterMap_cons, sets.named, Option.map_some]
  rw [fill, ← own]
  exact List.filterMap_append

theorem layer_fill (sets : gap.Sets path) (text : String) :
    layer (gap.fill text) = (settings gap.after).foldl Layer.overlay
      (Layer.overlay (Layer.stack (settings gap.before)) (nest (value text) path)) := by
  rw [layer_eq, settings_fill sets, Layer.stack, List.foldl_append, List.foldl_cons]
  rfl

theorem layer_agree (sets : gap.Sets path) (text text' : String) :
    Layer.AgreeBeside path (layer (gap.fill text)) (layer (gap.fill text')) := by
  have agree := (nest_agree (value text) (value text') path).as_upper
    (ordered_nest (ordered_value text) path) (ordered_nest (ordered_value text') path)
    (Layer.stack (settings gap.before))
  rw [layer_fill sets, layer_fill sets]
  exact agree.as_lowest (ordered_settings gap.after) sets.last

theorem face_layer (sets : gap.Sets path) (text : String) :
    ((layer (gap.fill text)).at? path).map Json.face = some (value text).face := by
  have split : settings (gap.fill text) =
      (settings gap.before ++ [nest (value text) path]) ++ settings gap.after := by
    rw [settings_fill sets, List.append_assoc, List.singleton_append]
  rw [layer_eq, split, Layer.at?_stack_append (ordered_settings gap.after) sets.last,
    Layer.stack_concat, Layer.at?_overlay _ (ordered_nest (ordered_value text) path),
    if_pos (Layer.decides_of_held (at?_nest _ _)), at?_nest, Option.map_some, Option.map_some,
    Layer.face_laidOver]

end Gap

end Variable

def Surroundings.filled (here : Surroundings) (gap : Variable.Gap) (text : String) :
    Surroundings :=
  { here with environment := gap.fill text }

namespace Loader

variable {loader : Loader} {here : Surroundings} {gap : Variable.Gap} {path : List String}

/-- Which files are loaded, and what they say, does not depend on the environment. -/
theorem filesIn_filled (profile : Profile) (names directories : List String) (text : String) :
    filesIn (here.filled gap text) profile names directories =
      filesIn here profile names directories := by
  induction directories with
  | nil => rfl
  | cons directory directories ih =>
    have same : SameFiles here (here.filled gap text) profile names directory :=
      fun _ _ => ⟨rfl, rfl⟩
    rw [filesIn, filesIn, same.filesAmong_eq, ih]

theorem files_filled (loader : Loader) (text : String) :
    loader.files (here.filled gap text) = loader.files here := by
  have searched : loader.directories (here.filled gap text) = loader.directories here := rfl
  unfold files
  cases loader.file with
  | none =>
    dsimp only
    rw [filesIn_filled, searched]
  | some path => rfl

theorem exists_dictionary_of_load {config : Config} (loads : loader.load here = .ok config) :
    ∃ table, loader.dictionary here = .ok table ∧ Config.decode .layered table = .ok config ∧
      config.check = .ok () := by
  cases merged : loader.dictionary here with
  | error fault =>
    rw [load_eq, merged] at loads
    cases loads
  | ok table => exact ⟨table, rfl, (load_eq_ok_iff merged config).mp loads⟩

/-- The dictionaries for two texts in the gap, if there is one for the first. -/
theorem dictionaries_agree (reading : loader.useVariables = true) (sets : gap.Sets path)
    {text : String} {table : Json}
    (merged : loader.dictionary (here.filled gap text) = .ok table) (text' : String) :
    ∃ table', loader.dictionary (here.filled gap text') = .ok table' ∧
      Layer.AgreeBeside path table table' ∧
      (table'.at? path).map Json.face = some (Variable.value text').face := by
  cases found : loader.files here with
  | error fault =>
    rw [dictionary, layers, files_filled, found] at merged
    cases merged
  | ok paths =>
    cases read : paths.mapM (fileLayer here) with
    | error fault =>
      have read' : paths.mapM (fileLayer (here.filled gap text)) = .error fault := read
      rw [dictionary, layers, files_filled, found] at merged
      change Layer.stack <$> (paths.mapM (fileLayer (here.filled gap text)) >>= _) = _ at merged
      rw [read'] at merged
      cases merged
    | ok contents =>
      have shown : ∀ other, loader.dictionary (here.filled gap other) =
          .ok (Layer.overlay (Layer.stack (loader.lowerLayers ++ contents))
            (Variable.layer (gap.fill other))) := by
        intro other
        rw [dictionary_of_files ((files_filled loader other).trans found) read, allLayers,
          upperLayers, if_pos reading]
        exact congrArg Except.ok (Layer.stack_concat _ _)
      have ordered : ∀ other, (Variable.layer (gap.fill other)).Ordered :=
        fun other => (Variable.layer_object _).1
      cases (shown text).symm.trans merged
      refine ⟨_, shown text',
        (Variable.Gap.layer_agree sets text text').as_upper (ordered _) (ordered _) _, ?_⟩
      have face := Variable.Gap.face_layer sets text'
      obtain ⟨held, set, shown⟩ := Option.map_eq_some_iff.mp face
      rw [Layer.at?_overlay _ (ordered text'), if_pos (Layer.decides_of_held set), set,
        Option.map_some, Option.map_some, Layer.face_laidOver, shown]

end Loader

namespace Shape

theorem combine_eq_ok_iff {α β : Type} {function : Except Problem (α → β)}
    {argument : Except Problem α} {result : β} :
    combine function argument = .ok result ↔
      ∃ f value, function = .ok f ∧ argument = .ok value ∧ f value = result := by
  constructor
  · intro combined
    cases function with
    | error problem => cases argument <;> cases combined
    | ok f =>
      cases argument with
      | error problem => cases combined
      | ok value =>
        cases combined
        exact ⟨f, value, rfl, rfl, rfl⟩
  · rintro ⟨f, value, rfl, rfl, rfl⟩
    rfl

namespace Fields

variable {α : Type} {key : String} {decode : Decoder α} {absentMember : Except Problem α}
  {absentItem : Option α} {members members' : List (String × Json)}

theorem single_congr (same : Json.lookup key members' = Json.lookup key members) :
    (single key decode absentMember absentItem).fromMembers (fun key => Json.lookup key members') =
      (single key decode absentMember absentItem).fromMembers
        fun key => Json.lookup key members := by
  simp only [single, same]

theorem single_found {value : Json} (found : Json.lookup key members = some value) :
    (single key decode absentMember absentItem).fromMembers (fun key => Json.lookup key members) =
      ((decode value).mapError (Fault.under key)).mapError (Problem.bad key) := by
  simp only [single, found]
  cases decode value with
  | ok result => rfl
  | error fault => rfl

end Fields

theorem fromMembers_of_record {α : Type} {medium : Medium} {title : String} {fields : Fields α}
    {members : List (String × Json)} {result : α}
    (read : record medium title fields (.object members) = .ok result) :
    fields.fromMembers (fun key => Json.lookup key members) = .ok result := by
  change (fields.fromMembers _).mapError Problem.fault = .ok result at read
  cases shown : fields.fromMembers fun key => Json.lookup key members with
  | ok found =>
    rw [shown] at read
    cases read
    rfl
  | error problem =>
    rw [shown] at read
    cases read

theorem text_congr {value value' : Json} (same : value.face = value'.face) :
    text value = text value' := by
  cases shown : value.face with
  | some seen => rw [Json.eq_of_face shown, Json.eq_of_face (same.symm.trans shown)]
  | none =>
    obtain ⟨members, rfl⟩ := Json.face_eq_none.mp shown
    obtain ⟨members', rfl⟩ := Json.face_eq_none.mp (same.symm.trans shown)
    rfl

end Shape

def SessionSettings.keyPath : List String := ["session", "auth_key"]

def Config.withKey (config : Config) (key : String) : Config :=
  { config with session := { config.session with authKey := key } }

section Decoding

open Layer (AgreeBeside)
open Shape.Fields (defaulted fromMembers_map fromMembers_seq single_congr single_found)

variable {value value' held : Json}

theorem SessionSettings.decode_beside {settings : SessionSettings}
    (agree : AgreeBeside ["auth_key"] value value') (found : value'.at? ["auth_key"] = some held)
    (read : decode .layered value = .ok settings) :
    decode .layered value' = ((Shape.text held).mapError (Shape.Fault.under "auth_key")).map
      fun key => { settings with authKey := key } := by
  cases agree with
  | @onWay _ _ members members' _ _ same _ _ _ =>
    rw [Json.at?_cons] at found
    obtain ⟨_, there, ⟨⟩⟩ := Option.bind_eq_some_iff.mp found
    have four := Shape.fromMembers_of_record read
    simp only [fields, fromMembers_seq, fromMembers_map, defaulted,
      Shape.Fields.optional] at four
    obtain ⟨_, socket, three, sockets, rfl⟩ := Shape.combine_eq_ok_iff.mp four
    obtain ⟨_, cache, two, caches, rfl⟩ := Shape.combine_eq_ok_iff.mp three
    obtain ⟨_, bot, one, bots, rfl⟩ := Shape.combine_eq_ok_iff.mp two
    obtain ⟨_, key, ⟨⟩, _, rfl⟩ := Shape.combine_eq_ok_iff.mp one
    rw [decode, Shape.record, Shape.recordOfMembers]
    simp only [fields, fromMembers_seq, fromMembers_map, defaulted,
      Shape.Fields.optional]
    rw [single_found there, single_congr (same "bot_id" (by decide)), bots,
      single_congr (same "cache_size" (by decide)), caches,
      single_congr (same "enable_websocket" (by decide)), sockets]
    cases Shape.text held with
    | ok key => rfl
    | error fault => rfl

theorem Config.decode_beside {config : Config}
    (agree : AgreeBeside SessionSettings.keyPath value value')
    (found : value'.at? SessionSettings.keyPath = some held)
    (read : decode .layered value = .ok config) :
    decode .layered value' =
      ((((Shape.text held).mapError (Shape.Fault.under "auth_key")).mapError
        (Shape.Fault.under "session")).map config.withKey) := by
  cases agree with
  | @onWay _ _ members members' inner inner' same here there deeper =>
    rw [SessionSettings.keyPath, Json.at?_cons, there, Option.bind_some] at found
    have four := Shape.fromMembers_of_record read
    simp only [fields, fromMembers_seq, fromMembers_map, defaulted] at four
    obtain ⟨_, logging, three, loggings, rfl⟩ := Shape.combine_eq_ok_iff.mp four
    obtain ⟨_, stream, two, streams, rfl⟩ := Shape.combine_eq_ok_iff.mp three
    obtain ⟨_, session, one, sessions, rfl⟩ := Shape.combine_eq_ok_iff.mp two
    obtain ⟨_, connection, ⟨⟩, connections, rfl⟩ := Shape.combine_eq_ok_iff.mp one
    have settings : SessionSettings.decode .layered inner = .ok session := by
      rw [single_found here] at sessions
      cases shown : SessionSettings.decode .layered inner with
      | ok settings =>
        rw [shown] at sessions
        cases sessions
        rfl
      | error fault =>
        rw [shown] at sessions
        cases sessions
    rw [decode, Shape.record, Shape.recordOfMembers]
    simp only [fields, fromMembers_seq, fromMembers_map, defaulted]
    rw [single_congr (same "connection" (by decide)), connections, single_found there,
      SessionSettings.decode_beside deeper found settings,
      single_congr (same "stream" (by decide)), streams,
      single_congr (same "logging" (by decide)), loggings]
    cases Shape.text held with
    | ok key => rfl
    | error fault => rfl

end Decoding

/-- What the variable of the key sets is loaded as the key if it is read as a text, and the
configuration is refused if it is read as anything else. -/
theorem Loader.load_filled {loader : Loader} {here : Surroundings} {gap : Variable.Gap}
    (reading : loader.useVariables = true) (sets : gap.Sets SessionSettings.keyPath)
    {documented : String} {config : Config}
    (loads : loader.load (here.filled gap documented) = .ok config) (text : String) :
    loader.load (here.filled gap text) =
      match Variable.value text with
      | .str key => .ok (config.withKey key)
      | .char key => .ok (config.withKey (String.singleton key))
      | other => .error (.misfit
          ⟨SessionSettings.keyPath, .wrongType (.ofJson other) "a string"⟩) := by
  obtain ⟨table, merged, read, checked⟩ := exists_dictionary_of_load loads
  obtain ⟨table', merged', agree, face⟩ := dictionaries_agree reading sets merged text
  obtain ⟨held, found, shown⟩ := Option.map_eq_some_iff.mp face
  rw [load_eq, merged']
  change ((Config.decode .layered table').mapError ConfigError.misfit >>= fun config =>
    config.check >>= fun _ => .ok config) = _
  rw [Config.decode_beside agree found read, Shape.text_congr shown]
  have valid : ∀ key, ((config.withKey key).check >>= fun _ =>
      .ok (config.withKey key)) = .ok (config.withKey key) := by
    intro key
    rw [show (config.withKey key).check = .ok () from checked]
    rfl
  cases Variable.value text with
  | str key => exact valid key
  | char key => exact valid (String.singleton key)
  | _ => rfl

end Switchboard
