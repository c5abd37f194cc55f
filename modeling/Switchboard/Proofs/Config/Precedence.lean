import Mathlib
import Switchboard.Proofs.Config.Defaults
import Switchboard.Proofs.Config.Search
import Switchboard.Proofs.Config.Variables
import Switchboard.Proofs.Toml.Ordered

set_option autoImplicit false

namespace Switchboard

def LoggingConfig.filtersPath : List String := ["logging", "filters"]

theorem Config.filters_table (config : Config) :
    ∃ members, config.encode.at? LoggingConfig.filtersPath = some (.object members) := by
  rw [LoggingConfig.filtersPath, Config.encode, Json.at?_ofMembers (by simp)]
  change ∃ members, config.logging.encode.at? ["filters"] = some (.object members)
  rw [LoggingConfig.encode, Json.at?_ofPresent (by simp)]
  exact ⟨_, rfl⟩

namespace Loader

variable {loader : Loader} {here : Surroundings} {path : String} {contents : List Json}

theorem fileLayer_object {layer : Json} (read : fileLayer here path = .ok layer) :
    layer.Ordered ∧ ∃ members, layer = .object members := by
  unfold fileLayer at read
  split at read
  · cases read
    exact ⟨Json.ordered_empty, [], rfl⟩
  · split at read
    · next parsed =>
      cases read
      exact Toml.ordered_parse? parsed
    · cases read

theorem fileLayer_missing (missing : here.folder.hasPath path = false) :
    fileLayer here path = .ok (.object []) := by
  unfold Folder.hasPath at missing
  unfold fileLayer
  cases read : here.folder.read path with
  | ok text => simp [read] at missing
  | error fault => rfl

def profileFile (directory : String) (profile : Profile) : String :=
  Path.join directory ("mirai." ++ profile.name ++ ".toml")

def mainFile (directory : String) : String := Path.join directory "mirai.toml"

/-- What the files of a loader say, the lowest first: in its only directory the file of the profile
and the main file, either of which may be missing; or the one file that it was told to load. -/
inductive Reads (loader : Loader) (here : Surroundings) : List Json → Prop
  | directory {directory : String} {profile main : Json} (unnamed : loader.file = none)
      (only : loader.directories here = [directory])
      (low : fileLayer here (profileFile directory loader.profile) = .ok profile)
      (high : fileLayer here (mainFile directory) = .ok main) : Reads loader here [profile, main]
  | file {path : String} {content : Json} (named : loader.file = some path)
      (there : here.folder.hasPath path) (known : Path.extension? path = some "toml")
      (read : fileLayer here path = .ok content) : Reads loader here [content]

theorem Reads.objects (reads : Reads loader here contents) :
    ∀ content ∈ contents, content.Ordered ∧ ∃ members, content = .object members := by
  cases reads with
  | directory unnamed only low high =>
    exact List.forall_mem_cons.mpr
      ⟨fileLayer_object low, List.forall_mem_singleton.mpr (fileLayer_object high)⟩
  | file named there known read => exact List.forall_mem_singleton.mpr (fileLayer_object read)

/-- What the configuration is read from: all layers, laid over each other. -/
def dictionary (loader : Loader) (here : Surroundings) : Except ConfigError Json :=
  Layer.stack <$> loader.layers here

theorem load_eq (loader : Loader) (here : Surroundings) :
    loader.load here = (loader.dictionary here >>= fun table => do
      let config ← (Config.decode .layered table).mapError ConfigError.misfit
      config.check
      return config) := by
  unfold load dictionary
  cases loader.layers here <;> rfl

theorem load_eq_ok_iff {table : Json} (merged : loader.dictionary here = .ok table)
    (config : Config) :
    loader.load here = .ok config ↔
      Config.decode .layered table = .ok config ∧ config.check = .ok () := by
  rw [load_eq, merged]
  change ((Config.decode .layered table).mapError ConfigError.misfit >>= fun config =>
    config.check >>= fun _ => .ok config) = _ ↔ _
  constructor
  · intro loaded
    obtain ⟨found, read, loaded⟩ := Shape.bind_eq_ok_iff.mp loaded
    obtain ⟨_, checked, same⟩ := Shape.bind_eq_ok_iff.mp loaded
    cases same
    refine ⟨?_, checked⟩
    cases shown : Config.decode .layered table with
    | error fault =>
      rw [shown] at read
      cases read
    | ok found =>
      rw [shown] at read
      cases read
      rfl
  · rintro ⟨read, checked⟩
    rw [read]
    exact Shape.bind_eq_ok_iff.mpr ⟨config, rfl, Shape.bind_eq_ok_iff.mpr ⟨(), checked, rfl⟩⟩

def lowerLayers (loader : Loader) : List Json :=
  Config.default.encode :: loader.merges.map Config.encode

/-- The layer above the files, unless it is switched off. -/
def upperLayers (loader : Loader) (here : Surroundings) : List Json :=
  if loader.useVariables then [Variable.layer here.environment] else []

/-- All layers, the lowest first, for what the files say. -/
def allLayers (loader : Loader) (here : Surroundings) (contents : List Json) : List Json :=
  loader.lowerLayers ++ contents ++ loader.upperLayers here

theorem lowerLayers_objects :
    ∀ layer ∈ loader.lowerLayers, layer.Ordered ∧ ∃ members, layer = .object members := by
  unfold lowerLayers
  refine List.forall_mem_cons.mpr ⟨⟨Config.ordered_encode _, _, rfl⟩, fun layer listed => ?_⟩
  obtain ⟨config, _, rfl⟩ := List.mem_map.mp listed
  exact ⟨Config.ordered_encode config, _, rfl⟩

theorem allLayers_objects (reads : Reads loader here contents) :
    ∀ layer ∈ loader.allLayers here contents,
      layer.Ordered ∧ ∃ members, layer = .object members := by
  unfold allLayers
  refine List.forall_mem_append.mpr
    ⟨List.forall_mem_append.mpr ⟨lowerLayers_objects, reads.objects⟩, ?_⟩
  unfold upperLayers
  split
  · exact List.forall_mem_singleton.mpr (Variable.layer_object _)
  · exact fun _ member => nomatch member

theorem dictionary_of_files {paths : List String} (found : loader.files here = .ok paths)
    (read : paths.mapM (fileLayer here) = .ok contents) :
    loader.dictionary here = .ok (Layer.stack (loader.allLayers here contents)) := by
  unfold dictionary layers
  rw [found]
  change Layer.stack <$> (paths.mapM (fileLayer here) >>= _) = _
  rw [read]
  rfl

theorem stack_allLayers_skip {front : List Json}
    (objects : ∀ content ∈ front, ∃ members, content = .object members) (back : List Json) :
    Layer.stack (loader.allLayers here (front ++ .object [] :: back)) =
      Layer.stack (loader.allLayers here (front ++ back)) := by
  have below : ∀ layer ∈ loader.lowerLayers ++ front, ∃ members, layer = .object members :=
    List.forall_mem_append.mpr ⟨fun layer listed => (lowerLayers_objects layer listed).2, objects⟩
  have skipped := Layer.stack_skip below (back ++ loader.upperLayers here)
  simpa only [allLayers, List.append_assoc, List.cons_append] using skipped

theorem read_present {paths : List String} (read : paths.mapM (fileLayer here) = .ok contents)
    {front : List Json} (objects : ∀ content ∈ front, ∃ members, content = .object members) :
    ∃ present, (paths.filter here.folder.hasPath).mapM (fileLayer here) = .ok present ∧
      Layer.stack (loader.allLayers here (front ++ present)) =
        Layer.stack (loader.allLayers here (front ++ contents)) := by
  -- along the paths; `front` is what the files before have said, and an empty table is left out
  -- because there are only tables below it
  induction paths generalizing contents front with
  | nil =>
    cases read
    exact ⟨[], rfl, rfl⟩
  | cons path paths ih =>
    rw [List.mapM_cons] at read
    obtain ⟨content, first, read⟩ := Shape.bind_eq_ok_iff.mp read
    obtain ⟨others, later, same⟩ := Shape.bind_eq_ok_iff.mp read
    cases same
    cases there : here.folder.hasPath path with
    | true =>
      have objects' := List.forall_mem_append.mpr
        ⟨objects, List.forall_mem_singleton.mpr (fileLayer_object first).2⟩
      obtain ⟨present, taken, stacked⟩ := ih later objects'
      refine ⟨content :: present, ?_, ?_⟩
      · rw [List.filter_cons_of_pos there, List.mapM_cons, first, taken]
        rfl
      · simpa only [List.append_assoc, List.singleton_append] using stacked
    | false =>
      cases first.symm.trans (fileLayer_missing there)
      obtain ⟨present, taken, stacked⟩ := ih later objects
      refine ⟨present, ?_, ?_⟩
      · rw [List.filter_cons_of_neg (Bool.not_eq_true _ ▸ there), taken]
      · rw [stack_allLayers_skip objects, stacked]

theorem profileName?_main (profile : Profile) :
    profileName? profile "mirai.toml" = some ("mirai." ++ profile.name ++ ".toml") := by
  have cut : Path.cutEnding? "mirai.toml" = some ("mirai", "toml") := by rfl
  rw [profileName?, cut, Option.map_some]
  dsimp only
  rw [@String.append_assoc ("mirai" ++ "." ++ profile.name)]
  rfl

theorem candidates_mainNames (profile : Profile) (directory : String) :
    candidates profile mainNames directory =
      [⟨profileFile directory profile, mainFile directory⟩] := by
  rw [candidates, mainNames, List.filterMap_cons, profileName?_main]
  rfl

theorem filesIn_single (here : Surroundings) (profile : Profile) (directory : String) :
    (filesIn here profile mainNames [directory]).1 =
      [profileFile directory profile, mainFile directory].filter here.folder.hasPath := by
  rw [filesIn, filesIn, candidates_mainNames, filesAmong, filesAmong]
  simp only [List.filter_cons, List.filter_nil]
  split
  all_goals
    split
    all_goals rfl

theorem dictionary_eq (reads : Reads loader here contents) :
    loader.dictionary here = .ok (Layer.stack (loader.allLayers here contents)) := by
  cases reads with
  | @directory directory profile main unnamed only low high =>
    have both : [profileFile directory loader.profile, mainFile directory].mapM (fileLayer here) =
        .ok [profile, main] := by
      rw [List.mapM_cons, low, List.mapM_cons, high]
      rfl
    have nothing : ∀ content ∈ ([] : List Json), ∃ members, content = .object members :=
      fun _ member => nomatch member
    obtain ⟨present, read, stacked⟩ := @read_present loader _ _ _ both _ nothing
    rw [List.nil_append, List.nil_append] at stacked
    rw [← stacked]
    apply dictionary_of_files _ read
    unfold files
    rw [unnamed, only, filesIn_single]
  | @file path content named there known read =>
    have found : loader.files here = .ok [path] := by
      unfold files
      rw [named]
      dsimp only
      rw [there, known, if_neg (by decide), if_pos rfl]
    apply dictionary_of_files found
    rw [List.mapM_cons, read]
    rfl

/-- Nothing but a file or a variable can put something else in the place of the levels of single
targets. -/
theorem filters_tables (tables : ∀ layer ∈ contents ++ loader.upperLayers here,
      Layer.TableAt LoggingConfig.filtersPath layer) :
    ∀ layer ∈ loader.allLayers here contents, Layer.TableAt LoggingConfig.filtersPath layer := by
  unfold allLayers
  rw [List.append_assoc]
  refine List.forall_mem_append.mpr ⟨?_, tables⟩
  unfold lowerLayers
  refine List.forall_mem_cons.mpr ⟨fun _ => Config.filters_table _, fun layer listed _ => ?_⟩
  obtain ⟨config, _, rfl⟩ := List.mem_map.mp listed
  exact config.filters_table

/-- A dictionary holds the settings of all layers, and nothing else makes the configuration. -/
structure Merges (loader : Loader) (here : Surroundings) (contents : List Json) (table : Json) :
    Prop where
  layers : Layer.Represents table (loader.allLayers here contents)
  /-- The configurations given by the program may be united first. -/
  program : Layer.stack loader.lowerLayers =
    Layer.overlay Config.default.encode (Layer.stack (loader.merges.map Config.encode))
  /-- No other dictionary holds these settings. -/
  only : ∀ other, Layer.Represents other (loader.allLayers here contents) →
    (∃ members, other = .object members) → other = table
  /-- A target has a level if any layer gives it one. -/
  filters : (∀ layer ∈ contents ++ loader.upperLayers here,
      Layer.TableAt LoggingConfig.filtersPath layer) →
    ∀ target, (table.at? (LoggingConfig.filtersPath ++ [target])).isSome ↔
      ∃ layer ∈ loader.allLayers here contents,
        (layer.at? (LoggingConfig.filtersPath ++ [target])).isSome
  /-- The layer of the environment holds what its variables set. -/
  environment : Layer.Represents (Variable.layer here.environment)
    (Variable.settings here.environment)
  /-- A variable sets what the keys in its name lead to. -/
  names : ∀ keys text, keys ≠ [] → (∀ key ∈ keys, Variable.PlainKey key) →
    Variable.settings [(Variable.nameOf keys, text)] =
      [Variable.nest (Variable.value text) (keys.map Variable.lowerKey)]
  /-- The configuration is what the dictionary says, if it can be used. -/
  loads : ∀ config, loader.load here = .ok config ↔
    Config.decode .layered table = .ok config ∧ config.check = .ok ()

/-- Of the defaults, the configurations given by the program, the file of the profile and the main
file, or the one file asked for, and the variables, the highest that says something about a setting
counts. -/
theorem highest_setting_counts (reads : loader.Reads here contents) :
    ∃ table, loader.dictionary here = .ok table ∧ loader.Merges here contents table := by
  have objects := allLayers_objects reads
  have merged := dictionary_eq reads
  have represents := Layer.represents_stack fun layer listed => (objects layer listed).1
  have united := (Config.stack_united loader.merges).symm
  refine ⟨_, merged, represents, united, ?_, ?_, ?_, ?_, load_eq_ok_iff merged⟩
  · intro other represents' object
    exact represents'.unique represents object
      (Layer.stack_object fun layer listed => (objects layer listed).2)
  · intro tables
    exact represents.united _ (filters_tables tables)
  · exact Layer.represents_stack (Variable.ordered_settings here.environment)
  · intro keys text nonempty plain
    exact Variable.settings_nameOf nonempty plain text

/-- A directory with a main file and the file of a profile, and a variable. -/
def stagedSurroundings : Surroundings where
  folder := {
    files := [
      (["etc", "mirai.production.toml"], "[connection]\nport = 8081\nhost = \"bot\"\n"),
      (["etc", "mirai.toml"], "[connection]\nport = 9000\n")]
    directories := [] }
  currentDir := "etc"
  userConfigDir := none
  environment := [("MIRAI_LOGGING__LEVEL", "debug")]

def stagedLoader : Loader := ⟨.production, [], [], true, none⟩

/-- The main file counts where it says something, the file of the profile where only that one does,
and the variable above both. -/
theorem staged_settings_count : ∃ table, stagedLoader.dictionary stagedSurroundings = .ok table ∧
    table.at? ["connection", "port"] = some (.int 9000) ∧
    table.at? ["connection", "host"] = some (.str "bot") ∧
    table.at? ["logging", "level"] = some (.str "debug") := by
  have low : fileLayer stagedSurroundings (profileFile "etc" .production) =
      .ok (.object [("connection", .object [("host", .str "bot"), ("port", .int 8081)])]) := by
    have read : stagedSurroundings.folder.read (profileFile "etc" .production) =
        .ok "[connection]\nport = 8081\nhost = \"bot\"\n" := by rfl
    unfold fileLayer
    rw [read]
    cbv
  have high : fileLayer stagedSurroundings (mainFile "etc") =
      .ok (.object [("connection", .object [("port", .int 9000)])]) := by
    have read : stagedSurroundings.folder.read (mainFile "etc") =
        .ok "[connection]\nport = 9000\n" := by rfl
    unfold fileLayer
    rw [read]
    cbv
  obtain ⟨table, merged, merges⟩ := highest_setting_counts
    (@Reads.directory stagedLoader stagedSurroundings "etc" _ _ rfl rfl low high)
  have plain : ∀ key ∈ ["LOGGING", "LEVEL"], Variable.PlainKey key := by
    rw [List.forall_mem_cons, List.forall_mem_singleton]
    constructor
    · exact ⟨by decide, by decide, by decide, by decide +kernel, by decide⟩
    · exact ⟨by decide, by decide, by decide, by decide +kernel, by decide⟩
  have set : Variable.settings stagedSurroundings.environment =
      [Variable.nest (.str "debug") ["logging", "level"]] := by
    have text : Variable.value "debug" = .str "debug" := by cbv
    rw [← text]
    exact merges.names ["LOGGING", "LEVEL"] "debug" (List.cons_ne_nil _ _) plain
  have represents := merges.layers
  change Layer.Represents table (_ :: _ :: _ :: [Variable.layer _]) at represents
  rw [Variable.layer_eq, set] at represents
  refine ⟨table, merged, ?_, ?_, ?_⟩
  · exact represents.at?_eq (by decide) rfl rfl rfl
  · exact represents.at?_eq (by decide) rfl rfl rfl
  · exact represents.at?_eq (by decide) rfl rfl rfl

end Loader
end Switchboard
