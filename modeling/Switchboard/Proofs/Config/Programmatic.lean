import Switchboard.Proofs.Config.Precedence
import Switchboard.Proofs.Config.Written

set_option autoImplicit false

namespace Switchboard

namespace Loader

variable {loader : Loader} {here : Surroundings} {config : Config}

/-- Nothing but the program says anything: there is no file in the directories that are searched,
and the variables are switched off. -/
structure Alone (loader : Loader) (here : Surroundings) : Prop where
  unnamed : loader.file = none
  noFiles : ∀ directory ∈ loader.directories here,
    here.folder.hasPath (profileFile directory loader.profile) = false ∧
      here.folder.hasPath (mainFile directory) = false
  noVariables : loader.useVariables = false

theorem filesIn_none {profile : Profile} {directories : List String}
    (noFiles : ∀ directory ∈ directories,
      here.folder.hasPath (profileFile directory profile) = false ∧
        here.folder.hasPath (mainFile directory) = false) :
    filesIn here profile mainNames directories = ([], false) := by
  have bare : ∀ directory ∈ directories, ¬ HasFile here profile mainNames directory := by
    rintro directory listed ⟨candidate, among, found⟩
    rw [candidates_mainNames] at among
    cases List.mem_singleton.mp among
    obtain ⟨noProfile, noMain⟩ := noFiles directory listed
    rcases found with there | there
    · exact absurd (there.symm.trans noProfile) nofun
    · exact absurd (there.symm.trans noMain) nofun
  exact filesIn_eq_nil bare

theorem dictionary_of_alone (alone : loader.Alone here) (merges : loader.merges = [config]) :
    loader.dictionary here = .ok config.encode := by
  have none_found : loader.files here = .ok [] := by
    unfold files
    rw [alone.unnamed]
    exact congrArg (fun found => Except.ok found.1) (filesIn_none alone.noFiles)
  have merged : loader.dictionary here = .ok (Layer.stack (loader.allLayers here [])) :=
    dictionary_of_files none_found rfl
  rw [merged, allLayers, lowerLayers, upperLayers, merges, alone.noVariables]
  exact congrArg Except.ok config.stack_encode

/-- A configuration given by the program alone is loaded without what its durations have below
milliseconds, if it can be used then. -/
theorem load_of_alone (alone : loader.Alone here) (merges : loader.merges = [config])
    (typed : config.Typed) (writable : ∀ d ∈ config.durations, d.Writable) :
    loader.load here = config.rounded.check >>= fun _ => .ok config.rounded := by
  rw [load_eq, dictionary_of_alone alone merges]
  change ((Config.decode .layered config.encode).mapError ConfigError.misfit >>= fun config =>
    config.check >>= fun _ => .ok config) = _
  rw [Config.decode_encode .layered typed writable]
  rfl

/-- A configuration given by the program alone is loaded as it is, if it can be used and the texts
of its durations say all of them. -/
theorem loads_as_given (alone : loader.Alone here) (merges : loader.merges = [config])
    (typed : config.Typed) (valid : config.check = .ok ())
    (exact : ∀ d ∈ config.durations, d.Exact) : loader.load here = .ok config := by
  have same := Config.rounded_eq_self fun d listed => (exact d listed).whole
  have loaded := load_of_alone alone merges typed fun d listed => (exact d listed).writable
  rw [loaded, same, valid]
  rfl

/-- A loader for one configuration in a directory without files. -/
def sole (config : Config) : Loader := ⟨.development, [config], ["etc"], false, none⟩

def bare : Surroundings := ⟨⟨[], []⟩, "etc", none, []⟩

theorem bare_hasPath (path : String) : bare.folder.hasPath path = false := by
  have missing : bare.folder.read path = .error .notFound := by
    unfold Folder.read
    cases parts : Path.parts path with
    | nil => exact absurd (List.map_eq_nil_iff.mp parts) (Text.partsBetween_ne_nil _ _)
    | cons part rest => rfl
  rw [Folder.hasPath, missing]
  rfl

theorem sole_alone (config : Config) : (sole config).Alone bare :=
  ⟨rfl, fun _ _ => ⟨bare_hasPath _, bare_hasPath _⟩, rfl⟩

/-- The defaults with another time for an answer. -/
def withTimeout (timeout : Duration) : Config :=
  { Config.default with connection := { Config.default.connection with requestTimeout := timeout } }

theorem withTimeout_typed (timeout : Duration) : (withTimeout timeout).Typed where
  port := show Config.default.connection.port ≤ 65535 by decide
  botId := show FitsInt64 0 from ⟨by decide, by decide⟩
  cacheSize _ set := nomatch set
  maxRetries := show Config.default.stream.retry.maxRetries ≤ 4294967295 by decide
  filters := .nil

theorem withTimeout_check {timeout : Duration} (positive : timeout.nanos ≠ 0) :
    (withTimeout timeout).check = .ok () := by
  have host : ¬ Config.default.connection.hasBlankHost := by decide
  have name : ¬ Text.occursIn "://".toList Config.default.connection.host.toList := by decide
  have port : ¬ Config.default.connection.port = 0 := by decide
  have connection : (withTimeout timeout).connection.check = .ok () :=
    (if_neg host).trans ((if_neg name).trans ((if_neg port).trans (if_neg positive)))
  have retry : (withTimeout timeout).stream.retry.check = .ok () := by
    change Retry.default.check = .ok ()
    unfold Retry.check
    rw [if_neg (by decide +kernel), if_neg (by decide)]
  unfold Config.check
  rw [connection]
  exact Shape.bind_eq_ok_iff.mpr ⟨(), rfl, Shape.bind_eq_ok_iff.mpr ⟨(), retry, rfl⟩⟩

theorem withTimeout_durations {timeout : Duration} {property : Duration → Prop}
    (holds : property timeout) (second : property (.ofSeconds 1))
    (thirty : property (.ofSeconds 30)) :
    ∀ d ∈ (withTimeout timeout).durations, property d :=
  List.forall_mem_cons.mpr ⟨holds, List.forall_mem_cons.mpr
    ⟨second, List.forall_mem_singleton.mpr thirty⟩⟩

/-- A second and a half is kept. -/
theorem uneven_timeout_kept :
    (sole (withTimeout ⟨1500000000⟩)).load bare = .ok (withTimeout ⟨1500000000⟩) := by
  apply loads_as_given (sole_alone _) rfl (withTimeout_typed _) (withTimeout_check (by decide))
  apply withTimeout_durations
  · exact ⟨by decide, by decide⟩
  · exact ⟨by decide, by decide⟩
  · exact ⟨by decide, by decide⟩

/-- Half a millisecond is lost, and a configuration that can be used is refused. -/
theorem short_timeout_lost :
    ¬ ∀ (loader : Loader) (here : Surroundings) (config : Config), loader.Alone here →
      loader.merges = [config] → config.Typed → config.check = .ok () →
      loader.load here = .ok config := by
  intro kept
  have loaded := kept (sole (withTimeout ⟨500000⟩)) bare _ (sole_alone _) rfl
    (withTimeout_typed _) (withTimeout_check (by decide))
  have refused := load_of_alone (sole_alone _) rfl (withTimeout_typed ⟨500000⟩)
    (withTimeout_durations (by decide) (by decide) (by decide))
  rw [loaded] at refused
  cases refused

end Loader

end Switchboard
