import Switchboard.Config.Load

set_option autoImplicit false

namespace Switchboard.Loader

variable {here there : Surroundings} {profile : Profile} {names : List String}
  {directory : String} {front back directories : List String}

def profileFiles (here : Surroundings) (candidates : List Candidate) : List String :=
  (candidates.map Candidate.profileFile).filter here.folder.hasPath

theorem profileFiles_cons (here : Surroundings) (candidate : Candidate) (rest : List Candidate) :
    profileFiles here (candidate :: rest) =
      (if here.folder.hasPath candidate.profileFile then [candidate.profileFile] else []) ++
        profileFiles here rest := by
  rw [profileFiles, List.map_cons, List.filter_cons]
  split
  · rfl
  · rfl

theorem filesAmong_incomplete {candidates : List Candidate}
    (missing : ∀ candidate ∈ candidates, here.folder.hasPath candidate.mainFile = false) :
    filesAmong here candidates = (profileFiles here candidates, false) := by
  induction candidates with
  | nil => rfl
  | cons candidate rest ih =>
    obtain ⟨first, others⟩ := List.forall_mem_cons.mp missing
    rw [filesAmong, first, ih others, profileFiles_cons]
    rfl

theorem filesAmong_complete {before after : List Candidate} {candidate : Candidate}
    (missing : ∀ other ∈ before, here.folder.hasPath other.mainFile = false)
    (main : here.folder.hasPath candidate.mainFile = true) :
    filesAmong here (before ++ candidate :: after) =
      (profileFiles here (before ++ [candidate]) ++ [candidate.mainFile], true) := by
  induction before with
  | nil =>
    rw [List.nil_append, List.nil_append, filesAmong, main, profileFiles_cons]
    rw [profileFiles, List.map_nil, List.filter_nil, List.append_nil]
    rfl
  | cons other before ih =>
    obtain ⟨first, others⟩ := List.forall_mem_cons.mp missing
    rw [List.cons_append, List.cons_append, filesAmong, first, ih others, profileFiles_cons]
    rw [List.append_assoc]
    rfl

/-- A directory has a file for one of the names. -/
def HasFile (here : Surroundings) (profile : Profile) (names : List String)
    (directory : String) : Prop :=
  ∃ candidate ∈ candidates profile names directory,
    here.folder.hasPath candidate.profileFile = true ∨ here.folder.hasPath candidate.mainFile = true

/-- A directory has a main file for one of the names. -/
def HasMain (here : Surroundings) (profile : Profile) (names : List String)
    (directory : String) : Prop :=
  ∃ candidate ∈ candidates profile names directory, here.folder.hasPath candidate.mainFile = true

instance : DecidablePred (HasFile here profile names) := fun directory =>
  inferInstanceAs (Decidable (∃ candidate ∈ candidates profile names directory, _ ∨ _))

instance : DecidablePred (HasMain here profile names) := fun directory =>
  inferInstanceAs (Decidable (∃ candidate ∈ candidates profile names directory, _))

theorem HasMain.hasFile (complete : HasMain here profile names directory) :
    HasFile here profile names directory := by
  obtain ⟨candidate, listed, main⟩ := complete
  exact ⟨candidate, listed, .inr main⟩

theorem filesAmong_of_not_hasMain (incomplete : ¬ HasMain here profile names directory) :
    filesAmong here (candidates profile names directory) =
      (profileFiles here (candidates profile names directory), false) := by
  apply filesAmong_incomplete
  intro candidate listed
  rw [← Bool.not_eq_true]
  exact fun main => incomplete ⟨candidate, listed, main⟩

theorem filesAmong_of_not_hasFile (bare : ¬ HasFile here profile names directory) :
    filesAmong here (candidates profile names directory) = ([], false) := by
  have nothing : profileFiles here (candidates profile names directory) = [] := by
    rw [profileFiles, List.filter_eq_nil_iff]
    intro path among found
    obtain ⟨candidate, listed, rfl⟩ := List.mem_map.mp among
    exact bare ⟨candidate, listed, .inl found⟩
  rw [filesAmong_of_not_hasMain fun complete => bare complete.hasFile, nothing]

/-- Files of a directory, from the lowest to the highest: those of the profile up to the name of the
first main file, and this one above them. -/
def MainOnTop (here : Surroundings) (listed : List Candidate) (files : List String) : Prop :=
  ∃ before candidate after, listed = before ++ candidate :: after ∧
    (∀ other ∈ before, here.folder.hasPath other.mainFile = false) ∧
    here.folder.hasPath candidate.mainFile = true ∧
    files = profileFiles here (before ++ [candidate]) ++ [candidate.mainFile]

theorem filesAmong_of_hasMain (complete : HasMain here profile names directory) :
    ∃ files, filesAmong here (candidates profile names directory) = (files, true) ∧
      MainOnTop here (candidates profile names directory) files := by
  obtain ⟨candidate, first⟩ := Option.isSome_iff_exists.mp (List.find?_isSome.mpr complete)
  obtain ⟨main, before, after, listed, missing⟩ := List.find?_eq_some_iff_append.mp first
  have missing' : ∀ other ∈ before, here.folder.hasPath other.mainFile = false := by
    intro other earlier
    exact Bool.not_eq_true' _ ▸ missing other earlier
  rw [listed, filesAmong_complete missing' main]
  exact ⟨_, rfl, before, candidate, after, rfl, missing', main, rfl⟩

theorem mem_filesAmong {candidates : List Candidate} {path : String}
    (found : path ∈ (filesAmong here candidates).1) :
    ∃ candidate ∈ candidates, path = candidate.profileFile ∨ path = candidate.mainFile := by
  induction candidates with
  | nil => cases found
  | cons candidate rest ih =>
    have own : ∀ more, path ∈ (if here.folder.hasPath candidate.profileFile then
        [candidate.profileFile] else []) ++ more → path = candidate.profileFile ∨ path ∈ more := by
      intro more among
      refine (List.mem_append.mp among).imp_left fun listed => ?_
      split at listed
      · exact List.mem_singleton.mp listed
      · cases listed
    rw [filesAmong] at found
    dsimp only at found
    split at found
    · refine ⟨candidate, List.mem_cons_self, (own _ found).imp_right List.mem_singleton.mp⟩
    · rcases own _ found with profile | later
      · exact ⟨candidate, List.mem_cons_self, .inl profile⟩
      · obtain ⟨other, listed, same⟩ := ih later
        exact ⟨other, List.mem_cons_of_mem _ listed, same⟩

theorem filesIn_bare (bare : ∀ earlier ∈ front, ¬ HasFile here profile names earlier) :
    filesIn here profile names (front ++ back) = filesIn here profile names back := by
  induction front with
  | nil => rfl
  | cons directory front ih =>
    obtain ⟨first, others⟩ := List.forall_mem_cons.mp bare
    rw [List.cons_append, filesIn, filesAmong_of_not_hasFile first, ih others]
    rfl

theorem filesIn_eq_nil (bare : ∀ directory ∈ directories, ¬ HasFile here profile names directory) :
    filesIn here profile names directories = ([], false) := by
  have passed := @filesIn_bare here profile names directories [] bare
  rwa [List.append_nil] at passed

theorem filesIn_complete (complete : HasMain here profile names directory) (back : List String) :
    filesIn here profile names (directory :: back) =
      filesAmong here (candidates profile names directory) := by
  obtain ⟨files, found, -⟩ := filesAmong_of_hasMain complete
  rw [filesIn, found]
  rfl

theorem filesIn_incomplete (incomplete : ¬ HasMain here profile names directory)
    (back : List String) :
    filesIn here profile names (directory :: back) =
      (profileFiles here (candidates profile names directory) ++
        (filesIn here profile names back).1, (filesIn here profile names back).2) := by
  rw [filesIn, filesAmong_of_not_hasMain incomplete]
  rfl

/-- What the files say that are found, the lowest first. -/
def contents (here : Surroundings) (profile : Profile) (names directories : List String) :
    Except ConfigError (List Json) :=
  (filesIn here profile names directories).1.mapM (fileLayer here)

/-- The same files lie in a directory, with the same texts. -/
def SameFiles (here there : Surroundings) (profile : Profile) (names : List String)
    (directory : String) : Prop :=
  ∀ candidate ∈ candidates profile names directory,
    there.folder.read candidate.profileFile = here.folder.read candidate.profileFile ∧
    there.folder.read candidate.mainFile = here.folder.read candidate.mainFile

theorem hasPath_congr {path : String}
    (same : there.folder.read path = here.folder.read path) :
    there.folder.hasPath path = here.folder.hasPath path := by
  rw [Folder.hasPath, same]
  rfl

theorem fileLayer_congr {path : String} (same : there.folder.read path = here.folder.read path) :
    fileLayer there path = fileLayer here path := by
  rw [fileLayer, same]
  rfl

theorem fileLayer_of_parse {path text : String} {layer : Json}
    (read : here.folder.read path = .ok text) (parsed : Toml.parse? text = some layer) :
    fileLayer here path = .ok layer := by
  rw [fileLayer, read]
  dsimp only
  rw [parsed]

namespace SameFiles

variable (same : SameFiles here there profile names directory)
include same

theorem hasFile : HasFile there profile names directory ↔ HasFile here profile names directory := by
  refine exists_congr fun candidate => and_congr_right fun listed => ?_
  rw [hasPath_congr (same candidate listed).1, hasPath_congr (same candidate listed).2]

theorem hasMain : HasMain there profile names directory ↔ HasMain here profile names directory := by
  refine exists_congr fun candidate => and_congr_right fun listed => ?_
  rw [hasPath_congr (same candidate listed).2]

theorem filesAmong_eq : filesAmong there (candidates profile names directory) =
    filesAmong here (candidates profile names directory) := by
  unfold SameFiles at same
  generalize candidates profile names directory = listed at same
  induction listed with
  | nil => rfl
  | cons candidate rest ih =>
    obtain ⟨first, others⟩ := List.forall_mem_cons.mp same
    rw [filesAmong, filesAmong, hasPath_congr first.1, hasPath_congr first.2, ih others]

theorem fileLayer_eq {path : String}
    (found : path ∈ (filesAmong here (candidates profile names directory)).1) :
    fileLayer there path = fileLayer here path := by
  obtain ⟨candidate, listed, rfl | rfl⟩ := mem_filesAmong found
  · exact fileLayer_congr (same candidate listed).1
  · exact fileLayer_congr (same candidate listed).2

end SameFiles

theorem mapM_fileLayer_congr {paths : List String}
    (same : ∀ path ∈ paths, fileLayer there path = fileLayer here path) :
    paths.mapM (fileLayer there) = paths.mapM (fileLayer here) := by
  induction paths with
  | nil => rfl
  | cons path paths ih =>
    obtain ⟨first, others⟩ := List.forall_mem_cons.mp same
    rw [List.mapM_cons, List.mapM_cons, first, ih others]

/-- The first directory that has a file, with those before and behind it. -/
structure First (here : Surroundings) (profile : Profile) (names directories front : List String)
    (directory : String) (back : List String) : Prop where
  split : directories = front ++ directory :: back
  bare : ∀ earlier ∈ front, ¬ HasFile here profile names earlier
  file : HasFile here profile names directory

/-- The files of which directories are found. -/
structure Found (here : Surroundings) (profile : Profile) (names directories : List String) :
    Prop where
  nothing : (∀ directory ∈ directories, ¬ HasFile here profile names directory) →
    filesIn here profile names directories = ([], false)
  /-- They are the files of the first directory that has one, if it has a main file. -/
  first : ∀ front directory back, First here profile names directories front directory back →
    HasMain here profile names directory →
    ∃ files, filesIn here profile names directories = (files, true) ∧
      MainOnTop here (candidates profile names directory) files
  /-- Later directories do not matter then, nor do the files in them. -/
  later : ∀ front directory back, First here profile names directories front directory back →
    HasMain here profile names directory →
    ∀ there others,
      (∀ searched ∈ front ++ [directory], SameFiles here there profile names searched) →
      filesIn there profile names (front ++ directory :: others) =
          filesIn here profile names directories ∧
        contents there profile names (front ++ directory :: others) =
          contents here profile names directories
  /-- The file of a profile alone has those of later directories above it. -/
  stray : ∀ front directory back, First here profile names directories front directory back →
    ¬ HasMain here profile names directory →
    filesIn here profile names directories =
      (profileFiles here (candidates profile names directory) ++
        (filesIn here profile names back).1, (filesIn here profile names back).2)

/-- Files are found in one directory, the first one that has any, unless it has the file of a
profile only. -/
theorem files_of_first_directory (here : Surroundings) (profile : Profile)
    (names directories : List String) : Found here profile names directories where
  nothing := filesIn_eq_nil
  first front directory back found complete := by
    rw [found.split, filesIn_bare found.bare, filesIn_complete complete]
    exact filesAmong_of_hasMain complete
  later front directory back found complete there others same := by
    obtain ⟨passed, last⟩ := List.forall_mem_append.mp same
    have last := List.forall_mem_singleton.mp last
    have bare : ∀ earlier ∈ front, ¬ HasFile there profile names earlier := by
      intro earlier listed
      rw [(passed earlier listed).hasFile]
      exact found.bare earlier listed
    have found_here : filesIn here profile names directories =
        filesAmong here (candidates profile names directory) := by
      rw [found.split, filesIn_bare found.bare, filesIn_complete complete]
    have found_there : filesIn there profile names (front ++ directory :: others) =
        filesAmong here (candidates profile names directory) := by
      rw [filesIn_bare bare, filesIn_complete (last.hasMain.mpr complete), last.filesAmong_eq]
    refine ⟨found_there.trans found_here.symm, ?_⟩
    rw [contents, contents, found_there, found_here]
    exact mapM_fileLayer_congr fun path => last.fileLayer_eq
  stray front directory back found incomplete := by
    rw [found.split, filesIn_bare found.bare, filesIn_incomplete incomplete]

/-- Three directories: one without files, one with both, and one with a main file. -/
def fullSurroundings : Surroundings where
  folder := {
    files := [
      (["b", "mirai.production.toml"], "[connection]\nport = 8081\n"),
      (["b", "mirai.toml"], "[connection]\nport = 9000\n"),
      (["c", "mirai.toml"], "[session]\nbot_id = 7\n")]
    directories := [["a"]] }
  currentDir := "a"
  userConfigDir := none
  environment := []

/-- The search ends at the directory with both files. -/
theorem full_directory_settles :
    First fullSurroundings .production mainNames ["a", "b", "c"] ["a"] "b" ["c"] ∧
    HasMain fullSurroundings .production mainNames "b" ∧
    filesIn fullSurroundings .production mainNames ["a", "b", "c"] =
      (["b/mirai.production.toml", "b/mirai.toml"], true) ∧
    contents fullSurroundings .production mainNames ["a", "b", "c"] =
      contents fullSurroundings .production mainNames ["a", "b"] := by
  have first : First fullSurroundings .production mainNames ["a", "b", "c"] ["a"] "b" ["c"] :=
    ⟨rfl, by decide +kernel, by decide +kernel⟩
  have main : HasMain fullSurroundings .production mainNames "b" := by decide +kernel
  have found := files_of_first_directory fullSurroundings .production mainNames ["a", "b", "c"]
  have same := found.later _ _ _ first main fullSurroundings [] fun _ _ _ _ => ⟨rfl, rfl⟩
  exact ⟨first, main, by decide +kernel, same.2.symm⟩

/-- Two directories: one with the file of a profile only, and a later one with a main file. -/
def straySurroundings : Surroundings where
  folder := {
    files := [
      (["a", "mirai.staging.toml"], "[connection]\nhost = \"bot\"\n"),
      (["b", "mirai.toml"], "[connection]\nport = 9000\n")]
    directories := [] }
  currentDir := "b"
  userConfigDir := none
  environment := []

/-- The files of both directories are found and read. -/
theorem stray_file_joined :
    First straySurroundings (.custom "staging") mainNames ["a", "b"] [] "a" ["b"] ∧
    filesIn straySurroundings (.custom "staging") mainNames ["a", "b"] =
      (["a/mirai.staging.toml", "b/mirai.toml"], true) ∧
    ∃ low high, contents straySurroundings (.custom "staging") mainNames ["a", "b"] =
        .ok [low, high] ∧
      (low.member? "connection").bind (·.member? "host") = some (.str "bot") ∧
      (high.member? "connection").bind (·.member? "port") = some (.int 9000) := by
  have found : filesIn straySurroundings (.custom "staging") mainNames ["a", "b"] =
      (["a/mirai.staging.toml", "b/mirai.toml"], true) := by decide +kernel
  have host : ((Toml.parse? "[connection]\nhost = \"bot\"\n").bind fun table =>
      (table.member? "connection").bind (·.member? "host")).bind Json.str? = some "bot" := by
    decide +kernel
  have port : ((Toml.parse? "[connection]\nport = 9000\n").bind fun table =>
      (table.member? "connection").bind (·.member? "port")).bind Json.int? = some 9000 := by
    decide +kernel
  obtain ⟨_, held, text⟩ := Option.bind_eq_some_iff.mp host
  obtain ⟨low, parsed, said⟩ := Option.bind_eq_some_iff.mp held
  obtain ⟨_, held', number⟩ := Option.bind_eq_some_iff.mp port
  obtain ⟨high, parsed', said'⟩ := Option.bind_eq_some_iff.mp held'
  rw [Json.str?_eq_some.mp text] at said
  rw [Json.int?_eq_some.mp number] at said'
  have below : fileLayer straySurroundings "a/mirai.staging.toml" = .ok low :=
    fileLayer_of_parse (by rfl) parsed
  have above : fileLayer straySurroundings "b/mirai.toml" = .ok high :=
    fileLayer_of_parse (by rfl) parsed'
  refine ⟨⟨rfl, nofun, by decide +kernel⟩, found, low, high, ?_, said, said'⟩
  rw [contents, found, List.mapM_cons, below, List.mapM_cons, above]
  rfl

end Switchboard.Loader
