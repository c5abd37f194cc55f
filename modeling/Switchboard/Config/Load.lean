import Switchboard.Config.Profile
import Switchboard.Config.Valid
import Switchboard.Config.Variable
import Switchboard.Files.Folder
import Switchboard.Toml.Reader

set_option autoImplicit false

namespace Switchboard

/-- What surrounds a program: files, directories to start from, and environment variables. -/
structure Surroundings where
  folder : Folder String
  currentDir : String
  userConfigDir : Option String
  environment : List (String × String)

def Surroundings.valueOf (here : Surroundings) (name : String) : Option String :=
  (here.environment.find? fun held => held.1 = name).map (·.2)

/-- What to load, and from where. -/
structure Loader where
  profile : Profile
  /-- Configurations given by the program, the oldest first. -/
  merges : List Config
  /-- The directories to search, in this order; without any, the usual ones. -/
  searchPaths : List String
  useVariables : Bool
  /-- The only file to load. -/
  file : Option String

namespace Loader

def profileVariable : String := "MIRAI_PROFILE"

def profileOf (here : Surroundings) : Profile :=
  match here.valueOf profileVariable with
  | some name => .ofName name
  | none => .default

def start (here : Surroundings) : Loader := ⟨profileOf here, [], [], true, none⟩

def addMerge (loader : Loader) (config : Config) : Loader :=
  { loader with merges := loader.merges ++ [config] }

def addSearchPath (loader : Loader) (path : String) : Loader :=
  { loader with searchPaths := loader.searchPaths ++ [path] }

/-- Adds the current directory to those that are searched. -/
def addCurrentDir (loader : Loader) (here : Surroundings) : Loader :=
  loader.addSearchPath here.currentDir

/-- The place of the configuration below the directory of a user. -/
def userDir? (here : Surroundings) : Option String :=
  here.userConfigDir.map fun directory => Path.join directory "mirai"

/-- Adds the directory of the user to those that are searched. -/
def addUserDir (loader : Loader) (here : Surroundings) : Loader :=
  match userDir? here with
  | some directory => loader.addSearchPath directory
  | none => loader

def directories (loader : Loader) (here : Surroundings) : List String :=
  if loader.searchPaths.isEmpty then here.currentDir :: (userDir? here).toList
  else loader.searchPaths

/-- The layer of a file, if there is one. A directory of that name counts as an empty file. -/
def fileLayer (here : Surroundings) (path : String) : Except ConfigError Json :=
  match here.folder.read path with
  | .error _ => .ok (.object [])
  | .ok text =>
    match Toml.parse? text with
    | some layer => .ok layer
    | none => .error .unreadable

/-- The names of main files that are searched for, the first one first. -/
def mainNames : List String := ["mirai.toml"]

/-- The name of the file of a profile beside a main file: the profile stands before the ending. -/
def profileName? (profile : Profile) (name : String) : Option String :=
  (Path.cutEnding? name).map fun (stem, ending) => stem ++ "." ++ profile.name ++ "." ++ ending

/-- The two files that a directory may have for the name of a main file. -/
structure Candidate where
  profileFile : String
  mainFile : String
deriving DecidableEq

/-- The files that a directory may have, for each name. -/
def candidates (profile : Profile) (names : List String) (directory : String) : List Candidate :=
  names.filterMap fun name => (profileName? profile name).map fun profileName =>
    ⟨Path.join directory profileName, Path.join directory name⟩

/-- The files that are there, from the lowest to the highest, and whether one is a main file: those
of the profile and the main file, up to the first main file. -/
def filesAmong (here : Surroundings) : List Candidate → List String × Bool
  | [] => ([], false)
  | candidate :: rest =>
    let found :=
      if here.folder.hasPath candidate.profileFile then [candidate.profileFile] else []
    if here.folder.hasPath candidate.mainFile then (found ++ [candidate.mainFile], true)
    else
      let (others, complete) := filesAmong here rest
      (found ++ others, complete)

/-- The files in directories, from the lowest to the highest, and whether one is a main file: those
in each directory, up to the first directory with a main file. -/
def filesIn (here : Surroundings) (profile : Profile) (names : List String) :
    List String → List String × Bool
  | [] => ([], false)
  | directory :: rest =>
    let (found, complete) := filesAmong here (candidates profile names directory)
    if complete then (found, true)
    else
      let (others, complete) := filesIn here profile names rest
      (found ++ others, complete)

/-- The files to load. A file that is asked for by name has to be there, in a known format. -/
def files (loader : Loader) (here : Surroundings) : Except ConfigError (List String) :=
  match loader.file with
  | none => .ok (filesIn here loader.profile mainNames (loader.directories here)).1
  | some path =>
    if !here.folder.hasPath path then .error (.fileNotFound path)
    else if Path.extension? path = some "toml" then .ok [path]
    else .error (.unsupportedFormat path)

/-- All layers, the lowest first: the defaults, the configurations given by the program, the file of
the profile, the main file, and the environment variables. -/
def layers (loader : Loader) (here : Surroundings) : Except ConfigError (List Json) := do
  let fileLayers ← (← loader.files here).mapM (fileLayer here)
  let settings := if loader.useVariables then [Variable.layer here.environment] else []
  return Config.default.encode :: loader.merges.map Config.encode ++ fileLayers ++ settings

/-- The configuration. All layers, laid over each other, have to have the shape of one, and it has
to be valid. -/
def load (loader : Loader) (here : Surroundings) : Except ConfigError Config := do
  let merged := Layer.stack (← loader.layers here)
  let config ← (Config.decode .layered merged).mapError ConfigError.misfit
  config.check
  return config

end Loader
end Switchboard
