import CredentialCache.Config.Read
import CredentialCache.Config.Environment
import CredentialCache.Toml.Read
/-!
# Loading the configuration

The configuration is loaded from layers merged in order, then validated. From a directory the
layers are `default.toml`, the file named for the environment (`APP_ENV`, by default
"development"), and the `CREDSTORE_` environment variables; a missing file adds nothing. A file
that is not valid TOML, or a value that does not fit its field, is a load error; a configuration
that reads but breaks a rule is an invalid one.
-/

namespace CredentialCache

def envPrefix : String := "CREDSTORE_"

def tomlLayer (o : Origin) (src : String) : Except ConfigError Setting :=
  match Toml.parse src with
  | .ok v => .ok (Setting.ofToml o v)
  | .error f => .error (.load (f.render src ++ " in " ++ o.describe))

namespace AppConfig

def ofLayers (layers : List Setting) : Except ConfigError AppConfig := do
  let root := layers.foldl Setting.merge (.dict .tomlText [])
  let cfg ← match AppConfig.reader root [] with
    | .ok c => pure c
    | .error e => throw (.load e.text)
  cfg.validate
  pure cfg

def ofTomlTexts (texts : List String) : Except ConfigError AppConfig := do
  ofLayers (← texts.mapM (tomlLayer .tomlText))

/-- Follow the parts of a path from a directory, as the file system does: an empty part and `.`
stay, `..` goes up and any other part goes down, each step taken from a directory that exists,
as `isDirectory` tells. Going up from the starting directory leaves the files known: there is no
answer then. -/
def resolve (isDirectory : List String → Bool) : List String → List String → Option (List String)
  | here, [] => some here
  | here, part :: rest =>
    if !isDirectory here then none
    else if part.isEmpty || part == "." then resolve isDirectory here rest
    else if part == ".." then
      if here.isEmpty then none else resolve isDirectory here.dropLast rest
    else resolve isDirectory (here ++ [part]) rest

/-- The text of the file a path names, among files given by their paths from the working
directory. The working directory exists, and so does every directory that holds a file. -/
def fileAt (files : List (String × String)) (path : String) : Option String :=
  let known := files.filterMap fun (name, text) =>
    (resolve (fun _ => true) [] (name.splitOn "/")).map (·, text)
  let isDirectory (d : List String) : Bool :=
    d.isEmpty || known.any fun (f, _) => d.length < f.length && f.take d.length == d
  (resolve isDirectory [] (path.splitOn "/")).bind fun p => (known.find? (·.1 == p)).map (·.2)

def sourceFiles (dir : String) (env : List (String × String)) : List String :=
  [dir ++ "/default.toml", dir ++ "/" ++ (env.lookup "APP_ENV").getD "development" ++ ".toml"]

/-- Load the configuration from a directory and the environment: the source files that exist,
then the environment variables. `readFile` gives a file's text by path, or nothing when there is
no such file. -/
def load (dir : String) (readFile : String → Option String) (env : List (String × String)) :
    Except ConfigError AppConfig := do
  let file (path : String) : Except ConfigError (List Setting) :=
    match readFile path with
    | none => .ok []
    | some src => (tomlLayer (.tomlFile path) src).map fun s => [s]
  let files ← (sourceFiles dir env).mapM file
  ofLayers (files.flatten ++ [Setting.ofEnvironment envPrefix env])

end AppConfig

end CredentialCache
