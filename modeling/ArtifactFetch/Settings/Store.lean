import ArtifactFetch.FileTree
import ArtifactFetch.Settings

/-! # Settings in files

Settings are kept in a JSON file. Strict loading (`load`) says what is wrong with the file; lenient
loading (`loadOrStandard`) takes the standard settings then. Saving makes the missing directories
above the file first. -/

namespace ArtifactFetch.Settings

/-- The settings in a file. -/
def load (t : FileTree) (p : Path) : Except FetchError Settings :=
  match t.readText p with
  | .error e => .error (.io p e)
  | .ok text => ofJson text

/-- The settings in a file, or the standard ones if it is missing or holds none. -/
def loadOrStandard (t : FileTree) (p : Path) : Settings :=
  if t.exists? p then
    match load t p with
    | .ok s => s
    | .error _ => standard
  else standard

/-- Makes the directory that is to hold a file, if its path names one. -/
def makeParent (t : FileTree) (p : Path) : FileTree × Except FetchError Unit :=
  match p.parent? with
  | none => (t, .ok ())
  | some parent =>
    match t.makeDirs parent with
    | (t, .ok ()) => (t, .ok ())
    | (t, .error e) => (t, .error (.io parent e))

/-- Saves the settings to a file. -/
def save (s : Settings) (t : FileTree) (p : Path) : FileTree × Except FetchError Unit :=
  match makeParent t p with
  | (t, .error e) => (t, .error e)
  | (t, .ok ()) =>
    match t.write p s.toJson.toUTF8.toList with
    | (t, .ok ()) => (t, .ok ())
    | (t, .error e) => (t, .error (.io p e))

/-! ### The default place -/

/-- The directory for the configuration of a user: the one that is set for it if that is an absolute
path, and otherwise the usual one below the home directory. -/
def configDir (configHome : Option String) (home : Path) : Path :=
  match configHome with
  | some dir => if (Path.mk dir).isAbsolute then ⟨dir⟩ else home.join ".config"
  | none => home.join ".config"

/-- Where the settings of a user are kept. -/
def defaultPath (configHome : Option String) (home : Path) : Path :=
  ((configDir configHome home).join "dependency-downloader").join "settings.json"

/-- The settings of a user, or the standard ones. -/
def loadDefault (t : FileTree) (configHome : Option String) (home : Path) : Settings :=
  loadOrStandard t (defaultPath configHome home)

end ArtifactFetch.Settings
