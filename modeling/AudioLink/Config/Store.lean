import AudioLink.Config.Toml
import AudioLink.Files.Tree

/-
Session configurations as files.

A file is saved by making the directories on the way to it, writing the text of the configuration,
and only then putting the text into the file; a configuration that has no text leaves a file that is
there alone. The usual place of the file is fixed by the environment of the user.
-/
set_option autoImplicit false

namespace AudioLink

/-! ## The usual place -/

/-- What the environment says about the directories of the user. -/
structure UserDirs where
  home : Option String
  /-- The variable that names the directory of configurations. -/
  configHome : Option String
  /-- The home directory that is recorded for the account of the user. -/
  accountHome : Option String := none

namespace UserDirs

/-- A path with a further name behind it. -/
def join (path name : String) : String :=
  if path.toList.getLast? = some '/' then path ++ name else path ++ "/" ++ name

/-- Whether a path begins at the root. -/
def isAbsolute (path : String) : Bool := path.toList.head? = some '/'

/-- The home directory: the one of the variable, unless it is empty. -/
def homeDir? (dirs : UserDirs) : Option String :=
  match dirs.home with
  | some home => if home = "" then dirs.accountHome else some home
  | none => dirs.accountHome

/-- The directory of configurations: the one of the variable if it is absolute, and otherwise the
usual one in the home directory. -/
def configDir? (dirs : UserDirs) : Option String :=
  dirs.homeDir?.map fun home =>
    match dirs.configHome with
    | some dir => if isAbsolute dir then dir else join home ".config"
    | none => join home ".config"

end UserDirs

namespace SessionConfig

/-- Name of the directory of the program among the configurations. -/
def directoryName : String := "audio-peer-session"

/-- Name of the file in that directory. -/
def fileName : String := "session.toml"

/-- The usual path of the file. -/
def defaultPath (dirs : UserDirs) : Except Error String :=
  match dirs.configDir? with
  | some dir => .ok (UserDirs.join (UserDirs.join dir directoryName) fileName)
  | none => .error (.config "no home directory to place the session file")

/-! ## Loading and saving -/

/-- The error for a file operation that failed. -/
def fileError (fault : FileFault) : Error := .file fault fault.name

/-- Loads the configuration in a file. -/
def load (tree : FileTree) (path : FilePath) : Except Error SessionConfig :=
  match tree.read path with
  | .error fault => .error (fileError fault)
  | .ok contents =>
    match Bytes.toText? contents with
    | none => .error (fileError .invalidData)
    | some text => ofToml text

/-- Saves a configuration: the tree afterwards, and whether it worked. -/
def save (tree : FileTree) (path : FilePath) (c : SessionConfig) : Except Error Unit × FileTree :=
  match tree.makeDirectories path.dropLast with
  | .error fault => (.error (fileError fault), tree)
  | .ok tree =>
    -- From here on a failure leaves the directories that were made, but touches no file.
    match c.toToml with
    | .error e => (.error e, tree)
    | .ok text =>
      match tree.write path (Bytes.ofText text) with
      | .error fault => (.error (fileError fault), tree)
      | .ok tree => (.ok (), tree)

/-- Loads the configuration at a path, or the default one if nothing is there. -/
def loadOrDefault (tree : FileTree) (path : FilePath) : Except Error SessionConfig :=
  if tree.hasItem path then load tree path else .ok {}

end SessionConfig
end AudioLink
