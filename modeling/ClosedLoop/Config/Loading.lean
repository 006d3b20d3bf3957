import ClosedLoop.Config.Reading
import ClosedLoop.Config.Validation
import ClosedLoop.FileTree

/-!
# Loading a configuration

A configuration comes from a text, which comes from a file. What a text holds must obey the rules;
what a file holds must be text. Where files are is left open: a function from paths to bytes reads
them.
-/

namespace ClosedLoop

/-- Why a configuration cannot be used. -/
inductive ConfigError where
  | file (error : FileError)
  | parse (failure : Failure)
  | invalid (fault : ConfigFault)
  deriving DecidableEq, Repr

def ConfigError.message : ConfigError → String
  | file error => "Failed to read config file: " ++ error.message
  | parse failure => "Failed to parse config: " ++ failure.message
  | invalid fault => "Invalid config: " ++ fault.text

/-- Reads the bytes of the file at a path. -/
abbrev FileReader := String → Except FileError ByteArray

namespace Config

/-- The configuration that a text holds. -/
def ofText (text : String) : Except ConfigError Config :=
  match ofDocument (Yaml.Document.ofText text) with
  | .ok config =>
    match config.fault? with
    | none => .ok config
    | some fault => .error (.invalid fault)
  | .error failure => .error (.parse failure)

/-- The configuration in the content of a file. -/
def ofBytes (bytes : ByteArray) : Except ConfigError Config :=
  match String.fromUTF8? bytes with
  | some text => ofText text
  | none => .error (.file .notText)

/-- Loads the configuration at a path. -/
def load (files : FileReader) (path : String) : Except ConfigError Config :=
  match files path with
  | .ok bytes => ofBytes bytes
  | .error error => .error (.file error)

/-- Loads the configuration that a folder holds under its usual name. -/
def loadFrom (files : FileReader) (folder : String) : Except ConfigError Config :=
  load files (if folder.isEmpty || folder.endsWith "/" then folder ++ fileName
    else folder ++ "/" ++ fileName)

end Config

end ClosedLoop
