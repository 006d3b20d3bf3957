import ClosedLoop.Compliance
import ClosedLoop.Text.Quoted
import ClosedLoop.Yaml.Document
import ClosedLoop.Yaml.Value

/-!
# Why a document is no configuration

A document that is well-formed fails at one of its nodes: the value there is of another kind than
the configuration asks for, or a mapping lacks a key or has it twice. The text of such a failure
begins with the path of keys to the node and ends with its place.
-/

namespace ClosedLoop

/-- What a configuration asks for at a node. -/
inductive Expected where
  | config
  | device
  | service
  | controller
  | backoff
  | simulation
  | key
  | text
  | flag
  | word32
  | word64
  | kind (kind : Yaml.Kind)
  deriving DecidableEq, Repr

def Expected.message : Expected → String
  | config => "struct Config"
  | device => "struct DeviceConfig"
  | service => "struct IntentConfig"
  | controller => "struct ControllerConfig"
  | backoff => "struct BackoffConfig"
  | simulation => "struct SimulationConfig"
  | key => "field identifier"
  | text => "a string"
  | flag => "a boolean"
  | word32 => "u32"
  | word64 => "u64"
  | kind .bool => "a boolean"
  | kind .integer => "an integer"
  | kind .float => "a float"
  | kind .null => "null"

/-- What a node is instead. -/
inductive Found where
  | value (value : Yaml.Value)
  | sequence
  | mapping
  deriving DecidableEq, Repr

/-- The text of an integer. -/
def integerText (n : Int) : String :=
  match n with
  | .ofNat n => Text.Decimal.text n
  | .negSucc n => "-" ++ Text.Decimal.text (n + 1)

def Found.message : Found → String
  | value .unit => "unit value"
  | value (.bool b) => "boolean `" ++ boolText b ++ "`"
  | value (.integer n) => "integer `" ++ integerText n ++ "`"
  | value (.wide n) =>
    "integer `" ++ integerText n ++ "` as " ++ (if 0 ≤ n then "u128" else "i128")
  | value (.float text) => "floating point `" ++ String.ofList text ++ "`"
  | value (.string text) => "string " ++ Text.Quoted.encode (String.ofList text)
  | sequence => "sequence"
  | mapping => "map"

/-- What is wrong at a node. -/
inductive Fault where
  | invalidType (found : Found) (expected : Expected)
  | invalidValue (found : Found) (expected : Expected)
  | missingField (name : String)
  | duplicateField (name : String)
  deriving DecidableEq, Repr

def Fault.message : Fault → String
  | invalidType found expected =>
    "invalid type: " ++ found.message ++ ", expected " ++ expected.message
  | invalidValue found expected =>
    "invalid value: " ++ found.message ++ ", expected " ++ expected.message
  | missingField name => "missing field `" ++ name ++ "`"
  | duplicateField name => "duplicate field `" ++ name ++ "`"

/-- The way to a node: the keys above it, the last one first; `none` for a key that is no scalar. -/
abbrev Path := List (Option (List Char))

def Path.text (path : Path) : String :=
  ".".intercalate (path.reverse.map fun key => String.ofList (key.getD ['?']))

/-- A node of a document: the way to it and its place. -/
structure Site where
  path : Path
  start : Yaml.Position
  deriving DecidableEq, Repr

/-- Why a document is no configuration. -/
inductive Failure where
  /-- The document is not well-formed, or not the only one. -/
  | document
  | node (site : Site) (fault : Fault)
  deriving DecidableEq, Repr

/-- The place of a node in words, left out at the very beginning. -/
def Site.place (site : Site) : String :=
  if site.start.line = 0 ∧ site.start.column = 0 then ""
  else
    " at line " ++ Text.Decimal.text (site.start.line + 1) ++
      " column " ++ Text.Decimal.text (site.start.column + 1)

def Failure.message : Failure → String
  | document => "<document error>"
  | node site fault =>
    (if site.path.isEmpty then "" else site.path.text ++ ": ") ++ fault.message ++ site.place

end ClosedLoop
