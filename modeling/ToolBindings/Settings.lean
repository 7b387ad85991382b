import ToolBindings.Failure
import ToolBindings.Naming.Derived
/-!
# Settings of a run

The compiler hands the user's settings over as one text of the form `key=value,…`.
`Settings.ofParameter` reads it item by item; the first item that is not a setting
decides the error, and of two settings for one key the later counts.
-/
namespace ToolBindings
open Text

/-- The scope in which tool names must be unique. -/
inductive NameScope where
  | run | file
deriving DecidableEq, Repr

/-- The settings of a run, with their defaults. -/
structure Settings where
  /-- Ending of the names of generated modules. -/
  suffix : String := Naming.defaultSuffix
  nameScope : NameScope := .run
  /-- Whether tools and required fields must have descriptions. -/
  requireDescriptions : Bool := false
  /-- The module from which generated modules take their support. -/
  runtimeModule : String := "protoc_gen_tools.runtime"
deriving DecidableEq, Repr

namespace Settings

/-- One item of a parameter. -/
inductive Item where
  | suffix (value : String)
  | nameScope (value : NameScope)
  | requireDescriptions (value : Bool)
  | runtimeModule (path : String)
deriving DecidableEq, Repr

/-- The words for true and false, in lower case. -/
def booleanWords : List (String × Bool) := [
  ("true", true), ("1", true), ("yes", true), ("on", true),
  ("false", false), ("0", false), ("no", false), ("off", false)]

/-- A boolean word in any case. -/
def boolean? (value : String) : Option Bool :=
  booleanWords.lookup (String.ofList (lowerCase value.toList))

/-- Identifiers separated by dots. -/
def isModulePath (value : String) : Bool := (splitOn '.' value.toList).all isIdentifier

def Item.ofPair (key value : String) : Except SettingsError Item :=
  match key with
  | "suffix" =>
    if ".py".toList.isSuffixOf value.toList then .ok (.suffix value) else .error (.badSuffix value)
  | "name_scope" =>
    match value with
    | "run" => .ok (.nameScope .run)
    | "file" => .ok (.nameScope .file)
    | _ => .error (.badNameScope value)
  | "require_descriptions" =>
    match boolean? value with
    | some flag => .ok (.requireDescriptions flag)
    | none => .error (.notBoolean key value)
  | "runtime_module" =>
    if isModulePath value then .ok (.runtimeModule value) else .error (.notModulePath value)
  | _ => .error (.unknownSetting key)

/-- A trimmed item is cut at its first equals sign and both sides are trimmed. -/
def Item.ofText (item : List Char) : Except SettingsError Item :=
  match cutFirst? '=' item with
  | none => .error (.missingValue (String.ofList item))
  | some (key, value) =>
    Item.ofPair (String.ofList (trimBlank key)) (String.ofList (trimBlank value))

/-- The trimmed pieces between the commas of a parameter, without the empty ones. -/
def itemTexts (parameter : String) : List (List Char) :=
  ((splitOn ',' parameter.toList).map trimBlank).filter (· ≠ [])

def apply (settings : Settings) : Item → Settings
  | .suffix value => { settings with suffix := value }
  | .nameScope value => { settings with nameScope := value }
  | .requireDescriptions value => { settings with requireDescriptions := value }
  | .runtimeModule path => { settings with runtimeModule := path }

def ofParameter (parameter : String) : Except SettingsError Settings := do
  let items ← (itemTexts parameter).mapM Item.ofText
  return items.foldl apply {}

end Settings

end ToolBindings
