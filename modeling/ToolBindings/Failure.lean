import ToolBindings.Descriptor.Basic
import ToolBindings.Text.Quoted
/-!
# Why a run can fail

Every cause has a constructor; the wording of all of them is in the functions named
`message`. A `Rejection` ends up in the generator's answer. Octets that cannot be read
and options that cannot be passed on are a `Failure` of their own, because they end the
run without an answer.
-/
namespace ToolBindings
open Text (quoted)

/-- Why a parameter is not a list of settings. -/
inductive SettingsError where
  | missingValue (key : String)
  | badSuffix (value : String)
  | badNameScope (value : String)
  | notBoolean (key value : String)
  | notModulePath (value : String)
  | unknownSetting (key : String)
deriving DecidableEq, Repr

def SettingsError.message : SettingsError → String
  | missingValue key => "option " ++ quoted key ++ " is missing a value (expected key=value)"
  | badSuffix value => "suffix must end with '.py', got " ++ quoted value
  | badNameScope value => "name_scope must be 'run' or 'file', got " ++ quoted value
  | notBoolean key value => "option " ++ quoted key ++ " expects a boolean, got " ++ quoted value
  | notModulePath value => "runtime_module is not a module path: " ++ quoted value
  | unknownSetting key => "unknown option " ++ quoted key

/-- Why a method that carries tool metadata cannot be a tool. -/
inductive DeclarationError where
  | streaming (owner : String)
  | invalidToolName (owner name : String)
  | undescribedTool (owner name : String)
  | undescribedField (field : String)
deriving DecidableEq, Repr

def DeclarationError.message : DeclarationError → String
  | streaming owner => owner ++ " is a streaming method and cannot be a tool"
  | invalidToolName owner name =>
    owner ++ " declares invalid tool name " ++ quoted name ++
      " (expected 1-64 characters of [A-Za-z0-9_-])"
  | undescribedTool owner name =>
    owner ++ " declares tool " ++ quoted name ++ " without a description"
  | undescribedField field => "required field " ++ field ++ " has no description"

/-- What two methods can both want to be called. -/
inductive NameKind where
  | toolName | identifier
deriving DecidableEq, Repr

def NameKind.text : NameKind → String
  | toolName => "tool name"
  | identifier => "identifier"

/-- Two methods want the same name. -/
structure NameConflict where
  kind : NameKind := .toolName
  name : String
  /-- The method that has the name. -/
  holder : String
  /-- The method that wants it too. -/
  claimant : String
deriving DecidableEq, Repr

def NameConflict.message (conflict : NameConflict) : String :=
  conflict.kind.text ++ " " ++ quoted conflict.name ++ " declared by " ++ conflict.claimant ++
    " conflicts with " ++ conflict.holder

/-- What is wrong with the files and message types that a tool refers to. -/
inductive ShapeError where
  | missingFile (name : String)
  | unresolvedType (name : String)
  | unsupportedType (field : String) (type : FieldType)
  | malformedEntry (field : String)
  | unsupportedKey (field : String) (type : FieldType)
  | noSchema (method : String)
deriving DecidableEq, Repr

def ShapeError.message : ShapeError → String
  | missingFile name => "file to generate " ++ quoted name ++ " missing from proto_file"
  | unresolvedType name => "unresolved message type " ++ quoted name
  | unsupportedType field type => "field " ++ field ++ " has unsupported type " ++ type.name
  | malformedEntry field => "map field " ++ field ++ " has a malformed entry type"
  | unsupportedKey field type => "map field " ++ field ++ " has unsupported key type " ++ type.name
  | noSchema method => "no schema attached to " ++ method

/-- A reason for which the generator refuses a request. -/
inductive Rejection where
  | settings (error : SettingsError)
  | declaration (error : DeclarationError)
  | conflict (error : NameConflict)
  | shape (error : ShapeError)
deriving DecidableEq, Repr

def Rejection.message : Rejection → String
  | settings error => error.message
  | declaration error => error.message
  | conflict error => error.message
  | shape error => error.message

/-- A run fails on octets that cannot be read, on options that lack a part they must have,
or on a request that is refused. -/
inductive Failure where
  | malformed
  | incomplete
  | rejected (reason : Rejection)
deriving DecidableEq, Repr

end ToolBindings
