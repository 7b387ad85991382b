import ToolBindings.Journal.Logged
import ToolBindings.Settings
import ToolBindings.Tool.Basic
import ToolBindings.Tool.Claims
/-!
# The tools of a file

A method is a tool if it carries tool metadata; all others are passed over.

* `Tool.ofMethod` judges one method by itself: that it does not stream, its names and
  descriptions, and the fields of its input.
* `File.tools` goes through the methods of a file in order and stops at the first that
  fails. A method claims its name after everything else about it is in order, so the
  claims afterwards are those of the methods before the failure.
-/
namespace ToolBindings

namespace Tool

/-- The name that a method declares for its tool, or else the one derived from its own. -/
def chooseName (metadata : ToolMetadata) (service method : String) : String :=
  if metadata.name = "" then Naming.toolName service method else metadata.name

/-- The identifiers of a file that are in use, with their holders, the latest first. -/
abbrev Constants := List (String × String)

/-- The checks on a method that need no other type: it must not stream, its tool name
must be valid, it must be described if the settings say so, and its identifiers must be free. -/
def checkDeclaration (settings : Settings) (constants : Constants) (owner name constant : String)
    (metadata : ToolMetadata) (method : Method) : Except Failure Unit :=
  if method.clientStreaming || method.serverStreaming then
    .error (.rejected (.declaration (.streaming owner)))
  else if !Naming.isToolName name then
    .error (.rejected (.declaration (.invalidToolName owner name)))
  else if settings.requireDescriptions && metadata.description == "" then
    .error (.rejected (.declaration (.undescribedTool owner name)))
  else match constants.lookup constant with
    | some holder =>
      .error (.rejected (.conflict {
        kind := .identifier, name := constant, holder, claimant := owner }))
    | none => .ok ()

/-- The specifications of those fields of a message that carry metadata. A required one
must be described if the settings say so. -/
def annotatedFields (settings : Settings) (index : TypeIndex) (owner : String) :
    List Field → Except Failure (List FieldSpec)
  | [] => .ok []
  | field :: rest => do
    let spec ← FieldSpec.ofField index owner field
    if settings.requireDescriptions && spec.required && spec.description == "" then
      throw (.rejected (.declaration (.undescribedField (owner ++ "." ++ field.name))))
    let specs ← annotatedFields settings index owner rest
    return if spec.annotated then spec :: specs else specs

theorem annotatedFields_cons (settings : Settings) (index : TypeIndex) (owner : String)
    (field : Field) (rest : List Field) :
    annotatedFields settings index owner (field :: rest) =
      FieldSpec.ofField index owner field >>= fun spec =>
        if settings.requireDescriptions && spec.required && spec.description == "" then
          .error (.rejected (.declaration (.undescribedField (owner ++ "." ++ field.name))))
        else
          (annotatedFields settings index owner rest).map fun specs =>
            if spec.annotated then spec :: specs else specs := by
  rw [annotatedFields]
  rfl

/-- The tool that a method with tool metadata is, its name not yet claimed. -/
def ofMethod (file : File) (index : TypeIndex) (settings : Settings) (constants : Constants)
    (service : String) (method : Method) (metadata : ToolMetadata) : Except Failure Tool := do
  let name := chooseName metadata service method.name
  let constantName := Naming.constantName service method.name
  checkDeclaration settings constants (file.ownerLabel service method.name) name constantName
    metadata method
  let input ← index.resolve method.input
  let fields ← annotatedFields settings index (withoutDots method.input) input.fields
  return {
    name, constantName, fields, service
    description := metadata.description
    method := method.name
    fullMethodName := qualifiedName file.package [service, method.name]
    inputType := method.input }

end Tool

/-- The tools among some methods of a file, and the claims after the last method that was
looked at. -/
def toolsAmong (file : File) (index : TypeIndex) (settings : Settings) (claims : Claims)
    (constants : Tool.Constants) : List (String × Method) → Claims × Logged (List Tool)
  | [] => (claims, pure [])
  | (service, method) :: rest =>
    let owner := file.ownerLabel service method.name
    match method.metadata with
    | .error failure => (claims, Logged.fail failure)
    | .ok none =>
      let (claims, tools) := toolsAmong file index settings claims constants rest
      (claims, do Logged.report (.methodSkipped owner); tools)
    | .ok (some metadata) =>
      match Tool.ofMethod file index settings constants service method metadata with
      | .error failure => (claims, Logged.fail failure)
      | .ok tool =>
        match claims.claim tool.name owner with
        | .error conflict => (claims, Logged.reject (.conflict conflict))
        | .ok claims =>
          let (claims, tools) :=
            toolsAmong file index settings claims ((tool.constantName, owner) :: constants) rest
          (claims, return tool :: (← tools))

/-- The tools of a file in the order of declaration, and the claims afterwards. -/
def File.tools (file : File) (index : TypeIndex) (settings : Settings) (claims : Claims) :
    Claims × Logged (List Tool) :=
  toolsAmong file index settings claims [] file.methods

end ToolBindings
