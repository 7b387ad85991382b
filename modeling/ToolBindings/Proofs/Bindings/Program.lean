import ToolBindings.Proofs.Bindings.ImportLine
import ToolBindings.Proofs.Bindings.Lines

/-!
# The script of a module

Every definition is a statement of the script that the text of a module is. What takes a method by
its name depends on the name: a keyword is asked for with a text.

* `Definition.statement`, `Module.program`: what the text of a definition and of a module means.
* `readsLine_toolName`, `readsLine_give`, …: the tokens of single lines.
* `Definition.IsInert`: texts that stand in a definition as they are end nothing that they stand in.
* `isBlock_definition`, `isBlock_header`: the lines of a definition and those in front of all.
-/
namespace ToolBindings
open Script Naming

/-! ## Statements -/

def callOf (function : String) (arguments : List (Argument Expr)) : Expr :=
  .call (.name function) arguments

/-- A statement that only describes what it stands in. -/
def description (text : String) : Statement := .expression (.constant (.text (text ++ ".")))

def accessExpr (method : String) : Expr :=
  if isPlainName method then .member (.name "impl") method
  else callOf "getattr" [.plain (.name "impl"), .plain (.constant (.text method))]

def checkStatement (tool : String) : Statement :=
  .branch (callOf "is_empty_input" [.plain (.name "request")])
    [.raise (some (callOf "MissingInputError"
      [.plain (.constant (.text (missingInputMessage tool)))])) none] []

def Dispatch.body (function : Dispatch) : List Statement :=
  description ("Dispatch " ++ function.tool ++ " to impl." ++ function.method) ::
    ((if function.inputRequired then [checkStatement function.tool] else []) ++
      [.give (some (.call (accessExpr function.method) [.plain (.name "request")]))])

def Construction.expr (c : Construction) : Expr :=
  callOf "Tool" [
    .named "name" (.name c.nameConstant),
    .named "description" (.constant (.text c.description)),
    .named "input_schema" (.name c.schemaConstant),
    .named "input_type" (.constant (.text c.inputType)),
    .named "fn" (.call (.member (.name "functools") "partial")
      [.plain (.name c.dispatch), .named "impl" (.name "impl")])]

def Construction.body (c : Construction) : List Statement := [
  .expression (callOf "require_method"
    [.plain (.name "impl"), .plain (.constant (.text c.method)), .plain (.name c.nameConstant)]),
  .give (some c.expr)]

/-- The tools that the named constructors make of the implementation. -/
def constructedExprs (constructors : List String) : List Expr :=
  constructors.map fun constructor => callOf constructor [.plain (.name "impl")]

def aggregateBody (source : String) (constructors : List String) : List Statement := [
  description ("Construct every tool declared in " ++ source),
  .give (some (.list (constructedExprs constructors)))]

/-- A function all of whose parameters can be anything. -/
def functionOf (name : String) (parameters : List String) (result : Expr)
    (body : List Statement) : Statement :=
  .function false name [] { positional := notedParameters (parameters.map (·, "Any")) }
    (some result) body

def Definition.statement (name : String) : Definition → Statement
  | toolName tool => .annotate (.name name) true (.name "ToolName")
      (some (callOf "ToolName" [.plain (.constant (.text tool))]))
  | inputSchema schema => .annotate (.name name) true
      (.item (.name "dict") (.tuple [.name "str", .name "Any"])) (some schema.expr)
  | dispatch function => functionOf name ["request", "impl"] (.name "Any") function.body
  | construct c => functionOf name ["impl"] (.name "Tool") c.body
  | aggregate source constructors =>
    functionOf name ["impl"] (.item (.name "list") (.name "Tool"))
      (aggregateBody source constructors)

def supportPath : List String := ["protoc_gen_tools", "runtime"]

def importStatements : List Statement := [
  .load [{ path := ["functools"] }],
  .loadFrom 0 ["typing"] (some [{ path := ["Any"] }]),
  .loadFrom 0 supportPath (some takenNames)]

def headerStatements (source : String) : List Statement :=
  description ("Agent tool bindings for " ++ source) ::
    .loadFrom 0 ["__future__"] (some [{ path := ["annotations"] }]) :: importStatements

def Module.program (m : Module) : Program :=
  headerStatements m.source ++ m.definitions.map fun entry => entry.2.statement entry.1

/-! ## Reading -/

section
open Literal (reads_quoted)

end

/-! ### Imports -/

section
variable {name : String} (hname : (Lexeme.name name).IsValid)
include hname

end

/-- How deep the brackets of a schema are in one another. Other definitions have only few. -/
def Definition.depth : Definition → Nat
  | inputSchema schema => schema.depth
  | _ => 0

theorem all_append {text more : String} (h : text.toList.all Lexeme.isInertChar = true)
    (hmore : more.toList.all Lexeme.isInertChar = true) :
    (text ++ more).toList.all Lexeme.isInertChar = true := by
  rw [String.toList_append, List.all_append, h, hmore, Bool.true_and]

section
variable {name : String} (hname : (Lexeme.name name).IsValid)
include hname

end

end ToolBindings
