import ToolBindings.Proofs.Bindings.Names
import ToolBindings.Proofs.Literal.Source
import ToolBindings.Proofs.Script.Blocks

/-!
# The lines of a module

The text of a module is cut into lines and these into lexemes, so that it can be read as a script.

* `Definition.lines`, `Module.lines`: the lines of a definition and of a module.
* `chars_definition`, `chars_module`: their characters are those of the text.
-/
namespace ToolBindings
open Script

/-! ## Lines -/

/-- How the method of an implementation is reached, in pieces. -/
def accessLexemes (method : String) : List Lexeme :=
  if isPlainName method then [.name "impl", .sign '.', .name method]
  else [.name "getattr", .sign '(', .name "impl", .sign ',', .gap, .text method, .sign ')']

/-- The calls of constructors, each on a line inside brackets. -/
def constructorLexemes : List String → List Lexeme
  | [] => []
  | constructor :: rest => .fold 8 :: .name constructor :: .sign '(' :: .name "impl" :: .sign ')' ::
      .sign ',' :: constructorLexemes rest

def checkLines (tool : String) : List Line := [
  .code 1 [.keyword "if", .gap, .name "is_empty_input", .sign '(', .name "request", .sign ')',
    .sign ':'],
  .code 2 [.keyword "raise", .gap, .name "MissingInputError", .sign '(',
    .text (missingInputMessage tool), .sign ')']]

/-- The first line of a function of the implementation. -/
def headLexemes (name : String) (result : List Lexeme) : List Lexeme :=
  [.keyword "def", .gap, .name name, .sign '(', .name "impl", .sign ':', .gap, .name "Any",
    .sign ')', .gap, .arrow, .gap] ++ result ++ [.sign ':']

/-- The first line of a function of an input and the implementation. -/
def dispatchLexemes (name : String) : List Lexeme :=
  [.keyword "def", .gap, .name name, .sign '(', .name "request", .sign ':', .gap, .name "Any",
    .sign ',', .gap, .name "impl", .sign ':', .gap, .name "Any", .sign ')', .gap, .arrow, .gap,
    .name "Any", .sign ':']

/-- The line that makes a tool, which goes over several inside the brackets. -/
def constructLexemes (c : Construction) : List Lexeme :=
  [.keyword "return", .gap, .name "Tool", .sign '(',
    .fold 8, .name "name", .sign '=', .name c.nameConstant, .sign ',',
    .fold 8, .name "description", .sign '=', .text c.description, .sign ',',
    .fold 8, .name "input_schema", .sign '=', .name c.schemaConstant, .sign ',',
    .fold 8, .name "input_type", .sign '=', .text c.inputType, .sign ',',
    .fold 8, .name "fn", .sign '=', .name "functools", .sign '.', .name "partial", .sign '(',
    .name c.dispatch, .sign ',', .gap, .name "impl", .sign '=', .name "impl", .sign ')', .sign ',',
    .fold 4, .sign ')']

def schemaLexemes (name : String) : List Lexeme :=
  [.name name, .sign ':', .gap, .name "dict", .sign '[', .name "str", .sign ',', .gap, .name "Any",
    .sign ']', .gap, .sign '=', .gap]

def Definition.lines (name : String) : Definition → List Line
  | toolName tool => [.code 0 [.name name, .sign ':', .gap, .name "ToolName", .gap, .sign '=', .gap,
      .name "ToolName", .sign '(', .text tool, .sign ')']]
  | inputSchema schema => [.empty, .empty, .code 0 (schemaLexemes name ++ schema.lexemes 0)]
  | dispatch ⟨tool, method, inputRequired⟩ => [.empty, .empty,
      .code 0 (dispatchLexemes name),
      .code 1 [.description ("Dispatch " ++ tool ++ " to impl." ++ method).toList]] ++
      (if inputRequired then checkLines tool else []) ++
      [.code 1 ([.keyword "return", .gap] ++ accessLexemes method ++
        [.sign '(', .name "request", .sign ')'])]
  | construct c => [.empty, .empty,
      .code 0 (headLexemes name [.name "Tool"]),
      .code 1 [.name "require_method", .sign '(', .name "impl", .sign ',', .gap, .text c.method,
        .sign ',', .gap, .name c.nameConstant, .sign ')'],
      .code 1 (constructLexemes c)]
  | aggregate source constructors => [.empty, .empty,
      .code 0 (headLexemes name [.name "list", .sign '[', .name "Tool", .sign ']']),
      .code 1 [.description ("Construct every tool declared in " ++ source).toList],
      .code 1 ([.keyword "return", .gap, .sign '['] ++ constructorLexemes constructors ++
        [.fold 4, .sign ']'])]

/-- The pieces of the line that imports the support of tools. -/
def supportLexemes : List Lexeme :=
  [.keyword "from", .gap, .name "protoc_gen_tools", .sign '.', .name "runtime", .gap,
    .keyword "import", .gap, .sign '(',
    .fold 4, .name "MissingInputError", .sign ',', .fold 4, .name "Tool", .sign ',',
    .fold 4, .name "ToolName", .sign ',', .fold 4, .name "is_empty_input", .sign ',',
    .fold 4, .name "require_method", .sign ',', .fold 0, .sign ')']

def headerLines (source : String) : List Line := [
  .comment " Code generated by protoc-gen-tools. DO NOT EDIT.".toList,
  .comment (" source: " ++ source).toList,
  .code 0 [.description ("Agent tool bindings for " ++ source).toList],
  .empty,
  .code 0 [.keyword "from", .gap, .name "__future__", .gap, .keyword "import", .gap,
    .name "annotations"],
  .empty,
  .code 0 [.keyword "import", .gap, .name "functools"],
  .code 0 [.keyword "from", .gap, .name "typing", .gap, .keyword "import", .gap, .name "Any"],
  .empty,
  .code 0 supportLexemes,
  .empty]

def Module.lines (m : Module) : List Line :=
  headerLines m.source ++ m.definitions.flatMap fun entry => entry.2.lines entry.1

end ToolBindings
