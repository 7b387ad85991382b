import ToolBindings.Bindings.Layout
import ToolBindings.Schema.Expansion
import ToolBindings.Tool.Discovery
/-!
# Generating the modules of a request

`generate` answers a request with one module for each file that has services. A request
that is refused is answered with the reason and no file; only options that cannot be used
at all end the run without an answer.
-/
namespace ToolBindings

/-- The tools of a file with their schemas, and the claims afterwards. -/
def File.toolsWithSchemas (file : File) (index : TypeIndex) (settings : Settings)
    (claims : Claims) : Claims × Logged (List Tool) :=
  let (claims, tools) := file.tools index settings claims
  (claims, do withSchemas index (← tools))

/-- The text of the module for the tools of a file. -/
def moduleText (file : File) (settings : Settings) (tools : List Tool) : Except Failure String :=
  (Module.ofTools file settings.runtimeModule tools).map Module.render

def fileOfTools (file : File) (settings : Settings) (tools : List Tool) : Logged GeneratedFile := do
  let name := Naming.outputName file.name settings.suffix
  let content ← Logged.ofExcept (moduleText file settings tools)
  Logged.report (.generated name tools.length)
  return { name, content }

/-- The generated files, given the claims so far. A file without services is passed over.
If tool names need only be unique within a file, each file starts without claims. -/
def generateFiles (index : TypeIndex) (settings : Settings) (claims : Claims) :
    List File → Logged (List GeneratedFile)
  | [] => pure []
  | file :: rest =>
    if file.services.isEmpty then do
      Logged.report (.fileSkipped file.name)
      generateFiles index settings claims rest
    else
      let claims := if settings.nameScope = .file then [] else claims
      let (claims, tools) := file.toolsWithSchemas index settings claims
      do
        let generated ← fileOfTools file settings (← tools)
        return generated :: (← generateFiles index settings claims rest)

def Request.settings (request : Request) : Except Failure Settings :=
  (Settings.ofParameter request.parameter).mapError (.rejected ∘ .settings)

/-- The files of a request, under settings that are given or else read from its parameter. -/
def Request.generatedFiles (request : Request) (settings? : Option Settings) :
    Logged (List GeneratedFile) := do
  let settings ← match settings? with
    | some settings => pure settings
    | none => Logged.ofExcept request.settings
  let files ← Logged.ofExcept request.filesToGenerate
  generateFiles (TypeIndex.ofFiles request.files) settings [] files

/-- The bit for fields with explicit presence, which generated modules need not know about. -/
def supportedFeatures : Nat := 1

/-- The answer to a request. -/
def generate (request : Request) (settings? : Option Settings) : Logged Response :=
  let files := request.generatedFiles settings?
  match files.result with
  | .ok generated => ⟨files.events, .ok { supportedFeatures, files := generated }⟩
  | .error (.rejected reason) =>
    ⟨files.events ++ [.refused reason.message],
      .ok { supportedFeatures, error := some reason.message }⟩
  | .error failure => ⟨files.events, .error failure⟩

end ToolBindings
