import ToolBindings.Proofs.Tool.Visibility

/-!
# What of a request is seen

The answer to a request depends on the parameter, on the files that are asked for as far
as they are seen, and on the types that are looked up from the inputs of their tools. It
does not depend on anything else, neither when it has files nor when it has an error.

* `Request.Sees`: the types that are looked up for a request.
* `filesToGenerate_of_view`, `generateFiles_of_view`: requests that look the same, file by file.
* `generate_of_view`: requests that look the same have the same answer.
-/
namespace ToolBindings
open Relation (ReflTransGen)

/-- A type is looked up for a request if it is reached from the input of a tool in one of the files
that are asked for. -/
def Request.Sees (request : Request) (type : String) : Prop :=
  ∃ name ∈ request.toGenerate, ∃ file, File.find? request.files name = some file ∧
    ∃ input ∈ file.inputs, ReflTransGen (LooksUp (.ofFiles request.files)) input type

section
variable {seen : String → Prop} {index index' : TypeIndex} {settings : Settings}
  {claims : Claims} {request other : Request}

theorem sameAt_sees
    (h : ∀ type, request.Sees type →
      (TypeIndex.ofFiles request.files).view? type = (TypeIndex.ofFiles other.files).view? type) :
    SameAt request.Sees (.ofFiles request.files) (.ofFiles other.files) where
  closed := by
    rintro name target ⟨file, hm, found, hf, input, hi, hreach⟩ hlooks
    exact ⟨file, hm, found, hf, input, hi, hreach.tail hlooks⟩
  same := h _

/-- Names that hold the inputs and all names that are looked up from them hold all types that are
looked up for the request. -/
theorem mem_of_sees {names : List String}
    (hinputs : ∀ name ∈ request.toGenerate, ∀ file ∈ File.find? request.files name,
      ∀ input ∈ file.inputs, input ∈ names)
    (hclosed : ∀ name ∈ names, ∀ message ∈ (TypeIndex.ofFiles request.files).find? name,
      ∀ field ∈ message.fields, ∀ target ∈ field.lookups (.ofFiles request.files), target ∈ names)
    {type : String} (h : request.Sees type) : type ∈ names := by
  obtain ⟨name, hn, file, hf, input, hi, hreach⟩ := h
  induction hreach with
  | refl => exact hinputs name hn file hf input hi
  | tail _ hstep ih =>
    obtain ⟨message, hm, field, hfield, ht⟩ := hstep
    exact hclosed _ ih message hm field hfield _ ht

/-- Files that look the same are generated in the same way, given the same claims. The induction is
on the files. -/
theorem generateFiles_of_view (hsame : SameAt seen index index') {files files' : List File}
    (hv : files.map File.view = files'.map File.view)
    (hseen : ∀ file ∈ files, ∀ input ∈ file.inputs, seen input) :
    (generateFiles index settings claims files).result =
      (generateFiles index' settings claims files').result := by
  induction files generalizing files' claims with
  | nil =>
    obtain rfl : files' = [] := by simpa using hv.symm
    rfl
  | cons file rest ih =>
    obtain ⟨file', rest', rfl, hfile, hrest⟩ := List.map_eq_cons_iff.1 hv.symm
    have ih := fun claims => @ih claims _ hrest.symm fun f hm =>
      hseen f (List.mem_cons_of_mem _ hm)
    have hname : file.name = file'.name := congrArg FileView.name hfile.symm
    have hservices : file.services.isEmpty = file'.services.isEmpty :=
      Bool.not_inj (congrArg FileView.hasServices hfile.symm)
    rw [generateFiles, generateFiles, ← hservices]
    split
    · rw [Logged.result_bind, Logged.result_bind]
      exact ih claims
    have htools : outcome (file.toolsWithSchemas index settings
          (if settings.nameScope = .file then [] else claims)) =
        outcome (file'.toolsWithSchemas index' settings
          (if settings.nameScope = .file then [] else claims)) :=
      toolsWithSchemas_of_view hsame hfile.symm (hseen file List.mem_cons_self)
    unfold outcome at htools
    simp only [Prod.mk.injEq] at htools
    simp only [Logged.result_bind, ← htools.1, ← htools.2, ih, fileOfTools_of_name hname]

/-- The files that are asked for look the same, or the same file is missing. -/
theorem filesToGenerate_of_view (hnames : request.toGenerate = other.toGenerate)
    (hfiles : ∀ name ∈ request.toGenerate,
      (File.find? request.files name).map File.view = (File.find? other.files name).map File.view) :
    request.filesToGenerate.map (·.map File.view) =
      other.filesToGenerate.map (·.map File.view) := by
  unfold Request.filesToGenerate
  rw [map_mapM, map_mapM, ← hnames]
  refine mapM_congr_of_mem fun name hm => ?_
  have hfile := hfiles name hm
  cases hf : File.find? request.files name with
  | none =>
    rw [hf, Option.map_none, eq_comm, Option.map_eq_none_iff] at hfile
    rw [hfile]
  | some file =>
    rw [hf, Option.map_some, eq_comm, Option.map_eq_some_iff] at hfile
    obtain ⟨file', hf', hv⟩ := hfile
    rw [hf']
    exact congrArg Except.ok hv.symm

theorem generatedFiles_of_view (hparameter : request.parameter = other.parameter)
    (hnames : request.toGenerate = other.toGenerate)
    (hfiles : ∀ name ∈ request.toGenerate,
      (File.find? request.files name).map File.view = (File.find? other.files name).map File.view)
    (htypes : ∀ type, request.Sees type →
      (TypeIndex.ofFiles request.files).view? type = (TypeIndex.ofFiles other.files).view? type)
    (settings? : Option Settings) :
    (request.generatedFiles settings?).result = (other.generatedFiles settings?).result := by
  have hsettings : request.settings = other.settings := by
    unfold Request.settings
    rw [hparameter]
  have hfound := filesToGenerate_of_view hnames hfiles
  have hrun : ∀ settings,
      (request.filesToGenerate >>= fun files =>
        (generateFiles (.ofFiles request.files) settings [] files).result) =
      (other.filesToGenerate >>= fun files =>
        (generateFiles (.ofFiles other.files) settings [] files).result) := by
    intro settings
    cases hf : request.filesToGenerate with
    | error failure =>
      cases hf' : other.filesToGenerate with
      | error failure' => rw [hf, hf'] at hfound; cases hfound; rw [error_bind, error_bind]
      | ok files' => rw [hf, hf'] at hfound; cases hfound
    | ok files =>
      rw [hf, eq_comm] at hfound
      obtain ⟨files', hf', hv⟩ := map_eq_ok.1 hfound
      rw [hf', ok_bind, ok_bind]
      refine generateFiles_of_view (sameAt_sees htypes) hv.symm fun file hm input hi => ?_
      obtain ⟨name, hname, hfile⟩ := find?_of_mem_filesToGenerate hf hm
      exact ⟨name, hname, file, hfile, input, hi, .refl⟩
  unfold Request.generatedFiles
  rw [hsettings]
  cases settings? with
  | some settings =>
    simp only [Logged.result_bind, Logged.result_ofExcept, Logged.result_pure, ok_bind]
    exact hrun settings
  | none =>
    simp only [Logged.result_bind, Logged.result_ofExcept]
    exact bind_congr_of_ok fun settings _ => hrun settings

/-- Requests that look the same have the same answer: the same files with the same contents, or the
same error. -/
theorem generate_of_view (hparameter : request.parameter = other.parameter)
    (hnames : request.toGenerate = other.toGenerate)
    (hfiles : ∀ name ∈ request.toGenerate,
      (File.find? request.files name).map File.view = (File.find? other.files name).map File.view)
    (htypes : ∀ type, request.Sees type →
      (TypeIndex.ofFiles request.files).view? type = (TypeIndex.ofFiles other.files).view? type)
    (settings? : Option Settings) :
    (generate request settings?).result = (generate other settings?).result := by
  have h := generatedFiles_of_view hparameter hnames hfiles htypes settings?
  unfold generate
  simp only [← h]
  split <;> rfl

end

/-- A shop with one tool, whose input holds its own type in a list and another type in a map; the
tool comes behind some methods and returns something, and there are types beside its input. -/
def marketRequest (others : List Method) (output : String) (types : List Message) : Request :=
  let order (name typeName : String) : Field :=
    { name, typeName, label := .repeated, type := .message
      options := FieldMetadata.toOptions { description := "Of the order.", required := true } }
  let entry : Message :=
    { name := "LinesEntry", mapEntry := true, fields := [
        { name := "key", number := 1, type := .string },
        { name := "value", number := 2, type := .message, typeName := ".market.Line" }] }
  { toGenerate := ["market.proto"]
    files := [{
      name := "market.proto"
      package := "market"
      messages := { name := "Line", fields := [{ name := "price", type := .double }] } ::
        { name := "Order", nested := entry :: types, fields := [
            order "parts" ".market.Order", order "lines" ".market.Order.LinesEntry"] } :: types
      services := [{ name := "Market", methods := others ++ [
        { name := "PlaceOrder", input := ".market.Order", output
          options := ToolMetadata.toOptions { description := "Places an order." } }] }] }] }

/-- The shop with a method that is no tool, another type returned, and a type that would be
refused. -/
def crowdedRequest : Request :=
  marketRequest [{ name := "Audit", input := ".market.Nothing", clientStreaming := true }]
    ".market.Draft" [{ name := "Draft", fields := [{ name := "body", type := .group }] }]

def marketTypes : List String := [".market.Order", ".market.Order.LinesEntry", ".market.Line"]

theorem generate_of_view_market :
    (generate crowdedRequest none).result = (generate (marketRequest [] "" []) none).result := by
  have hinputs : ∀ name ∈ crowdedRequest.toGenerate,
      ∀ file ∈ File.find? crowdedRequest.files name, ∀ input ∈ file.inputs,
        input ∈ marketTypes := by
    decide +kernel
  have hclosed : ∀ name ∈ marketTypes,
      ∀ message ∈ (TypeIndex.ofFiles crowdedRequest.files).find? name,
        ∀ field ∈ message.fields,
          ∀ target ∈ field.lookups (.ofFiles crowdedRequest.files), target ∈ marketTypes := by
    decide +kernel
  have hviews : ∀ type ∈ marketTypes, (TypeIndex.ofFiles crowdedRequest.files).view? type =
      (TypeIndex.ofFiles (marketRequest [] "" []).files).view? type := by
    decide +kernel
  have hfiles : ∀ name ∈ crowdedRequest.toGenerate,
      (File.find? crowdedRequest.files name).map File.view =
        (File.find? (marketRequest [] "" []).files name).map File.view := by
    decide +kernel
  exact @generate_of_view crowdedRequest (marketRequest [] "" []) rfl rfl hfiles
    (fun type h => hviews type (mem_of_sees hinputs hclosed h)) none

end ToolBindings
