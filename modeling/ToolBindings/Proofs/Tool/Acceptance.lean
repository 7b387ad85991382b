import ToolBindings.Proofs.Naming.Canonical
import ToolBindings.Proofs.Tool.Input
import ToolBindings.Proofs.Tool.Residue

/-!
# Which files are accepted

The methods of a file are looked at one after the other, and the first that is not in order ends the
search for tools. What decides in the end does not depend on an order: what each annotated method is
by itself, and that no two of them have the same names.

* `File.annotated`, `File.IsReadable`: the methods of a file that carry tool metadata.
* `Tool.IsInOrder`, `exists_ofMethod_iff`: when an annotated method is a tool by itself.
* `Tool.IsOf`, `isOf_ofMethod`: which tool it then is.
* `declaredTools_eq_ok`: the tools of some methods are those of the annotated ones.
* `File.IsAcceptable`, `accepts_iff`: the files that are accepted, and their tools.
-/
namespace ToolBindings

/-! ## Annotated methods -/

/-- The methods of a file that carry tool metadata, with this metadata, in the order of
declaration. -/
def File.annotated (file : File) : List ((String × Method) × ToolMetadata) :=
  file.methods.filterMap fun declared => (annotation? declared).map (declared, ·)

/-- Whether the options of all methods can be read. -/
def File.IsReadable (file : File) : Prop :=
  ∀ declared ∈ file.methods, ∃ metadata?, declared.2.metadata = .ok metadata?

namespace Tool

variable (file : File) (index : TypeIndex) (settings : Settings)
  (entry : (String × Method) × ToolMetadata)

/-- The tool name of an annotated method: the one that it declares, or else the derived one. -/
def nameOf : String :=
  if entry.2.name = "" then Naming.toolName entry.1.1 entry.1.2.name else entry.2.name

def constantOf : String := Naming.constantName entry.1.1 entry.1.2.name

/-- A message type that can be the input of an annotated method. -/
structure IsInput (input : Message) : Prop where
  found : index.find? entry.1.2.input = some input
  specified : ∀ field ∈ input.fields, ∃ spec,
    FieldSpec.ofField index (withoutDots entry.1.2.input) field = .ok spec
  described : settings.requireDescriptions = true → ∀ field ∈ input.fields,
    field.stated.required = true → field.stated.description ≠ ""

/-- An annotated method that is in order by itself. -/
structure IsInOrder : Prop where
  unary : entry.1.2.clientStreaming = false ∧ entry.1.2.serverStreaming = false
  name_length : 1 ≤ (nameOf entry).length ∧ (nameOf entry).length ≤ 64
  name_chars : ∀ c ∈ (nameOf entry).toList, Naming.IsNameChar c
  described : settings.requireDescriptions = true → entry.2.description ≠ ""
  input : ∃ input, IsInput index settings entry input

/-- A tool is that of an annotated method. It has the method's names and the type of its input, and
it lists those fields of the input that carry metadata. -/
structure IsOf (tool : Tool) : Prop where
  name : tool.name = nameOf entry
  constantName : tool.constantName = constantOf entry
  description : tool.description = entry.2.description
  service : tool.service = entry.1.1
  method : tool.method = entry.1.2.name
  fullMethodName : tool.fullMethodName = qualifiedName file.package [entry.1.1, entry.1.2.name]
  inputType : tool.inputType = entry.1.2.input
  fields : ∃ input, index.find? entry.1.2.input = some input ∧
    List.Forall₂
      (fun field spec => FieldSpec.ofField index (withoutDots entry.1.2.input) field = .ok spec)
      (input.fields.filter fun field => (FieldMetadata.stated? field.options).isSome) tool.fields
  schema : tool.schema = none

end Tool

/-- A file whose annotated methods are in order and have names of their own, of which the tool names
are not in use either. -/
structure File.IsAcceptable (file : File) (index : TypeIndex) (settings : Settings)
    (claims : Claims) : Prop where
  inOrder : ∀ entry ∈ file.annotated, Tool.IsInOrder index settings entry
  constants : (file.annotated.map Tool.constantOf).Nodup
  names : (file.annotated.map Tool.nameOf).Nodup
  unclaimed : ∀ name ∈ file.annotated.map Tool.nameOf, name ∉ claims.map (·.1)

section
variable {file : File} {index : TypeIndex} {settings : Settings} {claims : Claims}
  {owner : String} {entry : (String × Method) × ToolMetadata} {methods : List (String × Method)}
  {entries : List ((String × Method) × ToolMetadata)} {fields : List Field} {tool : Tool}
  {tools : List Tool}

/-! ## One method -/

theorem exists_annotatedFields_iff :
    (∃ specs, Tool.annotatedFields settings index owner fields = .ok specs) ↔
      (∀ field ∈ fields, ∃ spec, FieldSpec.ofField index owner field = .ok spec) ∧
        (settings.requireDescriptions = true → ∀ field ∈ fields,
          field.stated.required = true → field.stated.description ≠ "") := by
  simp only [Tool.annotatedFields_eq_ok]
  constructor
  · intro h
    obtain ⟨specs, all, hall, hdescribed, -⟩ := h
    refine ⟨exists_forall₂.1 ⟨all, hall⟩, fun hsettings field hfield hrequired => ?_⟩
    obtain ⟨spec, hspec, hof⟩ := exists_of_forall₂ hall hfield
    obtain ⟨hdescription, -, hsame, -⟩ := stated_of_ofField hof
    rw [← hdescription]
    exact hdescribed hsettings spec hspec (hsame.trans hrequired)
  · intro h
    obtain ⟨hspecified, hdescribed⟩ := h
    obtain ⟨all, hall⟩ := exists_forall₂.2 hspecified
    refine ⟨_, all, hall, fun hsettings spec hspec hrequired => ?_, rfl⟩
    obtain ⟨field, hfield, hof⟩ := exists_of_forall₂ hall.flip hspec
    obtain ⟨hdescription, -, hsame, -⟩ := stated_of_ofField hof
    rw [hdescription]
    exact hdescribed hsettings field hfield (hsame.symm.trans hrequired)

theorem exists_ofMethod_iff :
    (∃ tool, Tool.ofMethod file index settings [] entry.1.1 entry.1.2 entry.2 = .ok tool) ↔
      Tool.IsInOrder index settings entry := by
  simp only [Tool.ofMethod_eq_ok, Tool.checkDeclaration_eq_ok, Naming.isToolName_iff, resolve_eq_ok]
  constructor
  · intro h
    obtain ⟨tool, ⟨hclient, hserver, ⟨hpositive, hlength, hchars⟩, hdescribed, -⟩,
      input, specs, hinput, hspecs, -⟩ := h
    obtain ⟨hspecified, hfields⟩ := exists_annotatedFields_iff.1 ⟨specs, hspecs⟩
    exact ⟨⟨hclient, hserver⟩, ⟨hpositive, hlength⟩, hchars, hdescribed,
      input, hinput, hspecified, hfields⟩
  · intro h
    obtain ⟨⟨hclient, hserver⟩, ⟨hpositive, hlength⟩, hchars, hdescribed,
      input, hinput, hspecified, hfields⟩ := h
    obtain ⟨specs, hspecs⟩ := exists_annotatedFields_iff.2 ⟨hspecified, hfields⟩
    exact ⟨_, ⟨hclient, hserver, ⟨hpositive, hlength, hchars⟩, hdescribed, rfl⟩,
      input, specs, hinput, hspecs, rfl⟩

theorem isOf_ofMethod
    (h : Tool.ofMethod file index settings [] entry.1.1 entry.1.2 entry.2 = .ok tool) :
    Tool.IsOf file index entry tool := by
  obtain ⟨-, input, specs, hinput, hspecs, rfl⟩ := Tool.ofMethod_eq_ok.1 h
  obtain ⟨all, hall, -, rfl⟩ := Tool.annotatedFields_eq_ok.1 hspecs
  exact {
    name := rfl, constantName := rfl, description := rfl, service := rfl, method := rfl
    fullMethodName := rfl, inputType := rfl, schema := rfl
    fields := ⟨input, resolve_eq_ok.1 hinput, listed_of_ofField hall⟩ }

/-! ## All methods of a file -/

/-- What some methods are by themselves is what the annotated ones among them are. -/
theorem declaredTools_eq_ok :
    declaredTools file index settings methods = .ok tools ↔
      (∀ declared ∈ methods, ∃ metadata?, declared.2.metadata = .ok metadata?) ∧
        List.Forall₂ (fun entry tool =>
            Tool.ofMethod file index settings [] entry.1.1 entry.1.2 entry.2 = .ok tool)
          (methods.filterMap fun declared => (annotation? declared).map (declared, ·)) tools := by
  induction methods generalizing tools with
  | nil =>
    rw [declaredTools_nil, List.filterMap_nil, List.forall₂_nil_left_iff, Except.ok.injEq, eq_comm]
    exact ⟨fun h => ⟨nofun, h⟩, fun h => h.2⟩
  | cons declared rest ih =>
    rw [declaredTools_cons, List.forall_mem_cons]
    constructor
    · intro h
      obtain ⟨found, others, hfound, hothers, rfl⟩ := h
      obtain ⟨hreadable, hrest⟩ := ih.1 hothers
      cases found with
      | none =>
        have hm := Tool.ofDeclaration_eq_none.1 hfound
        rw [List.filterMap_cons_none (by rw [annotation?_of_metadata hm]; rfl)]
        exact ⟨⟨⟨none, hm⟩, hreadable⟩, hrest⟩
      | some tool =>
        obtain ⟨metadata, hm, htool⟩ := Tool.ofDeclaration_eq_some.1 hfound
        rw [List.filterMap_cons_some (by rw [annotation?_of_metadata hm]; rfl)]
        exact ⟨⟨⟨some metadata, hm⟩, hreadable⟩, .cons htool hrest⟩
    · intro h
      obtain ⟨⟨⟨metadata?, hm⟩, hreadable⟩, hrest⟩ := h
      cases metadata? with
      | none =>
        rw [List.filterMap_cons_none (by rw [annotation?_of_metadata hm]; rfl)] at hrest
        exact ⟨none, tools, Tool.ofDeclaration_eq_none.2 hm, ih.2 ⟨hreadable, hrest⟩, rfl⟩
      | some metadata =>
        rw [List.filterMap_cons_some (by rw [annotation?_of_metadata hm]; rfl)] at hrest
        obtain ⟨tool, others, htool, hothers, rfl⟩ := List.forall₂_cons_left_iff.1 hrest
        have hfound := Tool.ofDeclaration_eq_some.2 ⟨metadata, hm, htool⟩
        exact ⟨some tool, others, hfound, ih.2 ⟨hreadable, hothers⟩, rfl⟩

theorem names_of_isOf (h : List.Forall₂ (Tool.IsOf file index) entries tools) :
    tools.map (·.name) = entries.map Tool.nameOf ∧
      tools.map (·.constantName) = entries.map Tool.constantOf := by
  induction h with
  | nil => exact ⟨rfl, rfl⟩
  | cons hof _ ih =>
    obtain ⟨hnames, hconstants⟩ := ih
    rw [List.map_cons, List.map_cons, List.map_cons, List.map_cons, hnames, hconstants, hof.name,
      hof.constantName]
    exact ⟨rfl, rfl⟩

/-- The search succeeds exactly if every method can be read, each annotated one is a tool by itself,
and the names of these methods are free. -/
theorem tools_eq_ok :
    (file.tools index settings claims).2.result = .ok tools ↔
      file.IsReadable ∧
        List.Forall₂ (fun entry tool =>
          Tool.ofMethod file index settings [] entry.1.1 entry.1.2 entry.2 = .ok tool)
          file.annotated tools ∧
        (file.annotated.map Tool.constantOf).Nodup ∧
        AreFree (claims.map (·.1)) (file.annotated.map Tool.nameOf) := by
  unfold File.tools
  rw [toolsAmong_eq_ok, declaredTools_eq_ok, List.map_nil, areFree_nil_left, and_assoc]
  refine and_congr_right fun _ => and_congr_right fun htools => ?_
  obtain ⟨hnames, hconstants⟩ := names_of_isOf (htools.imp fun _ _ => isOf_ofMethod)
  rw [hnames, hconstants]
  rfl

end

/-- A file whose options can be read is accepted exactly if it is acceptable. The tools are then
those of its annotated methods, one for each and in the order of declaration. -/
theorem accepts_iff (file : File) (index : TypeIndex) (settings : Settings) (claims : Claims) :
    ((∃ tools, (file.tools index settings claims).2.result = .ok tools) ↔
      file.IsReadable ∧ file.IsAcceptable index settings claims) ∧
    ∀ tools, (file.tools index settings claims).2.result = .ok tools →
      List.Forall₂ (Tool.IsOf file index) file.annotated tools := by
  simp only [tools_eq_ok]
  refine ⟨⟨?_, ?_⟩, ?_⟩
  · intro h
    obtain ⟨tools, hreadable, htools, hconstants, hnames, hunclaimed⟩ := h
    have hinOrder := exists_forall₂.1 ⟨tools, htools⟩
    exact ⟨hreadable, fun entry hentry => exists_ofMethod_iff.1 (hinOrder entry hentry), hconstants,
      hnames, hunclaimed⟩
  · intro h
    obtain ⟨hreadable, hinOrder, hconstants, hnames, hunclaimed⟩ := h
    obtain ⟨tools, htools⟩ :=
      exists_forall₂.2 fun entry hentry => exists_ofMethod_iff.2 (hinOrder entry hentry)
    exact ⟨tools, hreadable, htools, hconstants, hnames, hunclaimed⟩
  · rintro tools ⟨-, htools, -⟩
    exact htools.imp fun _ _ => isOf_ofMethod

end ToolBindings
