import ToolBindings.Proofs.Schema.Attachment
import ToolBindings.Proofs.Schema.Descent
import ToolBindings.Proofs.Schema.Unfolding
import ToolBindings.Proofs.Tool.Requirement

/-!
# A tool and the schema of its input

A tool lists the fields of its input that carry metadata, and its schema describes all
fields. The two are made apart from one another and say the same.

* `Tool.Agrees`: what the two have to agree on.
* `agrees_of_parts`: the fields of a tool and the parts of a schema that come from the same
  message type agree.
* `agrees_of_mem`: each tool of a file agrees with its schema.
-/
namespace ToolBindings

/-- The fields that a tool lists and the schema that it has describe the same input: the message
type `input`, of whose schema the properties and the required names are given. -/
structure Tool.Agrees (tool : Tool) (index : TypeIndex) (settings : Settings) (input : Message)
    (properties : List (String × Schema.Node)) (required : List String) : Prop where
  names : properties.map (·.1) = input.fields.map (·.name)
  required_eq : required = (tool.fields.filter (·.required)).map (·.name)
  inputRequired_iff : tool.inputRequired = true ↔ required ≠ []
  listed : List.Forall₂
    (fun field spec => FieldSpec.ofField index (withoutDots tool.inputType) field = .ok spec)
    (input.fields.filter fun field => (FieldMetadata.stated? field.options).isSome) tool.fields
  described : ∀ field ∈ input.fields, ∃ node, properties.lookup field.name = some node ∧
    (∀ spec ∈ tool.fields, spec.name = field.name →
      node.description = spec.description ∧ node.sample = spec.sample) ∧
    (FieldMetadata.stated? field.options = none → node.description = "" ∧ node.sample = "")
  complete : settings.requireDescriptions = true → tool.description ≠ "" ∧
    ∀ name ∈ required, ∃ node, properties.lookup name = some node ∧ node.description ≠ ""

section
variable {file : File} {index : TypeIndex} {settings : Settings} {claims : Claims}
  {owner : String} {active : List String} {tools complete : List Tool} {tool : Tool}
  {fields : List Field} {specs : List FieldSpec} {parts : List (FieldSpec × Schema.Node)}

theorem listed_of_ofField
    (h : List.Forall₂ (fun field spec => FieldSpec.ofField index owner field = .ok spec)
      fields specs) :
    List.Forall₂ (fun field spec => FieldSpec.ofField index owner field = .ok spec)
      (fields.filter fun field => (FieldMetadata.stated? field.options).isSome)
      (specs.filter (·.annotated)) := by
  refine List.rel_filter (fun field spec hs => ?_) h
  obtain ⟨-, -, -, hannotated⟩ := stated_of_ofField hs
  exact iff_of_eq (congrArg (· = true) hannotated.symm)

/-- What a part says of its field is what the field's specification says. -/
theorem metadata_of_part {field : Field} {part : FieldSpec × Schema.Node}
    (h : Schema.Expands index active owner field part) :
    part.2.description = part.1.description ∧ part.2.sample = part.1.sample := by
  obtain ⟨-, value, hv, hn⟩ := h
  rw [hn]
  exact Schema.metadata_fieldNode _ hv

/-- What a tool lists agrees with the parts of a schema that come from the same fields. -/
theorem agrees_of_parts {input : Message} (hd : (input.fields.map (·.name)).Nodup)
    (hf : Tool.annotatedFields settings index (withoutDots tool.inputType) input.fields =
      .ok tool.fields)
    (hparts : List.Forall₂ (Schema.Expands index active (withoutDots tool.inputType))
      input.fields parts)
    (hdescription : settings.requireDescriptions = true → tool.description ≠ "") :
    tool.Agrees index settings input (parts.map fun part => (part.1.name, part.2))
      ((parts.filter (·.1.required)).map (·.1.name)) := by
  have hrequired := filter_required_annotatedFields hf hparts
  have hlookup := @Schema.lookup_of_part _ _ _ _ _ hparts hd
  obtain ⟨all, hall, hcomplete, hfields⟩ := Tool.annotatedFields_eq_ok.1 hf
  obtain rfl := specs_of_parts hall hparts
  constructor
  case names =>
    rw [List.map_map, ← Schema.names_of_parts hparts]
    rfl
  case required_eq =>
    rw [hrequired, List.map_map]
    rfl
  case inputRequired_iff =>
    rw [Tool.inputRequired, any_eq_not_isEmpty, hrequired, List.isEmpty_map, Bool.not_eq_true',
      List.isEmpty_eq_false_iff, ne_eq, ne_eq, List.map_eq_nil_iff]
  case listed =>
    rw [hfields]
    exact listed_of_ofField hall
  case described =>
    intro field hm
    obtain ⟨part, -, he, hl⟩ := Schema.part_of_mem hparts hd hm
    refine ⟨part.2, hl, fun spec hs hname => ?_, fun hnone => ?_⟩
    · rw [hfields] at hs
      obtain ⟨other, hother, rfl⟩ := List.mem_map.1 (List.mem_filter.1 hs).1
      obtain ⟨field', -, he'⟩ := exists_of_forall₂ hparts.flip hother
      have hsame := hlookup hother
      rw [hname, hl, Option.some.injEq] at hsame
      rw [hsame]
      exact metadata_of_part he'
    · obtain ⟨hdesc, hsample⟩ := metadata_of_part he
      obtain ⟨hd', hs', -, -⟩ := stated_of_ofField he.1
      rw [hdesc, hsample, hd', hs', Field.stated, hnone]
      exact ⟨rfl, rfl⟩
  case complete =>
    intro hr
    refine ⟨hdescription hr, fun name hm => ?_⟩
    obtain ⟨part, hpart, rfl⟩ := List.mem_map.1 hm
    obtain ⟨hin, hreq⟩ := List.mem_filter.1 hpart
    obtain ⟨field, -, he⟩ := exists_of_forall₂ hparts.flip hin
    refine ⟨part.2, hlookup hin, ?_⟩
    rw [(metadata_of_part he).1]
    exact hcomplete hr part.1 (List.mem_map_of_mem hin) hreq

end

/-- Each tool of a file agrees with the schema of its input. -/
theorem agrees_of_mem {file : File} {index : TypeIndex} {settings : Settings} {claims : Claims}
    {tools complete : List Tool} (hd : index.HasDistinctFields)
    (h : (file.tools index settings claims).2.result = .ok tools)
    (hw : (withSchemas index tools).result = .ok complete) :
    ∀ tool ∈ complete, ∃ input schema properties required,
      index.find? tool.inputType = some input ∧ tool.schema = some schema ∧
      schema.properties = some properties ∧ schema.required = some required ∧
      tool.Agrees index settings input properties required := by
  intro tool hm
  obtain ⟨bare, hbare, schema, hschema, rfl⟩ := exists_of_forall₂ (withSchemas_eq_ok.1 hw).flip hm
  obtain ⟨declared, -, hdeclared⟩ := exists_declaration (toolsAmong_eq_ok.1 h).1 hbare
  obtain ⟨metadata, -, ho⟩ := Tool.ofDeclaration_eq_some.1 hdeclared
  obtain ⟨hcheck, input, fields, hi, hf, rfl⟩ := Tool.ofMethod_eq_ok.1 ho
  obtain ⟨-, -, -, hdescription, -⟩ := Tool.checkDeclaration_eq_ok.1 hcheck
  obtain ⟨message, parts, hmessage, hparts, rfl⟩ := Schema.ofType_eq_ok.1 hschema
  rw [resolve_eq_ok, hmessage, Option.some.injEq] at hi
  subst hi
  have hnames := hd _ _ hmessage
  exact ⟨message, _, _, _, hmessage, rfl, Schema.properties_messageNode hparts hnames, rfl,
    agrees_of_parts hnames hf hparts hdescription⟩

/-- Two tools, one of which takes fields of every kind. -/
def postFile : File :=
  let described (description : String) (required : Bool) : Octets :=
    FieldMetadata.toOptions { description, required }
  { name := "post.proto"
    package := "post"
    messages := [
      { name := "Letter", fields := [
          { name := "weight", type := .int32, options := described "In grams." true },
          { name := "note", type := .string },
          { name := "to", type := .message, typeName := ".post.Person"
            options := described "Who gets it." true },
          { name := "stamps", type := .string, label := .repeated
            options := described "What is on it." false },
          { name := "answer", type := .message, typeName := ".post.Letter" }] },
      { name := "Person", fields := [{ name := "name", type := .string }] }]
    services := [{ name := "Post", methods := [
      { name := "Send", input := ".post.Letter"
        options := ToolMetadata.toOptions { description := "Sends a letter." } },
      { name := "Find", input := ".post.Person"
        options := ToolMetadata.toOptions { description := "Finds a person." } }] }] }

theorem agrees_of_mem_post : ∃ tools complete,
    (postFile.tools (.ofFiles [postFile]) { requireDescriptions := true } []).2.result = .ok tools ∧
      (withSchemas (.ofFiles [postFile]) tools).result = .ok complete ∧ complete.length = 2 ∧
      ∀ tool ∈ complete, ∃ input schema properties required,
        (TypeIndex.ofFiles [postFile]).find? tool.inputType = some input ∧
          tool.schema = some schema ∧ schema.properties = some properties ∧
          schema.required = some required ∧
          tool.Agrees (.ofFiles [postFile]) { requireDescriptions := true } input properties
            required := by
  have hd : (TypeIndex.ofFiles [postFile]).HasDistinctFields :=
    TypeIndex.hasDistinctFields_of_entries (by decide)
  have hpass : Option.map List.length (Option.bind
      (postFile.tools (.ofFiles [postFile]) { requireDescriptions := true } []).2.result.toOption
      fun tools => (withSchemas (.ofFiles [postFile]) tools).result.toOption) = some 2 := by
    decide +kernel
  obtain ⟨complete, hcomplete, hlength⟩ := Option.map_eq_some_iff.1 hpass
  obtain ⟨tools, htools, hschemas⟩ := Option.bind_eq_some_iff.1 hcomplete
  rw [toOption_eq_some] at htools hschemas
  exact ⟨tools, complete, htools, hschemas, hlength, agrees_of_mem hd htools hschemas⟩

end ToolBindings
