import Mathlib.Data.List.Nodup
import ToolBindings.Bindings.Layout
import ToolBindings.Proofs.Naming.Separation
import ToolBindings.Proofs.Schema.Attachment
import ToolBindings.Proofs.Tool.Selection

/-!
# The names that a module defines

A module for `n` tools defines `4 * n + 1` names: four for each tool and the
aggregator. `definedNames` lists them without looking at schemas.

* `names_ofTools`, `exists_ofTools`: these are the names of the definitions.
* `nodup_definedNames`: tools with different constants share no name of any kind.
* `isLegal_definedName`: no such name hides one that the module imports.
* `definedNames_separate`: for the tools of every file that is accepted, all of this
  holds, and comparing constants is as good as comparing any other names.
-/
namespace ToolBindings
open Naming

def supportNames : List String :=
  ["MissingInputError", "Tool", "ToolName", "is_empty_input", "require_method"]

def importedNames : List String := ["annotations", "functools", "Any"] ++ supportNames

theorem header_eq (source support : String) :
    Module.header source support =
      "# Code generated by protoc-gen-tools. DO NOT EDIT.\n" ++ "# source: " ++ source ++ "\n" ++
        "\"\"\"Agent tool bindings for " ++ source ++ ".\"\"\"\n\n" ++
        "from __future__ import annotations\n\n" ++ "import functools\n" ++
        "from typing import Any\n\n" ++ "from " ++ support ++ " import (\n" ++
        String.join (supportNames.map fun name => "    " ++ name ++ ",\n") ++ ")\n\n" := by
  unfold Module.header
  simp only [String.append_assoc]
  rfl

def Tool.partName (tool : Tool) (part : Part) : String := part.name tool.service tool.method

/-- The names of a tool beside its name constant. -/
def Tool.partNames (tool : Tool) : List String :=
  [Part.schema, .dispatch, .constructor].map tool.partName

/-- The names that the module for the tools of a file defines, in their order. -/
def definedNames (file : File) (tools : List Tool) : List String :=
  tools.map (·.constantName) ++ tools.flatMap Tool.partNames ++ [aggregatorName file.name]

/-! ## The definitions of a module -/

section
variable {file : File} {support : String} {tools : List Tool}

theorem names_definitions (tool : Tool) (schema : Schema.Node) :
    (tool.definitions schema).map (·.1) = tool.partNames := rfl

theorem definitions?_eq_ok {tool : Tool} {definitions : List (String × Definition)} :
    tool.definitions? = .ok definitions ↔
      ∃ schema, tool.schema = some schema ∧ definitions = tool.definitions schema := by
  unfold Tool.definitions?
  cases tool.schema with
  | none => exact ⟨nofun, nofun⟩
  | some schema =>
    simp only [Except.ok.injEq, Option.some.injEq, exists_eq_left', eq_comm]

theorem names_flatten {definitions : List (List (String × Definition))}
    (h : tools.mapM Tool.definitions? = .ok definitions) :
    definitions.flatten.map (·.1) = tools.flatMap Tool.partNames := by
  rw [mapM_eq_ok] at h
  induction h with
  | nil => rfl
  | cons hx _ ih =>
    obtain ⟨schema, -, rfl⟩ := definitions?_eq_ok.1 hx
    rw [List.flatten_cons, List.map_append, ih, names_definitions, List.flatMap_cons]

theorem names_ofTools {m : Module} (h : Module.ofTools file support tools = .ok m) :
    m.definitions.map (·.1) = definedNames file tools := by
  unfold Module.ofTools at h
  obtain ⟨definitions, hd, h⟩ := bind_eq_ok.1 h
  cases h
  rw [List.map_append, List.map_append, names_flatten hd, List.map_map]
  rfl

/-- Tools with schemas always have a module. -/
theorem exists_ofTools (file : File) (support : String)
    (h : ∀ tool ∈ tools, ∃ schema, tool.schema = some schema) :
    ∃ m, Module.ofTools file support tools = .ok m := by
  have hd : ∃ definitions, tools.mapM Tool.definitions? = .ok definitions := by
    refine exists_mapM_eq_ok.2 fun tool ht => ?_
    obtain ⟨schema, hs⟩ := h tool ht
    exact ⟨_, definitions?_eq_ok.2 ⟨schema, hs, rfl⟩⟩
  obtain ⟨definitions, hd⟩ := hd
  exact ⟨_, bind_eq_ok.2 ⟨definitions, hd, rfl⟩⟩

end

/-! ## Names apart -/

theorem length_definedNames (file : File) (tools : List Tool) :
    (definedNames file tools).length = 4 * tools.length + 1 := by
  have hp : (tools.flatMap Tool.partNames).length = 3 * tools.length := by
    induction tools with
    | nil => rfl
    | cons tool rest ih =>
      rw [List.flatMap_cons, List.length_append, ih, List.length_cons]
      simp only [Tool.partNames, List.length_map, List.length_cons, List.length_nil]
      omega
  unfold definedNames
  rw [List.length_append, List.length_append, List.length_map, hp, List.length_singleton]
  omega

theorem nodup_partNames (tool : Tool) : tool.partNames.Nodup :=
  List.Nodup.map_on (fun _ _ _ _ h => Part.eq_of_name_eq h) (by decide)

theorem mem_partNames {tool : Tool} {name : String} (h : name ∈ tool.partNames) :
    ∃ part, part ≠ .constant ∧ tool.partName part = name := by
  obtain ⟨part, hm, he⟩ := List.mem_map.1 h
  refine ⟨part, ?_, he⟩
  rintro rfl
  revert hm
  decide

/-- Tools whose constants are made from their methods' names and are all different share no name
of any kind. -/
theorem nodup_definedNames (file : File) {tools : List Tool}
    (hname : ∀ tool ∈ tools, tool.constantName = tool.partName .constant)
    (hd : (tools.map (·.constantName)).Nodup) : (definedNames file tools).Nodup := by
  have hparts : (tools.flatMap Tool.partNames).Nodup := by
    refine List.nodup_flatMap.2 ⟨fun tool _ => nodup_partNames tool, ?_⟩
    refine (List.pairwise_map.1 hd).imp_of_mem fun {a b} ha hb hne => ?_
    intro name hna hnb
    obtain ⟨p, -, rfl⟩ := mem_partNames hna
    obtain ⟨q, -, he⟩ := mem_partNames hnb
    have hpq := Part.eq_of_name_eq he
    subst hpq
    rw [hname a ha, hname b hb] at hne
    exact hne ((Part.name_inj q).1 he).symm
  have hsplit : ∀ name ∈ tools.map (·.constantName), name ∉ tools.flatMap Tool.partNames := by
    intro name hc hp
    obtain ⟨a, ha, rfl⟩ := List.mem_map.1 hc
    obtain ⟨b, -, hb⟩ := List.mem_flatMap.1 hp
    obtain ⟨p, hne, he⟩ := mem_partNames hb
    rw [hname a ha] at he
    exact hne (Part.eq_of_name_eq he)
  refine List.nodup_append.2 ⟨List.nodup_append.2 ⟨hd, hparts, ?_⟩, List.nodup_singleton _, ?_⟩
  · rintro name hc _ hp rfl
    exact hsplit name hc hp
  · intro name hm aggregator ha
    rw [List.mem_singleton.1 ha]
    rcases List.mem_append.1 hm with hm | hm
    · obtain ⟨tool, ht, rfl⟩ := List.mem_map.1 hm
      rw [hname tool ht]
      exact Part.name_ne_aggregatorName _ _ _ _
    · obtain ⟨tool, -, hp⟩ := List.mem_flatMap.1 hm
      obtain ⟨part, -, rfl⟩ := mem_partNames hp
      exact Part.name_ne_aggregatorName _ _ _ _

/-- Every defined name is the name of a part of a tool or the aggregator. -/
theorem mem_definedNames {file : File} {tools : List Tool}
    (hname : ∀ tool ∈ tools, tool.constantName = tool.partName .constant) {name : String}
    (h : name ∈ definedNames file tools) :
    (∃ tool ∈ tools, ∃ part, name = tool.partName part) ∨ name = aggregatorName file.name := by
  unfold definedNames at h
  rcases List.mem_append.1 h with h | h
  · refine .inl ?_
    rcases List.mem_append.1 h with h | h
    · obtain ⟨tool, ht, rfl⟩ := List.mem_map.1 h
      exact ⟨tool, ht, .constant, hname tool ht⟩
    · obtain ⟨tool, ht, hp⟩ := List.mem_flatMap.1 h
      obtain ⟨part, -, rfl⟩ := mem_partNames hp
      exact ⟨tool, ht, part, rfl⟩
  · exact .inr (List.mem_singleton.1 h)

theorem ends_importedNames : ∀ name ∈ importedNames,
    (name.toList.getLast? ≠ some 'L' ∧ name.toList.getLast? ≠ some 'A') ∧
      name.toList.head? ≠ some 'c' ∧ name.toList.head? ≠ some 'd' := by
  decide

theorem isLegal_definedName {file : File} {tools : List Tool}
    (hname : ∀ tool ∈ tools, tool.constantName = tool.partName .constant) {name : String}
    (h : name ∈ definedNames file tools) : IsLegal name ∧ name ∉ importedNames := by
  rcases mem_definedNames hname h with ⟨tool, -, part, rfl⟩ | rfl
  · refine ⟨Part.isLegal_name _ _ _, fun hi => ?_⟩
    obtain ⟨hlast, hhead⟩ := ends_importedNames _ hi
    exact Part.name_ne_of_ends hlast hhead _ _ _ rfl
  · exact ⟨isLegal_aggregatorName _, fun hi =>
      (ends_importedNames _ hi).2.2 (head_aggregatorName _)⟩

/-! ## The modules of accepted files -/

/-- For the tools of every file that is accepted, the names that the module defines are legal and
differ from one another and from all imported names; for any two methods, comparing constants
is as good as comparing any other derived names. -/
theorem definedNames_separate {file : File} {index : TypeIndex} {settings : Settings}
    {claims : Claims} {tools : List Tool}
    (h : (file.tools index settings claims).2.result = .ok tools) :
    (definedNames file tools).length = 4 * tools.length + 1 ∧
      (definedNames file tools).Nodup ∧
      (∀ name ∈ definedNames file tools, IsLegal name ∧ name ∉ importedNames) ∧
      (∀ complete, (withSchemas index tools).result = .ok complete →
        ∃ m, Module.ofTools file settings.runtimeModule complete = .ok m ∧
          m.definitions.map (·.1) = definedNames file tools) ∧
      ∀ service method service' method' : String, List.TFAE [
        constantName service method = constantName service' method',
        schemaName service method = schemaName service' method',
        dispatchName service method = dispatchName service' method',
        constructorName service method = constructorName service' method',
        toolName service method = toolName service' method'] := by
  unfold File.tools at h
  obtain ⟨hdeclared, hconstants, -⟩ := toolsAmong_eq_ok.1 h
  have hname : ∀ tool ∈ tools, tool.constantName = tool.partName .constant := by
    intro tool ht
    obtain ⟨declared, -, hd⟩ := exists_declaration hdeclared ht
    exact (Tool.names_of_ofDeclaration hd).2.2
  refine ⟨length_definedNames file tools, nodup_definedNames file hname hconstants.1,
    fun name hm => isLegal_definedName hname hm, ?_, fun _ _ _ _ => derivedNames_tfae⟩
  intro complete hc
  obtain ⟨m, hm⟩ := exists_ofTools file settings.runtimeModule fun tool ht =>
    exists_schema_of_mem hc ht
  have hconstant := map_withSchemas (f := (·.constantName)) (fun _ _ => rfl) hc
  have hparts := map_withSchemas (f := Tool.partNames) (fun _ _ => rfl) hc
  refine ⟨m, hm, ?_⟩
  rw [names_ofTools hm, definedNames, definedNames, hconstant, List.flatMap_def, hparts,
    ← List.flatMap_def]

/-- Two services with three tools, one of them named like a keyword, and a method that is no
tool. -/
def shopFile : File :=
  let tool (name : String) : Method :=
    { name, input := ".shop.Order", options := ToolMetadata.toOptions {} }
  { name := "shop/v1/shop.proto"
    package := "shop"
    messages := [{ name := "Order" }]
    services := [{ name := "Shop", methods := [tool "PlaceOrder", tool "import"] },
      { name := "Depot"
        methods := [tool "PlaceOrder", { name := "Other", input := "Unknown" }] }] }

theorem definedNames_separate_shop : ∃ tools,
    (shopFile.tools (.ofFiles [shopFile]) {} []).2.result = .ok tools ∧ tools.length = 3 ∧
      (definedNames shopFile tools).length = 13 ∧ (definedNames shopFile tools).Nodup := by
  have h : ((shopFile.tools (.ofFiles [shopFile]) {} []).2.result.toOption.map List.length) =
      some 3 := by
    decide +kernel
  obtain ⟨tools, ht, hl⟩ := Option.map_eq_some_iff.1 h
  rw [toOption_eq_some] at ht
  obtain ⟨hlength, hnodup, -⟩ := definedNames_separate ht
  exact ⟨tools, ht, hl, by rw [hlength, hl], hnodup⟩

end ToolBindings
