import ToolBindings.Proofs.Journal.Success
import ToolBindings.Schema.Expansion

/-!
# Tools with the schemas of their inputs

* `withSchemas_eq_ok`: each tool gets the schema of its input and is the same
  otherwise.
* `map_withSchemas`: whatever does not look at schemas is not changed.
-/
namespace ToolBindings

variable {index : TypeIndex} {tool described : Tool} {tools complete : List Tool}

theorem withSchema_eq_ok :
    (tool.withSchema index).result = .ok described ↔
      ∃ schema, (Schema.ofType index [] tool.inputType).result = .ok schema ∧
        described = { tool with schema := some schema } := by
  unfold Tool.withSchema
  rw [Logged.result_bind, bind_eq_ok]
  simp only [Logged.result_pure, Except.ok.injEq, eq_comm (a := described)]

theorem withSchemas_eq_ok :
    (withSchemas index tools).result = .ok complete ↔
      List.Forall₂ (fun tool described =>
        ∃ schema, (Schema.ofType index [] tool.inputType).result = .ok schema ∧
          described = { tool with schema := some schema }) tools complete := by
  unfold withSchemas
  rw [Logged.result_mapM, mapM_eq_ok]
  simp only [withSchema_eq_ok]

theorem map_withSchemas {α : Type} {f : Tool → α}
    (hf : ∀ (tool : Tool) schema, f { tool with schema := some schema } = f tool)
    (h : (withSchemas index tools).result = .ok complete) : complete.map f = tools.map f := by
  rw [withSchemas_eq_ok] at h
  induction h with
  | nil => rfl
  | cons hd _ ih =>
    obtain ⟨schema, -, rfl⟩ := hd
    rw [List.map_cons, List.map_cons, hf, ih]

theorem exists_schema_of_mem (h : (withSchemas index tools).result = .ok complete)
    (hm : described ∈ complete) : ∃ schema, described.schema = some schema := by
  rw [withSchemas_eq_ok] at h
  induction h with
  | nil => cases hm
  | cons hd _ ih =>
    rcases List.mem_cons.1 hm with rfl | hm
    · obtain ⟨schema, -, rfl⟩ := hd
      exact ⟨schema, rfl⟩
    · exact ih hm

end ToolBindings
