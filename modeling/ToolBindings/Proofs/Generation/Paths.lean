import ToolBindings.Proofs.Generation.Outcome

/-!
# The names of generated files

The ending of a schema file's name is taken off if it is there and the suffix is put in its place.
So two files can get modules of one name, but only if they differ in nothing but the ending.

* `outputName_inj`: when two names become one.
* `names_of_succeeds`: the names in an answer.
* `outputs_distinct_iff`: the names in an answer are different exactly if no name occurs with the
  ending and without it.
-/
namespace ToolBindings
open Text

namespace Naming

/-- Whether the name of a schema file has the ending that such names mostly have. -/
def HasEnding (name : String) : Prop := ∃ stem, name = stem ++ ".proto"

/-- What remains of the name of a schema file without the ending. -/
def stem (name : String) : List Char :=
  (dropEnding? protoEnding name.toList).getD name.toList

theorem stem_append (name : String) : stem (name ++ ".proto") = name.toList := by
  have h : dropEnding? protoEnding (name ++ ".proto").toList = some name.toList :=
    dropEnding?_eq_some_iff.2 String.toList_append
  rw [stem, h, Option.getD_some]

theorem stem_of_not_hasEnding {name : String} (h : ¬HasEnding name) : stem name = name.toList := by
  have hnone : dropEnding? protoEnding name.toList = none := by
    cases hd : dropEnding? protoEnding name.toList with
    | none => rfl
    | some rest =>
      refine absurd ⟨String.ofList rest, ?_⟩ h
      rw [← String.toList_inj, String.toList_append, String.toList_ofList]
      exact dropEnding?_eq_some_iff.1 hd
  rw [stem, hnone, Option.getD_none]

theorem outputName_eq_iff_stem {name other suffix : String} :
    outputName name suffix = outputName other suffix ↔ stem name = stem other := by
  rw [← String.toList_inj, outputName, outputName, String.toList_append, String.toList_append,
    String.toList_ofList, String.toList_ofList, List.append_cancel_right_eq]
  rfl

/-- Two names become one exactly if they are one already or differ in the ending. -/
theorem outputName_inj {name other suffix : String} :
    outputName name suffix = outputName other suffix ↔
      name = other ∨ (¬HasEnding name ∧ other = name ++ ".proto") ∨
        (¬HasEnding other ∧ name = other ++ ".proto") := by
  rw [outputName_eq_iff_stem]
  constructor
  · intro h
    by_cases hname : HasEnding name <;> by_cases hother : HasEnding other
    · obtain ⟨front, rfl⟩ := hname
      obtain ⟨front', rfl⟩ := hother
      rw [stem_append, stem_append, String.toList_inj] at h
      exact .inl (congrArg (· ++ ".proto") h)
    · obtain ⟨front, rfl⟩ := hname
      rw [stem_append, stem_of_not_hasEnding hother, String.toList_inj] at h
      exact .inr (.inr ⟨hother, congrArg (· ++ ".proto") h⟩)
    · obtain ⟨front, rfl⟩ := hother
      rw [stem_append, stem_of_not_hasEnding hname, String.toList_inj] at h
      exact .inr (.inl ⟨hname, congrArg (· ++ ".proto") h.symm⟩)
    · rw [stem_of_not_hasEnding hname, stem_of_not_hasEnding hother, String.toList_inj] at h
      exact .inl h
  · rintro (rfl | ⟨h, rfl⟩ | ⟨h, rfl⟩)
    · rfl
    · rw [stem_append, stem_of_not_hasEnding h]
    · rw [stem_append, stem_of_not_hasEnding h]

end Naming

section
variable {request : Request} {settings : Settings} {settings? : Option Settings}
  {response : Response}

/-- An answer without an error is one under some settings. -/
theorem exists_succeeds_of_generate (h : (generate request settings?).result = .ok response)
    (herror : response.error = none) : ∃ settings, request.Succeeds settings response := by
  cases settings? with
  | some settings => exact ⟨settings, h, herror⟩
  | none =>
    cases hs : request.settings with
    | ok settings => exact ⟨settings, generate_none hs ▸ h, herror⟩
    | error failure =>
      rw [result_generate, result_generatedFiles, Request.settingsFor, Option.elim_none, hs,
        error_bind] at h
      cases failure <;> cases h
      cases herror

/-- A file has the name under which it is found. -/
theorem name_of_find {files : List File} {name : String} {file : File}
    (h : File.find? files name = some file) : file.name = name := by
  have := List.find?_some h
  simpa using this

/-- The files that get modules are mentioned by their names, in the same order. -/
theorem names_eligible_sublist :
    (request.eligible.map (·.name)).Sublist request.toGenerate := by
  have hnames : (request.toGenerate.filterMap (File.find? request.files)).map (·.name) =
      request.toGenerate.filter fun name => (File.find? request.files name).isSome := by
    induction request.toGenerate with
    | nil => rfl
    | cons name rest ih =>
      cases hf : File.find? request.files name with
      | none => rw [List.filterMap_cons_none hf, List.filter_cons_of_neg (by simp [hf]), ih]
      | some file =>
        rw [List.filterMap_cons_some hf, List.filter_cons_of_pos (by simp [hf]), List.map_cons, ih,
          name_of_find hf]
  have hservices : (request.eligible.map (·.name)).Sublist
      ((request.toGenerate.filterMap (File.find? request.files)).map (·.name)) :=
    List.filter_sublist.map _
  rw [hnames] at hservices
  exact hservices.trans List.filter_sublist

theorem names_of_succeeds (h : request.Succeeds settings response) :
    response.files.map (·.name) =
      request.eligible.map fun file => Naming.outputName file.name settings.suffix := by
  obtain ⟨-, hmap, -⟩ := succeeds_iff.1 h
  rw [mapM_eq_ok] at hmap
  generalize request.eligible = files at hmap ⊢
  generalize response.files = outputs at hmap ⊢
  induction hmap with
  | nil => rfl
  | cons hout _ ih =>
    obtain ⟨tools, -, ho⟩ := moduleAlone_eq_ok.1 hout
    obtain ⟨content, -, rfl⟩ := fileOfTools_eq_ok.1 ho
    rw [List.map_cons, List.map_cons, ih]

/-- In an answer to a request that mentions no file twice, the names are different exactly if there
is no file with services whose name lacks the ending while another one has the same name with it. -/
theorem outputs_distinct_iff (hnames : request.toGenerate.Nodup)
    (h : (generate request settings?).result = .ok response) (herror : response.error = none) :
    (response.files.map (·.name)).Nodup ↔
      ¬∃ file ∈ request.eligible, ∃ other ∈ request.eligible,
        ¬Naming.HasEnding file.name ∧ other.name = file.name ++ ".proto" := by
  obtain ⟨settings, hsucceeds⟩ := exists_succeeds_of_generate h herror
  have hdistinct : (request.eligible.map (·.name)).Nodup := names_eligible_sublist.nodup hnames
  rw [names_of_succeeds hsucceeds, List.nodup_map_iff_inj_on hdistinct.of_map]
  constructor
  · rintro hinj ⟨file, hfile, other, hother, hending, hname⟩
    have heq := hinj file hfile other hother
      (Naming.outputName_inj.2 (.inr (.inl ⟨hending, hname⟩)))
    rw [← heq] at hname
    have hlength := congrArg String.length hname
    simp at hlength
  · intro hno file hfile other hother he
    rcases Naming.outputName_inj.1 he with hname | ⟨hending, hname⟩ | ⟨hending, hname⟩
    · exact List.inj_on_of_nodup_map hdistinct hfile hother hname
    · exact absurd ⟨file, hfile, other, hother, hending, hname⟩ hno
    · exact absurd ⟨other, hother, file, hfile, hending, hname⟩ hno

end

/-- A request for two files with a service each. -/
def pairRequest (name other : String) : Request where
  toGenerate := [name, other]
  files := [{ name, services := [{ name := "Depot" }] },
    { name := other, services := [{ name := "Depot" }] }]

theorem outputs_clash : (pairRequest "depot" "depot.proto").toGenerate.Nodup ∧
    ∃ response, (generate (pairRequest "depot" "depot.proto") none).result = .ok response ∧
      response.error = none ∧ ¬(response.files.map (·.name)).Nodup := by
  have h : ((generate (pairRequest "depot" "depot.proto") none).result.toOption.map fun response =>
      (response.error, response.files.map (·.name))) =
      some (none, ["depot_pb2_tools.py", "depot_pb2_tools.py"]) := by
    decide +kernel
  obtain ⟨response, hresponse, hparts⟩ := Option.map_eq_some_iff.1 h
  obtain ⟨herror, hnames⟩ := Prod.mk.injEq .. ▸ hparts
  exact ⟨by decide, response, toOption_eq_some.1 hresponse, herror, by rw [hnames]; decide⟩

theorem outputs_distinct_iff_depots :
    ∃ response, (generate (pairRequest "depot" "store.proto") none).result = .ok response ∧
      (response.files.map (·.name)).Nodup := by
  have h : ((generate (pairRequest "depot" "store.proto") none).result.toOption.map
      Response.error) = some none := by
    decide +kernel
  obtain ⟨response, hresponse, herror⟩ := Option.map_eq_some_iff.1 h
  rw [toOption_eq_some] at hresponse
  refine ⟨response, hresponse, (outputs_distinct_iff (by decide) hresponse herror).2 ?_⟩
  rintro ⟨file, hfile, other, hother, -, hname⟩
  have hall : ∀ file ∈ (pairRequest "depot" "store.proto").eligible,
      ∀ other ∈ (pairRequest "depot" "store.proto").eligible,
        other.name ≠ file.name ++ ".proto" := by
    decide +kernel
  exact hall file hfile other hother hname

end ToolBindings
