import Mathlib.Data.List.Perm.Basic
import ToolBindings.Generation
import ToolBindings.Proofs.Bindings.Names

/-!
# What the name scope decides

A run goes through the files in order and takes the claimed tool names from one file to
the next. What it makes of a file is what it would make of the file alone; the claims
and the order of the files only decide whether it gets to the end.

* `File.toolsAlone`, `File.moduleAlone`: a file by itself.
* `toolsWithSchemas_eq_ok`, `claims_toolsWithSchemas`: one file within a run.
* `generateFiles_eq_ok`: a run succeeds exactly if each file passes by itself and, unless
  names need only be unique within a file, the names of all files are free.
* `generate_scope`: the same for requests, and what follows for the scope of names and for
  the order of the files.
-/
namespace ToolBindings

/-! ## A file by itself -/

namespace File

/-- The tools of a file in a run of its own. -/
def toolsAlone (index : TypeIndex) (settings : Settings) (file : File) :
    Except Failure (List Tool) :=
  (file.toolsWithSchemas index settings []).2.result

/-- The module of a file in a run of its own. -/
def moduleAlone (index : TypeIndex) (settings : Settings) (file : File) :
    Except Failure GeneratedFile := do
  let tools ← file.toolsAlone index settings
  let content ← moduleText file settings tools
  return { name := Naming.outputName file.name settings.suffix, content }

/-- The names of the tools of a file that passes by itself. -/
def toolNames (index : TypeIndex) (settings : Settings) (file : File) : List String :=
  ((file.toolsAlone index settings).toOption.getD []).map (·.name)

/-- Whether a file gets a module at all. -/
def hasServices (file : File) : Bool := !file.services.isEmpty

end File

section
variable {index : TypeIndex} {settings : Settings} {claims : Claims} {file : File}
  {files : List File} {tools : List Tool} {generated : List GeneratedFile}

theorem result_toolsWithSchemas :
    (file.toolsWithSchemas index settings claims).2.result = .ok tools ↔
      ∃ bare, (file.tools index settings claims).2.result = .ok bare ∧
        (withSchemas index bare).result = .ok tools := by
  unfold File.toolsWithSchemas
  rw [Logged.result_bind, bind_eq_ok]

theorem names_withSchemas {bare : List Tool} (h : (withSchemas index bare).result = .ok tools) :
    tools.map (·.name) = bare.map (·.name) :=
  map_withSchemas (f := (·.name)) (fun _ _ => rfl) h

/-- Within a run a file has the tools that it has alone, if their names are free. -/
theorem toolsWithSchemas_eq_ok :
    (file.toolsWithSchemas index settings claims).2.result = .ok tools ↔
      file.toolsAlone index settings = .ok tools ∧
        AreFree (claims.map (·.1)) (tools.map (·.name)) := by
  unfold File.toolsAlone
  rw [result_toolsWithSchemas, result_toolsWithSchemas]
  simp only [File.tools, toolsAmong_eq_ok]
  constructor
  · intro h
    obtain ⟨bare, ⟨hd, hc, hn⟩, hs⟩ := h
    refine ⟨⟨bare, ⟨hd, hc, areFree_nil_left.2 hn.1⟩, hs⟩, ?_⟩
    rw [names_withSchemas hs]
    exact hn
  · intro h
    obtain ⟨⟨bare, ⟨hd, hc, -⟩, hs⟩, hn⟩ := h
    rw [names_withSchemas hs] at hn
    exact ⟨bare, ⟨hd, hc, hn⟩, hs⟩

/-- A file that passes claims the names of its tools and no others. -/
theorem claims_toolsWithSchemas
    (h : (file.toolsWithSchemas index settings claims).2.result = .ok tools) :
    (file.toolsWithSchemas index settings claims).1.map (·.1) =
      claims.map (·.1) ++ tools.map (·.name) := by
  obtain ⟨bare, hb, hs⟩ := result_toolsWithSchemas.1 h
  have hclaims : (file.toolsWithSchemas index settings claims).1 =
      (file.tools index settings claims).1 := rfl
  rw [hclaims, File.tools, claims_toolsAmong hb, List.map_append, List.map_map,
    names_withSchemas hs]
  rfl

theorem nodup_toolNames (h : file.toolsAlone index settings = .ok tools) :
    (tools.map (·.name)).Nodup :=
  areFree_nil_left.1 (toolsWithSchemas_eq_ok.1 h).2

theorem toolNames_eq (h : file.toolsAlone index settings = .ok tools) :
    file.toolNames index settings = tools.map (·.name) := by
  rw [File.toolNames, h]
  rfl

theorem fileOfTools_eq_ok {out : GeneratedFile} :
    (fileOfTools file settings tools).result = .ok out ↔
      ∃ content, moduleText file settings tools = .ok content ∧
        out = { name := Naming.outputName file.name settings.suffix, content } := by
  simp only [fileOfTools, Logged.result_bind, Logged.result_ofExcept, Logged.result_report,
    Logged.result_pure, bind_eq_ok, Except.ok.injEq, true_and, exists_const, eq_comm (a := out)]

theorem moduleAlone_eq_ok {out : GeneratedFile} :
    file.moduleAlone index settings = .ok out ↔
      ∃ tools, file.toolsAlone index settings = .ok tools ∧
        (fileOfTools file settings tools).result = .ok out := by
  simp only [File.moduleAlone, bind_eq_ok, pure_eq_ok, fileOfTools_eq_ok, eq_comm (a := out)]

/-- Tools with schemas always have a module. -/
theorem exists_fileOfTools
    (h : (file.toolsWithSchemas index settings claims).2.result = .ok tools) :
    ∃ out, (fileOfTools file settings tools).result = .ok out := by
  obtain ⟨bare, -, hs⟩ := result_toolsWithSchemas.1 h
  obtain ⟨m, hm⟩ := exists_ofTools file settings.runtimeModule fun tool hmem =>
    exists_schema_of_mem hs hmem
  exact ⟨_, fileOfTools_eq_ok.2 ⟨m.render, map_eq_ok.2 ⟨m, hm, rfl⟩, rfl⟩⟩

/-- A file whose tools pass always has a module. -/
theorem exists_moduleAlone :
    (∃ out, file.moduleAlone index settings = .ok out) ↔
      ∃ tools, file.toolsAlone index settings = .ok tools := by
  constructor
  · intro h
    obtain ⟨out, h⟩ := h
    obtain ⟨tools, ht, -⟩ := moduleAlone_eq_ok.1 h
    exact ⟨tools, ht⟩
  · intro h
    obtain ⟨tools, ht⟩ := h
    obtain ⟨out, ho⟩ := exists_fileOfTools ht
    exact ⟨out, moduleAlone_eq_ok.2 ⟨tools, ht, ho⟩⟩

/-! ## A run over files -/

/-- A run makes of each file what it is by itself, if the names of all tools are free. The
induction is on the files; the claims grow with every file. -/
theorem generateFiles_eq_ok :
    (generateFiles index settings claims files).result = .ok generated ↔
      (files.filter File.hasServices).mapM (File.moduleAlone index settings) = .ok generated ∧
        (settings.nameScope = .file ∨ AreFree (claims.map (·.1))
          ((files.filter File.hasServices).flatMap (File.toolNames index settings))) := by
  induction files generalizing claims generated with
  | nil =>
    rw [generateFiles, Logged.result_pure, List.filter_nil, List.mapM_nil, List.flatMap_nil]
    exact ⟨fun h => ⟨h, .inr (areFree_nil _)⟩, fun h => h.1⟩
  | cons file rest ih =>
    rw [generateFiles]
    by_cases hs : file.services.isEmpty = true
    · rw [if_pos hs, Logged.result_bind, List.filter_cons_of_neg (by simp [File.hasServices, hs])]
      exact ih
    rw [if_neg hs, List.filter_cons_of_pos (by simp [File.hasServices, hs])]
    simp only [Logged.result_bind, Logged.result_pure, bind_eq_ok, pure_eq_ok, Except.ok.injEq,
      List.mapM_cons, List.flatMap_cons]
    generalize hclaims : (if settings.nameScope = .file then [] else claims) = held
    constructor
    · intro h
      obtain ⟨tools, ht, out, ho, others, hothers, rfl⟩ := h
      obtain ⟨halone, hfree⟩ := toolsWithSchemas_eq_ok.1 ht
      obtain ⟨hmap, hscope⟩ := ih.1 hothers
      refine ⟨⟨out, moduleAlone_eq_ok.2 ⟨tools, halone, ho⟩, others, hmap, rfl⟩, ?_⟩
      by_cases hf : settings.nameScope = .file
      · exact .inl hf
      · rw [if_neg hf] at hclaims
        rw [hclaims, toolNames_eq halone]
        rw [claims_toolsWithSchemas ht] at hscope
        exact .inr (areFree_append.2 ⟨hfree, hscope.resolve_left hf⟩)
    · intro h
      obtain ⟨⟨out, hout, others, hmap, rfl⟩, hscope⟩ := h
      obtain ⟨tools, halone, ho⟩ := moduleAlone_eq_ok.1 hout
      rw [toolNames_eq halone] at hscope
      have hfree : AreFree (held.map (·.1)) (tools.map (·.name)) := by
        by_cases hf : settings.nameScope = .file
        · rw [← hclaims, if_pos hf]
          exact areFree_nil_left.2 (nodup_toolNames halone)
        · rw [← hclaims, if_neg hf]
          exact (areFree_append.1 (hscope.resolve_left hf)).1
      have ht := toolsWithSchemas_eq_ok.2 ⟨halone, hfree⟩
      refine ⟨tools, ht, out, ho, others, ih.2 ⟨hmap, ?_⟩, rfl⟩
      by_cases hf : settings.nameScope = .file
      · exact .inl hf
      · rw [claims_toolsWithSchemas ht, ← hclaims, if_neg hf]
        exact .inr (areFree_append.1 (hscope.resolve_left hf)).2

/-- A file by itself does not know the scope of names. -/
theorem moduleAlone_nameScope (scope : NameScope) {out : GeneratedFile} :
    file.moduleAlone index { settings with nameScope := scope } = .ok out ↔
      file.moduleAlone index settings = .ok out := by
  have htools : ∀ tools,
      file.toolsAlone index { settings with nameScope := scope } = .ok tools ↔
        file.toolsAlone index settings = .ok tools := by
    intro tools
    have hd : declaredTools file index { settings with nameScope := scope } file.methods =
        declaredTools file index settings file.methods := declaredTools_congr rfl
    simp only [File.toolsAlone, result_toolsWithSchemas, File.tools, toolsAmong_eq_ok, hd]
  rw [moduleAlone_eq_ok, moduleAlone_eq_ok]
  simp only [htools]
  rfl

end

/-! ## Requests -/

/-- The files that a request wants modules for and that get one, in the order of their mention. -/
def Request.eligible (request : Request) : List File :=
  (request.toGenerate.filterMap (File.find? request.files)).filter File.hasServices

/-- A run that is not refused, with its answer. -/
def Request.Succeeds (request : Request) (settings : Settings) (response : Response) : Prop :=
  (generate request (some settings)).result = .ok response ∧ response.error = none

section
variable {request : Request} {settings : Settings} {response : Response}

theorem generate_none (h : request.settings = .ok settings) :
    generate request none = generate request (some settings) := by
  have hfiles : request.generatedFiles none = request.generatedFiles (some settings) := by
    unfold Request.generatedFiles
    rw [h]
    rfl
  unfold generate
  rw [hfiles]

theorem filesToGenerate_eq_ok {files : List File} :
    request.filesToGenerate = .ok files ↔
      (∀ name ∈ request.toGenerate, (File.find? request.files name).isSome) ∧
        files = request.toGenerate.filterMap (File.find? request.files) := by
  unfold Request.filesToGenerate
  generalize request.toGenerate = names
  induction names generalizing files with
  | nil =>
    rw [List.mapM_nil, pure_eq_ok, List.filterMap_nil, eq_comm]
    exact ⟨fun h => ⟨nofun, h⟩, fun h => h.2⟩
  | cons name rest ih =>
    simp only [List.mapM_cons, bind_eq_ok, pure_eq_ok, List.forall_mem_cons, ih]
    cases hf : File.find? request.files name with
    | none =>
      constructor
      · intro h
        obtain ⟨_, h, -⟩ := h
        cases h
      · intro h
        obtain ⟨⟨h, -⟩, -⟩ := h
        cases h
    | some file =>
      rw [List.filterMap_cons, hf]
      constructor
      · intro h
        obtain ⟨_, h, _, ⟨hall, rfl⟩, rfl⟩ := h
        cases h
        exact ⟨⟨rfl, hall⟩, rfl⟩
      · intro h
        obtain ⟨⟨-, hall⟩, rfl⟩ := h
        exact ⟨file, rfl, _, ⟨hall, rfl⟩, rfl⟩

theorem find?_of_mem_filesToGenerate {files : List File} (h : request.filesToGenerate = .ok files)
    {file : File} (hm : file ∈ files) :
    ∃ name ∈ request.toGenerate, File.find? request.files name = some file := by
  obtain ⟨-, rfl⟩ := filesToGenerate_eq_ok.1 h
  exact List.mem_filterMap.1 hm

/-- The answer to a request that is not refused has the files and nothing else. -/
theorem succeeds_iff_generatedFiles :
    request.Succeeds settings response ↔
      ∃ generated, (request.generatedFiles (some settings)).result = .ok generated ∧
        response = { supportedFeatures := supportedFeatures, files := generated } := by
  unfold Request.Succeeds generate
  cases hg : (request.generatedFiles (some settings)).result with
  | ok generated =>
    simp only [hg, Except.ok.injEq, exists_eq_left']
    constructor
    · intro h
      obtain ⟨rfl, -⟩ := h
      rfl
    · rintro rfl; exact ⟨rfl, rfl⟩
  | error failure =>
    simp only [hg, reduceCtorEq, false_and, exists_false, iff_false]
    intro h
    obtain ⟨h, he⟩ := h
    cases failure with
    | malformed => cases h
    | incomplete => cases h
    | rejected reason => cases h; cases he

theorem succeeds_iff :
    request.Succeeds settings response ↔
      (∀ name ∈ request.toGenerate, (File.find? request.files name).isSome) ∧
      request.eligible.mapM (File.moduleAlone (.ofFiles request.files) settings) =
        .ok response.files ∧
      (settings.nameScope = .file ∨
        (request.eligible.flatMap (File.toolNames (.ofFiles request.files) settings)).Nodup) ∧
      response = { supportedFeatures := supportedFeatures, files := response.files } := by
  rw [succeeds_iff_generatedFiles]
  have hrun : ∀ generated, (request.generatedFiles (some settings)).result = .ok generated ↔
      ∃ files, request.filesToGenerate = .ok files ∧
        (generateFiles (.ofFiles request.files) settings [] files).result = .ok generated := by
    intro generated
    unfold Request.generatedFiles
    simp only [Logged.result_bind, Logged.result_pure, Logged.result_ofExcept, bind_eq_ok,
      Except.ok.injEq, exists_eq_left']
  simp only [hrun, filesToGenerate_eq_ok, generateFiles_eq_ok, List.map_nil, areFree_nil_left]
  constructor
  · intro h
    obtain ⟨generated, ⟨_, ⟨hall, rfl⟩, hmap, hscope⟩, rfl⟩ := h
    exact ⟨hall, hmap, hscope, rfl⟩
  · intro h
    obtain ⟨hall, hmap, hscope, hr⟩ := h
    exact ⟨_, ⟨_, ⟨hall, rfl⟩, hmap, hscope⟩, hr⟩

/-- A run succeeds exactly if all files are there, each passes by itself, and the names are
apart. -/
theorem exists_succeeds :
    (∃ response, request.Succeeds settings response) ↔
      (∀ name ∈ request.toGenerate, (File.find? request.files name).isSome) ∧
      (∀ file ∈ request.eligible,
        ∃ tools, file.toolsAlone (.ofFiles request.files) settings = .ok tools) ∧
      (settings.nameScope = .file ∨
        (request.eligible.flatMap (File.toolNames (.ofFiles request.files) settings)).Nodup) := by
  have hmap : (∃ generated, request.eligible.mapM
        (File.moduleAlone (.ofFiles request.files) settings) = .ok generated) ↔
      ∀ file ∈ request.eligible,
        ∃ tools, file.toolsAlone (.ofFiles request.files) settings = .ok tools := by
    rw [exists_mapM_eq_ok]
    exact forall₂_congr fun file _ => exists_moduleAlone
  rw [← hmap]
  simp only [succeeds_iff]
  constructor
  · intro h
    obtain ⟨response, hall, hm, hscope, -⟩ := h
    exact ⟨hall, ⟨_, hm⟩, hscope⟩
  · intro h
    obtain ⟨hall, ⟨generated, hm⟩, hscope⟩ := h
    exact ⟨{ supportedFeatures := supportedFeatures, files := generated }, hall, hm, hscope, rfl⟩

theorem succeeds_fileScope (h : request.Succeeds settings response) :
    request.Succeeds { settings with nameScope := .file } response := by
  obtain ⟨hall, hmap, -, hr⟩ := succeeds_iff.1 h
  refine succeeds_iff.2 ⟨hall, ?_, .inl rfl, hr⟩
  rw [mapM_eq_ok] at hmap ⊢
  exact hmap.imp fun file out ho => (moduleAlone_nameScope .file).2 ho

/-! ## The order of the files -/

theorem eligible_perm {names : List String} (h : names.Perm request.toGenerate) :
    ({ request with toGenerate := names } : Request).eligible.Perm request.eligible :=
  (h.filterMap _).filter _

theorem exists_succeeds_perm {names : List String} (h : names.Perm request.toGenerate) :
    (∃ response, ({ request with toGenerate := names } : Request).Succeeds settings response) ↔
      ∃ response, request.Succeeds settings response := by
  rw [exists_succeeds, exists_succeeds]
  simp only [h.mem_iff, (eligible_perm h).mem_iff,
    ((eligible_perm h).flatMap_right (File.toolNames _ settings)).nodup_iff]

/-- The file that a name stands for in the answer, if it stands for one. -/
def Request.fileFor (request : Request) (settings : Settings) (name : String) :
    Option GeneratedFile :=
  (File.find? request.files name).bind fun file =>
    if file.hasServices then (file.moduleAlone (.ofFiles request.files) settings).toOption else none

theorem files_eq_filterMap (h : request.Succeeds settings response) :
    response.files = request.toGenerate.filterMap (request.fileFor settings) := by
  obtain ⟨-, hmap, -, -⟩ := succeeds_iff.1 h
  rw [eq_filterMap_of_mapM hmap, Request.eligible, List.filterMap_filter, List.filterMap_filterMap]
  rfl

end

/-- The scope of names decides whether names that occur in several files are refused, and nothing
else: what a run makes of each file is what the file is by itself. -/
theorem generate_scope (request : Request) (settings : Settings) :
    ((∃ response, request.Succeeds settings response) ↔
      (∀ name ∈ request.toGenerate, (File.find? request.files name).isSome) ∧
      (∀ file ∈ request.eligible,
        ∃ tools, file.toolsAlone (.ofFiles request.files) settings = .ok tools) ∧
      (settings.nameScope = .file ∨
        (request.eligible.flatMap (File.toolNames (.ofFiles request.files) settings)).Nodup)) ∧
    (∀ response, request.Succeeds settings response →
      request.eligible.mapM (File.moduleAlone (.ofFiles request.files) settings) =
          .ok response.files ∧
        response = { supportedFeatures := supportedFeatures, files := response.files }) ∧
    (∀ response, request.Succeeds settings response →
      request.Succeeds { settings with nameScope := .file } response) ∧
    (∀ names, names.Perm request.toGenerate →
      ((∃ response, ({ request with toGenerate := names } : Request).Succeeds settings response) ↔
        ∃ response, request.Succeeds settings response)) ∧
    (∃ fileFor : String → Option GeneratedFile, ∀ names, names.Perm request.toGenerate →
      ∀ response, ({ request with toGenerate := names } : Request).Succeeds settings response →
        response.files = names.filterMap fileFor) ∧
    (request.settings = .ok settings →
      generate request none = generate request (some settings)) := by
  refine ⟨exists_succeeds, fun response h => ?_, fun response h => succeeds_fileScope h,
    fun names h => exists_succeeds_perm h,
    ⟨request.fileFor settings, fun names _ response h => ?_⟩, generate_none⟩
  · obtain ⟨-, hmap, -, hr⟩ := succeeds_iff.1 h
    exact ⟨hmap, hr⟩
  · exact files_eq_filterMap h

def twiceRequest : Request :=
  { toGenerate := [shopFile.name, shopFile.name], files := [shopFile] }

theorem generate_scope_twice :
    (∃ response, twiceRequest.Succeeds { nameScope := .file } response) ∧
      ¬∃ response, twiceRequest.Succeeds {} response := by
  have helig : twiceRequest.eligible = [shopFile, shopFile] := rfl
  have hpass :
      (shopFile.toolsAlone (.ofFiles [shopFile]) { nameScope := .file }).toOption.isSome := by
    decide +kernel
  have hnames : ¬([shopFile, shopFile].flatMap
      (File.toolNames (.ofFiles [shopFile]) {})).Nodup := by
    decide +kernel
  constructor
  · refine (generate_scope twiceRequest { nameScope := .file }).1.2
      ⟨by decide +kernel, fun file hm => ?_, .inl rfl⟩
    obtain ⟨tools, ht⟩ := Option.isSome_iff_exists.1 hpass
    rw [helig] at hm
    obtain rfl : file = shopFile := by simpa using hm
    exact ⟨tools, toOption_eq_some.1 ht⟩
  · intro h
    obtain ⟨-, -, hscope⟩ := (generate_scope twiceRequest {}).1.1 h
    rcases hscope with hf | hn
    · cases hf
    · rw [helig] at hn
      exact hnames hn

end ToolBindings
