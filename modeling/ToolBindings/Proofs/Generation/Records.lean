import ToolBindings.CommandLine
import ToolBindings.Proofs.Descriptor.RoundTrip
import ToolBindings.Proofs.Generation.Outcome
import ToolBindings.Proofs.Schema.Truncation
import ToolBindings.Proofs.Tool.Residue

/-!
# The records of a run

What a run reports can be told from its request and its answer. A file without services is reported
as passed over. Of any other file the methods that are no tools are reported, then the references
back in the schemas of its tools, and then its module.

* `File.details`, `File.records`: what is reported for a file, read off the file and its tools.
* `events_toolsAmong`, `events_withSchemas`, `events_generateFiles`: a run that succeeds reports
  this for every file.
* `quiet_generatedFiles`: before a request is refused no error is reported.
* `run_log`: the log of a run, for every threshold.
-/
namespace ToolBindings
open Event (reaches texts)

/-! ## What is reported for a file -/

def Tool.truncations (index : TypeIndex) (tool : Tool) : List Event :=
  tool.schema.elim [] (Schema.truncations index [] tool.inputType)

/-- The records of the methods among some that are no tools. -/
def File.skipped (file : File) (methods : List (String × Method)) : List Event :=
  (methods.filter fun declared => (annotation? declared).isNone).map fun declared =>
    .methodSkipped (file.ownerLabel declared.1 declared.2.name)

/-- The number of tools among some methods. -/
def toolCount (methods : List (String × Method)) : Nat :=
  methods.countP fun declared => (annotation? declared).isSome

namespace File

/-- What is reported for a file beside its module. -/
def details (index : TypeIndex) (settings : Settings) (file : File) : List Event :=
  if file.hasServices then
    file.skipped file.methods ++
      ((file.toolsAlone index settings).toOption.getD []).flatMap (Tool.truncations index)
  else [.fileSkipped file.name]

/-- The record of the module of a file, if it has one. -/
def completion (settings : Settings) (file : File) : List Event :=
  if file.hasServices then
    [.generated (Naming.outputName file.name settings.suffix) (toolCount file.methods)]
  else []

def records (index : TypeIndex) (settings : Settings) (file : File) : List Event :=
  file.details index settings ++ file.completion settings

end File

/-! ## Runs that succeed -/

section
variable {index : TypeIndex} {settings : Settings} {claims : Claims} {file : File}
  {files : List File} {tools complete : List Tool} {generated : List GeneratedFile}

/-- A walk that ends reports the methods that are no tools, and finds one tool for each of the
others. The induction is on the methods; the names in use grow with every tool. -/
theorem events_toolsAmong {constants : Tool.Constants} {methods : List (String × Method)}
    (h : (toolsAmong file index settings claims constants methods).2.result = .ok tools) :
    (toolsAmong file index settings claims constants methods).2.events = file.skipped methods ∧
      tools.length = toolCount methods := by
  induction methods generalizing claims constants tools with
  | nil => cases h; exact ⟨rfl, rfl⟩
  | cons declared rest ih =>
    rcases toolsAmong_step file index settings claims constants declared rest with
      ⟨hd, later, rfl, hw⟩ | ⟨tool, hd, -, -, later, rfl, hw⟩ | ⟨-, -, failure, hw⟩
    · have hnone : annotation? declared = none :=
        annotation?_of_metadata (Tool.ofDeclaration_eq_none.1 hd)
      rw [hw] at h ⊢
      rw [Logged.result_bind, Logged.result_report, ok_bind] at h
      obtain ⟨hevents, hlength⟩ := ih h
      rw [Logged.events_bind_of_ok rfl, hevents, hlength]
      simp [File.skipped, toolCount, hnone]
    · obtain ⟨metadata, hm, -⟩ := Tool.ofDeclaration_eq_some.1 hd
      have hsome : annotation? declared = some metadata := annotation?_of_metadata hm
      rw [hw] at h ⊢
      rw [Logged.result_bind, bind_eq_ok] at h
      obtain ⟨others, hothers, h⟩ := h
      cases h
      obtain ⟨hevents, hlength⟩ := ih hothers
      rw [Logged.events_bind_of_ok hothers, hevents, List.length_cons, hlength]
      simp [File.skipped, toolCount, hsome]
    · rw [hw] at h
      cases h

theorem events_withSchemas (hd : index.HasDistinctFields)
    (h : (withSchemas index tools).result = .ok complete) :
    (withSchemas index tools).events = complete.flatMap (Tool.truncations index) := by
  have hschemas := withSchemas_eq_ok.1 h
  rw [withSchemas, Logged.events_mapM h]
  clear h
  induction hschemas with
  | nil => rfl
  | @cons tool _ tools complete hschema _ ih =>
    obtain ⟨schema, hok, rfl⟩ := hschema
    have hevents : (tool.withSchema index).events =
        Schema.truncations index [] tool.inputType schema := by
      unfold Tool.withSchema
      rw [Logged.events_bind_of_ok hok, Logged.events_pure, List.append_nil,
        Schema.events_ofType hd hok]
    rw [List.flatMap_cons, List.flatMap_cons, ih, hevents]
    rfl

theorem events_toolsWithSchemas (hd : index.HasDistinctFields)
    (h : (file.toolsWithSchemas index settings claims).2.result = .ok tools) :
    (file.toolsWithSchemas index settings claims).2.events =
        file.skipped file.methods ++ tools.flatMap (Tool.truncations index) ∧
      tools.length = toolCount file.methods := by
  obtain ⟨bare, hbare, hschemas⟩ := result_toolsWithSchemas.1 h
  obtain ⟨hevents, hlength⟩ := events_toolsAmong hbare
  constructor
  · rw [← hevents, ← events_withSchemas hd hschemas]
    exact Logged.events_bind_of_ok hbare _
  · rw [← hlength, (withSchemas_eq_ok.1 hschemas).length_eq]

theorem events_fileOfTools {out : GeneratedFile}
    (h : (fileOfTools file settings tools).result = .ok out) :
    (fileOfTools file settings tools).events =
      [.generated (Naming.outputName file.name settings.suffix) tools.length] := by
  obtain ⟨content, hcontent, -⟩ := fileOfTools_eq_ok.1 h
  unfold fileOfTools
  rw [Logged.events_bind_of_ok hcontent]
  rfl

/-- A file that gets a module reports on its tools, and then on its module. -/
theorem records_of_toolsAlone (hs : file.hasServices = true)
    (halone : file.toolsAlone index settings = .ok tools)
    (hlength : tools.length = toolCount file.methods) :
    file.records index settings =
      (file.skipped file.methods ++ tools.flatMap (Tool.truncations index)) ++
        [.generated (Naming.outputName file.name settings.suffix) tools.length] := by
  rw [File.records, File.details, File.completion, if_pos hs, if_pos hs, halone, hlength]
  rfl

/-- A run that succeeds reports on each file what there is to be reported. The induction is on the
files; the claims grow with every file. -/
theorem events_generateFiles (hd : index.HasDistinctFields)
    (h : (generateFiles index settings claims files).result = .ok generated) :
    (generateFiles index settings claims files).events =
      files.flatMap (File.records index settings) := by
  induction files generalizing claims generated with
  | nil => rw [generateFiles]; rfl
  | cons file rest ih =>
    rw [generateFiles] at h ⊢
    rw [List.flatMap_cons]
    by_cases hs : file.services.isEmpty = true
    · rw [if_pos hs] at h ⊢
      rw [Logged.result_bind, Logged.result_report, ok_bind] at h
      rw [Logged.events_bind_of_ok rfl, ih h, File.records, File.details, File.completion]
      simp [File.hasServices, hs]
    · rw [if_neg hs] at h ⊢
      simp only [Logged.result_bind, Logged.result_pure, bind_eq_ok] at h
      obtain ⟨tools, htools, out, hout, others, hothers, -⟩ := h
      obtain ⟨hevents, hlength⟩ := events_toolsWithSchemas hd htools
      have hservices : file.hasServices = true := by simp [File.hasServices, hs]
      rw [records_of_toolsAlone hservices (toolsWithSchemas_eq_ok.1 htools).1 hlength]
      rw [Logged.events_bind_of_ok htools, Logged.events_bind_of_ok hout,
        Logged.events_bind_of_ok hothers, hevents, events_fileOfTools hout, ih hothers,
        Logged.events_pure, List.append_nil]
      simp only [List.append_assoc]

/-! ## By severity -/

theorem severity_details (file : File) :
    ∀ event ∈ file.details index settings, event.severity = .debug := by
  have hskipped : ∀ event ∈ file.skipped file.methods, event.severity = .debug := by
    intro event hm
    obtain ⟨declared, -, rfl⟩ := List.mem_map.1 hm
    rfl
  have htruncations : ∀ tool : Tool, ∀ event ∈ tool.truncations index,
      event.severity = .debug := by
    intro tool event hm
    unfold Tool.truncations at hm
    cases hs : tool.schema with
    | none => rw [hs] at hm; cases hm
    | some schema =>
      rw [hs] at hm
      obtain ⟨target, -, rfl⟩ := List.mem_map.1 hm
      rfl
  unfold File.details
  split
  · rw [List.forall_mem_append]
    refine ⟨hskipped, fun event hm => ?_⟩
    obtain ⟨tool, -, hm⟩ := List.mem_flatMap.1 hm
    exact htruncations tool event hm
  · exact List.forall_mem_singleton.2 rfl

theorem severity_completion (file : File) :
    ∀ event ∈ file.completion settings, event.severity = .info := by
  unfold File.completion
  split
  · exact List.forall_mem_singleton.2 rfl
  · nofun

/-- What is reported beside modules is detail. -/
theorem filter_debug_records (files : List File) :
    (files.flatMap (File.records index settings)).filter (·.severity = .debug) =
      files.flatMap (File.details index settings) := by
  rw [List.filter_flatMap]
  refine List.flatMap_congr fun file _ => ?_
  rw [File.records, List.filter_append, List.filter_eq_self.2, List.filter_eq_nil_iff.2,
    List.append_nil]
  · intro event hm
    simp [severity_completion file event hm]
  · intro event hm
    simp [severity_details file event hm]

/-- The records of information are one for each module. -/
theorem filter_info_records (files : List File) :
    (files.flatMap (File.records index settings)).filter (·.severity = .info) =
      (files.filter File.hasServices).map fun file =>
        .generated (Naming.outputName file.name settings.suffix) (toolCount file.methods) := by
  have hcompletions : (files.flatMap (File.records index settings)).filter (·.severity = .info) =
      files.flatMap (File.completion settings) := by
    rw [List.filter_flatMap]
    refine List.flatMap_congr fun file _ => ?_
    rw [File.records, List.filter_append, List.filter_eq_nil_iff.2, List.filter_eq_self.2,
      List.nil_append]
    · intro event hm
      simp [severity_completion file event hm]
    · intro event hm
      simp [severity_details file event hm]
  rw [hcompletions]
  clear hcompletions
  induction files with
  | nil => rfl
  | cons file rest ih =>
    rw [List.flatMap_cons, ih, File.completion]
    by_cases hs : file.hasServices = true
    · rw [if_pos hs, List.filter_cons_of_pos hs, List.map_cons, List.singleton_append]
    · rw [if_neg hs, List.filter_cons_of_neg hs, List.nil_append]

/-- Nothing of it is an error. -/
theorem severity_records (files : List File) :
    ∀ event ∈ files.flatMap (File.records index settings), event.severity ≠ .error := by
  intro event hm
  obtain ⟨file, -, hm⟩ := List.mem_flatMap.1 hm
  obtain hm | hm := List.mem_append.1 hm
  · rw [severity_details file event hm]
    decide
  · rw [severity_completion file event hm]
    decide

/-! ## Runs that may fail -/

theorem quiet_toolsAmong {constants : Tool.Constants} {methods : List (String × Method)} :
    (toolsAmong file index settings claims constants methods).2.Quiet := by
  induction methods generalizing claims constants with
  | nil => exact Logged.quiet_pure []
  | cons declared rest ih =>
    rcases toolsAmong_step file index settings claims constants declared rest with
      ⟨-, later, rfl, hw⟩ | ⟨tool, -, -, -, later, rfl, hw⟩ | ⟨-, -, failure, hw⟩
    · rw [hw]
      exact Logged.quiet_bind (Logged.quiet_report nofun) fun _ _ => ih
    · rw [hw]
      exact Logged.quiet_bind ih fun _ _ => Logged.quiet_pure _
    · rw [hw]
      exact Logged.quiet_fail failure

theorem quiet_withSchemas (index : TypeIndex) (tools : List Tool) :
    (withSchemas index tools).Quiet :=
  Logged.quiet_mapM (fun _ => Logged.quiet_bind Schema.quiet_ofType fun _ _ =>
    Logged.quiet_pure _) tools

theorem quiet_fileOfTools (file : File) (settings : Settings) (tools : List Tool) :
    (fileOfTools file settings tools).Quiet :=
  Logged.quiet_bind (Logged.quiet_ofExcept _) fun _ _ =>
    Logged.quiet_bind (Logged.quiet_report nofun) fun _ _ => Logged.quiet_pure _

theorem quiet_generateFiles : (generateFiles index settings claims files).Quiet := by
  induction files generalizing claims with
  | nil => rw [generateFiles]; exact Logged.quiet_pure []
  | cons file rest ih =>
    rw [generateFiles]
    split
    · exact Logged.quiet_bind (Logged.quiet_report (by rintro ⟨⟩)) fun _ _ => ih
    · refine Logged.quiet_bind ?_ fun _ _ => Logged.quiet_bind (quiet_fileOfTools _ _ _) fun _ _ =>
        Logged.quiet_bind ih fun _ _ => Logged.quiet_pure _
      exact Logged.quiet_bind quiet_toolsAmong fun _ _ => quiet_withSchemas _ _

end

/-! ## Requests -/

section
variable {request : Request} {settings? : Option Settings} {generated : List GeneratedFile}

theorem generatedFiles_eq (request : Request) (settings? : Option Settings) :
    request.generatedFiles settings? =
      Logged.ofExcept (request.settingsFor settings?) >>= fun settings =>
        Logged.ofExcept request.filesToGenerate >>= fun files =>
          generateFiles (.ofFiles request.files) settings [] files := by
  cases settings? <;> rfl

/-- Before a request is refused no error is reported. -/
theorem quiet_generatedFiles : (request.generatedFiles settings?).Quiet := by
  rw [generatedFiles_eq]
  exact Logged.quiet_bind (Logged.quiet_ofExcept _) fun settings _ =>
    Logged.quiet_bind (Logged.quiet_ofExcept _) fun files _ => quiet_generateFiles

theorem events_generatedFiles (hd : (TypeIndex.ofFiles request.files).HasDistinctFields)
    (h : (request.generatedFiles settings?).result = .ok generated) :
    ∃ settings files, request.settingsFor settings? = .ok settings ∧
      request.filesToGenerate = .ok files ∧
      (generateFiles (.ofFiles request.files) settings [] files).result = .ok generated ∧
      (request.generatedFiles settings?).events =
        files.flatMap (File.records (.ofFiles request.files) settings) := by
  rw [generatedFiles_eq] at h ⊢
  simp only [Logged.result_bind, Logged.result_ofExcept, bind_eq_ok] at h
  obtain ⟨settings, hsettings, files, hfiles, hgenerated⟩ := h
  refine ⟨settings, files, hsettings, hfiles, hgenerated, ?_⟩
  rw [Logged.events_bind_of_ok hsettings, Logged.events_bind_of_ok hfiles,
    events_generateFiles hd hgenerated]
  rfl

/-- The record of each module, with the name that the module has in the answer. -/
theorem zipWith_generated {index : TypeIndex} {settings : Settings} {files : List File}
    (h : files.mapM (File.moduleAlone index settings) = .ok generated) :
    List.zipWith (fun file out => Event.generated out.name (toolCount file.methods)) files
        generated =
      files.map fun file =>
        .generated (Naming.outputName file.name settings.suffix) (toolCount file.methods) := by
  rw [mapM_eq_ok] at h
  induction h with
  | nil => rfl
  | cons hfile _ ih =>
    obtain ⟨_, -, hout⟩ := moduleAlone_eq_ok.1 hfile
    obtain ⟨content, -, rfl⟩ := fileOfTools_eq_ok.1 hout
    rw [List.zipWith_cons_cons, List.map_cons, ih]

variable {response : Response}

/-- An answer without an error has the files and their events, and one with an error has its message
as the last event. -/
theorem events_generate (h : (generate request settings?).result = .ok response) :
    (response.error = none ∧ (request.generatedFiles settings?).result = .ok response.files ∧
        (generate request settings?).events = (request.generatedFiles settings?).events) ∨
      ∃ message, response.error = some message ∧
        (generate request settings?).events =
          (request.generatedFiles settings?).events ++ [.refused message] := by
  unfold generate at h ⊢
  generalize request.generatedFiles settings? = files at h ⊢
  obtain ⟨events, (- | - | reason) | generated⟩ := files
  · cases h
  · cases h
  · cases h
    exact .inr ⟨_, rfl, rfl⟩
  · cases h
    exact .inl ⟨rfl, rfl, rfl⟩

/-- The records of a request that is not refused, by their severity and all of them in order. -/
structure Mirrors (request : Request) (settings : Settings) (response : Response)
    (records : List Event) : Prop where
  no_error : ∀ event ∈ records, event.severity ≠ .error
  modules : request.eligible.mapM (File.moduleAlone (.ofFiles request.files) settings) =
    .ok response.files
  infos : records.filter (·.severity = .info) =
    List.zipWith (fun file out => .generated out.name (toolCount file.methods)) request.eligible
      response.files
  details : records.filter (·.severity = .debug) =
    (request.toGenerate.filterMap (File.find? request.files)).flatMap
      (File.details (.ofFiles request.files) settings)
  all : records = (request.toGenerate.filterMap (File.find? request.files)).flatMap
    (File.records (.ofFiles request.files) settings)

/-- The records of a run that is not refused are read off its request and its answer. -/
theorem mirrors_of_generatedFiles (hd : (TypeIndex.ofFiles request.files).HasDistinctFields)
    (h : (request.generatedFiles settings?).result = .ok response.files) :
    ∃ settings, request.settingsFor settings? = .ok settings ∧
      Mirrors request settings response (request.generatedFiles settings?).events := by
  obtain ⟨settings, files, hsettings, hfiles, hgenerated, hevents⟩ := events_generatedFiles hd h
  obtain ⟨-, rfl⟩ := filesToGenerate_eq_ok.1 hfiles
  have hmodules : request.eligible.mapM (File.moduleAlone (.ofFiles request.files) settings) =
      .ok response.files := (generateFiles_eq_ok.1 hgenerated).1
  refine ⟨settings, hsettings, ?_⟩
  rw [hevents]
  exact {
    no_error := severity_records _
    modules := hmodules
    infos := by rw [zipWith_generated hmodules, filter_info_records, Request.eligible]
    details := filter_debug_records _
    all := rfl }

end

/-! ## Logs -/

/-- With every threshold the log of a run consists of the texts of the records that reach it, so
that a higher threshold only leaves some out. Of a request that is not refused these are, in order:
for each file to generate for that has no services, that it is passed over; for every other one, the
methods that are no tools, the references back in the schemas of its tools, each property before
what is inside it, and its module with the number of its tools. Of a request that is refused the
last record, and no other one, is an error, and it has the message of the answer. -/
theorem run_log {octets : Octets} {request : Request} {response : Response}
    (hread : Request.ofOctets? octets = some request)
    (hd : (TypeIndex.ofFiles request.files).HasDistinctFields)
    (h : (generate request none).result = .ok response) :
    ∃ records : List Event,
      (∀ choice level, Journal.threshold? (choice.getD "") = some level →
        (run choice octets).log = texts (records.filter (reaches level))) ∧
      (∀ level ≤ Severity.debug.rank, records.filter (reaches level) = records) ∧
      (∀ lower upper, lower ≤ upper →
        records.filter (reaches upper) =
          (records.filter (reaches lower)).filter (reaches upper)) ∧
      (response.error = none → ∃ settings, request.settings = .ok settings ∧
        Mirrors request settings response records) ∧
      ∀ message, response.error = some message →
        records.getLast? = some (.refused message) ∧
          records.filter (·.severity = .error) = [.refused message] := by
  refine ⟨(generate request none).events, ?_,
    fun _ hlevel => Event.filter_reaches_of_le_debug hlevel _,
    fun _ _ hle => Event.filter_reaches_of_le hle _, fun hnone => ?_, fun message hsome => ?_⟩
  · intro choice level hlevel
    simp only [run, hlevel, hread, Event.log_eq]
  · obtain ⟨-, hfiles, hevents⟩ | ⟨message, hsome, -⟩ := events_generate h
    · rw [hevents]
      exact mirrors_of_generatedFiles hd hfiles
    · cases hnone.symm.trans hsome
  · obtain ⟨hnone, -⟩ | ⟨other, hother, hevents⟩ := events_generate h
    · cases hnone.symm.trans hsome
    · cases hother.symm.trans hsome
      have hquiet : (request.generatedFiles none).events.filter (·.severity = .error) = [] :=
        List.filter_eq_nil_iff.2 fun event hm => by simp [quiet_generatedFiles event hm]
      rw [hevents, List.getLast?_append, List.filter_append, hquiet]
      exact ⟨rfl, rfl⟩

/-- A request with a file without services, a method that is no tool, and a message type that holds
itself. -/
def regionRequest : Request where
  toGenerate := ["empty.proto", "region.proto"]
  files := [{ name := "empty.proto" }, {
    name := "region.proto"
    package := "map"
    messages := [{
      name := "Region"
      fields := [{ name := "inner", number := 1, type := .message, typeName := ".map.Region" }] }]
    services := [{
      name := "Atlas"
      methods := [
        { name := "Draw", input := ".map.Region", options := ToolMetadata.toOptions {} },
        { name := "Fold", input := ".map.Region" }] }] }]

theorem run_log_region : ∃ records,
    (run (some "debug") regionRequest.toOctets).log = texts records ∧
    records = [.fileSkipped "empty.proto", .methodSkipped "map.Atlas.Fold (region.proto)",
      .referenceTruncated "map.Region", .generated "region_pb2_tools.py" 1] := by
  have hfits : regionRequest.fits = true := by decide +kernel
  have hread := (Request.isWritten_toOctets hfits).read (by decide +kernel)
  have hd : (TypeIndex.ofFiles regionRequest.files).HasDistinctFields :=
    TypeIndex.hasDistinctFields_of_entries (by decide +kernel)
  have hok : (generate regionRequest none).result.toOption.any (·.error.isNone) = true := by
    decide +kernel
  obtain ⟨response, hresponse, hnone⟩ := (Option.any_eq_true ..).1 hok
  have hthreshold : Journal.threshold? ((some "debug").getD "") = some Severity.debug.rank := by
    decide +kernel
  have hsettings : regionRequest.settings = .ok {} := by decide +kernel
  obtain ⟨records, hlog, hall, -, hsuccess, -⟩ := run_log hread hd (toOption_eq_some.1 hresponse)
  obtain ⟨settings, hs, hmirrors⟩ := hsuccess (Option.isNone_iff_eq_none.1 hnone)
  cases hsettings.symm.trans hs
  refine ⟨records, ?_, hmirrors.all.trans (by decide +kernel)⟩
  rw [hlog _ _ hthreshold, hall _ (Nat.le_refl _)]

end ToolBindings
