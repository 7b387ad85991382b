import ToolBindings.Proofs.Generation.NameScope
import ToolBindings.Proofs.Schema.Dictionary
import ToolBindings.Proofs.Tool.Faults

/-!
# The outcome of a generation

A generation ends without an answer only for metadata that cannot be read. Otherwise it has
either files or an error, and every error has its cause in the request.

* `result_generate`, `features_of_generate`: the outcome by that of the files; a request that is
  refused is answered.
* `RunVisits`, `Request.Visits`: the message types that are looked at, up to the first failure.
* `Request.Unreadable`, `Cause`: what can be at fault in a request.
* `generateFiles_eq_error`, `generatedFiles_eq_error`: nothing else makes a generation fail.
* `generate_all_or_nothing`: the same for answers.
-/
namespace ToolBindings

section
variable {request : Request} {settings? : Option Settings} {response : Response}

theorem result_generate (request : Request) (settings? : Option Settings) :
    (generate request settings?).result =
      match (request.generatedFiles settings?).result with
      | .ok files => .ok { supportedFeatures, files }
      | .error (.rejected reason) => .ok { supportedFeatures, error := some reason.message }
      | .error failure => .error failure := by
  unfold generate
  generalize request.generatedFiles settings? = files
  obtain ⟨events, (- | - | -) | -⟩ := files <;> rfl

theorem generate_ne_rejected (reason : Rejection) :
    (generate request settings?).result ≠ .error (.rejected reason) := by
  rw [result_generate]
  split
  · nofun
  · nofun
  · next failure hne _ =>
    intro he
    cases he
    exact hne reason rfl

theorem features_of_generate (h : (generate request settings?).result = .ok response) :
    response.supportedFeatures = supportedFeatures := by
  rw [result_generate] at h
  split at h <;> cases h <;> rfl

end

/-! ## Runs over files -/

def Settings.heldClaims (settings : Settings) (claims : Claims) : Claims :=
  if settings.nameScope = .file then [] else claims

/-- The message types that are looked at in a run over files, up to the first failure. -/
inductive RunVisits (index : TypeIndex) (settings : Settings) : Claims → List File → String → Prop
  | skipped {claims : Claims} {file : File} {rest : List File} {target : String}
    (hservices : file.services.isEmpty = true) (h : RunVisits index settings claims rest target) :
    RunVisits index settings claims (file :: rest) target
  | file {claims : Claims} {file : File} {rest : List File} {target : String}
    (hservices : file.services.isEmpty = false)
    (h : file.Visits index settings (settings.heldClaims claims) target) :
    RunVisits index settings claims (file :: rest) target
  | later {claims : Claims} {file : File} {rest : List File} {tools : List Tool} {target : String}
    (hservices : file.services.isEmpty = false)
    (htools :
      (file.toolsWithSchemas index settings (settings.heldClaims claims)).2.result = .ok tools)
    (h : RunVisits index settings
      (file.toolsWithSchemas index settings (settings.heldClaims claims)).1 rest target) :
    RunVisits index settings claims (file :: rest) target

/-- What makes a run over files fail: a method of a file that cannot be read or is at fault, or a
message type that was looked at. -/
inductive RunFails (index : TypeIndex) (settings : Settings) (claims : Claims) (files : List File)
    (failure : Failure) : Prop
  | method {file : File} {declared : String × Method} (hfile : file ∈ files)
    (hmethod : declared ∈ file.methods)
    (h : Accounted (fun failure => declared.2.metadata = .error failure)
      (MethodFault file index settings declared) failure)
  | type {target : String} (hvisits : RunVisits index settings claims files target)
    (h : Accounted (UnreadableField index target) (TypeFault index target) failure)

section
variable {index : TypeIndex} {settings : Settings} {claims : Claims} {file : File}
  {files : List File} {failure : Failure}

/-- The induction is on the files; the claims grow with every file. -/
theorem generateFiles_eq_error
    (h : (generateFiles index settings claims files).result = .error failure) :
    RunFails index settings claims files failure := by
  induction files generalizing claims with
  | nil => rw [generateFiles] at h; cases h
  | cons file rest ih =>
    rw [generateFiles] at h
    by_cases hs : file.services.isEmpty = true
    · rw [if_pos hs, Logged.result_bind] at h
      cases ih h with
      | method hfile hmethod h => exact .method (List.mem_cons_of_mem _ hfile) hmethod h
      | type hvisits h => exact .type (.skipped hs hvisits) h
    rw [if_neg hs] at h
    rw [Bool.not_eq_true] at hs
    simp only [Logged.result_bind] at h
    obtain h | ⟨tools, htools, h⟩ := bind_eq_error.1 h
    · cases toolsWithSchemas_eq_error h with
      | method hmethod h => exact .method List.mem_cons_self hmethod h
      | type hvisits h => exact .type (.file hs hvisits) h
    obtain h | ⟨out, -, h⟩ := bind_eq_error.1 h
    · obtain ⟨out, hout⟩ := exists_fileOfTools htools
      rw [hout] at h
      cases h
    obtain h | ⟨_, -, h⟩ := bind_eq_error.1 h
    · cases ih h with
      | method hfile hmethod h => exact .method (List.mem_cons_of_mem _ hfile) hmethod h
      | type hvisits h => exact .type (.later hs htools hvisits) h
    · cases h

end

/-! ## Requests -/

/-- The settings for a request: those that are given, or else those in its parameter. -/
def Request.settingsFor (request : Request) (settings? : Option Settings) :
    Except Failure Settings :=
  settings?.elim request.settings .ok

/-- The message types that are looked at for a request, up to the first failure. -/
def Request.Visits (request : Request) (settings? : Option Settings) (type : String) : Prop :=
  ∃ settings files, request.settingsFor settings? = .ok settings ∧
    request.filesToGenerate = .ok files ∧
    RunVisits (.ofFiles request.files) settings [] files type

/-- A method of the files to generate for, or a field of a message type that is looked at, has
metadata that cannot be read. -/
inductive Request.Unreadable (request : Request) (settings? : Option Settings) (failure : Failure) :
    Prop
  | method {name : String} {file : File} {declared : String × Method}
    (hname : name ∈ request.toGenerate) (hfile : File.find? request.files name = some file)
    (hmethod : declared ∈ file.methods) (h : declared.2.metadata = .error failure)
  | field {type : String} (hvisits : request.Visits settings? type)
    (h : UnreadableField (.ofFiles request.files) type failure)

/-- Why a request is refused: its parameter, a missing file, a check on a method, or a message type
that is looked at. -/
inductive Cause (request : Request) (settings? : Option Settings) : Rejection → Prop
  | settings {error : SettingsError} (hnone : settings? = none)
    (h : Settings.ofParameter request.parameter = .error error) :
    Cause request settings? (.settings error)
  | missingFile {name : String} (hname : name ∈ request.toGenerate)
    (h : File.find? request.files name = none) :
    Cause request settings? (.shape (.missingFile name))
  | method {settings : Settings} {name : String} {file : File} {declared : String × Method}
    {reason : Rejection} (hsettings : request.settingsFor settings? = .ok settings)
    (hname : name ∈ request.toGenerate) (hfile : File.find? request.files name = some file)
    (hmethod : declared ∈ file.methods)
    (h : MethodFault file (.ofFiles request.files) settings declared reason) :
    Cause request settings? reason
  | type {type : String} {reason : Rejection} (hvisits : request.Visits settings? type)
    (h : TypeFault (.ofFiles request.files) type reason) : Cause request settings? reason

section
variable {request : Request} {settings? : Option Settings} {failure : Failure}

theorem filesToGenerate_eq_error (h : request.filesToGenerate = .error failure) :
    ∃ name ∈ request.toGenerate, File.find? request.files name = none ∧
      failure = .rejected (.shape (.missingFile name)) := by
  unfold Request.filesToGenerate at h
  obtain ⟨before, name, after, -, hnames, -, h⟩ := mapM_eq_error.1 h
  refine ⟨name, by rw [hnames]; simp, ?_⟩
  split at h
  · cases h
  · next hnone => cases h; exact ⟨hnone, rfl⟩

theorem result_generatedFiles :
    (request.generatedFiles settings?).result =
      request.settingsFor settings? >>= fun settings =>
        request.filesToGenerate >>= fun files =>
          (generateFiles (.ofFiles request.files) settings [] files).result := by
  unfold Request.generatedFiles Request.settingsFor
  cases settings? <;>
    simp only [Logged.result_bind, Logged.result_ofExcept, Logged.result_pure, Option.elim_none,
      Option.elim_some]

/-- A generation that fails has a request that cannot be read, or that is to be refused. -/
theorem generatedFiles_eq_error
    (h : (request.generatedFiles settings?).result = .error failure) :
    Accounted (request.Unreadable settings?) (Cause request settings?) failure := by
  rw [result_generatedFiles] at h
  obtain h | ⟨settings, hsettings, h⟩ := bind_eq_error.1 h
  · cases settings? with
    | some settings => cases h
    | none =>
      cases he : Settings.ofParameter request.parameter with
      | ok settings =>
        simp only [Request.settingsFor, Option.elim_none, Request.settings, he] at h
        cases h
      | error error =>
        simp only [Request.settingsFor, Option.elim_none, Request.settings, he] at h
        cases h
        exact .refused (.settings rfl he)
  obtain h | ⟨files, hfiles, h⟩ := bind_eq_error.1 h
  · obtain ⟨name, hname, hnone, rfl⟩ := filesToGenerate_eq_error h
    exact .refused (.missingFile hname hnone)
  cases generateFiles_eq_error h with
  | method hfile hmethod h =>
    obtain ⟨name, hname, hfind⟩ := find?_of_mem_filesToGenerate hfiles hfile
    exact h.imp (fun _ h => .method hname hfind hmethod h)
      fun _ h => .method hsettings hname hfind hmethod h
  | type hvisits h =>
    have hvisits : request.Visits settings? _ := ⟨settings, files, hsettings, hfiles, hvisits⟩
    exact h.imp (fun _ h => .field hvisits h) fun _ h => .type hvisits h

end

/-! ## Answers -/

theorem append_ne_empty {front back : String} (h : front ≠ "" ∨ back ≠ "") :
    front ++ back ≠ "" := by
  rw [ne_eq, String.append_eq_empty_iff, not_and_or]
  exact h

theorem SettingsError.message_ne_empty (error : SettingsError) : error.message ≠ "" := by
  cases error with
  | missingValue key => exact append_ne_empty (.inr (by decide))
  | badSuffix value => exact append_ne_empty (.inl (by decide))
  | badNameScope value => exact append_ne_empty (.inl (by decide))
  | notBoolean key value =>
    exact append_ne_empty (.inl (append_ne_empty (.inr (by decide))))
  | notModulePath value => exact append_ne_empty (.inl (by decide))
  | unknownSetting key => exact append_ne_empty (.inl (by decide))

theorem DeclarationError.message_ne_empty (error : DeclarationError) : error.message ≠ "" := by
  cases error with
  | streaming owner => exact append_ne_empty (.inr (by decide))
  | invalidToolName owner name => exact append_ne_empty (.inr (by decide))
  | undescribedTool owner name => exact append_ne_empty (.inr (by decide))
  | undescribedField field => exact append_ne_empty (.inr (by decide))

theorem ShapeError.message_ne_empty (error : ShapeError) : error.message ≠ "" := by
  cases error with
  | missingFile name => exact append_ne_empty (.inr (by decide))
  | unresolvedType name => exact append_ne_empty (.inl (by decide))
  | unsupportedType field type =>
    exact append_ne_empty (.inl (append_ne_empty (.inr (by decide))))
  | malformedEntry field => exact append_ne_empty (.inr (by decide))
  | unsupportedKey field type =>
    exact append_ne_empty (.inl (append_ne_empty (.inr (by decide))))
  | noSchema method => exact append_ne_empty (.inl (by decide))

/-- No message is empty. -/
theorem Rejection.message_ne_empty (reason : Rejection) : reason.message ≠ "" := by
  cases reason with
  | settings error => exact error.message_ne_empty
  | declaration error => exact error.message_ne_empty
  | conflict error =>
    refine append_ne_empty (.inl (append_ne_empty (.inr ?_)))
    decide
  | shape error => exact error.message_ne_empty

section
variable {request : Request} {settings? : Option Settings}

/-- No method is left without a schema. -/
theorem Cause.ne_noSchema {reason : Rejection} (h : Cause request settings? reason)
    (method : String) : reason ≠ .shape (.noSchema method) := by
  cases h with
  | settings hnone h => nofun
  | missingFile hname h => nofun
  | method hsettings hname hfile hmethod h =>
    cases h with
    | declaration hmetadata h =>
      obtain ⟨_, he, hshape⟩ := checkDeclaration_eq_error h
      cases he
      exact hshape _
    | undescribedField => nofun
    | claimed => nofun
  | type hvisits h =>
    cases h with
    | unresolvedType h => nofun
    | field hmessage hfield h => cases h <;> nofun

/-- If the metadata of all methods of the files can be read, and so can that of all fields of
message types that are looked at, then there is an answer. It has no error, or else no files and the
message of a reason that has its cause in the request; a method without a schema is never the reason.
Every schema can be written as a literal. -/
theorem generate_all_or_nothing
    (hmethods : ∀ name ∈ request.toGenerate, ∀ file, File.find? request.files name = some file →
      ∀ declared ∈ file.methods, ∃ found, declared.2.metadata = .ok found)
    (hfields : ∀ type, request.Visits settings? type →
      ∀ message, (TypeIndex.ofFiles request.files).find? type = some message →
        ∀ field ∈ message.fields, ∃ found, field.metadata = .ok found) :
    (∃ response, (generate request settings?).result = .ok response ∧
      (response.error = none ∨
        ∃ reason, response.error = some reason.message ∧ reason.message ≠ "" ∧
          response.files = [] ∧ Cause request settings? reason ∧
          ∀ method, reason ≠ .shape (.noSchema method))) ∧
    ∀ node : Schema.Node, node.toValue.toLiteral = .ok node.toLiteral := by
  refine ⟨?_, Schema.Node.toLiteral_toValue⟩
  have hreadable : ∀ failure, ¬request.Unreadable settings? failure := by
    intro failure h
    cases h with
    | method hname hfile hmethod h =>
      obtain ⟨found, hfound⟩ := hmethods _ hname _ hfile _ hmethod
      rw [hfound] at h
      cases h
    | field hvisits h =>
      obtain ⟨message, hmessage, field, hfield, h⟩ := h
      obtain ⟨found, hfound⟩ := hfields _ hvisits _ hmessage _ hfield
      rw [hfound] at h
      cases h
  rw [result_generate]
  cases hfiles : (request.generatedFiles settings?).result with
  | ok files => exact ⟨_, rfl, .inl rfl⟩
  | error failure =>
    cases generatedFiles_eq_error hfiles with
    | unreadable h => exact absurd h (hreadable failure)
    | refused h =>
      exact ⟨_, rfl, .inr ⟨_, rfl, Rejection.message_ne_empty _, rfl, h, h.ne_noSchema⟩⟩

end

/-- A request for a file with three tools and then one with a streaming tool. -/
def lateRequest : Request where
  toGenerate := [shopFile.name, "late.proto"]
  files := [shopFile, {
    name := "late.proto"
    services := [{ name := "Late", methods := [{
      name := "Watch", input := ".shop.Order", serverStreaming := true
      options := ToolMetadata.toOptions {} }] }] }]

theorem generate_all_or_nothing_late :
    ∃ response reason, (generate lateRequest none).result = .ok response ∧ response.files = [] ∧
      response.error = some reason.message ∧ Cause lateRequest none reason := by
  have hmethods : ∀ name ∈ lateRequest.toGenerate, ∀ file ∈ File.find? lateRequest.files name,
      ∀ declared ∈ file.methods, declared.2.metadata.toOption.isSome := by
    decide +kernel
  have hfields : ∀ entry ∈ (TypeIndex.ofFiles lateRequest.files).entries,
      ∀ field ∈ entry.2.fields, field.metadata.toOption.isSome := by
    decide +kernel
  have hrefused : ((generate lateRequest none).result.toOption.bind (·.error)).isSome := by
    decide +kernel
  have hok : ∀ {α : Type} {x : Except Failure α}, x.toOption.isSome → ∃ found, x = .ok found := by
    intro α x h
    obtain ⟨found, h⟩ := Option.isSome_iff_exists.1 h
    exact ⟨found, toOption_eq_some.1 h⟩
  obtain ⟨response, hresponse, hnone | ⟨reason, hreason, -, hfiles, hcause, -⟩⟩ :=
    (generate_all_or_nothing
      (fun name hn file hf declared hd => hok (hmethods name hn file hf declared hd))
      (fun type _ message hm field hf =>
        hok (hfields _ (TypeIndex.mem_entries_of_find hm) field hf))).1
  · rw [hresponse, Except.toOption, Option.bind_some, hnone] at hrefused
    cases hrefused
  · exact ⟨response, reason, hresponse, hfiles, hreason, hcause⟩

end ToolBindings
