import ToolBindings.Generation
import ToolBindings.Proofs.Generation.NameScope
import ToolBindings.Proofs.Schema.Visibility

/-!
# What of a file is seen

Of a file its name, its package, whether it has services, and those methods are seen
that do not say that they are no tools. Files that look the same have the same tools or
fail in the same way, under indexes that look the same at the types that are seen.

* `MethodView`, `File.view`: what is seen of methods and files.
* `toolsAmong_filter`: methods without tool metadata leave nothing but an event.
* `toolsAmong_of_view`: the walk through methods that look the same.
* `toolsWithSchemas_of_view`: the tools of files that look the same.
-/
namespace ToolBindings

/-! ## Views -/

/-- What is seen of a method. The type of what it returns is not. -/
structure MethodView where
  service : String
  name : String
  input : String
  clientStreaming : Bool
  serverStreaming : Bool
  /-- The metadata in the options, which are not looked at otherwise. -/
  metadata : Except Failure (Option ToolMetadata)
deriving DecidableEq

def MethodView.of (declared : String × Method) : MethodView where
  service := declared.1
  name := declared.2.name
  input := declared.2.input
  clientStreaming := declared.2.clientStreaming
  serverStreaming := declared.2.serverStreaming
  metadata := declared.2.metadata

/-- Whether a method has options that can be read and hold no tool metadata. -/
def Method.isPlain (method : Method) : Bool :=
  match method.metadata with
  | .ok none => true
  | _ => false

/-- What is seen of a file. -/
structure FileView where
  name : String
  package : String
  hasServices : Bool
  methods : List MethodView
deriving DecidableEq

def File.view (file : File) : FileView where
  name := file.name
  package := file.package
  hasServices := file.hasServices
  methods := (file.methods.filter fun declared => !declared.2.isPlain).map MethodView.of

/-- The types that the tools among the methods of a file take. -/
def File.inputs (file : File) : List String :=
  file.methods.filterMap fun declared =>
    match declared.2.metadata with
    | .ok (some _) => some declared.2.input
    | _ => none

/-- The claims after a walk and its result, without the events. -/
def outcome {α : Type} (walk : Claims × Logged α) : Claims × Except Failure α :=
  (walk.1, walk.2.result)

/-! ## Methods -/

section
variable {seen : String → Prop} {index other : TypeIndex} {settings : Settings}
  {claims : Claims} {constants : Tool.Constants} {file file' : File}
  {methods methods' : List (String × Method)} {tools : List Tool}

theorem mem_inputs {declared : String × Method} {metadata : ToolMetadata}
    (hm : declared ∈ file.methods) (h : declared.2.metadata = .ok (some metadata)) :
    declared.2.input ∈ file.inputs :=
  List.mem_filterMap.2 ⟨declared, hm, by rw [h]⟩

/-- Methods without tool metadata are passed over. -/
theorem toolsAmong_filter :
    outcome (toolsAmong file index settings claims constants
        (methods.filter fun declared => !declared.2.isPlain)) =
      outcome (toolsAmong file index settings claims constants methods) := by
  induction methods generalizing claims constants with
  | nil => rfl
  | cons declared rest ih =>
    obtain ⟨service, method⟩ := declared
    unfold outcome at ih ⊢
    cases hm : method.metadata with
    | error failure =>
      rw [List.filter_cons_of_pos (by simp [Method.isPlain, hm])]
      simp only [toolsAmong, hm]
    | ok metadata? =>
      cases metadata? with
      | none =>
        rw [List.filter_cons_of_neg (by simp [Method.isPlain, hm]), ih]
        simp only [toolsAmong, hm, Logged.result_bind, Logged.result_report]
        rfl
      | some metadata =>
        rw [List.filter_cons_of_pos (by simp [Method.isPlain, hm])]
        simp only [toolsAmong, hm]
        split
        · rfl
        split
        · rfl
        simp only [Logged.result_bind, Prod.mk.injEq] at ih ⊢
        exact ⟨ih.1, by rw [ih.2]⟩

theorem annotatedFields_of_view (hsame : SameAt seen index other) {owner : String}
    {fields fields' : List Field} (hv : fields.map Field.view = fields'.map Field.view)
    (hl : ∀ field ∈ fields, ∀ name ∈ field.lookups index, seen name) :
    Tool.annotatedFields settings index owner fields =
      Tool.annotatedFields settings other owner fields' := by
  induction fields generalizing fields' with
  | nil =>
    obtain rfl : fields' = [] := by simpa using hv.symm
    rfl
  | cons field rest ih =>
    obtain ⟨field', rest', rfl, hfield, hrest⟩ := List.map_eq_cons_iff.1 hv.symm
    have hspec : FieldSpec.ofField index owner field = FieldSpec.ofField other owner field' :=
      ofField_of_view hfield.symm fun name hm => hsame.same (hl field List.mem_cons_self name hm)
    have hname : field.name = field'.name := congrArg FieldView.name hfield.symm
    have hothers := ih hrest.symm fun f hm => hl f (List.mem_cons_of_mem _ hm)
    simp only [Tool.annotatedFields, hspec, hname, hothers]

/-- Methods that look the same are the same tool, or none for the same reason. -/
theorem ofMethod_of_view (hsame : SameAt seen index other) (hpackage : file.package = file'.package)
    (hname : file.name = file'.name) {declared declared' : String × Method}
    {metadata : ToolMetadata} (hv : MethodView.of declared = MethodView.of declared')
    (hseen : seen declared.2.input) :
    Tool.ofMethod file index settings constants declared.1 declared.2 metadata =
      Tool.ofMethod file' other settings constants declared'.1 declared'.2 metadata := by
  unfold MethodView.of at hv
  simp only [MethodView.mk.injEq] at hv
  obtain ⟨hservice, hmethod, hinput, hclient, hserver, -⟩ := hv
  have hresolve := resolve_of_view (hsame.same hseen)
  rw [hinput] at hseen hresolve
  unfold Tool.ofMethod Tool.checkDeclaration File.ownerLabel
  simp only [hservice, hmethod, hinput, hclient, hserver, hpackage, hname]
  obtain ⟨message, message', hm, hm', hfields⟩ | ⟨failure, hf, hf'⟩ := hresolve
  · have hannotated : ∀ owner, Tool.annotatedFields settings index owner message.fields =
        Tool.annotatedFields settings other owner message'.fields := fun owner =>
      annotatedFields_of_view hsame (congrArg MessageView.fields hfields) fun field hf name ht =>
        hsame.closed hseen ⟨message, resolve_eq_ok.1 hm, field, hf, ht⟩
    simp only [hm, hm', bind, Except.bind, hannotated]
  · simp only [hf, hf', bind, Except.bind]

/-- Walks through methods that look the same have the same outcome. The induction is on the
methods; both walks have the same constants and claims all the way. -/
theorem toolsAmong_of_view (hsame : SameAt seen index other)
    (hpackage : file.package = file'.package) (hname : file.name = file'.name)
    (hv : methods.map MethodView.of = methods'.map MethodView.of)
    (hseen : ∀ declared ∈ methods, ∀ metadata, declared.2.metadata = .ok (some metadata) →
      seen declared.2.input) :
    outcome (toolsAmong file index settings claims constants methods) =
      outcome (toolsAmong file' other settings claims constants methods') := by
  induction methods generalizing methods' claims constants with
  | nil =>
    obtain rfl : methods' = [] := by simpa using hv.symm
    rfl
  | cons declared rest ih =>
    obtain ⟨declared', rest', rfl, hdeclared, hrest⟩ := List.map_eq_cons_iff.1 hv.symm
    have ih := fun claims constants => @ih claims constants _ hrest.symm fun d hm =>
      hseen d (List.mem_cons_of_mem _ hm)
    have hmetadata : declared'.2.metadata = declared.2.metadata :=
      congrArg MethodView.metadata hdeclared
    have howner : file'.ownerLabel declared'.1 declared'.2.name =
        file.ownerLabel declared.1 declared.2.name := by
      unfold File.ownerLabel
      rw [hpackage, hname, show declared'.1 = declared.1 from congrArg MethodView.service hdeclared,
        show declared'.2.name = declared.2.name from congrArg MethodView.name hdeclared]
    unfold outcome at ih ⊢
    simp only [Prod.mk.injEq] at ih ⊢
    cases hm : declared.2.metadata with
    | error failure => simp only [toolsAmong, hmetadata, hm, and_self]
    | ok metadata? =>
      cases metadata? with
      | none =>
        obtain ⟨hclaims, hresult⟩ := ih claims constants
        simp only [toolsAmong, hmetadata, hm, Logged.result_bind, Logged.result_report, hclaims,
          hresult, and_self]
      | some metadata =>
        have htool : Tool.ofMethod file index settings constants declared.1 declared.2 metadata =
            Tool.ofMethod file' other settings constants declared'.1 declared'.2 metadata :=
          ofMethod_of_view hsame hpackage hname hdeclared.symm
            (hseen declared List.mem_cons_self metadata hm)
        simp only [toolsAmong, hmetadata, hm, ← htool, howner]
        split
        · exact ⟨rfl, rfl⟩
        split
        · exact ⟨rfl, rfl⟩
        next tool _ _ later _ =>
        obtain ⟨hclaims, hresult⟩ :=
          ih later ((tool.constantName, file.ownerLabel declared.1 declared.2.name) :: constants)
        simp only [Logged.result_bind, hclaims, hresult, and_self]

/-! ## Files -/

theorem tools_of_view (hsame : SameAt seen index other) (hv : file.view = file'.view)
    (hseen : ∀ input ∈ file.inputs, seen input) :
    outcome (file.tools index settings claims) = outcome (file'.tools other settings claims) := by
  unfold File.view at hv
  simp only [FileView.mk.injEq] at hv
  obtain ⟨hname, hpackage, -, hmethods⟩ := hv
  unfold File.tools
  refine toolsAmong_filter.symm.trans (Eq.trans ?_ toolsAmong_filter)
  exact toolsAmong_of_view hsame hpackage hname hmethods fun declared hm metadata h =>
    hseen _ (mem_inputs (List.mem_of_mem_filter hm) h)

theorem inputType_mem_inputs (h : (file.tools index settings claims).2.result = .ok tools)
    {tool : Tool} (ht : tool ∈ tools) : tool.inputType ∈ file.inputs := by
  obtain ⟨hdeclared, -⟩ := toolsAmong_eq_ok.1 h
  obtain ⟨declared, hm, hd⟩ := exists_declaration hdeclared ht
  obtain ⟨metadata, hmetadata, ho⟩ := Tool.ofDeclaration_eq_some.1 hd
  obtain ⟨-, input, fields, -, -, rfl⟩ := Tool.ofMethod_eq_ok.1 ho
  exact mem_inputs hm hmetadata

theorem withSchemas_of_view (hsame : SameAt seen index other)
    (hseen : ∀ tool ∈ tools, seen tool.inputType) :
    (withSchemas index tools).result = (withSchemas other tools).result := by
  unfold withSchemas
  rw [Logged.result_mapM, Logged.result_mapM]
  refine mapM_congr_of_mem fun tool hm => ?_
  unfold Tool.withSchema
  rw [Logged.result_bind, Logged.result_bind, Schema.ofType_of_view hsame (hseen tool hm)]

/-- Files that look the same have the same tools with the same schemas, or fail in the same way, and
claim the same names. -/
theorem toolsWithSchemas_of_view (hsame : SameAt seen index other) (hv : file.view = file'.view)
    (hseen : ∀ input ∈ file.inputs, seen input) :
    outcome (file.toolsWithSchemas index settings claims) =
      outcome (file'.toolsWithSchemas other settings claims) := by
  have htools : outcome (file.tools index settings claims) =
      outcome (file'.tools other settings claims) := tools_of_view hsame hv hseen
  unfold outcome at htools ⊢
  simp only [Prod.mk.injEq] at htools
  unfold File.toolsWithSchemas
  simp only [Logged.result_bind, ← htools.1, ← htools.2, Prod.mk.injEq, true_and]
  exact bind_congr_of_ok fun tools ht => withSchemas_of_view hsame fun tool hm =>
    hseen _ (inputType_mem_inputs ht hm)

/-- Of a file the text of its module shows the name and the tools. -/
theorem fileOfTools_of_name (h : file.name = file'.name) :
    fileOfTools file settings tools = fileOfTools file' settings tools := by
  unfold fileOfTools moduleText Module.ofTools
  rw [h]

end

end ToolBindings
