import ToolBindings.Proofs.Entries
import ToolBindings.Proofs.Journal.Success
import ToolBindings.Tool.Discovery

/-!
# Which methods become tools

`toolsAmong` goes through the methods of a file in order, with the constants of the
file and the claims of the run beside it. What it finds is what each method is by
itself; the constants and claims only decide whether it gets to the end.

* `Tool.annotatedFields_eq_ok`, `Tool.ofMethod_eq_ok`: when a method is a tool.
* `Tool.ofDeclaration`, `declaredTools`: what methods are by themselves.
* `AreFree`: names that differ from one another and from those in use.
* `toolsAmong_eq_ok`: the walk succeeds exactly if every method passes by itself and
  the constants and the tool names are free.
* `claims_toolsAmong`: a walk that succeeds claims the names of its tools in order.
-/
namespace ToolBindings

/-! ## One method -/

namespace Tool

variable {file : File} {index : TypeIndex} {settings : Settings} {constants : Constants}
  {service : String} {method : Method} {metadata : ToolMetadata} {tool : Tool}

theorem checkDeclaration_eq_ok {owner name constant : String} :
    checkDeclaration settings constants owner name constant metadata method = .ok () ↔
      method.clientStreaming = false ∧ method.serverStreaming = false ∧
        Naming.isToolName name = true ∧
        (settings.requireDescriptions = true → metadata.description ≠ "") ∧
        constants.lookup constant = none := by
  unfold checkDeclaration
  split
  · next h =>
    rw [Bool.or_eq_true] at h
    constructor
    · intro he; cases he
    · intro h
      obtain ⟨h1, h2, -⟩ := h
      rcases h with h | h
      · rw [h1] at h; cases h
      · rw [h2] at h; cases h
  next hs =>
  rw [Bool.or_eq_true, not_or, Bool.not_eq_true, Bool.not_eq_true] at hs
  split
  · next h =>
    constructor
    · intro he; cases he
    · intro h
      obtain ⟨-, -, hn, -⟩ := h
      rw [hn] at h; cases h
  next hn =>
  split
  · next h =>
    rw [Bool.and_eq_true, beq_iff_eq] at h
    constructor
    · intro he; cases he
    · intro h
      obtain ⟨-, -, -, hd, -⟩ := h
      exact absurd h.2 (hd h.1)
  next hd =>
  rw [Bool.and_eq_true, beq_iff_eq, not_and] at hd
  cases hl : constants.lookup constant with
  | some holder =>
    constructor
    · intro he; cases he
    · intro h
      obtain ⟨-, -, -, -, h⟩ := h
      cases h
  | none => exact ⟨fun _ => ⟨hs.1, hs.2, by simpa using hn, hd, rfl⟩, fun _ => rfl⟩

/-- The fields of a message are in order exactly if each of them is and, where the settings say so,
each required one is described. Those that carry metadata are kept. -/
theorem annotatedFields_eq_ok {owner : String} {fields : List Field} {specs : List FieldSpec} :
    annotatedFields settings index owner fields = .ok specs ↔
      ∃ all, List.Forall₂ (fun field spec => FieldSpec.ofField index owner field = .ok spec)
          fields all ∧
        (settings.requireDescriptions = true →
          ∀ spec ∈ all, spec.required = true → spec.description ≠ "") ∧
        specs = all.filter (·.annotated) := by
  induction fields generalizing specs with
  | nil =>
    constructor
    · intro h; cases h; exact ⟨[], .nil, fun _ => nofun, rfl⟩
    · intro h
      obtain ⟨_, h, -, rfl⟩ := h
      cases h; rfl
  | cons field rest ih =>
    have hfilter : ∀ (spec : FieldSpec) others,
        (if spec.annotated = true then spec :: others.filter (·.annotated)
          else others.filter (·.annotated)) = (spec :: others).filter (·.annotated) := by
      intro spec others
      rw [List.filter_cons]
    simp only [annotatedFields_cons, bind_eq_ok]
    constructor
    · intro h
      obtain ⟨spec, hs, h⟩ := h
      split at h
      · cases h
      next hd =>
      obtain ⟨_, ho, rfl⟩ := map_eq_ok.1 h
      obtain ⟨others, hall, hdesc, rfl⟩ := ih.1 ho
      refine ⟨spec :: others, .cons hs hall, fun hr => ?_, hfilter spec others⟩
      rw [List.forall_mem_cons]
      refine ⟨fun hreq he => hd ?_, hdesc hr⟩
      rw [hr, hreq, he]; rfl
    · intro h
      obtain ⟨all, hall, hdesc, rfl⟩ := h
      obtain ⟨spec, others, hs, ho, rfl⟩ := List.forall₂_cons_left_iff.1 hall
      refine ⟨spec, hs, ?_⟩
      rw [if_neg, map_eq_ok]
      · exact ⟨_, ih.2 ⟨others, ho, fun hr => (List.forall_mem_cons.1 (hdesc hr)).2, rfl⟩,
          hfilter spec others⟩
      · rw [Bool.and_eq_true, Bool.and_eq_true, beq_iff_eq]
        rintro ⟨⟨hr, hreq⟩, he⟩
        exact hdesc hr spec List.mem_cons_self hreq he

/-- A method is a tool exactly if its declaration is in order, its input is known, and the
fields of the input are in order. -/
theorem ofMethod_eq_ok :
    ofMethod file index settings constants service method metadata = .ok tool ↔
      checkDeclaration settings constants (file.ownerLabel service method.name)
          (chooseName metadata service method.name)
          (Naming.constantName service method.name) metadata method = .ok () ∧
        ∃ input fields, index.resolve method.input = .ok input ∧
          annotatedFields settings index (withoutDots method.input) input.fields = .ok fields ∧
          tool = {
            name := chooseName metadata service method.name
            constantName := Naming.constantName service method.name
            fields, service
            description := metadata.description
            method := method.name
            fullMethodName := qualifiedName file.package [service, method.name]
            inputType := method.input } := by
  simp only [ofMethod, bind_eq_ok, pure_eq_ok, eq_comm (a := tool)]
  constructor
  · intro h
    obtain ⟨_, hc, input, hi, fields, hf, ht⟩ := h
    exact ⟨hc, input, fields, hi, hf, ht⟩
  · intro h
    obtain ⟨hc, input, fields, hi, hf, ht⟩ := h
    exact ⟨(), hc, input, hi, fields, hf, ht⟩

/-- The constants in use decide about the method's own constant and nothing else. -/
theorem ofMethod_constants :
    ofMethod file index settings constants service method metadata = .ok tool ↔
      ofMethod file index settings [] service method metadata = .ok tool ∧
        constants.lookup tool.constantName = none := by
  rw [ofMethod_eq_ok, ofMethod_eq_ok, checkDeclaration_eq_ok, checkDeclaration_eq_ok]
  constructor
  · intro h
    obtain ⟨⟨h1, h2, h3, h4, hl⟩, input, fields, hi, hf, rfl⟩ := h
    exact ⟨⟨⟨h1, h2, h3, h4, rfl⟩, input, fields, hi, hf, rfl⟩, hl⟩
  · intro h
    obtain ⟨⟨⟨h1, h2, h3, h4, -⟩, input, fields, hi, hf, rfl⟩, hl⟩ := h
    exact ⟨⟨h1, h2, h3, h4, hl⟩, input, fields, hi, hf, rfl⟩

/-- What a method is, whatever the names of other methods: a tool, or nothing if it carries no
tool metadata. -/
def ofDeclaration (file : File) (index : TypeIndex) (settings : Settings)
    (declared : String × Method) : Except Failure (Option Tool) := do
  match ← declared.2.metadata with
  | none => return none
  | some metadata =>
    return some (← ofMethod file index settings [] declared.1 declared.2 metadata)

theorem ofDeclaration_eq_some {declared : String × Method} :
    ofDeclaration file index settings declared = .ok (some tool) ↔
      ∃ metadata, declared.2.metadata = .ok (some metadata) ∧
        ofMethod file index settings [] declared.1 declared.2 metadata = .ok tool := by
  unfold ofDeclaration
  rw [bind_eq_ok]
  constructor
  · intro h
    obtain ⟨found, hm, h⟩ := h
    cases found with
    | none => cases h
    | some metadata =>
      simp only [bind_eq_ok, pure_eq_ok, Option.some.injEq] at h
      obtain ⟨_, ho, rfl⟩ := h
      exact ⟨metadata, hm, ho⟩
  · intro h
    obtain ⟨metadata, hm, ho⟩ := h
    refine ⟨some metadata, hm, ?_⟩
    simp only [bind_eq_ok, pure_eq_ok, Option.some.injEq]
    exact ⟨tool, ho, rfl⟩

theorem ofDeclaration_eq_none {declared : String × Method} :
    ofDeclaration file index settings declared = .ok none ↔
      declared.2.metadata = .ok none := by
  unfold ofDeclaration
  rw [bind_eq_ok]
  constructor
  · intro h
    obtain ⟨found, hm, h⟩ := h
    cases found with
    | none => exact hm
    | some metadata =>
      simp only [bind_eq_ok, pure_eq_ok, reduceCtorEq, and_false, exists_false] at h
  · intro hm; exact ⟨none, hm, rfl⟩

/-- A tool knows its method, and its constant is made from the two names. -/
theorem names_of_ofDeclaration {declared : String × Method}
    (h : ofDeclaration file index settings declared = .ok (some tool)) :
    tool.service = declared.1 ∧ tool.method = declared.2.name ∧
      tool.constantName = Naming.constantName tool.service tool.method := by
  obtain ⟨metadata, -, ho⟩ := ofDeclaration_eq_some.1 h
  obtain ⟨-, input, fields, -, -, rfl⟩ := ofMethod_eq_ok.1 ho
  exact ⟨rfl, rfl, rfl⟩

section
variable {other : Settings} (h : settings.requireDescriptions = other.requireDescriptions)
include h

theorem annotatedFields_congr (owner : String) (fields : List Field) :
    annotatedFields settings index owner fields = annotatedFields other index owner fields := by
  induction fields with
  | nil => rfl
  | cons field rest ih => simp only [annotatedFields, ih, h]

/-- Of the settings only the one about descriptions decides what a method is. -/
theorem ofDeclaration_congr (declared : String × Method) :
    ofDeclaration file index settings declared = ofDeclaration file index other declared := by
  simp only [ofDeclaration, ofMethod, checkDeclaration, annotatedFields_congr h, h]

end

end Tool

/-! ## Names that are free -/

/-- Names that differ from one another and from all names in use. -/
def AreFree (used names : List String) : Prop := names.Nodup ∧ ∀ name ∈ names, name ∉ used

theorem areFree_nil (used : List String) : AreFree used [] := ⟨.nil, by simp⟩

/-- Free names can be taken one after the other. -/
theorem areFree_cons {used later names : List String} {name : String}
    (h : ∀ x, x ∈ later ↔ x = name ∨ x ∈ used) :
    AreFree used (name :: names) ↔ name ∉ used ∧ AreFree later names := by
  unfold AreFree
  simp only [List.nodup_cons, List.forall_mem_cons, h, not_or]
  constructor
  · intro h
    obtain ⟨⟨hn, hd⟩, hu, hall⟩ := h
    exact ⟨hu, hd, fun x hx => ⟨fun he => hn (he ▸ hx), hall x hx⟩⟩
  · intro h
    obtain ⟨hu, hd, hall⟩ := h
    exact ⟨⟨fun hn => (hall name hn).1 rfl, hd⟩, hu, fun x hx => (hall x hx).2⟩

/-- Free names can be taken in two portions. -/
theorem areFree_append {used front back : List String} :
    AreFree used (front ++ back) ↔ AreFree used front ∧ AreFree (used ++ front) back := by
  unfold AreFree
  simp only [List.nodup_append, List.mem_append, not_or]
  constructor
  · intro h
    obtain ⟨⟨hf, hb, hd⟩, hu⟩ := h
    exact ⟨⟨hf, fun x hx => hu x (.inl hx)⟩, hb,
      fun x hx => ⟨hu x (.inr hx), fun hm => hd x hm x hx rfl⟩⟩
  · intro h
    obtain ⟨⟨hf, huf⟩, hb, h⟩ := h
    refine ⟨⟨hf, hb, fun x hx y hy he => (h y hy).2 (he ▸ hx)⟩, ?_⟩
    rintro x (hx | hx)
    · exact huf x hx
    · exact (h x hx).1

theorem areFree_nil_left {names : List String} : AreFree [] names ↔ names.Nodup := by
  simp [AreFree]

/-- A free name is taken by an entry at either end of those that hold the names in use. -/
theorem areFree_cons_entry (entries : List (String × String)) (name holder : String)
    (names : List String) :
    AreFree (entries.map (·.1)) (name :: names) ↔
      entries.lookup name = none ∧ AreFree (((name, holder) :: entries).map (·.1)) names := by
  rw [Entries.lookup_eq_none]
  exact areFree_cons fun x => by rw [List.map_cons, List.mem_cons]

theorem areFree_append_entry (entries : List (String × String)) (name holder : String)
    (names : List String) :
    AreFree (entries.map (·.1)) (name :: names) ↔
      entries.lookup name = none ∧ AreFree ((entries ++ [(name, holder)]).map (·.1)) names := by
  rw [Entries.lookup_eq_none]
  exact areFree_cons fun x => by
    rw [List.map_append, List.mem_append, List.map_singleton, List.mem_singleton, or_comm]

/-! ## All methods of a file -/

section
variable {file : File} {index : TypeIndex} {settings : Settings} {claims : Claims}
  {constants : Tool.Constants} {methods : List (String × Method)} {tools : List Tool}

def declaredTools (file : File) (index : TypeIndex) (settings : Settings)
    (methods : List (String × Method)) : Except Failure (List Tool) :=
  (methods.mapM (Tool.ofDeclaration file index settings)).map (·.filterMap id)

theorem declaredTools_nil : declaredTools file index settings [] = .ok [] := rfl

theorem declaredTools_cons {declared : String × Method} :
    declaredTools file index settings (declared :: methods) = .ok tools ↔
      ∃ found others, Tool.ofDeclaration file index settings declared = .ok found ∧
        declaredTools file index settings methods = .ok others ∧
        tools = found.toList ++ others := by
  simp only [declaredTools, map_eq_ok, List.mapM_cons, bind_eq_ok, pure_eq_ok]
  constructor
  · intro h
    obtain ⟨_, ⟨found, hf, others, ho, rfl⟩, rfl⟩ := h
    refine ⟨found, _, hf, ⟨others, ho, rfl⟩, ?_⟩
    cases found <;> rfl
  · intro h
    obtain ⟨found, _, hf, ⟨others, ho, rfl⟩, rfl⟩ := h
    refine ⟨found :: others, ⟨found, hf, others, ho, rfl⟩, ?_⟩
    cases found <;> rfl

/-- What the walk can do with a method: pass it over, take it, or end there. -/
theorem toolsAmong_step (file : File) (index : TypeIndex) (settings : Settings) (claims : Claims)
    (constants : Tool.Constants) (declared : String × Method) (methods : List (String × Method)) :
    let owner := file.ownerLabel declared.1 declared.2.name
    let walk := toolsAmong file index settings claims constants (declared :: methods)
    (Tool.ofDeclaration file index settings declared = .ok none ∧
      ∃ later, later = toolsAmong file index settings claims constants methods ∧
        walk = (later.1, do Logged.report (.methodSkipped owner); later.2)) ∨
    (∃ tool, Tool.ofDeclaration file index settings declared = .ok (some tool) ∧
      constants.lookup tool.constantName = none ∧ claims.lookup tool.name = none ∧
      ∃ later, later = toolsAmong file index settings (claims ++ [(tool.name, owner)])
          ((tool.constantName, owner) :: constants) methods ∧
        walk = (later.1, do return tool :: (← later.2))) ∨
    (Tool.ofDeclaration file index settings declared ≠ .ok none ∧
      (∀ tool, Tool.ofDeclaration file index settings declared = .ok (some tool) →
        constants.lookup tool.constantName = none → claims.lookup tool.name ≠ none) ∧
      ∃ failure, walk = (claims, Logged.fail failure)) := by
  obtain ⟨service, method⟩ := declared
  intro owner walk
  simp only [ne_eq, Tool.ofDeclaration_eq_none, Tool.ofDeclaration_eq_some]
  cases hm : method.metadata with
  | error failure =>
    refine .inr (.inr ⟨nofun, ?_, failure, ?_⟩)
    · rintro tool ⟨_, h, -⟩; cases h
    · simp only [walk, toolsAmong, hm]
  | ok metadata? =>
    cases metadata? with
    | none => exact .inl ⟨rfl, _, rfl, by simp only [walk, toolsAmong, hm, owner]⟩
    | some metadata =>
      refine .inr ?_
      cases ho : Tool.ofMethod file index settings constants service method metadata with
      | error failure =>
        refine .inr ⟨nofun, ?_, failure, by simp only [walk, toolsAmong, hm, ho]⟩
        rintro tool ⟨_, h, htool⟩ hc
        cases h
        rw [Tool.ofMethod_constants.2 ⟨htool, hc⟩] at ho
        cases ho
      | ok tool =>
        obtain ⟨halone, hconstant⟩ := Tool.ofMethod_constants.1 ho
        cases hl : claims.lookup tool.name with
        | none =>
          refine .inl ⟨tool, ⟨metadata, rfl, halone⟩, hconstant, hl, _, rfl, ?_⟩
          have hclaim : claims.claim tool.name owner = .ok (claims ++ [(tool.name, owner)]) :=
            Claims.claim_eq_ok_iff.2 ⟨hl, rfl⟩
          simp only [walk, toolsAmong, hm, ho, hclaim, owner]
        | some holder =>
          refine .inr ⟨nofun, ?_, .rejected (.conflict {
            name := tool.name, holder, claimant := owner }), ?_⟩
          · rintro other ⟨_, h, hother⟩ -
            cases h
            rw [halone] at hother
            cases hother
            rw [hl]; nofun
          · simp only [walk, toolsAmong, hm, ho, Claims.claim, hl, owner]
            rfl

/-- The walk through the methods succeeds exactly if every method passes by itself and the names
are free. The induction is on the methods; the names in use grow with every tool. -/
theorem toolsAmong_eq_ok :
    (toolsAmong file index settings claims constants methods).2.result = .ok tools ↔
      declaredTools file index settings methods = .ok tools ∧
        AreFree (constants.map (·.1)) (tools.map (·.constantName)) ∧
        AreFree (claims.map (·.1)) (tools.map (·.name)) := by
  induction methods generalizing claims constants tools with
  | nil =>
    rw [declaredTools_nil, toolsAmong, Logged.result_pure]
    constructor
    · intro h; cases h; exact ⟨rfl, areFree_nil _, areFree_nil _⟩
    · intro h
      obtain ⟨h, -⟩ := h
      exact h
  | cons declared rest ih =>
    rw [declaredTools_cons]
    rcases toolsAmong_step file index settings claims constants declared rest with
      ⟨hd, later, rfl, hw⟩ | ⟨tool, hd, hc, hl, later, rfl, hw⟩ | ⟨hn, ht, failure, hw⟩
    · have hr : (toolsAmong file index settings claims constants (declared :: rest)).2.result =
          (toolsAmong file index settings claims constants rest).2.result := by
        rw [hw, Logged.result_bind]; rfl
      rw [hr, ih]
      constructor
      · intro h
        obtain ⟨ho, hfree⟩ := h
        exact ⟨⟨none, tools, hd, ho, rfl⟩, hfree⟩
      · intro h
        obtain ⟨⟨found, others, hf, ho, rfl⟩, hfree⟩ := h
        rw [hd] at hf
        cases hf
        exact ⟨ho, hfree⟩
    · rw [hw, Logged.result_bind, bind_eq_ok]
      simp only [Logged.result_pure, Except.ok.injEq, ih]
      have hcs := areFree_cons_entry constants tool.constantName
        (file.ownerLabel declared.1 declared.2.name)
      have hns := areFree_append_entry claims tool.name
        (file.ownerLabel declared.1 declared.2.name)
      constructor
      · intro h
        obtain ⟨others, ⟨ho, hco, hno⟩, rfl⟩ := h
        exact ⟨⟨some tool, others, hd, ho, rfl⟩, (hcs _).2 ⟨hc, hco⟩, (hns _).2 ⟨hl, hno⟩⟩
      · intro h
        obtain ⟨⟨found, others, hf, ho, rfl⟩, hco, hno⟩ := h
        rw [hd] at hf
        cases hf
        exact ⟨others, ⟨ho, ((hcs _).1 hco).2, ((hns _).1 hno).2⟩, rfl⟩
    · rw [hw, Logged.result_fail]
      constructor
      · intro h; cases h
      · intro h
        obtain ⟨⟨found, others, hf, ho, rfl⟩, hcs, hns⟩ := h
        cases found with
        | none => exact absurd hf hn
        | some tool =>
          simp only [Option.toList_some, List.singleton_append, List.map_cons] at hcs hns
          exact absurd (Entries.lookup_eq_none.2 (hns.2 _ List.mem_cons_self))
            (ht tool hf (Entries.lookup_eq_none.2 (hcs.2 _ List.mem_cons_self)))

/-- A walk that succeeds claims the names of its tools, each for its method. -/
theorem claims_toolsAmong
    (h : (toolsAmong file index settings claims constants methods).2.result = .ok tools) :
    (toolsAmong file index settings claims constants methods).1 =
      claims ++ tools.map fun tool => (tool.name, file.ownerLabel tool.service tool.method) := by
  induction methods generalizing claims constants tools with
  | nil =>
    rw [toolsAmong, Logged.result_pure] at h
    cases h
    rw [toolsAmong, List.map_nil, List.append_nil]
  | cons declared rest ih =>
    rcases toolsAmong_step file index settings claims constants declared rest with
      ⟨-, later, rfl, hw⟩ | ⟨tool, hd, -, -, later, rfl, hw⟩ | ⟨-, -, failure, hw⟩
    · rw [hw] at h ⊢
      rw [Logged.result_bind] at h
      exact ih h
    · rw [hw] at h ⊢
      rw [Logged.result_bind, bind_eq_ok] at h
      obtain ⟨others, ho, h⟩ := h
      cases h
      obtain ⟨hs, hm, -⟩ := Tool.names_of_ofDeclaration hd
      rw [ih ho, List.map_cons, hs, hm, List.append_assoc]
      rfl
    · rw [hw] at h; cases h

theorem declaredTools_congr {other : Settings}
    (h : settings.requireDescriptions = other.requireDescriptions) :
    declaredTools file index settings methods = declaredTools file index other methods := by
  simp only [declaredTools, funext (Tool.ofDeclaration_congr h)]

theorem exists_declaration (h : declaredTools file index settings methods = .ok tools) {tool : Tool}
    (ht : tool ∈ tools) :
    ∃ declared ∈ methods, Tool.ofDeclaration file index settings declared = .ok (some tool) := by
  induction methods generalizing tools with
  | nil => rw [declaredTools_nil] at h; cases h; cases ht
  | cons declared rest ih =>
    obtain ⟨found, others, hf, ho, rfl⟩ := declaredTools_cons.1 h
    rcases List.mem_append.1 ht with hm | hm
    · rw [Option.mem_toList] at hm
      cases hm
      exact ⟨declared, List.mem_cons_self, hf⟩
    · obtain ⟨other, hin, he⟩ := ih ho hm
      exact ⟨other, List.mem_cons_of_mem _ hin, he⟩

end

end ToolBindings
