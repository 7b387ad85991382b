import ToolBindings.Proofs.Entries
import ToolBindings.Proofs.Schema.Parts

/-!
# A schema is the unfolding of its type

The message types of an index and the fields that refer from one to another form a
graph, which may have cycles. A schema is what is seen on the routes through this
graph that enter no type a second time.

* `Node.at?`: the node at the end of a path of property names.
* `Route`: fields along the references from a type, with the types that have them.
* `levels`: one level of a schema, in terms of the fields of its type; `exists_last_level`: a
  route ends on the level of its last field.
* `unfolding_exact`: the paths of a schema are the routes, each ends in a node of the
  form that the last field has, and what is entered is shown in full and in order.
-/
namespace ToolBindings

/-- No message type of the index has two fields of one name. -/
def TypeIndex.HasDistinctFields (index : TypeIndex) : Prop :=
  ∀ name message, index.find? name = some message → (message.fields.map (·.name)).Nodup

theorem TypeIndex.hasDistinctFields_of_entries {index : TypeIndex}
    (h : ∀ entry ∈ index.entries, (entry.2.fields.map (·.name)).Nodup) : index.HasDistinctFields :=
  fun _ _ hm => h _ (mem_entries_of_find hm)

namespace Schema

/-! ## Paths and routes -/

/-- The node at the end of a path of property names. -/
def Node.at? (node : Node) : List String → Option Node
  | [] => some node
  | name :: path => (node.propertyNodes.lookup name).bind (·.at? path)

/-- Fields that lead from one message type to the next, each with the type that has it. Only the
type at the start may be one of those to avoid, and no type is entered twice. -/
structure Route (index : TypeIndex) (avoid : List String) (start : String)
    (steps : List (String × Field)) : Prop where
  starts : ∀ step ∈ steps.head?, step.1 = start
  declared : ∀ step ∈ steps, ∃ message, index.find? step.1 = some message ∧
    step.2 ∈ message.fields
  linked : steps.IsChain fun step next => step.2.refersTo index = some next.1
  simple : (steps.map (·.1)).Nodup
  fresh : ∀ name ∈ (steps.map (·.1)).tail, name ∉ avoid

/-- Whether a route can be followed into a message type. -/
def Enters (index : TypeIndex) (avoid : List String) (start : String)
    (steps : List (String × Field)) (target : String) : Prop :=
  match steps.getLast? with
  | none => target = start
  | some last => last.2.refersTo index = some target ∧ target ∉ avoid ∧ target ∉ steps.map (·.1)

section
variable {index : TypeIndex} {active : List String} {start next target : String}
  {step : String × Field} {steps rest : List (String × Field)}

theorem route_nil : Route index active start [] :=
  ⟨nofun, nofun, .nil, .nil, nofun⟩

/-- A route behind its first field is a route that avoids the first type as well. -/
theorem route_cons :
    Route index active start (step :: rest) ↔
      step.1 = start ∧
      (∃ message, index.find? step.1 = some message ∧ step.2 ∈ message.fields) ∧
      (rest = [] ∨ ∃ next, step.2.refersTo index = some next ∧ next ∉ start :: active ∧
        rest ≠ [] ∧ Route index (start :: active) next rest) := by
  constructor
  · intro h
    obtain rfl : step.1 = start := h.starts step rfl
    refine ⟨rfl, h.declared step List.mem_cons_self, ?_⟩
    cases rest with
    | nil => exact .inl rfl
    | cons other rest =>
      have hs := h.simple
      rw [List.map_cons, List.nodup_cons] at hs
      have hfresh : ∀ name ∈ (other :: rest).map (·.1), name ∉ step.1 :: active := by
        intro name hm
        rw [List.mem_cons, not_or]
        exact ⟨fun he => hs.1 (he ▸ hm), h.fresh name hm⟩
      obtain ⟨hlink, hlinks⟩ := List.isChain_cons_cons.1 h.linked
      refine .inr ⟨other.1, hlink, hfresh _ List.mem_cons_self, List.cons_ne_nil _ _, ?_⟩
      exact {
        starts := fun _ he => by cases he; rfl
        declared := fun s hm => h.declared s (List.mem_cons_of_mem _ hm)
        linked := hlinks
        simple := hs.2
        fresh := fun name hm => hfresh name (List.mem_of_mem_tail hm) }
  · intro h
    obtain ⟨rfl, hd, rfl | ⟨next, hr, hn, hne, h⟩⟩ := h
    · exact ⟨fun _ he => by cases he; rfl, fun s hm => by rw [List.mem_singleton.1 hm]; exact hd,
        .singleton _, List.nodup_singleton _, nofun⟩
    · obtain ⟨other, rest, rfl⟩ := List.exists_cons_of_ne_nil hne
      obtain rfl : other.1 = next := h.starts other rfl
      have hfresh : ∀ name ∈ (other :: rest).map (·.1), name ∉ step.1 :: active := by
        intro name hm
        rcases List.mem_cons.1 hm with rfl | hm
        · exact hn
        · exact h.fresh name hm
      exact {
        starts := fun _ he => by cases he; rfl
        declared := fun s hm => by
          rcases List.mem_cons.1 hm with rfl | hm
          · exact hd
          · exact h.declared s hm
        linked := List.isChain_cons_cons.2 ⟨hr, h.linked⟩
        simple := List.nodup_cons.2 ⟨fun hm => hfresh _ hm List.mem_cons_self, h.simple⟩
        fresh := fun name hm hc => hfresh name hm (List.mem_cons_of_mem _ hc) }

theorem enters_singleton (hs : step.1 = start) :
    Enters index active start [step] target ↔
      step.2.refersTo index = some target ∧ target ∉ start :: active := by
  subst hs
  unfold Enters
  simp only [List.getLast?_singleton, List.map_cons, List.map_nil, List.mem_cons,
    List.not_mem_nil, or_false, not_or]
  rw [and_comm (a := target ∉ active)]

theorem enters_cons (hs : step.1 = start) (hne : rest ≠ []) :
    Enters index active start (step :: rest) target ↔
      Enters index (start :: active) next rest target := by
  obtain ⟨other, rest, rfl⟩ := List.exists_cons_of_ne_nil hne
  subst hs
  unfold Enters
  rw [List.getLast?_cons_cons]
  cases hl : (other :: rest).getLast? with
  | none => simp at hl
  | some last =>
    simp only [List.map_cons, List.mem_cons, not_or]
    constructor
    · intro h
      obtain ⟨hr, ha, hst, ho⟩ := h
      exact ⟨hr, ⟨hst, ha⟩, ho⟩
    · intro h
      obtain ⟨hr, ⟨hst, ha⟩, ho⟩ := h
      exact ⟨hr, ha, hst, ho⟩

end

/-! ## One level -/

section
variable {index : TypeIndex} {active : List String} {field : Field} {node other : Node}
  {path : List String} {start : String} {root : Node}

/-- How a field of a type shows in a schema, the types in `active` being those that are not to be
entered again. -/
structure Shows (index : TypeIndex) (active : List String) (field : Field) (node : Node) :
    Prop where
  type : node.type = field.nodeType index
  inside : ∀ target, field.refersTo index = some target → target ∉ active →
    ∃ schema, (ofType index active target).result = .ok schema ∧
      node.propertyNodes = schema.propertyNodes
  outside : (∀ target, field.refersTo index = some target → target ∈ active) →
    node.propertyNodes = []

theorem shows_of_expands {owner : String} {part : FieldSpec × Node}
    (h : Expands index active owner field part) : Shows index active field part.2 := by
  obtain ⟨hs, value, hv, hn⟩ := h
  have href := typeRef_eq_message hs
  rw [hn]
  refine ⟨type_fieldNode hs hv, fun target ht ha => ?_, fun hin => ?_⟩
  · rw [propertyNodes_fieldNode hv]
    simp only [(href target).2 ht] at hv
    cases hv with
    | truncated hm => exact absurd hm ha
    | expanded _ hn => exact ⟨value, hn, rfl⟩
  · rw [propertyNodes_fieldNode hv]
    generalize hr : part.1.typeRef = ref at hv href
    cases hv with
    | object => rfl
    | scalar type => rfl
    | truncated _ => rfl
    | expanded ha _ => exact absurd (hin _ ((href _).1 rfl)) ha

theorem at?_congr (h : node.propertyNodes = other.propertyNodes) (hne : path ≠ []) :
    node.at? path = other.at? path := by
  obtain ⟨name, path, rfl⟩ := List.exists_cons_of_ne_nil hne
  rw [Node.at?, Node.at?, h]

theorem at?_eq_none (h : node.propertyNodes = []) (hne : path ≠ []) : node.at? path = none := by
  obtain ⟨name, path, rfl⟩ := List.exists_cons_of_ne_nil hne
  rw [Node.at?, h]
  rfl

/-- A level of a schema has the fields of its type in their order, and each of them shows. -/
theorem levels (hd : index.HasDistinctFields) (h : (ofType index active start).result = .ok root) :
    ∃ message, index.find? start = some message ∧
      root.propertyNodes.map (·.1) = message.fields.map (·.name) ∧
      ∀ field ∈ message.fields, ∃ node, root.propertyNodes.lookup field.name = some node ∧
        Shows index (start :: active) field node := by
  obtain ⟨message, parts, hf, hp, rfl⟩ := ofType_eq_ok.1 h
  have hnames := names_of_parts hp
  have hroot : (messageNode parts).propertyNodes = parts.map fun part => (part.1.name, part.2) :=
    congrArg (·.getD []) (properties_messageNode hp (hd start message hf))
  rw [hroot]
  refine ⟨message, hf, by rw [← hnames, List.map_map]; rfl, fun field hm => ?_⟩
  obtain ⟨part, -, he, hl⟩ := part_of_mem hp (hd start message hf) hm
  exact ⟨part.2, hl, shows_of_expands he⟩

end

/-! ## All levels -/

section
variable {index : TypeIndex} {active : List String} {start : String} {root : Node}

def names (steps : List (String × Field)) : List String := steps.map (·.2.name)

/-- What stands at the end of a route: a node of the form of the last field, with the fields of
the type that the route can be followed into, if there is one. -/
structure EndsIn (index : TypeIndex) (avoid : List String) (start : String)
    (steps : List (String × Field)) (node : Node) : Prop where
  form : ∀ last ∈ steps.getLast?, node.type = last.2.nodeType index
  entered : ∀ target, Enters index avoid start steps target →
    ∃ message, index.find? target = some message ∧
      node.propertyNodes.map (·.1) = message.fields.map (·.name)
  closed : (∀ target, ¬Enters index avoid start steps target) → node.propertyNodes = []

/-- What a route leads to is a property in the schema of the type that has the last field. The
induction is on the route; each step goes from a schema to the schema of the type that the step
refers to. -/
theorem exists_last_level (hd : index.HasDistinctFields) {steps : List (String × Field)}
    {last : String × Field} (hr : Route index active start steps)
    (hlast : steps.getLast? = some last) (h : (ofType index active start).result = .ok root) :
    ∃ around schema, (ofType index around last.1).result = .ok schema ∧
      root.at? (names steps) = schema.at? [last.2.name] ∧
      ∀ target, Enters index active start steps target ↔
        last.2.refersTo index = some target ∧ target ∉ last.1 :: around := by
  induction steps generalizing active start root with
  | nil => cases hlast
  | cons step rest ih =>
    obtain ⟨rfl, ⟨message, hf, hm⟩, rfl | ⟨next, href, hnext, hne, hr'⟩⟩ := route_cons.1 hr
    · cases hlast
      exact ⟨active, root, h, rfl, fun _ => enters_singleton rfl⟩
    · obtain ⟨_, hf', -, hfields⟩ := levels hd h
      rw [hf] at hf'
      cases hf'
      obtain ⟨node, hl, hs⟩ := hfields step.2 hm
      obtain ⟨inner, hinner, hp⟩ := hs.inside next href hnext
      have hlast' : rest.getLast? = some last := by
        obtain ⟨other, rest, rfl⟩ := List.exists_cons_of_ne_nil hne
        rw [← hlast, List.getLast?_cons_cons]
      obtain ⟨around, schema, hschema, hat, henters⟩ := ih hr' hlast' hinner
      have hnames : names rest ≠ [] := fun he => hne (List.map_eq_nil_iff.1 he)
      refine ⟨around, schema, hschema, ?_, fun target =>
        (enters_cons rfl hne).trans (henters target)⟩
      calc root.at? (names (step :: rest)) = node.at? (names rest) := by
            rw [names, List.map_cons, Node.at?, hl]; rfl
        _ = inner.at? (names rest) := at?_congr hp hnames
        _ = schema.at? [last.2.name] := hat

/-- Every route leads to a node. -/
theorem node_of_route (hd : index.HasDistinctFields) {steps : List (String × Field)}
    (hr : Route index active start steps) (h : (ofType index active start).result = .ok root) :
    ∃ node, root.at? (names steps) = some node ∧ EndsIn index active start steps node := by
  cases hlast : steps.getLast? with
  | none =>
    obtain rfl := List.getLast?_eq_none_iff.1 hlast
    obtain ⟨message, hf, hn, -⟩ := levels hd h
    refine ⟨root, rfl, nofun, ?_, fun hc => absurd rfl (hc start)⟩
    rintro _ rfl
    exact ⟨message, hf, hn⟩
  | some last =>
    obtain ⟨around, schema, hschema, hat, henters⟩ := exists_last_level hd hr hlast h
    obtain ⟨message, hf, hm⟩ := hr.declared last (List.mem_of_getLast? hlast)
    obtain ⟨_, hf', -, hfields⟩ := levels hd hschema
    rw [hf] at hf'
    cases hf'
    obtain ⟨node, hl, hs⟩ := hfields last.2 hm
    refine ⟨node, by rw [hat, Node.at?, hl]; rfl, ?_, fun target he => ?_, fun hc => ?_⟩
    · rw [hlast]
      intro _ hm
      cases hm
      exact hs.type
    · obtain ⟨ht, ha⟩ := (henters target).1 he
      obtain ⟨inner, hinner, hp⟩ := hs.inside target ht ha
      obtain ⟨message, hi, hn, -⟩ := levels hd hinner
      exact ⟨message, hi, by rw [hp, hn]⟩
    · refine hs.outside fun target ht => ?_
      by_contra ha
      exact hc target ((henters target).2 ⟨ht, ha⟩)

/-- Every path to a node is a route. The induction is on the path. -/
theorem route_of_node (hd : index.HasDistinctFields) {path : List String}
    (h : (ofType index active start).result = .ok root) (hp : (root.at? path).isSome) :
    ∃ steps, Route index active start steps ∧ names steps = path := by
  induction path generalizing active start root with
  | nil => exact ⟨[], route_nil, rfl⟩
  | cons name path ih =>
    obtain ⟨message, hf, hn, hfields⟩ := levels hd h
    have hname : ∃ field ∈ message.fields, field.name = name := by
      rw [← List.mem_map, ← hn]
      by_contra hc
      rw [Node.at?, Entries.lookup_eq_none.2 hc] at hp
      cases hp
    obtain ⟨field, hm, rfl⟩ := hname
    obtain ⟨node, hl, hs⟩ := hfields field hm
    rw [Node.at?, hl, Option.bind_some] at hp
    have hdeclared : ∃ message, index.find? start = some message ∧ field ∈ message.fields :=
      ⟨message, hf, hm⟩
    by_cases hpath : path = []
    · subst hpath
      exact ⟨[(start, field)], route_cons.2 ⟨rfl, hdeclared, .inl rfl⟩, rfl⟩
    · by_cases hin : ∃ target, field.refersTo index = some target ∧ target ∉ start :: active
      · obtain ⟨target, ht, ha⟩ := hin
        obtain ⟨schema, hschema, hprops⟩ := hs.inside target ht ha
        rw [at?_congr hprops hpath] at hp
        obtain ⟨steps, hr, hsteps⟩ := ih hschema hp
        have hne : steps ≠ [] := by
          rintro rfl
          exact hpath hsteps.symm
        exact ⟨(start, field) :: steps,
          route_cons.2 ⟨rfl, hdeclared, .inr ⟨target, ht, ha, hne, hr⟩⟩,
          by rw [names, List.map_cons, ← hsteps]; rfl⟩
      · have hnone : node.propertyNodes = [] := by
          refine hs.outside fun target ht => ?_
          by_contra ha
          exact hin ⟨target, ht, ha⟩
        rw [at?_eq_none hnone hpath] at hp
        cases hp

/-- The paths through a schema are exactly the routes through the type graph, and each leads to
what its last field and the type behind it say. -/
theorem unfolding_exact (hd : index.HasDistinctFields)
    (h : (ofType index active start).result = .ok root) :
    (∀ path, (root.at? path).isSome ↔
      ∃ steps, Route index active start steps ∧ names steps = path) ∧
    ∀ steps, Route index active start steps →
      ∃ node, root.at? (names steps) = some node ∧ EndsIn index active start steps node := by
  refine ⟨fun path => ⟨route_of_node hd h, ?_⟩, fun steps hr => node_of_route hd hr h⟩
  intro h
  obtain ⟨steps, hr, rfl⟩ := h
  obtain ⟨node, hn, -⟩ := node_of_route hd hr h
  rw [hn]
  rfl

end

/-- Trees that hold trees directly, in a list and in a map. -/
def treeIndex : TypeIndex :=
  let tree (name typeName : String) (label : Label) : Field :=
    { name, label, typeName, type := .message }
  ⟨[(".Tree", { fields := [{ name := "label", type := .string }, tree "first" ".Tree" .optional,
      tree "others" ".Wood" .repeated, tree "named" ".Tree.NamedEntry" .repeated] }),
    (".Tree.NamedEntry", { mapEntry := true, fields := [
      { name := "key", number := 1, type := .string },
      { tree "value" ".Wood" .optional with number := 2 }] }),
    (".Wood", { fields := [
      { name := "size", type := .int32 }, tree "tallest" ".Tree" .optional] })]⟩

theorem unfolding_exact_tree : ∃ root, (ofType treeIndex [] ".Tree").result = .ok root ∧
    ∀ path, (root.at? path).isSome ↔
      ∃ steps, Route treeIndex [] ".Tree" steps ∧ names steps = path := by
  have hd : treeIndex.HasDistinctFields := by
    have hall : ∀ entry ∈ treeIndex.entries, (entry.2.fields.map (·.name)).Nodup := by decide
    exact fun name message h => hall _ (TypeIndex.mem_entries_of_find h)
  have h : (ofType treeIndex [] ".Tree").result.toOption.isSome := by decide +kernel
  obtain ⟨root, hroot⟩ := Option.isSome_iff_exists.1 h
  rw [toOption_eq_some] at hroot
  exact ⟨root, hroot, (unfolding_exact hd hroot).1⟩

end Schema

end ToolBindings
