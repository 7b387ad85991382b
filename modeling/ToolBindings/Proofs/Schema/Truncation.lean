import ToolBindings.Proofs.Journal.Events
import ToolBindings.Proofs.Schema.Unfolding

/-!
# Where a schema is cut

The expansion of a type reports every reference to a message type that is being expanded already.
The finished schema shows where these are: they are properties whose fields refer back to a type on
the way to them.

* `Node.paths`: the paths of a schema, each property before what is inside it.
* `reentered?`: the type that the field at the end of a path enters again.
* `reentered?_eq_some`: it is one of those on the route to the field.
* `events_ofType`: what is reported for a schema is read off its paths, in their order.
-/
namespace ToolBindings.Schema

/-! ## Paths -/

namespace Node

mutual

/-- The paths to the properties of a node and to those inside them, each property before what is
inside it. -/
def paths : Node → List (List String)
  | ⟨_, _, _, _, some items, _⟩ => items.ownPaths
  | ⟨_, _, _, properties, none, _⟩ => optionPaths properties

/-- The same without a look at items. -/
def ownPaths : Node → List (List String)
  | ⟨_, _, _, properties, _, _⟩ => optionPaths properties

def optionPaths : Option (List (String × Node)) → List (List String)
  | none => []
  | some properties => listPaths properties

def listPaths : List (String × Node) → List (List String)
  | [] => []
  | (name, node) :: rest => [name] :: (node.paths.map (name :: ·) ++ listPaths rest)

end

def pathsThrough (property : String × Node) : List (List String) :=
  [property.1] :: property.2.paths.map (property.1 :: ·)

theorem listPaths_eq (properties : List (String × Node)) :
    listPaths properties = properties.flatMap pathsThrough := by
  induction properties with
  | nil => rw [listPaths, List.flatMap_nil]
  | cons property rest ih =>
    obtain ⟨name, node⟩ := property
    rw [listPaths, ih, List.flatMap_cons, pathsThrough, List.cons_append]

theorem optionPaths_eq (properties : Option (List (String × Node))) :
    optionPaths properties = (properties.getD []).flatMap pathsThrough := by
  cases properties with
  | none => rw [optionPaths, Option.getD_none, List.flatMap_nil]
  | some properties => rw [optionPaths, Option.getD_some, listPaths_eq]

theorem paths_eq (node : Node) : node.paths = node.propertyNodes.flatMap pathsThrough := by
  obtain ⟨_, _, _, properties, - | ⟨_, _, _, inner, _, _⟩, _⟩ := node
  · rw [paths, optionPaths_eq]
    rfl
  · rw [paths, ownPaths, optionPaths_eq]
    rfl

/-- A property without properties of its own has one path. -/
theorem pathsThrough_of_closed {name : String} {node : Node} (h : node.propertyNodes = []) :
    pathsThrough (name, node) = [[name]] := by
  rw [pathsThrough, paths_eq, h]
  rfl

end Node

/-! ## References back -/

def fieldNamed? (index : TypeIndex) (type name : String) : Option Field :=
  (index.find? type).bind fun message => message.fields.find? (·.name == name)

/-- The message type that the field at the end of a path enters again. The path begins at a type
while those in `active` are being expanded, and every field before the last leads into a type that
is not. -/
def reentered? (index : TypeIndex) (active : List String) (start : String) :
    List String → Option String
  | [] => none
  | name :: path =>
    ((fieldNamed? index start name).bind (·.refersTo index)).bind fun target =>
      if target ∈ start :: active then if path = [] then some target else none
      else reentered? index (start :: active) target path

def truncations (index : TypeIndex) (active : List String) (start : String) (root : Node) :
    List Event :=
  (root.paths.filterMap (reentered? index active start)).map
    fun target => .referenceTruncated (withoutDots target)

section
variable {index : TypeIndex} {active : List String} {start : String} {root : Node}

theorem fieldNamed?_of_mem (hd : index.HasDistinctFields) {message : Message} {field : Field}
    (hm : index.find? start = some message) (hf : field ∈ message.fields) :
    fieldNamed? index start field.name = some field := by
  have hnames := hd start message hm
  rw [fieldNamed?, hm, Option.bind_some]
  generalize message.fields = fields at hf hnames
  induction fields with
  | nil => cases hf
  | cons first rest ih =>
    rw [List.map_cons, List.nodup_cons] at hnames
    obtain rfl | hf := List.mem_cons.1 hf
    · exact List.find?_cons_of_pos (beq_self_eq_true field.name)
    · have hne : first.name ≠ field.name := fun he => hnames.1 (he ▸ List.mem_map_of_mem hf)
      rw [List.find?_cons_of_neg (by simpa using hne), ih hf hnames.2]

theorem reentered?_cons {name : String} {field : Field}
    (hf : fieldNamed? index start name = some field) (path : List String) :
    reentered? index active start (name :: path) = (field.refersTo index).bind fun target =>
      if target ∈ start :: active then if path = [] then some target else none
      else reentered? index (start :: active) target path := by
  rw [reentered?, hf, Option.bind_some]

/-- The type that is entered again is one of those on the route to the field, or is being expanded
from the beginning. -/
theorem reentered?_eq_some (hd : index.HasDistinctFields) {steps : List (String × Field)}
    (hr : Route index active start steps) (target : String) :
    reentered? index active start (names steps) = some target ↔
      ∃ last, steps.getLast? = some last ∧ last.2.refersTo index = some target ∧
        (target ∈ steps.map (·.1) ∨ target ∈ active) := by
  induction steps generalizing active start with
  | nil =>
    constructor
    · rintro ⟨⟩
    · rintro ⟨_, ⟨⟩, _⟩
  | cons step rest ih =>
    obtain ⟨rfl, ⟨message, hm, hf⟩, rfl | ⟨next, href, hnext, hne, hr'⟩⟩ := route_cons.1 hr
    · rw [names, List.map_singleton, reentered?_cons (fieldNamed?_of_mem hd hm hf)]
      simp only [reentered?, if_true, Option.bind_eq_some_iff, Option.ite_none_right_eq_some,
        Option.some.injEq, exists_eq_right_right, List.getLast?_singleton, exists_eq_left',
        List.map_singleton, List.mem_singleton]
      rw [List.mem_cons]
    · rw [names, List.map_cons, reentered?_cons (fieldNamed?_of_mem hd hm hf), href,
        Option.bind_some, if_neg hnext]
      obtain ⟨other, rest, rfl⟩ := List.exists_cons_of_ne_nil hne
      refine (ih hr').trans ?_
      rw [List.getLast?_cons_cons]
      refine exists_congr fun last => and_congr_right fun _ => and_congr_right fun _ => ?_
      rw [List.map_cons (a := step), List.mem_cons, List.mem_cons (b := step.1), or_assoc,
        or_left_comm]

/-! ## Reports -/

/-- Each field reports what its values do. -/
theorem events_expandFields {owner : String} {fields : List Field}
    {parts : List (FieldSpec × Node)}
    (h : List.Forall₂ (Expands index active owner) fields parts) :
    (expandFields index active owner fields).events =
      parts.flatMap fun part => (valueNode index active part.1.typeRef).events := by
  induction h with
  | nil => rw [expandFields_nil]; rfl
  | @cons field part fields parts hpart hparts ih =>
    obtain ⟨hs, value, hv, -⟩ := hpart
    rw [expandFields_cons, Logged.events_bind_of_ok hs,
      Logged.events_bind_of_ok (valueNode_eq_ok.2 hv),
      Logged.events_bind_of_ok (expandFields_eq_ok.2 hparts), ih, List.flatMap_cons]
    simp only [Logged.events_ofExcept, Logged.events_pure, List.nil_append, List.append_nil]

/-- What is reported for a field are the references back on the paths through its property. -/
theorem events_valueNode (hd : index.HasDistinctFields) {owner : String} {message : Message}
    {field : Field} {part : FieldSpec × Node} (hm : index.find? start = some message)
    (hf : field ∈ message.fields) (he : Expands index (start :: active) owner field part)
    (ih : ∀ target schema, target ∉ start :: active →
      (ofType index (start :: active) target).result = .ok schema →
      (ofType index (start :: active) target).events =
        truncations index (start :: active) target schema) :
    (valueNode index (start :: active) part.1.typeRef).events =
      ((Node.pathsThrough (part.1.name, part.2)).filterMap (reentered? index active start)).map
        fun target => .referenceTruncated (withoutDots target) := by
  have hname := name_of_ofField he.1
  have href := typeRef_eq_message he.1
  have hfield := fieldNamed?_of_mem hd hm hf
  have hshows := shows_of_expands he
  rw [← hname] at hfield
  cases ht : field.refersTo index with
  | none =>
    have hclosed := hshows.outside fun target hr => by cases ht.symm.trans hr
    have hvalue : (valueNode index (start :: active) part.1.typeRef).events = [] := by
      cases hr : part.1.typeRef with
      | object => rfl
      | scalar type => rfl
      | message target => cases ht.symm.trans ((href target).1 hr)
    have hnone : reentered? index active start [part.1.name] = none := by
      rw [reentered?_cons hfield, ht, Option.bind_none]
    rw [hvalue, Node.pathsThrough_of_closed hclosed, List.filterMap_cons_none hnone,
      List.filterMap_nil, List.map_nil]
  | some target =>
    rw [(href target).2 ht, valueNode]
    by_cases ha : target ∈ start :: active
    · have hclosed := hshows.outside fun other hr => by
        cases ht.symm.trans hr
        exact ha
      have hback : reentered? index active start [part.1.name] = some target := by
        rw [reentered?_cons hfield, ht, Option.bind_some, if_pos ha, if_pos rfl]
      rw [if_pos ha, Node.pathsThrough_of_closed hclosed, List.filterMap_cons_some hback]
      rfl
    · obtain ⟨schema, hschema, hinner⟩ := hshows.inside target ht ha
      have hon : ∀ path, reentered? index active start (part.1.name :: path) =
          reentered? index (start :: active) target path := by
        intro path
        rw [reentered?_cons hfield, ht, Option.bind_some, if_neg ha]
      have hpaths : part.2.paths = schema.paths := by
        rw [Node.paths_eq, Node.paths_eq, hinner]
      rw [if_neg ha, ih target schema ha hschema, Node.pathsThrough,
        List.filterMap_cons_none (hon []), List.filterMap_map, hpaths, truncations]
      congr 2
      funext path
      exact (hon path).symm

/-- What is reported for a schema are its references back, in the order of its paths. The induction
is on the number of types that can still be entered. -/
theorem events_ofType (hd : index.HasDistinctFields)
    (h : (ofType index active start).result = .ok root) :
    (ofType index active start).events = truncations index active start root := by
  induction hn : unexpanded index (start :: active) using Nat.strongRecOn generalizing active start
    root with
  | _ n ih =>
    subst hn
    obtain ⟨message, parts, hm, hparts, rfl⟩ := ofType_eq_ok.1 h
    have hroot : (messageNode parts).propertyNodes = parts.map fun part => (part.1.name, part.2) :=
      congrArg (·.getD []) (properties_messageNode hparts (hd start message hm))
    have hevents : (ofType index active start).events =
        (expandFields index (start :: active) (withoutDots start) message.fields).events := by
      unfold ofType
      rw [Logged.events_bind_of_ok (resolve_eq_ok.2 hm), Logged.events_map]
      rfl
    rw [hevents, events_expandFields hparts, truncations, Node.paths_eq, hroot, List.flatMap_map,
      List.filterMap_flatMap, List.map_flatMap]
    refine List.flatMap_congr fun part hpart => ?_
    obtain ⟨field, hfield, hexpands⟩ := exists_of_forall₂ hparts.flip hpart
    refine events_valueNode hd hm hfield hexpands fun target schema ha hschema => ?_
    obtain ⟨inner, _, hinner, -⟩ := ofType_eq_ok.1 hschema
    exact ih _ (unexpanded_cons_lt (TypeIndex.mem_names_of_find hinner) ha) hschema rfl

/-! ## Failures -/

theorem quiet_ofType_of_fields
    (h : ∀ message, index.find? start = some message →
      (expandFields index (start :: active) (withoutDots start) message.fields).Quiet) :
    (ofType index active start).Quiet := by
  unfold ofType
  exact Logged.quiet_bind (Logged.quiet_ofExcept _) fun message hm =>
    Logged.quiet_map (h message (resolve_eq_ok.1 hm))

/-- The outer induction is on the number of types that can still be entered, the inner one on the
fields. -/
theorem quiet_expandFields (owner : String) (fields : List Field) :
    (expandFields index active owner fields).Quiet := by
  induction hn : unexpanded index active using Nat.strongRecOn generalizing active owner fields with
  | _ n ih =>
    subst hn
    induction fields with
    | nil => rw [expandFields_nil]; exact Logged.quiet_pure []
    | cons field rest ihrest =>
      rw [expandFields_cons]
      refine Logged.quiet_bind (Logged.quiet_ofExcept _) fun spec _ => ?_
      refine Logged.quiet_bind ?_ fun _ _ => Logged.quiet_bind ihrest fun _ _ =>
        Logged.quiet_pure _
      cases spec.typeRef with
      | object => exact Logged.quiet_pure _
      | scalar type => exact Logged.quiet_pure _
      | message target =>
        unfold valueNode
        simp only
        split
        · exact Logged.quiet_bind (Logged.quiet_report nofun) fun _ _ => Logged.quiet_pure _
        next ha =>
        refine quiet_ofType_of_fields fun message hm => ?_
        exact ih _ (unexpanded_cons_lt (TypeIndex.mem_names_of_find hm) ha) _ _ rfl

/-- No schema reports an error, whether it is finished or not. -/
theorem quiet_ofType : (ofType index active start).Quiet :=
  quiet_ofType_of_fields fun _ _ => quiet_expandFields _ _

end

end ToolBindings.Schema
