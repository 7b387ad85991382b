import Mathlib.Data.List.Dedup
import Mathlib.Data.List.Perm.Subperm
import Mathlib.Logic.Function.Iterate
import ToolBindings.Proofs.Schema.Descent

/-!
# The expansion of a type ends

A schema is built by a recursion that follows the references between message types, in
circles if the types do. It ends all the same, because no type is entered inside itself,
and a schema is not much deeper than there are types.

* `expandWith`: one turn of the recursion, `iterate_expandWith`: as many turns as there are
  types and one more leave nothing open.
* `next_cases`: what a step further inside can be.
* `fresh_expandedTypes`, `length_le_expandedTypes`: on a way down no type is expanded twice,
  and there are not many more nodes than types.
* `expansion_ends`: all together, for every index.
-/
namespace ToolBindings

/-- The number of message types in the index. Of several types of one name only the last can be
found, so they count once. -/
def TypeIndex.typeCount (index : TypeIndex) : Nat := index.names.dedup.length

namespace Schema

/-! ## The recursion -/

/-- The node for the values of a reference, if `inner` gives the schemas of message types. -/
def valueWith (inner : List String → String → Logged Node) (active : List String) :
    TypeRef → Logged Node
  | .object => pure .opaqueObject
  | .scalar type => pure (.scalar type "" "")
  | .message target =>
    if target ∈ active then do
      Logged.report (.referenceTruncated (withoutDots target))
      pure .opaqueObject
    else inner active target

/-- What a field becomes, if `inner` gives the schemas of message types. -/
def partWith (index : TypeIndex) (inner : List String → String → Logged Node)
    (active : List String) (owner : String) (field : Field) : Logged (FieldSpec × Node) := do
  let spec ← Logged.ofExcept (FieldSpec.ofField index owner field)
  let value ← valueWith inner active spec.typeRef
  return (spec, fieldNode spec value)

/-- The schema of a message type, if `inner` gives the schemas of the message types that its fields
refer to. -/
def expandWith (index : TypeIndex) (inner : List String → String → Logged Node)
    (active : List String) (name : String) : Logged Node := do
  let message ← Logged.ofExcept (index.resolve name)
  messageNode <$> message.fields.mapM (partWith index inner (name :: active) (withoutDots name))

/-- The number of message types that are not being expanded. -/
def unexpandedTypes (index : TypeIndex) (active : List String) : Nat :=
  index.names.dedup.countP (· ∉ active)

section
variable {index : TypeIndex} {active : List String} {name : String}
  {inner other : List String → String → Logged Node}

theorem valueNode_eq (ref : TypeRef) :
    valueNode index active ref = valueWith (ofType index) active ref := by
  cases ref <;> rfl

theorem expandFields_eq_mapM (owner : String) (fields : List Field) :
    expandFields index active owner fields =
      fields.mapM (partWith index (ofType index) active owner) := by
  induction fields with
  | nil => rw [expandFields_nil, List.mapM_nil]
  | cons field rest ih =>
    simp only [expandFields_cons, List.mapM_cons, ih, partWith, valueNode_eq, bind_assoc, pure_bind]

/-- A turn of the recursion with schemas gives schemas. -/
theorem expandWith_ofType : expandWith index (ofType index) = ofType index := by
  funext active name
  rw [expandWith, ofType]
  simp only [expandFields_eq_mapM]

theorem valueWith_congr (h : ∀ target ∉ active, inner active target = other active target)
    (ref : TypeRef) : valueWith inner active ref = valueWith other active ref := by
  cases ref with
  | object => rfl
  | scalar type => rfl
  | message target =>
    by_cases ht : target ∈ active
    · rw [valueWith, valueWith, if_pos ht, if_pos ht]
    · rw [valueWith, valueWith, if_neg ht, if_neg ht, h target ht]

/-- A turn of the recursion asks only for message types that are not being expanded, and for none
at all if its own type is not known. -/
theorem expandWith_congr
    (h : name ∈ index.names → ∀ target ∉ name :: active,
      inner (name :: active) target = other (name :: active) target) :
    expandWith index inner active name = expandWith index other active name := by
  unfold expandWith TypeIndex.resolve
  cases hf : index.find? name with
  | none => rfl
  | some message =>
    have hvalue := valueWith_congr (h (TypeIndex.mem_names_of_find hf))
    have hpart : partWith index inner (name :: active) (withoutDots name) =
        partWith index other (name :: active) (withoutDots name) := by
      funext field
      simp only [partWith, hvalue]
    rw [hpart]

theorem unexpandedTypes_cons_lt (hn : name ∈ index.names) (ha : name ∉ active) :
    unexpandedTypes index (name :: active) < unexpandedTypes index active :=
  countP_lt_countP (fun x hx => by simp_all) (List.mem_dedup.2 hn) (by simpa) (by simp)

theorem unexpandedTypes_cons_lt_typeCount (active : List String) (hn : name ∈ index.names) :
    unexpandedTypes index (name :: active) < index.typeCount := by
  have hall : index.names.dedup.countP (fun _ => true) = index.typeCount :=
    congrFun List.countP_true _
  rw [← hall]
  exact countP_lt_countP (fun _ _ => rfl) (List.mem_dedup.2 hn) rfl (by simp)

/-- Turns enough give the schema, whatever is at their end. The induction is on the turns; each
known type that is entered leaves one type less to enter. -/
theorem iterate_expandWith {turns : Nat} (hpos : 0 < turns)
    (h : name ∈ index.names → unexpandedTypes index (name :: active) + 1 < turns) :
    (expandWith index)^[turns] inner active name = ofType index active name := by
  induction turns generalizing active name with
  | zero => cases hpos
  | succ turns ih =>
    rw [Function.iterate_succ_apply', ← expandWith_ofType]
    refine expandWith_congr fun hn target ht => ?_
    have hlt := h hn
    refine ih (by omega) fun htarget => ?_
    have := unexpandedTypes_cons_lt htarget ht
    omega

end

/-! ## Types on a way down -/

namespace Inside

/-- The message type that is expanded, if there is one. -/
def type? : Inside → Option String
  | fields _ type => some type
  | items _ _ | closed _ => none

/-- The types that are being expanded further inside. -/
def active : Inside → List String
  | fields active type => type :: active
  | items active _ => active
  | closed _ => []

/-- How many nodes can follow before another message type is expanded. -/
def slack : Inside → Nat
  | fields _ _ => 2
  | items _ _ => 1
  | closed _ => 0

end Inside

/-- The message types that are expanded on a way down. -/
def expandedTypes (insides : List Inside) : List String := insides.filterMap Inside.type?

/-- The insides of the nodes on a way down the schema of a message type. -/
structure Tracks (index : TypeIndex) (active : List String) (name : String) (nodes : List Node)
    (insides : List Inside) : Prop where
  starts : insides.head? = some (.fields active name)
  linked : insides.IsChain (Inside.Next index)
  shown : List.Forall₂ (fun node inside => inside.IsOf index node) nodes insides

section
variable {index : TypeIndex} {active : List String} {name type : String} {ref : TypeRef}
  {node root : Node} {nodes : List Node} {inside next : Inside} {rest insides : List Inside}

theorem expandedTypes_fields :
    expandedTypes (.fields active type :: rest) = type :: expandedTypes rest := rfl

theorem expandedTypes_items : expandedTypes (.items active ref :: rest) = expandedTypes rest := rfl

/-- A step further inside expands a type that is not being expanded, or comes to the items of a
list, or to an end. -/
theorem next_cases (h : Inside.Next index inside next) :
    0 < inside.slack ∧
      ((∃ type, next = .fields inside.active type ∧ type ∉ inside.active) ∨
        (∃ ref, next = .items inside.active ref ∧ 1 < inside.slack) ∨
        ∃ ref, next = .closed ref) := by
  have href : ∀ active ref,
      (∃ type, Inside.ofRef active ref = .fields active type ∧ type ∉ active) ∨
        ∃ ref', Inside.ofRef active ref = .closed ref' := by
    intro active ref
    cases ref with
    | object => exact .inr ⟨_, rfl⟩
    | scalar type => exact .inr ⟨_, rfl⟩
    | message target =>
      by_cases ht : target ∈ active
      · exact .inr ⟨_, if_pos ht⟩
      · exact .inl ⟨target, if_neg ht, ht⟩
  cases h with
  | @field active type _ _ spec _ _ _ =>
    refine ⟨Nat.zero_lt_two, ?_⟩
    unfold Inside.ofSpec
    split
    · exact .inr (.inl ⟨_, rfl, Nat.one_lt_two⟩)
    · exact .inr (.inr ⟨_, rfl⟩)
    · exact (href _ _).imp_right .inr
  | items => exact ⟨Nat.one_pos, (href _ _).imp_right .inr⟩

theorem eq_nil_of_closed (h : (Inside.closed ref :: rest).IsChain (Inside.Next index)) :
    rest = [] := by
  cases rest with
  | nil => rfl
  | cons next rest =>
    obtain ⟨hpos, -⟩ := next_cases (List.isChain_cons_cons.1 h).1
    exact absurd hpos (Nat.lt_irrefl 0)

/-- On a way down no type is expanded twice, nor one that was being expanded before. The induction
is on the way; each step leads to types that are not being expanded there. -/
theorem fresh_expandedTypes (h : (inside :: rest).IsChain (Inside.Next index)) :
    (expandedTypes rest).Nodup ∧ ∀ type ∈ expandedTypes rest, type ∉ inside.active := by
  induction rest generalizing inside with
  | nil => exact ⟨.nil, nofun⟩
  | cons next rest ih =>
    obtain ⟨hstep, htail⟩ := List.isChain_cons_cons.1 h
    obtain ⟨hnodup, hfresh⟩ := ih htail
    obtain ⟨-, ⟨type, rfl, ht⟩ | ⟨ref, rfl, -⟩ | ⟨ref, rfl⟩⟩ := next_cases hstep
    · rw [expandedTypes_fields]
      refine ⟨List.nodup_cons.2 ⟨fun hm => hfresh type hm List.mem_cons_self, hnodup⟩, ?_⟩
      intro other hm
      rcases List.mem_cons.1 hm with rfl | hm
      · exact ht
      · exact fun ha => hfresh other hm (List.mem_cons_of_mem _ ha)
    · rw [expandedTypes_items]
      exact ⟨hnodup, hfresh⟩
    · obtain rfl := eq_nil_of_closed htail
      exact ⟨.nil, nofun⟩

/-- A way down is not longer than the types on it account for. -/
theorem length_le_expandedTypes (h : (inside :: rest).IsChain (Inside.Next index)) :
    rest.length ≤ 2 * (expandedTypes rest).length + inside.slack := by
  induction rest generalizing inside with
  | nil => exact Nat.zero_le _
  | cons next rest ih =>
    obtain ⟨hstep, htail⟩ := List.isChain_cons_cons.1 h
    obtain ⟨hpos, ⟨type, rfl, -⟩ | ⟨ref, rfl, hlist⟩ | ⟨ref, rfl⟩⟩ := next_cases hstep
    · have hlen : rest.length ≤ 2 * (expandedTypes rest).length + 2 := ih htail
      rw [List.length_cons, expandedTypes_fields, List.length_cons]
      omega
    · have hlen : rest.length ≤ 2 * (expandedTypes rest).length + 1 := ih htail
      rw [List.length_cons, expandedTypes_items]
      omega
    · obtain rfl := eq_nil_of_closed htail
      exact Nat.le_add_left_of_le hpos

theorem exists_insides (h : inside.IsOf index node) (hc : (node :: nodes).IsChain Node.Holds) :
    ∃ rest, (inside :: rest).IsChain (Inside.Next index) ∧
      List.Forall₂ (fun node inside => inside.IsOf index node) (node :: nodes)
        (inside :: rest) := by
  induction nodes generalizing node inside with
  | nil => exact ⟨[], .singleton _, .cons h .nil⟩
  | cons child nodes ih =>
    obtain ⟨hstep, htail⟩ := List.isChain_cons_cons.1 hc
    obtain ⟨next, hnext, hchild⟩ := next_of_holds h hstep
    obtain ⟨rest, hlinked, hshown⟩ := ih hchild htail
    exact ⟨next :: rest, List.isChain_cons_cons.2 ⟨hnext, hlinked⟩, .cons h hshown⟩

theorem mem_names_of_isOf (h : inside.IsOf index node) (ht : inside.type? = some type) :
    type ∈ index.names := by
  cases inside with
  | fields active name =>
    cases ht
    obtain ⟨message, _, hm, -, -⟩ := ofType_eq_ok.1 h
    exact TypeIndex.mem_names_of_find hm
  | items active ref => cases ht
  | closed ref => cases ht

theorem expandedTypes_of_tracks (h : Tracks index active name nodes insides) :
    (expandedTypes insides).Nodup ∧ expandedTypes insides ⊆ index.names := by
  obtain ⟨rest, rfl⟩ := List.head?_eq_some_iff.1 h.starts
  obtain ⟨hnodup, hfresh⟩ := fresh_expandedTypes h.linked
  refine ⟨List.nodup_cons.2 ⟨fun hm => hfresh name hm List.mem_cons_self, hnodup⟩, ?_⟩
  intro type ht
  obtain ⟨inside, hm, htype⟩ := List.mem_filterMap.1 ht
  obtain ⟨node, -, hnode⟩ := exists_of_forall₂ h.shown.flip hm
  exact mem_names_of_isOf hnode htype

theorem length_le_of_tracks (h : Tracks index active name nodes insides) :
    nodes.length ≤ 2 * index.typeCount + 1 := by
  obtain ⟨hnodup, hnames⟩ := expandedTypes_of_tracks h
  have htypes : (expandedTypes insides).length ≤ index.typeCount :=
    (hnodup.subperm fun _ ht => List.mem_dedup.2 (hnames ht)).length_le
  obtain ⟨rest, rfl⟩ := List.head?_eq_some_iff.1 h.starts
  have hlen : rest.length ≤ 2 * (expandedTypes rest).length + 2 :=
    length_le_expandedTypes h.linked
  rw [expandedTypes_fields, List.length_cons] at htypes
  rw [h.shown.length_eq, List.length_cons]
  omega

end

/-- The recursion that builds a schema ends after as many turns as there are types and one more:
whatever `inner` stands for at its end is not asked for anything. On each way down a schema every
type is expanded at most once. -/
theorem expansion_ends (index : TypeIndex) (active : List String) (name : String) :
    (∀ inner, ∀ turns > index.typeCount,
      (expandWith index)^[turns] inner active name = ofType index active name) ∧
    ∀ root, (ofType index active name).result = .ok root →
      ∀ nodes, (root :: nodes).IsChain Node.Holds →
        (∃ insides, Tracks index active name (root :: nodes) insides) ∧
        (∀ insides, Tracks index active name (root :: nodes) insides →
          (expandedTypes insides).Nodup ∧ expandedTypes insides ⊆ index.names) ∧
        (root :: nodes).length ≤ 2 * index.typeCount + 1 := by
  refine ⟨fun inner turns ht => ?_, fun root h nodes hc => ?_⟩
  · refine iterate_expandWith (Nat.zero_lt_of_lt ht) fun hn => ?_
    have := unexpandedTypes_cons_lt_typeCount active hn
    omega
  · obtain ⟨rest, hlinked, hshown⟩ := exists_insides (isOf_fields h) hc
    have htracks : Tracks index active name (root :: nodes) (.fields active name :: rest) :=
      ⟨rfl, hlinked, hshown⟩
    exact ⟨⟨_, htracks⟩, fun _ ht => expandedTypes_of_tracks ht, length_le_of_tracks htracks⟩

/-- Shelves of boxes that hold shelves. -/
def shelfIndex : TypeIndex :=
  let list (name : String) (type : FieldType) (typeName : String) : Field :=
    { name, type, typeName, label := .repeated }
  ⟨[(".Shelf", { fields := [list "boxes" .message ".Box"] }),
    (".Box", { fields := [list "marks" .string "", list "shelves" .message ".Shelf"] })]⟩

theorem expansion_ends_shelf : ∃ root, (ofType shelfIndex [".Shelf"] ".Shelf").result = .ok root ∧
    ∀ nodes, (root :: nodes).IsChain Node.Holds → (root :: nodes).length ≤ 5 := by
  have h : (ofType shelfIndex [".Shelf"] ".Shelf").result.toOption.isSome := by decide +kernel
  obtain ⟨root, hroot⟩ := exists_eq_ok_of_isSome h
  have hcount : shelfIndex.typeCount = 2 := by decide
  have hends := (expansion_ends shelfIndex [".Shelf"] ".Shelf").2 root hroot
  rw [hcount] at hends
  exact ⟨root, hroot, fun nodes hc => (hends nodes hc).2.2⟩

end Schema

end ToolBindings
