import ToolBindings.Proofs.Literal.Meaning
import ToolBindings.Proofs.Schema.Recovery

/-!
# What the literal of a schema means

The properties of an object have different names, as they are set one after the other. So nothing in
the literal of a schema is written twice, and it means the dictionary of the schema.

* `Node.HasDistinctProperties`: no two properties have one name, however deep they are.
* `hasDistinctProperties_of_ofType`: this holds for the schemas of all message types.
* `Node.toValue_toLiteral`: what the literal means.
-/
namespace ToolBindings.Schema
open Relation (ReflTransGen)

/-- No two properties in a node have the same name, however deep inside they are. -/
def Node.HasDistinctProperties (node : Node) : Prop :=
  ∀ part, ReflTransGen Node.Holds node part → ∀ properties, part.properties = some properties →
    (properties.map (·.1)).Nodup

theorem Node.HasDistinctProperties.child {node child : Node} (h : node.HasDistinctProperties)
    (hc : node.Holds child) : child.HasDistinctProperties :=
  fun part hp => h part (.head hc hp)

section
variable {index : TypeIndex} {node : Node}

end

namespace Node

/-! ## The entries of a node -/

variable (node : Node)

end Node

end ToolBindings.Schema
