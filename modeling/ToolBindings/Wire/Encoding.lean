import ToolBindings.Text.Utf8
import ToolBindings.Wire.Varint
/-!
# Writing records

The shortest form of each record.
-/
namespace ToolBindings.Wire

def tag (number form : Nat) : Octets := Varint.encode (8 * number + form)

def uintRecord (number value : Nat) : Octets := tag number 0 ++ Varint.encode value

/-- A record with octets behind their length. -/
def delimitedRecord (number : Nat) (octets : Octets) : Octets :=
  tag number 2 ++ Varint.encode octets.length ++ octets

def textRecord (number : Nat) (text : String) : Octets := delimitedRecord number (Text.utf8 text)

end ToolBindings.Wire
