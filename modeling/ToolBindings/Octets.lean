/-!
# Octets

Everything that is read or written as binary data is a list of octets.
-/
namespace ToolBindings

/-- A sequence of octets. -/
abbrev Octets := List UInt8

end ToolBindings
