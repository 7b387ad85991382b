import ToolBindings.Octets
/-!
# Text as octets

UTF-8 in both directions. Reading refuses everything that no text encodes to:
overlong forms, surrogates, values above U+10FFFF and broken sequences.

* `ofUtf8?_utf8`, `ofUtf8?_eq_some`: octets stand for a text exactly if they are its octets.
-/
namespace ToolBindings.Text

/-- The UTF-8 octets of a text. -/
def utf8 (text : String) : Octets := text.toByteArray.data.toList

/-- The text that the octets encode. -/
def ofUtf8? (octets : Octets) : Option String := String.fromUTF8? ⟨octets.toArray⟩

theorem ofUtf8?_utf8 (text : String) : ofUtf8? (utf8 text) = some text := by
  simp [ofUtf8?, utf8, String.fromUTF8?, String.fromUTF8, text.isValidUTF8]

theorem ofUtf8?_eq_some {octets : Octets} {text : String} :
    ofUtf8? octets = some text ↔ octets = utf8 text := by
  constructor
  · intro h
    unfold ofUtf8? String.fromUTF8? at h
    split at h
    · simp only [Option.some.injEq] at h
      subst h
      simp [utf8, String.fromUTF8]
    · cases h
  · rintro rfl
    exact ofUtf8?_utf8 text

end ToolBindings.Text
