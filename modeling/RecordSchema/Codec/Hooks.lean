import RecordSchema.TypeError
import RecordSchema.Value

/-!
# Codec hooks

A type can have its own way of being encoded or decoded. A hook can fall back on the default way;
when it decodes it can also ask for any type to be decoded.
-/

namespace RecordSchema

/-- What a hook that decodes can ask for: the default decoding of a type, which reads its declared
fields, and the decoding that the type has in its registry. -/
structure DecodingServices where
  fields : String → Json → Except TypeError Instance
  shape : String → Json → Except TypeError Instance

/-- Encodes an instance; the second argument is its default encoding. -/
abbrev EncodeHook := Instance → Except TypeError Json → Except TypeError Json

/-- Decodes a shape as an instance of the type that is named. -/
abbrev DecodeHook := DecodingServices → String → Json → Except TypeError Instance

/-- How the instances of a type are encoded and decoded; without a hook, in the default way. -/
structure Codec where
  encode? : Option EncodeHook
  decode? : Option DecodeHook

/-- The default way in both directions. -/
def Codec.standard : Codec :=
  ⟨none, none⟩

end RecordSchema
