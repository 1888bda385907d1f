import RecordSchema.Handle.Variant

/-!
# Unions

What can be done with a closed union. A match needs a handler for every variant of the union before
it looks at the value.
-/

namespace RecordSchema.UnionHandle

/-- The names of the variants, in order of declaration. -/
def variantNames (h : UnionHandle) : List String :=
  h.variants.names

/-- The instance belongs to the union. -/
def owns (h : UnionHandle) (i : Instance) : Bool :=
  h.registry.owns h.name i

/-- The value is an instance of the union. -/
def is (h : UnionHandle) (value : Value) : Bool :=
  value.instance?.any h.owns

/-- The instance that the value is, if it belongs to the union. -/
def owned (h : UnionHandle) (value : Value) : Except TypeError Instance :=
  match value.instance? with
  | some i => if h.owns i then .ok i else .error (i.mismatch h.name)
  | none => .error (.typeMismatch h.name "a plain value")

/-- Reads an instance from a shape that names its variant. -/
def fromShape (h : UnionHandle) (shape : Value) : Except TypeError Instance :=
  h.registry.adapt h.definition shape

/-- Hands an instance to the handler of its variant. Every variant has to have a handler, whatever
the value is. -/
def matchOn {α : Type} (h : UnionHandle) (value : Value) (handlers : Entries (Instance → α)) :
    Except TypeError α := do
  match h.variantNames.find? (!handlers.has ·) with
  | some variant => .error (.exhaustivenessViolation h.name variant)
  | none =>
      let i ← h.owned value
      let variant := i.variant.getD ""
      match handlers.get? variant with
      | some handler => return handler i
      | none => .error (.unknownVariant h.name variant)

/-- The instance with some fields changed, validated anew as the variant that it is. -/
def update (h : UnionHandle) (i : Instance) (changes : List (String × Option Value)) :
    Except TypeError Instance := do
  let i ← h.owned (.ofInstance i)
  let variant ← h.variant (i.variant.getD "")
  variant.update i changes

/-- The text of an instance of the union. -/
def render (h : UnionHandle) (i : Instance) : Except TypeError String := do
  return h.registry.render (← h.owned (.ofInstance i))

/-- Encodes an instance of the union. -/
def encode (h : UnionHandle) (i : Instance) : Except TypeError Json := do
  h.registry.encode (← h.owned (.ofInstance i))

/-- Decodes an instance of the union. -/
def decode (h : UnionHandle) (shape : Json) : Except TypeError Instance :=
  h.registry.decode h.name shape

end RecordSchema.UnionHandle
