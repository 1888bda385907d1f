import RecordSchema.Handle.Basic

/-!
# Variants

What can be done with one variant of a union. Its instances are told apart from those of other
variants even if they have the same fields.
-/

namespace RecordSchema.VariantHandle

/-- The name of the union with that of the variant. -/
def qualifiedName (h : VariantHandle) : String :=
  h.union.name ++ "." ++ h.name

/-- The text of the variant's definition. -/
def signature (h : VariantHandle) : String :=
  h.fields.signature h.qualifiedName

/-- The instance belongs to the variant. -/
def owns (h : VariantHandle) (i : Instance) : Bool :=
  h.union.registry.owns h.union.name i && i.variant == some h.name

/-- The value is an instance of the variant. -/
def is (h : VariantHandle) (value : Value) : Bool :=
  value.instance?.any h.owns

/-- Constructs an instance from candidates for its fields. -/
def constructFrom (h : VariantHandle) (candidate : String → Option Value) :
    Except TypeError Instance :=
  h.union.registry.construct h.union.name (some h.name) candidate

/-- Constructs an instance from arguments in order of declaration. -/
def construct (h : VariantHandle) (arguments : List (Option Value)) :
    Except TypeError Instance := do
  h.constructFrom (← positional h.qualifiedName h.fields arguments)

/-- Reads an instance of the variant from a shape. A variant key in it is of no account. -/
def fromShape (h : VariantHandle) : Value → Except TypeError Instance
  | .object members => h.constructFrom fun field ↦ Entries.get? field members
  | .tagged tag variant fields =>
      if h.owns ⟨tag, variant, fields⟩ then .ok ⟨tag, variant, fields⟩
      else h.constructFrom fun field ↦ Entries.get? field fields
  | other =>
      .error (.validationRejected h.qualifiedName h.signature (.wrongKind [] "Object" other))

/-- The instance with some fields changed, validated anew. -/
def update (h : VariantHandle) (i : Instance) (changes : List (String × Option Value)) :
    Except TypeError Instance := do
  if !h.owns i then .error (i.mismatch h.qualifiedName)
  let merged ← mergeChanges h.qualifiedName h.fields i.fields changes
  h.constructFrom merged.get?

end RecordSchema.VariantHandle
