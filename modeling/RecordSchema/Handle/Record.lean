import RecordSchema.Handle.Basic

/-!
# Records

What can be done with a record: instances are constructed from arguments or shapes, updated,
rendered, encoded and decoded.
-/

namespace RecordSchema.RecordHandle

/-- The instance belongs to the record. -/
def owns (h : RecordHandle) (i : Instance) : Bool :=
  h.registry.owns h.name i

/-- The instance, if it belongs to the record. -/
def owned (h : RecordHandle) (i : Instance) : Except TypeError Instance :=
  if h.owns i then .ok i else .error (i.mismatch h.name)

/-- The value is an instance of the record. -/
def is (h : RecordHandle) (value : Value) : Bool :=
  value.instance?.any h.owns

/-- Constructs an instance from arguments in order of declaration. -/
def construct (h : RecordHandle) (arguments : List (Option Value)) : Except TypeError Instance := do
  let candidate ← positional h.name h.fields arguments
  h.registry.construct h.name none candidate

/-- Reads an instance from a shape. -/
def fromShape (h : RecordHandle) (shape : Value) : Except TypeError Instance :=
  h.registry.adapt h.definition shape

/-- The instance with some fields changed, validated anew. -/
def update (h : RecordHandle) (i : Instance) (changes : List (String × Option Value)) :
    Except TypeError Instance := do
  let i ← h.owned i
  let merged ← mergeChanges h.name h.fields i.fields changes
  h.registry.construct h.name none merged.get?

/-- The text of an instance of the record. -/
def render (h : RecordHandle) (i : Instance) : Except TypeError String := do
  return h.registry.render (← h.owned i)

/-- Encodes an instance of the record. -/
def encode (h : RecordHandle) (i : Instance) : Except TypeError Json := do
  h.registry.encode (← h.owned i)

/-- Decodes an instance of the record. -/
def decode (h : RecordHandle) (shape : Json) : Except TypeError Instance :=
  h.registry.decode h.name shape

end RecordSchema.RecordHandle
