import RecordSchema.Json.Basic

/-!
# Configuration

How instances are laid out as text and how they are encoded. `EngineConfig.ofJson?` reads a
configuration: missing members have their defaults, unknown ones are passed over, and a list gives
the members in their order. Such a list is no longer than there are members, except where
`mayExceed` is set.
-/

namespace RecordSchema

/-- How instances are laid out. -/
structure LayoutConfig where
  /-- Longer lines are broken. -/
  maxWidth : Nat
  /-- The blanks of one level of broken lines. -/
  indent : Nat
deriving DecidableEq

namespace LayoutConfig

/-- Lines of eighty characters, levels of four blanks. -/
def standard : LayoutConfig :=
  ⟨80, 4⟩

end LayoutConfig

/-- How instances are encoded. -/
structure CodecConfig where
  /-- The member that holds the variant of a union's instance. -/
  variantKey : String
  /-- An optional field whose member is null is absent. -/
  nullAsAbsent : Bool
  /-- Hooks that decode may call each other this deep: there is no more room for calls. It is given
  by what runs the hooks, and nothing that is read as a configuration says anything about it. -/
  hookNesting : Nat
deriving DecidableEq

namespace CodecConfig

/-- Variants under `@tag`; null stands for absence. -/
def standard : CodecConfig :=
  ⟨"@tag", true, 1000⟩

end CodecConfig

/-- The configuration of a registry. -/
structure EngineConfig where
  layout : LayoutConfig
  codec : CodecConfig
deriving DecidableEq

namespace EngineConfig

/-- The configuration where nothing is said. -/
def standard : EngineConfig :=
  ⟨.standard, .standard⟩

/-- The values of these members of a configuration, given by name or in order; `none` for anything
but an object or a list, and for a list that is too long. -/
def members? (mayExceed : Bool) (names : List String) : Json → Option (List (Option Json))
  | .object members => some (names.map fun name ↦ Entries.get? name members)
  | .array items =>
      if mayExceed || items.length ≤ names.length then
        some ((items.take names.length).map some
          ++ List.replicate (names.length - items.length) none)
      else none
  | _ => none

/-- A member that is missing has its default; one that is there has to be readable. -/
def orDefault {α : Type} (standard : α) (read : Json → Option α) : Option Json → Option α
  | none => some standard
  | some value => read value

/-- A size is a whole number that is not negative. -/
def size? : Json → Option Nat
  | .number (.integer n) => if 0 ≤ n then some n.toNat else none
  | _ => none

/-- The truth value of a Boolean. -/
def bool? : Json → Option Bool
  | .bool b => some b
  | _ => none

/-- Reads the layout. -/
def layout? (mayExceed : Bool) (value : Json) : Option LayoutConfig :=
  match members? mayExceed ["max_width", "indent"] value with
  | some [maxWidth, indent] => do
      let maxWidth ← orDefault LayoutConfig.standard.maxWidth size? maxWidth
      let indent ← orDefault LayoutConfig.standard.indent size? indent
      return ⟨maxWidth, indent⟩
  | _ => none

/-- Reads how instances are encoded. -/
def codec? (mayExceed : Bool) (value : Json) : Option CodecConfig :=
  match members? mayExceed ["variant_key", "null_as_absent"] value with
  | some [variantKey, nullAsAbsent] => do
      let variantKey ← orDefault CodecConfig.standard.variantKey Json.string? variantKey
      let nullAsAbsent ← orDefault CodecConfig.standard.nullAsAbsent bool? nullAsAbsent
      return { CodecConfig.standard with variantKey, nullAsAbsent }
  | _ => none

/-- Reads a configuration. -/
def ofJson? (value : Json) : Option EngineConfig :=
  match members? false ["format", "codec"] value with
  | some [layout, codec] => do
      let layout ← orDefault LayoutConfig.standard (layout? false) layout
      let codec ← orDefault CodecConfig.standard (codec? false) codec
      return ⟨layout, codec⟩
  | _ => none

/-- The configuration as JSON. -/
def toJson (config : EngineConfig) : Json :=
  .object
    [("format", .object
      [("max_width", .number (.integer config.layout.maxWidth)),
        ("indent", .number (.integer config.layout.indent))]),
     ("codec", .object
      [("variant_key", .string config.codec.variantKey),
        ("null_as_absent", .bool config.codec.nullAsAbsent)])]

end EngineConfig

end RecordSchema
