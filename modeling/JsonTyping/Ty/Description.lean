import JsonTyping.Text.Diagnostic
import JsonTyping.Ty.Basic
import JsonTyping.Value.Text

/-!
# Descriptions of types

The full text of a type for diagnostics: every layer with the names of its parts, down to the
values in it. Annotations are described only where there are any.
-/

namespace JsonTyping

namespace Description

/-- A name with named parts. -/
def ofParts (name : String) (parts : List (String × String)) : String :=
  name ++ " \x7b " ++ ", ".intercalate (parts.map fun part ↦ part.1 ++ ": " ++ part.2) ++ " \x7d"

/-- A list of described things. -/
def ofList (items : List String) : String := "[" ++ ", ".intercalate items ++ "]"

/-- Described things under quoted keys. -/
def ofEntries (entries : List (String × String)) : String :=
  "\x7b" ++ ", ".intercalate (entries.map fun e ↦ diagnostic e.1 ++ ": " ++ e.2) ++ "\x7d"

end Description

namespace Value

mutual

/-- The description of a value. -/
def description : Value → String
  | null => "Null"
  | bool b => if b then "Bool(true)" else "Bool(false)"
  | number n => "Number(" ++ n.text ++ ")"
  | string s => "String(" ++ diagnostic s ++ ")"
  | array xs => "Array " ++ Description.ofList (itemDescriptions xs)
  | object es => "Object " ++ Description.ofEntries (entryDescriptions es)

/-- The descriptions of values. -/
def itemDescriptions : List Value → List String
  | [] => []
  | x :: xs => description x :: itemDescriptions xs

/-- The descriptions of entries, under their keys. -/
def entryDescriptions : List (String × Value) → List (String × String)
  | [] => []
  | (key, value) :: es => (key, description value) :: entryDescriptions es

end

end Value

/-- The description of a primitive kind. -/
def Primitive.description : Primitive → String
  | any => "Any"
  | nil => "Nil"
  | bool => "Bool"
  | integer => "Integer"
  | float => "Float"
  | string => "String"
  | date => "Date"
  | dateTime => "DateTime"
  | time => "Time"
  | array => "Array"
  | hash => "Hash"

/-- The description of a policy for unknown keys. -/
def UnknownKeys.description : UnknownKeys → String
  | ignore => "Ignore"
  | reject => "Reject"
  | preserve => "Preserve"

/-- The description of a declared key over the description of its type. -/
def Field.description (field : Field String) : String :=
  Description.ofParts "SchemaKey"
    [("type_", field.type), ("required", if field.required then "true" else "false")]

/-- The description of a pair of a label and a raw value. -/
def describePair (pair : Value × Value) : String :=
  "(" ++ pair.1.description ++ ", " ++ pair.2.description ++ ")"

/-- The description of a layer over the descriptions of its parts. -/
def Kind.description : Kind String → String
  | nominal p => named "Nominal" "Nominal" [("primitive", p.description)]
  | constrained wrapped rule =>
    named "Constrained" "Constrained" [("wrapped", wrapped), ("rule", Rule.text rule)]
  | coerced wrapped steps =>
    named "Constructor" "Constructor"
      [("wrapped", wrapped), ("steps", Description.ofList (steps.map Transform.text))]
  | defaulted wrapped value =>
    named "Default" "Defaulted" [("wrapped", wrapped), ("value", value.description)]
  | lax wrapped => named "Lax" "Lax" [("wrapped", wrapped)]
  | sum left right => named "Sum" "Sum" [("left", left), ("right", right)]
  | enum wrapped mapping =>
    named "Enum" "Enum"
      [("wrapped", wrapped), ("mapping", Description.ofList (mapping.map describePair))]
  | array member => named "Array" "ArrayOf" [("member", member)]
  | schema fields unknownKeys =>
    named "Schema" "Schema"
      [("keys", Description.ofEntries (fields.map fun field ↦ (field.name, field.description))),
        ("options",
          Description.ofParts "SchemaOptions" [("unknown_keys", unknownKeys.description)])]
  | dictionary key value => named "Map" "MapOf" [("key_type", key), ("value_type", value)]
where
  named (outer inner : String) (parts : List (String × String)) : String :=
    outer ++ "(" ++ Description.ofParts inner parts ++ ")"

/-- The description of a type. -/
def Ty.description (t : Ty) : String := t.fold fun k annotations ↦
  let kind := ("kind", k.description)
  let parts :=
    if annotations.isEmpty then [kind]
    else [kind, ("meta", Description.ofEntries (Value.entryDescriptions annotations))]
  Description.ofParts "Type" parts

end JsonTyping
