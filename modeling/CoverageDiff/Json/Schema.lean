import CoverageDiff.Json.Basic

/-!
# CoverageDiff.Json.Schema

Forms of documents.

1. `Schema.accepts` says which documents have a form.
2. `Schema.document` writes a form as a JSON schema.  A form with a name is
   written once among the definitions and referred to by name.
3. A record has no fields but the listed ones.
-/

namespace CoverageDiff

/-- The form of a document. -/
inductive Schema where
  /-- A text, one of `allowed` if given. -/
  | text (allowed : Option (List String))
  /-- A whole number, at least `minimum` if given. -/
  | integer (minimum : Option Int)
  /-- A truth value. -/
  | boolean
  /-- A list of documents of one form. -/
  | list (items : Schema)
  /-- A list of exactly `size` documents of one form. -/
  | tuple (items : Schema) (size : Nat)
  /-- A record with the listed fields; `true` marks a field that must be there. -/
  | record (fields : List (String × Bool × Schema))
  /-- Exactly one of several forms. -/
  | oneOf (options : List Schema)
  /-- A form referred to by name. -/
  | named (name : String) (form : Schema)

namespace Schema

/-! ## Which documents have a form -/

mutual

/-- Whether a document has a form. -/
def accepts : Schema → Json → Bool
  | text none, .str _ => true
  | text (some allowed), .str s => allowed.contains s
  | integer none, .int _ => true
  | integer (some minimum), .int n => decide (minimum ≤ n)
  | boolean, .bool _ => true
  | list items, .arr xs => xs.all (accepts items)
  | tuple items size, .arr xs => xs.length == size && xs.all (accepts items)
  | record fields, .obj given =>
    given.all (fun g => fields.any fun f => f.1 == g.1) && acceptsFields fields given
  | oneOf options, doc => acceptCount options doc == 1
  | named _ form, doc => accepts form doc
  | _, _ => false

/-- Whether the listed fields are there, where they must be, in the right form. -/
def acceptsFields : List (String × Bool × Schema) → List (String × Json) → Bool
  | [], _ => true
  | (name, required, form) :: fields, given =>
    (match given.lookup name with
      | some doc => accepts form doc
      | none => !required) && acceptsFields fields given

/-- How many of several forms a document has. -/
def acceptCount : List Schema → Json → Nat
  | [], _ => 0
  | form :: options, doc => (if accepts form doc then 1 else 0) + acceptCount options doc

end

/-! ## Forms as documents -/

mutual

/-- A form as a schema document, without the definitions it refers to. -/
def document : Schema → Json
  | text none => .obj [("type", .str "string")]
  | text (some allowed) => .obj [("type", .str "string"), ("enum", .arr (allowed.map .str))]
  | integer none => .obj [("type", .str "integer")]
  | integer (some minimum) => .obj [("type", .str "integer"), ("minimum", .int minimum)]
  | boolean => .obj [("type", .str "boolean")]
  | list items => .obj [("type", .str "array"), ("items", document items)]
  | tuple items size =>
    .obj [("type", .str "array"), ("items", document items), ("minItems", .int size),
      ("maxItems", .int size)]
  | record fields => .obj (recordFields fields)
  | oneOf options => .obj [("oneOf", .arr (documents options))]
  | named name _ => .obj [("$ref", .str ("#/$defs/" ++ name))]

/-- The schema fields of a record. -/
def recordFields (fields : List (String × Bool × Schema)) : List (String × Json) :=
  [("type", .str "object"),
    ("required", .arr ((fields.filter fun f => f.2.1).map fun f => .str f.1)),
    ("additionalProperties", .bool false),
    ("properties", .obj (properties fields))]

/-- Several forms as schema documents. -/
def documents : List Schema → List Json
  | [] => []
  | form :: options => document form :: documents options

/-- The fields of a record with their forms. -/
def properties : List (String × Bool × Schema) → List (String × Json)
  | [] => []
  | (name, _, form) :: fields => (name, document form) :: properties fields

end

/-- A named form as an entry of the definitions. -/
def definition? : Schema → Option (String × Json)
  | named name form => some (name, document form)
  | _ => none

end Schema

end CoverageDiff
