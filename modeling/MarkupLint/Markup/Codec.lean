import MarkupLint.Json.Field
import MarkupLint.Markup.Node

/-!
# Documents as JSON

Each part of a document is written as an object and read back from one. Reading ignores fields it
does not know; an offset may be missing and is then zero, a placeholder mark may be missing and is
then false, and a value or a closing name may be missing or null.

Objects are the only form that is read. A part given as an array of its values in order, and a node
given as an array of its kind and its values, are left out: such an array is refused.
-/

namespace MarkupLint.Markup

namespace Position

/-- A position as JSON. -/
def toJson (position : Position) : Json :=
  .object [("line", .ofNat position.line), ("column", .ofNat position.column),
    ("offset", .ofNat position.offset)]

/-- Reads a position. -/
def ofJson? (json : Json) : Option Position := do
  let fields ← json.toFields?
  let line ← (← fields.get? "line").toWord?
  let column ← (← fields.get? "column").toWord?
  let offset ← Json.default? 0 Json.toWord? (fields.get? "offset")
  return ⟨line, column, offset⟩

end Position

namespace Location

/-- A location as JSON. -/
def toJson (loc : Location) : Json :=
  .object [("start", loc.start.toJson), ("end", loc.stop.toJson)]

/-- Reads a location. -/
def ofJson? (json : Json) : Option Location := do
  let fields ← json.toFields?
  let start ← Position.ofJson? (← fields.get? "start")
  let stop ← Position.ofJson? (← fields.get? "end")
  return ⟨start, stop⟩

end Location

namespace Token

/-- The fields of a token; the placeholder mark is written only if it is set. -/
def toFields (token : Token) : Json.Fields :=
  ("chars", .string token.chars) :: ("loc", token.loc.toJson) ::
    if token.isPlaceholder then [("is_placeholder", .bool true)] else []

/-- A token as JSON. -/
def toJson (token : Token) : Json :=
  .object token.toFields

/-- Reads a token from the fields of an object. -/
def ofFields? (fields : Json.Fields) : Option Token := do
  let chars ← (← fields.get? "chars").toText?
  let loc ← Location.ofJson? (← fields.get? "loc")
  let isPlaceholder ← Json.default? false Json.toBool? (fields.get? "is_placeholder")
  return ⟨chars, loc, isPlaceholder⟩

/-- Reads a token. -/
def ofJson? (json : Json) : Option Token := do
  ofFields? (← json.toFields?)

/-- An optional token as JSON, null if there is none. -/
def optionToJson : Option Token → Json
  | some token => token.toJson
  | none => .null

end Token

namespace Attribute

/-- An attribute as JSON. -/
def toJson (attr : Attribute) : Json :=
  .object [("name", attr.name.toJson), ("value", Token.optionToJson attr.value),
    ("loc", attr.loc.toJson)]

/-- Reads an attribute. -/
def ofJson? (json : Json) : Option Attribute := do
  let fields ← json.toFields?
  let name ← Token.ofJson? (← fields.get? "name")
  let value ← Json.optional? Token.ofJson? (fields.get? "value")
  let loc ← Location.ofJson? (← fields.get? "loc")
  return ⟨name, value, loc⟩

end Attribute

/-- Reads the tag of an element from the fields of its object. -/
def Tag.ofFields? (fields : Json.Fields) : Option Tag := do
  let name ← (← fields.get? "name").toText?
  let attributes ← (← (← fields.get? "attributes").toItems?).mapM Attribute.ofJson?
  let opening ← Token.ofJson? (← fields.get? "open")
  let closing ← Json.optional? Token.ofJson? (fields.get? "close")
  let loc ← Location.ofJson? (← fields.get? "loc")
  return ⟨name, attributes, opening, closing, loc⟩

mutual

/-- A node as JSON; the field `type` holds the word for its kind. -/
def Node.toJson : Node → Json
  | .element tag children =>
      .object [("type", .string "tag"), ("name", .string tag.name),
        ("attributes", .array (tag.attributes.map Attribute.toJson)),
        ("open", tag.opening.toJson), ("close", Token.optionToJson tag.closing),
        ("children", .array (forestToJson children)), ("loc", tag.loc.toJson)]
  | .text token => .object (("type", .string "text") :: token.toFields)
  | .comment token => .object (("type", .string "comment") :: token.toFields)
  | .doctype token => .object (("type", .string "doctype") :: token.toFields)

/-- The nodes of a forest as JSON. -/
def forestToJson : List Node → List Json
  | [] => []
  | node :: rest => node.toJson :: forestToJson rest

end

/-- Reads a node. -/
def Node.ofJson? (json : Json) : Option Node :=
  match json with
  | .object fields => do
      match ← (← NameMap.get? fields "type").toText? with
      | "tag" =>
          match found : NameMap.get? fields "children" with
          | some (.array items) =>
              let tag ← Tag.ofFields? fields
              let children ← items.attach.mapM fun ⟨item, _⟩ => Node.ofJson? item
              return .element tag children
          | _ => none
      | "text" => (Token.ofFields? fields).map .text
      | "comment" => (Token.ofFields? fields).map .comment
      | "doctype" => (Token.ofFields? fields).map .doctype
      | _ => none
  | _ => none
termination_by sizeOf json
decreasing_by exact Json.sizeOf_item_lt found ‹_›

/-- Reads the nodes of a forest. -/
def forestOfJson? (json : Json) : Option (List Node) := do
  (← json.toItems?).mapM Node.ofJson?

end MarkupLint.Markup
