import MarkupLint.Yaml.Node
import MarkupLint.Yaml.Scalar

/-!
# Reading YAML

A document is read as a JSON value. Keys are texts as they are written, and the last of equal keys
counts. Aliases are replaced by their nodes; how deep collections nest, and how often aliases are
followed, is bounded, so that a short document cannot stand for a huge value.
-/

namespace MarkupLint.Yaml

/-- How deep collections may nest. -/
def maxDepth : Nat :=
  128

namespace Document

/-- Reading with a count of the aliases followed so far. -/
abbrev Expand := StateT Nat Option

/-- Follows an alias. At most a hundred are followed for each mark of the document. -/
def follow (document : Document) (number : Nat) : Expand Node := do
  let followed := (← get) + 1
  if document.marks * 100 < followed then failure
  else
    set followed
    document.targets.lookup number

/-- The text of a key. -/
def keyText (document : Document) : Node → Expand String
  | .scalar text _ => return text
  | .alias number => do
      match ← document.follow number with
      | .scalar text _ => return text
      | _ => failure
  | _ => failure

/-- The value of a node below which collections nest at most `depth` times. -/
def value (document : Document) (depth : Nat) (node : Node) : Expand Json := do
  let target ←
    match node with
    | .alias number => document.follow number
    | _ => pure node
  match target, depth with
  | .scalar text true, _ => plainValue? text
  | .scalar text false, _ => return .string text
  | .sequence items, depth + 1 => return .array (← items.mapM (document.value depth))
  | .mapping pairs, depth + 1 =>
      let fields ← pairs.mapM fun (key, item) => do
        return (← document.keyText key, ← document.value depth item)
      return .object (NameMap.ofList fields)
  | _, _ => failure

/-- The value of a document; an empty one is null. -/
def value? (document : Document) : Option Json :=
  match document.root with
  | some root => (document.value maxDepth root).run' 0
  | none => some .null

end Document

/-- Reads a text that holds one document. -/
def parse? (text : String) : Option Json := do
  let tokens ← scan text.toList
  (← Document.ofTokens? tokens).value?

end MarkupLint.Yaml
