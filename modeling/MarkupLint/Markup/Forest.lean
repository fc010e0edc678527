import MarkupLint.Markup.Event

/-!
# Building the forest of a document

Events are taken one by one while the elements still open are kept innermost first. A closing tag
closes the innermost open element of its name, up to case; the elements opened inside that one end
where the closing tag starts, without a closing name. A closing tag that closes nothing is text.
At the end of the text every element still open ends there.
-/

namespace MarkupLint.Markup

/-- An element that is still open, with the nodes read inside it so far, last one first. -/
structure OpenElement where
  tag : Tag
  children : List Node
deriving Repr, Inhabited

/-- The element, ended at a position, with a closing name or without. -/
def OpenElement.close (element : OpenElement) (closing : Option Token) (stop : Position) : Node :=
  .element { element.tag with closing := closing, loc := ⟨element.tag.loc.start, stop⟩ }
    element.children.reverse

/-- A forest under construction: the finished nodes outside every open element, last one first,
and the open elements, innermost first. -/
structure Builder where
  roots : List Node
  openElements : List OpenElement
deriving Repr, Inhabited

namespace Builder

/-- Nothing built yet. -/
def empty : Builder :=
  ⟨[], []⟩

/-- Adds a finished node inside the innermost open element. -/
def push (builder : Builder) (node : Node) : Builder :=
  match builder.openElements with
  | [] => { builder with roots := node :: builder.roots }
  | inner :: outer =>
      { builder with openElements := { inner with children := node :: inner.children } :: outer }

/-- Closes the innermost open element, if there is one. -/
def closeInner (builder : Builder) (closing : Option Token) (stop : Position) : Builder :=
  match builder.openElements with
  | [] => builder
  | inner :: outer => { builder with openElements := outer }.push (inner.close closing stop)

/-- Ends the `count` innermost open elements at a position. -/
def cutOff (builder : Builder) (stop : Position) : Nat → Builder
  | 0 => builder
  | count + 1 => (builder.closeInner none stop).cutOff stop count

/-- The number of open elements inside the innermost one of a name, if there is one. -/
def depthOf? (builder : Builder) (name : String) : Option Nat :=
  builder.openElements.findIdx? fun element => Text.namesMatch element.tag.name name

/-- Takes one event. -/
def take (builder : Builder) : Event → Builder
  | .text token => builder.push (.text token)
  | .comment token => builder.push (.comment token)
  | .doctype token => builder.push (.doctype token)
  | .opening tag standsAlone =>
      if standsAlone then builder.push (.element tag [])
      else { builder with openElements := ⟨tag, []⟩ :: builder.openElements }
  | .closing whole name =>
      match builder.depthOf? name.chars with
      | some depth =>
          (builder.cutOff whole.loc.start depth).closeInner (some name) whole.loc.stop
      | none => builder.push (.text whole)

/-- Ends every open element at the end of the text. -/
def finish (builder : Builder) (stop : Position) : List Node :=
  (builder.cutOff stop builder.openElements.length).roots.reverse

end Builder

/-- The forest that a sequence of events describes; `stop` is the end of the text. -/
def forestOf (events : List Event) (stop : Position) : List Node :=
  (events.foldl Builder.take Builder.empty).finish stop

/-- The events of a text, and the position of its end. -/
def eventsOf (text : String) : List Event × Position :=
  let located : Locating (List Event × Position) := do
    let events ← (scan (Slice.ofText text)).mapM Lexeme.locate
    let stop ← positionAt (Slice.ofText text).stop
    return (events, stop)
  (located.run (Cursor.ofText text)).1

/-- Reads a text as markup. Every text is markup of some kind. -/
def parse (text : String) : List Node :=
  let (events, stop) := eventsOf text
  forestOf events stop

end MarkupLint.Markup
