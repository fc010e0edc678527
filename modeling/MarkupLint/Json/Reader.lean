import MarkupLint.Json.Lexeme

/-!
# Reading JSON text

The lexemes of a text are taken one by one while the containers still open are kept innermost
first. A text is refused if a lexeme does not fit, if it does not end with a finished value, or if
containers are nested more deeply than a limit.
-/

namespace MarkupLint.Json

/-- A container that is still open: the items of an array, last one first; the fields of an
object; or the fields of an object and the name whose value is awaited. -/
inductive Frame where
  | items (found : List Json)
  | fields (found : Fields)
  | member (found : Fields) (name : String)
deriving Repr, Inhabited

/-- What may come next. -/
inductive Phase where
  /-- A value. -/
  | value
  /-- A value, or the end of the array just opened. -/
  | firstItem
  /-- A name, or the end of the object just opened. -/
  | firstName
  /-- A name. -/
  | name
  /-- A colon. -/
  | colon
  /-- A comma, or the end of the innermost container. -/
  | separator
  /-- Nothing: the value is finished. -/
  | done (value : Json)
deriving Repr, Inhabited

/-- A text read in part. -/
structure Reading where
  frames : List Frame
  phase : Phase
deriving Repr, Inhabited

namespace Reading

/-- Nothing read yet. -/
def start : Reading :=
  ⟨[], .value⟩

/-- The number of containers that may be open at once, if nothing else is asked for. -/
def maxDepth : Nat :=
  127

/-- Hands a finished value to the innermost open container. -/
def deliver (value : Json) : List Frame → Option Reading
  | [] => some ⟨[], .done value⟩
  | .items found :: outer => some ⟨.items (value :: found) :: outer, .separator⟩
  | .member found name :: outer =>
      some ⟨.fields (NameMap.insert name value found) :: outer, .separator⟩
  | .fields _ :: _ => none

/-- Opens a container, unless as many are open as the limit allows. -/
def enter (limit : Nat) (frames : List Frame) (frame : Frame) (phase : Phase) : Option Reading :=
  if frames.length < limit then some ⟨frame :: frames, phase⟩ else none

/-- Takes a lexeme where a value may come. -/
def takeValue (limit : Nat) (frames : List Frame) : Lexeme → Option Reading
  | .openBrace => enter limit frames (.fields []) .firstName
  | .openBracket => enter limit frames (.items []) .firstItem
  | .text text => deliver (.string text) frames
  | .scalar scalar => deliver scalar frames
  | _ => none

/-- Takes a name of a field. -/
def takeName (frames : List Frame) : Lexeme → Option Reading
  | .text name =>
      match frames with
      | .fields found :: outer => some ⟨.member found name :: outer, .colon⟩
      | _ => none
  | _ => none

/-- Ends the innermost container. -/
def leave (frames : List Frame) : Lexeme → Option Reading
  | .closeBracket =>
      match frames with
      | .items found :: outer => deliver (.array found.reverse) outer
      | _ => none
  | .closeBrace =>
      match frames with
      | .fields found :: outer => deliver (.object found) outer
      | _ => none
  | _ => none

/-- Takes one lexeme. -/
def take (limit : Nat) (reading : Reading) (lexeme : Lexeme) : Option Reading :=
  match reading.phase with
  | .value => takeValue limit reading.frames lexeme
  | .firstItem => leave reading.frames lexeme <|> takeValue limit reading.frames lexeme
  | .firstName => leave reading.frames lexeme <|> takeName reading.frames lexeme
  | .name => takeName reading.frames lexeme
  | .colon =>
      match lexeme with
      | .colon => some ⟨reading.frames, .value⟩
      | _ => none
  | .separator =>
      match lexeme, reading.frames with
      | .comma, .items _ :: _ => some ⟨reading.frames, .value⟩
      | .comma, .fields _ :: _ => some ⟨reading.frames, .name⟩
      | _, _ => leave reading.frames lexeme
  | .done _ => none

/-- The value read, if it is finished. -/
def result? (reading : Reading) : Option Json :=
  match reading.phase with
  | .done value => some value
  | _ => none

end Reading

/-- Reads JSON text whose containers are nested no more deeply than the limit. -/
def parseWithin? (limit : Nat) (text : String) : Option Json := do
  let lexemes ← scan text.toList
  let reading ← lexemes.foldlM (Reading.take limit) Reading.start
  reading.result?

/-- Reads JSON text. -/
def parse? (text : String) : Option Json :=
  parseWithin? Reading.maxDepth text

end MarkupLint.Json
