import MarkupLint.Json.Reader
import MarkupLint.Proofs.Json.Arrangement
import MarkupLint.Proofs.Json.Lexing

/-!
# Reading back written values

The reader takes the lexemes of a value one by one with a stack of open containers.
Whatever containers are open, the lexemes of a value lead to the state in which the
value was handed to the innermost of them, unless the value is nested more deeply
than the limit allows; then they are refused. So in any layout the text of a value is
read as the value with its fields sorted, exactly if its nesting is within the limit.
-/

namespace MarkupLint.Json

/-! ## Fields in any order -/

/-- Puts fields into a map one by one, each value in sorted form. -/
def insertFields (found : Fields) (fields : List (String × Json)) : Fields :=
  fields.foldl (fun found field => NameMap.insert field.1 field.2.sorted found) found

theorem sorted_insertFields {found : Fields} (sorted : NameMap.Sorted found)
    (fields : List (String × Json)) : NameMap.Sorted (insertFields found fields) := by
  induction fields generalizing found with
  | nil => exact sorted
  | cons field fields ih => exact ih (sorted.insert field.1 field.2.sorted)

theorem sorted_sortedFields (fields : List (String × Json)) :
    NameMap.Sorted (sortedFields fields) := by
  induction fields with
  | nil => exact List.Pairwise.nil
  | cons field fields ih =>
      simp only [sortedFields]
      split
      · exact ih
      · exact ih.insert field.1 field.2.sorted

/-- Among sorted fields, an earlier field is found if no later one has its name. -/
theorem get?_sortedFields_cons (field : String × Json) (fields : List (String × Json))
    (name : String) :
    NameMap.get? (sortedFields (field :: fields)) name =
      (NameMap.get? (sortedFields fields) name).or
        (if field.1 = name then some field.2.sorted else none) := by
  obtain ⟨first, value⟩ := field
  simp only [sortedFields, NameMap.contains_eq_isSome_get?]
  by_cases same : first = name
  · subst same
    cases kept : NameMap.get? (sortedFields fields) first with
    | none => simp
    | some later => simp [kept]
  · rw [if_neg same, Option.or_none]
    split
    · rfl
    · rw [NameMap.get?_insert, if_neg same]

/-- A field that is put in replaces one of its name. -/
theorem get?_insertFields (found : Fields) (fields : List (String × Json)) (name : String) :
    NameMap.get? (insertFields found fields) name =
      (NameMap.get? (sortedFields fields) name).or (NameMap.get? found name) := by
  induction fields generalizing found with
  | nil => rfl
  | cons field fields ih =>
      have step : insertFields found (field :: fields) =
          insertFields (NameMap.insert field.1 field.2.sorted found) fields := rfl
      rw [step, ih, NameMap.get?_insert, get?_sortedFields_cons, Option.or_assoc]
      split <;> rfl

/-- Fields put in one by one are the sorted fields. -/
theorem insertFields_nil (fields : List (String × Json)) :
    insertFields [] fields = sortedFields fields := by
  apply (sorted_insertFields List.Pairwise.nil fields).ext (sorted_sortedFields fields)
  intro name
  rw [get?_insertFields, NameMap.get?_nil, Option.or_none]

/-! ## Nesting -/

mutual

/-- How deeply containers are nested in a value. -/
def nesting : Json → Nat
  | .array items => nestingItems items + 1
  | .object fields => nestingFields fields + 1
  | _ => 0

/-- How deeply containers are nested in items. -/
def nestingItems : List Json → Nat
  | [] => 0
  | item :: items => max item.nesting (nestingItems items)

/-- How deeply containers are nested in the values of fields. -/
def nestingFields : List (String × Json) → Nat
  | [] => 0
  | (_, value) :: fields => max value.nesting (nestingFields fields)

end

namespace Reading

/-- What was read, if there is room for the depth. -/
def allow (room depth : Nat) (reading? : Option Reading) : Option Reading :=
  if depth ≤ room then reading? else none

theorem allow_zero (room : Nat) (reading? : Option Reading) : allow room 0 reading? = reading? :=
  if_pos (Nat.zero_le room)

theorem allow_bind (room depth : Nat) (reading? : Option Reading)
    (next : Reading → Option Reading) :
    (allow room depth reading?).bind next = allow room depth (reading?.bind next) := by
  unfold allow
  split <;> rfl

/-- What stands side by side needs room for the deeper. -/
theorem allow_allow (room first second : Nat) (reading? : Option Reading) :
    allow room first (allow room second reading?) = allow room (max first second) reading? := by
  simp only [allow, Nat.max_le]
  by_cases within : first ≤ room <;> simp [within]

variable {limit : Nat}

/-- Inside a container there is less room. -/
theorem allow_inside (opened depth : Nat) (reading? : Option Reading) :
    allow (limit - opened) 1 (allow (limit - (opened + 1)) depth reading?) =
      allow (limit - opened) (depth + 1) reading? := by
  unfold allow
  by_cases within : depth + 1 ≤ limit - opened
  · rw [if_pos within, if_pos (by omega), if_pos (by omega)]
  · rw [if_neg within]
    split
    · rw [if_neg (by omega)]
    · rfl

theorem enter_eq_allow (frames : List Frame) (frame : Frame) (phase : Phase) :
    enter limit frames frame phase = allow (limit - frames.length) 1
      (some ⟨frame :: frames, phase⟩) := by
  have room : frames.length < limit ↔ 1 ≤ limit - frames.length := by omega
  simp only [enter, allow, room]

/-! ## Taking lexemes -/

theorem foldlM_take_single {frames : List Frame} {lexeme : Lexeme} {reading? : Option Reading}
    {phase : Phase} (taken : take limit ⟨frames, phase⟩ lexeme = reading?) :
    [lexeme].foldlM (take limit) ⟨frames, phase⟩ = reading? := by
  rw [List.foldlM_cons, taken]
  cases reading? <;> rfl

/-- A container is opened if there is room for it. -/
theorem foldlM_take_open {frames : List Frame} {lexeme : Lexeme} {frame : Frame} {phase : Phase}
    (opens : takeValue limit frames lexeme = enter limit frames frame phase)
    (lexemes : List Lexeme) :
    (lexeme :: lexemes).foldlM (take limit) ⟨frames, .value⟩ =
      allow (limit - frames.length) 1 (lexemes.foldlM (take limit) ⟨frame :: frames, phase⟩) := by
  change (takeValue limit frames lexeme).bind _ = _
  rw [opens, enter_eq_allow, allow_bind]
  rfl

/-- A closing bracket finishes the innermost container, an array. -/
theorem foldlM_take_closeBracket (found : List Json) (outer : List Frame) {phase : Phase}
    (awaited : phase = .separator ∨ phase = .firstItem) :
    [.closeBracket].foldlM (take limit) ⟨.items found :: outer, phase⟩ =
      deliver (.array found.reverse) outer := by
  apply foldlM_take_single
  rcases awaited with rfl | rfl
  · rfl
  · change (deliver (.array found.reverse) outer <|> none) = _
    cases deliver (.array found.reverse) outer <;> rfl

/-- A closing brace finishes the innermost container, an object. -/
theorem foldlM_take_closeBrace (found : Fields) (outer : List Frame) {phase : Phase}
    (awaited : phase = .separator ∨ phase = .firstName) :
    [.closeBrace].foldlM (take limit) ⟨.fields found :: outer, phase⟩ =
      deliver (.object found) outer := by
  apply foldlM_take_single
  rcases awaited with rfl | rfl
  · rfl
  · change (deliver (.object found) outer <|> none) = _
    cases deliver (.object found) outer <;> rfl

/-- Behind an opening bracket, a value is taken as elsewhere. -/
theorem foldlM_take_firstItem (value : Json) (more : List Lexeme) (frames : List Frame) :
    (value.lexemes ++ more).foldlM (take limit) ⟨frames, .firstItem⟩ =
      (value.lexemes ++ more).foldlM (take limit) ⟨frames, .value⟩ := by
  cases value with
  | null | bool | number | string => rfl
  | array items => cases items <;> rfl
  | object fields => cases fields <;> rfl

/-- A name and a colon lead to the value of the field. -/
theorem foldlM_take_name (found : Fields) (outer : List Frame) {phase : Phase}
    (awaited : phase = .name ∨ phase = .firstName) (name : String) (lexemes : List Lexeme) :
    (.text name :: .colon :: lexemes : List Lexeme).foldlM (take limit)
        ⟨.fields found :: outer, phase⟩ =
      lexemes.foldlM (take limit) ⟨.member found name :: outer, .value⟩ := by
  rcases awaited with rfl | rfl <;> rfl

/-- `lexemes` hand the value to the innermost open container, if there is room for its nesting. -/
def Hands (limit : Nat) (frames : List Frame) (lexemes : List Lexeme) (value : Json) : Prop :=
  lexemes.foldlM (take limit) ⟨frames, .value⟩ =
    allow (limit - frames.length) value.nesting (deliver value.sorted frames)

/-- Behind a first part that hands over a value, the second part goes on from there. -/
theorem Hands.append {frames : List Frame} {first second : List Lexeme} {value : Json}
    (hands : Hands limit frames first value) {next : Reading}
    (delivered : deliver value.sorted frames = some next) {depth : Nat}
    {reading? : Option Reading}
    (later : second.foldlM (take limit) next = allow (limit - frames.length) depth reading?) :
    (first ++ second).foldlM (take limit) ⟨frames, .value⟩ =
      allow (limit - frames.length) (max value.nesting depth) reading? := by
  rw [List.foldlM_append, hands, delivered, ← allow_allow, ← later]
  exact allow_bind _ _ _ _

mutual

/-- The lexemes of a value hand it to the innermost open container. -/
theorem hands_lexemes (value : Json) (frames : List Frame) :
    Hands limit frames value.lexemes value := by
  cases value with
  | null | bool | number | string => exact (foldlM_take_single rfl).trans (allow_zero _ _).symm
  | array items =>
      have opens : takeValue limit frames .openBracket = enter limit frames (.items [])
          .firstItem := rfl
      cases items with
      | nil =>
          rw [Hands, lexemes, foldlM_take_open opens,
            foldlM_take_closeBracket [] frames (Or.inr rfl)]
          rfl
      | cons item items =>
          -- the room inside the array bounds the first item and the further ones alike
          rw [Hands, lexemes, foldlM_take_open opens, foldlM_take_firstItem]
          rw [(hands_lexemes item (.items [] :: frames)).append rfl
            (foldlM_take_itemLexemes items _ frames)]
          exact allow_inside frames.length _ _
  | object fields =>
      have opens : takeValue limit frames .openBrace = enter limit frames (.fields [])
          .firstName := rfl
      cases fields with
      | nil =>
          rw [Hands, lexemes, foldlM_take_open opens,
            foldlM_take_closeBrace [] frames (Or.inr rfl)]
          rfl
      | cons field fields =>
          obtain ⟨name, value⟩ := field
          -- fields are put into the map as they come, which sorts them
          rw [Hands, lexemes, foldlM_take_open opens, foldlM_take_name [] frames (Or.inr rfl)]
          rw [(hands_lexemes value (.member [] name :: frames)).append rfl
            (foldlM_take_fieldLexemes fields _ frames), sorted, ← insertFields_nil]
          exact allow_inside frames.length _ _

/-- The lexemes of the further items of an array finish it. -/
theorem foldlM_take_itemLexemes (items found : List Json) (outer : List Frame) :
    (itemLexemes items).foldlM (take limit) ⟨.items found :: outer, .separator⟩ =
      allow (limit - (outer.length + 1)) (nestingItems items)
        (deliver (.array (found.reverse ++ sortedItems items)) outer) := by
  cases items with
  | nil =>
      rw [itemLexemes, foldlM_take_closeBracket found outer (Or.inl rfl), nestingItems,
        allow_zero, sortedItems, List.append_nil]
  | cons item items =>
      have later := foldlM_take_itemLexemes items (item.sorted :: found) outer
      rw [List.reverse_cons, List.append_assoc, List.singleton_append] at later
      exact (hands_lexemes item (.items found :: outer)).append rfl later

/-- The lexemes of the further fields of an object finish it. -/
theorem foldlM_take_fieldLexemes (fields : List (String × Json)) (found : Fields)
    (outer : List Frame) :
    (fieldLexemes fields).foldlM (take limit) ⟨.fields found :: outer, .separator⟩ =
      allow (limit - (outer.length + 1)) (nestingFields fields)
        (deliver (.object (insertFields found fields)) outer) := by
  cases fields with
  | nil =>
      rw [fieldLexemes, foldlM_take_closeBrace found outer (Or.inl rfl), nestingFields, allow_zero]
      rfl
  | cons field fields =>
      obtain ⟨name, value⟩ := field
      have later := foldlM_take_fieldLexemes fields (NameMap.insert name value.sorted found) outer
      exact (foldlM_take_name found outer (Or.inl rfl) name _).trans
        ((hands_lexemes value (.member found name :: outer)).append rfl later)

end

end Reading

/-! ## Whole texts -/

end MarkupLint.Json
