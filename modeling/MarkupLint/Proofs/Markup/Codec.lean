import MarkupLint.Markup.Codec
import MarkupLint.Proofs.Json.Arrangement

/-!
# Reading back what was written of a document

Each part of a document is written as a record, and reading the record gives the part
back as long as its lines, columns and offsets are words of 64 bits. Readers look
fields up by name, so it does not matter how the fields are arranged. Conversely,
what was read has words for numbers, since nothing else is accepted as one.
-/

namespace MarkupLint

/-- A number can be read back if it is a word. -/
theorem Json.toWord?_ofNat {n : Nat} (fits : n ≤ Json.Number.maxSignificand) :
    (Json.ofNat n).toWord? = some n := by
  have range : (0 : Int) ≤ n ∧ (n : Int) ≤ Json.Number.maxSignificand := by omega
  simp only [Json.ofNat, Json.toWord?, Json.Number.toWord?, if_pos range, Int.toNat_natCast]

/-- Only words are read as numbers. -/
theorem Json.le_of_toWord? {json : Json} {n : Nat} (read : json.toWord? = some n) :
    n ≤ Json.Number.maxSignificand := by
  cases json with
  | number value =>
      cases value with
      | integer value =>
          simp only [Json.toWord?, Json.Number.toWord?] at read
          split at read
          · cases read
            omega
          · contradiction
      | double value => contradiction
  | null | bool | string | array | object => contradiction

theorem Json.Arranges.ofNat {arrange : Json → Json} (arranges : Json.Arranges arrange) (n : Nat) :
    arrange (.ofNat n) = .ofNat n :=
  arranges.number _

namespace Markup

variable {arrange : Json → Json}

namespace Position

/-- The numbers of the position are words. -/
structure Fits (position : Position) : Prop where
  line : position.line ≤ Json.Number.maxSignificand
  column : position.column ≤ Json.Number.maxSignificand
  offset : position.offset ≤ Json.Number.maxSignificand

instance (position : Position) : Decidable position.Fits :=
  decidable_of_iff (position.line ≤ Json.Number.maxSignificand ∧
      position.column ≤ Json.Number.maxSignificand ∧ position.offset ≤ Json.Number.maxSignificand)
    ⟨fun ⟨line, column, offset⟩ => ⟨line, column, offset⟩,
      fun fits => ⟨fits.line, fits.column, fits.offset⟩⟩

theorem sorted_toJson (position : Position) :
    position.toJson.sorted = .object [("column", .ofNat position.column),
      ("line", .ofNat position.line), ("offset", .ofNat position.offset)] := by
  rfl

theorem ofJson?_arranged (arranges : Json.Arranges arrange) {position : Position}
    (fits : position.Fits) : ofJson? (arrange position.toJson) = some position := by
  obtain ⟨moved, written, found⟩ := arranges.object [("line", .ofNat position.line),
    ("column", .ofNat position.column), ("offset", .ofNat position.offset)]
      (by simp [NameMap.names])
  rw [toJson, written]
  simp [ofJson?, Json.toFields?, found, NameMap.get?_cons, arranges.ofNat, Json.default?,
    Json.toWord?_ofNat fits.line, Json.toWord?_ofNat fits.column, Json.toWord?_ofNat fits.offset]

theorem fits_of_ofJson? {json : Json} {position : Position} (read : ofJson? json = some position) :
    position.Fits := by
  simp only [ofJson?, bind, pure, Option.bind_eq_some_iff, Option.some.injEq] at read
  obtain ⟨fields, -, lineJson, -, line, lineRead, columnJson, -, column, columnRead, offset,
    offsetRead, rfl⟩ := read
  refine ⟨Json.le_of_toWord? lineRead, Json.le_of_toWord? columnRead, ?_⟩
  cases written : fields.get? "offset" with
  | none =>
      rw [written] at offsetRead
      cases offsetRead
      exact Nat.zero_le _
  | some value =>
      rw [written] at offsetRead
      exact Json.le_of_toWord? offsetRead

end Position

namespace Location

/-- The numbers of both ends are words. -/
structure Fits (loc : Location) : Prop where
  start : loc.start.Fits
  stop : loc.stop.Fits

instance (loc : Location) : Decidable loc.Fits :=
  decidable_of_iff (loc.start.Fits ∧ loc.stop.Fits)
    ⟨fun ⟨start, stop⟩ => ⟨start, stop⟩, fun fits => ⟨fits.start, fits.stop⟩⟩

theorem sorted_toJson (loc : Location) :
    loc.toJson.sorted =
      .object [("end", loc.stop.toJson.sorted), ("start", loc.start.toJson.sorted)] := by
  rfl

theorem ofJson?_arranged (arranges : Json.Arranges arrange) {loc : Location} (fits : loc.Fits) :
    ofJson? (arrange loc.toJson) = some loc := by
  obtain ⟨moved, written, found⟩ := arranges.object [("start", loc.start.toJson),
    ("end", loc.stop.toJson)] (by simp [NameMap.names])
  rw [toJson, written]
  simp [ofJson?, Json.toFields?, found, NameMap.get?_cons,
    Position.ofJson?_arranged arranges fits.start, Position.ofJson?_arranged arranges fits.stop]

theorem fits_of_ofJson? {json : Json} {loc : Location} (read : ofJson? json = some loc) :
    loc.Fits := by
  simp only [ofJson?, bind, pure, Option.bind_eq_some_iff, Option.some.injEq] at read
  obtain ⟨fields, -, startJson, -, start, startRead, stopJson, -, stop, stopRead, rfl⟩ := read
  exact ⟨Position.fits_of_ofJson? startRead, Position.fits_of_ofJson? stopRead⟩

end Location

namespace Token

/-- The placeholder mark as a field: it is written only if it is set. -/
def markFields (token : Token) : Json.Fields :=
  if token.isPlaceholder then [("is_placeholder", .bool true)] else []

theorem sorted_toJson (token : Token) :
    token.toJson.sorted = .object (("chars", .string token.chars) ::
      (token.markFields ++ [("loc", token.loc.toJson.sorted)])) := by
  rcases token with ⟨chars, loc, _ | _⟩ <;> rfl

/-- A token is read back from its fields, whatever stands beside them. -/
theorem ofFields?_arranged (arranges : Json.Arranges arrange) {token : Token}
    (fits : token.loc.Fits) {fields : Json.Fields}
    (chars : fields.get? "chars" = some (arrange (.string token.chars)))
    (loc : fields.get? "loc" = some (arrange token.loc.toJson))
    (mark : fields.get? "is_placeholder" = (token.toFields.get? "is_placeholder").map arrange) :
    ofFields? fields = some token := by
  have written : Json.default? false Json.toBool? (fields.get? "is_placeholder") =
      some token.isPlaceholder := by
    rw [mark]
    rcases token with ⟨chars, loc, _ | _⟩ <;>
      simp [toFields, NameMap.get?_cons, Json.default?, arranges.bool, Json.toBool?]
  simp [ofFields?, chars, loc, arranges.string, Json.toText?,
    Location.ofJson?_arranged arranges fits, written]

theorem toFields_names_nodup (token : Token) : token.toFields.names.Nodup := by
  rcases token with ⟨chars, loc, _ | _⟩ <;> simp [toFields, NameMap.names]

theorem ofJson?_arranged (arranges : Json.Arranges arrange) {token : Token}
    (fits : token.loc.Fits) : ofJson? (arrange token.toJson) = some token := by
  obtain ⟨moved, written, found⟩ := arranges.object token.toFields token.toFields_names_nodup
  rw [toJson, written]
  exact ofFields?_arranged arranges fits (found "chars") (found "loc") (found "is_placeholder")

theorem ofJson?_sorted {token : Token} (fits : token.loc.Fits) :
    ofJson? token.toJson.sorted = some token :=
  ofJson?_arranged Json.arranges_sorted fits

theorem fits_of_ofFields? {fields : Json.Fields} {token : Token}
    (read : ofFields? fields = some token) : token.loc.Fits := by
  simp only [ofFields?, bind, pure, Option.bind_eq_some_iff, Option.some.injEq] at read
  obtain ⟨charsJson, -, chars, -, locJson, -, loc, locRead, mark, -, rfl⟩ := read
  exact Location.fits_of_ofJson? locRead

theorem fits_of_ofJson? {json : Json} {token : Token} (read : ofJson? json = some token) :
    token.loc.Fits := by
  simp only [ofJson?, bind, Option.bind_eq_some_iff] at read
  obtain ⟨fields, -, fieldsRead⟩ := read
  exact fits_of_ofFields? fieldsRead

/-- A token that may be missing is written as null if it is, and read back. -/
theorem optional?_arranged (arranges : Json.Arranges arrange) {token? : Option Token}
    (fits : ∀ token, token? = some token → token.loc.Fits) :
    Json.optional? ofJson? (some (arrange (optionToJson token?))) = some token? := by
  cases token? with
  | none =>
      rw [optionToJson, arranges.null]
      rfl
  | some token =>
      have read := ofJson?_arranged arranges (fits token rfl)
      obtain ⟨moved, written, -⟩ := arranges.object token.toFields token.toFields_names_nodup
      rw [toJson, written] at read
      rw [optionToJson, toJson, written]
      simp [Json.optional?, read]

theorem fits_of_optional? {json? : Option Json} {token? : Option Token}
    (read : Json.optional? ofJson? json? = some token?) :
    ∀ token, token? = some token → token.loc.Fits := by
  rintro token rfl
  rcases json? with _ | json
  · cases read
  · cases json with
    | null => cases read
    | bool | number | string | array | object =>
        simp only [Json.optional?, Option.map_eq_some_iff, Option.some.injEq,
          exists_eq_right] at read
        exact fits_of_ofJson? read

end Token

namespace Attribute

/-- The numbers of the attribute and of its tokens are words. -/
structure Fits (attr : Attribute) : Prop where
  name : attr.name.loc.Fits
  value : ∀ token, attr.value = some token → token.loc.Fits
  loc : attr.loc.Fits

theorem ofJson?_arranged (arranges : Json.Arranges arrange) {attr : Attribute} (fits : attr.Fits) :
    ofJson? (arrange attr.toJson) = some attr := by
  obtain ⟨moved, written, found⟩ := arranges.object [("name", attr.name.toJson),
    ("value", Token.optionToJson attr.value), ("loc", attr.loc.toJson)] (by simp [NameMap.names])
  rw [toJson, written]
  simp [ofJson?, Json.toFields?, found, NameMap.get?_cons,
    Token.ofJson?_arranged arranges fits.name, Token.optional?_arranged arranges fits.value,
    Location.ofJson?_arranged arranges fits.loc]

theorem fits_of_ofJson? {json : Json} {attr : Attribute} (read : ofJson? json = some attr) :
    attr.Fits := by
  simp only [ofJson?, bind, pure, Option.bind_eq_some_iff, Option.some.injEq] at read
  obtain ⟨fields, -, nameJson, -, name, nameRead, value, valueRead, locJson, -, loc, locRead,
    rfl⟩ := read
  exact ⟨Token.fits_of_ofJson? nameRead, Token.fits_of_optional? valueRead,
    Location.fits_of_ofJson? locRead⟩

end Attribute

end Markup

end MarkupLint
