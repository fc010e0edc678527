import MarkupLint.Terminal.Style

/-!
# Taking codes out of a text

A code is the escape character, a bracket, any digits and semicolons, and an m. `withoutCodes`
takes every code out of a text and leaves all else. Since codes are found from the front, what a
text shows may depend on what stands behind it; `Shows` is the notion that does not: it says what
a text shows wherever it stands, and so it goes through when texts are put together. A text that
is set in a style shows the same as the text itself if it holds no escape character.
-/

namespace MarkupLint.Terminal

/-! ## Codes -/

/-- Whether a character may stand between the bracket and the end of a code. -/
def isParameter (c : Char) : Bool :=
  c.isDigit || c == ';'

/-- The characters are a code. -/
def IsCode (code : List Char) : Prop :=
  ∃ parameters, (∀ c ∈ parameters, isParameter c = true) ∧
    code = escape :: '[' :: (parameters ++ ['m'])

/-- What stands behind the code at the front of a text, if there is one. -/
def afterCode? : List Char → Option (List Char)
  | '\x1b' :: '[' :: rest =>
      match rest.dropWhile isParameter with
      | 'm' :: after => some after
      | _ => none
  | _ => none

/-- A code is found at the front exactly if one stands there. -/
theorem afterCode?_eq_some_iff {text after : List Char} :
    afterCode? text = some after ↔ ∃ code, IsCode code ∧ text = code ++ after := by
  constructor
  · intro found
    unfold afterCode? at found
    split at found
    · rename_i rest
      split at found
      · rename_i behind
        cases found
        refine ⟨escape :: '[' :: (rest.takeWhile isParameter ++ ['m']), ⟨_, fun c mem => ?_, rfl⟩,
          ?_⟩
        · exact List.all_eq_true.mp List.all_takeWhile c mem
        · have whole : rest.takeWhile isParameter ++ rest.dropWhile isParameter = rest :=
            List.takeWhile_append_dropWhile
          rw [behind] at whole
          simp [escape, whole]
      · cases found
    · cases found
  · rintro ⟨_, ⟨parameters, allowed, rfl⟩, rfl⟩
    have behind : (parameters ++ 'm' :: after).dropWhile isParameter = 'm' :: after := by
      rw [List.dropWhile_append_of_pos allowed]
      rfl
    simp [afterCode?, escape, behind]

theorem length_lt_of_afterCode? {text after : List Char} (found : afterCode? text = some after) :
    after.length < text.length := by
  rcases afterCode?_eq_some_iff.mp found with ⟨code, ⟨parameters, -, rfl⟩, rfl⟩
  simp only [List.cons_append, List.length_cons, List.length_append]
  omega

/-- The text with every code taken out. -/
def withoutCodes : List Char → List Char
  | [] => []
  | c :: rest =>
      match found : afterCode? (c :: rest) with
      | some after => withoutCodes after
      | none => c :: withoutCodes rest
termination_by text => text.length
decreasing_by
  · exact length_lt_of_afterCode? found
  · exact Nat.lt_succ_self rest.length

theorem withoutCodes_of_afterCode? {text after : List Char}
    (found : afterCode? text = some after) : withoutCodes text = withoutCodes after := by
  cases text with
  | nil => cases found
  | cons c rest =>
      rw [withoutCodes]
      split
      · rename_i same
        rw [found] at same
        cases same
        rfl
      · rename_i none
        rw [found] at none
        cases none

theorem withoutCodes_cons_of_ne {c : Char} (other : c ≠ escape) (rest : List Char) :
    withoutCodes (c :: rest) = c :: withoutCodes rest := by
  rw [withoutCodes]
  split
  · rename_i found
    rcases afterCode?_eq_some_iff.mp found with ⟨code, ⟨parameters, -, rfl⟩, whole⟩
    exact absurd (List.cons.inj whole).1 other
  · rfl

/-! ## Texts without escape characters -/

/-- The text holds no escape character. -/
def Plain (text : List Char) : Prop :=
  escape ∉ text

instance : DecidablePred Plain :=
  fun text => inferInstanceAs (Decidable (escape ∉ text))

theorem plain_cons_iff {c : Char} {text : List Char} :
    Plain (c :: text) ↔ c ≠ escape ∧ Plain text := by
  rw [Plain, List.mem_cons, not_or, ne_comm]
  rfl

theorem plain_append_iff {first second : List Char} :
    Plain (first ++ second) ↔ Plain first ∧ Plain second := by
  rw [Plain, List.mem_append, not_or]
  rfl

theorem plain_toList_append_iff {first second : String} :
    Plain (first ++ second).toList ↔ Plain first.toList ∧ Plain second.toList := by
  rw [String.toList_append, plain_append_iff]

theorem plain_quoting {before text after : String} (first : Plain before.toList)
    (quoted : Plain text.toList) (last : Plain after.toList) :
    Plain (before ++ text ++ after).toList := by
  rw [plain_toList_append_iff, plain_toList_append_iff]
  exact ⟨⟨first, quoted⟩, last⟩

theorem plain_replicate {c : Char} (other : c ≠ escape) (count : Nat) :
    Plain (List.replicate count c) :=
  fun mem => other (List.eq_of_mem_replicate mem).symm

theorem plain_toDigits (n : Nat) : Plain (Nat.toDigits 10 n) := by
  intro mem
  cases Nat.isDigit_of_mem_toDigits (by decide) (by decide) mem

theorem plain_toString (n : Nat) : Plain (toString n).toList := by
  change Plain (Nat.repr n).toList
  rw [Nat.repr_eq_ofList_toDigits, String.toList_ofList]
  exact plain_toDigits n

/-! ## What a text shows -/

/-- Wherever `written` stands, taking out the codes leaves `shown` of it. -/
def Shows (written shown : List Char) : Prop :=
  ∀ rest, withoutCodes (written ++ rest) = shown ++ withoutCodes rest

theorem Shows.withoutCodes_eq {written shown : List Char} (shows : Shows written shown) :
    withoutCodes written = shown := by
  have alone := shows []
  rwa [List.append_nil, withoutCodes, List.append_nil] at alone

theorem shows_nil : Shows [] [] :=
  fun _ => rfl

theorem Shows.append {written shown written' shown' : List Char} (first : Shows written shown)
    (second : Shows written' shown') : Shows (written ++ written') (shown ++ shown') := by
  intro rest
  rw [List.append_assoc, first, second, List.append_assoc]

theorem Shows.cons {c : Char} (other : c ≠ escape) {written shown : List Char}
    (shows : Shows written shown) : Shows (c :: written) (c :: shown) := by
  intro rest
  rw [List.cons_append, withoutCodes_cons_of_ne other, shows, List.cons_append]

theorem IsCode.shows {code : List Char} (isCode : IsCode code) : Shows code [] := by
  intro rest
  exact withoutCodes_of_afterCode? (afterCode?_eq_some_iff.mpr ⟨code, isCode, rfl⟩)

/-- A text without escape characters shows itself. -/
theorem Plain.shows {text : List Char} (plain : Plain text) : Shows text text := by
  induction text with
  | nil => exact shows_nil
  | cons c text ih =>
      rw [plain_cons_iff] at plain
      exact (ih plain.2).cons plain.1

theorem shows_flatMap {α : Type} {items : List α} {written shown : α → List Char}
    (each : ∀ item ∈ items, Shows (written item) (shown item)) :
    Shows (items.flatMap written) (items.flatMap shown) := by
  induction items with
  | nil => exact shows_nil
  | cons item items ih =>
      rcases List.forall_mem_cons.mp each with ⟨first, others⟩
      rw [List.flatMap_cons, List.flatMap_cons]
      exact first.append (ih others)

/-! ## Styles -/

theorem isCode_reset : IsCode reset :=
  ⟨['0'], List.forall_mem_singleton.mpr (by decide), rfl⟩

theorem isCode_opening (style : Style) : IsCode style.opening := by
  have allowed : (";".intercalate style.numbers).toList.all isParameter = true := by
    rcases style with ⟨_ | _, _ | _, _ | _ | _ | _⟩ <;> rfl
  exact ⟨_, List.all_eq_true.mp allowed, rfl⟩

/-- A text without escape characters holds no ending code that would have to be renewed. -/
theorem Plain.renew_eq {text : List Char} (plain : Plain text) (opening : List Char) :
    renew opening text = text := by
  induction text with
  | nil => rfl
  | cons c text ih =>
      rw [plain_cons_iff] at plain
      unfold renew
      split
      · rename_i same
        exact absurd (List.cons.inj same).1 plain.1
      · rename_i same
        rcases List.cons.inj same with ⟨rfl, rfl⟩
        rw [ih plain.2]
      · rename_i impossible
        cases impossible

/-- In any style, with or without codes, a text shows itself. -/
theorem Plain.shows_paint {text : List Char} (plain : Plain text) (codes : Bool) (style : Style) :
    Shows (paint codes style text) text := by
  cases codes with
  | false => exact plain.shows
  | true =>
      have painted := ((isCode_opening style).shows.append plain.shows).append isCode_reset.shows
      rw [List.nil_append, List.append_nil] at painted
      rwa [paint, if_pos rfl, plain.renew_eq]

end MarkupLint.Terminal
