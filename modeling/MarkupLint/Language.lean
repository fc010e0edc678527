import MarkupLint.Text.Uppercase
import MarkupLint.Text.WhiteSpace

/-!
# Language tags

A language tag is a language, such as `en`, and may go on with a region, such
as `US` or `419`. A tag is judged by its first two subtags: the language has
to be a known two-letter code and the region two letters or three digits. The
canonical form writes the language in lower case and the region in upper case.
-/

namespace MarkupLint.Language

/-- The known codes of languages. -/
def codes : List String :=
  ["aa", "ab", "ae", "af", "ak", "am", "an", "ar", "as", "av", "ay", "az", "ba", "be", "bg", "bh",
   "bi", "bm", "bn", "bo", "br", "bs", "ca", "ce", "ch", "co", "cr", "cs", "cu", "cv", "cy", "da",
   "de", "dv", "dz", "ee", "el", "en", "eo", "es", "et", "eu", "fa", "ff", "fi", "fj", "fo", "fr",
   "fy", "ga", "gd", "gl", "gn", "gu", "gv", "ha", "he", "hi", "ho", "hr", "ht", "hu", "hy", "hz",
   "ia", "id", "ie", "ig", "ii", "ik", "io", "is", "it", "iu", "ja", "jv", "ka", "kg", "ki", "kj",
   "kk", "kl", "km", "kn", "ko", "kr", "ks", "ku", "kv", "kw", "ky", "la", "lb", "lg", "li", "ln",
   "lo", "lt", "lu", "lv", "mg", "mh", "mi", "mk", "ml", "mn", "mr", "ms", "mt", "my", "na", "nb",
   "nd", "ne", "ng", "nl", "nn", "no", "nr", "nv", "ny", "oc", "oj", "om", "or", "os", "pa", "pi",
   "pl", "ps", "pt", "qu", "rm", "rn", "ro", "ru", "rw", "sa", "sc", "sd", "se", "sg", "si", "sk",
   "sl", "sm", "sn", "so", "sq", "sr", "ss", "st", "su", "sv", "sw", "ta", "te", "tg", "th", "ti",
   "tk", "tl", "tn", "to", "tr", "ts", "tt", "tw", "ty", "ug", "uk", "ur", "uz", "ve", "vi", "vo",
   "wa", "wo", "xh", "yi", "yo", "za", "zh", "zu"]

/-- What can be said of a language tag. -/
inductive Verdict where
  /-- Well-formed and in canonical form. -/
  | valid
  /-- An unknown language or a malformed region. -/
  | invalidSubtag
  /-- Well-formed, but not in canonical form. -/
  | nonCanonicalCase
deriving DecidableEq, Repr, Inhabited

/-- A way to judge language tags. -/
abbrev Classifier := String → Verdict

/-- The first subtag of a tag. -/
def languageOf (tag : List Char) : List Char :=
  tag.takeWhile (· != '-')

/-- The second subtag of a tag, if there is one. -/
def regionOf? (tag : List Char) : Option (List Char) :=
  match tag.dropWhile (· != '-') with
  | [] => none
  | _ :: rest => some (rest.takeWhile (· != '-'))

/-- Whether a subtag is a known language, in any case. -/
def isLanguage (subtag : List Char) : Bool :=
  codes.contains (String.ofList (Text.lowerChars subtag))

/-- Whether a subtag is two letters or three digits. -/
def isRegion (subtag : List Char) : Bool :=
  (subtag.length == 2 && subtag.all Char.isAlpha) ||
    (subtag.length == 3 && subtag.all Char.isDigit)

/-- Whether the language and the region of a tag are written in their canonical cases. -/
def isCanonical (tag : List Char) : Bool :=
  Text.lowerChars (languageOf tag) == languageOf tag &&
    (regionOf? tag).all fun region => Text.upperChars region == region

/-- Judges a language tag; white space around it does not matter, and an empty tag is valid. -/
def classify (text : String) : Verdict :=
  let tag := Text.trimChars text.toList
  if tag.isEmpty then .valid
  else if !isLanguage (languageOf tag) then .invalidSubtag
  else if !(regionOf? tag).all isRegion then .invalidSubtag
  else if isCanonical tag then .valid
  else .nonCanonicalCase

end MarkupLint.Language
