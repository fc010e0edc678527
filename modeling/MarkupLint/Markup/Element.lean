import MarkupLint.Text.Lowercase

/-!
# Elements and attributes with rules of their own

The names of elements that never have content, of elements whose content is plain text, and of
attributes whose presence alone says something.
-/

namespace MarkupLint.Markup

/-- The elements that have neither children nor a closing tag. -/
def voidElements : List String :=
  ["area", "base", "br", "col", "command", "embed", "hr", "img", "input", "keygen", "link", "meta",
   "param", "source", "track", "wbr"]

/-- The elements whose content is one text, whatever it looks like. -/
def rawTextElements : List String :=
  ["script", "style"]

/-- The attributes whose presence alone carries a meaning. -/
def booleanAttributes : List String :=
  ["allowfullscreen", "async", "autofocus", "autoplay", "checked", "compact", "controls",
   "declare", "default", "defaultchecked", "defaultmuted", "defaultselected", "defer", "disabled",
   "draggable", "enabled", "formnovalidate", "hidden", "indeterminate", "inert", "ismap",
   "itemscope", "loop", "multiple", "muted", "nohref", "noresize", "noshade", "novalidate",
   "nowrap", "open", "pauseonexit", "readonly", "required", "reversed", "scoped", "seamless",
   "selected", "sortable", "spellcheck", "translate", "truespeed", "typemustmatch", "visible"]

/-- Whether an element never has content. -/
def isVoidElement (name : String) : Bool :=
  voidElements.contains name

/-- Whether the content of an element is one text. -/
def isRawTextElement (name : String) : Bool :=
  rawTextElements.contains name

/-- Whether an attribute needs no value, whatever the case of its name. -/
def isBooleanAttribute (name : String) : Bool :=
  booleanAttributes.contains (Text.lowercase name)

end MarkupLint.Markup
