import MarkupLint.Path.Pattern

/-!
# The paths that a pattern matches

A pattern is followed name by name. A name without special characters is looked up; any other is
held against the names in the directory, in alphabetical order. The paths that are still to be
looked at are kept in a list, the next one first.
-/

namespace MarkupLint.Path

variable {m : Type → Type} [Monad m]

/-- A path to be looked at: its last name has to match the first of `names` and what lies below it
the others. Without names, it has matched already. -/
structure Pending where
  path : String
  isDirectory : Bool
  names : Option (List (List Part))
deriving Repr, Inhabited

/-- Whether a path leads to a directory. -/
def leadsToDirectory (files : FileSystem m) (path : String) : m Bool := do
  return (← files.isDirectory? path) == some true

/-- Whether a name of a pattern stands for any number of directories. -/
def isDirectories (name : List Part) : Bool :=
  name.contains .directories

/-- The path of an entry; the current directory is not written in front of it. -/
def entryPath (path name : String) : String :=
  if isCurrent path then name else join path name

/-- The names for the current and the parent directory that match a name with special characters.
It has to start with a dot, and the parent comes first. -/
def specialNames (name : List Part) : List String :=
  if name.head? = some (.char '.') then ["..", "."].filter fun special =>
    matchesName name special.toList
  else []

/-- The paths to be looked at for the names of a pattern below a path. -/
def descend (files : FileSystem m) (path : String) (isDirectory : Bool) :
    List (List Part) → m (List Pending)
  | [] => return []
  | name :: names => do
      let enter (next : String) : m (List Pending) := do
        let inner ← leadsToDirectory files next
        if names.isEmpty then return [⟨next, inner, none⟩]
        else descend files next inner names
      match literal? name with
      | some text =>
          let next := entryPath path text
          let found ←
            if text = "." ∨ text = ".." then pure isDirectory
            else Option.isSome <$> files.isDirectory? next
          if found then enter next else return []
      | none =>
          if isDirectory then
            let specials ← (specialNames name).mapM fun special => enter (join path special)
            let entries := (← files.entries path).mergeSort fun first second => first ≤ second
            let children ← entries.mapM fun entry => do
              let next := entryPath path entry
              return Pending.mk next (← leadsToDirectory files next) (some (name :: names))
            return specials.flatten ++ children
          else return []

/-- What looking at a path comes to: the paths it leads to, and whether it matches itself. -/
structure Look where
  next : List Pending
  found : Bool

/-- Holds the last name of a path against the first name of a pattern. -/
def lookAtName (files : FileSystem m) (pattern : Pattern) (pending : Pending) :
    List (List Part) → m Look
  | [] => return ⟨[], false⟩
  | name :: names => do
      match fileName? pending.path with
      | none => return ⟨[], false⟩
      | some text =>
          if matchesName name text.toList then
            if names.isEmpty then return ⟨[], !pattern.directoryOnly || pending.isDirectory⟩
            else return ⟨← descend files pending.path pending.isDirectory names, false⟩
          else return ⟨[], false⟩

/-- Looks at a path. A name that stands for any number of directories is tried again on what a
directory holds, and is passed over. -/
def lookAt (files : FileSystem m) (pattern : Pattern) (pending : Pending) : m Look := do
  match pending.names with
  | none => return ⟨[], !pattern.directoryOnly || pending.isDirectory⟩
  | some names =>
      match names.takeWhile isDirectories with
      | [] => lookAtName files pattern pending names
      | first :: _ =>
          let after := names.dropWhile isDirectories
          let below ←
            if pending.isDirectory then descend files pending.path true (first :: after)
            else pure []
          if after.isEmpty then return ⟨below, pending.isDirectory⟩
          else
            let look ← lookAtName files pattern pending after
            return { look with next := look.next ++ below }

/-- Looks at paths until none is left; `found` holds the matches, last first. Each round looks at
one path; `fuel` bounds their number. -/
def expandFrom (files : FileSystem m) (pattern : Pattern) (found : List String)
    (todo : List Pending) : Nat → m (List String)
  | 0 => return found.reverse
  | fuel + 1 => do
      match todo with
      | [] => return found.reverse
      | pending :: rest =>
          let look ← lookAt files pattern pending
          let found := if look.found then pending.path :: found else found
          expandFrom files pattern found (look.next ++ rest) fuel

/-- How many paths are looked at for one pattern, at most. -/
def maxLooks : Nat :=
  1000000000000000000

/-- The paths that a pattern matches, in order. -/
def expand (files : FileSystem m) (pattern : Pattern) : m (List String) := do
  let start ← leadsToDirectory files pattern.start
  expandFrom files pattern [] (← descend files pattern.start start pattern.names) maxLooks

/-- The files that a pattern matches, in order. -/
def expandFiles (files : FileSystem m) (pattern : Pattern) : m (List String) := do
  (← expand files pattern).filterM fun path => do
    return (← files.isDirectory? path) == some false

end MarkupLint.Path
