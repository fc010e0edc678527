/-!
# Paths and access to files

A path is a text of names divided by slashes. What a run needs to know of files is whether
something is there, what a directory holds, and the text of a file.
-/

namespace MarkupLint.Path

/-- Why a file could not be read. -/
inductive ReadError where
  | notFound
  | notDirectory
  | isDirectory
  | nameTooLong
  | zeroInName
  | invalidText
  | other (message : String)
deriving DecidableEq, Repr, Inhabited

/-- The wording of a failure to read. -/
def ReadError.message : ReadError → String
  | .notFound => "No such file or directory (os error 2)"
  | .notDirectory => "Not a directory (os error 20)"
  | .isDirectory => "Is a directory (os error 21)"
  | .nameTooLong => "File name too long (os error 36)"
  | .zeroInName => "file name contained an unexpected NUL byte"
  | .invalidText => "stream did not contain valid UTF-8"
  | .other message => message

/-- Reads the bytes of a file as a text. -/
def decodeText (content : ByteArray) : Except ReadError String :=
  match String.fromUTF8? content with
  | some text => .ok text
  | none => .error .invalidText

/-- Access to files: whether a path leads to a directory (nothing if it leads nowhere), the names
in a directory, and the text of a file. -/
structure FileSystem (m : Type → Type) where
  isDirectory? : String → m (Option Bool)
  entries : String → m (List String)
  readText : String → m (Except ReadError String)

/-- The names that a path consists of; a slash at the end leaves an empty name behind it. -/
def components (path : String) : List String :=
  path.splitOn "/"

/-- The path of a name in a directory. -/
def join (path name : String) : String :=
  if path.isEmpty || path.endsWith "/" then path ++ name else path ++ "/" ++ name

/-- Where a path leads that is read in a directory: a path that starts with a
slash leads there from anywhere. -/
def resolve (directory path : String) : String :=
  if path.startsWith "/" then path else join directory path

/-- Whether a path means the current directory. -/
def isCurrent (path : String) : Bool :=
  (components path).head? == some "." && (components path).all fun name =>
    name == "" || name == "."

/-- The last name of a path, unless the path ends by going up. -/
def fileName? (path : String) : Option String :=
  match (components path).filter (fun name => name != "" && name != ".") |>.getLast? with
  | some name => if name = ".." then none else some name
  | none => none

/-- The extension of a path: what stands behind the last dot of its last name,
unless nothing stands before that dot. -/
def extension? (path : String) : Option String := do
  let name ← fileName? path
  let reversed := name.toList.reverse
  let after := reversed.takeWhile (· != '.')
  match reversed.dropWhile (· != '.') with
  | _ :: _ :: _ => some (String.ofList after.reverse)
  | _ => none

end MarkupLint.Path
