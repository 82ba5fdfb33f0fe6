import LineGrammar.Text.Bytes

/-!
Where the input of a check comes from: files that are read whole and have to be text in UTF-8.

The command is given a function that reads files: the operating system's when it runs, any function
in what is proved of it. A `Directory` stands in for the operating system where the files are given
as data, and follows a path as that does, name by name. It holds nothing but files, and nothing is
known of the directories around it. No other part of the library uses it.
-/

namespace LineGrammar

/-- Why a file could not be read as text. -/
inductive ReadFault where
  | notFound
  | isDirectory
  | notDirectory
  | nameTooLong
  | zeroInName
  | notUtf8
  | other (message : Text)
  deriving DecidableEq, Repr

/-- The wording of a fault. -/
def ReadFault.message : ReadFault → Text
  | notFound => "No such file or directory (os error 2)".toList
  | isDirectory => "Is a directory (os error 21)".toList
  | notDirectory => "Not a directory (os error 20)".toList
  | nameTooLong => "File name too long (os error 36)".toList
  | zeroInName => "file name contained an unexpected NUL byte".toList
  | notUtf8 => "stream did not contain valid UTF-8".toList
  | other message => message

/-- The bytes of a file. -/
abbrev Bytes := List UInt8

/-- The text that the bytes encode in UTF-8. Encodings longer than necessary, surrogates and code
points past the last one are refused. -/
def decodeText (bytes : Bytes) : Except ReadFault Text :=
  match String.fromUTF8? ⟨bytes.toArray⟩ with
  | some s => .ok s.toList
  | none => .error .notUtf8

/-- Files by name. -/
structure Directory where
  files : List (Text × Bytes)

/-- Where a path has led so far. -/
inductive Place where
  /-- The directory that the files are in. -/
  | inside
  /-- A directory around it. -/
  | around
  | file (bytes : Bytes)

namespace Directory

/-- The most bytes of a path. -/
def longestPath : Nat := 4095

/-- The most bytes of a name. -/
def longestName : Nat := 255

/-- Looks a name up. The directories around hold nothing that could be read. -/
def find (d : Directory) (place : Place) (name : Text) : Except ReadFault Place :=
  if longestName < name.byteSize then .error .nameTooLong
  else match place, d.files.find? fun file => file.1 == name with
    | .inside, some file => .ok (.file file.2)
    | _, _ => .error .notFound

/-- Follows one name of a path. Nothing and a dot lead nowhere else, two dots lead to the directory
around. -/
def step (d : Directory) (place : Place) (name : Text) : Except ReadFault Place :=
  match place with
  | .file _ => .error .notDirectory
  | place =>
    if name.isEmpty || name == ".".toList then .ok place
    else if name = "..".toList then .ok .around
    else d.find place name

/-- Where a path leads. -/
def follow (d : Directory) (path : Text) : Except ReadFault Place :=
  (path.splitOn '/').foldlM d.step (if path.head? = some '/' then .around else .inside)

/-- Reads the file that a path names. -/
def read (d : Directory) (path : Text) : Except ReadFault Bytes :=
  if '\x00' ∈ path then .error .zeroInName
  else if path.isEmpty then .error .notFound
  else if longestPath < path.byteSize then .error .nameTooLong
  else do
    match ← d.follow path with
    | .file bytes => .ok bytes
    | .inside | .around => .error .isDirectory

end Directory

end LineGrammar
