import LineGrammar.Character.Letter
import LineGrammar.Check.Report
import LineGrammar.Regex.Reader
import LineGrammar.Text.Bytes
import LineGrammar.Text.Real

/-!
The log of the command. A filter is a list of directives; each sets how many levels are shown for
the events whose target begins with the text it names and that have the field it names. Of the
directives for an event the closest decides: the one that names more of the target, then one with a
field, and of equal ones the latest. A filter without a directive that can be read shows the level
that the arguments ask for.
-/

namespace LineGrammar

/-- How many levels are shown for some events. -/
structure Directive where
  /-- What the target of the events begins with. -/
  target : Text := []
  /-- A field that the events have. -/
  field : Option Text := none
  /-- Whether it holds only inside of spans of the program, which this program has none of. -/
  spanned : Bool := false
  shown : Nat := 5
  deriving DecidableEq, Repr

namespace Directive

/-- The names of the numbers of levels. -/
def levelNames : List (Text × Nat) :=
  [("off".toList, 0), ("error".toList, 1), ("warn".toList, 2), ("info".toList, 3),
    ("debug".toList, 4), ("trace".toList, 5)]

/-- The number of levels that a level by name or number stands for. -/
def levels? (t : Text) : Option Nat :=
  let digits := match t with
    | '+' :: rest => rest
    | rest => rest
  if !digits.isEmpty && digits.all Char.isDigit && Text.decimalValue digits ≤ 5 then
    some (Text.decimalValue digits)
  else levelNames.lookup (t.map Char.toLower)

/-- Why a directive cannot be read. -/
inductive Fault where
  | shape
  | level
  /-- The value of a field is no number and no regular expression. -/
  | value
  deriving DecidableEq, Repr

/-- The wording of a fault. -/
def Fault.message : Fault → Text
  | shape => "invalid filter directive".toList
  | level =>
    ("error parsing level filter: expected one of \"off\", \"error\", \"warn\", \"info\", " ++
      "\"debug\", \"trace\", or a number 0-5").toList
  | value => "invalid field filter: error building NFA".toList

/-- Whether a directive may begin with the character. -/
def mayBegin (c : Char) : Bool := c == '-' || c == ':' || c == '_' || isAlphanumeric c

/-- The text between two places of the whole one, counted in bytes. The places are those of the text
without the blanks around it. -/
def cut (whole : Text) (first last : Nat) : Text :=
  (whole.dropBytes first).takeBytes (last - first)

/-- Reads the level after an equals sign, from the given place on; none named means all. -/
def withLevel (d : Directive) (whole : Text) (place : Nat) : Except Fault Directive :=
  match whole.dropBytes place with
  | [] => .ok d
  | t =>
    match levels? t with
    | some shown => .ok { d with shown }
    | none => .error .level

/-- Reads what follows the closing bracket, from the given place on. -/
def afterBracket (d : Directive) (whole : Text) (place : Nat) : Text → Except Fault Directive
  | [] => .ok d
  | '=' :: _ => d.withLevel whole (place + 1)
  | _ => .error .shape

/-- Whether a text may be asked for as the value of a field. -/
def isValue (t : Text) : Bool := t.isReal || (Regex.read t).isOk

/-- Adds a field by its name, with a value after an equals sign or not. A field with a value holds
inside of spans only. What follows a second equals sign does not count. -/
def withField (d : Directive) (t : Text) : Except Fault Directive :=
  let name := t.takeWhile (· != '=')
  match t.dropWhile (· != '=') with
  | [] => .ok { d with field := some name }
  | _ :: value =>
    if isValue (value.takeWhile (· != '=')) then
      .ok { d with field := some name, spanned := true }
    else .error .value

/-- Reads a field after its opening brace, from the given place on. -/
def readField (d : Directive) (whole : Text) (place : Nat) (t : Text) : Except Fault Directive :=
  let inside : Text := t.takeWhile (· != '\x7d')
  let last := place + inside.byteSize
  match t.drop inside.length, cut whole place last with
  | _ :: rest, c :: field => do
    let d ← d.withField (c :: field)
    match rest with
    | ']' :: rest => d.afterBracket whole (last + 2) rest
    | _ => .error .shape
  | _, _ => .error .shape

/-- Reads the name of a span after its opening bracket, from the given place on. -/
def readSpan (d : Directive) (whole : Text) (place : Nat) (t : Text) : Except Fault Directive :=
  let inside : Text := t.takeWhile fun c => c != ']' && c != '\x7b'
  let last := place + inside.byteSize
  match t.drop inside.length with
  | [] => .error .shape
  | c :: rest =>
    if c = ']' then { d with spanned := true }.afterBracket whole (last + 1) rest
    else { d with spanned := !(cut whole place last).isEmpty }.readField whole (last + 1) rest

/-- Reads a directive: a level, a target, or a target with a level. A part in brackets after the
target names a span and, in braces, a field. -/
def read (whole : Text) : Except Fault Directive :=
  let t := whole.trim
  let name : Text := t.takeWhile fun c => c != '=' && c != '['
  let last := name.byteSize
  let named : Directive := { target := cut whole 0 last }
  match name, t.drop name.length with
  | [], '[' :: rest => ({} : Directive).readSpan whole 1 rest
  | [], _ => .error .shape
  | c :: _, rest =>
    if !mayBegin c then .error .shape
    else match rest with
      | [] =>
        match levels? whole with
        | some shown => .ok { shown }
        | none => .ok { target := whole }
      | '=' :: _ => named.withLevel whole (last + 1)
      | _ :: rest => named.readSpan whole (last + 1) rest

/-- Whether the directive is about a record. -/
def concerns (d : Directive) (r : Record) : Bool :=
  !d.spanned && d.target.isPrefixOf r.target &&
    d.field.all fun name => name == "message".toList || (r.fields.map Prod.fst).contains name

/-- Whether the first of two directives for a record is closer to it than the second. Of two fields
the one that is later in the order of texts counts as closer. -/
def closer (a b : Directive) : Bool :=
  b.target.length < a.target.length ||
    (a.target.length == b.target.length && decide (b.field.getD [] < a.field.getD []))

end Directive

/-- The directives of a filter. -/
abbrev LogFilter := List Directive

namespace LogFilter

/-- The directives that a text names, between commas, each with what became of it. -/
def directives (t : Text) : List (Text × Except Directive.Fault Directive) :=
  ((t.splitOn ',').filter fun part => !part.isEmpty).map fun part => (part, Directive.read part)

/-- The filter of a text. -/
def ofText (level : Level) (t : Text) : LogFilter :=
  match (directives t).filterMap fun d => d.2.toOption with
  | [] => [{ shown := level.rank }]
  | usable => usable

/-- What is said about the directives that cannot be read. -/
def complaints (t : Text) : List Text :=
  (directives t).filterMap fun d =>
    match d.2 with
    | .ok _ => none
    | .error fault =>
      some ("ignoring `".toList ++ d.1 ++ "`: ".toList ++ fault.message ++ "\n".toList)

/-- The directive that decides on a record. -/
def deciding? (filter : LogFilter) (r : Record) : Option Directive :=
  (filter.filter fun d => d.concerns r).foldl
    (fun best d => match best with
      | none => some d
      | some b => some (if b.closer d then b else d)) none

/-- Whether a record is shown. -/
def shows (filter : LogFilter) (r : Record) : Bool :=
  match filter.deciding? r with
  | some d => r.level.rank ≤ d.shown
  | none => false

end LogFilter

namespace Record

/-- The name of the level, with blanks before it up to five characters. -/
def paddedLevel (r : Record) : Text :=
  List.replicate (5 - r.level.label.length) ' ' ++ r.level.label

/-- A line of the log. -/
def write (r : Record) : Write :=
  let fields := r.fields.flatMap fun field => " ".toList ++ field.1 ++ "=".toList ++ field.2
  ⟨.err, [.stamp, .text (" ".toList ++ r.paddedLevel ++ " ".toList ++ r.target ++ ": ".toList ++
    r.message ++ fields ++ "\n".toList)]⟩

end Record

end LineGrammar
