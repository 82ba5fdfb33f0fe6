import LineGrammar.Check.Grammar

/-!
The arguments of the command: one input path, an option for the grammar, and flags. Short flags may
share a hyphen; the grammar may stand in the next argument, behind an equals sign, or right after
its letter. A value is looked at only when the next known part begins or the arguments end, so an
unknown part is refused before a bad value in front of it.
-/

namespace LineGrammar

/-- What the command was asked to do. -/
structure Arguments where
  input : Text
  grammar : Grammar
  keepGoing : Bool
  quiet : Bool
  /-- How often more log output was asked for, at most 255 times. -/
  verbosity : Nat
  deriving DecidableEq, Repr

/-- Why arguments end otherwise than in a check. -/
inductive ArgumentFault where
  | unknownArgument
  | invalidValue
  | missingInput
  /-- Something that may be given once was given twice. -/
  | conflict
  /-- A value was given to a flag. -/
  | tooManyValues
  | help
  | version
  deriving DecidableEq, Repr

/-- The name of a grammar on the command line. -/
def Grammar.argument : Grammar → Text
  | directions => "directions".toList
  | nodes => "nodes".toList
  | network => "network".toList

/-- The grammar of a name. -/
def Grammar.ofArgument? (name : Text) : Option Grammar :=
  [directions, nodes, network].find? fun grammar => grammar.argument == name

namespace Arguments

/-- A flag. -/
inductive Flag where
  | keepGoing
  | quiet
  | verbose
  | help
  | version
  deriving DecidableEq, Repr

/-- What a name on the command line stands for. -/
inductive Name where
  | flag (f : Flag)
  | grammar
  deriving DecidableEq, Repr

/-- The meaning of a letter after one hyphen. -/
def ofLetter? : Char → Option Name
  | 'g' => some .grammar
  | 'k' => some (.flag .keepGoing)
  | 'q' => some (.flag .quiet)
  | 'v' => some (.flag .verbose)
  | 'h' => some (.flag .help)
  | 'V' => some (.flag .version)
  | _ => none

/-- The names after two hyphens. -/
def longNames : List (Text × Name) :=
  [("grammar".toList, .grammar), ("keep-going".toList, .flag .keepGoing),
    ("quiet".toList, .flag .quiet), ("verbose".toList, .flag .verbose),
    ("help".toList, .flag .help), ("version".toList, .flag .version)]

/-- The meaning of a name after two hyphens. -/
def ofLong? (name : Text) : Option Name := longNames.lookup name

/-- A value that has been given and not yet looked at. -/
inductive Pending where
  | none
  /-- The option for the grammar still waits for its value. -/
  | awaited
  | grammar (value : Text)
  | input (value : Text)
  deriving DecidableEq, Repr

/-- How far the reading of the arguments has come. -/
structure Reading where
  input : Option Text := none
  grammar : Option Grammar := none
  keepGoing : Bool := false
  quiet : Bool := false
  verbosity : Nat := 0
  pending : Pending := .none
  /-- Whether an input has been given, looked at or not. -/
  placed : Bool := false
  /-- Whether two hyphens have ended the options. -/
  ended : Bool := false
  deriving DecidableEq, Repr

namespace Reading

/-- Takes a value for the grammar. A second one is refused before it is looked at. -/
def takeGrammar (s : Reading) (value : Text) : Except ArgumentFault Reading :=
  if s.grammar.isSome then .error .conflict
  else match Grammar.ofArgument? value with
    | some grammar => .ok { s with grammar }
    | none => .error .invalidValue

/-- Looks at the pending value. -/
def settle (s : Reading) : Except ArgumentFault Reading :=
  let s' := { s with pending := .none }
  match s.pending with
  | .none => .ok s'
  | .awaited => .error .invalidValue
  | .grammar value => s'.takeGrammar value
  | .input value => if value.isEmpty then .error .invalidValue else .ok { s' with input := value }

/-- Sets a flag. -/
def raise (s : Reading) (f : Flag) : Except ArgumentFault Reading := do
  let s ← s.settle
  match f with
  | .keepGoing => if s.keepGoing then .error .conflict else .ok { s with keepGoing := true }
  | .quiet => if s.quiet then .error .conflict else .ok { s with quiet := true }
  | .verbose => .ok { s with verbosity := min (s.verbosity + 1) 255 }
  | .help => .error .help
  | .version => .error .version

/-- Begins the option for the grammar, whose value comes next. -/
def awaitGrammar (s : Reading) : Except ArgumentFault Reading := do
  let s ← s.settle
  .ok { s with pending := .awaited }

/-- Takes a value for the grammar that is attached to the option. -/
def attachGrammar (s : Reading) (value : Text) : Except ArgumentFault Reading := do
  let s ← s.settle
  s.takeGrammar value

/-- Reads the letters after one hyphen. A letter that takes a value takes all that follows, less one
equals sign. -/
def letters (s : Reading) : Text → Except ArgumentFault Reading
  | [] => .ok s
  | c :: rest =>
    match ofLetter? c with
    | none => .error .unknownArgument
    | some (.flag f) => do (← s.raise f).letters rest
    | some .grammar =>
      match rest with
      | [] => s.awaitGrammar
      | '=' :: value => s.attachGrammar value
      | value => s.attachGrammar value

/-- Reads what follows two hyphens: a name, and a value behind an equals sign. -/
def long (s : Reading) (body : Text) : Except ArgumentFault Reading :=
  match ofLong? (body.takeWhile (· != '=')), body.dropWhile (· != '=') with
  | none, _ => .error .unknownArgument
  | some (.flag f), [] => s.raise f
  | some (.flag _), _ :: _ => .error .tooManyValues
  | some .grammar, [] => s.awaitGrammar
  | some .grammar, _ :: value => s.attachGrammar value

/-- Takes an argument that is no option: the awaited value, or the input. -/
def plain (s : Reading) (argument : Text) : Except ArgumentFault Reading :=
  if s.pending = .awaited ∧ s.ended = false then .ok { s with pending := .grammar argument }
  else if s.placed then .error .unknownArgument
  else do
    let s ← s.settle
    .ok { s with pending := .input argument, placed := true }

/-- Reads one argument. One hyphen alone is no option. -/
def argument (s : Reading) (t : Text) : Except ArgumentFault Reading :=
  if s.ended then s.plain t
  else match t with
    | ['-', '-'] => .ok { s with ended := true }
    | '-' :: '-' :: body => s.long body
    | ['-'] => s.plain t
    | '-' :: body => s.letters body
    | _ => s.plain t

/-- What the arguments ask for, once all have been read. -/
def finish (s : Reading) : Except ArgumentFault Arguments := do
  let s ← s.settle
  match s.input with
  | none => .error .missingInput
  | some input => .ok ⟨input, s.grammar.getD .network, s.keepGoing, s.quiet, s.verbosity⟩

end Reading

/-- Reads the arguments after the name of the program. -/
def parse (argv : List Text) : Except ArgumentFault Arguments := do
  (← argv.foldlM Reading.argument {}).finish

end Arguments

end LineGrammar
