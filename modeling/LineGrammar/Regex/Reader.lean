import LineGrammar.Character.Letter
import LineGrammar.Regex.Bracket
import LineGrammar.Regex.Footprint

/-!
Reading a regular expression from its text. The reader goes through the text once, part by part; it
keeps the alternation that is being read, and for every group that is still open the alternation
around it with what has to be known when it closes. Every part carries how deep its text nests: a
group, a repetition, a sequence of several items, an alternation and a bracket are each one level
around their parts.
-/

namespace LineGrammar.Regex

/-- An expression as it is written: what it means, and how deep its text nests. -/
structure Written where
  regex : Regex
  depth : Nat := 0

/-- An item of a branch: an expression, or inline flags, which nothing can repeat. -/
inductive Item where
  | part (w : Written)
  | flags

namespace Item

/-- The expression of an item. -/
def regex? : Item → Option Regex
  | part w => some w.regex
  | flags => none

/-- How deep the text of an item nests. -/
def depth : Item → Nat
  | part w => w.depth
  | flags => 0

end Item

/-- How deep the text around parts of the given depths nests; a single part has nothing around
it. -/
def depthAround : List Nat → Nat
  | [] => 0
  | [depth] => depth
  | depths => depths.foldl max 0 + 1

/-- An alternation that is being read. -/
structure Alternation where
  /-- The branches that are finished, the latest first. -/
  branches : List Written := []
  /-- The items of the present branch, the latest first. -/
  items : List Item := []

namespace Alternation

/-- The present branch. -/
def branch (a : Alternation) : Written :=
  ⟨concat (a.items.reverse.filterMap Item.regex?), depthAround (a.items.map Item.depth)⟩

/-- The whole alternation, if it ends here. -/
def whole (a : Alternation) : Written :=
  let branches := (a.branch :: a.branches).reverse
  ⟨oneOf (branches.map Written.regex), depthAround (branches.map Written.depth)⟩

/-- Adds an item to the present branch. -/
def push (a : Alternation) (item : Item) : Alternation := { a with items := item :: a.items }

/-- Begins the next branch. -/
def bar (a : Alternation) : Alternation := ⟨a.branch :: a.branches, []⟩

end Alternation

/-- A group that is still open. -/
structure OpenGroup where
  /-- The alternation around it. -/
  around : Alternation
  /-- The flags to go back to. -/
  flags : Flags
  /-- Its number, if it is counted. -/
  index : Option Nat

/-- How far the reading of a pattern has come. -/
structure Reading where
  flags : Flags := {}
  /-- The number of groups counted so far. -/
  groups : Nat := 0
  names : List Text := []
  present : Alternation := {}
  /-- The open groups, the innermost first. -/
  outer : List OpenGroup := []

namespace Reading

/-- Adds an expression to the present branch. -/
def push (s : Reading) (regex : Regex) : Reading :=
  { s with present := s.present.push (.part { regex }) }

/-- Opens a group that is not counted, with the given flags. -/
def openPlain (s : Reading) (flags : Flags) : Reading :=
  { s with flags, present := {}, outer := ⟨s.present, s.flags, none⟩ :: s.outer }

/-- Opens a group that is counted. -/
def openCounted (s : Reading) : Reading :=
  { s with
    groups := s.groups + 1
    present := {}
    outer := ⟨s.present, s.flags, some (s.groups + 1)⟩ :: s.outer }

/-- Closes the innermost group. -/
def closeGroup (s : Reading) : Except Fault Reading :=
  match s.outer with
  | [] => .error .groupUnopened
  | group :: outer =>
    let inside := s.present.whole
    let regex := match group.index with
      | some index => capture index inside.regex
      | none => inside.regex
    .ok { s with
      flags := group.flags
      present := group.around.push (.part ⟨regex, inside.depth + 1⟩)
      outer }

/-- Replaces the latest expression by its repetition. -/
def repeatLast (s : Reading) (least : Nat) (most : Option Nat) (greedy : Bool) :
    Except Fault Reading :=
  match s.present.items with
  | .part w :: items =>
    let w := ⟨repeated least most greedy w.regex, w.depth + 1⟩
    .ok { s with present := { s.present with items := .part w :: items } }
  | _ => .error .nothingToRepeat

end Reading

/-- A question mark right here makes a repetition lazy. -/
def readQuestion : Text → Bool × Text
  | '?' :: rest => (true, rest)
  | t => (false, t)

/-- A decimal number with blanks around it. -/
def readNumber (flags : Flags) (t : Text) : Except Fault Nat × Text :=
  let (digits, left) := flags.collect Char.isDigit false (t.dropWhile isBlank)
  let n := Text.decimalValue digits
  let number := if digits.isEmpty then .error .countMissing
    else if n < UInt32.size then .ok n else .error .countTooLarge
  (number, left.dropWhile isBlank)

/-- A count after its opening brace: the least number of rounds and, unless it is open, the
most. -/
def readCount (flags : Flags) (t : Text) : Except Fault (Nat × Option Nat × Text) :=
  let (least, t) := readNumber flags (flags.skip t)
  match t with
  | '}' :: rest => do
    let n ← least
    .ok (n, some n, rest)
  | ',' :: rest =>
    match flags.skip rest with
    | '}' :: rest => do .ok (← least, none, rest)
    | t => do
      let n ← least
      let (most, t) := readNumber flags t
      let m ← most
      match t with
      | '}' :: rest => if n ≤ m then .ok (n, some m, rest) else .error .countOrder
      | _ => .error .countUnclosed
  | _ => .error .countUnclosed

/-- Whether a character may begin the name of a group. -/
def mayBeginName (c : Char) : Bool := c == '_' || isAlphabetic c

/-- Whether a character may stand in the name of a group, after its beginning. -/
def mayContinueName (c : Char) : Bool :=
  c == '_' || c == '.' || c == '[' || c == ']' || isAlphanumeric c

/-- The name of a group up to the angle bracket that ends it. -/
def readName (names : List Text) (t : Text) : Except Fault (Text × Text) :=
  match t.takeWhile (· != '>'), t.dropWhile (· != '>') with
  | c :: name, _ :: rest =>
    if mayBeginName c && name.all mayContinueName then
      if (c :: name) ∈ names then .error .groupNameTwice else .ok (c :: name, rest)
    else .error .groupName
  | [], _ :: _ => .error .groupNameEmpty
  | _, _ => .error .groupName

/-- Reads the beginning of a group, or flags for the rest of the present one. -/
def readGroup (s : Reading) (t : Text) : Except Fault (Reading × Text) :=
  let named (rest : Text) : Except Fault (Reading × Text) := do
    let (name, rest) ← readName s.names rest
    .ok ({ s with names := name :: s.names }.openCounted, rest)
  match s.flags.skip t with
  | '?' :: '=' :: _ | '?' :: '!' :: _ => .error .lookAround
  | '?' :: '<' :: '=' :: _ | '?' :: '<' :: '!' :: _ => .error .lookAround
  | '?' :: 'P' :: '<' :: rest => named rest
  | '?' :: '<' :: rest => named rest
  | '?' :: rest => do
    let (inline, rest) ← readInlineFlags s.flags true [] rest
    if inline.forGroup then .ok (s.openPlain inline.flags, rest)
    else if inline.none then .error .nothingToRepeat
    else .ok ({ s with flags := inline.flags, present := s.present.push .flags }, rest)
  | rest => .ok (s.openCounted, rest)

/-- The repetition that an operator of one character stands for. -/
def repetitionOf? : Char → Option (Nat × Option Nat)
  | '?' => some (0, some 1)
  | '*' => some (0, none)
  | '+' => some (1, none)
  | _ => none

/-- Reads one part. The fuel has to exceed the length of the text. -/
def readPart (fuel : Nat) (s : Reading) (c : Char) (rest : Text) :
    Except Fault (Reading × Text) :=
  match c with
  | '(' => readGroup s rest
  | ')' => do .ok (← s.closeGroup, rest)
  | '|' => .ok ({ s with present := s.present.bar }, rest)
  | '[' => do
    let (written, rest) ← readBracket s.flags fuel rest
    let part := Item.part ⟨ofSet written.set, written.depth⟩
    .ok ({ s with present := s.present.push part }, rest)
  | '{' => do
    let (least, most, rest) ← readCount s.flags rest
    let (questioned, rest) := readQuestion (s.flags.skip rest)
    .ok (← s.repeatLast least most (s.flags.greedy questioned), rest)
  | '.' => do .ok (s.push (ofSet (← s.flags.dot)), rest)
  | '^' => .ok (s.push (.look s.flags.caret), rest)
  | '$' => .ok (s.push (.look s.flags.dollar), rest)
  | c =>
    match repetitionOf? c with
    | some (least, most) => do
      let (questioned, rest) := readQuestion rest
      .ok (← s.repeatLast least most (s.flags.greedy questioned), rest)
    | none => do
      let (atom, rest) ← readAtom s.flags (c :: rest)
      .ok (s.push (atom.regex s.flags), rest)

/-- Reads the rest of a pattern. The fuel has to exceed the length of the text; every part takes
some of it. -/
def readFrom : Nat → Reading → Text → Except Fault Written
  | 0, _, _ => .error .groupUnclosed
  | fuel + 1, s, t =>
    match s.flags.skip t with
    | [] => if s.outer.isEmpty then .ok s.present.whole else .error .groupUnclosed
    | c :: rest => do
      let (s, rest) ← readPart fuel s c rest
      readFrom fuel s rest

/-- How deep the text of a pattern may nest. -/
def deepest : Nat := 250

/-- Reads a regular expression, which has to keep within the bounds on its depth and on the room of
its automaton. -/
def read (t : Text) : Except Fault Regex := do
  let written ← readFrom (t.length + 1) {} t
  if deepest < written.depth then .error .tooDeep
  else if written.regex.fits then .ok written.regex
  else .error .tooLarge

end LineGrammar.Regex
