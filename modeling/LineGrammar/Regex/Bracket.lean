import LineGrammar.Regex.Escape

/-!
Bracketed sets: single characters, ranges, classes by name, nested brackets, and the operators for
common members, difference and symmetric difference, which group to the left. A closing bracket
that comes first stands for itself, and so do the hyphens that come first or last.
-/

namespace LineGrammar.Regex

/-- A set as it is written: its members, and how deep its text nests. -/
structure WrittenSet where
  set : CharSet
  depth : Nat := 0

/-- The operators between the operands of a bracket. -/
inductive SetOp where
  | inter
  | diff
  | symmDiff
  deriving DecidableEq, Repr

/-- The set that an operator makes of its operands. -/
def SetOp.apply : SetOp → CharSet → CharSet → CharSet
  | inter => .inter
  | diff => .diff
  | symmDiff => .symmDiff

/-- A bracket that is being read. -/
structure Bracket where
  negated : Bool
  /-- What stands before the latest operator, and the operator. -/
  left : Option (WrittenSet × SetOp) := none
  /-- The members of the items read since then. -/
  members : CharSet := .empty
  /-- The number of these items. -/
  items : Nat := 0
  /-- How deep the deepest of them nests. -/
  deepest : Nat := 0

namespace Bracket

/-- Adds an item. -/
def add (b : Bracket) (item : WrittenSet) : Bracket :=
  { b with
    members := b.members.union item.set
    items := b.items + 1
    deepest := max b.deepest item.depth }

/-- The latest operand. Case variants are added to each operand; several items are one level
deeper than the deepest of them. -/
def operand (flags : Flags) (b : Bracket) : WrittenSet :=
  ⟨flags.fold b.members, if b.items ≤ 1 then b.deepest else b.deepest + 1⟩

/-- The operands read so far, put together. -/
def operands (flags : Flags) (b : Bracket) : WrittenSet :=
  let right := b.operand flags
  match b.left with
  | none => right
  | some (left, op) => ⟨op.apply left.set right.set, max left.depth right.depth + 1⟩

/-- Begins the operand after an operator. -/
def operator (flags : Flags) (b : Bracket) (op : SetOp) : Bracket :=
  { negated := b.negated, left := some (b.operands flags, op) }

/-- The set of a bracket that ends here. -/
def value (flags : Flags) (b : Bracket) : Except Fault WrittenSet := do
  let inside := b.operands flags
  let set ← flags.whole (if b.negated then inside.set.compl else inside.set)
  .ok ⟨set, inside.depth + 1⟩

end Bracket

/-- The classes with a name, as `[:name:]`. -/
def namedClass? (name : Text) : Option CharSet :=
  match String.ofList name with
  | "alnum" => some (.ofRanges [('0', '9'), ('A', 'Z'), ('a', 'z')])
  | "alpha" => some (.ofRanges [('A', 'Z'), ('a', 'z')])
  | "ascii" => some .ascii
  | "blank" => some (.ofRanges [('\t', '\t'), (' ', ' ')])
  | "cntrl" => some (.ofRanges [('\x00', '\x1f'), ('\x7f', '\x7f')])
  | "digit" => some asciiDigitSet
  | "graph" => some (.range '!' '~')
  | "lower" => some (.range 'a' 'z')
  | "print" => some (.range ' ' '~')
  | "punct" => some (.ofRanges [('!', '/'), (':', '@'), ('[', '\x60'), ('\x7b', '~')])
  | "space" => some asciiBlankSet
  | "upper" => some (.range 'A' 'Z')
  | "word" => some asciiWordSet
  | "xdigit" => some (.ofRanges [('0', '9'), ('A', 'F'), ('a', 'f')])
  | _ => none

/-- Reads a class by name after its opening bracket, if there is one of that name. -/
def readNamedClass? (flags : Flags) : Text → Option (Except Fault CharSet × Text)
  | ':' :: rest =>
    let (negated, rest) := match rest with
      | '^' :: rest => (true, rest)
      | rest => (false, rest)
    match rest.dropWhile (· != ':') with
    | ':' :: ']' :: left =>
      (namedClass? (rest.takeWhile (· != ':'))).map fun s =>
        let members := flags.fold s
        (if negated then flags.complement members else .ok members, left)
    | _ => none
  | _ => none

/-- Reads the beginning of a bracket, after the opening bracket. -/
def readOpening (flags : Flags) (t : Text) : Except Fault (Bracket × Text) :=
  let (negated, t) := match flags.skip t with
    | '^' :: rest => (true, flags.skip rest)
    | t => (false, t)
  match flags.collect (· == '-') false t with
  | (_, []) => .error .bracketUnclosed
  | ([], ']' :: rest) => .ok (Bracket.add { negated } ⟨.single ']', 0⟩, rest)
  | (hyphens, t) =>
    .ok (hyphens.foldl (fun b hyphen => b.add ⟨.single hyphen, 0⟩) { negated }, t)

/-- A character that stands in a bracket. -/
def Flags.member (flags : Flags) (c : Char) : Except Fault Char :=
  if flags.unicode || c.toNat < 0x80 then .ok c else .error .notAscii

/-- The members that an atom stands for. -/
def Atom.members (flags : Flags) : Atom → Except Fault CharSet
  | char c => do .ok (.single (← flags.member c))
  | set s => .ok s
  | look _ => .error .bracketMember

/-- The end of a range. -/
def Atom.rangeEnd (flags : Flags) : Atom → Except Fault Char
  | char c => flags.member c
  | set _ | look _ => .error .rangeEnd

/-- The next character of a bracket after the present one, as far as the choice between a hyphen
and a range looks: blanks, one number sign and blanks again are passed over. -/
def Flags.glance (flags : Flags) (t : Text) : Option Char :=
  if flags.spaced then
    match t.dropWhile isBlank with
    | [] => t.head?
    | '#' :: rest => ((rest.dropWhile isBlank).head?).or t.head?
    | c :: _ => some c
  else t.head?

/-- Reads one member of a bracket: a character, a class, or a range. -/
def readMember (flags : Flags) (t : Text) : Except Fault (CharSet × Text) := do
  let (first, t) ← readAtom flags t
  match flags.skip t with
  | [] => .error .bracketUnclosed
  | '-' :: rest =>
    if flags.glance rest = some ']' ∨ flags.glance rest = some '-' then
      .ok (← first.members flags, '-' :: rest)
    else match flags.skip rest with
      | [] => .error .bracketUnclosed
      | t => do
        let (last, t) ← readAtom flags t
        let first ← first.rangeEnd flags
        let last ← last.rangeEnd flags
        if first ≤ last then .ok (.range first last, t) else .error .rangeOrder
  | t => .ok (← first.members flags, t)

/-- Reads the rest of a bracket inside the given outer ones. The fuel bounds the number of
steps, each of which consumes something. -/
def readBracketIn (flags : Flags) : Nat → List Bracket → Bracket → Text →
    Except Fault (WrittenSet × Text)
  | 0, _, _, _ => .error .bracketUnclosed
  | fuel + 1, outer, b, t =>
    match flags.skip t with
    | [] => .error .bracketUnclosed
    | '[' :: rest =>
      match readNamedClass? flags rest with
      | some (members, left) => do
        readBracketIn flags fuel outer (b.add ⟨← members, 0⟩) left
      | none => do
        let (inner, left) ← readOpening flags rest
        readBracketIn flags fuel (b :: outer) inner left
    | ']' :: rest => do
      let value ← b.value flags
      match outer with
      | [] => .ok (value, rest)
      | o :: outer => readBracketIn flags fuel outer (o.add value) rest
    | '&' :: '&' :: rest => readBracketIn flags fuel outer (b.operator flags .inter) rest
    | '-' :: '-' :: rest => readBracketIn flags fuel outer (b.operator flags .diff) rest
    | '~' :: '~' :: rest => readBracketIn flags fuel outer (b.operator flags .symmDiff) rest
    | t => do
      let (s, left) ← readMember flags t
      readBracketIn flags fuel outer (b.add ⟨s, 0⟩) left

/-- Reads a bracket after the opening bracket. The fuel has to exceed the length of the text. -/
def readBracket (flags : Flags) (fuel : Nat) (t : Text) : Except Fault (WrittenSet × Text) := do
  let (b, rest) ← readOpening flags t
  readBracketIn flags fuel [] b rest

end LineGrammar.Regex
