import LineGrammar.Regex.Syntax
import LineGrammar.Regex.Utf8

/-!
How much room the automaton of an expression takes. The automaton reads the bytes of UTF-8 and is
built twice, to read forwards and to read backwards. Every state takes the same room; a state with
several ways on takes more for each of them. `fits` is the bound that a pattern has to keep.
-/

namespace LineGrammar.Regex

/-- The direction in which an automaton reads. -/
inductive Direction where
  | forwards
  | backwards
  deriving DecidableEq, Repr

namespace Footprint

/-- The bytes of a state. -/
def state : Nat := 32

/-- The bytes of a way on that reads a byte. -/
def transition : Nat := 8

/-- The bytes of a way on that reads nothing. -/
def branch : Nat := 4

/-- A state that reads one byte, with the given number of ways on. A state with one way on keeps
it inside. -/
def reading (ways : Nat) : Nat := if ways = 1 then state else state + transition * ways

/-- The sequences by their first ranges, with what follows them. -/
def tails (sequences : List CharSet.ByteSequence) : List (List CharSet.ByteSequence) :=
  (sequences.splitBy fun a b => a.head? == b.head?).map (·.map List.tail)

/-- What can be left to read of the sequences, of those that are not at their end. The depth
bounds the number of bytes. -/
def remainders : Nat → List CharSet.ByteSequence → List (List CharSet.ByteSequence)
  | 0, _ => []
  | depth + 1, sequences =>
    if sequences = [[]] then []
    else sequences :: (tails sequences).flatMap (remainders depth)

/-- A set read forwards: a state for each different remainder, and the state after it. -/
def setForwards (sequences : List CharSet.ByteSequence) : Nat :=
  (remainders 5 sequences).eraseDups.foldl
    (fun room left => room + state + transition * (tails left).length) state

/-- The number of places of each sequence that it does not share with the one before. -/
def newPlaces : CharSet.ByteSequence → List CharSet.ByteSequence → Nat
  | _, [] => 0
  | before, s :: rest =>
    let shared := ((before.zip s).takeWhile fun p => p.1 == p.2).length
    s.length - shared + newPlaces s rest

/-- A set read backwards: a way on for each sequence, and a state for each of the places that the
sequences do not share from their first bytes on. -/
def setBackwards (sequences : List CharSet.ByteSequence) : Nat :=
  2 * state + branch * sequences.length + state * newPlaces [] sequences

/-- One character of a set. -/
def ofSet (d : Direction) (s : CharSet) : Nat :=
  if s.isAscii then state + reading s.ranges.length
  else match d with
    | .forwards => setForwards s.byteSequences
    | .backwards => setBackwards s.byteSequences

/-- The words below a place of a tree of words: groups of words by their first letters. A word that
ends here closes the group; groups are listed with the latest first, and so are their words. -/
abbrev Groups := List (List (UInt8 × List (List UInt8)))

/-- Adds a word to a group. -/
def addToGroup (letter : UInt8) (rest : List UInt8) :
    List (UInt8 × List (List UInt8)) → List (UInt8 × List (List UInt8))
  | [] => [(letter, [rest])]
  | (l, words) :: more =>
    if l = letter then (l, rest :: words) :: more else (l, words) :: addToGroup letter rest more

/-- Adds a word below a place. -/
def addWord (groups : Groups) : List UInt8 → Groups
  | [] => if groups.all List.isEmpty && 1 < groups.length then groups else [] :: groups
  | letter :: rest =>
    match groups with
    | [] => [addToGroup letter rest []]
    | group :: closed => addToGroup letter rest group :: closed

/-- A tree of words. The depth bounds the length of the words. -/
def wordTree : Nat → List (List UInt8) → Nat
  | 0, _ => 0
  | depth + 1, words =>
    if words.all List.isEmpty then 0
    else
      let groups := words.foldl addWord [[]]
      let inner := groups.filter fun group => !group.isEmpty
      let ends := groups.length - 1
      inner.foldl
        (fun room group =>
          group.foldl (fun room entry => room + wordTree depth entry.2.reverse)
            (room + reading group.length))
        (state + branch * (inner.length + ends))

/-- The bytes of a text. -/
def bytesOf (t : Text) : List UInt8 := (String.ofList t).toUTF8.toList

/-- A choice between literals. -/
def ofWords (d : Direction) (words : List Text) : Nat :=
  let words := words.map fun t =>
    match d with
    | .forwards => bytesOf t
    | .backwards => (bytesOf t).reverse
  state + wordTree (words.foldl (fun n word => max n word.length) 0 + 1) words

/-- The room of an expression that stands alone, from its weight. -/
def alone (d : Direction) (r : Regex) (weight : Nat) : Nat :=
  match r with
  | .alt _ _ =>
    match r.branches.mapM Regex.literal? with
    | some words => ofWords d words
    | none => 2 * state + weight
  | _ => weight

/-- The room of an expression that is one of the branches of a choice, from its weight. -/
def asBranch (r : Regex) (weight : Nat) : Nat :=
  match r with
  | .alt _ _ => weight
  | _ => branch + weight

/-- The weight of an expression: its room, or the room of its branches if it is a choice. -/
def weight (d : Direction) : Regex → Nat
  | .empty | .look _ => state
  | .literal t => state * Text.byteSize t
  | .set s => ofSet d s
  | .capture _ a =>
    match d with
    | .forwards => 2 * state + alone d a (weight d a)
    | .backwards => alone d a (weight d a)
  | .seq a b => alone d a (weight d a) + alone d b (weight d b)
  | .alt a b => asBranch a (weight d a) + asBranch b (weight d b)
  | .rounds least most _ a =>
    let once := alone d a (weight d a)
    match least, most with
    | 0, some 1 => once + 2 * state + 2 * branch
    | 0, none =>
      if a.leastBytes.getD 0 = 0 then once + 3 * state + 4 * branch
      else once + state + 2 * branch
    | least + 1, none => (least + 1) * once + state + 2 * branch
    | least, some most =>
      (if least = 0 then state else least * once) +
        if least = most then 0 else state + (most - least) * (once + state + 2 * branch)

/-- What stands in front of an automaton: one state, or a search for the place where a match
begins. -/
def entrance (anchored : Bool) : Nat := if anchored then state else 3 * state + 2 * branch

/-- The room of the whole automaton. Forwards, it remembers where the match begins and ends. -/
def total (d : Direction) (r : Regex) : Nat :=
  match d with
  | .forwards => entrance r.startsText + 3 * state + alone d r (weight d r)
  | .backwards => entrance r.endsText + state + alone d r (weight d r)

/-- The room that an automaton may take: ten mebibytes. -/
def limit : Nat := 10 * 1024 * 1024

end Footprint

/-- Whether the automata of the expression keep within the limit. -/
def fits (r : Regex) : Bool :=
  Footprint.total .forwards r ≤ Footprint.limit && Footprint.total .backwards r ≤ Footprint.limit

end LineGrammar.Regex
