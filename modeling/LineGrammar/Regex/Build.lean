import LineGrammar.Regex.Syntax

/-!
Putting expressions together in a normal form. Sequences and alternations are flat; literals next to
each other are one literal; a set of one character is a literal; branches that are single characters
or sets are one set; and branches that begin with the same parts share them. Sharing can change
which match is preferred, so the normal form is part of what an expression means.
-/

namespace LineGrammar.Regex

/-- One character of a set, a literal if there is no choice. -/
def ofSet (s : CharSet) : Regex :=
  match s.only? with
  | some c => literal [c]
  | none => set s

/-- The sequence of parts. -/
def ofParts : List Regex → Regex
  | [] => empty
  | [r] => r
  | r :: rest => seq r (ofParts rest)

/-- The alternation of branches. Nothing matches where there is none. -/
def ofBranches : List Regex → Regex
  | [] => set .empty
  | [r] => r
  | r :: rest => alt r (ofBranches rest)

/-- Puts a part in front of others. Two literals become one. -/
def consPart : Regex → List Regex → List Regex
  | literal t, literal u :: rest => literal (t ++ u) :: rest
  | r, rest => r :: rest

/-- One expression after another. -/
def concat (rs : List Regex) : Regex := ofParts ((rs.flatMap parts).foldr consPart [])

/-- The set of the characters that all branches are. -/
def charsOf? (rs : List Regex) : Option CharSet :=
  (rs.mapM char?).map fun cs => cs.foldl (fun s c => s.union (.single c)) .empty

/-- The union of the sets that all branches are. -/
def setsOf? (rs : List Regex) : Option CharSet :=
  (rs.mapM set?).map fun sets => sets.foldl CharSet.union .empty

/-- The longest common beginning of two lists. -/
def sharedFront : List Regex → List Regex → List Regex
  | a :: as, b :: bs => if a = b then a :: sharedFront as bs else []
  | _, _ => []

/-- The parts that all branches begin with, if they are sequences. -/
def sharedParts : List Regex → List Regex
  | [] => []
  | r :: rest =>
    if (r :: rest).all isSeq then (rest.map parts).foldl sharedFront r.parts else []

/-- One of several branches, which share no beginning. -/
def choice (rs : List Regex) : Regex :=
  match charsOf? rs, setsOf? rs with
  | some s, _ | none, some s => ofSet s
  | none, none => ofBranches rs

/-- One of several expressions, the first ones preferred. Once the longest common beginning is taken
away, nothing is shared any more: what is left of the branches begins with different parts, or is an
alternation whose own branches share nothing. -/
def oneOf (rs : List Regex) : Regex :=
  match rs.flatMap branches with
  | [r] => r
  | rs =>
    match sharedParts rs with
    | [] => choice rs
    | shared =>
      let rest := rs.map fun r => concat (r.parts.drop shared.length)
      concat (shared ++ [choice (rest.flatMap branches)])

/-- Repeats an expression. Of one that only matches nothing, one round is as good as many. -/
def repeated (least : Nat) (most : Option Nat) (greedy : Bool) (a : Regex) : Regex :=
  let least := if a.onlyEmpty then min least 1 else least
  let most := if a.onlyEmpty then some (min (most.getD 1) 1) else most
  if most = some 0 then empty
  else if least = 1 ∧ most = some 1 then a
  else rounds least most greedy a

end LineGrammar.Regex
