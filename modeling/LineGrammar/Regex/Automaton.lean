import LineGrammar.Regex.Syntax

/-!
The automaton of an expression. A state names the states that it goes on to by their numbers, so an
automaton is built from its end: each part of an expression is built in front of what follows it.
-/

namespace LineGrammar

/-- A state of an automaton, with the states it goes on to. -/
inductive State where
  | accept
  | char (c : Char) (next : Nat)
  | set (s : CharSet) (next : Nat)
  | look (l : Look) (next : Nat)
  /-- Two ways on, the preferred one first. -/
  | fork (first second : Nat)
  deriving DecidableEq

/-- The states built so far, and the one to begin with. -/
structure Built where
  entry : Nat
  states : Array State

namespace Built

/-- Adds a state in front. -/
def push (b : Built) (s : State) : Built := ⟨b.states.size, b.states.push s⟩

/-- A choice between going on with what has been built and leaving it. -/
def orLeave (b : Built) (greedy : Bool) (exit : Nat) : Built :=
  b.push (if greedy then .fork b.entry exit else .fork exit b.entry)

end Built

namespace Regex

/-- Builds an expression in front of what has been built. A body that is repeated without a bound
is followed by a choice between another round and leaving, also if the first round can be left
out; the state of that choice is added before the body and set when the body is known. -/
def build : Regex → Built → Built
  | empty, b => b
  | literal t, b => t.foldr (fun c b => b.push (.char c b.entry)) b
  | set s, b => b.push (.set s b.entry)
  | look l, b => b.push (.look l b.entry)
  | capture _ a, b => a.build b
  | seq a c, b => a.build (c.build b)
  | alt a c, b =>
    let exit := b.entry
    let second := c.build b
    let first := a.build { second with entry := exit }
    first.push (.fork first.entry second.entry)
  | rounds least (some most) greedy a, b =>
    let exit := b.entry
    let optional := Nat.repeat (fun b => (a.build b).orLeave greedy exit) (most - least) b
    Nat.repeat a.build least optional
  | rounds least none greedy a, b =>
    let exit := b.entry
    let again := b.states.size
    let body := a.build (b.push .accept)
    let loop := if greedy then State.fork body.entry exit else State.fork exit body.entry
    let body := { body with states := body.states.setIfInBounds again loop }
    match least with
    | 0 => body.orLeave greedy exit
    | least + 1 => Nat.repeat a.build least body

end Regex

/-- An automaton over characters. -/
structure Automaton where
  states : Array State
  start : Nat
  /-- Whether a match can begin only where the text begins. -/
  anchored : Bool
  deriving DecidableEq

/-- The automaton of an expression. -/
def Regex.automaton (r : Regex) : Automaton :=
  let built := r.build ⟨0, #[.accept]⟩
  ⟨built.states, built.entry, r.startsText⟩

end LineGrammar
