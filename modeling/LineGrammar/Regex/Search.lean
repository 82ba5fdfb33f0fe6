import LineGrammar.Regex.Automaton
import Std.Data.HashSet.Basic

/-!
Searching for the first match of an automaton. A thread is a state together with the place where its
match begins. At each place of the text the live threads stand in order of preference; `settle`
follows them as far as they go without reading a character, entering no state twice at one place,
and drops everything less preferred than a thread that accepts. That no state is entered twice is
what decides between the rounds of a repetition whose body can match nothing.
-/

namespace LineGrammar

/-- A match: the number of characters in front of it and its own length. -/
structure Span where
  start : Nat
  length : Nat
  deriving DecidableEq, Repr

namespace Automaton

/-- A state that is to be entered, in a match that begins at `origin`. -/
structure Thread where
  origin : Nat
  state : Nat
  deriving DecidableEq, Repr

/-- What the live threads come to at one place. -/
structure Settled where
  /-- The threads that wait for a character, in order of preference. -/
  waiting : List Thread
  /-- Where the match of a thread less preferred than all of these begins, if one accepts. -/
  accepted : Option Nat
  deriving DecidableEq, Repr

variable (a : Automaton)

/-- Follows the threads between two neighbours. `waiting` holds those that wait already, the
latest first. The fuel bounds the number of threads looked at. -/
def settle (before after : Option Char) :
    Nat → Std.HashSet Nat → List Thread → List Thread → Settled
  | 0, _, _, waiting => ⟨waiting.reverse, none⟩
  | _ + 1, _, [], waiting => ⟨waiting.reverse, none⟩
  | fuel + 1, entered, ⟨origin, state⟩ :: threads, waiting =>
    if entered.contains state then settle before after fuel entered threads waiting
    else
      let entered := entered.insert state
      match a.states[state]? with
      | none => settle before after fuel entered threads waiting
      | some .accept => ⟨waiting.reverse, some origin⟩
      | some (.char _ _) | some (.set _ _) =>
        settle before after fuel entered threads (⟨origin, state⟩ :: waiting)
      | some (.look l next) =>
        if l.holds before after then
          settle before after fuel entered (⟨origin, next⟩ :: threads) waiting
        else settle before after fuel entered threads waiting
      | some (.fork first second) =>
        settle before after fuel entered (⟨origin, first⟩ :: ⟨origin, second⟩ :: threads) waiting

/-- What becomes of a waiting thread when a character is read. -/
def read (c : Char) (thread : Thread) : Option Thread :=
  match a.states[thread.state]? with
  | some (.char d next) => if c = d then some { thread with state := next } else none
  | some (.set s next) => if s.contains c then some { thread with state := next } else none
  | _ => none

/-- Enough fuel to settle any live threads: there are no more of them than states and one, and
each state that is entered adds at most two. -/
def fuel : Nat := 3 * a.states.size + 4

/-- The threads that wait at a place, and the best match, from the live threads and the best match
that come to it. Where a match can begin at any place, a thread begins here unless a match has been
found. -/
def arrive (place : Nat) (before after : Option Char) (best : Option Span) (live : List Thread) :
    List Thread × Option Span :=
  let begins := place == 0 || !(a.anchored || best.isSome)
  let live := if begins then live ++ [⟨place, a.start⟩] else live
  let settled := a.settle before after a.fuel ∅ live []
  match settled.accepted with
  | some origin => (settled.waiting, some ⟨origin, place - origin⟩)
  | none => (settled.waiting, best)

/-- Goes on at a place with the live threads and the best match that come to it. -/
def run (place : Nat) (before : Option Char) (best : Option Span) (live : List Thread) :
    List Char → Option Span
  | [] => (a.arrive place before none best live).2
  | c :: rest =>
    let arrived := a.arrive place before (some c) best live
    let live := arrived.1.filterMap (a.read c)
    if live.isEmpty && (a.anchored || arrived.2.isSome) then arrived.2
    else run (place + 1) (some c) arrived.2 live rest

/-- The leftmost match of the text; of several that begin there, the preferred one. -/
def search (t : List Char) : Option Span := a.run 0 none none [] t

end Automaton

end LineGrammar
