import LineGrammar.Command.Arguments
import Mathlib.Data.List.Pairwise

/-!
Command lines are read whatever their order and spelling. A command line is written part by part:
the input path, the option for the grammar in one of five forms, flags by their names, and flags by
their letters, as many of them behind one hyphen as one likes. Each part makes requests; a reading
grants them one after another, and two requests that do not ask for the same thing may be granted in
either order.

* `Arguments.Part`, `Arguments.Part.words`, `Arguments.Part.requests`: the parts of a command line,
  how they are written and what they ask for.
* `Arguments.Reading.Ready`: a reading that stands, up to a value not yet looked at, for another.
* `Arguments.Reading.read_part`, `Arguments.Reading.read_parts`: one part and a whole command line
  grant what they ask for.
* `Arguments.Reading.foldl_grant_perm`: the order of the requests is of no account.
* `Arguments.parse_written` puts them together.
-/

namespace LineGrammar

namespace Arguments

/-! ### Requests and how they are written -/

/-- One thing that a command line asks for. -/
inductive Request where
  | input (path : Text)
  | grammar (g : Grammar)
  | flag (f : Flag)
  deriving DecidableEq, Repr

/-- The letter of a flag, behind one hyphen. -/
def Flag.letter : Flag → Char
  | keepGoing => 'k'
  | quiet => 'q'
  | verbose => 'v'
  | help => 'h'
  | version => 'V'

/-- The name of a flag, behind two hyphens. -/
def Flag.name : Flag → Text
  | keepGoing => "keep-going".toList
  | quiet => "quiet".toList
  | verbose => "verbose".toList
  | help => "help".toList
  | version => "version".toList

/-- The forms of the option for the grammar: by its letter or its name, and with its value apart
from it, attached to it or behind an equals sign. -/
inductive Form where
  | letterApart
  | letterAttached
  | letterEquals
  | nameApart
  | nameEquals
  deriving DecidableEq, Repr

/-- The option for the grammar with its value. -/
def Form.words (value : Text) : Form → List Text
  | letterApart => ["-g".toList, value]
  | letterAttached => ["-g".toList ++ value]
  | letterEquals => ["-g=".toList ++ value]
  | nameApart => ["--grammar".toList, value]
  | nameEquals => ["--grammar=".toList ++ value]

/-- A part of a command line. The letters of several flags may share a hyphen. -/
inductive Part where
  | input (path : Text)
  | grammar (form : Form) (g : Grammar)
  | letters (first : Flag) (more : List Flag)
  | name (f : Flag)
  deriving DecidableEq, Repr

namespace Part

/-- How a part is written. -/
def words : Part → List Text
  | input path => [path]
  | grammar form g => form.words g.argument
  | letters first more => ['-' :: (first :: more).map Flag.letter]
  | name f => ["--".toList ++ f.name]

/-- What a part asks for. -/
def requests : Part → List Request
  | input path => [.input path]
  | grammar _ g => [.grammar g]
  | letters first more => (first :: more).map .flag
  | name f => [.flag f]

end Part

/-- The requests for a check in one order: the input, the grammar if one is given, each of two flags
or not, and so many requests for more log output. -/
def inOrder (path : Text) (given : Option Grammar) (keepGoing quiet : Bool) (louder : Nat) :
    List Request :=
  .input path :: given.toList.map .grammar ++ (if keepGoing then [.flag .keepGoing] else []) ++
    (if quiet then [.flag .quiet] else []) ++ List.replicate louder (.flag .verbose)

/-- The requests for a check in any order; the usual grammar may be left out. -/
def Asks (path : Text) (grammar : Grammar) (keepGoing quiet : Bool) (louder : Nat)
    (requests : List Request) : Prop :=
  ∃ given : Option Grammar, given.getD .network = grammar ∧
    requests.Perm (inOrder path given keepGoing quiet louder)

/-- Two requests that may stand on one command line: they do not ask for the same thing, or for more
log output both. -/
def Apart : Request → Request → Prop
  | .input _, .input _ => False
  | .grammar _, .grammar _ => False
  | .flag f, .flag f' => f = f' → f = .verbose
  | _, _ => True

instance : Std.Symm Apart where
  symm a b h := by
    cases a with
    | input => cases b <;> exact h
    | grammar => cases b <;> exact h
    | flag f =>
      cases b with
      | input | grammar => exact h
      | flag f' =>
        intro same
        rw [same]
        exact h same.symm

namespace Reading

/-! ### What is granted -/

/-- What a reading becomes when it grants a request. -/
def grant (t : Reading) : Request → Reading
  | .input path => { t with input := some path, placed := true }
  | .grammar g => { t with grammar := some g }
  | .flag .keepGoing => { t with keepGoing := true }
  | .flag .quiet => { t with quiet := true }
  | .flag .verbose => { t with verbosity := min (t.verbosity + 1) 255 }
  | .flag .help | .flag .version => t

/-- Whether a reading grants a request. -/
def Accepts (t : Reading) : Request → Prop
  | .input path => t.placed = false ∧ path ≠ [] ∧ path.head? ≠ some '-'
  | .grammar _ => t.grammar = none
  | .flag .keepGoing => t.keepGoing = false
  | .flag .quiet => t.quiet = false
  | .flag .verbose => True
  | .flag .help | .flag .version => False

/-- Whether a reading grants requests one after another. -/
def AcceptsAll : Reading → List Request → Prop
  | _, [] => True
  | t, r :: later => t.Accepts r ∧ AcceptsAll (t.grant r) later

variable {s t : Reading} {a b r : Request} {requests : List Request}

theorem grant_comm (apart : Apart a b) (t : Reading) :
    (t.grant a).grant b = (t.grant b).grant a := by
  cases a with
  | input path =>
    cases b with
    | input => cases apart
    | grammar => rfl
    | flag f => cases f <;> rfl
  | grammar g =>
    cases b with
    | input => rfl
    | grammar => cases apart
    | flag f => cases f <;> rfl
  | flag f =>
    cases b with
    | input | grammar => cases f <;> rfl
    | flag f' => cases f <;> cases f' <;> rfl

/-- Granting one request has no part in whether another one is granted. -/
theorem accepts_grant (apart : Apart a b) (h : t.Accepts b) : (t.grant a).Accepts b := by
  cases a with
  | input path =>
    cases b with
    | input => cases apart
    | grammar => exact h
    | flag f => cases f <;> exact h
  | grammar g =>
    cases b with
    | input => exact h
    | grammar => cases apart
    | flag f => cases f <;> exact h
  | flag f =>
    cases b with
    | input | grammar => cases f <;> exact h
    | flag f' =>
      by_cases same : f = f'
      · -- The only flag that may be given again is the one for more log output.
        subst same
        rw [apart rfl]
        trivial
      · cases f <;> cases f' <;> try exact h
        all_goals exact absurd rfl same

theorem acceptsAll_of_pairwise (each : ∀ r ∈ requests, t.Accepts r)
    (apart : requests.Pairwise Apart) : t.AcceptsAll requests := by
  induction requests generalizing t with
  | nil => trivial
  | cons r later ih =>
    obtain ⟨first, apart⟩ := List.pairwise_cons.mp apart
    refine ⟨each r List.mem_cons_self, ih ?_ apart⟩
    intro other mem
    exact accepts_grant (first other mem) (each other (List.mem_cons_of_mem r mem))

theorem acceptsAll_append {later : List Request} :
    t.AcceptsAll (requests ++ later) ↔
      t.AcceptsAll requests ∧ (requests.foldl grant t).AcceptsAll later := by
  induction requests generalizing t with
  | nil => exact ⟨fun h => ⟨trivial, h⟩, fun h => h.2⟩
  | cons r requests ih =>
    rw [List.cons_append, AcceptsAll, ih, AcceptsAll, List.foldl_cons, and_assoc]

/-- **The order of requests is of no account** for what has been granted in the end. -/
theorem foldl_grant_perm {other : List Request} (same : requests.Perm other)
    (apart : requests.Pairwise Apart) (t : Reading) :
    requests.foldl grant t = other.foldl grant t := by
  refine same.foldl_eq' ?_ t
  intro a ha b hb t
  by_cases equal : a = b
  · rw [equal]
  · exact grant_comm (apart.forall ha hb equal) t

/-! ### Pending values -/

/-- A reading that becomes another one when it looks at its pending value, and that waits for no
value. -/
structure Ready (s t : Reading) : Prop where
  settles : s.settle = .ok t
  notAwaited : s.pending ≠ .awaited
  notEnded : s.ended = false

/-- Looking at a value leaves nothing pending and changes none of the marks. -/
theorem marks_of_settle (h : s.settle = .ok t) :
    t.pending = .none ∧ t.placed = s.placed ∧ t.ended = s.ended := by
  rw [settle] at h
  cases hpending : s.pending with
  | none =>
    rw [hpending] at h
    cases h
    exact ⟨rfl, rfl, rfl⟩
  | awaited =>
    rw [hpending] at h
    cases h
  | grammar value =>
    rw [hpending] at h
    dsimp only [takeGrammar] at h
    split at h
    · cases h
    · split at h
      · cases h
        exact ⟨rfl, rfl, rfl⟩
      · cases h
  | input value =>
    rw [hpending] at h
    dsimp only at h
    split at h
    · cases h
    · cases h
      exact ⟨rfl, rfl, rfl⟩

theorem Ready.settled (h : Ready s t) :
    t.pending = .none ∧ t.placed = s.placed ∧ t.ended = false := by
  obtain ⟨pending, placed, ended⟩ := marks_of_settle h.settles
  exact ⟨pending, placed, ended.trans h.notEnded⟩

/-- A reading with nothing pending stands for itself. -/
theorem ready_self (pending : t.pending = .none) (ended : t.ended = false) : Ready t t where
  settles := by
    obtain ⟨_, _, _, _, _, _, _, _⟩ := t
    cases pending
    rfl
  notAwaited := by rw [pending]; nofun
  notEnded := ended

theorem ready_grant (h : Ready s t) (r : Request) : Ready (t.grant r) (t.grant r) := by
  obtain ⟨pending, -, ended⟩ := h.settled
  cases r with
  | input | grammar => exact ready_self pending ended
  | flag f => cases f <;> exact ready_self pending ended

/-! ### Options -/

/-- A flag is raised when it is granted. -/
theorem raise_eq_ok {f : Flag} (h : Ready s t) (accepted : t.Accepts (.flag f)) :
    s.raise f = .ok (t.grant (.flag f)) := by
  have settled : s.raise f = _ := congrArg (· >>= _) h.settles
  rw [settled]
  cases f with
  | keepGoing => exact if_neg (Bool.eq_false_iff.mp accepted)
  | quiet => exact if_neg (Bool.eq_false_iff.mp accepted)
  | verbose => rfl
  | help | version => cases accepted

theorem letters_cons (s : Reading) (f : Flag) (more : Text) :
    s.letters (f.letter :: more) = (s.raise f).bind fun next => next.letters more := by
  cases f <;> rfl

/-- Letters behind one hyphen raise their flags one after another. -/
theorem read_letters {flags : List Flag} (h : Ready s t)
    (accepted : t.AcceptsAll (flags.map .flag)) :
    ∃ s', s.letters (flags.map Flag.letter) = .ok s' ∧
      Ready s' ((flags.map Request.flag).foldl grant t) := by
  induction flags generalizing s t with
  | nil => exact ⟨s, rfl, h⟩
  | cons f flags ih =>
    obtain ⟨first, later⟩ := accepted
    obtain ⟨s', read, ready⟩ := ih (ready_grant h (.flag f)) later
    refine ⟨s', ?_, ready⟩
    rw [List.map_cons, letters_cons, raise_eq_ok h first]
    exact read

theorem ofArgument?_argument (g : Grammar) : Grammar.ofArgument? g.argument = some g := by
  cases g <;> decide

theorem takeGrammar_eq_ok (g : Grammar) (accepted : t.Accepts (.grammar g)) :
    t.takeGrammar g.argument = .ok (t.grant (.grammar g)) := by
  have free : ¬t.grammar.isSome = true := by
    rw [show t.grammar = none from accepted]
    nofun
  rw [takeGrammar, if_neg free, ofArgument?_argument]
  rfl

/-- A value attached to the option for the grammar is looked at at once. -/
theorem attachGrammar_eq_ok (g : Grammar) (h : Ready s t) (accepted : t.Accepts (.grammar g)) :
    s.attachGrammar g.argument = .ok (t.grant (.grammar g)) := by
  have settled : s.attachGrammar g.argument = _ := congrArg (· >>= _) h.settles
  rw [settled]
  exact takeGrammar_eq_ok g accepted

/-- What does not begin with a hyphen is no option. -/
theorem argument_plain {value : Text} (notEnded : s.ended = false) (named : value ≠ [])
    (plain : value.head? ≠ some '-') : s.argument value = s.plain value := by
  obtain ⟨c, rest, rfl⟩ := List.exists_cons_of_ne_nil named
  have other : c ≠ '-' := fun same => plain (congrArg some same)
  have notOption {more : Text} : c :: rest ≠ '-' :: more := fun same => other (List.cons.inj same).1
  unfold argument
  rw [notEnded, if_neg Bool.false_ne_true]
  split
  · next same => exact absurd same notOption
  · next same => exact absurd same notOption
  · rfl
  · next same => exact absurd same notOption
  · rfl

/-- An option by its letter. -/
theorem argument_letters (notEnded : s.ended = false) (f : Flag) (more : Text) :
    s.argument ('-' :: f.letter :: more) = s.letters (f.letter :: more) := by
  unfold argument
  rw [notEnded, if_neg Bool.false_ne_true]
  cases f <;> rfl

/-- The grammar by its letter or its name, with the value attached. -/
theorem argument_attached (notEnded : s.ended = false) (g : Grammar) :
    s.argument ("-g".toList ++ g.argument) = s.attachGrammar g.argument ∧
    s.argument ("-g=".toList ++ g.argument) = s.attachGrammar g.argument ∧
    s.argument ("--grammar=".toList ++ g.argument) = s.attachGrammar g.argument := by
  unfold argument
  rw [notEnded]
  refine ⟨?_, ?_, ?_⟩ <;> cases g <;> rfl

/-- The grammar by its letter or its name, with the value still to come. -/
theorem argument_apart (notEnded : s.ended = false) :
    s.argument "-g".toList = s.awaitGrammar ∧ s.argument "--grammar".toList = s.awaitGrammar := by
  unfold argument
  rw [notEnded]
  exact ⟨rfl, rfl⟩

/-- A flag by its name. -/
theorem argument_name (notEnded : s.ended = false) (f : Flag) :
    s.argument ("--".toList ++ f.name) = s.raise f := by
  unfold argument
  rw [notEnded]
  cases f <;> rfl

/-! ### One part -/

/-- The path is kept until the next known part begins. -/
theorem read_input {path : Text} (h : Ready s t) (accepted : t.Accepts (.input path)) :
    ∃ s', s.argument path = .ok s' ∧ Ready s' (t.grant (.input path)) := by
  obtain ⟨free, named, hyphen⟩ := accepted
  obtain ⟨pending, placed, ended⟩ := h.settled
  have notAwaited : ¬(s.pending = .awaited ∧ s.ended = false) := fun both => h.notAwaited both.1
  have notPlaced : ¬s.placed = true := by
    rw [← placed, free]
    exact Bool.false_ne_true
  refine ⟨{ t with pending := .input path, placed := true }, ?_, ?_, nofun, ended⟩
  · rw [argument_plain h.notEnded named hyphen, Reading.plain, if_neg notAwaited, if_neg notPlaced,
      h.settles]
    rfl
  · have nonempty : ¬path.isEmpty = true := by
      rw [List.isEmpty_iff]
      exact named
    rw [settle]
    dsimp only
    rw [if_neg nonempty, grant, pending]

/-- The value that the option for the grammar waits for is kept in the same way. -/
theorem read_awaited {g : Grammar} (h : Ready s t) (accepted : t.Accepts (.grammar g)) :
    ∃ s', (s.awaitGrammar >>= fun next => next.argument g.argument) = .ok s' ∧
      Ready s' (t.grant (.grammar g)) := by
  obtain ⟨pending, -, ended⟩ := h.settled
  have awaits : s.awaitGrammar = .ok { t with pending := .awaited } := by
    rw [awaitGrammar, h.settles]
    rfl
  refine ⟨{ t with pending := .grammar g.argument }, ?_, ?_, nofun, ended⟩
  · have value : g.argument ≠ [] ∧ g.argument.head? ≠ some '-' := by
      cases g <;> decide
    rw [awaits]
    refine (argument_plain ?_ value.1 value.2).trans ?_
    · exact ended
    · exact if_pos ⟨rfl, ended⟩
  · rw [settle]
    dsimp only
    rw [← pending]
    exact takeGrammar_eq_ok g accepted

theorem read_grammar (form : Form) {g : Grammar} (h : Ready s t)
    (accepted : t.Accepts (.grammar g)) :
    ∃ s', (form.words g.argument).foldlM argument s = .ok s' ∧ Ready s' (t.grant (.grammar g)) := by
  obtain ⟨attached, equals, nameEquals⟩ := argument_attached h.notEnded g
  obtain ⟨letter, name⟩ := argument_apart h.notEnded
  have now := attachGrammar_eq_ok g h accepted
  have ready := ready_grant h (.grammar g)
  cases form <;> simp only [Form.words, List.foldlM_cons, List.foldlM_nil, bind_pure]
  case letterApart =>
    rw [letter]
    exact read_awaited h accepted
  case nameApart =>
    rw [name]
    exact read_awaited h accepted
  case letterAttached => exact ⟨_, attached.trans now, ready⟩
  case letterEquals => exact ⟨_, equals.trans now, ready⟩
  case nameEquals => exact ⟨_, nameEquals.trans now, ready⟩

/-- **A part grants what it asks for.** -/
theorem read_part (part : Part) (h : Ready s t) (accepted : t.AcceptsAll part.requests) :
    ∃ s', part.words.foldlM argument s = .ok s' ∧ Ready s' (part.requests.foldl grant t) := by
  cases part with
  | input path =>
    obtain ⟨s', read, ready⟩ := read_input h accepted.1
    exact ⟨s', (bind_pure _).trans read, ready⟩
  | grammar form g => exact read_grammar form h accepted.1
  | letters first more =>
    obtain ⟨s', read, ready⟩ := read_letters h accepted
    exact ⟨s', ((bind_pure _).trans (argument_letters h.notEnded first _)).trans read, ready⟩
  | name f =>
    refine ⟨_, (bind_pure _).trans ?_, ready_grant h (.flag f)⟩
    rw [argument_name h.notEnded, raise_eq_ok h accepted.1]

/-- **A command line grants what its parts ask for**, one after another. -/
theorem read_parts (parts : List Part) (h : Ready s t)
    (accepted : t.AcceptsAll (parts.flatMap Part.requests)) :
    ∃ s', (parts.flatMap Part.words).foldlM argument s = .ok s' ∧
      Ready s' ((parts.flatMap Part.requests).foldl grant t) := by
  induction parts generalizing s t with
  | nil => exact ⟨s, rfl, h⟩
  | cons part parts ih =>
    rw [List.flatMap_cons, acceptsAll_append] at accepted
    obtain ⟨next, first, ready⟩ := read_part part h accepted.1
    obtain ⟨s', later, ready⟩ := ih ready accepted.2
    refine ⟨s', ?_, ?_⟩
    · rw [List.flatMap_cons, List.foldlM_append, first]
      exact later
    · rw [List.flatMap_cons, List.foldl_append]
      exact ready

/-! ### The requests for a check -/

variable {path : Text} {grammar : Grammar} {given : Option Grammar} {keepGoing quiet : Bool}
  {louder : Nat}

theorem foldl_grant_replicate (t : Reading) (low : t.verbosity ≤ 255) :
    (List.replicate louder (.flag .verbose)).foldl grant t =
      { t with verbosity := min (t.verbosity + louder) 255 } := by
  induction louder generalizing t with
  | zero => rw [Nat.add_zero, Nat.min_eq_left low]; rfl
  | succ louder ih =>
    rw [List.replicate_succ, List.foldl_cons, ih _ (Nat.min_le_right _ _)]
    simp only [grant, mk.injEq, true_and, and_true]
    omega

theorem foldl_grant_inOrder :
    (inOrder path given keepGoing quiet louder).foldl grant {} =
      { input := path, grammar := given, keepGoing, quiet, verbosity := min louder 255,
        placed := true } := by
  rw [inOrder, List.foldl_append, foldl_grant_replicate]
  · cases given <;> cases keepGoing <;> cases quiet <;> simp [grant]
  · cases given <;> cases keepGoing <;> cases quiet <;> simp [grant]

theorem pairwise_inOrder : (inOrder path given keepGoing quiet louder).Pairwise Apart := by
  cases given <;> cases keepGoing <;> cases quiet <;>
    simp [inOrder, Apart]

theorem accepts_of_mem_inOrder (named : path ≠ []) (plain : path.head? ≠ some '-') :
    ∀ r ∈ inOrder path given keepGoing quiet louder, Accepts {} r := by
  intro r mem
  simp only [inOrder, List.mem_append, List.mem_cons, List.mem_map, List.mem_replicate] at mem
  rcases mem with (((rfl | ⟨g, -, rfl⟩) | mem) | mem) | ⟨-, rfl⟩
  · exact ⟨rfl, named, plain⟩
  · rfl
  · cases keepGoing <;> simp_all [Accepts]
  · cases quiet <;> simp_all [Accepts]
  · trivial

end Reading

/-- **A command line is read as what it asks for**, in any order and spelling. Its parts name the
input once, a text that is not empty and does not begin with a hyphen; they name the grammar once,
in any form, or leave out the usual one; they raise each of two flags once or not at all, and ask
for more log output as often as they like. The reading succeeds with exactly that, and counts the
requests for more log output up to 255. -/
theorem parse_written (path : Text) (grammar : Grammar) (keepGoing quiet : Bool) (louder : Nat)
    (parts : List Part) (named : path ≠ []) (plain : path.head? ≠ some '-')
    (asks : Asks path grammar keepGoing quiet louder (parts.flatMap Part.requests)) :
    parse (parts.flatMap Part.words) = .ok ⟨path, grammar, keepGoing, quiet, min louder 255⟩ := by
  obtain ⟨given, rfl, same⟩ := asks
  have apart : (parts.flatMap Part.requests).Pairwise Apart :=
    (same.pairwise_iff (Std.Symm.symm _ _)).mpr Reading.pairwise_inOrder
  have accepted : Reading.AcceptsAll {} (parts.flatMap Part.requests) :=
    Reading.acceptsAll_of_pairwise
      (fun r mem => Reading.accepts_of_mem_inOrder named plain r (same.subset mem)) apart
  obtain ⟨s, read, ready⟩ := Reading.read_parts parts (Reading.ready_self rfl rfl) accepted
  rw [Reading.foldl_grant_perm same apart, Reading.foldl_grant_inOrder] at ready
  rw [parse, read]
  change s.finish = _
  rw [Reading.finish, ready.settles]
  rfl

/-- Three flags behind one hyphen, the path between options, and a flag both by letter and name. -/
theorem parse_written_of_cluster :
    parse ["-kvv".toList, "--grammar=nodes".toList, "day08.txt".toList, "--verbose".toList,
      "-q".toList] = .ok ⟨"day08.txt".toList, .nodes, true, true, 3⟩ :=
  parse_written "day08.txt".toList .nodes true true 3
    [.letters .keepGoing [.verbose, .verbose], .grammar .nameEquals .nodes,
      .input "day08.txt".toList, .name .verbose, .letters .quiet []]
    (by decide) (by decide) ⟨some .nodes, rfl, by decide⟩

end Arguments

end LineGrammar
