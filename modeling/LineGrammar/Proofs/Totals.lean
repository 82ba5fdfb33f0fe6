import LineGrammar.Proofs.Written

/-!
The sum of durations in a summary. Durations are added one after another, each sum in range or none
at all. So there is a total exactly when no sum on the way leaves the range, and then it is the
exact sum of the nanoseconds. The same holds of durations that are kept as whole seconds, rounded
down, and the nanoseconds above them, where a sum carries from the nanoseconds to the seconds and
the bounds of the range have other nanoseconds than the opposite bounds: the two ways of adding
agree at every step, for durations of either sign.

* `Duration.total_eq_none_iff`, `Duration.nanos_of_total`: when there is a total, and which one.
* `Duration.Fields`, `Duration.Fields.add?`: seconds and nanoseconds, and their sums with a carry.
* `Duration.map_fields_add?`, `Duration.map_fields_total`: one sum, and all of them.
* `Report.summary_is_exact_or_absent`: what a summary shows, and when there is none.
-/

namespace LineGrammar

namespace Duration

/-- Whether a number of nanoseconds is that of a duration. -/
def InRange (nanos : Int) : Prop := -longestNanos ≤ nanos ∧ nanos ≤ longestNanos

/-- The exact sum of durations, in nanoseconds. -/
def exactSum : List Duration → Int
  | [] => 0
  | d :: rest => d.nanos + exactSum rest

/-! ### One sum -/

theorem ofNanos?_eq_some_iff {nanos : Int} {d : Duration} :
    ofNanos? nanos = some d ↔ d.nanos = nanos := by
  constructor
  · intro h
    rw [ofNanos?] at h
    split at h
    · cases h
      rfl
    · cases h
  · rintro rfl
    rw [ofNanos?, dif_pos d.inRange]

theorem ofNanos?_eq_none_iff {nanos : Int} : ofNanos? nanos = none ↔ ¬InRange nanos := by
  constructor
  · intro h inRange
    have found : ofNanos? nanos = some ⟨nanos, inRange⟩ := dif_pos inRange
    rw [found] at h
    cases h
  · intro outside
    exact dif_neg outside

/-! ### A running sum -/

section Running

variable (start : Duration) (ds : List Duration)

theorem foldlM_add?_cons (d : Duration) :
    (d :: ds).foldlM add? start = (add? start d).bind fun next => ds.foldlM add? next := rfl

/-- A running sum fails when the exact sum up to some place is out of range. -/
theorem foldlM_add?_eq_none_iff :
    ds.foldlM add? start = none ↔
      ∃ front, front <+: ds ∧ ¬InRange (start.nanos + exactSum front) := by
  induction ds generalizing start with
  | nil =>
    constructor
    · intro h
      cases h
    · rintro ⟨front, isPrefix, outside⟩
      rw [List.prefix_nil.mp isPrefix] at outside
      exact absurd start.inRange (by simpa [exactSum, InRange] using outside)
  | cons d rest ih =>
    rw [foldlM_add?_cons]
    cases hsum : add? start d with
    | none =>
      refine iff_of_true rfl ⟨[d], List.prefix_append [d] rest, ?_⟩
      have outside := ofNanos?_eq_none_iff.mp hsum
      rwa [exactSum, exactSum, Int.add_zero]
    | some next =>
      have hnext : next.nanos = start.nanos + d.nanos := ofNanos?_eq_some_iff.mp hsum
      rw [Option.bind_some, ih]
      constructor
      · rintro ⟨front, isPrefix, outside⟩
        refine ⟨d :: front, (List.prefix_cons_inj d).mpr isPrefix, ?_⟩
        rwa [exactSum, ← Int.add_assoc, ← hnext]
      · rintro ⟨front, isPrefix, outside⟩
        cases front with
        | nil => exact absurd start.inRange (by simpa [exactSum, InRange] using outside)
        | cons first more =>
          obtain ⟨rfl, later⟩ := List.cons_prefix_cons.mp isPrefix
          refine ⟨more, later, ?_⟩
          rwa [exactSum, ← Int.add_assoc, ← hnext] at outside

/-- A running sum that succeeds is exact. -/
theorem nanos_of_foldlM_add? {total : Duration} (h : ds.foldlM add? start = some total) :
    total.nanos = start.nanos + exactSum ds := by
  induction ds generalizing start with
  | nil =>
    cases h
    exact (Int.add_zero _).symm
  | cons d rest ih =>
    rw [foldlM_add?_cons] at h
    obtain ⟨next, hsum, hrest⟩ := Option.bind_eq_some_iff.mp h
    rw [ih next hrest, ofNanos?_eq_some_iff.mp hsum, exactSum, Int.add_assoc]

end Running

/-- There is no total when the exact sum of the first durations is out of range, for some number of
them. -/
theorem total_eq_none_iff {ds : List Duration} :
    total ds = none ↔ ∃ front, front <+: ds ∧ ¬InRange (exactSum front) := by
  rw [total, foldlM_add?_eq_none_iff]
  simp only [zero, Int.zero_add]

theorem nanos_of_total {ds : List Duration} {t : Duration} (h : total ds = some t) :
    t.nanos = exactSum ds := by
  rw [nanos_of_foldlM_add? zero ds h]
  exact Int.zero_add _

/-! ### Seconds and nanoseconds -/

/-- Whole seconds, rounded down, and the nanoseconds above them. -/
structure Fields where
  seconds : Int
  nanos : Nat
  nanos_lt : nanos < 1000000000 := by decide
  deriving DecidableEq, Repr

/-- A duration in seconds and nanoseconds. -/
def fields (d : Duration) : Fields where
  seconds := d.nanos / 1000000000
  nanos := (d.nanos % 1000000000).toNat
  nanos_lt := by omega

namespace Fields

/-- The nanoseconds altogether. -/
def exact (f : Fields) : Int := f.seconds * 1000000000 + f.nanos

/-- The sum; a second that is complete in the nanoseconds is carried. -/
def add (f g : Fields) : Fields :=
  if h : f.nanos + g.nanos < 1000000000 then ⟨f.seconds + g.seconds, f.nanos + g.nanos, h⟩
  else ⟨f.seconds + g.seconds + 1, f.nanos + g.nanos - 1000000000, by
    have := f.nanos_lt
    have := g.nanos_lt
    omega⟩

/-- Seconds decide, and then nanoseconds. -/
def le (f g : Fields) : Bool :=
  f.seconds < g.seconds || (f.seconds == g.seconds && f.nanos ≤ g.nanos)

/-- The lowest duration. -/
def lowest : Fields := { seconds := -9223372036854776, nanos := 193000000 }

/-- The highest duration. -/
def highest : Fields := { seconds := 9223372036854775, nanos := 807000000 }

/-- The sum, if it is in range. -/
def add? (f g : Fields) : Option Fields :=
  let sum := f.add g
  if lowest.le sum && sum.le highest then some sum else none

variable {f g : Fields}

theorem exact_add (f g : Fields) : (f.add g).exact = f.exact + g.exact := by
  rw [add]
  split <;> simp only [exact] <;> omega

theorem le_iff : f.le g = true ↔ f.exact ≤ g.exact := by
  have hf := f.nanos_lt
  have hg := g.nanos_lt
  simp only [le, exact, Bool.or_eq_true, Bool.and_eq_true, decide_eq_true_eq, beq_iff_eq]
  omega

theorem eq_of_exact_eq (h : f.exact = g.exact) : f = g := by
  obtain ⟨seconds, nanos, nanos_lt⟩ := f
  obtain ⟨seconds', nanos', nanos_lt'⟩ := g
  simp only [exact] at h
  obtain rfl : seconds = seconds' := by omega
  obtain rfl : nanos = nanos' := by omega
  rfl

end Fields

theorem exact_fields (d : Duration) : d.fields.exact = d.nanos := by
  simp only [fields, Fields.exact]
  omega

/-- A sum in seconds and nanoseconds is in range when its exact value is. -/
theorem inRange_exact_iff {f : Fields} :
    (Fields.lowest.le f && f.le Fields.highest) = true ↔ InRange f.exact := by
  rw [Bool.and_eq_true, Fields.le_iff, Fields.le_iff]
  rfl

/-- **One sum.** Adding with a carry is adding the nanoseconds. -/
theorem map_fields_add? (a b : Duration) :
    (add? a b).map fields = Fields.add? a.fields b.fields := by
  have value : (a.fields.add b.fields).exact = a.nanos + b.nanos := by
    rw [Fields.exact_add, exact_fields, exact_fields]
  rw [Fields.add?]
  cases hsum : add? a b with
  | none =>
    have outside := ofNanos?_eq_none_iff.mp hsum
    rw [← value, ← inRange_exact_iff] at outside
    rw [if_neg outside]
    rfl
  | some sum =>
    have hsum : sum.nanos = a.nanos + b.nanos := ofNanos?_eq_some_iff.mp hsum
    have inside := sum.inRange
    rw [hsum, ← value] at inside
    rw [if_pos (inRange_exact_iff.mpr inside), Option.map_some, Option.some.injEq]
    exact Fields.eq_of_exact_eq (by rw [exact_fields, value, hsum])

/-- **All of them.** The total in seconds and nanoseconds is the running sum of the durations in
seconds and nanoseconds. -/
theorem map_fields_total (ds : List Duration) :
    (total ds).map fields = (ds.map fields).foldlM Fields.add? zero.fields := by
  have running (start : Duration) : (ds.foldlM add? start).map fields =
      (ds.map fields).foldlM Fields.add? start.fields := by
    induction ds generalizing start with
    | nil => rfl
    | cons d rest ih =>
      rw [foldlM_add?_cons, List.map_cons, List.foldlM_cons, ← map_fields_add?]
      cases add? start d with
      | none => rfl
      | some next => exact ih next
  exact running zero

end Duration

/-! ### Summaries -/

/-- A piece as it is shown, with `clock` for what is read off the clock when it is written. -/
def Piece.shown (clock : Text) : Piece → Text
  | text t => t
  | duration d => d.format
  | elapsed | stamp => clock

namespace Report

/-- The exact sum of what the results took, in nanoseconds. -/
def exactNanos (results : List TimedResult) : Int :=
  Duration.exactSum (results.map TimedResult.duration)

/-- A summary of so many lines, as it is shown. -/
def summaryText (parsed failed : Nat) (total clock : Text) : Text :=
  "\n--- Summary ---\nLines: ".toList ++ Text.ofNat parsed ++ " parsed, ".toList ++
    Text.ofNat failed ++ " failed\nTotal parse time: ".toList ++ total ++
    "\nElapsed wall-clock time: ".toList ++ clock ++ "\n".toList

/-- Every result is a success or a failure. -/
theorem countP_add_failures (results : List TimedResult) :
    results.countP (fun r => !r.result.isFailure) +
      LineResult.failures (results.map TimedResult.result) = results.length := by
  have all : results.length = _ :=
    List.length_eq_countP_add_countP fun r : TimedResult => r.result.isFailure
  have successes : results.countP (fun r => decide ¬r.result.isFailure = true) =
      results.countP fun r => !r.result.isFailure :=
    List.countP_congr fun r _ => by simp
  rw [all, successes, Nat.add_comm, LineResult.failures, List.countP_map]
  rfl

theorem flatMap_shown (a b c clock : Text) (d : Duration) :
    [.text a, .duration d, .text b, .elapsed, .text c].flatMap (Piece.shown clock) =
      a ++ d.format ++ b ++ clock ++ c := by
  simp [Piece.shown]

theorem shown_summaryOf (results : List TimedResult) (total : Duration) (clock : Text) :
    (summaryOf results total).pieces.flatMap (Piece.shown clock) =
      summaryText (results.countP fun r => !r.result.isFailure)
        (LineResult.failures (results.map TimedResult.result)) total.format clock := by
  have parsed := countP_add_failures results
  have rest : results.length - LineResult.failures (results.map TimedResult.result) =
      results.countP fun r => !r.result.isFailure := by omega
  rw [summaryOf, rest]
  exact flatMap_shown _ _ _ clock total

theorem summary_eq_none_iff {results : List TimedResult} :
    summary false results = none ↔
      ∃ front, front <+: results ∧ ¬Duration.InRange (exactNanos front) := by
  rw [summary, if_neg Bool.false_ne_true, Option.map_eq_none_iff, Duration.total_eq_none_iff]
  constructor
  · rintro ⟨front, isPrefix, outside⟩
    obtain ⟨first, hfirst, rfl⟩ := List.prefix_map_iff.mp isPrefix
    exact ⟨first, hfirst, outside⟩
  · rintro ⟨front, isPrefix, outside⟩
    exact ⟨_, isPrefix.map TimedResult.duration, outside⟩

/-- **The total of a summary is exact, or there is no summary.** A quiet report ends with nothing
and never fails. Another one fails exactly when the exact sum of the first results is out of range,
for some number of them; then nothing is put out after the results, and the program ends with the
status of an overflow. Otherwise the summary is a write to the output channel that shows the exact
sum as a duration, and how many results are successes and how many failures, all of them together.
In seconds and nanoseconds the sum is the one that carries from result to result. -/
theorem summary_is_exact_or_absent (results : List TimedResult) :
    summary true results = some [] ∧
    (summary false results = none ↔
      ∃ front, front <+: results ∧ ¬Duration.InRange (exactNanos front)) ∧
    (∀ lap run answers, run.outcome = .ok answers → Program.timed lap answers = results →
      (Program.conclusion true lap run).2 ≠ 101 ∧
      (summary false results = none →
        Program.written .out (Program.conclusion false lap run).1 = [] ∧
          (Program.conclusion false lap run).2 = 101)) ∧
    ∀ writes, summary false results = some writes →
      ∃ total : Duration, ∃ parsed failed : Nat,
        total.nanos = exactNanos results ∧
        some total.fields = (results.map fun r => r.duration.fields).foldlM Duration.Fields.add?
          Duration.zero.fields ∧
        parsed = results.countP (fun r => !r.result.isFailure) ∧
        failed = results.countP (fun r => r.result.isFailure) ∧
        parsed + failed = results.length ∧
        ∃ w, writes = [w] ∧ w.channel = .out ∧
          ∀ clock, w.pieces.flatMap (Piece.shown clock) =
            summaryText parsed failed total.format clock := by
  refine ⟨rfl, summary_eq_none_iff, ?_, ?_⟩
  · rintro lap run answers outcome rfl
    constructor
    · have concluded : Program.conclusion true lap run = _ := Program.conclusion_eq nofun
      rw [concluded, Program.closing, outcome]
      dsimp only
      split
      · exact (by decide : (0 : Nat) ≠ 101)
      · exact (by decide : (1 : Nat) ≠ 101)
    · intro absent
      rw [Program.conclusion, outcome]
      dsimp only
      rw [absent]
      exact ⟨rfl, rfl⟩
  · intro writes h
    rw [summary, if_neg Bool.false_ne_true] at h
    obtain ⟨total, htotal, rfl⟩ := Option.map_eq_some_iff.mp h
    have carried := Duration.map_fields_total (results.map TimedResult.duration)
    rw [htotal, List.map_map] at carried
    have failed : results.countP (fun r => r.result.isFailure) =
        LineResult.failures (results.map TimedResult.result) := by
      rw [LineResult.failures, List.countP_map]
      rfl
    refine ⟨total, _, _, Duration.nanos_of_total htotal, carried, rfl, rfl, ?_, _, rfl, rfl, ?_⟩
    · rw [failed]
      exact countP_add_failures results
    · intro clock
      rw [failed]
      exact shown_summaryOf results total clock

/-- The longest duration, and a nanosecond there and back: with the longer sum on the way there is
no summary, with the shorter one the total is the longest duration again. -/
theorem summary_is_exact_or_absent_by_order :
    let longest : TimedResult := ⟨⟨1, .ok []⟩, .longest⟩
    let up : TimedResult := ⟨⟨2, .ok []⟩, ⟨1, by decide⟩⟩
    let down : TimedResult := ⟨⟨3, .ok []⟩, ⟨-1, by decide⟩⟩
    summary false [longest, up, down] = none ∧
      ∃ writes, summary false [longest, down, up] = some writes ∧
        ∃ total : Duration, total.nanos = longestNanos ∧ ∃ w, writes = [w] ∧ ∀ clock,
          w.pieces.flatMap (Piece.shown clock) = summaryText 3 0 total.format clock := by
  intro longest up down
  have outside : ¬Duration.InRange (exactNanos [longest, up]) := by
    unfold Duration.InRange
    decide
  refine ⟨(summary_is_exact_or_absent _).2.1.mpr ⟨[longest, up], ⟨[down], rfl⟩, outside⟩, ?_⟩
  refine ⟨_, rfl, ?_⟩
  obtain ⟨total, parsed, failed, value, -, rfl, rfl, -, w, hw, -, shown⟩ :=
    (summary_is_exact_or_absent [longest, down, up]).2.2.2 _ rfl
  exact ⟨total, value, w, hw, shown⟩

end Report

end LineGrammar
