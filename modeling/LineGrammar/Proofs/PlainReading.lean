import LineGrammar.Proofs.Anchoring
import LineGrammar.Proofs.AsciiSets
import LineGrammar.Proofs.WordSearch

/-!
Reading expressions of ASCII letters and digits. Each of these characters stands for itself, in a
bracket and outside. A word of them adds a literal of one character after another to the branch that
is being read, and they become one literal where the branch ends; a bracket of them is the set of
its characters, and a plus sign behind it repeats the set. The group and the anchor around an
expression add their own parts to what has been read.

* `Regex.readFrom_word`, `Regex.readBracketIn_chars`: the characters of a word and of a bracket.
* `Regex.readFrom_close`: the end of the group.
* `Regex.read_anchored_word`, `Regex.read_anchored_bracket`: the whole expressions.
-/

namespace LineGrammar.Regex

open Pattern (anchored anchorGroup)

variable {c : Char} {w cs : Text} {fuel : Nat} {s : Reading}

/-! ### One character -/

theorem toNat_lt_of_isAlphanum (plain : c.isAlphanum = true) : c.toNat < 0x80 := by
  rcases Bool.or_eq_true_iff.mp plain with letter | digit
  · have range := toNat_of_isAlpha letter
    omega
  · have last : c.toNat ≤ 57 := of_decide_eq_true (Bool.and_eq_true_iff.mp digit).2
    omega

/-- A letter or digit is none of the characters with a meaning of their own. -/
theorem ne_of_isAlphanum {d : Char} (plain : c.isAlphanum = true) (other : d.isAlphanum = false) :
    c ≠ d := by
  rintro rfl
  rw [plain] at other
  cases other

theorem readAtom_plain (flags : Flags) (plain : c.isAlphanum = true) (rest : Text) :
    readAtom flags (c :: rest) = .ok (.char c, rest) := by
  rw [readAtom]
  exact ne_of_isAlphanum plain (by decide)

theorem repetitionOf?_plain (plain : c.isAlphanum = true) : repetitionOf? c = none := by
  rw [repetitionOf?]
  · exact ne_of_isAlphanum plain (by decide)
  · exact ne_of_isAlphanum plain (by decide)
  · exact ne_of_isAlphanum plain (by decide)

theorem ofSet_single (small : c.toNat < 0x80) : ofSet (.single c) = .literal [c] := by
  rw [ofSet, CharSet.only?_single small]

/-- A letter or digit is a literal of one character. -/
theorem readPart_plain (flags : s.flags = {}) (plain : c.isAlphanum = true) (rest : Text) :
    readPart fuel s c rest = .ok (s.push (.literal [c]), rest) := by
  have atom : (Atom.char c).regex s.flags = .literal [c] := by
    rw [flags]
    exact ofSet_single (toNat_lt_of_isAlphanum plain)
  rw [readPart.eq_def]
  split
  -- Eight characters have a part of their own.
  iterate 8 exact absurd plain (by decide)
  rw [repetitionOf?_plain plain, readAtom_plain s.flags plain, ← atom]
  rfl

theorem readFrom_of_readPart {s' : Reading} {rest left : Text} (flags : s.flags = {})
    (part : readPart fuel s c rest = .ok (s', left)) :
    readFrom (fuel + 1) s (c :: rest) = readFrom fuel s' left := by
  have skip : s.flags.skip (c :: rest) = c :: rest := by
    rw [flags]
    rfl
  rw [readFrom, skip]
  simp only [part]
  rfl

/-! ### Words -/

/-- The reading with the characters of a word added to the present branch. -/
def Reading.pushWord (s : Reading) (w : Text) : Reading :=
  w.foldl (fun s c => s.push (.literal [c])) s

theorem readFrom_word (flags : s.flags = {}) (plain : ∀ c ∈ w, c.isAlphanum = true)
    (rest : Text) :
    readFrom (fuel + w.length) s (w ++ rest) = readFrom fuel (s.pushWord w) rest := by
  induction w generalizing s with
  | nil => rfl
  | cons c later ih =>
    obtain ⟨first, others⟩ := List.forall_mem_cons.mp plain
    rw [List.length_cons, ← Nat.add_assoc, List.cons_append,
      readFrom_of_readPart flags (readPart_plain flags first _)]
    exact ih flags others

/-- The items of a word, the latest first. -/
def wordItems (w : Text) : List Item := (w.map fun c => Item.part { regex := literal [c] }).reverse

theorem Reading.pushWord_eq (s : Reading) (w : Text) :
    s.pushWord w =
      { s with present := ⟨s.present.branches, wordItems w ++ s.present.items⟩ } := by
  induction w generalizing s with
  | nil => rfl
  | cons c later ih =>
    refine (ih (s.push (.literal [c]))).trans ?_
    rw [wordItems, wordItems, List.map_cons, List.reverse_cons, List.append_assoc]
    rfl

theorem foldr_consPart_characters (c : Char) (later : Text) :
    ((c :: later).map fun c => literal [c]).foldr consPart [] = [literal (c :: later)] := by
  induction later generalizing c with
  | nil => rfl
  | cons d later ih =>
    show consPart (literal [c]) (((d :: later).map fun c => literal [c]).foldr consPart []) = _
    rw [ih]
    rfl

/-- Literals of one character after another become one literal. -/
theorem concat_characters (nonempty : w ≠ []) :
    concat (w.map fun c => literal [c]) = literal w := by
  obtain ⟨c, later, rfl⟩ := List.exists_cons_of_ne_nil nonempty
  have parts : ((c :: later).map fun c => literal [c]).flatMap parts =
      (c :: later).map fun c => literal [c] := by
    rw [List.flatMap_map, List.map_eq_flatMap]
    rfl
  rw [concat, parts, foldr_consPart_characters]
  rfl

/-! ### The end of the group -/

/-- An alternation of one branch that is no alternation by itself comes to that branch. -/
theorem Alternation.whole_of_single {a : Alternation} (single : a.branches = [])
    (flat : a.branch.regex.branches = [a.branch.regex]) : a.whole = a.branch := by
  have regex : oneOf [a.branch.regex] = a.branch.regex := by
    rw [oneOf, List.flatMap_singleton, flat]
  rw [whole, single]
  exact congrArg (Written.mk · a.branch.depth) regex

/-- Where the text ends with the group around an expression, the anchor is put in front of what has
been read. -/
theorem readFrom_close (flags : s.flags = {}) (outer : s.outer = [anchorGroup]) :
    readFrom (fuel + 2) s [')'] =
      .ok ⟨concat [.look .textStart, s.present.whole.regex], s.present.whole.depth + 2⟩ := by
  let after : Alternation :=
    anchorGroup.around.push (.part ⟨s.present.whole.regex, s.present.whole.depth + 1⟩)
  have closed : readPart (fuel + 1) s ')' [] =
      .ok ({ s with flags := {}, present := after, outer := [] }, []) := by
    rw [readPart.eq_def]
    simp only [Reading.closeGroup, outer]
    rfl
  have single : after.whole = after.branch :=
    Alternation.whole_of_single rfl (startsText_concat_anchor [s.present.whole.regex]).2
  have branch : after.branch =
      ⟨concat [.look .textStart, s.present.whole.regex], s.present.whole.depth + 2⟩ := by
    have depth : depthAround [s.present.whole.depth + 1, 0] = s.present.whole.depth + 2 := by
      show max (max 0 (s.present.whole.depth + 1)) 0 + 1 = _
      omega
    exact congrArg (Written.mk _) depth
  rw [readFrom_of_readPart flags closed, ← branch, ← single]
  rfl

/-- What is read of an expression within its group decides what is read of the whole text, as long
as it does not nest too deep. -/
theorem read_anchored {e : Text} {r : Regex} {depth : Nat}
    (h : readFrom (e.length + 4) (Reading.within {} anchorGroup) (e ++ [')']) = .ok ⟨r, depth⟩)
    (shallow : depth ≤ deepest) :
    read (anchored e) = if r.fits then .ok r else .error .tooLarge := by
  rw [read, Pattern.length_anchored, Pattern.readFrom_anchored, h]
  exact if_neg (Nat.not_lt.mpr shallow)

theorem foldl_max_le {n : Nat} {depths : List Nat} (bound : ∀ d ∈ depths, d ≤ n) {m : Nat}
    (le : m ≤ n) : depths.foldl max m ≤ n := by
  induction depths generalizing m with
  | nil => exact le
  | cons d rest ih =>
    obtain ⟨first, others⟩ := List.forall_mem_cons.mp bound
    exact ih others (Nat.max_le.mpr ⟨le, first⟩)

/-- Around its parts a text nests by one level more at most. -/
theorem depthAround_le {n : Nat} {depths : List Nat} (bound : ∀ d ∈ depths, d ≤ n) :
    depthAround depths ≤ n + 1 := by
  rw [depthAround.eq_def]
  split
  · exact Nat.zero_le _
  · next d => exact Nat.le_succ_of_le (bound d List.mem_cons_self)
  · exact Nat.succ_le_succ (foldl_max_le bound (Nat.zero_le n))

/-- The characters of a word are one branch, and this is one literal. -/
theorem whole_wordItems (nonempty : w ≠ []) :
    ∃ depth ≤ 1, Alternation.whole ⟨[], wordItems w⟩ = ⟨literal w, depth⟩ := by
  have regexes : (wordItems w).reverse.filterMap Item.regex? = w.map fun c => literal [c] := by
    rw [wordItems, List.reverse_reverse, List.filterMap_map]
    exact congrFun List.filterMap_eq_map w
  have regex : (Alternation.branch ⟨[], wordItems w⟩).regex = literal w := by
    rw [← concat_characters nonempty, ← regexes]
    rfl
  have shallow : (Alternation.branch ⟨[], wordItems w⟩).depth ≤ 1 := by
    refine depthAround_le (n := 0) ?_
    simp [wordItems, Item.depth]
  refine ⟨_, shallow, ?_⟩
  rw [← regex]
  refine Alternation.whole_of_single rfl ?_
  rw [regex]
  rfl

/-- A word of letters and digits in its group is read as an anchored literal. -/
theorem read_anchored_word (nonempty : w ≠ []) (plain : ∀ c ∈ w, c.isAlphanum = true) :
    read (anchored w) =
      if (anchoredWord w).fits then .ok (anchoredWord w) else .error .tooLarge := by
  obtain ⟨depth, shallow, whole⟩ := whole_wordItems nonempty
  have reading : (Reading.within {} anchorGroup).pushWord w =
      { Reading.within {} anchorGroup with present := ⟨[], wordItems w⟩ } := by
    rw [Reading.pushWord_eq]
    exact congrArg (fun items => { Reading.within {} anchorGroup with present := ⟨[], items⟩ })
      (List.append_nil _)
  have within : readFrom (w.length + 4) (Reading.within {} anchorGroup) (w ++ [')']) =
      .ok ⟨anchoredWord w, depth + 2⟩ := by
    rw [Nat.add_comm, readFrom_word rfl plain, reading, readFrom_close rfl rfl, whole]
    rfl
  exact read_anchored within (Nat.le_trans (Nat.add_le_add_right shallow 2) (by decide))

/-! ### Brackets -/

/-- A letter or digit is a member of a bracket by itself unless a hyphen follows it. -/
theorem readMember_plain {d : Char} (plain : c.isAlphanum = true) (other : d ≠ '-') (rest : Text) :
    readMember {} (c :: d :: rest) = .ok (.single c, d :: rest) := by
  have skip : Flags.skip {} (d :: rest) = d :: rest := rfl
  rw [readMember, readAtom_plain {} plain]
  dsimp only [bind, Except.bind]
  rw [skip]
  split
  · next h => cases h
  · next h => exact absurd (List.cons.inj h).1 other
  · rfl

/-- A bracket with the given characters as further items. -/
def Bracket.addChars (b : Bracket) (cs : Text) : Bracket :=
  cs.foldl (fun b c => b.add ⟨.single c, 0⟩) b

theorem readBracketIn_cons {d : Char} (plain : c.isAlphanum = true) (other : d ≠ '-')
    (outer : List Bracket) (b : Bracket) (rest : Text) :
    readBracketIn {} (fuel + 1) outer b (c :: d :: rest) =
      readBracketIn {} fuel outer (b.add ⟨.single c, 0⟩) (d :: rest) := by
  have skip : Flags.skip {} (c :: d :: rest) = c :: d :: rest := rfl
  have apart {sign : Char} {left : Text} (h : c :: d :: rest = sign :: left)
      (meaning : sign.isAlphanum = false) : False :=
    ne_of_isAlphanum plain meaning (List.cons.inj h).1
  rw [readBracketIn, skip]
  split
  · next h => cases h
  · next h => exact (apart h (by decide)).elim
  · next h => exact (apart h (by decide)).elim
  · next h => exact (apart h (by decide)).elim
  · next h => exact (apart h (by decide)).elim
  · next h => exact (apart h (by decide)).elim
  · rw [readMember_plain plain other]
    rfl

/-- The characters of a bracket are read one after another, up to the bracket that closes it. -/
theorem readBracketIn_chars (plain : ∀ c ∈ cs, c.isAlphanum = true) (outer : List Bracket)
    (b : Bracket) (rest : Text) :
    readBracketIn {} (fuel + cs.length) outer b (cs ++ ']' :: rest) =
      readBracketIn {} fuel outer (b.addChars cs) (']' :: rest) := by
  induction cs generalizing b with
  | nil => rfl
  | cons c later ih =>
    obtain ⟨first, others⟩ := List.forall_mem_cons.mp plain
    obtain ⟨d, more, next, other⟩ : ∃ d more, later ++ ']' :: rest = d :: more ∧ d ≠ '-' := by
      cases later with
      | nil => exact ⟨']', rest, rfl, by decide⟩
      | cons d later =>
        exact ⟨d, later ++ ']' :: rest, rfl,
          ne_of_isAlphanum (others d List.mem_cons_self) (by decide)⟩
    rw [List.length_cons, ← Nat.add_assoc, List.cons_append, next, readBracketIn_cons first other,
      ← next]
    exact ih others _

/-- The characters are the members of the bracket, and none of them nests. -/
theorem Bracket.addChars_eq (b : Bracket) (cs : Text) :
    b.addChars cs =
      { b with members := b.members.withChars cs, items := b.items + cs.length } := by
  induction cs generalizing b with
  | nil => rfl
  | cons c later ih =>
    refine (ih _).trans ?_
    rw [List.length_cons, Nat.add_comm later.length, ← Nat.add_assoc]
    exact congrArg (Bracket.mk _ _ _ _) (Nat.max_zero b.deepest)

/-- A bracket that begins with a letter or digit is not negated, and has no member yet. -/
theorem readOpening_plain (plain : c.isAlphanum = true) (rest : Text) :
    readOpening {} (c :: rest) = .ok ({ negated := false }, c :: rest) := by
  have skip : Flags.skip {} (c :: rest) = c :: rest := rfl
  have hyphens : Flags.collect {} (· == '-') false (c :: rest) = ([], c :: rest) := by
    have other : (c == '-') = false := beq_false_of_ne (ne_of_isAlphanum plain (by decide))
    simp [Flags.collect, other]
  rw [readOpening, skip]
  split
  next negated t h =>
    split at h
    · next heq => exact absurd (List.cons.inj heq).1 (ne_of_isAlphanum plain (by decide))
    · cases h
      rw [hyphens]
      split
      · next h => cases h
      · next h =>
        exact absurd (List.cons.inj (Prod.mk.inj h).2).1 (ne_of_isAlphanum plain (by decide))
      · next h =>
        cases h
        rfl

/-- A bracket of letters and digits is the set of these characters. -/
theorem readBracket_chars (nonempty : cs ≠ []) (plain : ∀ c ∈ cs, c.isAlphanum = true)
    (fuel : Nat) (rest : Text) :
    ∃ depth ≤ 2, readBracket {} (fuel + 1 + cs.length) (cs ++ ']' :: rest) =
      .ok (⟨.ofChars cs, depth⟩, rest) := by
  have opening : readOpening {} (cs ++ ']' :: rest) =
      .ok ({ negated := false }, cs ++ ']' :: rest) := by
    obtain ⟨c, later, rfl⟩ := List.exists_cons_of_ne_nil nonempty
    exact readOpening_plain (plain c List.mem_cons_self) _
  refine ⟨(if 0 + cs.length ≤ 1 then 0 else 0 + 1) + 1, ?_, ?_⟩
  · split <;> decide
  · rw [readBracket, opening]
    show readBracketIn {} (fuel + 1 + cs.length) [] _ _ = _
    rw [readBracketIn_chars plain, Bracket.addChars_eq]
    rfl

/-- An anchored repetition of one character of a set. -/
def anchoredRounds (set : CharSet) : Regex :=
  .seq (.look .textStart) (.rounds 1 none true (ofSet set))

theorem repeated_ofSet (set : CharSet) :
    repeated 1 none true (ofSet set) = .rounds 1 none true (ofSet set) := by
  rw [ofSet]
  cases set.only? <;> rfl

/-- A bracket of letters and digits with a plus sign in its group is read as an anchored
repetition. -/
theorem read_anchored_bracket (nonempty : cs ≠ []) (plain : ∀ c ∈ cs, c.isAlphanum = true) :
    read (anchored ("[".toList ++ cs ++ "]+".toList)) =
      if (anchoredRounds (.ofChars cs)).fits then .ok (anchoredRounds (.ofChars cs))
      else .error .tooLarge := by
  obtain ⟨depth, shallow, bracket⟩ := readBracket_chars nonempty plain 5 ['+', ')']
  let once : Alternation := ⟨[], [.part ⟨ofSet (.ofChars cs), depth⟩]⟩
  let more : Alternation := ⟨[], [.part ⟨.rounds 1 none true (ofSet (.ofChars cs)), depth + 1⟩]⟩
  let s : Reading := .within {} anchorGroup
  have set : readPart (5 + 1 + cs.length) s '[' (cs ++ [']', '+', ')']) =
      .ok ({ s with present := once }, ['+', ')']) := by
    rw [readPart.eq_def]
    show (readBracket {} _ _ >>= _) = _
    rw [bracket]
    rfl
  have plus : readPart (5 + cs.length) { s with present := once } '+' [')'] =
      .ok ({ s with present := more }, [')']) := by
    have again : Reading.repeatLast { s with present := once } 1 none true =
        .ok { s with present := more } := by
      show Except.ok { s with present := ⟨[], [.part ⟨repeated 1 none true _, _⟩]⟩ } = _
      rw [repeated_ofSet]
    rw [readPart.eq_def]
    show (Reading.repeatLast { s with present := once } 1 none true >>= _) = _
    rw [again]
    rfl
  have whole : more.whole = ⟨.rounds 1 none true (ofSet (.ofChars cs)), depth + 1⟩ :=
    Alternation.whole_of_single rfl rfl
  have within : readFrom (5 + 1 + cs.length + 1) s ('[' :: (cs ++ [']', '+', ')'])) =
      .ok ⟨anchoredRounds (.ofChars cs), depth + 3⟩ := by
    have room : 5 + cs.length = 3 + cs.length + 2 := by omega
    rw [readFrom_of_readPart rfl set, Nat.add_right_comm 5, readFrom_of_readPart rfl plus, room,
      readFrom_close rfl rfl, whole]
    rfl
  have text : "[".toList ++ cs ++ "]+".toList ++ [')'] = '[' :: (cs ++ [']', '+', ')']) := by simp
  have length : ("[".toList ++ cs ++ "]+".toList).length + 4 = 5 + 1 + cs.length + 1 := by
    simp
    omega
  rw [← text, ← length] at within
  exact read_anchored within (Nat.le_trans (Nat.add_le_add_right shallow 3) (by decide))

end LineGrammar.Regex
