import LineGrammar.Proofs.ClosedText

/-!
Reading an expression within a group. An expression that can be read by itself is read in the same
way with one more group around it: no part of it closes that group, since by itself there would be
no group to close. So a bar that is read on the way is inside of the group, and the parenthesis
behind the expression ends the group and the text.

* `Regex.follows_readPart`: one part, with one more group around it.
* `Regex.barOutside_within`: no bar is read outside of the group.
-/

namespace LineGrammar.Regex

open Text (Closed)

variable {flags : Flags} {t u : Text}

/-! ### Repetitions -/

theorem closed_readQuestion (closed : Closed t u) :
    (readQuestion u).1 = (readQuestion t).1 ∧ Closed (readQuestion t).2 (readQuestion u).2 := by
  cases closed with
  | swallowed => exact ⟨rfl, .swallowed⟩
  | close =>
    cases t with
    | nil => exact ⟨rfl, .close []⟩
    | cons c rest =>
      by_cases question : c = '?'
      · subst question
        exact ⟨rfl, .close rest⟩
      · have other (rest : Text) : readQuestion (c :: rest) = (false, c :: rest) := by
          rw [readQuestion]
          exact fun _ heq => question (List.cons.inj heq).1
        rw [List.cons_append, other, other]
        exact ⟨rfl, .close (c :: rest)⟩

/-- A number with something behind it ends in front of the parenthesis. -/
theorem readNumber_of_cons {number : Except Fault Nat} {c : Char} {rest : Text}
    (closed : Closed t u) (h : readNumber flags t = (number, c :: rest)) :
    readNumber flags u = (number, c :: (rest ++ [')'])) := by
  cases closed with
  | swallowed => cases h
  | close =>
    rw [readNumber] at h ⊢
    cases hcollect : flags.collect Char.isDigit false (t.dropWhile isBlank) with
    | mk digits left =>
      rw [hcollect] at h
      obtain ⟨rfl, after⟩ := Prod.mk.inj h
      have more : left ≠ [] := by
        rintro rfl
        cases after
      rw [Text.dropWhile_append_close rfl t, Flags.collect_append_close hcollect more]
      dsimp only
      rw [Text.dropWhile_append_close rfl left, after]
      rfl

/-- Two counts have the same bounds, and what they leave differs by the parenthesis. -/
def CountedAlike (r r' : Nat × Option Nat × Text) : Prop :=
  r'.1 = r.1 ∧ r'.2.1 = r.2.1 ∧ Closed r.2.2 r'.2.2

theorem follows_readCount (closed : Closed t u) :
    Follows CountedAlike (readCount flags t) (readCount flags u) := by
  rw [readCount, readCount]
  cases hnumber : readNumber flags (flags.skip t) with
  | mk least after =>
    cases after with
    | nil => exact .error
    | cons c rest =>
      rw [readNumber_of_cons (flags.closed_skip closed) hnumber]
      by_cases brace : c = '}'
      · subst brace
        exact .same fun n => .ok ⟨rfl, rfl, .close rest⟩
      · by_cases comma : c = ','
        · subst comma
          simp only
          cases hskip : flags.skip rest with
          | nil => exact .fails fun n => nofun
          | cons d more =>
            rw [Flags.skip_of_cons (.close rest) hskip]
            by_cases unbounded : d = '}'
            · subst unbounded
              exact .same fun n => .ok ⟨rfl, rfl, .close more⟩
            · simp only [List.cons.injEq, unbounded, false_and, imp_self, implies_true]
              refine .same fun n => ?_
              cases hmost : readNumber flags (d :: more) with
              | mk most after =>
                cases after with
                | nil => exact .fails fun m => nofun
                | cons e others =>
                  rw [← List.cons_append, readNumber_of_cons (.close (d :: more)) hmost]
                  refine .same fun m => ?_
                  by_cases last : e = '}'
                  · subst last
                    exact .ite (.ok ⟨rfl, rfl, .close others⟩) .error
                  · simp only [List.cons.injEq, last, false_and, imp_self, implies_true]
                    exact .error
        · simp only [List.cons.injEq, brace, comma, false_and, imp_self, implies_true]
          exact .error

/-! ### Groups -/

theorem follows_readName {names : List Text} (closed : Closed t u) :
    Follows ReadAlike (readName names t) (readName names u) := by
  rw [readName, readName]
  cases closed with
  | swallowed => exact .error
  | close =>
    cases hrest : t.dropWhile (· != '>') with
    | nil =>
      split
      · next heq => cases heq
      · next heq => cases heq
      · exact .error
    | cons c rest =>
      have more : t.dropWhile (· != '>') ≠ [] := hrest ▸ List.cons_ne_nil c rest
      rw [Text.dropWhile_append_close_of_ne_nil more, Text.takeWhile_append_close more, hrest]
      cases t.takeWhile (· != '>') with
      | nil => exact .error
      | cons d name => exact .ite (.ite .error (.ok ⟨rfl, .close rest⟩)) .error

theorem follows_readInlineFlags {on : Bool} {seen : List Char} (closed : Closed t u) :
    Follows ReadAlike (readInlineFlags flags on seen t) (readInlineFlags flags on seen u) := by
  induction t generalizing flags on seen u with
  | nil => exact .error
  | cons c rest ih =>
    rw [closed.eq_of_cons, readInlineFlags, readInlineFlags]
    refine .ite (.ite .error (.ok ⟨rfl, .close rest⟩)) (.ite .error ?_)
    refine .ite (ih (.close rest)) ?_
    cases flags.set on c with
    | none => exact .error
    | some switched => exact ih (.close rest)

/-- The reading with one more group around it. -/
def Reading.within (s : Reading) (group : OpenGroup) : Reading :=
  { s with outer := s.outer ++ [group] }

/-- Two readings differ by a group around the second one, and what they leave differs by the
parenthesis. -/
def PartAlike (group : OpenGroup) (r r' : Reading × Text) : Prop :=
  r'.1 = r.1.within group ∧ Closed r.2 r'.2

variable {s : Reading} (group : OpenGroup)

theorem follows_closeGroup :
    Follows (fun a b => b = Reading.within a group) s.closeGroup (s.within group).closeGroup := by
  rw [Reading.closeGroup, Reading.closeGroup]
  cases houter : s.outer with
  | nil => exact .error
  | cons first outer =>
    rw [Reading.within, houter]
    exact .ok rfl

theorem follows_repeatLast {least : Nat} {most : Option Nat} {greedy : Bool} :
    Follows (fun a b => b = Reading.within a group) (s.repeatLast least most greedy)
      ((s.within group).repeatLast least most greedy) := by
  have same : (s.within group).present = s.present := rfl
  rw [Reading.repeatLast, Reading.repeatLast, same]
  split
  · exact .ok rfl
  · exact .error

theorem readGroup_of_unmarked (s : Reading) (h : ∀ rest, s.flags.skip t ≠ '?' :: rest) :
    readGroup s t = .ok (s.openCounted, s.flags.skip t) := by
  rw [readGroup]
  split
  case h_8 => rfl
  all_goals
    next heq => exact absurd heq (h _)

/-- What stands behind an angle is a name, unless it is a sign that looks behind. -/
theorem readGroup_of_angle (s : Reading) {rest : Text} (hskip : s.flags.skip t = '?' :: '<' :: rest)
    (equal : ∀ more, rest ≠ '=' :: more) (bang : ∀ more, rest ≠ '!' :: more) :
    readGroup s t = readName s.names rest >>= fun read =>
      .ok ({ s with names := read.1 :: s.names }.openCounted, read.2) := by
  rw [readGroup, hskip]
  split
  · next heq => cases heq
  · next heq => cases heq
  · next more heq => exact absurd (List.cons.inj (List.cons.inj heq).2).2 (equal more)
  · next more heq => exact absurd (List.cons.inj (List.cons.inj heq).2).2 (bang more)
  · next heq => cases heq
  · next heq =>
    cases heq
    rfl
  · next other heq =>
    cases heq
    exact absurd rfl (other rest)
  · next other => exact absurd rfl (other _)

/-- Behind a question mark there are flags, unless there is a sign of something else. -/
theorem readGroup_of_flags (s : Reading) {rest : Text} (hskip : s.flags.skip t = '?' :: rest)
    (none : ∀ sign ∈ [['='], ['!'], ['<'], ['P', '<']], ∀ more, rest ≠ sign ++ more) :
    readGroup s t = readInlineFlags s.flags true [] rest >>= fun read =>
      if read.1.forGroup then .ok (s.openPlain read.1.flags, read.2)
      else if read.1.none then .error .nothingToRepeat
      else .ok ({ s with flags := read.1.flags, present := s.present.push .flags }, read.2) := by
  rw [readGroup, hskip]
  split
  · next more heq => exact absurd (List.cons.inj heq).2 (none ['='] (by decide) more)
  · next more heq => exact absurd (List.cons.inj heq).2 (none ['!'] (by decide) more)
  · next more heq => exact absurd (List.cons.inj heq).2 (none ['<'] (by decide) ('=' :: more))
  · next more heq => exact absurd (List.cons.inj heq).2 (none ['<'] (by decide) ('!' :: more))
  · next more heq => exact absurd (List.cons.inj heq).2 (none ['P', '<'] (by decide) more)
  · next more _ _ heq => exact absurd (List.cons.inj heq).2 (none ['<'] (by decide) more)
  · next heq =>
    cases heq
    rfl
  · next other => exact absurd rfl (other rest)

/-- A question mark with no flags behind it that are known is refused, so the parenthesis does not
complete the beginning of a group. -/
theorem follows_readGroup (closed : Closed t u) :
    Follows (PartAlike group) (readGroup s t) (readGroup (s.within group) u) := by
  have skipped : Closed (s.flags.skip t) ((s.within group).flags.skip u) :=
    s.flags.closed_skip closed
  have named {rest : Text} : Follows (PartAlike group)
      (readName s.names rest >>= fun read =>
        .ok ({ s with names := read.1 :: s.names }.openCounted, read.2))
      (readName s.names (rest ++ [')']) >>= fun read =>
        .ok ({ s.within group with names := read.1 :: s.names }.openCounted, read.2)) := by
    refine .read (follows_readName (.close rest)) ?_
    exact fun name after after' hclosed => .ok ⟨rfl, hclosed⟩
  rw [readGroup]
  split
  · exact .error
  · exact .error
  · exact .error
  · exact .error
  · next rest hskip =>
    have begun : (s.within group).flags.skip u = _ := Flags.skip_of_cons closed hskip
    rw [readGroup, begun]
    exact named
  · next rest equal bang hskip =>
    have begun : (s.within group).flags.skip u = _ := Flags.skip_of_cons closed hskip
    rw [readGroup_of_angle _ begun (Text.append_close_ne ['='] equal (by decide))
      (Text.append_close_ne ['!'] bang (by decide))]
    exact named
  · next rest equal bang ltEqual ltBang name angle hskip =>
    have begun : (s.within group).flags.skip u = _ := Flags.skip_of_cons closed hskip
    have none : ∀ sign ∈ [['='], ['!'], ['<'], ['P', '<']], ∀ more, rest ++ [')'] ≠ sign ++ more := by
      simp only [List.forall_mem_cons]
      exact ⟨Text.append_close_ne _ equal (by decide), Text.append_close_ne _ bang (by decide),
        Text.append_close_ne _ angle (by decide), Text.append_close_ne _ name (by decide),
        List.forall_mem_nil _⟩
    rw [readGroup_of_flags _ begun none]
    refine .read (follows_readInlineFlags (.close rest)) fun inline after after' hclosed => ?_
    exact .ite (.ok ⟨rfl, hclosed⟩) (.ite .error (.ok ⟨rfl, hclosed⟩))
  · next unmarked =>
    rw [readGroup_of_unmarked _ (skipped.ne_append ['?'] unmarked (by decide))]
    exact .ok ⟨rfl, skipped⟩

/-! ### Parts -/

theorem follows_repetition {least : Nat} {most : Option Nat} (closed : Closed t u) :
    Follows (PartAlike group)
      (do .ok (← s.repeatLast least most (s.flags.greedy (readQuestion t).1), (readQuestion t).2))
      (do .ok (← (s.within group).repeatLast least most
        ((s.within group).flags.greedy (readQuestion u).1), (readQuestion u).2)) := by
  obtain ⟨same, hrest⟩ := closed_readQuestion closed
  rw [same]
  exact (follows_repeatLast group).bind fun a b heq => .ok ⟨heq, hrest⟩

theorem follows_readPart {fuel fuel' : Nat} (le : fuel ≤ fuel') (c : Char) (t : Text) :
    Follows (PartAlike group) (readPart fuel s c t)
      (readPart fuel' (s.within group) c (t ++ [')'])) := by
  have closed : Closed t (t ++ [')']) := .close t
  rw [readPart.eq_def, readPart.eq_def]
  split
  · exact follows_readGroup group closed
  · exact (follows_closeGroup group).bind fun a b heq => .ok ⟨heq, closed⟩
  · exact .ok ⟨rfl, closed⟩
  · refine .read (follows_readBracket le closed) ?_
    exact fun written after after' hclosed => .ok ⟨rfl, hclosed⟩
  · refine (follows_readCount closed).bind fun r r' alike => ?_
    obtain ⟨least, most, after⟩ := r
    obtain ⟨least', most', after'⟩ := r'
    obtain ⟨rfl, rfl, hclosed⟩ := alike
    exact follows_repetition group (s.flags.closed_skip hclosed)
  · exact .same fun set => .ok ⟨rfl, closed⟩
  · exact .ok ⟨rfl, closed⟩
  · exact .ok ⟨rfl, closed⟩
  · cases repetitionOf? c with
    | some bounds => exact follows_repetition group closed
    | none =>
      refine .read (follows_readAtom (.close (c :: t))) ?_
      exact fun atom after after' hclosed => .ok ⟨rfl, hclosed⟩

theorem barOutside_nil (fuel : Nat) (s : Reading) : barOutside fuel s [] = false := by
  cases fuel with
  | zero => rfl
  | succ fuel =>
    have none : s.flags.skip [] = [] := by
      rw [Flags.skip]
      split
      · rfl
      · rfl
    rw [barOutside, none]

/-- **An expression that can be read by itself has no bar outside of a group around it.** -/
theorem barOutside_within {fuel fuel' : Nat} (le : fuel ≤ fuel') {w : Written} (closed : Closed t u)
    (h : readFrom fuel s t = .ok w) : barOutside fuel' (s.within group) u = false := by
  induction fuel generalizing fuel' s t u with
  | zero => cases h
  | succ fuel ih =>
    cases fuel' with
    | zero => exact absurd le (Nat.not_succ_le_zero fuel)
    | succ fuel' =>
      have le := Nat.le_of_succ_le_succ le
      have inside : (s.within group).outer.isEmpty = false :=
        List.isEmpty_eq_false_iff.mpr
          (List.append_ne_nil_of_right_ne_nil _ (List.cons_ne_nil _ _))
      have skipped : Closed (s.flags.skip t) ((s.within group).flags.skip u) :=
        s.flags.closed_skip closed
      rw [readFrom] at h
      split at h
      · next none =>
        rw [none] at skipped
        -- The expression ends here, so no group of its own is open.
        have outside : s.outer = [] := by
          split at h
          · next outside => exact List.isEmpty_iff.mp outside
          · cases h
        generalize hskip : (s.within group).flags.skip u = left at skipped
        cases skipped with
        | swallowed =>
          rw [barOutside, hskip]
        | close =>
          -- The parenthesis ends the group around the expression, and nothing follows.
          obtain ⟨after, hafter⟩ : ∃ after, (s.within group).closeGroup = .ok after := by
            rw [Reading.closeGroup, Reading.within, outside]
            exact ⟨_, rfl⟩
          have last : readPart fuel' (s.within group) ')' [] = .ok (after, []) := by
            rw [readPart.eq_def]
            exact congrArg (· >>= fun s => .ok (s, [])) hafter
          rw [barOutside_of_readPart hskip last, inside, barOutside_nil]
          rfl
      · next c rest hskip =>
        rw [hskip] at skipped
        obtain ⟨⟨s', left⟩, hpart, hrest⟩ := exists_of_bind_eq_ok h
        obtain ⟨⟨_, left'⟩, hpart', rfl, hclosed⟩ := follows_readPart group le c rest _ hpart
        rw [barOutside_of_readPart skipped.eq_of_cons hpart', inside, Bool.and_false, Bool.false_or]
        exact ih le hclosed hrest

end LineGrammar.Regex
