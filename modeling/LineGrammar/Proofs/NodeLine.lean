import LineGrammar.Network.Node
import LineGrammar.Proofs.CharRuns

/-!
The grammar of node lines. A node line is written from three names and three stretches of blanks:
`Node.Spells` says how. The parser is a row of primitives, each of which takes the longest run it
can and never goes back; it finds the one way in which a line is written, because every run stops
at a character that begins the next piece and that the run does not accept.

* `Node.parse_line_eq_ok_iff`: what the pipeline of a node line accepts.
* `Node.Spells.unique`: a line is written in at most one way.
* `Node.parse_accepts_exactly_spelled` puts them together.
-/

namespace LineGrammar

open ParseResult
open Text (IsRun Stops)

/-! ### One typed pipeline after another -/

namespace Typed

variable {a b y : Yield} {input rest : Text}

theorem parse_followedBy_eq_ok_iff {p : Typed a} {q : Typed b} {value : (a.merge b).Value} :
    (p.followedBy q).parse input = .ok ⟨value, rest⟩ ↔
      ∃ x between z, p.parse input = .ok ⟨x, between⟩ ∧ q.parse between = .ok ⟨z, rest⟩ ∧
        Yield.join a b x z = value := by
  rw [parse_followedBy, Parser.followedBy, andThen_eq_ok_iff]
  constructor
  · rintro ⟨x, between, hp, hq⟩
    obtain ⟨z, hz, joined⟩ := mapValue_eq_ok_iff.mp hq
    exact ⟨x, between, z, hp, hz, joined⟩
  · rintro ⟨x, between, z, hp, hz, joined⟩
    exact ⟨x, between, hp, mapValue_eq_ok_iff.mpr ⟨z, hz, joined⟩⟩

theorem parse_skip_eq_ok_iff {p : Typed y} :
    p.skip.parse input = .ok ⟨(), rest⟩ ↔ ∃ x, p.parse input = .ok ⟨x, rest⟩ := by
  rw [parse_skip]
  exact mapValue_eq_ok_iff.trans (exists_congr fun x => and_iff_left rfl)

/-- What is skipped leaves the value to the pipeline after it. -/
theorem parse_skip_followedBy_eq_ok_iff {p : Typed y} {q : Typed b} {value : b.Value} :
    (followedBy (.skip p) q : Typed b).parse input = .ok ⟨value, rest⟩ ↔
      ∃ x between, p.parse input = .ok ⟨x, between⟩ ∧ q.parse between = .ok ⟨value, rest⟩ := by
  refine parse_followedBy_eq_ok_iff.trans ?_
  constructor
  · rintro ⟨⟨⟩, between, z, hp, hq, rfl⟩
    obtain ⟨x, hx⟩ := parse_skip_eq_ok_iff.mp hp
    exact ⟨x, between, hx, hq⟩
  · rintro ⟨x, between, hp, hq⟩
    exact ⟨(), between, value, parse_skip_eq_ok_iff.mpr ⟨x, hp⟩, hq, rfl⟩

/-! ### The pieces of a node line -/

theorem parse_skip_character_eq_ok_iff {c : Char} :
    (skip (character c)).parse input = .ok ⟨(), rest⟩ ↔ input = c :: rest := by
  rw [parse_skip_eq_ok_iff, parse_character]
  constructor
  · rintro ⟨_, h⟩
    exact (Parser.character_eq_ok_iff.mp h).2
  · intro h
    exact ⟨c, Parser.character_eq_ok_iff.mpr ⟨rfl, h⟩⟩

theorem parse_skip_character_followedBy_eq_ok_iff {c : Char} {q : Typed b} {value : b.Value} :
    (followedBy (.skip (.character c)) q : Typed b).parse input = .ok ⟨value, rest⟩ ↔
      ∃ between, input = c :: between ∧ q.parse between = .ok ⟨value, rest⟩ := by
  refine parse_skip_followedBy_eq_ok_iff.trans ?_
  rw [exists_comm]
  refine exists_congr fun between => ?_
  rw [← parse_skip_character_eq_ok_iff, parse_skip_eq_ok_iff, exists_and_right]

theorem parse_takeWhile1_eq_ok_iff {name : Text} {accepts : Char → Bool} {run : Text} :
    (takeWhile1 name accepts).parse input = .ok ⟨run, rest⟩ ↔
      IsRun accepts run ∧ Stops accepts rest ∧ input = run ++ rest := by
  rw [parse_takeWhile1]
  exact Parser.takeWhile1_eq_ok_iff

theorem parse_skip_whitespace_followedBy_eq_ok_iff {q : Typed b} {value : b.Value} :
    (followedBy (.skip whitespace) q : Typed b).parse input = .ok ⟨value, rest⟩ ↔
      ∃ blanks between, (IsRun isBlank blanks ∧ Stops isBlank between ∧ input = blanks ++ between) ∧
        q.parse between = .ok ⟨value, rest⟩ := by
  refine parse_skip_followedBy_eq_ok_iff.trans ?_
  exact exists_congr fun _ => exists_congr fun _ => and_congr_left' parse_takeWhile1_eq_ok_iff

/-- A word in front of content makes a pair with it. -/
theorem parse_word_followedBy_eq_ok_iff {content : Content} {q : Typed (.carries content)}
    {run : Text} {value : content.Value} :
    (followedBy word q : Typed (.carries (.pair .text content))).parse input =
        .ok ⟨(run, value), rest⟩ ↔
      ∃ between, (IsRun Char.isAlpha run ∧ Stops Char.isAlpha between ∧ input = run ++ between) ∧
        q.parse between = .ok ⟨value, rest⟩ := by
  refine parse_followedBy_eq_ok_iff.trans ?_
  constructor
  · rintro ⟨x, between, z, hword, hq, joined⟩
    cases joined
    exact ⟨between, parse_takeWhile1_eq_ok_iff.mp hword, hq⟩
  · rintro ⟨between, hword, hq⟩
    exact ⟨run, between, value, parse_takeWhile1_eq_ok_iff.mpr hword, hq, rfl⟩

/-- A pipeline with content keeps its value when nothing comes after it. -/
theorem parse_followedBy_nothing_eq_ok_iff {content : Content} {p : Typed (.carries content)}
    {q : Typed .nothing} {value : content.Value} :
    (followedBy p q : Typed (.carries content)).parse input = .ok ⟨value, rest⟩ ↔
      ∃ between, p.parse input = .ok ⟨value, between⟩ ∧ q.parse between = .ok ⟨(), rest⟩ := by
  refine parse_followedBy_eq_ok_iff.trans ?_
  constructor
  · rintro ⟨x, between, ⟨⟩, hp, hq, rfl⟩
    exact ⟨between, hp, hq⟩
  · rintro ⟨between, hp, hq⟩
    exact ⟨value, between, (), hp, hq, rfl⟩

end Typed

/-! ### Letters and blanks -/

theorem isBlank_eq_false_of_isAlpha (c : Char) (h : c.isAlpha = true) : isBlank c = false := by
  have range := toNat_of_isAlpha h
  simp only [isBlank, Bool.or_eq_false_iff, Bool.and_eq_false_iff, decide_eq_false_iff_not,
    beq_eq_false_iff_ne]
  omega

theorem isAlpha_eq_false_of_isBlank (c : Char) (h : isBlank c = true) : c.isAlpha = false := by
  cases hc : c.isAlpha with
  | false => rfl
  | true =>
    rw [isBlank_eq_false_of_isAlpha c hc] at h
    cases h

/-! ### How a node line is written -/

namespace Node

/-- The blanks in a node line. -/
structure Spacing where
  beforeEquals : Text
  afterEquals : Text
  afterComma : Text
  deriving DecidableEq

/-- A node written with the given blanks between its parts. -/
def spelled (node : Node) (blanks : Spacing) : Text :=
  node.name ++ blanks.beforeEquals ++ "=".toList ++ blanks.afterEquals ++ "(".toList ++
    node.left ++ ",".toList ++ blanks.afterComma ++ node.right ++ ")".toList

/-- The text is a node line for the node: names are runs of letters, and the blanks around the
equals sign and after the comma are runs of blanks. -/
structure Spells (text : Text) (node : Node) (blanks : Spacing) : Prop where
  name : IsRun Char.isAlpha node.name
  left : IsRun Char.isAlpha node.left
  right : IsRun Char.isAlpha node.right
  beforeEquals : IsRun isBlank blanks.beforeEquals
  afterEquals : IsRun isBlank blanks.afterEquals
  afterComma : IsRun isBlank blanks.afterComma
  text_eq : text = node.spelled blanks

/-- The text of a node line, each piece in front of the rest of the line. -/
theorem spelled_eq (node : Node) (blanks : Spacing) :
    node.spelled blanks = node.name ++ (blanks.beforeEquals ++ '=' :: (blanks.afterEquals ++
      '(' :: (node.left ++ ',' :: (blanks.afterComma ++ (node.right ++ [')']))))) := by
  simp [spelled]

variable {input rest : Text}

theorem parse_neighbours_eq_ok_iff {left right : Text} :
    neighbours.parse input = .ok ⟨(left, right), rest⟩ ↔
      ∃ blanks, IsRun Char.isAlpha left ∧ IsRun isBlank blanks ∧ IsRun Char.isAlpha right ∧
        input = '(' :: (left ++ ',' :: (blanks ++ (right ++ ')' :: rest))) := by
  constructor
  · intro h
    obtain ⟨_, rfl, hleft⟩ := Typed.parse_skip_character_followedBy_eq_ok_iff.mp h
    obtain ⟨_, ⟨left_run, -, rfl⟩, hcomma⟩ := Typed.parse_word_followedBy_eq_ok_iff.mp hleft
    obtain ⟨_, rfl, hblanks⟩ := Typed.parse_skip_character_followedBy_eq_ok_iff.mp hcomma
    obtain ⟨blanks, _, ⟨blanks_run, -, rfl⟩, hlast⟩ :=
      Typed.parse_skip_whitespace_followedBy_eq_ok_iff.mp hblanks
    obtain ⟨_, hright, closing⟩ := Typed.parse_followedBy_nothing_eq_ok_iff.mp hlast
    obtain ⟨right_run, -, rfl⟩ := Typed.parse_takeWhile1_eq_ok_iff.mp hright
    obtain rfl := Typed.parse_skip_character_eq_ok_iff.mp closing
    exact ⟨blanks, left_run, blanks_run, right_run, rfl⟩
  · rintro ⟨blanks, left_run, blanks_run, right_run, rfl⟩
    have closing : (Typed.skip (.character ')')).parse (')' :: rest) = .ok ⟨(), rest⟩ :=
      Typed.parse_skip_character_eq_ok_iff.mpr rfl
    have hright : Typed.word.parse (right ++ ')' :: rest) = .ok ⟨right, ')' :: rest⟩ :=
      Typed.parse_takeWhile1_eq_ok_iff.mpr ⟨right_run, Text.stops_cons (by decide) _, rfl⟩
    refine Typed.parse_skip_character_followedBy_eq_ok_iff.mpr ⟨_, rfl, ?_⟩
    refine Typed.parse_word_followedBy_eq_ok_iff.mpr
      ⟨_, ⟨left_run, Text.stops_cons (by decide) _, rfl⟩, ?_⟩
    refine Typed.parse_skip_character_followedBy_eq_ok_iff.mpr ⟨_, rfl, ?_⟩
    refine Typed.parse_skip_whitespace_followedBy_eq_ok_iff.mpr
      ⟨blanks, _, ⟨blanks_run, right_run.stops isBlank_eq_false_of_isAlpha _, rfl⟩, ?_⟩
    exact Typed.parse_followedBy_nothing_eq_ok_iff.mpr ⟨_, hright, closing⟩

/-- The pipeline accepts the spelled lines, and leaves nothing of them. -/
theorem parse_line_eq_ok_iff {node : Node} :
    line.parse input = .ok ⟨(node.name, node.left, node.right), rest⟩ ↔
      rest = [] ∧ ∃ blanks, Spells input node blanks := by
  constructor
  · intro h
    obtain ⟨_, ⟨name_run, -, rfl⟩, hbefore⟩ := Typed.parse_word_followedBy_eq_ok_iff.mp h
    obtain ⟨before, _, ⟨before_run, -, rfl⟩, hequals⟩ :=
      Typed.parse_skip_whitespace_followedBy_eq_ok_iff.mp hbefore
    obtain ⟨_, rfl, hafter⟩ := Typed.parse_skip_character_followedBy_eq_ok_iff.mp hequals
    obtain ⟨after, _, ⟨after_run, -, rfl⟩, hlast⟩ :=
      Typed.parse_skip_whitespace_followedBy_eq_ok_iff.mp hafter
    obtain ⟨_, hneighbours, hend⟩ := Typed.parse_followedBy_nothing_eq_ok_iff.mp hlast
    rw [Typed.parse_endOfInput] at hend
    obtain ⟨rfl, rfl⟩ := Parser.endOfInput_eq_ok_iff.mp hend
    obtain ⟨blanks, left_run, blanks_run, right_run, rfl⟩ :=
      parse_neighbours_eq_ok_iff.mp hneighbours
    refine ⟨rfl, ⟨before, after, blanks⟩, name_run, left_run, right_run, before_run, after_run,
      blanks_run, ?_⟩
    rw [spelled_eq]
  · rintro ⟨rfl, blanks, spells⟩
    rw [spells.text_eq, spelled_eq]
    refine Typed.parse_word_followedBy_eq_ok_iff.mpr ⟨_, ⟨spells.name, ?_, rfl⟩, ?_⟩
    · exact spells.beforeEquals.stops isAlpha_eq_false_of_isBlank _
    refine Typed.parse_skip_whitespace_followedBy_eq_ok_iff.mpr
      ⟨_, _, ⟨spells.beforeEquals, Text.stops_cons (by decide) _, rfl⟩, ?_⟩
    refine Typed.parse_skip_character_followedBy_eq_ok_iff.mpr ⟨_, rfl, ?_⟩
    refine Typed.parse_skip_whitespace_followedBy_eq_ok_iff.mpr
      ⟨_, _, ⟨spells.afterEquals, Text.stops_cons (by decide) _, rfl⟩, ?_⟩
    have ending : Typed.endOfInput.parse [] = .ok ⟨(), []⟩ := by
      rw [Typed.parse_endOfInput]
      exact Parser.endOfInput_eq_ok_iff.mpr ⟨rfl, rfl⟩
    refine Typed.parse_followedBy_nothing_eq_ok_iff.mpr ⟨[], ?_, ending⟩
    exact parse_neighbours_eq_ok_iff.mpr
      ⟨_, spells.left, spells.afterComma, spells.right, rfl⟩

/-- The end of a line is reached or the line is refused, so a node is what the whole line spells. -/
theorem parse_eq_ok_iff {t : Text} {node : Node} :
    parse t = .ok node ↔ line.parse t.trimEnd = .ok ⟨(node.name, node.left, node.right), []⟩ := by
  rw [parse]
  show (Typed.parseComplete line t.trimEnd).bind _ = _ ↔ _
  constructor
  · intro h
    cases hline : line.parseComplete t.trimEnd with
    | error cause =>
      rw [hline] at h
      cases h
    | ok value =>
      rw [hline] at h
      cases h
      exact complete_eq_ok_iff.mp hline
  · intro h
    have hline : line.parseComplete t.trimEnd = .ok (node.name, node.left, node.right) :=
      complete_eq_ok_iff.mpr h
    rw [hline]
    rfl

/-- **A line is spelled in one way.** Every piece is a run that stops where the next one begins. -/
theorem Spells.unique {text : Text} {node node' : Node} {blanks blanks' : Spacing}
    (h : Spells text node blanks) (h' : Spells text node' blanks') :
    node = node' ∧ blanks = blanks' := by
  have same := h.text_eq.symm.trans h'.text_eq
  rw [spelled_eq, spelled_eq] at same
  obtain ⟨name, same⟩ := Text.run_append_inj h.name h'.name
    (h.beforeEquals.stops isAlpha_eq_false_of_isBlank _)
    (h'.beforeEquals.stops isAlpha_eq_false_of_isBlank _) same
  obtain ⟨beforeEquals, same⟩ := Text.run_append_inj h.beforeEquals h'.beforeEquals
    (Text.stops_cons (by decide) _) (Text.stops_cons (by decide) _) same
  obtain ⟨afterEquals, same⟩ := Text.run_append_inj h.afterEquals h'.afterEquals
    (Text.stops_cons (by decide) _) (Text.stops_cons (by decide) _) (List.tail_eq_of_cons_eq same)
  obtain ⟨left, same⟩ := Text.run_append_inj h.left h'.left
    (Text.stops_cons (by decide) _) (Text.stops_cons (by decide) _) (List.tail_eq_of_cons_eq same)
  obtain ⟨afterComma, same⟩ := Text.run_append_inj h.afterComma h'.afterComma
    (h.right.stops isBlank_eq_false_of_isAlpha _) (h'.right.stops isBlank_eq_false_of_isAlpha _)
    (List.tail_eq_of_cons_eq same)
  obtain ⟨right, -⟩ := Text.run_append_inj h.right h'.right
    (Text.stops_cons (by decide) _) (Text.stops_cons (by decide) _) same
  have nodes : node = node' := congr (congr (congrArg Node.mk name) left) right
  have spacings : blanks = blanks' :=
    congr (congr (congrArg Spacing.mk beforeEquals) afterEquals) afterComma
  exact ⟨nodes, spacings⟩

/-- **The node parser accepts exactly the spelled lines.** A line gives a node if and only if the
line, without the blanks at its end, spells this node with some blanks; every other line is
refused; and a line spells one node at most, with one choice of blanks. -/
theorem parse_accepts_exactly_spelled (t : Text) :
    (∀ node, parse t = .ok node ↔ ∃ blanks, Spells t.trimEnd node blanks) ∧
    ((∃ cause, parse t = .error cause) ↔ ¬∃ node blanks, Spells t.trimEnd node blanks) ∧
    ∀ node blanks node' blanks', Spells t.trimEnd node blanks → Spells t.trimEnd node' blanks' →
      node = node' ∧ blanks = blanks' := by
  have accepts (node : Node) : parse t = .ok node ↔ ∃ blanks, Spells t.trimEnd node blanks := by
    rw [parse_eq_ok_iff, parse_line_eq_ok_iff]
    exact and_iff_right rfl
  refine ⟨accepts, ?_, fun _ _ _ _ => Spells.unique⟩
  constructor
  · rintro ⟨cause, refused⟩ ⟨node, spelled⟩
    rw [(accepts node).mpr spelled] at refused
    cases refused
  · intro none
    cases h : parse t with
    | error cause => exact ⟨cause, rfl⟩
    | ok node => exact absurd ⟨node, (accepts node).mp h⟩ none

/-- Blanks of several kinds, a no-break space and a carriage return among them. -/
theorem parse_accepts_exactly_spelled_with_wide_blanks :
    ∃ blanks, Spells "AB\u00A0=\u3000\t(c, \u2003DE)".toList
      ⟨"AB".toList, ['c'], "DE".toList⟩ blanks :=
  ((parse_accepts_exactly_spelled "AB\u00A0=\u3000\t(c, \u2003DE)\r\n".toList).1 _).mp
    (by decide +kernel)

end Node

end LineGrammar
