import LineGrammar.Regex.Build
import LineGrammar.Regex.Footprint

/-!
Sets of ASCII characters. A set is built by adding one character after another; none of its flips
leaves the code points of ASCII, so it has few ranges, the automaton that reads one of its
characters takes little room, and if the form of the set shows a single member then that is its only
one.

* `CharSet.Ascii`: no code point beyond ASCII is a member.
* `CharSet.isAscii_of_ascii`, `CharSet.length_ranges_le`: its ranges are within ASCII, and few.
* `CharSet.contains_of_only?`: its only member.
* `CharSet.ofChars`: the set of the characters of a text.
-/

namespace LineGrammar

namespace CharSet

/-- No code point beyond ASCII belongs to the set. -/
def Ascii (s : CharSet) : Prop := ∀ n, 0x80 ≤ n → member false s.flips n = false

variable {s a b : CharSet} {c : Char}

theorem ascii_empty : Ascii .empty := fun _ _ => rfl

theorem flips_single (h : c.toNat < 0x80) : (single c).flips = [c.toNat, c.toNat + 1] := by
  have closing : closing c.toNat = [c.toNat + 1] := by
    rw [CharSet.closing, if_neg (by omega), if_neg (by omega)]
  rw [single, range, dif_pos (Nat.le_refl _)]
  show c.toNat :: CharSet.closing c.toNat = _
  rw [closing]

theorem ascii_single (h : c.toNat < 0x80) : Ascii (.single c) := by
  intro n hn
  rw [flips_single h, member, if_neg (by omega), member, if_neg (by omega)]
  rfl

theorem Ascii.union (ha : Ascii a) (hb : Ascii b) : Ascii (a.union b) := by
  intro n hn
  have merged := member_merge (· || ·) false false (Nat.le_refl _) a.ascending b.ascending n
  rw [ha n hn, hb n hn] at merged
  exact merged

/-! ### Ranges -/

/-- Where a pair of flips is followed by others, and nothing beyond ASCII is between them. -/
theorem lt_of_flips {first next m : Nat} {rest : List Nat}
    (ascending : ascendingFrom m (first :: next :: rest) = true)
    (ascii : ∀ n, 0x80 ≤ n → member false (first :: next :: rest) n = false) :
    m ≤ first ∧ first < next ∧ next ≤ 0x80 ∧ ascendingFrom (next + 1) rest = true ∧
      ∀ n, 0x80 ≤ n → member false rest n = false := by
  simp only [ascendingFrom, Bool.and_eq_true, decide_eq_true_eq] at ascending
  obtain ⟨hfirst, hnext, hrest⟩ := ascending
  have bound : next ≤ 0x80 := by
    refine Nat.le_of_not_lt fun beyond => ?_
    have inside := ascii (next - 1) (by omega)
    rw [member, if_neg (by omega), member, if_pos (by omega)] at inside
    cases inside
  refine ⟨hfirst, by omega, bound, hrest, fun n hn => ?_⟩
  have later := ascii n hn
  rwa [member, if_neg (by omega), member, if_neg (by omega)] at later

/-- A single flip at the end would go on beyond ASCII. -/
theorem not_ascii_of_last_flip {first : Nat}
    (ascii : ∀ n, 0x80 ≤ n → member false [first] n = false) : False := by
  have inside := ascii (max first 0x80) (Nat.le_max_right _ _)
  rw [member, if_neg (Nat.not_lt.mpr (Nat.le_max_left _ _))] at inside
  cases inside

/-- The ranges between flips within ASCII end within ASCII, and there are no more of them than code
points from the first flip on. -/
theorem ranges_go_of_ascii {m : Nat} (flips : List Nat) (ascending : ascendingFrom m flips = true)
    (ascii : ∀ n, 0x80 ≤ n → member false flips n = false) :
    (∀ r ∈ ranges.go flips, r.2 < 0x80) ∧ (ranges.go flips).length ≤ 0x80 - m := by
  match flips with
  | [] => exact ⟨nofun, Nat.zero_le _⟩
  | [first] => exact (not_ascii_of_last_flip ascii).elim
  | first :: next :: rest =>
    obtain ⟨hfirst, hnext, bound, later, asciiLater⟩ := lt_of_flips ascending ascii
    obtain ⟨within, few⟩ := ranges_go_of_ascii rest later asciiLater
    rw [ranges.go]
    constructor
    · intro r hr
      rcases List.mem_cons.mp hr with rfl | hr
      · show next - 1 < 0x80
        omega
      · exact within r hr
    · rw [List.length_cons]
      omega

theorem isAscii_of_ascii (h : s.Ascii) : s.isAscii = true := by
  refine List.all_eq_true.mpr fun r hr => ?_
  exact decide_eq_true ((ranges_go_of_ascii s.flips s.ascending h).1 r hr)

theorem length_ranges_le (h : s.Ascii) : s.ranges.length ≤ 0x80 :=
  (ranges_go_of_ascii s.flips s.ascending h).2

/-! ### A single member -/

theorem only?_single (h : c.toNat < 0x80) : (single c).only? = some c := by
  rw [only?, flips_single h]
  simp

/-- A set of ASCII characters whose form shows one member has no other. -/
theorem contains_of_only? (h : s.Ascii) (only : s.only? = some c) (d : Char) :
    s.contains d = decide (d = c) := by
  have ascending := s.ascending
  rw [only?] at only
  split at only
  · next first hflips =>
    rw [Ascii, hflips] at h
    exact (not_ascii_of_last_flip h).elim
  · next first next hflips =>
    rw [Ascii, hflips] at h
    rw [hflips] at ascending
    obtain ⟨-, hnext, bound, -⟩ := lt_of_flips ascending h
    split at only
    · next together =>
      have after : next = first + 1 := by
        rw [closing, if_neg (by omega), if_neg (by omega)] at together
        simpa [eq_comm] using together
      have valid : first.isValidChar := .inl (by omega)
      have code : c.toNat = first := by
        rw [← Option.some.inj only, Char.ofNat, dif_pos valid]
        rfl
      rw [contains, hflips, after, ← code]
      by_cases same : d = c
      · subst same
        simp [member]
      · have apart : d.toNat ≠ c.toNat := fun codes => same (Char.toNat_inj.mp codes)
        simp only [member, same, decide_false]
        split
        · rfl
        · rw [if_neg (by omega)]
          rfl
    · cases only
  · cases only

/-! ### The characters of a text -/

/-- The set with the characters of a text added. -/
def withChars (s : CharSet) (cs : Text) : CharSet := cs.foldl (fun s c => s.union (.single c)) s

/-- The set of the characters of a text. -/
def ofChars (cs : Text) : CharSet := withChars .empty cs

theorem contains_withChars (s : CharSet) (cs : Text) (d : Char) :
    (s.withChars cs).contains d = (s.contains d || decide (d ∈ cs)) := by
  induction cs generalizing s with
  | nil => simp [withChars]
  | cons c rest ih =>
    rw [withChars, List.foldl_cons]
    refine (ih _).trans ?_
    rw [contains_union, contains_single, Bool.or_assoc, ← Bool.decide_or]
    simp only [List.mem_cons]

theorem contains_ofChars (cs : Text) : (ofChars cs).contains = fun d => decide (d ∈ cs) := by
  funext d
  rw [ofChars, contains_withChars, contains_empty, Bool.false_or]

theorem ascii_ofChars {cs : Text} (h : ∀ c ∈ cs, c.toNat < 0x80) : (ofChars cs).Ascii := by
  have along (s : CharSet) (hs : s.Ascii) : (s.withChars cs).Ascii := by
    induction cs generalizing s with
    | nil => exact hs
    | cons c rest ih =>
      refine ih (fun d hd => h d (List.mem_cons_of_mem c hd)) _ ?_
      exact hs.union (ascii_single (h c List.mem_cons_self))
  exact along .empty ascii_empty

end CharSet

end LineGrammar
