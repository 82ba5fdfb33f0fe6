/-!
Sets of characters. A set is kept as the ascending list of the code points at which membership
changes, so two sets with the same members are equal and the set operations go through both lists
once. The `contains` lemmas say what every operation does to membership.
-/

namespace LineGrammar

namespace CharSet

/-- Whether the numbers ascend strictly and none of them is less than `n`. -/
def ascendingFrom : Nat → List Nat → Bool
  | _, [] => true
  | n, flip :: rest => n ≤ flip && ascendingFrom (flip + 1) rest

/-- Membership of `n`, when it is `inside` in front of all flips. -/
def member (inside : Bool) : List Nat → Nat → Bool
  | [], _ => inside
  | flip :: rest, n => if n < flip then inside else member (!inside) rest n

theorem ascendingFrom_nil (n : Nat) : ascendingFrom n [] = true := rfl

theorem ascendingFrom_mono {m n : Nat} (h : m ≤ n) {flips : List Nat} :
    ascendingFrom n flips = true → ascendingFrom m flips = true := by
  cases flips with
  | nil => exact id
  | cons flip rest =>
    simp only [ascendingFrom, Bool.and_eq_true, decide_eq_true_eq]
    exact fun ⟨hn, hr⟩ => ⟨Nat.le_trans h hn, hr⟩

theorem member_of_lt {b : Bool} {m n : Nat} {flips : List Nat}
    (h : ascendingFrom m flips = true) (hn : n < m) : member b flips n = b := by
  cases flips with
  | nil => rfl
  | cons flip rest =>
    simp only [ascendingFrom, Bool.and_eq_true, decide_eq_true_eq] at h
    simp [member, Nat.lt_of_lt_of_le hn h.1]

/-- Puts a flip in front where membership changes. -/
def flipIf (changes : Bool) (flip : Nat) (rest : List Nat) : List Nat :=
  if changes then flip :: rest else rest

/-- The flips of a combination of two sets, from the memberships in front of theirs. The fuel
bounds the number of flips. -/
def merge (op : Bool → Bool → Bool) : Nat → Bool → Bool → List Nat → List Nat → List Nat
  | 0, _, _, _, _ => []
  | _ + 1, _, _, [], [] => []
  | fuel + 1, x, y, f :: as, [] =>
    flipIf (op x y != op (!x) y) f (merge op fuel (!x) y as [])
  | fuel + 1, x, y, [], g :: bs =>
    flipIf (op x y != op x (!y)) g (merge op fuel x (!y) [] bs)
  | fuel + 1, x, y, f :: as, g :: bs =>
    if f < g then flipIf (op x y != op (!x) y) f (merge op fuel (!x) y as (g :: bs))
    else if g < f then flipIf (op x y != op x (!y)) g (merge op fuel x (!y) (f :: as) bs)
    else flipIf (op x y != op (!x) (!y)) f (merge op fuel (!x) (!y) as bs)

theorem ascendingFrom_flipIf {changes : Bool} {m flip : Nat} {rest : List Nat} (hm : m ≤ flip)
    (h : ascendingFrom (flip + 1) rest = true) :
    ascendingFrom m (flipIf changes flip rest) = true := by
  cases changes with
  | false => exact ascendingFrom_mono (by omega) h
  | true => simp [flipIf, ascendingFrom, hm, h]

theorem ascendingFrom_merge (op : Bool → Bool → Bool) (fuel : Nat) {m : Nat} (x y : Bool)
    {as bs : List Nat} (ha : ascendingFrom m as = true) (hb : ascendingFrom m bs = true) :
    ascendingFrom m (merge op fuel x y as bs) = true := by
  induction fuel generalizing m x y as bs with
  | zero => rfl
  | succ fuel ih =>
    match as, bs with
    | [], [] => rfl
    | f :: as, [] =>
      simp only [ascendingFrom, Bool.and_eq_true, decide_eq_true_eq] at ha
      exact ascendingFrom_flipIf ha.1 (ih _ _ ha.2 rfl)
    | [], g :: bs =>
      simp only [ascendingFrom, Bool.and_eq_true, decide_eq_true_eq] at hb
      exact ascendingFrom_flipIf hb.1 (ih _ _ rfl hb.2)
    | f :: as, g :: bs =>
      have ha' := ha
      have hb' := hb
      simp only [ascendingFrom, Bool.and_eq_true, decide_eq_true_eq] at ha hb
      simp only [merge]
      split
      · refine ascendingFrom_flipIf ha.1 (ih _ _ ha.2 ?_)
        simp only [ascendingFrom, Bool.and_eq_true, decide_eq_true_eq]
        exact ⟨by omega, hb.2⟩
      · split
        · refine ascendingFrom_flipIf hb.1 (ih _ _ ?_ hb.2)
          simp only [ascendingFrom, Bool.and_eq_true, decide_eq_true_eq]
          exact ⟨by omega, ha.2⟩
        · obtain rfl : f = g := by omega
          exact ascendingFrom_flipIf ha.1 (ih _ _ ha.2 hb.2)

theorem member_flipIf {before after : Bool} {flip n : Nat} {rest : List Nat}
    (h : ascendingFrom (flip + 1) rest = true) :
    member before (flipIf (before != after) flip rest) n =
      if n < flip then before else member after rest n := by
  by_cases same : before = after
  · subst same
    by_cases hn : n < flip
    · simp [flipIf, hn, member_of_lt h (Nat.lt_succ_of_lt hn)]
    · simp [flipIf, hn]
  · have turned : after = !before := by cases before <;> cases after <;> simp_all
    subst turned
    cases before <;> simp [flipIf, member]

theorem member_merge (op : Bool → Bool → Bool) {fuel m : Nat} (x y : Bool) {as bs : List Nat}
    (enough : as.length + bs.length ≤ fuel) (ha : ascendingFrom m as = true)
    (hb : ascendingFrom m bs = true) (n : Nat) :
    member (op x y) (merge op fuel x y as bs) n = op (member x as n) (member y bs n) := by
  induction fuel generalizing m x y as bs with
  | zero =>
    obtain rfl : as = [] := List.eq_nil_of_length_eq_zero (by omega)
    obtain rfl : bs = [] := List.eq_nil_of_length_eq_zero (by omega)
    rfl
  | succ fuel ih =>
    match as, bs with
    | [], [] => rfl
    | f :: as, [] =>
      simp only [ascendingFrom, Bool.and_eq_true, decide_eq_true_eq] at ha
      simp only [List.length_cons] at enough
      rw [merge, member_flipIf (ascendingFrom_merge op _ _ _ ha.2 rfl)]
      by_cases hn : n < f
      · simp [hn, member]
      · simp [hn, member, ih (!x) y (by simpa using enough) ha.2 (ascendingFrom_nil _)]
    | [], g :: bs =>
      simp only [ascendingFrom, Bool.and_eq_true, decide_eq_true_eq] at hb
      simp only [List.length_cons] at enough
      rw [merge, member_flipIf (ascendingFrom_merge op _ _ _ rfl hb.2)]
      by_cases hn : n < g
      · simp [hn, member]
      · simp [hn, member, ih x (!y) (by simpa using enough) (ascendingFrom_nil _) hb.2]
    | f :: as, g :: bs =>
      simp only [ascendingFrom, Bool.and_eq_true, decide_eq_true_eq] at ha hb
      simp only [List.length_cons] at enough
      simp only [merge]
      split
      next less =>
        have hb' : ascendingFrom (f + 1) (g :: bs) = true := by
          simpa only [ascendingFrom, Bool.and_eq_true, decide_eq_true_eq] using
            ⟨Nat.succ_le_of_lt less, hb.2⟩
        rw [member_flipIf (ascendingFrom_merge op _ _ _ ha.2 hb'),
          ih (!x) y (by simp only [List.length_cons]; omega) ha.2 hb']
        by_cases hn : n < f
        · simp [hn, member, Nat.lt_trans hn less]
        · simp [hn, member]
      next =>
        split
        next less =>
          have ha' : ascendingFrom (g + 1) (f :: as) = true := by
            simpa only [ascendingFrom, Bool.and_eq_true, decide_eq_true_eq] using
              ⟨Nat.succ_le_of_lt less, ha.2⟩
          rw [member_flipIf (ascendingFrom_merge op _ _ _ ha' hb.2),
            ih x (!y) (by simp only [List.length_cons]; omega) ha' hb.2]
          by_cases hn : n < g
          · simp [hn, member, Nat.lt_trans hn less]
          · simp [hn, member]
        next =>
          obtain rfl : f = g := by omega
          rw [member_flipIf (ascendingFrom_merge op _ _ _ ha.2 hb.2),
            ih (!x) (!y) (by omega) ha.2 hb.2]
          by_cases hn : n < f <;> simp [hn, member]

end CharSet

/-- A set of characters. Membership changes at each of the flips, and no character is a member in
front of the first one. -/
structure CharSet where
  flips : List Nat
  ascending : CharSet.ascendingFrom 0 flips = true := by rfl
  deriving DecidableEq

namespace CharSet

/-- Whether a character belongs to the set. -/
def contains (s : CharSet) (c : Char) : Bool := member false s.flips c.toNat

/-- The set without members. -/
def empty : CharSet := ⟨[], rfl⟩

/-- Every character. -/
def all : CharSet := ⟨[0], rfl⟩

/-- The flips that end a set at the given last code point. The surrogates are no characters; they
go with the last code point in front of them. -/
def closing (last : Nat) : List Nat :=
  if last = 0xD7FF then [0xE000] else if last = 0x10FFFF then [] else [last + 1]

theorem ascendingFrom_closing (last : Nat) : ascendingFrom (last + 1) (closing last) = true := by
  unfold closing
  split
  · subst_vars; rfl
  · split
    · rfl
    · simp [ascendingFrom]

/-- The characters from the first to the last. -/
def range (first last : Char) : CharSet :=
  if h : first.toNat ≤ last.toNat then
    ⟨first.toNat :: closing last.toNat, by
      simpa [ascendingFrom] using
        ascendingFrom_mono (Nat.succ_le_succ h) (ascendingFrom_closing last.toNat)⟩
  else empty

/-- The set of one character. -/
def single (c : Char) : CharSet := range c c

/-- What an operation makes of two sets. -/
def combine (op : Bool → Bool → Bool) (a b : CharSet) : CharSet :=
  ⟨merge op (a.flips.length + b.flips.length) false false a.flips b.flips,
    ascendingFrom_merge op _ _ _ a.ascending b.ascending⟩

/-- The members of either set. -/
def union : CharSet → CharSet → CharSet := combine (· || ·)

/-- The common members of both sets. -/
def inter : CharSet → CharSet → CharSet := combine (· && ·)

/-- The members of the first set that are not in the second. -/
def diff : CharSet → CharSet → CharSet := combine fun x y => x && !y

/-- The members of exactly one of the sets. -/
def symmDiff : CharSet → CharSet → CharSet := combine (· != ·)

/-- The characters that are not in the set. -/
def compl (s : CharSet) : CharSet := all.diff s

/-- The union of ranges. -/
def ofRanges (ranges : List (Char × Char)) : CharSet :=
  ranges.foldl (fun s r => s.union (range r.1 r.2)) empty

/-- The ASCII characters. -/
def ascii : CharSet := range '\x00' '\x7f'

@[simp] theorem contains_empty (c : Char) : empty.contains c = false := rfl

@[simp] theorem contains_all (c : Char) : all.contains c = true := rfl

theorem contains_combine {op : Bool → Bool → Bool} (none : op false false = false)
    (a b : CharSet) (c : Char) :
    (combine op a b).contains c = op (a.contains c) (b.contains c) := by
  have := member_merge op false false (Nat.le_refl _) a.ascending b.ascending c.toNat
  rwa [none] at this

@[simp] theorem contains_union (a b : CharSet) (c : Char) :
    (a.union b).contains c = (a.contains c || b.contains c) := contains_combine rfl a b c

@[simp] theorem contains_inter (a b : CharSet) (c : Char) :
    (a.inter b).contains c = (a.contains c && b.contains c) := contains_combine rfl a b c

@[simp] theorem contains_diff (a b : CharSet) (c : Char) :
    (a.diff b).contains c = (a.contains c && !b.contains c) := contains_combine rfl a b c

@[simp] theorem contains_symmDiff (a b : CharSet) (c : Char) :
    (a.symmDiff b).contains c = (a.contains c != b.contains c) := contains_combine rfl a b c

@[simp] theorem contains_compl (s : CharSet) (c : Char) :
    s.compl.contains c = !s.contains c := by simp [compl]

theorem toNat_notSurrogate (c : Char) :
    c.toNat < 0xD800 ∨ (0xDFFF < c.toNat ∧ c.toNat < 0x110000) := c.valid

theorem member_closing (last : Nat) (c : Char) (h : last < 0x110000) :
    member true (closing last) c.toNat = decide (c.toNat ≤ last) := by
  have valid := toNat_notSurrogate c
  unfold closing
  split
  · subst_vars
    by_cases hc : c.toNat < 0xE000
    · simp [member, hc]; omega
    · simp [member, hc]; omega
  · split
    · simp [member]; omega
    · by_cases hc : c.toNat < last + 1
      · simp [member, hc]; omega
      · simp [member, hc]; omega

@[simp] theorem contains_range (first last c : Char) :
    (range first last).contains c = (decide (first ≤ c) && decide (c ≤ last)) := by
  have bound : last.toNat < 0x110000 := by have := toNat_notSurrogate last; omega
  have le_def (a b : Char) : a ≤ b ↔ a.toNat ≤ b.toNat := Iff.rfl
  unfold range
  split
  next h =>
    simp only [contains, member, le_def]
    by_cases hc : c.toNat < first.toNat
    · simp [hc, Nat.not_le_of_lt hc]
    · simp [hc, member_closing _ _ bound, Nat.le_of_not_lt hc]
  next h =>
    simp only [contains_empty, le_def]
    by_cases hc : first.toNat ≤ c.toNat
    · have beyond : ¬c.toNat ≤ last.toNat := by omega
      simp [hc, beyond]
    · simp [hc]

@[simp] theorem contains_single (c d : Char) : (single c).contains d = decide (d = c) := by
  by_cases h : d = c
  · subst h; simp [single]
  · have apart : ¬(c ≤ d ∧ d ≤ c) := fun both => h (Char.le_antisymm both.2 both.1)
    simp only [single, contains_range, h, decide_false, Bool.and_eq_false_iff,
      decide_eq_false_iff_not]
    exact Decidable.not_and_iff_not_or_not.1 apart

/-- The ranges of the set, first and last code point of each. The surrogates count as members
where the code points in front of them and after them do. -/
def ranges (s : CharSet) : List (Nat × Nat) := go s.flips
where
  /-- The ranges from a list of flips. -/
  go : List Nat → List (Nat × Nat)
    | [] => []
    | [first] => [(first, 0x10FFFF)]
    | first :: next :: rest => (first, next - 1) :: go rest

/-- The only member of the set, if there is exactly one. -/
def only? (s : CharSet) : Option Char :=
  match s.flips with
  | [first] => if first = 0x10FFFF then some (Char.ofNat first) else none
  | [first, next] =>
    if next = first + 1 || closing first = [next] then some (Char.ofNat first) else none
  | _ => none

/-- Whether all members are ASCII characters. -/
def isAscii (s : CharSet) : Bool := s.ranges.all fun r => r.2 < 0x80

end CharSet

end LineGrammar
