import LiftRig.Channel.Reading
import Mathlib.Algebra.Order.BigOperators.Group.List
import Mathlib.Data.Nat.Digits.Defs

/-!
# The notation of channels

Which texts name a channel, told apart from how they are read: a name, a number, or two numbers
around a plus sign, where a number is what its digits are worth at their places, of whatever
length. Main statements: a text is read as a channel exactly if it is a name of that channel, or
is no name and writes the packed form, so that nothing beyond sixteen bits is read as a channel;
and a text that is refused writes a number beyond sixteen bits, or it is not recognised, for lack
of a number or because one exceeds the word of 32 bits. The wording of the errors is left out.
-/

namespace LiftRig

/-! ## Digits and their places -/

namespace Text

variable {base acc n m v : Nat} {c : Char} {s : List Char}

/-- The characters of the digits, each at the place of its value. -/
def digitChars : List Char :=
  ['0', '1', '2', '3', '4', '5', '6', '7', '8', '9', 'a', 'b', 'c', 'd', 'e', 'f']

/-- A character is a digit of a base, in either case, with its value. -/
def Digit (base : Nat) (c : Char) (value : Nat) : Prop :=
  digitChars.idxOf? c.toLower = some value ∧ value < base

/-- Digits of a base, at least one, write the number that they are worth at their places. -/
def Numeral (base : Nat) (s : List Char) (n : Nat) : Prop :=
  ∃ values : List Nat, s ≠ [] ∧ List.Forall₂ (Digit base) s values ∧
    n = Nat.ofDigits base values.reverse

/-- Beyond ASCII there are neither digits nor capital letters. -/
theorem digitValue?_of_not_ascii (hc : 128 ≤ c.toNat) :
    digitValue? c = none ∧ c.toLower = c := by
  have above : ∀ d : Char, d.toNat < 128 → ¬ c ≤ d := by
    intro d hd hle
    have hval : c.toNat ≤ d.toNat := UInt32.le_iff_toNat_le.1 hle
    omega
  constructor
  · rw [digitValue?, if_neg fun h => above '9' (by decide) h.2,
      if_neg fun h => above 'f' (by decide) h.2, if_neg fun h => above 'F' (by decide) h.2]
  · exact dif_neg fun h => above 'Z' (by decide) h.2

theorem digitValue?_eq_idxOf? (c : Char) : digitValue? c = digitChars.idxOf? c.toLower := by
  have ascii : ∀ k : Fin 128, digitValue? (Char.ofNat k) =
      digitChars.idxOf? (Char.ofNat k).toLower := by decide +kernel
  have small : digitChars.all (·.toNat < 128) := by decide
  by_cases hc : c.toNat < 128
  · simpa using ascii ⟨c.toNat, hc⟩
  · obtain ⟨hvalue, hlower⟩ := digitValue?_of_not_ascii (Nat.not_lt.1 hc)
    rw [hvalue, hlower, eq_comm, List.idxOf?_eq_none_iff]
    exact fun hmem => hc (of_decide_eq_true (List.all_eq_true.1 small c hmem))

theorem digit?_eq_some_iff : digit? base c = some v ↔ Digit base c v := by
  rw [digit?, digitValue?_eq_idxOf?, Option.filter_eq_some_iff, decide_eq_true_iff, Digit]

/-- A digit that is read counts for one place less than what was read before it. -/
theorem ofDigits_place (base acc v : Nat) (values : List Nat) :
    Nat.ofDigits base ((acc * base + v) :: values).reverse =
      Nat.ofDigits base (acc :: v :: values).reverse := by
  simp only [List.reverse_cons, Nat.ofDigits_append, Nat.ofDigits_singleton, List.length_append,
    List.length_reverse, List.length_singleton]
  ring

/-- A run of digits goes on from the value of the run before it. -/
theorem digitsFrom?_eq_some_iff : digitsFrom? base acc s = some n ↔
    ∃ values : List Nat, List.Forall₂ (Digit base) s values ∧
      n = Nat.ofDigits base (acc :: values).reverse := by
  induction s generalizing acc with
  | nil =>
    constructor
    · rintro ⟨rfl⟩
      exact ⟨[], .nil, (Nat.ofDigits_singleton ..).symm⟩
    · rintro ⟨values, hvalues, rfl⟩
      cases hvalues
      exact congrArg some (Nat.ofDigits_singleton ..).symm
  | cons c rest ih =>
    rw [digitsFrom?, Option.bind_eq_some_iff]
    constructor
    · rintro ⟨v, hv, hrest⟩
      obtain ⟨values, hvalues, rfl⟩ := ih.1 hrest
      exact ⟨v :: values, .cons (digit?_eq_some_iff.1 hv) hvalues, ofDigits_place base acc v values⟩
    · rintro ⟨_, hall, rfl⟩
      cases hall with
      | cons hv hvalues =>
        exact ⟨_, digit?_eq_some_iff.2 hv, ih.2 ⟨_, hvalues, (ofDigits_place ..).symm⟩⟩

/-- Digits are read as the number that they write. -/
theorem digits?_eq_some_iff : digits? base s = some n ↔ Numeral base s n := by
  cases s with
  | nil => simp [digits?, Numeral]
  | cons c rest =>
    rw [digits?, digitsFrom?_eq_some_iff]
    simp [Numeral]

theorem Numeral.unique (h : Numeral base s n) (h' : Numeral base s m) : n = m := by
  rw [← digits?_eq_some_iff] at h h'
  exact Option.some.inj (h.symm.trans h')

end Text

namespace Channel

open Wiring

variable {base n m : Nat} {s t : List Char} {c : Channel}

/-! ## Numbers -/

/-- Digits of a base write a number, be it after a plus sign. -/
inductive Signed (base : Nat) : List Char → Nat → Prop
  | bare {s : List Char} {n : Nat} (h : Text.Numeral base s n) : Signed base s n
  | plus {s : List Char} {n : Nat} (h : Text.Numeral base s n) : Signed base ('+' :: s) n

/-- A number is written in decimal, or in hexadecimal after its mark. -/
inductive Based : List Char → Nat → Prop
  | decimal {s : List Char} {n : Nat} (h : Signed 10 s n) : Based s n
  | hexadecimal {x : Char} {s : List Char} {n : Nat} (hx : x = 'x' ∨ x = 'X')
      (h : Signed 16 s n) : Based ('0' :: x :: s) n

/-- A text writes a number, of any length, perhaps with blanks around it. -/
def Number (s : List Char) (n : Nat) : Prop := Based (Text.trim s) n

/-- What a text writes: a number, or two numbers around its first plus sign. -/
inductive Writes : List Char → List Nat → Prop
  | number {s : List Char} {n : Nat} (hplus : '+' ∉ s) (h : Number s n) : Writes s [n]
  | sum {s t : List Char} {a b : Nat} (hplus : '+' ∉ s) (ha : Number s a) (hb : Number t b) :
      Writes (s ++ '+' :: t) [a, b]

/-- A text is a name of a channel, in any ASCII case, perhaps with blanks around it. -/
def Names (s : List Char) (c : Channel) : Prop :=
  ∃ name, (name, c) ∈ named ∧ sameName name.toList (Text.trim s)

/-- A plus sign is no digit. -/
theorem not_numeral_plus : ¬ Text.Numeral base ('+' :: s) n := by
  intro h
  cases Text.digits?_eq_some_iff.2 h

/-- The mark of hexadecimal digits is no decimal digit. -/
theorem not_signed_mark {x : Char} (hx : x = 'x' ∨ x = 'X') : ¬ Signed 10 ('0' :: x :: s) n := by
  intro h
  cases h with
  | bare h => rcases hx with rfl | rfl <;> cases Text.digits?_eq_some_iff.2 h

theorem Signed.unique (h : Signed base s n) (h' : Signed base s m) : n = m := by
  cases h with
  | bare h =>
    cases h' with
    | bare h' => exact h.unique h'
    | plus => exact absurd h not_numeral_plus
  | plus h =>
    cases h' with
    | bare h' => exact absurd h' not_numeral_plus
    | plus h' => exact h.unique h'

theorem Number.unique (h : Number s n) (h' : Number s m) : n = m := by
  rw [Number] at h h'
  generalize Text.trim s = t at h h'
  cases h with
  | decimal h =>
    cases h' with
    | decimal h' => exact h.unique h'
    | hexadecimal hx => exact absurd h (not_signed_mark hx)
  | hexadecimal hx h =>
    cases h' with
    | decimal h' => exact absurd h' (not_signed_mark hx)
    | hexadecimal _ h' => exact h.unique h'

/-- A word is read from digits with at most one plus sign, if their number fits. -/
theorem word?_eq_some_iff : word? base s = some n ↔ Signed base s n ∧ n ≤ wordMax := by
  rw [word?.eq_def]
  split
  · next digits =>
    rw [Option.filter_eq_some_iff, decide_eq_true_iff, Text.digits?_eq_some_iff]
    refine and_congr_left fun _ => ⟨.plus, fun h => ?_⟩
    cases h with
    | bare h => exact absurd h not_numeral_plus
    | plus h => exact h
  · next hplus =>
    rw [Option.filter_eq_some_iff, decide_eq_true_iff, Text.digits?_eq_some_iff]
    refine and_congr_left fun _ => ⟨.bare, fun h => ?_⟩
    cases h with
    | bare h => exact h
    | plus h => exact absurd rfl (hplus _)

/-- After the mark of hexadecimal digits a number is hexadecimal. -/
theorem based_mark_iff {x : Char} (hx : x = 'x' ∨ x = 'X') :
    Based ('0' :: x :: s) n ↔ Signed 16 s n := by
  refine ⟨fun h => ?_, .hexadecimal hx⟩
  cases h with
  | decimal h => exact absurd h (not_signed_mark hx)
  | hexadecimal _ h => exact h

/-- A number is read if it fits the word. -/
theorem number?_eq_some_iff : number? s = some n ↔ Number s n ∧ n ≤ wordMax := by
  rw [number?, Number]
  generalize Text.trim s = t
  split
  · rw [word?_eq_some_iff, based_mark_iff (.inl rfl)]
  · rw [word?_eq_some_iff, based_mark_iff (.inr rfl)]
  · next hlower hupper =>
    rw [word?_eq_some_iff]
    refine and_congr_left fun _ => ⟨.decimal, fun h => ?_⟩
    cases h with
    | decimal h => exact h
    | hexadecimal hx =>
      rcases hx with rfl | rfl
      · exact absurd rfl (hlower _)
      · exact absurd rfl (hupper _)

/-! ## Sums -/

theorem ne_plus_of_not_mem (h : '+' ∉ s) : ∀ k ∈ s, (k != '+') = true :=
  fun _ hk => bne_iff_ne.2 fun hplus => h (hplus ▸ hk)

theorem value?_of_no_plus (h : '+' ∉ s) : value? s = number? s := by
  have hdrop : s.dropWhile (· != '+') = [] := by
    rw [← List.append_nil s, List.dropWhile_append_of_pos (ne_plus_of_not_mem h)]
    rfl
  rw [value?, hdrop]

/-- A text is split at its first plus sign. -/
theorem split_at_plus (h : '+' ∉ s) (t : List Char) :
    (s ++ '+' :: t).takeWhile (· != '+') = s ∧
      (s ++ '+' :: t).dropWhile (· != '+') = '+' :: t := by
  rw [List.takeWhile_append_of_pos (ne_plus_of_not_mem h),
    List.dropWhile_append_of_pos (ne_plus_of_not_mem h)]
  exact ⟨List.append_nil s, rfl⟩

theorem value?_of_plus (h : '+' ∉ s) : value? (s ++ '+' :: t) =
    (number? s).bind fun a => (number? t).map fun b => saturatingSum a b := by
  obtain ⟨htake, hdrop⟩ := split_at_plus h t
  simp only [value?, hdrop, htake]

/-- A text without a plus sign writes the number that it is, if it is one. -/
theorem writes_iff_of_no_plus (h : '+' ∉ s) {ns : List Nat} :
    Writes s ns ↔ ∃ n, ns = [n] ∧ Number s n := by
  constructor
  · intro hwrites
    cases hwrites with
    | number _ hn => exact ⟨_, rfl, hn⟩
    | sum => exact absurd (List.mem_append_right _ List.mem_cons_self) h
  · rintro ⟨n, rfl, hn⟩
    exact .number h hn

/-- A text with a plus sign writes the numbers on either side of the first one. -/
theorem writes_iff_of_plus (h : '+' ∉ s) {ns : List Nat} :
    Writes (s ++ '+' :: t) ns ↔ ∃ a b, ns = [a, b] ∧ Number s a ∧ Number t b := by
  constructor
  · intro hwrites
    generalize hsplit : s ++ '+' :: t = text at hwrites
    cases hwrites with
    | number hplus => exact absurd (hsplit ▸ List.mem_append_right _ List.mem_cons_self) hplus
    | @sum s' t' a b hplus ha hb =>
      obtain ⟨htake, hdrop⟩ := split_at_plus hplus t'
      rw [← hsplit, (split_at_plus h t).1] at htake
      rw [← hsplit, (split_at_plus h t).2] at hdrop
      obtain ⟨-, hoffset⟩ := List.cons.inj hdrop
      exact ⟨a, b, rfl, htake ▸ ha, hoffset ▸ hb⟩
  · rintro ⟨a, b, rfl, ha, hb⟩
    exact .sum h ha hb

theorem Writes.unique {ns ms : List Nat} (h : Writes s ns) (h' : Writes s ms) : ns = ms := by
  cases h with
  | number hplus hn =>
    obtain ⟨m, rfl, hm⟩ := (writes_iff_of_no_plus hplus).1 h'
    rw [hn.unique hm]
  | sum hplus ha hb =>
    obtain ⟨a', b', rfl, ha', hb'⟩ := (writes_iff_of_plus hplus).1 h'
    rw [ha.unique ha', hb.unique hb']

/-- What a text writes is read as the sum of its numbers, which the word holds at its greatest
number, if each of them fits the word. -/
theorem value?_eq_some_iff : value? s = some n ↔
    ∃ ns, Writes s ns ∧ (∀ k ∈ ns, k ≤ wordMax) ∧ n = min ns.sum wordMax := by
  by_cases hplus : '+' ∈ s
  · obtain ⟨before, offset, rfl, hfirst⟩ := List.eq_append_cons_of_mem hplus
    simp only [value?_of_plus hfirst, writes_iff_of_plus hfirst, Option.bind_eq_some_iff,
      Option.map_eq_some_iff, number?_eq_some_iff, saturatingSum]
    constructor
    · rintro ⟨a, ⟨ha, hafits⟩, b, ⟨hb, hbfits⟩, rfl⟩
      exact ⟨[a, b], ⟨a, b, rfl, ha, hb⟩, by simp [hafits, hbfits], by simp⟩
    · rintro ⟨_, ⟨a, b, rfl, ha, hb⟩, hfits, rfl⟩
      exact ⟨a, ⟨ha, hfits a (by simp)⟩, b, ⟨hb, hfits b (by simp)⟩, by simp⟩
  · simp only [value?_of_no_plus hplus, number?_eq_some_iff, writes_iff_of_no_plus hplus]
    constructor
    · rintro ⟨hn, hfits⟩
      exact ⟨[n], ⟨n, rfl, hn⟩, by simp [hfits], by simp [Nat.min_eq_left hfits]⟩
    · rintro ⟨_, ⟨k, rfl, hk⟩, hfits, rfl⟩
      have hfit : k ≤ wordMax := hfits k (by simp)
      simpa [Nat.min_eq_left hfit] using ⟨hk, hfit⟩

/-! ## Names -/

theorem sameName_iff : sameName s t ↔ s.map Char.toLower = t.map Char.toLower := beq_iff_eq

/-- A name is looked up in the list, in which no two names differ in case only. -/
theorem ofName?_eq_some_iff : ofName? s = some c ↔ Names s c := by
  have apart : ∀ x ∈ named, ∀ y ∈ named, sameName x.1.toList y.1.toList → x = y := by
    decide +kernel
  rw [ofName?, Option.map_eq_some_iff]
  constructor
  · rintro ⟨⟨name, k⟩, hfind, rfl⟩
    have hsame : sameName name.toList (Text.trim s) = true := by
      simpa using List.find?_some hfind
    exact ⟨name, List.mem_of_find?_eq_some hfind, hsame⟩
  · rintro ⟨name, hmem, hsame⟩
    cases hfind : named.find? fun entry => sameName entry.1.toList (Text.trim s) with
    | none => exact absurd hsame (List.find?_eq_none.1 hfind _ hmem)
    | some entry =>
      have hentry : sameName entry.1.toList (Text.trim s) = true := by
        simpa using List.find?_some hfind
      rw [sameName_iff] at hsame hentry
      have heq : entry = (name, c) := apart entry (List.mem_of_find?_eq_some hfind) _ hmem
        (sameName_iff.2 (hentry.trans hsame.symm))
      exact ⟨entry, rfl, congrArg Prod.snd heq⟩

theorem ofName?_eq_none_iff : ofName? s = none ↔ ∀ c, ¬ Names s c := by
  simp [Option.eq_none_iff_forall_ne_some, ofName?_eq_some_iff]

/-! ## Channels -/

/-- Nothing is read from a text that writes no number, or one that does not fit the word. -/
theorem value?_eq_none_iff :
    value? s = none ↔ ∀ ns, Writes s ns → ∃ k ∈ ns, wordMax < k := by
  constructor
  · intro hnone ns hwrites
    by_contra! hfits
    have hsome := value?_eq_some_iff.2 ⟨ns, hwrites, hfits, rfl⟩
    rw [hnone] at hsome
    cases hsome
  · intro hlong
    rw [Option.eq_none_iff_forall_ne_some]
    intro n hsome
    obtain ⟨ns, hwrites, hfits, -⟩ := value?_eq_some_iff.1 hsome
    obtain ⟨k, hk, hlt⟩ := hlong ns hwrites
    exact absurd (hfits k hk) (Nat.not_le.2 hlt)

/-- What sixteen bits hold is read without loss. -/
theorem value?_eq_some_iff_of_le (h : n ≤ 0xffff) :
    value? s = some n ↔ ∃ ns, Writes s ns ∧ ns.sum = n := by
  rw [value?_eq_some_iff]
  constructor
  · rintro ⟨ns, hwrites, -, rfl⟩
    refine ⟨ns, hwrites, ?_⟩
    rw [wordMax] at h ⊢
    omega
  · rintro ⟨ns, hwrites, rfl⟩
    have hword : ns.sum ≤ wordMax := Nat.le_trans h (by decide)
    exact ⟨ns, hwrites, fun k hk => Nat.le_trans (List.le_sum_of_mem hk) hword,
      (Nat.min_eq_left hword).symm⟩

/-- What sixteen bits do not hold is read as beyond them. -/
theorem exists_value?_iff_of_lt :
    (∃ n, value? s = some n ∧ 0xffff < n) ↔
      ∃ ns, Writes s ns ∧ (∀ k ∈ ns, k ≤ wordMax) ∧ 0xffff < ns.sum := by
  simp only [value?_eq_some_iff]
  constructor
  · rintro ⟨_, ⟨ns, hwrites, hfits, rfl⟩, hlt⟩
    exact ⟨ns, hwrites, hfits, (Nat.lt_min.1 hlt).1⟩
  · rintro ⟨ns, hwrites, hfits, hlt⟩
    exact ⟨_, ⟨ns, hwrites, hfits, rfl⟩, Nat.lt_min.2 ⟨hlt, by decide⟩⟩

theorem ofText_of_name {s : String} (h : Names s.toList c) : ofText s = .ok c := by
  rw [ofText, ofChars, ofName?_eq_some_iff.2 h]

/-- A text that is no name is read as what it writes. -/
theorem ofText_of_no_name {s : String} (h : ∀ c, ¬ Names s.toList c) : ofText s =
    match value? s.toList with
    | none => .error (.unrecognised s)
    | some n => if n ≤ 0xffff then .ok (ofRaw n) else .error (.outOfRange s) := by
  have hname := ofName?_eq_none_iff.2 h
  cases hvalue : value? s.toList with
  | none => simp [ofText, ofChars, hname, hvalue]
  | some n => simp [ofText, ofChars, hname, hvalue]

theorem ofText_eq_ok_iff_of_no_name {s : String} (h : ∀ c, ¬ Names s.toList c) :
    ofText s = .ok c ↔ ∃ n, value? s.toList = some n ∧ n ≤ 0xffff ∧ c.raw = n := by
  rw [ofText_of_no_name h]
  cases value? s.toList with
  | none => simp
  | some n =>
    by_cases hn : n ≤ 0xffff
    · simp only [hn, if_true]
      constructor
      · rintro ⟨rfl⟩
        exact ⟨n, rfl, hn, raw_ofRaw (Nat.lt_succ_of_le hn)⟩
      · rintro ⟨_, ⟨rfl⟩, -, hraw⟩
        rw [← hraw, ofRaw_raw]
    · simp only [hn, if_false]
      refine iff_of_false nofun ?_
      rintro ⟨_, ⟨rfl⟩, hle, -⟩
      exact hn hle

theorem ofText_eq_error_iff_of_no_name {s : String} {e : ChannelError}
    (h : ∀ c, ¬ Names s.toList c) :
    ofText s = .error e ↔
      (e = .outOfRange s ∧ ∃ n, value? s.toList = some n ∧ 0xffff < n) ∨
        (e = .unrecognised s ∧ value? s.toList = none) := by
  rw [ofText_of_no_name h]
  cases value? s.toList with
  | none => simp [eq_comm]
  | some n =>
    by_cases hn : n ≤ 0xffff
    · simp [hn]
    · simp [hn, Nat.lt_of_not_le hn, eq_comm]

/-- A text is read as a channel exactly if it is a name of it in any ASCII case, or is no name and
writes one number or two around its first plus sign, of which the sum is at most sixteen bits and is
the packed form of the channel. A greater sum is no channel, of whatever length its numbers are. -/
theorem ofText_eq_ok_iff (s : String) :
    (∀ c, ofText s = .ok c ↔ Names s.toList c ∨
      (∀ k, ¬ Names s.toList k) ∧
        ∃ ns, Writes s.toList ns ∧ ns.sum ≤ 0xffff ∧ c.raw = ns.sum) ∧
    ∀ ns, Writes s.toList ns → 0xffff < ns.sum → ∀ c, ofText s = .ok c → Names s.toList c := by
  have hread : ∀ c, ofText s = .ok c ↔ Names s.toList c ∨ (∀ k, ¬ Names s.toList k) ∧
      ∃ ns, Writes s.toList ns ∧ ns.sum ≤ 0xffff ∧ c.raw = ns.sum := by
    intro c
    by_cases hname : ∀ k, ¬ Names s.toList k
    · rw [ofText_eq_ok_iff_of_no_name hname]
      constructor
      · rintro ⟨n, hvalue, hle, hraw⟩
        obtain ⟨ns, hwrites, rfl⟩ := (value?_eq_some_iff_of_le hle).1 hvalue
        exact .inr ⟨hname, ns, hwrites, hle, hraw⟩
      · rintro (hc | ⟨-, ns, hwrites, hle, hraw⟩)
        · exact absurd hc (hname c)
        · exact ⟨ns.sum, (value?_eq_some_iff_of_le hle).2 ⟨ns, hwrites, rfl⟩, hle, hraw⟩
    · obtain ⟨k, hk⟩ := not_forall_not.1 hname
      rw [ofText_of_name hk]
      constructor
      · rintro ⟨rfl⟩
        exact .inl hk
      · rintro (hc | ⟨hnone, -⟩)
        · exact (ofText_of_name hk).symm.trans (ofText_of_name hc)
        · exact absurd hnone hname
  refine ⟨hread, fun ns hwrites hlt c hc => ?_⟩
  rcases (hread c).1 hc with hname | ⟨-, ms, hms, hle, -⟩
  · exact hname
  · rw [hwrites.unique hms] at hlt
    exact absurd hle (Nat.not_le.2 hlt)

example : ofText " 0X300 +\t0x+0E" = .ok lightStop := by decide +kernel

/-- A text that is no name is refused as out of range exactly if it writes more than sixteen bits
with numbers that each fit the word of 32 bits, and as unrecognised exactly if it writes no number,
or one that does not fit the word. -/
theorem ofText_eq_error_iff (s : String) (e : ChannelError) : ofText s = .error e ↔
    (∀ c, ¬ Names s.toList c) ∧
      ((e = .outOfRange s ∧
          ∃ ns, Writes s.toList ns ∧ (∀ k ∈ ns, k ≤ wordMax) ∧ 0xffff < ns.sum) ∨
        (e = .unrecognised s ∧ ∀ ns, Writes s.toList ns → ∃ k ∈ ns, wordMax < k)) := by
  by_cases hname : ∀ c, ¬ Names s.toList c
  · rw [ofText_eq_error_iff_of_no_name hname, exists_value?_iff_of_lt, value?_eq_none_iff]
    exact (and_iff_right hname).symm
  · obtain ⟨c, hc⟩ := not_forall_not.1 hname
    rw [ofText_of_name hc]
    exact iff_of_false nofun fun h => hname h.1

/-- The first number beyond the word of 32 bits is a number beyond sixteen bits and no name, and is
not recognised. -/
theorem number_beyond_word_unrecognised :
    (∀ c, ¬ Names "4294967296".toList c) ∧ Writes "4294967296".toList [4294967296] ∧
      ofText "4294967296" = .error (.unrecognised "4294967296") := by
  refine ⟨ofName?_eq_none_iff.1 (by decide +kernel), .number (by decide) ?_, by decide +kernel⟩
  exact .decimal (.bare (Text.digits?_eq_some_iff.1 (by decide +kernel)))

end Channel

end LiftRig
