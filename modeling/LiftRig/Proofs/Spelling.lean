import LiftRig.Proofs.Notation
import Mathlib.Data.List.Basic

/-!
# Spellings of channels

A channel is spelled in its written form, as its packed form in decimal or in hexadecimal with any
number of leading zeros, or by its symbolic name; letters may have either case, and blanks may stand
at either end and around the plus sign of the written form. Main statement: every spelling of a
channel is read as that channel. That no other text is read as it is not claimed here.
-/

namespace LiftRig

/-! ## Case and blanks -/

namespace Text

variable {base n v : Nat} {c : Char} {s t : List Char}

/-- A character is in lower case, or is the upper case of it. -/
theorem eq_toLower_or_toUpper (c : Char) : c = c.toLower ∨ c = c.toLower.toUpper := by
  have ascii : ∀ k : Fin 128, Char.ofNat k = (Char.ofNat k).toLower ∨
      Char.ofNat k = (Char.ofNat k).toLower.toUpper := by decide +kernel
  by_cases hc : c.toNat < 128
  · simpa using ascii ⟨c.toNat, hc⟩
  · exact .inl (digitValue?_of_not_ascii (Nat.not_lt.1 hc)).2.symm

/-- Blanks have no case. -/
theorem isBlank_toLower (c : Char) : isBlank c.toLower = isBlank c := by
  have ascii : ∀ k : Fin 128, isBlank (Char.ofNat k).toLower = isBlank (Char.ofNat k) := by
    decide +kernel
  by_cases hc : c.toNat < 128
  · simpa using ascii ⟨c.toNat, hc⟩
  · rw [(digitValue?_of_not_ascii (Nat.not_lt.1 hc)).2]

/-- A character that is no blank is kept at the left end, whatever follows it. -/
theorem trim_cons (hc : isBlank c = false) (s : List Char) : trim (c :: s) = c :: trimRight s := by
  have hdrop : (c :: s).dropWhile isBlank = c :: s := by
    rw [List.dropWhile_cons, if_neg (by simp [hc])]
  rw [trim, hdrop, trimRight, trimRight, List.reverse_cons, List.dropWhile_append]
  split
  · next hempty =>
    rw [List.isEmpty_iff.1 hempty, List.dropWhile_cons, if_neg (by simp [hc])]
    rfl
  · rw [List.reverse_append]
    rfl

theorem trim_of_no_blanks (h : ∀ c ∈ s, isBlank c = false) : trim s = s := by
  have hkept : ∀ t : List Char, (∀ c ∈ t, isBlank c = false) → t.dropWhile isBlank = t := by
    intro t ht
    cases t with
    | nil => rfl
    | cons c t => rw [List.dropWhile_cons, if_neg (by simp [ht c List.mem_cons_self])]
  rw [trim, hkept s h, trimRight, hkept s.reverse fun c hc => h c (List.mem_reverse.1 hc),
    List.reverse_reverse]

/-! ## Numerals -/

theorem Digit.mem_digitChars (h : Digit base c v) : c.toLower ∈ digitChars := by
  by_contra hc
  rw [Digit, List.idxOf?_eq_none_iff.2 hc] at h
  cases h.1

theorem Digit.not_blank (h : Digit base c v) : isBlank c = false := by
  have hclear : (digitChars.all fun d => !isBlank d) = true := by decide
  rw [← isBlank_toLower]
  simpa using List.all_eq_true.1 hclear _ h.mem_digitChars

theorem Digit.ne_plus (h : Digit base c v) : c ≠ '+' := by
  rintro rfl
  exact absurd h.mem_digitChars (by decide)

theorem digit_digitChar (hv : v < base) (hbase : base ≤ 16) : Digit base (Nat.digitChar v) v := by
  have table : ∀ k : Fin 16, digitChars.idxOf? (Nat.digitChar k).toLower = some k.val := by decide
  exact ⟨table ⟨v, Nat.lt_of_lt_of_le hv hbase⟩, hv⟩

/-- Each character of a numeral is a digit. -/
theorem Numeral.digit_of_mem (h : Numeral base s n) (hc : c ∈ s) : ∃ v, Digit base c v := by
  obtain ⟨values, -, hall, -⟩ := h
  induction hall with
  | nil => cases hc
  | cons hd _ ih =>
    rcases List.mem_cons.1 hc with rfl | hc
    · exact ⟨_, hd⟩
    · exact ih hc

/-- One more digit at the right end. -/
theorem Numeral.concat (h : Numeral base s n) (hc : Digit base c v) :
    Numeral base (s ++ [c]) (n * base + v) := by
  obtain ⟨values, -, hall, rfl⟩ := h
  refine ⟨values ++ [v], by simp, List.rel_append hall (.cons hc .nil), ?_⟩
  rw [List.reverse_append, List.reverse_singleton, List.singleton_append, Nat.ofDigits_cons,
    Nat.mul_comm, Nat.add_comm]

/-- Zeros at the left end are worth nothing. -/
theorem Numeral.leading_zeros (h : Numeral base s n) (hbase : 0 < base) (zeros : Nat) :
    Numeral base (List.replicate zeros '0' ++ s) n := by
  induction zeros with
  | zero => exact h
  | succ zeros ih =>
    obtain ⟨values, -, hall, hn⟩ := ih
    refine ⟨0 :: values, by simp [List.replicate_succ], .cons ⟨by decide, hbase⟩ hall, ?_⟩
    rw [List.reverse_cons, Nat.ofDigits_append, Nat.ofDigits_singleton, Nat.mul_zero, Nat.add_zero]
    exact hn

/-- The numeral of a number writes it. -/
theorem numeral_numeral (hbase : 1 < base) (hsmall : base ≤ 16) (n : Nat) :
    Numeral base (numeral base n) n := by
  induction n using Nat.strongRecOn with
  | ind n ih =>
    rw [numeral, Nat.toDigits_eq_if hbase]
    split
    · next hlt =>
      exact ⟨[n], by simp, .cons (digit_digitChar hlt hsmall) .nil, by simp⟩
    · next hge =>
      have hpos : 0 < n :=
        Nat.lt_of_lt_of_le (Nat.lt_trans Nat.zero_lt_one hbase) (Nat.not_lt.1 hge)
      have hlast := (ih (n / base) (Nat.div_lt_self hpos hbase)).concat
        (digit_digitChar (Nat.mod_lt n (Nat.lt_trans Nat.zero_lt_one hbase)) hsmall)
      rwa [Nat.div_add_mod'] at hlast

theorem numeral_decimal (n : Nat) : Numeral 10 (numeral 10 n) n :=
  numeral_numeral (by decide) (by decide) n

theorem numeral_hexadecimal (n : Nat) : Numeral 16 (numeral 16 n) n :=
  numeral_numeral (by decide) (by decide) n

/-- Digits have no case. -/
theorem Numeral.of_case (h : Numeral base s n) (hcase : s.map Char.toLower = t.map Char.toLower) :
    Numeral base t n := by
  obtain ⟨values, hne, hall, hn⟩ := h
  let digit (c : Char) (v : Nat) : Prop := digitChars.idxOf? c = some v ∧ v < base
  have hlower : List.Forall₂ digit (s.map Char.toLower) values :=
    List.forall₂_map_left_iff.2 hall
  rw [hcase] at hlower
  refine ⟨values, fun hnil => hne ?_, (List.forall₂_map_left_iff (f := Char.toLower)).1 hlower, hn⟩
  rw [hnil] at hcase
  exact List.map_eq_nil_iff.1 hcase

end Text

/-! ## Styles of a text -/

namespace Channel

open Wiring

variable {n v : Nat} {d : Char} {s t u : List Char} {c : Channel}

/-- A text is another one in any ASCII case, perhaps with blanks at either end. -/
inductive Styled (s : List Char) : List Char → Prop
  | style {l u r : List Char} (left : ∀ k ∈ l, Text.isBlank k) (case : sameName s u)
      (right : ∀ k ∈ r, Text.isBlank k) : Styled s (l ++ u ++ r)

theorem no_blanks_of_sameName (h : sameName s u) (hs : ∀ k ∈ s, Text.isBlank k = false) :
    ∀ k ∈ u, Text.isBlank k = false := by
  intro k hk
  have hlower : k.toLower ∈ s.map Char.toLower := by
    rw [sameName_iff.1 h]
    exact List.mem_map_of_mem hk
  obtain ⟨k', hk', hcase⟩ := List.mem_map.1 hlower
  rw [← Text.isBlank_toLower, ← hcase, Text.isBlank_toLower]
  exact hs k' hk'

/-- Trimming a style of a text without blanks leaves the text, in another case. -/
theorem Styled.trim (h : Styled s t) (hs : ∀ k ∈ s, Text.isBlank k = false) :
    sameName s (Text.trim t) := by
  obtain ⟨hleft, hcase, hright⟩ := h
  rwa [Text.trim_pad _ _ _ hleft hright, Text.trim_of_no_blanks (no_blanks_of_sameName hcase hs)]

/-- A style of a text adds no plus sign. -/
theorem Styled.not_mem_plus (h : Styled s t) (hs : '+' ∉ s) : '+' ∉ t := by
  obtain ⟨hleft, hcase, hright⟩ := h
  have hblank : ¬ Text.isBlank '+' = true := by decide
  intro hplus
  rcases List.mem_append.1 hplus with hplus | hplus
  · rcases List.mem_append.1 hplus with hplus | hplus
    · exact hblank (hleft _ hplus)
    · have hlower : '+' ∈ s.map Char.toLower := by
        rw [sameName_iff.1 hcase]
        exact List.mem_map_of_mem hplus
      obtain ⟨k, hk, hlow⟩ := List.mem_map.1 hlower
      rcases Text.eq_toLower_or_toUpper k with heq | heq
      · rw [heq, hlow] at hk
        exact hs hk
      · rw [heq, hlow] at hk
        exact hs hk
  · exact hblank (hright _ hplus)

/-- The mark of hexadecimal digits, and the digits, in another case. -/
theorem exists_of_sameName_mark (h : sameName ('0' :: 'x' :: s) u) :
    ∃ x t, u = '0' :: x :: t ∧ (x = 'x' ∨ x = 'X') ∧
      s.map Char.toLower = t.map Char.toLower := by
  rw [sameName_iff] at h
  obtain ⟨zero, u, rfl, hzero, hu⟩ := List.map_eq_cons_iff.1 h.symm
  obtain ⟨x, t, rfl, hx, ht⟩ := List.map_eq_cons_iff.1 hu
  have hzero' : zero = '0' := by
    rcases Text.eq_toLower_or_toUpper zero with heq | heq
    · rw [heq, hzero]
      rfl
    · rw [heq, hzero]
      rfl
  have hx' : x = 'x' ∨ x = 'X' := by
    rcases Text.eq_toLower_or_toUpper x with heq | heq
    · rw [heq, hx]
      exact .inl rfl
    · rw [heq, hx]
      exact .inr rfl
  subst hzero'
  exact ⟨x, t, rfl, hx', ht.symm⟩

theorem Styled.number_of_decimal (h : Styled s t) (hs : Text.Numeral 10 s n) : Number t n := by
  have hclear : ∀ k ∈ s, Text.isBlank k = false := fun k hk =>
    (hs.digit_of_mem hk).choose_spec.not_blank
  exact .decimal (.bare (hs.of_case (sameName_iff.1 (h.trim hclear))))

theorem Styled.number_of_hexadecimal (h : Styled ('0' :: 'x' :: s) t) (hs : Text.Numeral 16 s n) :
    Number t n := by
  have hclear : ∀ k ∈ '0' :: 'x' :: s, Text.isBlank k = false := by
    intro k hk
    rcases List.mem_cons.1 hk with rfl | hk
    · rfl
    rcases List.mem_cons.1 hk with rfl | hk
    · rfl
    · exact (hs.digit_of_mem hk).choose_spec.not_blank
  obtain ⟨x, u, htrim, hx, hcase⟩ := exists_of_sameName_mark (h.trim hclear)
  rw [Number, htrim]
  exact .hexadecimal hx (.bare (hs.of_case hcase))

/-- No name begins with a decimal digit. -/
theorem not_names_of_digit (h : Styled (d :: s) t) (hd : Text.Digit 10 d v) (more : List Char)
    (c : Channel) : ¬ Names (t ++ more) c := by
  have hletters : (named.all fun entry => ((entry.1.toList.map Char.toLower).head?.bind
      Text.digitChars.idxOf?).all fun v => decide (10 ≤ v)) = true := by decide +kernel
  rintro ⟨name, hmem, hsame⟩
  obtain @⟨l, u, r, hleft, hcase, hright⟩ := h
  rw [sameName_iff] at hcase
  obtain ⟨d', u, rfl, hd', -⟩ := List.map_eq_cons_iff.1 hcase.symm
  have hdigit : Text.Digit 10 d' v := by
    rw [Text.Digit, hd']
    exact hd
  have htrim : Text.trim (l ++ d' :: u ++ r ++ more) = d' :: Text.trimRight (u ++ r ++ more) := by
    rw [← Text.trim_cons hdigit.not_blank,
      ← Text.trim_pad l (d' :: (u ++ r ++ more)) [] hleft (List.forall_mem_nil _)]
    simp
  rw [htrim, sameName_iff, List.map_cons] at hsame
  have hletter := List.all_eq_true.1 hletters _ hmem
  simp only [hsame, List.head?_cons, Option.bind_some, hdigit.1, Option.all_some,
    decide_eq_true_eq] at hletter
  exact absurd hdigit.2 (Nat.not_lt.2 hletter)

/-! ## Spellings -/

/-- A text spells a channel. -/
inductive Spelling (c : Channel) : List Char → Prop
  /-- The written form, of which both sides of the plus sign may be styled. -/
  | written {base index s t : List Char} (text : c.text.toList = base ++ '+' :: index)
      (before : Styled base s) (after : Styled index t) : Spelling c (s ++ '+' :: t)
  | decimal (zeros : Nat) {s : List Char}
      (style : Styled (List.replicate zeros '0' ++ Text.numeral 10 c.raw) s) : Spelling c s
  | hexadecimal (zeros : Nat) {s : List Char} (style : Styled
      ('0' :: 'x' :: (List.replicate zeros '0' ++ Text.numeral 16 c.raw)) s) : Spelling c s
  | name {n : String} {s : List Char} (name : c.name? = some n) (style : Styled n.toList s) :
      Spelling c s

/-- A text that is no name and writes the packed form of a channel is read as the channel. -/
theorem ofText_of_writes {text : String} (htext : text.toList = s) (hname : ∀ k, ¬ Names s k)
    {ns : List Nat} (h : Writes s ns) (hsum : ns.sum = c.raw) : ofText text = .ok c := by
  subst htext
  have hfits : c.raw ≤ 0xffff := Nat.le_of_lt_succ c.raw_lt
  exact (ofText_eq_ok_iff_of_no_name hname).2
    ⟨c.raw, (value?_eq_some_iff_of_le hfits).2 ⟨ns, h, hsum⟩, hfits, rfl⟩

/-- What stands before the plus sign of the written form is the packed form of the first line. -/
theorem numeral_base (c : Channel) : Text.Numeral 16
    (Text.numeral 16 c.subdevice.toNat ++ ['0', '0']) (c.subdevice.toNat * 256) := by
  have hzero : Text.Digit 16 '0' 0 := ⟨by decide, by decide⟩
  have h := ((Text.numeral_hexadecimal c.subdevice.toNat).concat hzero).concat hzero
  rw [List.append_assoc] at h
  have hplaces : (c.subdevice.toNat * 16 + 0) * 16 + 0 = c.subdevice.toNat * 256 := by omega
  rwa [hplaces] at h

theorem not_mem_plus_of_numeral {base : Nat} (h : Text.Numeral base s n) : '+' ∉ s :=
  fun hplus => (h.digit_of_mem hplus).choose_spec.ne_plus rfl

/-- The only plus sign of the written form parts the base from the index. -/
theorem text_eq_iff {base index : List Char} : c.text.toList = base ++ '+' :: index ↔
    base = '0' :: 'x' :: (Text.numeral 16 c.subdevice.toNat ++ ['0', '0']) ∧
      index = Text.numeral 10 c.index.toNat := by
  have hindex := not_mem_plus_of_numeral (Text.numeral_decimal c.index.toNat)
  have hbase := not_mem_plus_of_numeral (numeral_base c)
  have hmark : '+' ∉ '0' :: 'x' :: (Text.numeral 16 c.subdevice.toNat ++ ['0', '0']) := by
    simpa using hbase
  have htext : c.text.toList = ('0' :: 'x' :: (Text.numeral 16 c.subdevice.toNat ++ ['0', '0'])) ++
      '+' :: Text.numeral 10 c.index.toNat := by
    simp [text]
  rw [htext, List.append_cons_inj_of_notMem hmark hindex]
  constructor
  · rintro ⟨rfl, -, rfl⟩
    exact ⟨rfl, rfl⟩
  · rintro ⟨rfl, rfl⟩
    exact ⟨rfl, rfl, rfl⟩

theorem mem_named_of_name? {n : String} (h : c.name? = some n) : (n, c) ∈ named := by
  obtain ⟨⟨n', k⟩, hfind, rfl⟩ := Option.map_eq_some_iff.1 h
  have hk : k = c := by simpa using List.find?_some hfind
  exact hk ▸ List.mem_of_find?_eq_some hfind

theorem Styled.names {n : String} (h : Styled n.toList s) (hname : c.name? = some n) :
    Names s c := by
  have hclear : (named.all fun entry => entry.1.toList.all fun k => !Text.isBlank k) = true := by
    decide +kernel
  have hmem := mem_named_of_name? hname
  have hletters := List.all_eq_true.1 (List.all_eq_true.1 hclear _ hmem)
  exact ⟨n, hmem, h.trim fun k hk => by simpa using hletters k hk⟩

theorem styled_self (s : List Char) : Styled s s := by
  have h := Styled.style (l := []) (r := []) nofun (sameName_iff.2 (rfl : s.map _ = s.map _)) nofun
  simpa using h

theorem spelling_text (c : Channel) : Spelling c c.text.toList := by
  have htext := (text_eq_iff (c := c)).2 ⟨rfl, rfl⟩
  rw [htext]
  exact .written htext (styled_self _) (styled_self _)

/-- A numeral is not empty, so that it begins with a digit. -/
theorem exists_digit_of_numeral {base : Nat} (h : Text.Numeral base s n) :
    ∃ d rest v, s = d :: rest ∧ Text.Digit base d v := by
  obtain ⟨values, hne, hall, -⟩ := h
  cases hall with
  | nil => exact absurd rfl hne
  | cons hd _ => exact ⟨_, _, _, rfl, hd⟩

theorem Spelling.ofText {text : String} (h : Spelling c s) (htext : text.toList = s) :
    ofText text = .ok c := by
  have hzero : Text.Digit 10 '0' 0 := ⟨by decide, by decide⟩
  cases h with
  | written hsplit hbefore hafter =>
    obtain ⟨rfl, rfl⟩ := text_eq_iff.1 hsplit
    have hplus : '+' ∉ '0' :: 'x' :: (Text.numeral 16 c.subdevice.toNat ++ ['0', '0']) := by
      simpa using not_mem_plus_of_numeral (numeral_base c)
    have hindex := Text.numeral_decimal c.index.toNat
    refine ofText_of_writes htext (not_names_of_digit hbefore hzero _)
      (.sum (hbefore.not_mem_plus hplus) (hbefore.number_of_hexadecimal (numeral_base c))
        (hafter.number_of_decimal hindex)) ?_
    simp [raw]
  | decimal zeros hstyle =>
    have hnumeral := (Text.numeral_decimal c.raw).leading_zeros (by decide) zeros
    obtain ⟨d, rest, v, hcons, hd⟩ := exists_digit_of_numeral hnumeral
    have hname := not_names_of_digit (hcons ▸ hstyle) hd []
    rw [List.append_nil] at hname
    exact ofText_of_writes htext hname
      (.number (hstyle.not_mem_plus (not_mem_plus_of_numeral hnumeral))
        (hstyle.number_of_decimal hnumeral)) List.sum_singleton
  | hexadecimal zeros hstyle =>
    have hnumeral := (Text.numeral_hexadecimal c.raw).leading_zeros (by decide) zeros
    have hplus : '+' ∉ '0' :: 'x' :: (List.replicate zeros '0' ++ Text.numeral 16 c.raw) := by
      simpa using not_mem_plus_of_numeral hnumeral
    have hname := not_names_of_digit hstyle hzero []
    rw [List.append_nil] at hname
    exact ofText_of_writes htext hname (.number (hstyle.not_mem_plus hplus)
      (hstyle.number_of_hexadecimal hnumeral)) List.sum_singleton
  | name hname hstyle =>
    subst htext
    exact ofText_of_name (hstyle.names hname)

/-- A channel is read from its written form, and from each of its spellings: the written form with
blanks at either end and around the plus sign, the packed form in decimal or in hexadecimal with
any number of leading zeros, and the symbolic name, all in any ASCII case. -/
theorem ofText_of_spelling (c : Channel) :
    ofText c.text = .ok c ∧ ∀ s : String, Spelling c s.toList → ofText s = .ok c :=
  ⟨(spelling_text c).ofText rfl, fun _ h => h.ofText rfl⟩

/-- The written form between blanks of several kinds and in mixed case, the packed form with leading
zeros, and a name. -/
theorem ofText_of_spelling_styled :
    let c : Channel := ⟨0xab, 255⟩
    (Spelling c " 0XAb00\t+\u3000255\n".toList ∧ ofText " 0XAb00\t+\u3000255\n" = .ok c) ∧
      (Spelling c "0X000aBFf".toList ∧ ofText "0X000aBFf" = .ok c) ∧
      (Spelling c "0044031 ".toList ∧ ofText "0044031 " = .ok c) ∧
      Spelling lightDown2 "\u00a0Light_dowN2".toList ∧
        ofText "\u00a0Light_dowN2" = .ok lightDown2 := by
  intro c
  have blank : ∀ b, Text.isBlank b = true → ∀ k ∈ [b], Text.isBlank k = true := fun _ hb =>
    List.forall_mem_singleton.2 hb
  have hwritten : Spelling c " 0XAb00\t+\u3000255\n".toList :=
    .written (text_eq_iff.2 ⟨rfl, rfl⟩)
      (.style (u := ['0', 'X', 'A', 'b', '0', '0']) (blank ' ' rfl) (by decide)
        (blank '\t' rfl))
      (.style (u := ['2', '5', '5']) (blank '\u3000' rfl) (by decide) (blank '\n' rfl))
  have hhexadecimal : Spelling c "0X000aBFf".toList :=
    .hexadecimal 3 (.style (l := []) (u := ['0', 'X', '0', '0', '0', 'a', 'B', 'F', 'f']) (r := [])
      nofun (by decide) nofun)
  have hdecimal : Spelling c "0044031 ".toList :=
    .decimal 2 (.style (l := []) (u := ['0', '0', '4', '4', '0', '3', '1']) nofun (by decide)
      (blank ' ' rfl))
  have hname : Spelling lightDown2 "\u00a0Light_dowN2".toList :=
    .name (n := "LIGHT_DOWN2") rfl (.style
      (u := ['L', 'i', 'g', 'h', 't', '_', 'd', 'o', 'w', 'N', '2']) (r := [])
      (blank '\u00a0' rfl) (by decide) nofun)
  exact ⟨⟨hwritten, (ofText_of_spelling c).2 _ hwritten⟩,
    ⟨hhexadecimal, (ofText_of_spelling c).2 _ hhexadecimal⟩,
    ⟨hdecimal, (ofText_of_spelling c).2 _ hdecimal⟩,
    hname, (ofText_of_spelling lightDown2).2 _ hname⟩

end Channel

end LiftRig
