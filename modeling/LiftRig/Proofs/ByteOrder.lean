import Mathlib.Data.String.Basic
import Mathlib.Data.List.Lex

/-!
# Order of texts by their bytes

Texts are compared character by character, by code points. Main statement: this is the order of
their bytes. A greater code point is written with a greater lead byte or with as many bytes, whose
six-bit places are compared from the left.
-/

namespace LiftRig.Text

open String (utf8EncodeChar)

/-- The bytes of a text. -/
def bytes (s : String) : List UInt8 := s.toByteArray.data.toList

/-- The bytes of a text are those of its characters. -/
theorem bytes_eq_flatMap (s : String) : bytes s = s.toList.flatMap utf8EncodeChar := by
  rw [bytes, ← String.ofList_toList (s := s), String.toByteArray_ofList, List.utf8Encode,
    List.toList_data_toByteArray, String.ofList_toList]

/-- Bytes are compared by their numbers, then by what follows. -/
theorem byte_cons_lt {m n : Nat} {x y : List UInt8} (hm : m < 256) (hn : n < 256) :
    UInt8.ofNat m :: x < UInt8.ofNat n :: y ↔ m < n ∨ m = n ∧ x < y := by
  rw [List.cons_lt_cons_iff, UInt8.lt_iff_toNat_lt, ← UInt8.toNat_inj,
    UInt8.toNat_ofNat_of_lt' hm, UInt8.toNat_ofNat_of_lt' hn]

/-- Of two numbers, the leading places decide, and the last place if they agree. -/
theorem place_lt {m n : Nat} (h : m < n) :
    m / 64 < n / 64 ∨ m / 64 = n / 64 ∧ m % 64 < n % 64 := by
  omega

/-- The four bytes of a code point beyond the basic plane ascend with it. -/
theorem four_bytes_lt {m n : Nat} (h : m < n) (hn : n < 0x110000) (x y : List UInt8) :
    [UInt8.ofNat (m / 262144 % 8 + 240), UInt8.ofNat (m / 4096 % 64 + 128),
        UInt8.ofNat (m / 64 % 64 + 128), UInt8.ofNat (m % 64 + 128)] ++ x <
      [UInt8.ofNat (n / 262144 % 8 + 240), UInt8.ofNat (n / 4096 % 64 + 128),
        UInt8.ofNat (n / 64 % 64 + 128), UInt8.ofNat (n % 64 + 128)] ++ y := by
  simp (disch := omega) only [List.cons_append, List.nil_append, byte_cons_lt]
  have second (k : Nat) : k / 4096 = k / 64 / 64 := by rw [Nat.div_div_eq_div_mul]
  have lead (k : Nat) : k / 262144 = k / 64 / 64 / 64 := by
    rw [Nat.div_div_eq_div_mul, Nat.div_div_eq_div_mul]
  rw [Nat.mod_eq_of_lt (show m / 262144 < 8 by omega),
    Nat.mod_eq_of_lt (show n / 262144 < 8 by omega), lead, lead, second, second]
  -- the first place from the left in which the two differ
  rcases place_lt h with h₁ | ⟨e₁, h₁⟩
  · rcases place_lt h₁ with h₂ | ⟨e₂, h₂⟩
    · rcases place_lt h₂ with h₃ | ⟨e₃, h₃⟩
      · exact .inl (by omega)
      · exact .inr ⟨by omega, .inl (by omega)⟩
    · exact .inr ⟨by omega, .inr ⟨by omega, .inl (by omega)⟩⟩
  · exact .inr ⟨by omega, .inr ⟨by omega, .inr ⟨by omega, .inl (by omega)⟩⟩⟩

/-- A smaller character has smaller bytes, whatever follows the two. -/
theorem utf8EncodeChar_append_lt {c d : Char} (h : c < d) (x y : List UInt8) :
    utf8EncodeChar c ++ x < utf8EncodeChar d ++ y := by
  have hlt : c.val.toNat < d.val.toNat := h
  have hd : d.val.toNat < 0x110000 := by
    rcases d.valid with h | h <;> omega
  simp only [utf8EncodeChar]
  generalize c.val.toNat = m at hlt
  generalize d.val.toNat = n at hlt hd
  by_cases hm : 65535 < m
  · have four : ∀ k, 65535 < k → ¬ k ≤ 127 ∧ ¬ k ≤ 2047 ∧ ¬ k ≤ 65535 := by omega
    obtain ⟨m₁, m₂, m₃⟩ := four m hm
    obtain ⟨n₁, n₂, n₃⟩ := four n (hm.trans hlt)
    rw [if_neg m₁, if_neg m₂, if_neg m₃, if_neg n₁, if_neg n₂, if_neg n₃]
    exact four_bytes_lt hlt hd x y
  · split_ifs <;> simp (disch := omega) only [List.cons_append, List.nil_append, byte_cons_lt] <;>
      omega

theorem utf8EncodeChar_ne_nil (c : Char) : utf8EncodeChar c ≠ [] := by
  simp only [utf8EncodeChar]
  split_ifs <;> exact List.cons_ne_nil _ _

/-- Characters that come first have bytes that come first. -/
theorem flatMap_utf8EncodeChar_lt {a b : List Char} (h : a < b) :
    a.flatMap utf8EncodeChar < b.flatMap utf8EncodeChar := by
  induction h with
  | @nil d b =>
    obtain ⟨lead, rest, he⟩ := List.exists_cons_of_ne_nil (utf8EncodeChar_ne_nil d)
    simp only [List.flatMap_cons, List.flatMap_nil, he, List.cons_append]
    exact List.nil_lt_cons lead _
  | rel h => simpa only [List.flatMap_cons] using utf8EncodeChar_append_lt h _ _
  | cons _ ih => simpa only [List.flatMap_cons] using List.append_left_lt ih

/-- Texts are in the order of their bytes. -/
theorem bytes_lt_bytes {s t : String} : bytes s < bytes t ↔ s < t := by
  have hmono : ∀ {s t : String}, s < t → bytes s < bytes t := fun {s t} h => by
    rw [bytes_eq_flatMap, bytes_eq_flatMap]
    exact flatMap_utf8EncodeChar_lt (String.lt_iff_toList_lt.mp h)
  refine ⟨fun h => ?_, hmono⟩
  rcases lt_trichotomy s t with hst | rfl | hts
  · exact hst
  · exact absurd h (List.lt_irrefl _)
  · exact absurd (hmono hts) (List.lt_asymm h)

end LiftRig.Text
