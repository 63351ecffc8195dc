/-
DeckKeywords/Proofs/Text/Positional.lean

Numbers written in digits and read from them.  `decimal` gives the digits of a
number as numbers; as characters they are how the number is written,
`map_digitChar_decimal`, and they spell the number again, `ofDigits_decimal`.
-/
import DeckKeywords.Text.Positional
import Mathlib.Data.Nat.Init

namespace DeckKeywords.Text

/-! ### Single digits -/

theorem hexValue?_digitChar {d : Nat} (h : d < 16) : hexValue? (Nat.digitChar d) = some d := by
  revert d
  decide

theorem digitValue?_digitChar {base d : Nat} (h : d < base) (hbase : base ≤ 16) :
    digitValue? base (Nat.digitChar d) = some d := by
  simp [digitValue?, hexValue?_digitChar (Nat.lt_of_lt_of_le h hbase), h]

/-! ### Decimal digits -/

/-- The decimal digits of a number `n`, the most significant one first. -/
def decimal (n : Nat) : List Nat :=
  if n < 10 then [n] else decimal (n / 10) ++ [n % 10]
termination_by n
decreasing_by omega

theorem decimal_of_lt {n : Nat} (h : n < 10) : decimal n = [n] := by
  rw [decimal, if_pos h]

theorem decimal_of_le {n : Nat} (h : 10 ≤ n) : decimal n = decimal (n / 10) ++ [n % 10] := by
  rw [decimal, if_neg (Nat.not_lt.mpr h)]

theorem lt_of_mem_decimal {n d : Nat} (h : d ∈ decimal n) : d < 10 := by
  induction n using decimal.induct with
  | case1 n hn =>
    rw [decimal_of_lt hn, List.mem_singleton] at h
    exact h ▸ hn
  | case2 n hn ih =>
    rw [decimal_of_le (Nat.not_lt.mp hn), List.mem_append, List.mem_singleton] at h
    rcases h with h | h
    · exact ih h
    · exact h ▸ Nat.mod_lt n (by decide)

/-- The digits of a positive number `n` do not start with zero. -/
theorem decimal_eq_cons {n : Nat} (h : 0 < n) : ∃ d ds, decimal n = d :: ds ∧ 0 < d := by
  induction n using decimal.induct with
  | case1 n hn => exact ⟨n, [], decimal_of_lt hn, h⟩
  | case2 n hn ih =>
    obtain ⟨d, ds, hdigits, hd⟩ := ih (by omega)
    exact ⟨d, ds ++ [n % 10], by rw [decimal_of_le (Nat.not_lt.mp hn), hdigits]; rfl, hd⟩

/-- The digits of `n` are those that it is written with. -/
theorem map_digitChar_decimal (n : Nat) : (decimal n).map Nat.digitChar = Nat.toDigits 10 n := by
  induction n using decimal.induct with
  | case1 n hn => rw [decimal_of_lt hn, Nat.toDigits_of_lt_base hn, List.map_singleton]
  | case2 n hn ih =>
    have hle : 10 ≤ n := Nat.not_lt.mp hn
    rw [decimal_of_le hle, List.map_append, ih, Nat.toDigits_of_base_le (by decide) hle,
      List.map_singleton]

/-- A number `n` is written with at least one digit. -/
theorem toDigits_eq_cons (n : Nat) : ∃ c cs, Nat.toDigits 10 n = c :: cs ∧ c.isDigit := by
  obtain ⟨c, cs, hdigits⟩ := List.exists_cons_of_ne_nil (Nat.toDigits_ne_nil (n := n) (b := 10))
  exact ⟨c, cs, hdigits,
    Nat.isDigit_of_mem_toDigits (b := 10) (n := n) (by decide) (by decide) (by simp [hdigits])⟩

/-- The digits of a number `n` spell it. -/
theorem ofDigits_decimal (n : Nat) : ofDigits 10 (decimal n) = n := by
  induction n using decimal.induct with
  | case1 n hn => simp [decimal_of_lt hn, ofDigits]
  | case2 n hn ih =>
    have hlast : ofDigits 10 (decimal (n / 10) ++ [n % 10])
        = 10 * ofDigits 10 (decimal (n / 10)) + n % 10 := by
      simp [ofDigits]
    rw [decimal_of_le (Nat.not_lt.mp hn), hlast, ih, Nat.div_add_mod]

end DeckKeywords.Text
