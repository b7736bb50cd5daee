import Mathlib

/-!
# Hexadecimal text of a fixed width

`hexDigits k n` is the text of `n` in `k` hexadecimal digits, the most significant first, and
`ofHexDigits` reads such a text back, in either case. Reading back what was written gives the
number (`ofHexDigits_hexDigits`), so numbers below `16 ^ k` have different texts.
-/

namespace Storefront

/-- The last `k` hexadecimal digits of `n`. -/
def hexDigits (k n : ℕ) : List Char :=
  (List.range k).map fun i => Nat.digitChar (n / 16 ^ (k - 1 - i) % 16)

/-- The value of a hexadecimal digit. -/
def hexValue? (c : Char) : Option ℕ :=
  if '0' ≤ c ∧ c ≤ '9' then some (c.toNat - 48)
  else if 'a' ≤ c ∧ c ≤ 'f' then some (c.toNat - 87)
  else if 'A' ≤ c ∧ c ≤ 'F' then some (c.toNat - 55)
  else none

/-- Append one digit to what has been read. -/
def readHexDigit (acc : ℕ) (c : Char) : Option ℕ := (hexValue? c).map fun d => acc * 16 + d

/-- The number a text of hexadecimal digits stands for. -/
def ofHexDigits (cs : List Char) : Option ℕ := cs.foldlM readHexDigit 0

@[simp] theorem length_hexDigits (k n : ℕ) : (hexDigits k n).length = k := by simp [hexDigits]

theorem hexValue?_digitChar {d : ℕ} (h : d < 16) : hexValue? (Nat.digitChar d) = some d := by
  interval_cases d <;> decide

/-- A written digit is no hyphen. -/
theorem digitChar_ne_hyphen {d : ℕ} (h : d < 16) : Nat.digitChar d ≠ '-' := by
  interval_cases d <;> decide

theorem hexDigits_ne_hyphen {k n : ℕ} {c : Char} (h : c ∈ hexDigits k n) : c ≠ '-' := by
  obtain ⟨i, -, rfl⟩ := List.mem_map.mp h
  exact digitChar_ne_hyphen (Nat.mod_lt _ (by decide))

/-- The first digit and the others. -/
theorem hexDigits_succ (k n : ℕ) :
    hexDigits (k + 1) n = Nat.digitChar (n / 16 ^ k % 16) :: hexDigits k n := by
  unfold hexDigits
  rw [List.range_succ_eq_map, List.map_cons, List.map_map]
  refine congrArg₂ _ (by simp) (List.map_congr_left fun i _ => ?_)
  simp only [Function.comp_apply]
  rw [show k + 1 - 1 - (i + 1) = k - 1 - i by omega]

/-- **Round trip.** -/
theorem ofHexDigits_hexDigits {k n : ℕ} (h : n < 16 ^ k) :
    ofHexDigits (hexDigits k n) = some n := by
  -- with `acc` read so far, the last `k` digits are appended to it
  have hread : ∀ k n acc : ℕ,
      (hexDigits k n).foldlM readHexDigit acc = some (acc * 16 ^ k + n % 16 ^ k) := by
    intro k n
    induction k with
    | zero =>
      intro acc
      simp [hexDigits, Nat.mod_one]
    | succ k ih =>
      intro acc
      rw [hexDigits_succ, List.foldlM_cons, readHexDigit,
        hexValue?_digitChar (Nat.mod_lt _ (by decide))]
      simp only [Option.map_some, Option.bind_eq_bind, Option.bind_some]
      rw [ih]
      -- the digit written first weighs `16 ^ k`
      have hsplit : n % 16 ^ (k + 1) = 16 ^ k * (n / 16 ^ k % 16) + n % 16 ^ k := by
        rw [pow_succ, Nat.mod_mul]
        ring
      rw [hsplit, pow_succ]
      congr 1
      ring
  unfold ofHexDigits
  rw [hread, Nat.zero_mul, Nat.zero_add, Nat.mod_eq_of_lt h]

end Storefront
