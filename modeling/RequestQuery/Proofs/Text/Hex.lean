import Mathlib.Algebra.Group.Nat.Defs
import RequestQuery.Text.Hex

namespace RequestQuery.Text.Hex

variable {case : Case} {width n : Nat}

theorem exists_of_mem_digits {c : Char} (h : c ∈ digits case width n) : ∃ d, c = char case d := by
  induction width generalizing n with
  | zero => cases h
  | succ w ih =>
    rcases List.mem_append.mp h with h | h
    · exact ih h
    · exact ⟨_, List.mem_singleton.mp h⟩

theorem value?_digits (case : Case) (width n : Nat) :
    value? (digits case width n) = some (n % 16 ^ width) := by
  induction width generalizing n with
  | zero => rw [Nat.pow_zero, Nat.mod_one]; rfl
  | succ w ih =>
    have hn : 16 * (n / 16 % 16 ^ w) + n % 16 = n % 16 ^ (w + 1) := by
      rw [Nat.pow_succ', Nat.mod_mul, Nat.add_comm]
    rw [value?, digits, List.foldlM_append, ← value?, ih, ← hn]
    simp

-- A digit is one byte, and that byte is the digit again.
theorem ofUInt8_toUInt8_char (case : Case) (d : Fin 16) :
    Char.ofUInt8 (char case d).toUInt8 = char case d := by
  cases case <;> revert d <;> decide

end RequestQuery.Text.Hex
