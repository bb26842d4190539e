import Mathlib.Algebra.Group.Nat.Defs
import RequestQuery.Proofs.Text.Utf8
import RequestQuery.SortedMap

namespace RequestQuery

namespace Text.Utf8

variable {c d : Char} {cs ds : List Char} {m n k k' first first' : Nat}

-- The last bytes of a character, so many of them.
def tails : Nat → Nat → List UInt8
  | 0, _     => []
  | k + 1, n => tails k (n / 64) ++ [tail n]

-- The first byte of a character, and how many bytes follow it.
inductive Leads : Nat → Nat → Nat → Prop
  | alone {n : Nat} (h : n < 0x80) : Leads n n 0
  | one {n : Nat} (h : 0x80 ≤ n ∧ n < 0x800) : Leads n (n / 64 + 0xC0) 1
  | two {n : Nat} (h : 0x800 ≤ n ∧ n < 0x10000) : Leads n (n / 64 / 64 + 0xE0) 2
  | three {n : Nat} (h : 0x10000 ≤ n ∧ n < 0x110000) : Leads n (n / 64 / 64 / 64 + 0xF0) 3

theorem Leads.lt (h : Leads n first k) : first < 256 := by
  cases h <;> omega

-- A first byte is the greater the more bytes follow it.
theorem Leads.lt_or (h : Leads m first k) (h' : Leads n first' k') (hn : m < n) :
    first < first' ∨ first = first' ∧ k = k' ∧ m / 64 ^ k = n / 64 ^ k := by
  cases h <;> cases h'
  all_goals
    simp only [Nat.reducePow, Nat.pow_zero, Nat.pow_one, Nat.div_one, true_and]
    omega

theorem utf8EncodeChar_eq_cons (c : Char) :
    ∃ first k, Leads c.toNat first k ∧ String.utf8EncodeChar c = .ofNat first :: tails k c.toNat := by
  have hv : c.toNat < 0xD800 ∨ 0xDFFF < c.toNat ∧ c.toNat < 0x110000 := c.valid
  rw [utf8EncodeChar_eq]
  generalize c.toNat = n at hv
  split
  case isTrue h => exact ⟨_, _, .alone h, rfl⟩
  case isFalse =>
    split
    case isTrue => exact ⟨_, _, .one (by omega), rfl⟩
    case isFalse =>
      split
      case isTrue  => exact ⟨_, _, .two (by omega), rfl⟩
      case isFalse => exact ⟨_, _, .three (by omega), rfl⟩

theorem ofNat_lt_ofNat (h : m < n) (hn : n < 256) : UInt8.ofNat m < UInt8.ofNat n := by
  rw [UInt8.lt_iff_toNat_lt, toNat_ofNat (Nat.lt_trans h hn), toNat_ofNat hn]
  exact h

-- By induction on the number of bytes, from the last one backwards: what stands behind the bytes that differ
-- may be anything.
theorem tails_append_lt (h : m < n) (hk : m / 64 ^ k = n / 64 ^ k) (bs bs' : List UInt8) :
    tails k m ++ bs < tails k n ++ bs' := by
  induction k generalizing m n bs bs' with
  | zero => omega
  | succ k ih =>
    rw [tails, tails, List.append_assoc, List.append_assoc]
    rcases Nat.lt_or_eq_of_le (Nat.div_le_div_right (c := 64) (Nat.le_of_lt h)) with hd | hd
    · refine ih hd ?_ _ _
      rwa [Nat.div_div_eq_div_mul, Nat.div_div_eq_div_mul, ← Nat.pow_succ']
    · rw [hd]
      exact List.append_left_lt (.rel (ofNat_lt_ofNat (by omega) (by omega)))

-- A character is told from a greater one by its first byte, or else by the first of the other bytes that
-- differs, as each of them holds six bits of it.
theorem utf8EncodeChar_append_lt (h : c < d) (bs bs' : List UInt8) :
    String.utf8EncodeChar c ++ bs < String.utf8EncodeChar d ++ bs' := by
  obtain ⟨first, k, hc, he⟩ := utf8EncodeChar_eq_cons c
  obtain ⟨first', k', hd, he'⟩ := utf8EncodeChar_eq_cons d
  rw [he, he', List.cons_append, List.cons_append]
  rcases hc.lt_or hd h with hl | ⟨rfl, rfl, hk⟩
  · exact .rel (ofNat_lt_ofNat hl hd.lt)
  · exact .cons (tails_append_lt h hk bs bs')

theorem encode_lt_encode (h : cs < ds) : encode cs < encode ds := by
  induction h with
  | nil =>
    rename_i d ds
    obtain ⟨first, k, _, he⟩ := utf8EncodeChar_eq_cons d
    rw [encode, encode, List.flatMap_cons, he]
    exact .nil
  | cons h ih => exact List.append_left_lt ih
  | rel h     => exact utf8EncodeChar_append_lt h _ _

end Text.Utf8

-- The keys of a map ascend by their characters, and so by their bytes.
theorem SortedMap.keys_ascending {α : Type} (m : SortedMap α) :
    m.keys.Pairwise fun key key' => Text.Utf8.encode key.toList < Text.Utf8.encode key'.toList :=
  List.pairwise_map.mpr (m.ascending.imp Text.Utf8.encode_lt_encode)

end RequestQuery
