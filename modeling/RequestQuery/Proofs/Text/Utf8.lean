import RequestQuery.Text.Utf8
import RequestQuery.Proofs.Traversal

namespace RequestQuery.Text.Utf8

variable {p : Pending} {k n : Nat} {bytes : List UInt8}

theorem toNat_ofNat (h : n < 256) : (UInt8.ofNat n).toNat = n := by
  rw [UInt8.toNat_ofNat']
  exact Nat.mod_eq_of_lt h

-- The byte for the last six bits of a number; the bits before them are known already.
def tail (n : Nat) : UInt8 :=
  .ofNat (n % 64 + 128)

-- What a leading byte leaves pending if so many bytes follow it, the first of them for `n`.
structure Pending.Expects (p : Pending) (owed n : Nat) : Prop where
  owed  : p.owed = owed
  code  : p.code = n / 64
  least : p.least ≤ n % 64 + 128
  most  : n % 64 + 128 ≤ p.most

theorem step_tail (h : p.Expects (k + 1) n) :
    step (some p) (tail n).toNat =
      if k = 0 then ([some (Char.ofNat n)], none) else ([], some { owed := k, code := n }) := by
  have hb : (tail n).toNat = n % 64 + 128 := toNat_ofNat (by omega)
  have hn : p.code * 64 + n % 64 = n := by rw [h.code]; omega
  rw [step, hb, if_pos ⟨h.least, h.most⟩]
  simp only [h.owed, Nat.add_eq_right, Nat.add_sub_cancel, hn]

theorem items_tail_last (h : p.Expects 1 n) :
    items (some p) (tail n :: bytes) = some (Char.ofNat n) :: items none bytes := by
  rw [items, step_tail h]
  rfl

theorem items_tail (h : p.Expects (k + 2) n) :
    items (some p) (tail n :: bytes) = items (some { owed := k + 1, code := n }) bytes := by
  rw [items, step_tail h]
  rfl

theorem expects_tail (k n : Nat) : Pending.Expects { owed := k, code := n / 64 } k n :=
  ⟨rfl, rfl, by simp, by simp; omega⟩

theorem lead_two (n : Nat) (h : 0x80 ≤ n ∧ n < 0x800) :
    ∃ p, lead (n / 64 + 0xC0) = some p ∧ p.Expects 1 n := by
  rw [lead, if_pos (by omega)]
  exact ⟨_, rfl, rfl, Nat.add_sub_cancel .., by simp, by simp; omega⟩

-- The overlong forms and the surrogates are shut out by the byte that follows.
theorem lead_three (n : Nat) (h : 0x800 ≤ n ∧ n < 0x10000) (hs : n < 0xD800 ∨ 0xDFFF < n) :
    ∃ p, lead (n / 64 / 64 + 0xE0) = some p ∧ p.Expects 2 (n / 64) := by
  by_cases h0 : n / 64 / 64 = 0
  case pos =>
    rw [h0]
    exact ⟨_, rfl, rfl, by simp; omega, by simp; omega, by simp; omega⟩
  case neg =>
    by_cases hd : n / 64 / 64 = 13
    case pos =>
      rw [hd]
      exact ⟨_, rfl, rfl, by simp; omega, by simp, by simp; omega⟩
    case neg =>
      rw [lead, if_neg (by omega), if_neg (by omega), if_neg (by omega), if_pos (by omega)]
      exact ⟨_, rfl, rfl, Nat.add_sub_cancel .., by simp, by simp; omega⟩

theorem lead_four (n : Nat) (h : 0x10000 ≤ n ∧ n < 0x110000) :
    ∃ p, lead (n / 64 / 64 / 64 + 0xF0) = some p ∧ p.Expects 3 (n / 64 / 64) := by
  by_cases h0 : n / 64 / 64 / 64 = 0
  case pos =>
    rw [h0]
    exact ⟨_, rfl, rfl, by simp; omega, by simp; omega, by simp; omega⟩
  case neg =>
    by_cases h4 : n / 64 / 64 / 64 = 4
    case pos =>
      rw [h4]
      exact ⟨_, rfl, rfl, by simp; omega, by simp, by simp; omega⟩
    case neg =>
      rw [lead, if_neg (by omega), if_neg (by omega), if_neg (by omega), if_neg (by omega),
        if_neg (by omega), if_pos (by omega)]
      exact ⟨_, rfl, rfl, Nat.add_sub_cancel .., by simp, by simp; omega⟩

-- A leading byte is kept until the last of the bytes that it owes.
theorem items_lead {byte : Nat} (hl : lead byte = some p) (hb : 0x80 ≤ byte ∧ byte < 256) :
    items none (UInt8.ofNat byte :: bytes) = items (some p) bytes := by
  rw [items, toNat_ofNat hb.2, step, first, if_neg (by omega), hl]
  rfl

theorem utf8EncodeChar_eq (c : Char) :
    String.utf8EncodeChar c =
      if c.toNat < 0x80 then [.ofNat c.toNat]
      else if c.toNat < 0x800 then [.ofNat (c.toNat / 64 + 0xC0), tail c.toNat]
      else if c.toNat < 0x10000 then
        [.ofNat (c.toNat / 64 / 64 + 0xE0), tail (c.toNat / 64), tail c.toNat]
      else
        [.ofNat (c.toNat / 64 / 64 / 64 + 0xF0), tail (c.toNat / 64 / 64), tail (c.toNat / 64),
          tail c.toNat] := by
  have hv : c.toNat < 0xD800 ∨ 0xDFFF < c.toNat ∧ c.toNat < 0x110000 := c.valid
  have hc : c.val.toNat = c.toNat := rfl
  simp only [String.utf8EncodeChar, tail, hc]
  generalize c.toNat = n at hv
  have h₂ : n / 4096 = n / 64 / 64 := by omega
  have h₃ : n / 262144 = n / 64 / 64 / 64 := by omega
  rw [h₂, h₃]
  by_cases h₁ : n < 0x80
  case pos => rw [if_pos (by omega), if_pos h₁]
  case neg =>
    rw [if_neg (by omega), if_neg h₁]
    by_cases h₂ : n < 0x800
    case pos => rw [if_pos (by omega), if_pos h₂, Nat.mod_eq_of_lt (by omega : n / 64 < 32)]
    case neg =>
      rw [if_neg (by omega), if_neg h₂]
      by_cases h₃ : n < 0x10000
      case pos => rw [if_pos (by omega), if_pos h₃, Nat.mod_eq_of_lt (by omega : n / 64 / 64 < 16)]
      case neg =>
        rw [if_neg (by omega), if_neg h₃, Nat.mod_eq_of_lt (by omega : n / 64 / 64 / 64 < 8)]

theorem items_utf8EncodeChar (c : Char) (bytes : List UInt8) :
    items none (String.utf8EncodeChar c ++ bytes) = some c :: items none bytes := by
  have hv : c.toNat < 0xD800 ∨ 0xDFFF < c.toNat ∧ c.toNat < 0x110000 := c.valid
  conv => rhs; rw [← Char.ofNat_toNat c]
  rw [utf8EncodeChar_eq]
  generalize c.toNat = n at hv
  split
  case isTrue h =>
    rw [List.singleton_append, items, toNat_ofNat (by omega), step, first, if_pos h]
    rfl
  case isFalse =>
    split
    case isTrue =>
      have ⟨p, hl, hp⟩ := lead_two n (by omega)
      simp only [List.cons_append, List.nil_append]
      rw [items_lead hl (by omega), items_tail_last hp]
    case isFalse =>
      split
      case isTrue =>
        have ⟨p, hl, hp⟩ := lead_three n (by omega) (by omega)
        simp only [List.cons_append, List.nil_append]
        rw [items_lead hl (by omega), items_tail hp, items_tail_last (expects_tail ..)]
      case isFalse =>
        have ⟨p, hl, hp⟩ := lead_four n (by omega)
        simp only [List.cons_append, List.nil_append]
        rw [items_lead hl (by omega), items_tail hp, items_tail (expects_tail ..),
          items_tail_last (expects_tail ..)]

theorem encode_append (cs ds : List Char) : encode (cs ++ ds) = encode cs ++ encode ds :=
  List.flatMap_append

theorem encode_singleton (c : Char) : encode [c] = String.utf8EncodeChar c :=
  List.flatMap_singleton ..

theorem items_encode (cs : List Char) : items none (encode cs) = cs.map some := by
  induction cs with
  | nil => rfl
  | cons c cs ih =>
    rw [encode, List.flatMap_cons, items_utf8EncodeChar, ← encode, ih]
    rfl

theorem decode?_encode (cs : List Char) : decode? (encode cs) = some cs := by
  rw [decode?, items_encode]
  exact mapM_map_eq_some (by intro c; rfl)

theorem decodeLossy_encode (cs : List Char) : decodeLossy (encode cs) = cs := by
  rw [decodeLossy, items_encode, List.map_map]
  exact List.map_id' cs

-- None of several bytes of a character is a character by itself.
theorem le_toNat_of_mem_utf8EncodeChar {c : Char} (hc : 0x80 ≤ c.toNat) :
    ∀ b ∈ String.utf8EncodeChar c, 0x80 ≤ b.toNat := by
  have hv : c.toNat < 0xD800 ∨ 0xDFFF < c.toNat ∧ c.toNat < 0x110000 := c.valid
  have lead_le {m : Nat} (h : 0x80 ≤ m ∧ m < 256) : 0x80 ≤ (UInt8.ofNat m).toNat := by
    rw [toNat_ofNat h.2]
    exact h.1
  have tail_le (m : Nat) : 0x80 ≤ (tail m).toNat := lead_le (by omega)
  rw [utf8EncodeChar_eq, if_neg (by omega)]
  generalize c.toNat = n at hc hv
  split
  case isTrue => exact List.forall_mem_cons.mpr ⟨lead_le (by omega), by simp [tail_le]⟩
  case isFalse =>
    split
    case isTrue  => exact List.forall_mem_cons.mpr ⟨lead_le (by omega), by simp [tail_le]⟩
    case isFalse => exact List.forall_mem_cons.mpr ⟨lead_le (by omega), by simp [tail_le]⟩

theorem eq_of_toUInt8_mem_utf8EncodeChar {a c : Char} (ha : a.toNat < 0x80)
    (h : a.toUInt8 ∈ String.utf8EncodeChar c) : c = a := by
  have hn : a.toUInt8.toNat = a.toNat := toNat_ofNat (Nat.lt_trans ha (by decide))
  by_cases hc : c.toNat < 0x80
  case neg => exact absurd (le_toNat_of_mem_utf8EncodeChar (by omega) _ h) (by omega)
  case pos =>
    rw [utf8EncodeChar_eq, if_pos hc, List.mem_singleton] at h
    rw [← Char.toNat_inj, ← hn, h, toNat_ofNat (by omega)]

theorem mem_of_toUInt8_mem_encode {a : Char} {cs : List Char} (ha : a.toNat < 0x80)
    (h : a.toUInt8 ∈ encode cs) : a ∈ cs := by
  obtain ⟨c, hc, hb⟩ := List.mem_flatMap.mp h
  rwa [← eq_of_toUInt8_mem_utf8EncodeChar ha hb]

end RequestQuery.Text.Utf8
