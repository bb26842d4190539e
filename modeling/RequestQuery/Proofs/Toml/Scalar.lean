import RequestQuery.Toml.Scalar
import RequestQuery.Proofs.Decimal.Literal
import RequestQuery.Proofs.Text.Split
import RequestQuery.Proofs.Traversal

namespace RequestQuery.Toml

open Decimal

namespace Scalar

variable {c : Char} {cs : List Char} {ds : List Digit} {n : Nat}

theorem map_char_ne (hs : c ∈ cs) (h : Digit.ofChar? c = none) : ds.map Digit.char ≠ cs :=
  fun he => Digit.notMem_map_char c h (he.symm ▸ hs)

theorem mark?_eq_none (h : c ∉ cs) : mark? c cs = none :=
  if_neg fun hc => h (List.mem_of_mem_head? hc)

theorem eq_drop_of_field? {width first last : Nat} {rest : List Char}
    (h : field? width first last cs = some (n, rest)) : rest = cs.drop width := by
  rw [field?] at h
  cases hm : (cs.take width).mapM Digit.ofChar?
  case none => simp [hm] at h
  case some ds =>
    simp only [hm, Option.bind_eq_bind, Option.bind_some, Option.ite_none_right_eq_some,
      Option.some.injEq, Prod.mk.injEq] at h
    exact h.2.2.symm

theorem date?_eq_none (h : '-' ∉ cs) : date? cs = none := by
  rw [date?]
  cases hf : field? 4 0 9999 cs
  case none => rfl
  case some p =>
    have hm : mark? '-' p.2 = none :=
      mark?_eq_none fun hm => h (List.mem_of_mem_drop (eq_drop_of_field? hf ▸ hm))
    simp [hm]

theorem time?_eq_none (h : ':' ∉ cs) : time? cs = none := by
  rw [time?]
  cases hf : field? 2 0 23 cs
  case none => rfl
  case some p =>
    have hm : mark? ':' p.2 = none :=
      mark?_eq_none fun hm => h (List.mem_of_mem_drop (eq_drop_of_field? hf ▸ hm))
    simp [hm]

theorem isMoment_eq_false (hd : '-' ∉ cs) (ht : ':' ∉ cs) : isMoment cs = false := by
  rw [isMoment, date?_eq_none hd, time?_eq_none ht]
  rfl

theorem digits?_map_char (h : ds ≠ []) : digits? (ds.map Digit.char) = some ds := by
  have hu : ungrouped? Char.isDigit (ds.map Digit.char) = some (ds.map Digit.char) := by
    have hd (d : Digit) : d.char.isDigit := by revert d; decide
    simp [ungrouped?, Text.splitOn_eq_singleton (Digit.notMem_map_char '_' rfl), h, hd]
  rw [digits?, hu]
  exact mapM_map_eq_some Digit.ofChar?_char

theorem wholeDigits?_ofNat (n : Nat) :
    wholeDigits? ((Digit.ofNat n).map Digit.char) = some (Digit.ofNat n) := by
  have ⟨d, ds, hd, hz⟩ := Digit.ofNat_eq_cons n
  rw [wholeDigits?, digits?_map_char (Digit.ofNat_ne_nil n)]
  refine if_pos ?_
  rw [hd]
  by_cases h : d = 0
  case pos => exact .inl (by simp [hz h])
  case neg => exact .inr (by simpa using h)

theorem integer?_ofNat (h : withinRange n) : integer? ((Digit.ofNat n).map Digit.char) = some (.integer n) := by
  have hs : Sign.scan ((Digit.ofNat n).map Digit.char) = (none, (Digit.ofNat n).map Digit.char) := by
    apply Sign.scan_append none
    intro c hc s
    have ⟨d, _, hd⟩ := List.mem_map.mp (List.mem_of_mem_head? hc)
    exact hd ▸ d.char_ne_sign s
  have hn : Sign.apply none (Digit.value (Digit.ofNat n)) = n := by rw [Digit.value_ofNat]; rfl
  have hm {c : Char} (hc : Digit.ofChar? c = none) (cs : List Char) :
      (Digit.ofNat n).map Digit.char ≠ '0' :: c :: cs :=
    map_char_ne (List.mem_cons_of_mem _ List.mem_cons_self) hc
  rw [integer?, hs]
  · simp only [wholeDigits?_ofNat, Option.bind_eq_bind, Option.bind_some, hn, h, if_true]
  · exact hm rfl
  · exact hm rfl
  · exact hm rfl

theorem ofWord?_ofNat (h : withinRange n) : ofWord? ((Digit.ofNat n).map Digit.char) = some (.integer n) := by
  have ht : (Digit.ofNat n).map Digit.char ≠ "true".toList :=
    map_char_ne (by decide : 't' ∈ _) rfl
  have hf : (Digit.ofNat n).map Digit.char ≠ "false".toList :=
    map_char_ne (by decide : 'f' ∈ _) rfl
  rw [ofWord?, if_neg ht, if_neg hf,
    isMoment_eq_false (Digit.notMem_map_char '-' rfl) (Digit.notMem_map_char ':' rfl),
    integer?_ofNat h]
  rfl

end Scalar

end RequestQuery.Toml
