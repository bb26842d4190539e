import Mathlib.Data.List.Induction
import Mathlib.Data.Option.Basic
import RequestQuery.Decimal.Literal

namespace RequestQuery.Decimal

namespace Digit

variable {ds : List Digit}

theorem value_eq_zero (h : ∀ d ∈ ds, d = 0) : value ds = 0 := by
  induction ds with
  | nil => rfl
  | cons d ds ih =>
    have hd : d = 0 := h d List.mem_cons_self
    rw [value, List.foldl_cons, hd]
    exact ih fun d hm => h d (List.mem_cons_of_mem _ hm)

theorem value_eq_zero_iff : value ds = 0 ↔ ∀ d ∈ ds, d = 0 where
  mp h := by
    induction ds using List.reverseRecOn with
    | nil => simp
    | append_singleton ds d ih =>
      rw [value_append_singleton] at h
      have hd : d = 0 := Fin.ext (by omega)
      have hs := ih (by omega)
      simpa [or_imp, forall_and, hd] using hs
  mpr := value_eq_zero

theorem eq_replicate_of_value_eq_zero (h : value ds = 0) (hne : ds ≠ []) :
    ∃ n, ds = .replicate (n + 1) 0 := by
  refine ⟨ds.length - 1, ?_⟩
  rw [Nat.sub_add_cancel (List.length_pos_iff.mpr hne)]
  exact List.eq_replicate_of_mem (value_eq_zero_iff.mp h)

theorem ofNat_zero : ofNat 0 = [0] := by
  rw [ofNat]
  rfl

-- No zero stands in front of other digits.
theorem ofNat_eq_cons (n : Nat) : ∃ d ds, ofNat n = d :: ds ∧ (d = 0 → ds = [] ∧ n = 0) := by
  fun_induction ofNat n with
  | case1 n hn => exact ⟨⟨n, hn⟩, [], rfl, fun h0 => ⟨rfl, congrArg Fin.val h0⟩⟩
  | case2 n hn ih =>
    obtain ⟨d, ds, hd, hz⟩ := ih
    exact ⟨d, ds ++ [_], by rw [hd]; rfl, fun h0 => absurd (hz h0).2 (by omega)⟩

theorem ofNat_ne_nil (n : Nat) : ofNat n ≠ [] := by
  have ⟨_, _, hd, _⟩ := ofNat_eq_cons n
  simp [hd]

end Digit

theorem Digit.notMem_map_char {ds : List Digit} (c : Char) (h : ofChar? c = none) : c ∉ ds.map char := by
  intro hm
  have ⟨d, _, hd⟩ := List.mem_map.mp hm
  rw [← hd, ofChar?_char] at h
  cases h

theorem Digit.scan_append (ds : List Digit) (rest : List Char) (h : ∀ c ∈ rest.head?, ofChar? c = none) :
    scan (ds.map char ++ rest) = (ds, rest) := by
  induction ds with
  | nil =>
    cases rest
    case nil => rfl
    case cons c cs => simp [scan, h c rfl]
  | cons d ds ih =>
    rw [List.map_cons, List.cons_append, scan, ofChar?_char, Option.elim_some, ih]

-- The digits at the front and what follows them are the whole text.
theorem Digit.scan_eq (cs : List Char) : (scan cs).1.map char ++ (scan cs).2 = cs := by
  induction cs with
  | nil => rfl
  | cons c cs ih =>
    rw [scan]
    cases hc : ofChar? c
    case none   => rfl
    case some d => rw [Option.elim_some, List.map_cons, List.cons_append, ih, ofChar?_eq_some_iff.mp hc]

theorem Digit.char_ne_sign (d : Digit) (sign : Sign) : d.char ≠ sign.char := by
  cases sign <;> revert d <;> decide

theorem Sign.scan_append (sign : Option Sign) {rest : List Char}
    (h : ∀ c ∈ rest.head?, ∀ s : Sign, c ≠ s.char) :
    scan ((sign.map char).toList ++ rest) = (sign, rest) := by
  cases sign
  case some sign => cases sign <;> rfl
  case none =>
    cases rest
    case nil => rfl
    case cons c cs =>
      have hp : c ≠ '+' := h c rfl .plus
      have hm : c ≠ '-' := h c rfl .minus
      simp [scan, hp, hm]

theorem Sign.scan_eq (cs : List Char) : ((scan cs).1.map char).toList ++ (scan cs).2 = cs := by
  unfold scan
  split <;> rfl

namespace Literal

variable {l : Literal} {cs rest : List Char} {n : Int}

-- A literal with at least one digit where there have to be some.
structure Complete (l : Literal) : Prop where
  mantissa : l.whole ≠ [] ∨ l.fraction.getD [] ≠ []
  exponent : ∀ e ∈ l.exponent, e.digits ≠ []

def fractionChars : Option (List Digit) → List Char
  | none    => []
  | some ds => '.' :: ds.map Digit.char

def exponentChars (mark : Char) : Option Exponent → List Char
  | none   => []
  | some e => mark :: (e.sign.map Sign.char).toList ++ e.digits.map Digit.char

-- The letter before an exponent may be of either case.
def IsMark (c : Char) : Prop :=
  c = 'e' ∨ c = 'E'

-- The characters of a literal with a letter of choice before its exponent.
def charsWith (mark : Char) (l : Literal) : List Char :=
  (l.sign.map Sign.char).toList ++
    (l.whole.map Digit.char ++ (fractionChars l.fraction ++ exponentChars mark l.exponent))

theorem chars_eq (l : Literal) : l.chars = l.charsWith 'e' := by
  rw [chars, List.append_assoc, List.append_assoc]
  rfl

variable {mark : Char}

theorem IsMark.ofChar?_eq_none (h : IsMark mark) : Digit.ofChar? mark = none := by
  rcases h with rfl | rfl <;> decide

theorem head?_exponentChars {exponent : Option Exponent} {c : Char}
    (h : c ∈ (exponentChars mark exponent).head?) : c = mark := by
  cases exponent
  case none => cases h
  case some => exact (Option.mem_some.mp h).symm

theorem head?_fractionChars {fraction : Option (List Digit)} {exponent : Option Exponent} {c : Char}
    (h : c ∈ (fractionChars fraction ++ exponentChars mark exponent).head?) : c = '.' ∨ c = mark := by
  cases fraction
  case none => exact .inr (head?_exponentChars h)
  case some => exact .inl (Option.mem_some.mp h).symm

theorem scanExponent_exponentChars {exponent : Option Exponent} (hm : IsMark mark)
    (h : ∀ e ∈ exponent, e.digits ≠ []) :
    scanExponent (exponentChars mark exponent) = some (exponent, []) := by
  cases exponent
  case none => rfl
  case some e =>
    have hd : Digit.scan (e.digits.map Digit.char) = (e.digits, []) := by
      simpa using Digit.scan_append e.digits [] (by simp)
    have hs : ∀ c ∈ (e.digits.map Digit.char).head?, ∀ s : Sign, c ≠ s.char := by
      intro c hc s
      have ⟨d, _, hd⟩ := List.mem_map.mp (List.mem_of_mem_head? hc)
      exact hd ▸ d.char_ne_sign s
    have hb : (mark == 'e' || mark == 'E') = true := by simpa [IsMark] using hm
    have hne := h e rfl
    rw [exponentChars, List.cons_append, scanExponent, if_pos hb, Sign.scan_append e.sign hs]
    simp only [hd]

theorem scanFraction_append (hm : IsMark mark) (fraction : Option (List Digit))
    (exponent : Option Exponent) :
    scanFraction (fractionChars fraction ++ exponentChars mark exponent) =
      (fraction, exponentChars mark exponent) := by
  cases fraction
  case none =>
    cases exponent
    case none   => rfl
    case some e => rcases hm with rfl | rfl <;> rfl
  case some ds =>
    have h := Digit.scan_append ds (exponentChars mark exponent) fun c hc =>
      head?_exponentChars hc ▸ hm.ofChar?_eq_none
    rw [fractionChars, List.cons_append, scanFraction, h]

theorem ofChars?_charsWith (hm : IsMark mark) (h : l.Complete) : ofChars? (l.charsWith mark) = some l := by
  have hw := Digit.scan_append l.whole (fractionChars l.fraction ++ exponentChars mark l.exponent)
    fun c hc => by
      rcases head?_fractionChars hc with rfl | rfl
      · decide
      · exact hm.ofChar?_eq_none
  have hs : ∀ c ∈ (l.whole.map Digit.char ++
      (fractionChars l.fraction ++ exponentChars mark l.exponent)).head?, ∀ s : Sign, c ≠ s.char := by
    intro c hc s
    cases hl : l.whole
    case nil =>
      rw [hl] at hc
      rcases head?_fractionChars hc with rfl | rfl
      · cases s <;> decide
      · rcases hm with rfl | rfl <;> cases s <;> decide
    case cons d ds =>
      rw [hl] at hc
      exact Option.mem_some.mp hc ▸ d.char_ne_sign s
  have he : (l.whole.isEmpty && (l.fraction.getD []).isEmpty) = false := by
    rcases h.mantissa with h | h <;> simp [h]
  rw [ofChars?, scan, charsWith, Sign.scan_append l.sign hs]
  simp only [hw, scanFraction_append hm, he, scanExponent_exponentChars hm h.exponent]
  rfl

theorem ofChars?_chars (h : l.Complete) : ofChars? l.chars = some l :=
  chars_eq l ▸ ofChars?_charsWith (.inl rfl) h

theorem scanFraction_eq (cs : List Char) :
    fractionChars (scanFraction cs).1 ++ (scanFraction cs).2 = cs := by
  unfold scanFraction
  split
  case h_1 cs => rw [fractionChars, List.cons_append, Digit.scan_eq]
  case h_2    => rfl

theorem scanExponent_eq_some {exponent : Option Exponent}
    (h : scanExponent cs = some (exponent, rest)) :
    (∀ e ∈ exponent, e.digits ≠ []) ∧ ∃ mark, IsMark mark ∧ exponentChars mark exponent ++ rest = cs := by
  unfold scanExponent at h
  split at h
  case h_1 => cases h; exact ⟨nofun, 'e', .inl rfl, rfl⟩
  case h_2 c cs =>
    split at h
    case isFalse => cases h; exact ⟨nofun, 'e', .inl rfl, rfl⟩
    case isTrue hc =>
      dsimp only at h
      split at h
      case h_1 => cases h
      case h_2 ds rest hne hs =>
        cases h
        have hd : ds.map Digit.char ++ rest = (Sign.scan cs).2 := by
          simpa [hs] using Digit.scan_eq (Sign.scan cs).2
        refine ⟨?_, c, by simpa [IsMark] using hc, ?_⟩
        · rintro e ⟨⟩ hd
          exact hne hd
        · rw [exponentChars, List.append_assoc, List.cons_append, hd, Sign.scan_eq]

theorem scan_eq_some (h : scan cs = some (l, rest)) :
    l.Complete ∧ ∃ mark, IsMark mark ∧ l.charsWith mark ++ rest = cs := by
  simp only [scan, Option.bind_eq_bind, Option.bind_eq_some_iff] at h
  obtain ⟨_, hm, ⟨exponent, rest⟩, he, h⟩ := h
  cases h
  have ⟨hd, mark, hmark, hr⟩ := scanExponent_eq_some he
  refine ⟨⟨?_, hd⟩, mark, hmark, ?_⟩
  · simpa only [Option.guard_eq_some', Bool.not_eq_true', Bool.and_eq_false_iff,
      List.isEmpty_eq_false_iff] using hm
  · simp only [charsWith, List.append_assoc, hr, scanFraction_eq, Digit.scan_eq, Sign.scan_eq]

-- A literal is read from the characters that it may be written with, and from no others.
theorem ofChars?_eq_some_iff :
    ofChars? cs = some l ↔ l.Complete ∧ ∃ mark, IsMark mark ∧ l.charsWith mark = cs where
  mp h := by
    rw [ofChars?] at h
    split at h
    case h_1 l hs => cases h; simpa using scan_eq_some hs
    case h_2      => cases h
  mpr h := by
    obtain ⟨hc, mark, hm, rfl⟩ := h
    exact ofChars?_charsWith hm hc

theorem ofChars?_whole (sign : Option Sign) {ds : List Digit} (h : ds ≠ []) :
    ofChars? ((sign.map Sign.char).toList ++ ds.map Digit.char) = some { sign, whole := ds } := by
  have hc : ({ sign, whole := ds } : Literal).Complete := ⟨.inl h, nofun⟩
  rw [← ofChars?_chars hc, chars_eq]
  simp [charsWith, fractionChars, exponentChars]

theorem integer?_eq_some_iff :
    l.integer? = some n ↔
      l.fraction = none ∧ l.exponent = none ∧ Sign.apply l.sign (Digit.value l.whole) = n := by
  rw [integer?]
  cases l.fraction <;> cases l.exponent <;> simp

-- The literal of an integer.
def ofInt (n : Int) : Literal where
  sign  := if n < 0 then some .minus else none
  whole := Digit.ofNat n.natAbs

theorem complete_ofInt (n : Int) : (ofInt n).Complete :=
  ⟨.inl (Digit.ofNat_ne_nil _), by rintro _ ⟨⟩⟩

theorem integer?_ofInt (n : Int) : (ofInt n).integer? = some n := by
  have hn : Sign.apply (if n < 0 then some .minus else none) n.natAbs = n := by
    unfold Sign.apply
    by_cases h : n < 0
    case pos => simp only [h, if_true]; omega
    case neg => simp only [h, if_false, reduceCtorEq]; omega
  rw [integer?, ofInt, Digit.value_ofNat, hn]
  rfl

end Literal

end RequestQuery.Decimal
