import Mathlib.Algebra.Order.Field.Power
import Mathlib.Algebra.Order.Field.Rat
import Mathlib.Tactic.FieldSimp
import Mathlib.Tactic.Ring
import RequestQuery.Proofs.Decimal.Literal

namespace RequestQuery.Decimal

variable {α : Type} [Neg α] {negative : Bool} {cs : List Char} {l : Literal} {mark : Char}

def signed (negative : Bool) (a : α) : α :=
  if negative then -a else a

theorem signed_div (negative : Bool) (a b : ℚ) : signed negative (a / b) = signed negative a / b := by
  cases negative
  case false => rfl
  case true  => exact (neg_div ..).symm

theorem signed_signed (negative : Bool) (a : ℚ) : signed negative (signed negative a) = a := by
  cases negative
  case false => rfl
  case true  => exact neg_neg a

theorem signed_inj {negative : Bool} {a b : ℚ} : signed negative a = signed negative b ↔ a = b := by
  cases negative
  case false => rfl
  case true  => exact neg_inj

theorem abs_signed (negative : Bool) (a : ℚ) : |signed negative a| = |a| := by
  cases negative
  case false => rfl
  case true  => exact abs_neg a

theorem abs_signed_sub_signed (negative : Bool) (a b : ℚ) :
    |signed negative a - signed negative b| = |a - b| := by
  cases negative
  case false => rfl
  case true  => rw [signed, signed, if_pos rfl, if_pos rfl, neg_sub_neg, abs_sub_comm]

-- Numbers of either sign are as far apart as the sum of their magnitudes.
theorem abs_signed_sub_signed_of_ne {p q : Bool} (h : p ≠ q) {a b : ℚ} (ha : 0 ≤ a) (hb : 0 ≤ b) :
    |signed p a - signed q b| = a + b := by
  have hs : |a + b| = a + b := abs_of_nonneg (add_nonneg ha hb)
  cases p <;> cases q
  case false.false => exact absurd rfl h
  case false.true  => exact (congrArg abs (sub_neg_eq_add a b)).trans hs
  case true.false  => exact (congrArg abs (neg_add' a b).symm).trans ((abs_neg _).trans hs)
  case true.true   => exact absurd rfl h

-- A sign that may be left out, and whether it is a minus.
inductive SignForm : List Char → Bool → Prop
  | none  : SignForm [] false
  | plus  : SignForm ['+'] false
  | minus : SignForm ['-'] true

-- Digits, among or beside them a point that may be left out.
inductive PointForm : List Char → ℚ → Prop
  | whole {ds : List Digit} (h : ds ≠ []) : PointForm (ds.map Digit.char) (Digit.value ds)
  | pointed {ds : List Digit} (h : ds ≠ []) (fs : List Digit) :
      PointForm (ds.map Digit.char ++ '.' :: fs.map Digit.char)
        (Digit.value ds + Digit.value fs / 10 ^ fs.length)
  | fraction {fs : List Digit} (h : fs ≠ []) :
      PointForm ('.' :: fs.map Digit.char) (Digit.value fs / 10 ^ fs.length)

-- An exponent that may be left out.
inductive ExponentForm : List Char → ℤ → Prop
  | none : ExponentForm [] 0
  | some {mark : Char} {sign : List Char} {negative : Bool} {ds : List Digit}
      (hm : mark = 'e' ∨ mark = 'E') (hs : SignForm sign negative) (hd : ds ≠ []) :
      ExponentForm (mark :: sign ++ ds.map Digit.char) (signed negative (Digit.value ds))

-- A numeral, whether a minus stands in front of it, and the number that it denotes.
inductive Numeral : List Char → Bool → ℚ → Prop
  | intro {sign point exponent : List Char} {negative : Bool} {v : ℚ} {k : ℤ} (hs : SignForm sign negative)
      (hp : PointForm point v) (he : ExponentForm exponent k) :
      Numeral (sign ++ point ++ exponent) negative (signed negative (v * 10 ^ k))

-- A numeral without point and exponent, and the integer that it denotes.
inductive IntegerForm : List Char → ℤ → Prop
  | intro {sign : List Char} {negative : Bool} {ds : List Digit} (hs : SignForm sign negative)
      (hd : ds ≠ []) : IntegerForm (sign ++ ds.map Digit.char) (signed negative (Digit.value ds))

theorem Digit.value_append (ds fs : List Digit) : value (ds ++ fs) = value ds * 10 ^ fs.length + value fs := by
  induction fs using List.reverseRecOn with
  | nil => simp [value]
  | append_singleton fs d ih =>
    rw [← List.append_assoc, value_append_singleton, value_append_singleton, ih, List.length_append,
      List.length_singleton]
    ring

theorem signForm_chars (sign : Option Sign) :
    SignForm (sign.map Sign.char).toList (sign == some .minus) := by
  cases sign
  case none      => exact .none
  case some sign =>
    cases sign
    case plus  => exact .plus
    case minus => exact .minus

theorem SignForm.exists_sign {sign : List Char} (h : SignForm sign negative) :
    ∃ s : Option Sign, (s.map Sign.char).toList = sign ∧ (s == some .minus) = negative := by
  cases h
  case none  => exact ⟨Option.none, rfl, rfl⟩
  case plus  => exact ⟨Option.some .plus, rfl, rfl⟩
  case minus => exact ⟨Option.some .minus, rfl, rfl⟩

theorem Sign.apply_eq (sign : Option Sign) (n : ℕ) : apply sign n = signed (sign == some .minus) (n : ℤ) := by
  cases sign
  case none      => rfl
  case some sign => cases sign <;> rfl

namespace Literal

def exponentValue (exponent : Option Exponent) : ℤ :=
  exponent.elim 0 fun e => Sign.apply e.sign (Digit.value e.digits)

-- The digits with the point in its place.
def pointValue (whole : List Digit) (fraction : Option (List Digit)) : ℚ :=
  Digit.value whole + Digit.value (fraction.getD []) / 10 ^ (fraction.getD []).length

def value (l : Literal) : ℚ :=
  signed l.negative (l.mantissa * 10 ^ l.scale)

theorem value_eq (l : Literal) :
    l.value = signed l.negative (pointValue l.whole l.fraction * 10 ^ exponentValue l.exponent) := by
  have hs : l.scale = exponentValue l.exponent - (l.fraction.getD []).length := by
    rw [scale, exponentValue]
    cases l.exponent <;> rfl
  have hp : (10 : ℚ) ≠ 0 := by norm_num
  rw [value, mantissa, Digit.value_append, hs, pointValue, zpow_sub₀ hp, zpow_natCast]
  congr 1
  push_cast
  field_simp

theorem value_of_integer? {n : ℤ} (h : l.integer? = some n) : l.value = n := by
  obtain ⟨hf, he, rfl⟩ := integer?_eq_some_iff.mp h
  rw [value_eq, hf, he, Sign.apply_eq, negative]
  cases l.sign == some .minus <;> simp [pointValue, exponentValue, signed, Digit.value]

theorem pointForm_chars {whole : List Digit} {fraction : Option (List Digit)}
    (h : whole ≠ [] ∨ fraction.getD [] ≠ []) :
    PointForm (whole.map Digit.char ++ fractionChars fraction) (pointValue whole fraction) := by
  cases fraction
  case none =>
    have hw : whole ≠ [] := by simpa using h
    simpa [pointValue, fractionChars, Digit.value] using PointForm.whole hw
  case some fs =>
    by_cases hw : whole = []
    case pos =>
      have hf : fs ≠ [] := by simpa [hw] using h
      simpa [hw, pointValue, fractionChars, Digit.value] using PointForm.fraction hf
    case neg => exact .pointed hw fs

theorem exponentForm_chars {exponent : Option Exponent} (hm : IsMark mark)
    (h : ∀ e ∈ exponent, e.digits ≠ []) :
    ExponentForm (exponentChars mark exponent) (exponentValue exponent) := by
  cases exponent
  case none   => exact .none
  case some e =>
    have he := ExponentForm.some hm (signForm_chars e.sign) (h e rfl)
    rwa [← Sign.apply_eq] at he

theorem numeral_charsWith (hm : IsMark mark) (h : l.Complete) :
    Numeral (l.charsWith mark) l.negative l.value := by
  have hn := Numeral.intro (signForm_chars l.sign) (pointForm_chars h.mantissa)
    (exponentForm_chars hm h.exponent)
  rw [List.append_assoc, List.append_assoc] at hn
  rw [value_eq]
  exact hn

end Literal

open Literal

theorem PointForm.exists_digits {point : List Char} {v : ℚ} (h : PointForm point v) :
    ∃ whole fraction, (whole ≠ [] ∨ fraction.getD [] ≠ []) ∧
      whole.map Digit.char ++ fractionChars fraction = point ∧ pointValue whole fraction = v := by
  cases h
  case whole ds h      => exact ⟨ds, none, .inl h, by simp [fractionChars], by simp [pointValue, Digit.value]⟩
  case pointed ds h fs => exact ⟨ds, some fs, .inl h, rfl, rfl⟩
  case fraction fs h   => exact ⟨[], some fs, .inr h, rfl, by simp [pointValue, Digit.value]⟩

theorem ExponentForm.exists_exponent {exponent : List Char} {k : ℤ} (h : ExponentForm exponent k) :
    ∃ mark e, IsMark mark ∧ (∀ x ∈ e, x.digits ≠ []) ∧ exponentChars mark e = exponent ∧
      exponentValue e = k := by
  cases h
  case none => exact ⟨'e', Option.none, .inl rfl, nofun, rfl, rfl⟩
  case some mark sign negative ds hm hs hd =>
    obtain ⟨s, rfl, rfl⟩ := hs.exists_sign
    refine ⟨mark, Option.some ⟨s, ds⟩, hm, ?_, rfl, Sign.apply_eq ..⟩
    rintro _ ⟨⟩
    exact hd

theorem numeral_iff {v : ℚ} :
    Numeral cs negative v ↔ ∃ l, ofChars? cs = some l ∧ l.negative = negative ∧ l.value = v where
  mp h := by
    obtain ⟨hs, hp, he⟩ := h
    obtain ⟨sign, rfl, rfl⟩ := hs.exists_sign
    obtain ⟨whole, fraction, hd, rfl, rfl⟩ := hp.exists_digits
    obtain ⟨mark, exponent, hm, hx, rfl, rfl⟩ := he.exists_exponent
    let l : Literal := { sign, whole, fraction, exponent }
    have hc : l.charsWith mark = (sign.map Sign.char).toList ++
        (whole.map Digit.char ++ fractionChars fraction) ++ exponentChars mark exponent := by
      rw [List.append_assoc, List.append_assoc]
      rfl
    exact ⟨l, ofChars?_eq_some_iff.mpr ⟨⟨hd, hx⟩, mark, hm, hc⟩, rfl, value_eq l⟩
  mpr h := by
    obtain ⟨l, hl, rfl, rfl⟩ := h
    obtain ⟨hc, mark, hm, rfl⟩ := ofChars?_eq_some_iff.mp hl
    exact numeral_charsWith hm hc

theorem integerForm_iff {n : ℤ} : IntegerForm cs n ↔ ∃ l, ofChars? cs = some l ∧ l.integer? = some n where
  mp h := by
    obtain ⟨hs, hd⟩ := h
    obtain ⟨sign, rfl, rfl⟩ := hs.exists_sign
    refine ⟨{ sign, whole := _ }, ofChars?_whole sign hd, ?_⟩
    exact integer?_eq_some_iff.mpr ⟨rfl, rfl, Sign.apply_eq ..⟩
  mpr h := by
    obtain ⟨⟨sign, whole, fraction, exponent⟩, hl, hn⟩ := h
    obtain ⟨rfl, rfl, rfl⟩ := integer?_eq_some_iff.mp hn
    obtain ⟨hc, mark, _, rfl⟩ := ofChars?_eq_some_iff.mp hl
    have hw : whole ≠ [] := by simpa using hc.mantissa
    have hi := IntegerForm.intro (signForm_chars sign) hw
    simpa [charsWith, fractionChars, exponentChars, Sign.apply_eq] using hi

end RequestQuery.Decimal
