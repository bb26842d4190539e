namespace RequestQuery.Decimal

abbrev Digit := Fin 10

namespace Digit

def ofChar? (c : Char) : Option Digit :=
  if h : c.toNat - '0'.toNat < 10 ∧ '0'.toNat ≤ c.toNat then some ⟨_, h.1⟩ else none

def char (d : Digit) : Char :=
  Char.ofNat ('0'.toNat + d)

@[simp]
theorem ofChar?_char (d : Digit) : ofChar? d.char = some d := by
  revert d; decide

theorem ofChar?_eq_some_iff {c : Char} {d : Digit} : ofChar? c = some d ↔ c = d.char where
  mp h := by
    unfold ofChar? at h
    split at h
    case isFalse => cases h
    case isTrue lt =>
      cases h
      have e : '0'.toNat + (c.toNat - '0'.toNat) = c.toNat := Nat.add_sub_of_le lt.2
      exact (Char.ofNat_toNat c).symm.trans (congrArg Char.ofNat e.symm)
  mpr h := h ▸ ofChar?_char d

-- The digits at the front of a text and what follows them.
def scan : List Char → List Digit × List Char
  | [] => ([], [])
  | c :: cs => (ofChar? c).elim ([], c :: cs) fun d => (d :: (scan cs).1, (scan cs).2)

def value (ds : List Digit) : Nat :=
  ds.foldl (fun n d => 10 * n + d.val) 0

-- The digits of a number, the most significant one first and no zero in front.
def ofNat (n : Nat) : List Digit :=
  if h : n < 10 then
    [⟨n, h⟩]
  else
    ofNat (n / 10) ++ [⟨n % 10, Nat.mod_lt n (by decide)⟩]

theorem value_append_singleton (ds : List Digit) (d : Digit) :
    value (ds ++ [d]) = 10 * value ds + d := by
  simp [value]

@[simp]
theorem value_ofNat (n : Nat) : value (ofNat n) = n := by
  fun_induction ofNat n with
  | case1 n h => simp [value]
  | case2 n h ih => rw [value_append_singleton, ih]; exact Nat.div_add_mod n 10

end Digit

inductive Sign
  | plus
  | minus
  deriving DecidableEq

namespace Sign

def char : Sign → Char
  | plus  => '+'
  | minus => '-'

def scan : List Char → Option Sign × List Char
  | '+' :: cs => (some plus, cs)
  | '-' :: cs => (some minus, cs)
  | cs => (none, cs)

def apply (sign : Option Sign) (n : Nat) : Int :=
  if sign = some minus then -n else n

end Sign

structure Exponent where
  sign   : Option Sign
  digits : List Digit
  deriving DecidableEq

structure Literal where
  sign     : Option Sign := none
  whole    : List Digit
  fraction : Option (List Digit) := none
  exponent : Option Exponent := none
  deriving DecidableEq

namespace Literal

def scanFraction : List Char → Option (List Digit) × List Char
  | '.' :: cs => (some (Digit.scan cs).1, (Digit.scan cs).2)
  | cs => (none, cs)

-- Fails on the mark of an exponent without digits behind it.
def scanExponent : List Char → Option (Option Exponent × List Char)
  | [] => some (none, [])
  | c :: cs =>
    if c == 'e' || c == 'E' then
      let (sign, cs) := Sign.scan cs
      match Digit.scan cs with
      | ([], _)    => none
      | (ds, rest) => some (some ⟨sign, ds⟩, rest)
    else
      some (none, c :: cs)

def scan (cs : List Char) : Option (Literal × List Char) := do
  let (sign, cs)     := Sign.scan cs
  let (whole, cs)    := Digit.scan cs
  let (fraction, cs) := scanFraction cs
  guard !(whole.isEmpty && (fraction.getD []).isEmpty)
  let (exponent, cs) ← scanExponent cs
  return (⟨sign, whole, fraction, exponent⟩, cs)

def ofChars? (cs : List Char) : Option Literal :=
  match scan cs with
  | some (l, []) => some l
  | _ => none

def chars (l : Literal) : List Char :=
  (l.sign.map Sign.char).toList
    ++ l.whole.map Digit.char
    ++ (match l.fraction with
        | none => []
        | some ds => '.' :: ds.map Digit.char)
    ++ (match l.exponent with
        | none => []
        | some e => 'e' :: (e.sign.map Sign.char).toList ++ e.digits.map Digit.char)

-- The number, if the literal has neither point nor exponent.
def integer? (l : Literal) : Option Int :=
  if l.fraction.isNone && l.exponent.isNone then
    some (Sign.apply l.sign (Digit.value l.whole))
  else
    none

-- The number denoted is `mantissa · 10 ^ scale`, less than zero if `negative`.

def negative (l : Literal) : Bool :=
  l.sign == some .minus

def mantissa (l : Literal) : Nat :=
  Digit.value (l.whole ++ l.fraction.getD [])

def scale (l : Literal) : Int :=
  (match l.exponent with
   | none => 0
   | some e => Sign.apply e.sign (Digit.value e.digits)) - (l.fraction.getD []).length

end Literal

end RequestQuery.Decimal
