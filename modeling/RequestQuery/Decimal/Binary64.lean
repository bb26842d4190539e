import RequestQuery.Decimal.Literal

namespace RequestQuery.Decimal

-- The magnitudes, from zero on, are numbered in ascending order: number `2 ^ 52 · k + m` is
-- `m · 2 ^ (k - 1074)`, where `m ≥ 2 ^ 52` as soon as `k > 0`.
structure Binary64 where
  negative : Bool
  ordinal  : Nat
  finite   : ordinal < 2047 <<< 52
  deriving DecidableEq

namespace Binary64

-- The exponent over the least one.
def shift (x : Binary64) : Nat :=
  x.ordinal >>> 52 - 1

def significand (x : Binary64) : Nat :=
  x.ordinal - x.shift <<< 52

def divideToEven (num den : Nat) : Nat :=
  let q := num / den
  let r := num % den
  if 2 * r < den ∨ (2 * r = den ∧ q % 2 = 0) then q else q + 1

-- The number of the magnitude nearest to `num / den`, as if the format had no greatest one.
def nearestOrdinal (num den : Nat) : Nat :=
  let shift := (num <<< 1074 / den).log2 - 52
  shift <<< 52 + divideToEven (num <<< 1074) (den <<< shift)

-- The finite number nearest to `mantissa · 10 ^ scale`, if there is one. The first two conditions only
-- keep the powers small: beyond them the answer is sure.
def nearest? (negative : Bool) (mantissa : Nat) (scale : Int) : Option Binary64 :=
  if mantissa = 0 ∨ (mantissa.log2 : Int) + 1 + 3 * scale ≤ -1075 then
    some ⟨negative, 0, by decide⟩
  else if 308 < scale then
    none
  else
    let ordinal := nearestOrdinal (mantissa * Nat.pow 10 scale.toNat) (Nat.pow 10 (-scale).toNat)
    if h : ordinal < 2047 <<< 52 then some ⟨negative, ordinal, h⟩ else none

def ofLiteral? (l : Literal) : Option Binary64 :=
  nearest? l.negative l.mantissa l.scale

end Binary64

end RequestQuery.Decimal
