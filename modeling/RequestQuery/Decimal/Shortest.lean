import RequestQuery.Decimal.Binary64

namespace RequestQuery.Decimal

-- How digits are laid out: positionally if the exponent of the first digit is at least `least` and below
-- `limit`, else with an exponent behind the first digit.
structure Layout where
  least : Int
  limit : Int

namespace Layout

-- The literal for `digits · 10 ^ power`; one that is positional always has a point.
def literal (layout : Layout) (negative : Bool) (digits : List Digit) (power : Int) : Literal :=
  let leading := power + digits.length - 1
  let sign := if negative then some Sign.minus else none
  if layout.least ≤ leading ∧ leading < layout.limit then
    if 0 ≤ power then
      { sign, whole := digits ++ .replicate power.toNat 0, fraction := some [0] }
    else if 0 ≤ leading then
      { sign, whole := digits.take (leading + 1).toNat, fraction := some (digits.drop (leading + 1).toNat) }
    else
      { sign, whole := [0], fraction := some (.replicate (-leading - 1).toNat 0 ++ digits) }
  else
    { sign, whole := digits.take 1
      fraction := if digits.length = 1 then none else some (digits.drop 1)
      exponent := some ⟨some (if leading < 0 then .minus else .plus), Digit.ofNat leading.natAbs⟩ }

end Layout

namespace Binary64

-- Positional from `0.00001` up to below `10 ^ 16`.
def layout : Layout := ⟨-5, 16⟩

-- The multiple of `10 ^ power` that is written for `x`, if one reads back: the nearer of the two
-- neighbours, at a tie the even one.
def onGrid? (x : Binary64) (power : Int) : Option Literal :=
  let num := x.significand <<< x.shift * Nat.pow 10 (-power).toNat
  let den := 1 <<< 1074 * Nat.pow 10 power.toNat
  let below := num / den
  let literal n := layout.literal x.negative (Digit.ofNat n) power
  let candidates :=
    if divideToEven num den = below then [below, below + 1] else [below + 1, below]
  (candidates.map literal).find? (ofLiteral? · = some x)

-- All digits of `x`.
def exact (x : Binary64) : Literal where
  sign     := if x.negative then some .minus else none
  whole    := Digit.ofNat (x.significand <<< x.shift * Nat.pow 5 1074)
  exponent := some ⟨some .minus, Digit.ofNat 1074⟩

-- The grids are tried from coarse to fine. Ten to the greatest of the powers is above `x`, and seventeen
-- digits are always enough.
def shortest (x : Binary64) : Literal :=
  let greatest := ((x.significand.log2 + x.shift : Int) - 1073) * 30103 / 100000 + 2
  let powers := (List.range 24).map fun i : Nat => greatest - i
  if x.ordinal = 0 then
    layout.literal x.negative [0] 0
  else
    (powers.findSome? x.onGrid?).getD x.exact

end Binary64

end RequestQuery.Decimal
