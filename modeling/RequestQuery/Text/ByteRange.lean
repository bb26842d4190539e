import RequestQuery.Text.Utf8

namespace RequestQuery.Text

structure ByteRange where
  first : UInt8
  last  : UInt8
  deriving DecidableEq

namespace ByteRange

-- The code point in front of which a range is cut: where characters become longer, and else where a block
-- begins of which the leading bytes are alike, if the range does not hold all of the block.
def cut? (first last : Nat) : Option Nat :=
  match [0x80, 0x800, 0x10000].find? fun n => first < n && n ≤ last with
  | some n => some n
  | none =>
    if last < 0x80 then
      none
    else
      [0x40, 0x1000, 0x40000].findSome? fun block =>
        if first / block = last / block then none
        else if first % block ≠ 0 then some ((first / block + 1) * block)
        else if last % block ≠ block - 1 then some (last / block * block)
        else none

-- The characters from a first to a last one, in ascending order.
def sequences (first last : Nat) : List (List ByteRange) :=
  match cut? first last with
  | some n =>
    if first < n ∧ n ≤ last then
      sequences first (n - 1) ++ sequences n last
    else
      []
  | none =>
    [(Utf8.encode [.ofNat first]).zipWith ByteRange.mk (Utf8.encode [.ofNat last])]
  termination_by last - first

end ByteRange

end RequestQuery.Text
