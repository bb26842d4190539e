namespace RequestQuery.Text.Hex

inductive Case
  | lower
  | upper
  deriving DecidableEq

def digit? (c : Char) : Option (Fin 16) :=
  let n := c.toNat
  if h : n - 48 < 10 ∧ 48 ≤ n then some ⟨n - 48, by omega⟩
  else if h : n - 65 < 6 ∧ 65 ≤ n then some ⟨n - 65 + 10, by omega⟩
  else if h : n - 97 < 6 ∧ 97 ≤ n then some ⟨n - 97 + 10, by omega⟩
  else none

def char (case : Case) (d : Fin 16) : Char :=
  if d < 10 then Char.ofNat (48 + d)
  else match case with
    | .lower => Char.ofNat (87 + d)
    | .upper => Char.ofNat (55 + d)

@[simp]
theorem digit?_char (case : Case) (d : Fin 16) : digit? (char case d) = some d := by
  cases case <;> revert d <;> decide

-- The number that the digits denote, if all of them are digits.
def value? (cs : List Char) : Option Nat :=
  cs.foldlM (fun n c => (digit? c).map (16 * n + ·.val)) 0

-- The last `width` digits of a number.
def digits (case : Case) (width n : Nat) : List Char :=
  match width with
  | 0 => []
  | w + 1 => digits case w (n / 16) ++ [char case (Fin.ofNat 16 n)]

end RequestQuery.Text.Hex
