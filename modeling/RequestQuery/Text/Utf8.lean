namespace RequestQuery.Text.Utf8

-- A character of which bytes are missing: how many, the range of the next one, and the number so far.
structure Pending where
  owed  : Nat
  least : Nat := 0x80
  most  : Nat := 0xBF
  code  : Nat

def lead (byte : Nat) : Option Pending :=
  if 0xC2 ≤ byte ∧ byte ≤ 0xDF then some { owed := 1, code := byte - 0xC0 }
  else if byte = 0xE0 then some { owed := 2, least := 0xA0, code := 0 }
  else if byte = 0xED then some { owed := 2, most := 0x9F, code := 0xD }
  else if 0xE1 ≤ byte ∧ byte ≤ 0xEF then some { owed := 2, code := byte - 0xE0 }
  else if byte = 0xF0 then some { owed := 3, least := 0x90, code := 0 }
  else if 0xF1 ≤ byte ∧ byte ≤ 0xF3 then some { owed := 3, code := byte - 0xF0 }
  else if byte = 0xF4 then some { owed := 3, most := 0x8F, code := 4 }
  else none

-- What a byte at the start of a character completes, and what it leaves pending.
def first (byte : Nat) : List (Option Char) × Option Pending :=
  if byte < 0x80 then
    ([some (Char.ofNat byte)], none)
  else
    match lead byte with
    | some p => ([], some p)
    | none   => ([none], none)

def step (state : Option Pending) (byte : Nat) : List (Option Char) × Option Pending :=
  match state with
  | none => first byte
  | some p =>
    if p.least ≤ byte ∧ byte ≤ p.most then
      let code := p.code * 64 + (byte - 0x80)
      if p.owed = 1 then
        ([some (Char.ofNat code)], none)
      else
        ([], some { owed := p.owed - 1, code })
    else
      (none :: (first byte).1, (first byte).2)

-- The characters of the text, `none` for each invalid piece: a maximal run of bytes that begins a character and
-- does not complete it, or a single byte that begins none.
def items (state : Option Pending) : List UInt8 → List (Option Char)
  | [] => if state.isSome then [none] else []
  | b :: bs => (step state b.toNat).1 ++ items (step state b.toNat).2 bs

def encode (cs : List Char) : List UInt8 :=
  cs.flatMap String.utf8EncodeChar

def decode? (bytes : List UInt8) : Option (List Char) :=
  (items none bytes).mapM id

-- Puts U+FFFD for each invalid piece.
def decodeLossy (bytes : List UInt8) : List Char :=
  (items none bytes).map (·.getD '\uFFFD')

end RequestQuery.Text.Utf8
