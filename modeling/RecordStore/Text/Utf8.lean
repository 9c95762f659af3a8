/-!
# UTF-8

Bytes are read one at a time. A lead byte fixes the range of the next byte and how many continuation
bytes follow it; each longest beginning of a character that no character continues is one `broken`
piece. Strict reading refuses broken pieces, lenient reading replaces each by U+FFFD.
-/

namespace RecordStore.Text.Utf8

/-- A piece of a byte sequence: a whole character, or a beginning that no character continues. -/
inductive Piece where
  | char (c : Char)
  | broken
  deriving DecidableEq, Repr

/-- What is owed after the bytes read so far: nothing, or a byte from `low` to `high` and then
`further` continuation bytes, with `value` the payload so far. -/
inductive State where
  | idle
  | owing (value : Nat) (low high : Nat) (further : Nat)
  deriving DecidableEq, Repr

/-- The pieces that a first byte completes, and what it owes. The narrower ranges after `E0`, `ED`,
`F0` and `F4` exclude overlong forms, surrogates and code points beyond U+10FFFF. -/
def start (b : UInt8) : List Piece × State :=
  let n := b.toNat
  if n < 0x80 then ([.char (Char.ofNat n)], .idle)
  else if n < 0xc2 then ([.broken], .idle)
  else if n < 0xe0 then ([], .owing (n - 0xc0) 0x80 0xbf 0)
  else if n = 0xe0 then ([], .owing 0 0xa0 0xbf 1)
  else if n = 0xed then ([], .owing 0xd 0x80 0x9f 1)
  else if n < 0xf0 then ([], .owing (n - 0xe0) 0x80 0xbf 1)
  else if n = 0xf0 then ([], .owing 0 0x90 0xbf 2)
  else if n < 0xf4 then ([], .owing (n - 0xf0) 0x80 0xbf 2)
  else if n = 0xf4 then ([], .owing 4 0x80 0x8f 2)
  else ([.broken], .idle)

/-- The pieces that one more byte completes, and what is owed after it. A byte that does not continue
the character under way breaks it off and starts anew. -/
def step : State → UInt8 → List Piece × State
  | .idle, b => start b
  | .owing value low high further, b =>
    let n := b.toNat
    if low ≤ n ∧ n ≤ high then
      let value := value * 0x40 + n % 0x40
      match further with
      | 0 => ([.char (Char.ofNat value)], .idle)
      | further + 1 => ([], .owing value 0x80 0xbf further)
    else (.broken :: (start b).1, (start b).2)

/-- The pieces of the remaining bytes. -/
def piecesFrom : State → List UInt8 → List Piece
  | .idle, [] => []
  | .owing .., [] => [.broken]
  | state, b :: rest => (step state b).1 ++ piecesFrom (step state b).2 rest

/-- The pieces of a byte sequence. -/
def pieces (bytes : List UInt8) : List Piece := piecesFrom .idle bytes

/-- The text of a byte sequence that is UTF-8 throughout. -/
def decode? (bytes : List UInt8) : Option (List Char) :=
  (pieces bytes).mapM fun
    | .char c => some c
    | .broken => none

/-- The text of a byte sequence, with U+FFFD for each broken piece. -/
def decodeLenient (bytes : List UInt8) : List Char :=
  (pieces bytes).map fun
    | .char c => c
    | .broken => '\ufffd'

end RecordStore.Text.Utf8
