/-!
# Utf8 — characters as bytes and back

Writing is by code point. Reading is a machine that walks the bytes once and tells, piece by piece, a character, a
malformed sequence (the longest start of one that could have gone on) or a sequence cut off by the end. A strict
reading stops at the first piece that is no character; a lenient one puts U+FFFD in its place.
-/
namespace SearchDomain.Text.Utf8

abbrev Bytes := List UInt8

def encodeChar (c : Char) : Bytes :=
  let n := c.toNat
  if n < 0x80 then [n.toUInt8]
  else if n < 0x800 then [(0xC0 + n / 0x40).toUInt8, (0x80 + n % 0x40).toUInt8]
  else if n < 0x10000 then
    [(0xE0 + n / 0x1000).toUInt8, (0x80 + n / 0x40 % 0x40).toUInt8, (0x80 + n % 0x40).toUInt8]
  else
    [(0xF0 + n / 0x40000).toUInt8, (0x80 + n / 0x1000 % 0x40).toUInt8, (0x80 + n / 0x40 % 0x40).toUInt8,
      (0x80 + n % 0x40).toUInt8]

def encode (cs : List Char) : Bytes := cs.flatMap encodeChar

/-- A sequence that has begun: the bits so far, the bytes seen and still to come, and the range that the next byte
must lie in. -/
structure Partial where
  code : Nat
  seen : Nat
  left : Nat
  low : Nat := 0x80
  high : Nat := 0xBF

/-- What a stretch of bytes stands for. -/
inductive Piece
  | char (c : Char)
  | malformed (length : Nat)
  | truncated (length : Nat)
  deriving DecidableEq, Repr

/-- What the first byte of a sequence says: a whole character, the start of a longer one, or nothing legal. -/
def lead (b : Nat) : Piece ⊕ Partial :=
  if b < 0x80 then .inl (.char (Char.ofNat b))
  else if b < 0xC2 then .inl (.malformed 1)
  else if b < 0xE0 then .inr ⟨b - 0xC0, 1, 1, 0x80, 0xBF⟩
  else if b < 0xF0 then
    .inr ⟨b - 0xE0, 1, 2, if b = 0xE0 then 0xA0 else 0x80, if b = 0xED then 0x9F else 0xBF⟩
  else if b < 0xF5 then
    .inr ⟨b - 0xF0, 1, 3, if b = 0xF0 then 0x90 else 0x80, if b = 0xF4 then 0x8F else 0xBF⟩
  else .inl (.malformed 1)

/-- Read on after a first byte. -/
def open? : Piece ⊕ Partial → List Piece × Option Partial
  | .inl piece => ([piece], none)
  | .inr pending => ([], some pending)

/-- One byte: the pieces it completes and what is then pending. A byte that does not go on with the pending sequence
ends it as malformed and is read again as a first byte. -/
def step (pending : Option Partial) (b : Nat) : List Piece × Option Partial :=
  match pending with
  | none => open? (lead b)
  | some p =>
    if p.low ≤ b ∧ b ≤ p.high then
      let code := p.code * 0x40 + (b - 0x80)
      if p.left ≤ 1 then ([.char (Char.ofNat code)], none)
      else ([], some { code, seen := p.seen + 1, left := p.left - 1 })
    else
      let (pieces, next) := open? (lead b)
      (.malformed p.seen :: pieces, next)

/-- The pieces of a byte sequence, from a state of the machine on. -/
def piecesFrom (pending : Option Partial) : Bytes → List Piece
  | [] => match pending with
    | none => []
    | some p => [.truncated p.seen]
  | b :: rest =>
    let (pieces, next) := step pending b.toNat
    pieces ++ piecesFrom next rest

def pieces (bytes : Bytes) : List Piece := piecesFrom none bytes

inductive Fault
  | malformed (length index : Nat)
  | truncated (index : Nat)
  deriving DecidableEq, Repr

def Fault.message : Fault → String
  | .malformed length index => s!"invalid utf-8 sequence of {length} bytes from index {index}"
  | .truncated index => s!"incomplete utf-8 byte sequence from index {index}"

/-- The characters of a list of pieces, or the first fault with its byte index. -/
def strict (index : Nat) : List Piece → Except Fault (List Char)
  | [] => .ok []
  | .char c :: rest => (strict (index + c.utf8Size) rest).map (c :: ·)
  | .malformed length :: _ => .error (.malformed length index)
  | .truncated _ :: _ => .error (.truncated index)

def decode (bytes : Bytes) : Except Fault String := (strict 0 (pieces bytes)).map String.ofList

def Piece.lenient : Piece → Char
  | .char c => c
  | _ => '\uFFFD'

/-- The text of any bytes, with U+FFFD for what is no character. -/
def decodeLossy (bytes : Bytes) : String := String.ofList ((pieces bytes).map Piece.lenient)

def ofString (s : String) : Bytes := encode s.toList

end SearchDomain.Text.Utf8
