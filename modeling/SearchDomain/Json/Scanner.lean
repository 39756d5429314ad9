import SearchDomain.Json.Fault
/-!
# Scanner — words, strings and numbers

The leaves of the grammar. Strings are decoded while they are read; numbers are split into runs of digits first and
valued afterwards.
-/
namespace SearchDomain.Json

def isBlank (c : Char) : Bool := c == ' ' || c == '\n' || c == '\t' || c == '\r'

def skipBlanks (cs : List Char) : List Char := cs.dropWhile isBlank

/-- The rest of a word whose first letter has been taken. -/
def expectWord : List Char → List Char → Except Fault (List Char)
  | [], cs => .ok cs
  | _ :: _, [] => fail .eofInValue []
  | w :: ws, c :: cs => if c = w then expectWord ws cs else failNext .expectedIdent (c :: cs)

/-! ## Strings -/

def shortEscape? (c : Char) : Option Char :=
  if c = '"' then some '"'
  else if c = '\\' then some '\\'
  else if c = '/' then some '/'
  else if c = 'b' then some '\x08'
  else if c = 'f' then some '\x0c'
  else if c = 'n' then some '\n'
  else if c = 'r' then some '\r'
  else if c = 't' then some '\t'
  else none

def hexValue? (a b c d : Char) : Option Nat := do
  let w ← Text.Hex.value? a
  let x ← Text.Hex.value? b
  let y ← Text.Hex.value? c
  let z ← Text.Hex.value? d
  return ((w * 16 + x) * 16 + y) * 16 + z

def isLowSurrogate (n : Nat) : Bool := 0xDC00 ≤ n && n ≤ 0xDFFF

def isHighSurrogate (n : Nat) : Bool := 0xD800 ≤ n && n ≤ 0xDBFF

def joinSurrogates (high low : Nat) : Char := Char.ofNat ((high - 0xD800) * 0x400 + (low - 0xDC00) + 0x10000)

/-- Four bytes that are not all hexadecimal digits, or fewer than four before the end. -/
def badHex {α : Type} (cs : List Char) : Except Fault α :=
  if 4 ≤ byteLength cs then .error ⟨.badEscape, cs, 4⟩ else fail .eofInString []

def prepend (c : Char) : Except Fault (List Char × List Char) → Except Fault (List Char × List Char) :=
  Except.map fun (s, rest) => (c :: s, rest)

/-- The characters up to the closing quote. -/
def readChars : Reader (List Char)
  | [] => fail .eofInString []
  | c :: rest =>
    if c = '"' then .ok ([], rest)
    else if c = '\\' then
      match rest with
      | [] => fail .eofInString []
      | e :: rest =>
        match shortEscape? e with
        | some x => prepend x (readChars rest)
        | none =>
          if e = 'u' then
            match rest with
            | h₁ :: h₂ :: h₃ :: h₄ :: after =>
              match hexValue? h₁ h₂ h₃ h₄ with
              | none => badHex rest
              | some n =>
                if isLowSurrogate n then fail .loneSurrogate after
                else if isHighSurrogate n then
                  match after with
                  | [] => fail .eofInString []
                  | s :: after =>
                    if s = '\\' then
                      match after with
                      | [] => fail .eofInString []
                      | u :: after =>
                        if u = 'u' then
                          match after with
                          | l₁ :: l₂ :: l₃ :: l₄ :: last =>
                            match hexValue? l₁ l₂ l₃ l₄ with
                            | none => badHex after
                            | some m =>
                              if isLowSurrogate m then prepend (joinSurrogates n m) (readChars last)
                              else fail .loneSurrogate last
                          | _ => badHex after
                        else failNext .hexEscapeCut (u :: after)
                    else failNext .hexEscapeCut (s :: after)
                else prepend (Char.ofNat n) (readChars after)
            | _ => badHex rest
          else failNext .badEscape (e :: rest)
    else if c.toNat < 0x20 then failNext .controlInString (c :: rest)
    else prepend c (readChars rest)

/-- The string whose opening quote has been taken. -/
def readString : Reader String := fun cs => (readChars cs).map fun (s, rest) => (String.ofList s, rest)

/-- Pass over a string whose opening quote has been taken; escapes need only have the right shape. -/
def skipString : List Char → Except Fault (List Char)
  | [] => fail .eofInString []
  | c :: rest =>
    if c = '"' then .ok rest
    else if c = '\\' then
      match rest with
      | [] => fail .eofInString []
      | e :: rest =>
        if (shortEscape? e).isSome then skipString rest
        else if e = 'u' then
          match rest with
          | h₁ :: h₂ :: h₃ :: h₄ :: after => if (hexValue? h₁ h₂ h₃ h₄).isSome then skipString after else badHex rest
          | _ => badHex rest
        else failNext .badEscape (e :: rest)
    else if c.toNat < 0x20 then fail .controlInString (c :: rest)
    else skipString rest

/-! ## Numbers -/

def isDigit (c : Char) : Bool := '0' ≤ c && c ≤ '9'

def digits (cs : List Char) : List Char × List Char := (cs.takeWhile isDigit, cs.dropWhile isDigit)

def digitValue (c : Char) : Nat := c.toNat - 48

/-- Append digits to a number as long as it stays within a limit; the digits that are left over. -/
def appendDigits (limit : Nat) : Nat → List Char → Nat × List Char
  | n, [] => (n, [])
  | n, c :: cs => if n * 10 + digitValue c ≤ limit then appendDigits limit (n * 10 + digitValue c) cs else (n, c :: cs)

/-- The largest number of 64 bits. -/
def maxWord : Nat := 0xFFFFFFFFFFFFFFFF

/-- The largest exponent that is taken at its word. -/
def maxExponent : Nat := 0x7FFFFFFF

/-- The number `± significand * 10 ^ exponent`, or a fault at its end. -/
def floatNumber (negative : Bool) (significand : Nat) (exponent : Int) (rest : List Char) :
    Except Fault (JsonNumber × List Char) :=
  match Decimal.Binary64.ofParts? significand exponent with
  | some x => .ok (.float (x.withSign negative), rest)
  | none => fail .numberOutOfRange rest

/-- The exponent part, after its letter. An exponent past the limit leaves zero, unless it would make a nonzero number
larger. -/
def readExponent (negative : Bool) (significand : Nat) (start : Int) (cs : List Char) :
    Except Fault (JsonNumber × List Char) :=
  let (down, cs) := match cs with
    | '+' :: rest => (false, rest)
    | '-' :: rest => (true, rest)
    | _ => (false, cs)
  match cs with
  | [] => fail .eofInValue []
  | c :: _ =>
    if isDigit c then
      let (ds, rest) := digits cs
      match appendDigits maxExponent 0 ds with
      | (e, []) => floatNumber negative significand (if down then start - e else start + e) rest
      | (_, excess) =>
        if significand ≠ 0 ∧ !down then fail .numberOutOfRange (excess.drop 1 ++ rest)
        else .ok (.float (Decimal.Binary64.zero.withSign negative), rest)
    else failNext .badNumber cs

def isExponentMark (c : Char) : Bool := c == 'e' || c == 'E'

/-- What may follow the digits of the whole part; `skipped` of them did not fit the significand. -/
def readFraction (negative : Bool) (significand skipped : Nat) (cs : List Char) :
    Except Fault (JsonNumber × List Char) :=
  match cs with
  | '.' :: cs =>
    match digits cs with
    | ([], []) => failNext .eofInValue []
    | ([], rest) => failNext .badNumber rest
    | (ds, rest) =>
      let (s, excess) := appendDigits maxWord significand ds
      let exponent : Int := skipped - (ds.length - excess.length : Nat)
      match rest with
      | c :: after =>
        if isExponentMark c then readExponent negative s exponent after else floatNumber negative s exponent rest
      | [] => floatNumber negative s exponent rest
  | c :: after =>
    if isExponentMark c then readExponent negative significand skipped after
    else floatNumber negative significand skipped cs
  | [] => floatNumber negative significand skipped cs

/-- Whole numbers that fit 64 bits; minus zero and what does not fit are floating-point. -/
def wholeNumber (negative : Bool) (n : Nat) (rest : List Char) : Except Fault (JsonNumber × List Char) :=
  if !negative then .ok (.whole n, rest)
  else if n = 0 ∨ 0x8000000000000000 < n then floatNumber true n 0 rest
  else .ok (.whole (-n), rest)

/-- The number after an optional minus sign. -/
def readUnsigned (negative : Bool) (cs : List Char) : Except Fault (JsonNumber × List Char) :=
  match cs with
  | [] => fail .eofInValue []
  | c :: after =>
    if c = '0' ∧ (after.head?.any isDigit) then failNext .badNumber after
    else if isDigit c then
      let (ds, rest) := digits cs
      let (n, excess) := appendDigits maxWord 0 ds
      match rest with
      | m :: _ =>
        if m = '.' ∨ isExponentMark m ∨ excess ≠ [] then readFraction negative n excess.length rest
        else wholeNumber negative n rest
      | [] => if excess ≠ [] then readFraction negative n excess.length rest else wholeNumber negative n rest
    else failNext .badNumber cs

def readNumber : Reader JsonNumber
  | '-' :: cs => readUnsigned true cs
  | cs => readUnsigned false cs

/-- Pass over the exponent part, after its letter. -/
def skipExponent (cs : List Char) : Except Fault (List Char) :=
  let cs := match cs with
    | '+' :: rest => rest
    | '-' :: rest => rest
    | _ => cs
  if cs.head?.any isDigit then .ok (cs.dropWhile isDigit) else failNext .badNumber cs

def skipFraction (cs : List Char) : Except Fault (List Char) :=
  match cs with
  | '.' :: cs =>
    if cs.head?.any isDigit then
      match cs.dropWhile isDigit with
      | c :: after => if isExponentMark c then skipExponent after else .ok (c :: after)
      | [] => .ok []
    else failNext .badNumber cs
  | c :: after => if isExponentMark c then skipExponent after else .ok cs
  | [] => .ok []

def skipUnsigned (cs : List Char) : Except Fault (List Char) :=
  match cs with
  | [] => failNext .badNumber []
  | c :: after =>
    if c = '0' then
      if after.head?.any isDigit then failNext .badNumber after else skipFraction after
    else if isDigit c then skipFraction (after.dropWhile isDigit)
    else failNext .badNumber cs

/-- Pass over a number: its digits are looked at, its size is not. -/
def skipNumber : List Char → Except Fault (List Char)
  | '-' :: cs => skipUnsigned cs
  | cs => skipUnsigned cs

end SearchDomain.Json
