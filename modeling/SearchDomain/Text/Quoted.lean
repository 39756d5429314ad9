import SearchDomain.Text.Mark
import SearchDomain.Text.Printable
/-!
# Quoted — a text between double quotes, with every character made visible

A quote and a backslash are escaped, the common controls have letters, and what is not printable, or would melt into
the character before it, is written as `\u{…}` with its code point in lower-case hexadecimal digits.
-/
namespace SearchDomain.Text

/-- Lower-case hexadecimal digits without padding. -/
def hexDigits (n : Nat) : List Char := Nat.toDigits 16 n

def quotedChar (c : Char) : List Char :=
  if c = '\x00' then ['\\', '0']
  else if c = '\t' then ['\\', 't']
  else if c = '\r' then ['\\', 'r']
  else if c = '\n' then ['\\', 'n']
  else if c = '"' then ['\\', '"']
  else if c = '\\' then ['\\', '\\']
  else if isExtendingMark c || !isPrintable c then ['\\', 'u', '\x7b'] ++ hexDigits c.toNat ++ ['\x7d']
  else [c]

def quoted (s : String) : String := String.ofList ('"' :: s.toList.flatMap quotedChar ++ ['"'])

end SearchDomain.Text
