/-!
# Text for a terminal

A terminal acts on some characters instead of showing them.  In a text that is meant to be read
these are written out by their number.
-/

namespace RestrictedApi
namespace Text

def hexadecimal (n : Nat) : String :=
  let digits := Nat.toDigits 16 n
  String.ofList (List.replicate (2 - digits.length) '0' ++ digits)

/-- The bell, a step back, the next page, the start of a control sequence, and the deletion of a
character. -/
def isTerminalControl (c : Char) : Bool :=
  [0x07, 0x08, 0x0C, 0x1B, 0x7F].contains c.toNat

/-- The second block of control characters. -/
def isUpperControl (c : Char) : Bool :=
  0x80 ≤ c.toNat && c.toNat ≤ 0x9F

def terminalChar (c : Char) : String :=
  if isTerminalControl c then "\\x" ++ hexadecimal c.toNat
  else if isUpperControl c then "\\u\x7b" ++ hexadecimal c.toNat ++ "\x7d"
  else c.toString

def forTerminal (text : String) : String :=
  String.join (text.toList.map terminalChar)

end Text
end RestrictedApi
