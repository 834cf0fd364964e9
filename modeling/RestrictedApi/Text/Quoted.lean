import RestrictedApi.Text.Printable

/-!
# Quoted text

A text as shown within quotes in a description: quotes and backslashes are escaped, the usual
control characters have letters, and other characters without a printed form are given by number.
-/

namespace RestrictedApi
namespace Text

def quotedChar (c : Char) : String :=
  if c = '"' then "\\\""
  else if c = '\\' then "\\\\"
  else if c = '\t' then "\\t"
  else if c = '\n' then "\\n"
  else if c = '\r' then "\\r"
  else if c.toNat = 0 then "\\0"
  else if isUnprintable c then
    "\\u\x7b" ++ String.ofList (Nat.toDigits 16 c.toNat) ++ "\x7d"
  else c.toString

def quoted (text : String) : String :=
  "\"" ++ String.join (text.toList.map quotedChar) ++ "\""

end Text
end RestrictedApi
