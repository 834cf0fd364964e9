/-!
# Lines of bytes

A line ends with a line feed, and a carriage return right before it belongs to the end of the line.
The last line need not have an end.
-/

namespace RestrictedApi
namespace Text

/-- A line without the carriage return at its end; the bytes of the line come last to first. -/
def withoutReturn : List UInt8 → List UInt8
  | [] => []
  | last :: before => if last = 0x0D then before else last :: before

/-- The lines of bytes, given what has been read of the first one, last byte first. -/
def byteLinesFrom (line : List UInt8) : List UInt8 → List (List UInt8)
  | [] => if line = [] then [] else [line.reverse]
  | byte :: rest =>
      if byte = 0x0A then (withoutReturn line).reverse :: byteLinesFrom [] rest
      else byteLinesFrom (byte :: line) rest

def byteLines (bytes : List UInt8) : List (List UInt8) :=
  byteLinesFrom [] bytes

end Text
end RestrictedApi
