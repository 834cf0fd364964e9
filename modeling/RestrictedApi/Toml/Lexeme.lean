import RestrictedApi.Toml

/-!
# Words of a TOML document

Readers for blanks, comments, strings, keys, numbers, dates and times.  A reader takes the rest of
the text and returns what it has read and what follows, or nothing if the text is not as it should
be.
-/

namespace RestrictedApi
namespace Toml

abbrev Reader (α : Type) := List Char → Option (α × List Char)

/-! ## Blanks and line ends -/

def isSpace (c : Char) : Bool :=
  c = ' ' || c = '\t'

def skipSpaces (text : List Char) : List Char :=
  text.dropWhile isSpace

def isPlain (c : Char) : Bool :=
  c = '\t' || (0x20 ≤ c.toNat && c.toNat ≠ 0x7F)

def newline? : List Char → Option (List Char)
  | '\n' :: rest => some rest
  | '\r' :: '\n' :: rest => some rest
  | _ => none

def skipComment : List Char → List Char
  | '#' :: rest => rest.dropWhile isPlain
  | text => text

def endOfLine? (text : List Char) : Option (List Char) :=
  match skipComment (skipSpaces text) with
  | [] => some []
  | rest => newline? rest

/-- Skip blanks, comments and line breaks.  Every round but the last ends with a line break, so the
length of the text bounds their number. -/
def skipLines : (rounds : Nat) → List Char → List Char
  | 0, text => text
  | rounds + 1, text =>
      let rest := skipComment (skipSpaces text)
      match newline? rest with
      | some after => skipLines rounds after
      | none => rest

def skipBlankLines (text : List Char) : List Char :=
  skipLines (text.length + 1) text

/-! ## Strings -/

def hexValue? (c : Char) : Option Nat :=
  if '0' ≤ c ∧ c ≤ '9' then some (c.toNat - '0'.toNat)
  else if 'a' ≤ c ∧ c ≤ 'f' then some (c.toNat - 'a'.toNat + 10)
  else if 'A' ≤ c ∧ c ≤ 'F' then some (c.toNat - 'A'.toNat + 10)
  else none

def codePoint? (digits : List Char) : Option Char := do
  let values ← digits.mapM hexValue?
  let n := values.foldl (fun n d => n * 16 + d) 0
  if n < 0xD800 ∨ (0xE000 ≤ n ∧ n < 0x110000) then some (Char.ofNat n) else none

def readEscape : Reader Char
  | 'b' :: rest => some ('\x08', rest)
  | 'f' :: rest => some ('\x0c', rest)
  | 'n' :: rest => some ('\n', rest)
  | 'r' :: rest => some ('\r', rest)
  | 't' :: rest => some ('\t', rest)
  | '"' :: rest => some ('"', rest)
  | '\\' :: rest => some ('\\', rest)
  | 'u' :: rest =>
      if rest.length < 4 then none
      else (codePoint? (rest.take 4)).map fun c => (c, rest.drop 4)
  | 'U' :: rest =>
      if rest.length < 8 then none
      else (codePoint? (rest.take 8)).map fun c => (c, rest.drop 8)
  | _ => none

def readBasic : (rounds : Nat) → Reader (List Char)
  | 0, _ => none
  | _, [] => none
  | _, '"' :: rest => some ([], rest)
  | rounds + 1, '\\' :: rest => do
      let (c, rest) ← readEscape rest
      let (more, rest) ← readBasic rounds rest
      return (c :: more, rest)
  | rounds + 1, c :: rest =>
      if isPlain c then do
        let (more, rest) ← readBasic rounds rest
        return (c :: more, rest)
      else none

def readLiteral : Reader (List Char)
  | [] => none
  | '\'' :: rest => some ([], rest)
  | c :: rest =>
      if isPlain c then do
        let (more, rest) ← readLiteral rest
        return (c :: more, rest)
      else none

/-- Quotes at the end of a string of several lines: up to two belong to the string, and three close
it. -/
def closingQuotes? (quote : Char) (text : List Char) : Option (List Char × List Char) :=
  let quotes := text.takeWhile (· = quote)
  if 3 ≤ quotes.length then
    let kept := min (quotes.length - 3) 2
    some (List.replicate kept quote, text.drop (kept + 3))
  else none

def skipBreaks : List Char → List Char
  | '\r' :: '\n' :: rest => skipBreaks rest
  | c :: rest => if isSpace c || c = '\n' then skipBreaks rest else c :: rest
  | [] => []

def foldedLine? (text : List Char) : Option (List Char) :=
  (newline? (skipSpaces text)).map skipBreaks

def readBasicLines : (rounds : Nat) → Reader (List Char)
  | 0, _ => none
  | _, [] => none
  | rounds + 1, '\\' :: rest =>
      match foldedLine? rest with
      | some rest => readBasicLines rounds rest
      | none => do
          let (c, rest) ← readEscape rest
          let (more, rest) ← readBasicLines rounds rest
          return (c :: more, rest)
  | rounds + 1, c :: rest =>
      match closingQuotes? '"' (c :: rest), newline? (c :: rest) with
      | some closed, _ => some closed
      | none, some rest => do
          let (more, rest) ← readBasicLines rounds rest
          return ('\n' :: more, rest)
      | none, none =>
          if isPlain c then do
            let (more, rest) ← readBasicLines rounds rest
            return (c :: more, rest)
          else none

def readLiteralLines : (rounds : Nat) → Reader (List Char)
  | 0, _ => none
  | _, [] => none
  | rounds + 1, c :: rest =>
      match closingQuotes? '\'' (c :: rest), newline? (c :: rest) with
      | some closed, _ => some closed
      | none, some rest => do
          let (more, rest) ← readLiteralLines rounds rest
          return ('\n' :: more, rest)
      | none, none =>
          if isPlain c then do
            let (more, rest) ← readLiteralLines rounds rest
            return (c :: more, rest)
          else none

def skipFirstBreak (text : List Char) : List Char :=
  (newline? text).getD text

def readString (text : List Char) : Option (String × List Char) :=
  let rounds := text.length + 1
  let chars :=
    match text with
    | '"' :: '"' :: '"' :: rest => readBasicLines rounds (skipFirstBreak rest)
    | '\'' :: '\'' :: '\'' :: rest => readLiteralLines rounds (skipFirstBreak rest)
    | '"' :: rest => readBasic rounds rest
    | '\'' :: rest => readLiteral rest
    | _ => none
  chars.map fun (chars, rest) => (String.ofList chars, rest)

/-! ## Keys -/

def isBareKeyChar (c : Char) : Bool :=
  c.isAlphanum || c = '_' || c = '-'

def readSimpleKey (text : List Char) : Option (String × List Char) :=
  match text with
  | '"' :: rest =>
      (readBasic (text.length + 1) rest).map fun (key, rest) => (String.ofList key, rest)
  | '\'' :: rest => (readLiteral rest).map fun (key, rest) => (String.ofList key, rest)
  | _ =>
      match text.takeWhile isBareKeyChar with
      | [] => none
      | key => some (String.ofList key, text.dropWhile isBareKeyChar)

def readKeySegments : (rounds : Nat) → Reader (List String)
  | 0, _ => none
  | rounds + 1, text => do
      let (segment, rest) ← readSimpleKey (skipSpaces text)
      match skipSpaces rest with
      | '.' :: rest => do
          let (segments, rest) ← readKeySegments rounds rest
          return (segment :: segments, rest)
      | rest => return ([segment], rest)

/-- Values nest, and keys have segments, fewer than this. -/
def depthLimit : Nat := 80

def readKey (text : List Char) : Option (List String × List Char) := do
  let (segments, rest) ← readKeySegments (text.length + 1) text
  if segments.length < depthLimit then some (segments, rest) else none

/-! ## Numbers -/

/-- Digits with single underscores between them. -/
def readDigits (isDigit : Char → Bool) : (text : List Char) → Option (List Char × List Char)
  | [] => none
  | c :: '_' :: rest =>
      if isDigit c then (readDigits isDigit rest).map fun (more, rest) => (c :: more, rest)
      else none
  | c :: rest =>
      if isDigit c then
        match rest with
        | [] => some ([c], [])
        | next :: _ =>
            if isDigit next then
              (readDigits isDigit rest).map fun (more, rest) => (c :: more, rest)
            else some ([c], rest)
      else none

def isDecimal (c : Char) : Bool :=
  '0' ≤ c && c ≤ '9'

def isHexadecimal (c : Char) : Bool :=
  (hexValue? c).isSome

def digitsValue (base : Nat) (digits : List Char) : Nat :=
  digits.foldl (fun n c => n * base + (hexValue? c).getD 0) 0

def readWhole (text : List Char) : Option (List Char × List Char) :=
  match text with
  | '0' :: rest => some (['0'], rest)
  | _ => readDigits isDecimal text

def maxInteger : Nat := 0x7FFFFFFFFFFFFFFF

def integer? (negative : Bool) (magnitude : Nat) : Option Value :=
  if negative then
    if magnitude ≤ maxInteger + 1 then some (.integer (-(magnitude : Int))) else none
  else if magnitude ≤ maxInteger then some (.integer magnitude) else none

def readBased (base : Nat) (isDigit : Char → Bool) (text : List Char) :
    Option (Value × List Char) := do
  let (digits, rest) ← readDigits isDigit text
  let value ← integer? false (digitsValue base digits)
  return (value, rest)

def infinityBits : UInt64 := 0x7ff0000000000000

def notANumberBits : UInt64 := 0x7ff8000000000000

def signed (negative : Bool) (bits : UInt64) : UInt64 :=
  if negative then bits ||| 0x8000000000000000 else bits

/-- The bits of the double nearest to `mantissa * 10 ^ exponent`.  Exponents far out of range are
settled without computing the power. -/
def decimalBits (mantissa : Nat) (exponent : Int) : UInt64 :=
  let digits := (Nat.toDigits 10 mantissa).length
  if mantissa = 0 then 0
  else if 400 < exponent + digits then infinityBits
  else if exponent + digits < -400 then 0
  else (Float.ofScientific mantissa (exponent < 0) exponent.natAbs).toBits

def readFraction : Reader (Option (List Char))
  | '.' :: rest => (readDigits isDecimal rest).map fun (digits, rest) => (some digits, rest)
  | rest => some (none, rest)

def readExponent : Reader (Option Int)
  | c :: rest =>
      if c = 'e' ∨ c = 'E' then
        let (negative, rest) :=
          match rest with
          | '+' :: more => (false, more)
          | '-' :: more => (true, more)
          | more => (false, more)
        (readDigits isDecimal rest).map fun (digits, rest) =>
          let size : Int := digitsValue 10 digits
          (some (if negative then -size else size), rest)
      else some (none, c :: rest)
  | [] => some (none, [])

/-- A number in base ten without its sign.  A float that is too large is refused, but a negative one
becomes negative infinity. -/
def readDecimal (negative : Bool) (text : List Char) : Option (Value × List Char) := do
  let (whole, rest) ← readWhole text
  let (fraction, rest) ← readFraction rest
  let (exponent, rest) ← readExponent rest
  if fraction.isNone ∧ exponent.isNone then
    let value ← integer? negative (digitsValue 10 whole)
    return (value, rest)
  else
    let fractionDigits := fraction.getD []
    let mantissa := digitsValue 10 (whole ++ fractionDigits)
    let bits := decimalBits mantissa (exponent.getD 0 - fractionDigits.length)
    if bits = infinityBits ∧ negative = false then none
    else return (.float (signed negative bits), rest)

def readNumber (text : List Char) : Option (Value × List Char) :=
  let (negative, unsigned) :=
    match text with
    | '+' :: rest => (false, rest)
    | '-' :: rest => (true, rest)
    | rest => (false, rest)
  match unsigned with
  | 'i' :: 'n' :: 'f' :: rest => some (.float (signed negative infinityBits), rest)
  | 'n' :: 'a' :: 'n' :: rest => some (.float (signed negative notANumberBits), rest)
  | _ =>
      match text with
      | '0' :: 'x' :: rest => readBased 16 isHexadecimal rest
      | '0' :: 'o' :: rest => readBased 8 (fun c => '0' ≤ c && c ≤ '7') rest
      | '0' :: 'b' :: rest => readBased 2 (fun c => c = '0' || c = '1') rest
      | _ => readDecimal negative unsigned

/-! ## Dates and times -/

def readField (width low high : Nat) (text : List Char) : Option (Nat × List Char) :=
  let digits := text.take width
  if digits.length = width ∧ digits.all isDecimal then
    let n := digitsValue 10 digits
    if low ≤ n ∧ n ≤ high then some (n, text.drop width) else none
  else none

def expect (c : Char) : List Char → Option (List Char)
  | first :: rest => if first = c then some rest else none
  | [] => none

def isLeapYear (year : Nat) : Bool :=
  year % 4 = 0 && (year % 100 ≠ 0 || year % 400 = 0)

def daysInMonth (year month : Nat) : Nat :=
  if month = 2 then (if isLeapYear year then 29 else 28)
  else if month = 4 ∨ month = 6 ∨ month = 9 ∨ month = 11 then 30
  else 31

def readDate (text : List Char) : Option (Date × List Char) := do
  let (year, rest) ← readField 4 0 9999 text
  let rest ← expect '-' rest
  let (month, rest) ← readField 2 1 12 rest
  let rest ← expect '-' rest
  let (day, rest) ← readField 2 1 (daysInMonth year month) rest
  return ({ year, month, day }, rest)

def readNanoseconds : List Char → Nat × List Char
  | '.' :: rest =>
      match rest.takeWhile isDecimal with
      | [] => (0, '.' :: rest)
      | digits =>
          let kept := digits.take 9
          let filled := kept ++ List.replicate (9 - kept.length) '0'
          (digitsValue 10 filled, rest.dropWhile isDecimal)
  | rest => (0, rest)

structure ClockLimits where
  lastHour : Nat
  lastOffsetHour : Nat
  lastOffsetMinute : Nat
  deriving DecidableEq, Repr, Inhabited

def ClockLimits.document : ClockLimits := ⟨23, 23, 59⟩

/-- The limits in a text of its own: the hour 24 counts, and an offset may have any two digits. -/
def ClockLimits.lenient : ClockLimits := ⟨24, 99, 99⟩

def readTime (limits : ClockLimits) (text : List Char) : Option (Time × List Char) := do
  let (hour, rest) ← readField 2 0 limits.lastHour text
  let rest ← expect ':' rest
  let (minute, rest) ← readField 2 0 59 rest
  let rest ← expect ':' rest
  let (second, rest) ← readField 2 0 60 rest
  let (nanosecond, rest) := readNanoseconds rest
  return ({ hour, minute, second, nanosecond }, rest)

def readOffsetSize (limits : ClockLimits) (text : List Char) : Option (Nat × List Char) := do
  let (hours, rest) ← readField 2 0 limits.lastOffsetHour text
  let rest ← expect ':' rest
  let (minutes, rest) ← readField 2 0 limits.lastOffsetMinute rest
  let size := hours * 60 + minutes
  if size ≤ 24 * 60 then some (size, rest) else none

/-- The offset after a time, if there is one.  Zero minutes behind are zero minutes ahead. -/
def readOffset (limits : ClockLimits) : List Char → Option (Option Offset × List Char)
  | 'Z' :: rest => some (some .universal, rest)
  | 'z' :: rest => some (some .universal, rest)
  | '+' :: rest => (readOffsetSize limits rest).map fun (size, rest) => (some (.ahead size), rest)
  | '-' :: rest => (readOffsetSize limits rest).map fun (size, rest) =>
      (some (if size = 0 then .ahead 0 else .behind size), rest)
  | rest => some (none, rest)

def readTimeAfterDate (limits : ClockLimits) (date : Date) (text : List Char) :
    Option (DateTime × List Char) :=
  match text with
  | delimiter :: rest =>
      if delimiter = 'T' ∨ delimiter = 't' ∨ delimiter = ' ' then
        match readTime limits rest with
        | some (time, rest) =>
            (readOffset limits rest).map fun (offset, rest) => (.both date time offset, rest)
        | none => some (.date date, text)
      else some (.date date, text)
  | [] => some (.date date, [])

def readDateTime (limits : ClockLimits) (text : List Char) : Option (DateTime × List Char) :=
  match readDate text with
  | some (date, rest) => readTimeAfterDate limits date rest
  | none => (readTime limits text).map fun (time, rest) => (.time time, rest)

def DateTime.ofText? (text : String) : Option DateTime :=
  match readDateTime .lenient text.toList with
  | some (value, []) => some value
  | _ => none

end Toml
end RestrictedApi
