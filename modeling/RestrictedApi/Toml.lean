/-!
# TOML

The values of a configuration file.  A table keeps its keys in the order in which they were written.
-/

namespace RestrictedApi
namespace Toml

structure Date where
  year : Nat
  month : Nat
  day : Nat
  deriving DecidableEq, Repr, Inhabited

structure Time where
  hour : Nat
  minute : Nat
  second : Nat
  nanosecond : Nat := 0
  deriving DecidableEq, Repr, Inhabited

inductive Offset where
  | universal
  | ahead (minutes : Nat)
  | behind (minutes : Nat)
  deriving DecidableEq, Repr, Inhabited

inductive DateTime where
  | date (date : Date)
  | time (time : Time)
  | both (date : Date) (time : Time) (offset : Option Offset)
  deriving DecidableEq, Repr, Inhabited

inductive Value where
  | string (value : String)
  | integer (value : Int)
  /-- A floating-point number, by the 64 bits of its binary form. -/
  | float (bits : UInt64)
  | boolean (value : Bool)
  | dateTime (value : DateTime)
  | array (items : List Value)
  | table (entries : List (String × Value))
  deriving Repr, Inhabited

namespace Value

def string? : Value → Option String
  | .string value => some value
  | _ => none

def boolean? : Value → Option Bool
  | .boolean value => some value
  | _ => none

def array? : Value → Option (List Value)
  | .array items => some items
  | _ => none

def strings? (value : Value) : Option (List String) :=
  value.array?.bind fun items => items.mapM string?

end Value

/-! ## Text of dates and times -/

def padded (width n : Nat) : String :=
  let digits := Nat.toDigits 10 n
  String.ofList (List.replicate (width - digits.length) '0' ++ digits)

def Date.text (date : Date) : String :=
  padded 4 date.year ++ "-" ++ padded 2 date.month ++ "-" ++ padded 2 date.day

def Time.text (time : Time) : String :=
  let whole := padded 2 time.hour ++ ":" ++ padded 2 time.minute ++ ":" ++ padded 2 time.second
  if time.nanosecond = 0 then whole
  else
    let digits := (padded 9 time.nanosecond).toList.reverse.dropWhile (· = '0')
    whole ++ "." ++ String.ofList digits.reverse

def Offset.text : Offset → String
  | .universal => "Z"
  | .ahead minutes => "+" ++ padded 2 (minutes / 60) ++ ":" ++ padded 2 (minutes % 60)
  | .behind minutes => "-" ++ padded 2 (minutes / 60) ++ ":" ++ padded 2 (minutes % 60)

def DateTime.text : DateTime → String
  | .date day => day.text
  | .time clock => clock.text
  | .both day clock offset =>
      day.text ++ "T" ++ clock.text ++ (offset.map Offset.text).getD ""

end Toml
end RestrictedApi
