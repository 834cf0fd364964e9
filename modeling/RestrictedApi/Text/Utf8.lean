/-!
# Bytes as text

Decoding of UTF-8.  Bytes that are not part of a well-formed character are grouped: the longest
start of a character counts as one error, and any other byte as one of its own.
-/

namespace RestrictedApi
namespace Text

def isContinuation (byte : UInt8) : Bool :=
  0x80 ≤ byte && byte ≤ 0xBF

/-- How many bytes a character has that starts with `lead`.  Bytes that start none give 0. -/
def encodedLength (lead : UInt8) : Nat :=
  if lead < 0x80 then 1
  else if 0xC2 ≤ lead && lead ≤ 0xDF then 2
  else if 0xE0 ≤ lead && lead ≤ 0xEF then 3
  else if 0xF0 ≤ lead && lead ≤ 0xF4 then 4
  else 0

/-- The bytes that can follow a lead byte.  Four of them exclude forms that are too long, surrogates
and numbers beyond the last character. -/
def canFollow (lead second : UInt8) : Bool :=
  if lead = 0xE0 then 0xA0 ≤ second && second ≤ 0xBF
  else if lead = 0xED then 0x80 ≤ second && second ≤ 0x9F
  else if lead = 0xF0 then 0x90 ≤ second && second ≤ 0xBF
  else if lead = 0xF4 then 0x80 ≤ second && second ≤ 0x8F
  else isContinuation second

/-- The bytes that follow a lead byte and belong to its character, at most `count` of them. -/
def tailOf (lead : UInt8) (count : Nat) : List UInt8 → List UInt8
  | [] => []
  | second :: rest =>
      if count = 0 || !canFollow lead second then []
      else second :: (rest.take (count - 1)).takeWhile isContinuation

def payload (lead : UInt8) (length : Nat) (tail : List UInt8) : Nat :=
  let bits := if length ≤ 1 then 7 else 7 - length
  tail.foldl (fun n byte => n * 64 + byte.toNat % 64) (lead.toNat % (1 <<< bits))

/-- The characters of bytes; `none` stands for a group of bytes that are no character.  `skip` bytes
belong to what has been decoded already. -/
def decodeFrom (skip : Nat) : List UInt8 → List (Option Char)
  | [] => []
  | lead :: rest =>
      if skip ≠ 0 then decodeFrom (skip - 1) rest
      else
        let length := encodedLength lead
        let tail := tailOf lead (length - 1) rest
        let decoded :=
          if length = tail.length + 1 then some (Char.ofNat (payload lead length tail)) else none
        decoded :: decodeFrom tail.length rest

def decode? (bytes : List UInt8) : Option String :=
  ((decodeFrom 0 bytes).mapM id).map String.ofList

def decodeLossy (bytes : List UInt8) : String :=
  String.ofList ((decodeFrom 0 bytes).map fun c => c.getD '\ufffd')

def encode (text : String) : List UInt8 :=
  text.toUTF8.toList

end Text
end RestrictedApi
