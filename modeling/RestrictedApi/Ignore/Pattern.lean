import RestrictedApi.Text.Marks
import RestrictedApi.Text.Utf8

/-!
# Patterns of ignore files

The patterns in an ignore file.  Unlike in a glob, `?` and `*` stop at slashes, `{a,b}` stands for
either of its options, and a backslash takes away the meaning of the character after it.  Two stars
stand for any number of path components only next to slashes.  Patterns are matched byte by byte.
-/

namespace RestrictedApi

inductive ByteTest where
  | literal (byte : UInt8)
  | notSlash
  | within (ranges : List (UInt8 × UInt8))
  | outside (ranges : List (UInt8 × UInt8))
  deriving DecidableEq, Repr, Inhabited

namespace ByteTest

def slash : UInt8 := 0x2F

def inSome (ranges : List (UInt8 × UInt8)) (byte : UInt8) : Bool :=
  ranges.any fun range => range.1 ≤ byte && byte ≤ range.2

def accepts : ByteTest → UInt8 → Bool
  | .literal expected, byte => byte == expected
  | .notSlash, byte => byte != slash
  | .within ranges, byte => inSome ranges byte
  | .outside ranges, byte => !inSome ranges byte

end ByteTest

inductive IgnorePart where
  | one (test : ByteTest)
  | sequence
  /-- Components at the start: nothing, or anything up to a slash. -/
  | leading
  /-- Components at the end: a slash and anything after it. -/
  | trailing
  /-- Components in between: a slash, or anything between two slashes. -/
  | inner
  /-- One of several sequences of parts; nothing if there are none. -/
  | choice (options : List (List IgnorePart))
  deriving Inhabited

namespace IgnorePart

/-! ## Reading -/

def literal (c : Char) : List IgnorePart :=
  (Text.encode c.toString).map fun byte => .one (.literal byte)

/-- The bytes that a range of characters covers: the bytes of its ends, and what lies between the
last byte of one and the first byte of the other. -/
def byteRanges (range : Char × Char) : List (UInt8 × UInt8) :=
  let first := Text.encode range.1.toString
  let last := Text.encode range.2.toString
  let single (byte : UInt8) : UInt8 × UInt8 := (byte, byte)
  if range.1 = range.2 then first.map single
  else
    first.dropLast.map single ++ [(first.getLastD 0, last.headD 0)] ++ (last.drop 1).map single

inductive ClassState where
  | start
  | ranged
  | dash

inductive ClassResult where
  | closed (ranges : List (Char × Char)) (rest : List Char)
  | unclosed
  | reversed

def readClass (state : ClassState) (done : List (Char × Char)) : List Char → ClassResult
  | [] => .unclosed
  | c :: rest =>
      match state, done with
      | .start, _ => readClass .ranged [(c, c)] rest
      | .dash, (first, _) :: before =>
          if c = ']' then .closed (('-', '-') :: done).reverse rest
          else if c < first then .reversed
          else readClass .ranged ((first, c) :: before) rest
      | _, _ =>
          if c = ']' then .closed done.reverse rest
          else if c = '-' then readClass .dash done rest
          else readClass .ranged ((c, c) :: done) rest

def readSet (text : List Char) : Option (Option (ByteTest × List Char)) :=
  let (negated, text) :=
    match text with
    | '!' :: rest => (true, rest)
    | '^' :: rest => (true, rest)
    | _ => (false, text)
  match readClass .start [] text with
  | .closed ranges rest =>
      let ranges := ranges.flatMap byteRanges
      some (some (if negated then .outside ranges else .within ranges, rest))
  | .unclosed => some none
  | .reversed => none

/-- The parts read so far, the last one first, with components added after them.  Components next to
components are not added twice. -/
def addComponents (done : List IgnorePart) (components : IgnorePart) : List IgnorePart :=
  match done with
  | .leading :: _ => done
  | .trailing :: _ => done
  | _ :: before => components :: before
  | [] => [components]

def isVoid : IgnorePart → Bool
  | .choice [] => true
  | _ => false

/-- A character after which two stars can stand for components.  In a choice this is also so after
an escaped comma or brace, which the components then replace. -/
def opensComponents (nested : Bool) (previous : Option Char) : Bool :=
  previous = some '/' || nested && (previous = some ',' || previous = some '\x7b')

/-- Two stars, given what has been read before them and the text after them: the parts read then and
the text that is left. -/
def readStars (nested : Bool) (previous : Option Char) (done : List IgnorePart) (rest : List Char) :
    List IgnorePart × List Char :=
  let plain := (.sequence :: .sequence :: done, rest)
  match done, rest with
  | [], [] => ([.leading], [])
  | [], c :: after => if c = '/' then ([.leading], after) else plain
  | _, _ =>
      if !opensComponents nested previous then plain
      else
        match rest with
        | [] => (addComponents done .trailing, [])
        | c :: after =>
            if c = '/' then (addComponents done .inner, after)
            else if nested && (c = ',' || c = '}') then (addComponents done .trailing, rest)
            else plain

mutual

/-- Read parts up to the end of the text or, in a choice, up to the end of the option.  `done` holds
the parts read so far, the last one first. -/
def readParts (nested : Bool) (previous : Option Char) (done : List IgnorePart) :
    (fuel : Nat) → List Char → Option (List IgnorePart × List Char)
  | 0, _ => none
  | _, [] => if nested then none else some (done.reverse, [])
  | fuel + 1, c :: rest =>
      let literally (c : Char) (rest : List Char) :=
        readParts nested (some c) ((literal c).reverse ++ done) fuel rest
      match c with
      | '?' => readParts nested (some c) (.one .notSlash :: done) fuel rest
      | '*' =>
          match rest with
          | '*' :: after =>
              let (done, left) := readStars nested previous done after
              let last := if left.length < after.length then '/' else '*'
              readParts nested (some last) done fuel left
          | _ => readParts nested (some c) (.sequence :: done) fuel rest
      | '[' =>
          match readSet rest with
          | none => none
          | some none => literally c rest
          | some (some (test, rest)) => readParts nested (some ']') (.one test :: done) fuel rest
      | '\x7b' =>
          match readOptions fuel rest with
          | none => none
          | some (options, rest) =>
              let options := options.filter fun option => !option.all isVoid
              readParts nested (some '\x7d') (.choice options :: done) fuel rest
      | '\x7d' => if nested then some (done.reverse, c :: rest) else none
      | ',' => if nested then some (done.reverse, c :: rest) else literally c rest
      | '\\' =>
          match rest with
          | [] => none
          | escaped :: rest => literally escaped rest
      | _ => literally c rest

def readOptions : (fuel : Nat) → List Char → Option (List (List IgnorePart) × List Char)
  | 0, _ => none
  | fuel + 1, text =>
      match readParts true (some ',') [] fuel text with
      | some (option, ',' :: rest) =>
          (readOptions fuel rest).map fun (options, rest) => (option :: options, rest)
      | some (option, _ :: rest) => some ([option], rest)
      | _ => none

end

/-! ## Nesting

A pattern is taken apart into sequences, repetitions, sets and choices.  These may nest only so
deep. -/

def pieces : IgnorePart → Nat
  | .trailing => 2
  | .choice [] => 0
  | _ => 1

def piecesOf (parts : List IgnorePart) : Nat :=
  (parts.map pieces).foldl (· + ·) 0

/-- The level that a sequence adds; a single piece is no sequence. -/
def joint (parts : List IgnorePart) : Nat :=
  if piecesOf parts = 1 then 0 else 1

mutual

def depth : IgnorePart → Nat
  | .one (.literal _) => 0
  | .one .notSlash => 1
  | .one (.within ranges) => if ranges.length = 1 then 1 else 2
  | .one (.outside ranges) => if ranges.length = 1 then 1 else 2
  | .sequence => 2
  | .leading => 4
  | .trailing => 1
  | .inner => 4
  | .choice [] => 0
  | .choice (option :: options) =>
      let several := if options.isEmpty then 0 else 1
      1 + several + max (depthWithin option + joint option) (depthOfOptions options)

def depthWithin : List IgnorePart → Nat
  | [] => 0
  | part :: parts => max part.depth (depthWithin parts)

def depthOfOptions : List (List IgnorePart) → Nat
  | [] => 0
  | option :: options => max (depthWithin option + joint option) (depthOfOptions options)

end

/-! ## Matching -/

def pastSlash (text : List UInt8) (marks : Marks) : Marks :=
  marks.advance (· = ByteTest.slash) text

def pastAnything (text : List UInt8) (marks : Marks) : Marks :=
  marks.spread (fun _ => true) text

mutual

def follow (text : List UInt8) (marks : Marks) : IgnorePart → Marks
  | .one test => marks.advance test.accepts text
  | .sequence => marks.spread (· ≠ ByteTest.slash) text
  | .leading => marks.either (pastSlash text (pastAnything text marks))
  | .trailing => pastAnything text (pastSlash text marks)
  | .inner =>
      let once := pastSlash text marks
      once.either (pastSlash text (pastAnything text once))
  | .choice [] => marks
  | .choice (option :: options) =>
      (followAll text marks option).either (followSome text marks options)

def followAll (text : List UInt8) (marks : Marks) : List IgnorePart → Marks
  | [] => marks
  | part :: parts => followAll text (follow text marks part) parts

def followSome (text : List UInt8) (marks : Marks) : List (List IgnorePart) → Marks
  | [] => marks.clear
  | option :: options => (followAll text marks option).either (followSome text marks options)

end

end IgnorePart

structure IgnorePattern where
  parts : List IgnorePart
  deriving Inhabited

namespace IgnorePattern

def parse? (text : String) : Option IgnorePattern :=
  let chars := text.toList
  (IgnorePart.readParts false none [] (2 * chars.length + 2) chars).map fun (parts, _) => ⟨parts⟩

def depthLimit : Nat := 250

def isTooDeep (pattern : IgnorePattern) : Bool :=
  depthLimit < IgnorePart.depthWithin pattern.parts + 1

/-- A pattern matches a path as a whole.  Two stars alone match every path. -/
def accepts (pattern : IgnorePattern) (path : String) : Bool :=
  match pattern.parts with
  | [.leading] => true
  | parts =>
      let bytes := Text.encode path
      (IgnorePart.followAll bytes (Marks.start bytes) parts).complete

end IgnorePattern

end RestrictedApi
