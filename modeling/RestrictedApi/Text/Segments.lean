/-!
# Segments of a text

A text is cut at every occurrence of a separator.  There is always at least one segment, and
segments may be empty.
-/

namespace RestrictedApi
namespace Text

def splitChars (separator : Char) : List Char → List (List Char)
  | [] => [[]]
  | c :: rest =>
      if c = separator then [] :: splitChars separator rest
      else
        match splitChars separator rest with
        | [] => [[c]]
        | segment :: segments => (c :: segment) :: segments

def segments (separator : Char) (text : String) : List String :=
  (splitChars separator text.toList).map String.ofList

def begins (text start : String) : Bool :=
  start.toList.isPrefixOf text.toList

def ends (text tail : String) : Bool :=
  tail.toList.isSuffixOf text.toList

def occursIn (part : List Char) : List Char → Bool
  | [] => part.isPrefixOf []
  | c :: rest => part.isPrefixOf (c :: rest) || occursIn part rest

def includes (text part : String) : Bool :=
  occursIn part.toList text.toList

end Text
end RestrictedApi
