import RestrictedApi.Toml.Lexeme

/-!
# TOML documents

A document is read line by line.  A header opens a table, and the keys that follow go into it.
While a document is read every table remembers how it came about, because that decides whether a
header or a dotted key may come back to it: a table written with a header is complete, one that was
only implied by the header of another can still get a header of its own, and one that a dotted key
created can be extended by dotted keys only.
-/

namespace RestrictedApi
namespace Toml

inductive Origin where
  /-- By a header or at the top of the document. -/
  | written
  /-- By the header of a table below it. -/
  | implied
  /-- By a dotted key. -/
  | dotted
  deriving DecidableEq, Repr, Inhabited

inductive Item where
  | value (value : Value)
  | table (origin : Origin) (entries : List (String × Item))
  | tables (all : List (List (String × Item)))
  deriving Inhabited

abbrev Entries := List (String × Item)

namespace Entries

def find? (entries : Entries) (key : String) : Option Item :=
  List.lookup key entries

def replace (entries : Entries) (key : String) (item : Item) : Entries :=
  List.map (fun entry => if entry.1 = key then (key, item) else entry) entries

def erase (entries : Entries) (key : String) : Entries :=
  List.filter (fun entry => entry.1 ≠ key) entries

/-- Go down along a path of keys and change the table found there.  Tables that are missing are
created; of repeated tables the last is meant.  A dotted key does not enter a written table. -/
def descend {α : Type} (byDottedKey : Bool) (act : Origin → Entries → Option (Entries × α)) :
    (path : List String) → Origin → Entries → Option (Entries × α)
  | [], origin, entries => act origin entries
  | key :: path, _, entries =>
      match entries.find? key with
      | none => do
          let origin := if byDottedKey then .dotted else .implied
          let (inner, result) ← descend byDottedKey act path origin []
          return (entries ++ [(key, .table origin inner)], result)
      | some (.value _) => none
      | some (.tables all) =>
          match all.getLast? with
          | none => none
          | some last => do
              let (inner, result) ← descend byDottedKey act path .written last
              return (entries.replace key (.tables (all.dropLast ++ [inner])), result)
      | some (.table origin inner) =>
          if byDottedKey ∧ origin = .written then none
          else do
            let (inner, result) ← descend byDottedKey act path origin inner
            return (entries.replace key (.table origin inner), result)

/-- Give a dotted key a value.  The last table on its way must have been created by dotted keys, and
must not have the key yet. -/
def insertValue? (entries : Entries) (key : List String) (value : Value) : Option Entries :=
  match key.getLast? with
  | none => none
  | some last =>
      let path := key.dropLast
      let act (origin : Origin) (table : Entries) : Option (Entries × Unit) :=
        if path ≠ [] ∧ origin ≠ .dotted then none
        else if (table.find? last).isSome then none
        else some (table ++ [(last, .value value)], ())
      (descend true act path .written entries).map (·.1)

end Entries

mutual

def Item.toValue : Item → Value
  | .value value => value
  | .table _ entries => .table (entryValues entries)
  | .tables all => .array (tableValues all)

def entryValues : List (String × Item) → List (String × Value)
  | [] => []
  | (key, item) :: rest => (key, item.toValue) :: entryValues rest

def tableValues : List (List (String × Item)) → List Value
  | [] => []
  | entries :: rest => .table (entryValues entries) :: tableValues rest

end

/-! ## Values -/

def readItems (readItem : Reader Value) : (rounds : Nat) → Reader (List Value)
  | 0, _ => none
  | rounds + 1, text =>
      match skipBlankLines text with
      | ']' :: rest => some ([], rest)
      | text => do
          let (item, rest) ← readItem text
          match skipBlankLines rest with
          | ',' :: rest => do
              let (items, rest) ← readItems readItem rounds rest
              return (item :: items, rest)
          | ']' :: rest => return ([item], rest)
          | _ => none

def readPair (readItem : Reader Value) (text : List Char) :
    Option ((List String × Value) × List Char) := do
  let (key, rest) ← readKey text
  let rest ← expect '=' rest
  let (value, rest) ← readItem (skipSpaces rest)
  return ((key, value), rest)

def readEntries (readItem : Reader Value) : (rounds : Nat) → Entries → Reader Entries
  | 0, _, _ => none
  | rounds + 1, entries, text => do
      let ((key, value), rest) ← readPair readItem text
      let entries ← entries.insertValue? key value
      match skipSpaces rest with
      | ',' :: rest => readEntries readItem rounds entries rest
      | '\x7d' :: rest => return (entries, rest)
      | _ => none

def readValue : (levels : Nat) → Reader Value
  | levels, text =>
      match text with
      | '"' :: _ => (readString text).map fun (value, rest) => (.string value, rest)
      | '\'' :: _ => (readString text).map fun (value, rest) => (.string value, rest)
      | 't' :: 'r' :: 'u' :: 'e' :: rest => some (.boolean true, rest)
      | 'f' :: 'a' :: 'l' :: 's' :: 'e' :: rest => some (.boolean false, rest)
      | '[' :: rest =>
          match levels with
          | 0 => none
          | levels + 1 =>
              (readItems (readValue levels) (rest.length + 1) rest).map fun (items, rest) =>
                (.array items, rest)
      | '\x7b' :: rest =>
          match levels with
          | 0 => none
          | levels + 1 =>
              match skipSpaces rest with
              | '\x7d' :: rest => some (.table [], rest)
              | _ =>
                  (readEntries (readValue levels) (rest.length + 1) [] rest).map
                    fun (entries, rest) => (.table (entryValues entries), rest)
      | _ =>
          match readDateTime .document text with
          | some (value, rest) => some (.dateTime value, rest)
          | none => readNumber text

/-! ## Lines -/

structure Draft where
  root : Entries := []
  current : Entries := []
  header : List String := []
  repeated : Bool := false
  deriving Inhabited

namespace Draft

def close? (draft : Draft) : Option Entries :=
  match draft.header.getLast? with
  | none => some draft.current
  | some last =>
      let act (_ : Origin) (table : Entries) : Option (Entries × Unit) :=
        match draft.repeated, table.find? last with
        | true, none => some (table ++ [(last, .tables [draft.current])], ())
        | true, some (.tables all) =>
            some (table.replace last (.tables (all ++ [draft.current])), ())
        | false, none => some (table ++ [(last, .table .written draft.current)], ())
        | _, _ => none
      (Entries.descend false act draft.header.dropLast .written draft.root).map (·.1)

/-- Open the table of a header.  A table that was only implied so far keeps its entries. -/
def openTable? (draft : Draft) (header : List String) : Option Draft := do
  let root ← draft.close?
  let last ← header.getLast?
  let act (_ : Origin) (table : Entries) : Option (Entries × Entries) :=
    match table.find? last with
    | none => some (table, [])
    | some (.table .implied inner) => some (table.erase last, inner)
    | some _ => none
  let (root, current) ← Entries.descend false act header.dropLast .written root
  return { root, current, header }

def openRepeated? (draft : Draft) (header : List String) : Option Draft := do
  let root ← draft.close?
  let last ← header.getLast?
  let act (_ : Origin) (table : Entries) : Option (Entries × Unit) :=
    match table.find? last with
    | none => some (table, ())
    | some (.tables _) => some (table, ())
    | some _ => none
  let (root, _) ← Entries.descend false act header.dropLast .written root
  return { root, header, repeated := true }

def readLine? (draft : Draft) (text : List Char) : Option (Draft × List Char) :=
  match text with
  | '#' :: _ => (endOfLine? text).map fun rest => (draft, rest)
  | '\n' :: rest => some (draft, rest)
  | '\r' :: _ => (newline? text).map fun rest => (draft, rest)
  | '[' :: '[' :: rest => do
      let (header, rest) ← readKey rest
      let rest ← expect ']' rest
      let rest ← expect ']' rest
      let rest ← endOfLine? rest
      let draft ← draft.openRepeated? header
      return (draft, rest)
  | '[' :: rest => do
      let (header, rest) ← readKey rest
      let rest ← expect ']' rest
      let rest ← endOfLine? rest
      let draft ← draft.openTable? header
      return (draft, rest)
  | text => do
      let ((key, value), rest) ← readPair (readValue (depthLimit - 1)) text
      let rest ← endOfLine? rest
      let current ← draft.current.insertValue? key value
      return ({ draft with current }, rest)

def readLines? : (rounds : Nat) → Draft → List Char → Option Draft
  | 0, _, _ => none
  | rounds + 1, draft, text =>
      match skipSpaces text with
      | [] => some draft
      | text => do
          let (draft, rest) ← draft.readLine? text
          readLines? rounds draft rest

end Draft

/-- The table that a document holds.  A byte order mark at its start is skipped. -/
def parse? (document : String) : Option (List (String × Value)) := do
  let text :=
    match document.toList with
    | '\ufeff' :: rest => rest
    | text => text
  let draft ← Draft.readLines? (text.length + 1) {} text
  let root ← draft.close?
  return entryValues root

end Toml
end RestrictedApi
