import Mathlib.Data.List.Basic
import RestrictedApi.Json

/-!
# Reading what is written

A JSON value that is written in a layout of blanks is read back as it was, whatever text follows, as
long as that does not go on with a number.  Strings are written character by character and read
piece by piece; numbers are written as digits; arrays and objects follow by induction on the value.
-/

namespace RestrictedApi
namespace Json

/-!
# Blanks
-/

theorem skipBlanks_append {blanks : List Char} (hblanks : ∀ c, c ∈ blanks → isBlank c = true)
    (text : List Char) : skipBlanks (blanks ++ text) = skipBlanks text :=
  List.dropWhile_append_of_pos hblanks

theorem skipBlanks_cons {c : Char} (hc : isBlank c = false) (rest : List Char) :
    skipBlanks (c :: rest) = c :: rest := by
  simp [skipBlanks, hc]

theorem skipBlanks_eq_nil {blanks : List Char} (hblanks : ∀ c, c ∈ blanks → isBlank c = true) :
    skipBlanks blanks = [] := by
  simpa [skipBlanks] using skipBlanks_append hblanks []

/-- A layout that puts only blanks between the parts of a value. -/
structure Layout.IsBlank (layout : Layout) : Prop where
  newline : ∀ depth c, c ∈ layout.newline depth → isBlank c = true
  colon : ∃ after, layout.colon = ':' :: after ∧ ∀ c, c ∈ after → isBlank c = true

theorem Layout.isBlank_compact : Layout.compact.IsBlank where
  newline := by simp [Layout.compact]
  colon := ⟨[], rfl, by simp⟩

theorem Layout.isBlank_indented : Layout.indented.IsBlank where
  newline := by
    intro depth c hc
    rcases List.mem_cons.mp hc with heq | hspaces
    · rw [heq]
      rfl
    · rw [List.eq_of_mem_replicate hspaces]
      rfl
  colon := ⟨[' '], rfl, by simp [Json.isBlank]⟩

/-!
# Strings

Every character is read as one piece: most as themselves, control characters without a short escape
as a code unit.
-/

def pieceOf (c : Char) : Piece :=
  if c.toNat < 0x20 ∧ c ∉ ['\n', '\r', '\t', '\x08', '\x0c'] then .unit c.toNat else .char c

theorem hexValue_hexDigit : ∀ n, n < 16 → hexValue? (hexDigit n) = some n := by
  decide

theorem codeUnit_control {n : Nat} (hn : n < 0x20) :
    codeUnit? '0' '0' (hexDigit (n / 16)) (hexDigit (n % 16)) = some n := by
  have hhigh := hexValue_hexDigit (n / 16) (by omega)
  have hlow := hexValue_hexDigit (n % 16) (by omega)
  have hzero : hexValue? '0' = some 0 := by decide
  simp only [codeUnit?, hzero, hhigh, hlow, Option.bind_eq_bind, Option.bind_some, Option.pure_def]
  congr 1
  omega

theorem readPieces_backslash {letter c : Char} (hletter : shortEscape? letter = some c)
    (rest : List Char) :
    readPieces ('\\' :: letter :: rest) =
      (readPieces rest).map fun read => (.char c :: read.1, read.2) := by
  have hunit : letter ≠ 'u' := by
    rintro rfl
    simp [shortEscape?] at hletter
  cases hread : readPieces rest <;> simp [readPieces, hunit, hletter, hread]

theorem readPieces_control {c : Char} (hc : c.toNat < 0x20) (rest : List Char) :
    readPieces ('\\' :: 'u' :: '0' :: '0' :: hexDigit (c.toNat / 16) :: hexDigit (c.toNat % 16) ::
      rest) = (readPieces rest).map fun read => (.unit c.toNat :: read.1, read.2) := by
  cases hread : readPieces rest <;> simp [readPieces, codeUnit_control hc, hread]

theorem readPieces_escape (c : Char) (rest : List Char) :
    readPieces (escape c ++ rest) =
      (readPieces rest).map fun read => (pieceOf c :: read.1, read.2) := by
  unfold escape
  split_ifs with hquote hbackslash hnewline hreturn htab hbackspace hfeed hcontrol
  · subst hquote
    exact readPieces_backslash rfl rest
  · subst hbackslash
    exact readPieces_backslash rfl rest
  · subst hnewline
    exact readPieces_backslash rfl rest
  · subst hreturn
    exact readPieces_backslash rfl rest
  · subst htab
    exact readPieces_backslash rfl rest
  · subst hbackspace
    exact readPieces_backslash rfl rest
  · subst hfeed
    exact readPieces_backslash rfl rest
  · have hpiece : pieceOf c = .unit c.toNat := by
      simp [pieceOf, hcontrol, hnewline, hreturn, htab, hbackspace, hfeed]
    rw [hpiece]
    exact readPieces_control hcontrol rest
  · have hpiece : pieceOf c = .char c := by
      simp [pieceOf, hcontrol]
    cases hread : readPieces rest <;> simp [readPieces, hpiece, hbackslash, hcontrol, hread]

theorem readPieces_flatMap_escape (chars rest : List Char) :
    readPieces (chars.flatMap escape ++ '"' :: rest) = some (chars.map pieceOf, rest) := by
  induction chars with
  | nil => rfl
  | cons c chars ih =>
    rw [List.flatMap_cons, List.append_assoc, readPieces_escape, ih]
    rfl

theorem joinPieces_unit {n : Nat} (hn : n < 0x20) (pieces : List Piece) :
    joinPieces? (.unit n :: pieces) = (joinPieces? pieces).map (Char.ofNat n :: ·) := by
  have hhigh : isHighSurrogate n = false := by
    simp [isHighSurrogate]
    omega
  have hlow : isLowSurrogate n = false := by
    simp [isLowSurrogate]
    omega
  match pieces with
  | [] => simp [joinPieces?, hhigh, hlow]
  | .char c :: pieces => simp [joinPieces?, hhigh, hlow]
  | .unit m :: pieces => simp [joinPieces?, hhigh, hlow]

theorem joinPieces_pieceOf (chars : List Char) :
    joinPieces? (chars.map pieceOf) = some chars := by
  induction chars with
  | nil => rfl
  | cons c chars ih =>
    rw [List.map_cons]
    by_cases hcontrol : c.toNat < 0x20 ∧ c ∉ ['\n', '\r', '\t', '\x08', '\x0c']
    · rw [pieceOf, if_pos hcontrol, joinPieces_unit hcontrol.1, ih]
      simp
    · rw [pieceOf, if_neg hcontrol, joinPieces?, ih]
      rfl

theorem readString_quote (value : String) (rest : List Char) :
    readString (value.toList.flatMap escape ++ '"' :: rest) = some (some value, rest) := by
  simp [readString, readPieces_flatMap_escape, joinPieces_pieceOf]

/-!
# Numbers

What follows a number must not go on with it.
-/

def EndsNumber (rest : List Char) : Prop :=
  ∀ c, rest.head? = some c → isDigit c = false ∧ c ≠ '.' ∧ c ≠ 'e' ∧ c ≠ 'E'

theorem endsNumber_nil : EndsNumber [] := by
  simp [EndsNumber]

theorem endsNumber_cons {c : Char} (hc : isDigit c = false ∧ c ≠ '.' ∧ c ≠ 'e' ∧ c ≠ 'E')
    (rest : List Char) : EndsNumber (c :: rest) := by
  simpa [EndsNumber] using hc

theorem endsNumber_of_isBlank {c : Char} (hc : isBlank c = true) (rest : List Char) :
    EndsNumber (c :: rest) := by
  apply endsNumber_cons
  simp only [isBlank, Bool.or_eq_true, decide_eq_true_eq] at hc
  rcases hc with ((rfl | rfl) | rfl) | rfl <;> decide

theorem endsNumber_append {blanks : List Char} (hblanks : ∀ c, c ∈ blanks → isBlank c = true)
    {rest : List Char} (hrest : EndsNumber rest) : EndsNumber (blanks ++ rest) := by
  cases blanks with
  | nil => exact hrest
  | cons c blanks => exact endsNumber_of_isBlank (hblanks c List.mem_cons_self) _

theorem isDigit_of_mem_toDigits {n : Nat} {c : Char} (hc : c ∈ Nat.toDigits 10 n) :
    isDigit c = true := by
  have hdigit := Nat.isDigit_of_mem_toDigits (by decide) (by decide) hc
  simpa [isDigit, Char.isDigit, Char.le_def] using hdigit

theorem digitsValue_toDigits (n : Nat) : digitsValue (Nat.toDigits 10 n) = n := by
  calc digitsValue (Nat.toDigits 10 n)
      = Nat.ofDigitChars 10 (Nat.toDigits 10 n) 0 := by
        simp only [digitsValue, Nat.ofDigitChars, Nat.mul_comm]
    _ = n := Nat.ofDigitChars_toDigits (by decide) (by decide)

theorem head_toDigits_ne_zero {n : Nat} (hn : 0 < n) :
    (Nat.toDigits 10 n).head? ≠ some '0' := by
  induction n using Nat.strongRecOn with
  | ind n ih =>
    rcases Nat.lt_or_ge n 10 with hlt | hge
    · rw [Nat.toDigits_of_lt_base hlt]
      have hdigit : ∀ d, d < 10 → 0 < d → [d.digitChar].head? ≠ some '0' := by decide
      exact hdigit n hlt hn
    · rw [Nat.toDigits_of_base_le (by decide) hge,
        List.head?_append_of_ne_nil _ Nat.toDigits_ne_nil]
      exact ih (n / 10) (by omega) (by omega)

theorem length_toDigits_of_head {n : Nat} (hhead : (Nat.toDigits 10 n).head? = some '0') :
    (Nat.toDigits 10 n).length = 1 := by
  rcases Nat.eq_zero_or_pos n with rfl | hpos
  · rfl
  · exact absurd hhead (head_toDigits_ne_zero hpos)

theorem readDigits_toDigits (n : Nat) {rest : List Char} (hrest : EndsNumber rest) :
    readDigits (Nat.toDigits 10 n ++ rest) = some (Nat.toDigits 10 n, rest) := by
  have hdigits : ∀ c, c ∈ Nat.toDigits 10 n → isDigit c = true := fun c => isDigit_of_mem_toDigits
  have htake : rest.takeWhile isDigit = [] := by
    cases rest with
    | nil => rfl
    | cons c rest => simp [(hrest c rfl).1]
  have hdrop : rest.dropWhile isDigit = rest := by
    cases rest with
    | nil => rfl
    | cons c rest => simp [(hrest c rfl).1]
  have hne : Nat.toDigits 10 n ≠ [] := Nat.toDigits_ne_nil
  rw [readDigits, List.takeWhile_append_of_pos hdigits, List.dropWhile_append_of_pos hdigits,
    htake, hdrop, List.append_nil]
  split
  case h_1 hnil => exact absurd hnil hne
  case h_2 => rfl

theorem readFraction_of_endsNumber {rest : List Char} (hrest : EndsNumber rest) :
    readFraction rest = some (false, rest) := by
  cases rest with
  | nil => rfl
  | cons c rest => simp [readFraction, (hrest c rfl).2.1]

theorem readExponent_of_endsNumber {rest : List Char} (hrest : EndsNumber rest) :
    readExponent rest = some (false, rest) := by
  cases rest with
  | nil => rfl
  | cons c rest => simp [readExponent, (hrest c rfl).2.2]

theorem readNumber_toDigits (n : Nat) {rest : List Char} (hrest : EndsNumber rest) :
    readNumber (Nat.toDigits 10 n ++ rest) = some (.natural n, rest) := by
  have hread := readDigits_toDigits n hrest
  have hsign : ∀ after, Nat.toDigits 10 n ++ rest ≠ '-' :: after := by
    intro after heq
    have hhead : (Nat.toDigits 10 n).head? = some '-' := by
      rw [← List.head?_append_of_ne_nil _ Nat.toDigits_ne_nil, heq]
      rfl
    exact absurd (isDigit_of_mem_toDigits (List.mem_of_mem_head? hhead)) (by decide)
  have hzero : ¬ ((Nat.toDigits 10 n).head? = some '0' ∧ (Nat.toDigits 10 n).length ≠ 1) :=
    fun h => h.2 (length_toDigits_of_head h.1)
  unfold readNumber
  split
  rename_i negative unsigned hmatch
  split at hmatch
  case h_1 heq => exact absurd heq (hsign _)
  case h_2 =>
    obtain ⟨rfl, rfl⟩ := Prod.mk.inj hmatch
    simp [hread, hzero, readFraction_of_endsNumber hrest, readExponent_of_endsNumber hrest,
      digitsValue_toDigits]

/-!
# Values
-/

/-- A value that every text of it gives back: it has no number but the natural ones and no
unreadable string. -/
inductive Plain : Json → Prop
  | null : Plain .null
  | bool (value : Bool) : Plain (.bool value)
  | natural (n : Nat) : Plain (.natural n)
  | text (value : String) : Plain (.text value)
  | array {items : List Json} (hitems : ∀ item, item ∈ items → Plain item) : Plain (.array items)
  | object {fields : List (String × Json)} (hfields : ∀ field, field ∈ fields → Plain field.2) :
      Plain (.object fields)

theorem isBlank_of_isDigit {c : Char} (hc : isDigit c = true) : isBlank c = false := by
  by_contra hblank
  simp only [isBlank, Bool.not_eq_false, Bool.or_eq_true, decide_eq_true_eq] at hblank
  rcases hblank with ((rfl | rfl) | rfl) | rfl <;> exact absurd hc (by decide)

theorem toDigits_eq_cons (n : Nat) :
    ∃ d digits, Nat.toDigits 10 n = d :: digits ∧ isDigit d = true := by
  obtain ⟨d, digits, heq⟩ := List.exists_cons_of_ne_nil (Nat.toDigits_ne_nil (n := n) (b := 10))
  exact ⟨d, digits, heq, isDigit_of_mem_toDigits (n := n) (by simp [heq])⟩

theorem write_eq_cons (layout : Layout) (depth : Nat) (value : Json) :
    ∃ c more, value.write layout depth = c :: more ∧ isBlank c = false ∧ c ≠ ']' := by
  match value with
  | .null | .bool true | .bool false | .otherNumber | .unreadable =>
    exact ⟨_, _, by rw [write], by decide, by decide⟩
  | .text value => exact ⟨_, _, by rw [write, quote], by decide, by decide⟩
  | .natural n =>
    obtain ⟨d, digits, heq, hd⟩ := toDigits_eq_cons n
    refine ⟨d, digits, by rw [write, heq], isBlank_of_isDigit hd, ?_⟩
    rintro rfl
    exact absurd hd (by decide)
  | .array [] | .array (_ :: _) | .object [] | .object ((_, _) :: _) =>
    exact ⟨_, _, by rw [write], by decide, by decide⟩

theorem readValue_append {blanks : List Char} (hblanks : ∀ c, c ∈ blanks → isBlank c = true)
    (fuel : Nat) (text : List Char) : readValue fuel (blanks ++ text) = readValue fuel text := by
  cases fuel with
  | zero => rfl
  | succ fuel => rw [readValue, readValue, skipBlanks_append hblanks]

theorem readItems_append {blanks : List Char} (hblanks : ∀ c, c ∈ blanks → isBlank c = true)
    (fuel : Nat) (text : List Char) : readItems fuel (blanks ++ text) = readItems fuel text := by
  cases fuel with
  | zero => rfl
  | succ fuel => rw [readItems, readItems, readValue_append hblanks]

theorem readFields_append {blanks : List Char} (hblanks : ∀ c, c ∈ blanks → isBlank c = true)
    (fuel : Nat) (text : List Char) : readFields fuel (blanks ++ text) = readFields fuel text := by
  cases fuel with
  | zero => rfl
  | succ fuel => rw [readFields, readFields, skipBlanks_append hblanks]

/-- Twice the length of the text is fuel enough to read the value back. -/
def ReadsBack (layout : Layout) (value : Json) : Prop :=
  ∀ depth fuel rest, EndsNumber rest → 2 * (value.write layout depth).length ≤ fuel →
    readValue fuel (value.write layout depth ++ rest) = some (value, rest)

theorem readsBack_natural (layout : Layout) (n : Nat) : ReadsBack layout (.natural n) := by
  intro depth fuel rest hrest hfuel
  have hread := readNumber_toDigits n hrest
  obtain ⟨d, digits, heq, hd⟩ := toDigits_eq_cons n
  rw [write, heq] at hfuel ⊢
  rw [heq] at hread
  obtain ⟨fuel, rfl⟩ : ∃ more, fuel = more + 1 :=
    Nat.exists_eq_add_one.mpr (by simp at hfuel; omega)
  rw [readValue, List.cons_append, skipBlanks_cons (isBlank_of_isDigit hd)]
  split
  case h_7 => exact hread
  all_goals
    rename_i hcons
    obtain ⟨rfl, -⟩ := List.cons.inj hcons
    exact absurd hd (by decide)

theorem readsBack_text (layout : Layout) (value : String) : ReadsBack layout (.text value) := by
  intro depth fuel rest hrest hfuel
  rw [write, quote] at hfuel ⊢
  obtain ⟨fuel, rfl⟩ : ∃ more, fuel = more + 1 :=
    Nat.exists_eq_add_one.mpr (by simp at hfuel; omega)
  rw [List.cons_append, readValue, skipBlanks_cons (by decide), List.append_assoc]
  simp [readString_quote]

theorem readValue_bracket {text : List Char} (hopen : ∀ after, skipBlanks text ≠ ']' :: after)
    (fuel : Nat) :
    readValue (fuel + 1) ('[' :: text) =
      (readItems fuel text).map fun read => (.array read.1, read.2) := by
  rw [readValue, skipBlanks_cons (by decide)]
  cases hread : readItems fuel text <;> simp [hread]

theorem readValue_brace {text : List Char} (hopen : ∀ after, skipBlanks text ≠ '\x7d' :: after)
    (fuel : Nat) :
    readValue (fuel + 1) ('\x7b' :: text) =
      (readFields fuel text).map fun read => (objectOf read.1, read.2) := by
  rw [readValue, skipBlanks_cons (by decide)]
  cases hread : readFields fuel text <;> simp [hread]

theorem readFields_comma (key : String) {fuel : Nat} {text rest after : List Char} {value : Json}
    (hread : readValue fuel text = some (value, rest)) (hnext : skipBlanks rest = ',' :: after) :
    readFields (fuel + 1) (quote key ++ ':' :: text) =
      (readFields fuel after).map fun read => ((some key, value) :: read.1, read.2) := by
  cases hfields : readFields fuel after <;>
    simp [readFields, quote, readString_quote, hread, hnext, hfields, skipBlanks_cons, isBlank]

theorem readFields_close (key : String) {fuel : Nat} {text rest after : List Char} {value : Json}
    (hread : readValue fuel text = some (value, rest)) (hnext : skipBlanks rest = '\x7d' :: after) :
    readFields (fuel + 1) (quote key ++ ':' :: text) = some ([(some key, value)], after) := by
  simp [readFields, quote, readString_quote, hread, hnext, skipBlanks_cons, isBlank]

theorem objectOf_map (fields : List (String × Json)) :
    objectOf (fields.map fun field => (some field.1, field.2)) = .object fields := by
  have hkeys : (fields.map fun field => (some field.1, field.2)).mapM
      (fun field : Option String × Json => field.1.map fun key => (key, field.2)) =
        some fields := by
    induction fields with
    | nil => rfl
    | cons field fields ih => simp [ih]
  unfold objectOf
  split
  · rename_i found hfound
    rw [Option.some.inj (hkeys.symm.trans hfound)]
  · rename_i hnone
    cases hkeys.symm.trans hnone

section Sequences

variable {layout : Layout} (hlayout : layout.IsBlank)
include hlayout

theorem endsNumber_writeItems (depth outer : Nat) (items : List Json) (rest : List Char) :
    EndsNumber (writeItems layout depth items ++ (layout.newline outer ++ ']' :: rest)) := by
  cases items with
  | nil => exact endsNumber_append (hlayout.newline outer) (endsNumber_cons (by decide) rest)
  | cons item items =>
    rw [writeItems]
    exact endsNumber_cons (by decide) _

theorem endsNumber_writeFields (depth outer : Nat) (fields : List (String × Json))
    (rest : List Char) :
    EndsNumber (writeFields layout depth fields ++ (layout.newline outer ++ '\x7d' :: rest)) := by
  cases fields with
  | nil => exact endsNumber_append (hlayout.newline outer) (endsNumber_cons (by decide) rest)
  | cons field fields =>
    rw [writeFields]
    exact endsNumber_cons (by decide) _

-- Each comma pays for the call that reads what follows it.
theorem readItems_writeItems {item : Json} {items : List Json}
    (hitems : ∀ other, other ∈ item :: items → ReadsBack layout other)
    (depth outer fuel : Nat) (rest : List Char)
    (hfuel : 2 * ((item.write layout depth).length + (writeItems layout depth items).length) + 1 ≤
      fuel) :
    readItems fuel (item.write layout depth ++
      (writeItems layout depth items ++ (layout.newline outer ++ ']' :: rest))) =
        some (item :: items, rest) := by
  induction items generalizing item fuel with
  | nil =>
    obtain ⟨fuel, rfl⟩ : ∃ more, fuel = more + 1 := Nat.exists_eq_add_one.mpr (by omega)
    have hread := hitems item List.mem_cons_self depth fuel _
      (endsNumber_writeItems hlayout depth outer [] rest) (by omega)
    rw [readItems, hread]
    simp [writeItems, skipBlanks_append (hlayout.newline outer), skipBlanks_cons, isBlank]
  | cons next items ih =>
    obtain ⟨fuel, rfl⟩ : ∃ more, fuel = more + 1 := Nat.exists_eq_add_one.mpr (by omega)
    have hread := hitems item List.mem_cons_self depth fuel _
      (endsNumber_writeItems hlayout depth outer (next :: items) rest) (by omega)
    rw [writeItems, List.length_cons, List.length_append, List.length_append] at hfuel
    have hrest := ih (fun other hother => hitems other (List.mem_cons_of_mem item hother)) fuel
      (by omega)
    rw [readItems, hread]
    simp [writeItems, skipBlanks_cons, isBlank, readItems_append (hlayout.newline depth), hrest]

theorem readFields_writeFields {field : String × Json} {fields : List (String × Json)}
    (hfields : ∀ other, other ∈ field :: fields → ReadsBack layout other.2)
    (depth outer fuel : Nat) (rest : List Char)
    (hfuel : 2 * ((field.2.write layout depth).length +
      (writeFields layout depth fields).length) + 1 ≤ fuel) :
    readFields fuel (quote field.1 ++ (layout.colon ++ (field.2.write layout depth ++
      (writeFields layout depth fields ++ (layout.newline outer ++ '\x7d' :: rest))))) =
        some ((field :: fields).map fun field => (some field.1, field.2), rest) := by
  obtain ⟨after, hcolon, hafter⟩ := hlayout.colon
  induction fields generalizing field fuel with
  | nil =>
    obtain ⟨fuel, rfl⟩ : ∃ more, fuel = more + 1 := Nat.exists_eq_add_one.mpr (by omega)
    have hread := hfields field List.mem_cons_self depth fuel _
      (endsNumber_writeFields hlayout depth outer [] rest) (by omega)
    rw [← readValue_append hafter] at hread
    rw [hcolon, List.cons_append, readFields_close field.1 hread]
    · rfl
    · rw [writeFields, List.nil_append, skipBlanks_append (hlayout.newline outer),
        skipBlanks_cons (by decide)]
  | cons next fields ih =>
    obtain ⟨fuel, rfl⟩ : ∃ more, fuel = more + 1 := Nat.exists_eq_add_one.mpr (by omega)
    have hread := hfields field List.mem_cons_self depth fuel _
      (endsNumber_writeFields hlayout depth outer (next :: fields) rest) (by omega)
    simp only [writeFields, List.length_cons, List.length_append] at hfuel
    have hrest := ih (fun other hother => hfields other (List.mem_cons_of_mem field hother)) fuel
      (by omega)
    rw [← readValue_append hafter] at hread
    nth_rewrite 1 [hcolon]
    rw [List.cons_append, readFields_comma field.1 hread (skipBlanks_cons (by decide) _)]
    simp [readFields_append (hlayout.newline depth), hrest]

theorem readsBack_array {items : List Json}
    (hitems : ∀ item, item ∈ items → ReadsBack layout item) :
    ReadsBack layout (.array items) := by
  intro depth fuel rest hrest hfuel
  cases items with
  | nil =>
    rw [write] at hfuel ⊢
    obtain ⟨fuel, rfl⟩ : ∃ more, fuel = more + 1 :=
      Nat.exists_eq_add_one.mpr (by simp at hfuel; omega)
    simp [readValue, skipBlanks_cons, isBlank]
  | cons item items =>
    rw [write] at hfuel ⊢
    simp only [List.length_cons, List.length_append] at hfuel
    obtain ⟨fuel, rfl⟩ : ∃ more, fuel = more + 1 := Nat.exists_eq_add_one.mpr (by omega)
    obtain ⟨c, more, hwrite, hblank, hclose⟩ := write_eq_cons layout (depth + 1) item
    have hread := readItems_writeItems hlayout hitems (depth + 1) depth fuel rest (by omega)
    simp only [List.cons_append, List.append_assoc, List.nil_append]
    rw [readValue_bracket _ fuel, readItems_append (hlayout.newline (depth + 1)), hread]
    · rfl
    · intro after
      rw [skipBlanks_append (hlayout.newline (depth + 1)), hwrite, List.cons_append,
        skipBlanks_cons hblank]
      exact fun heq => hclose (List.cons.inj heq).1

theorem readsBack_object {fields : List (String × Json)}
    (hfields : ∀ field, field ∈ fields → ReadsBack layout field.2) :
    ReadsBack layout (.object fields) := by
  intro depth fuel rest hrest hfuel
  cases fields with
  | nil =>
    rw [write] at hfuel ⊢
    obtain ⟨fuel, rfl⟩ : ∃ more, fuel = more + 1 :=
      Nat.exists_eq_add_one.mpr (by simp at hfuel; omega)
    simp [readValue, skipBlanks_cons, isBlank]
  | cons field fields =>
    rw [write] at hfuel ⊢
    simp only [List.length_cons, List.length_append] at hfuel
    obtain ⟨fuel, rfl⟩ : ∃ more, fuel = more + 1 := Nat.exists_eq_add_one.mpr (by omega)
    have hread := readFields_writeFields hlayout hfields (depth + 1) depth fuel rest (by omega)
    simp only [List.cons_append, List.append_assoc, List.nil_append]
    rw [readValue_brace _ fuel, readFields_append (hlayout.newline (depth + 1)), hread,
      Option.map_some, objectOf_map]
    · intro after
      rw [skipBlanks_append (hlayout.newline (depth + 1)), quote, List.cons_append,
        skipBlanks_cons (by decide)]
      exact fun heq => absurd (List.cons.inj heq).1 (by decide)

theorem Plain.readsBack {value : Json} (hvalue : value.Plain) : ReadsBack layout value := by
  induction hvalue with
  | null =>
    intro depth fuel rest hrest hfuel
    rw [write] at hfuel ⊢
    obtain ⟨fuel, rfl⟩ : ∃ more, fuel = more + 1 :=
      Nat.exists_eq_add_one.mpr (by simp at hfuel; omega)
    simp [readValue, skipBlanks_cons, isBlank]
  | bool value =>
    intro depth fuel rest hrest hfuel
    cases value <;> rw [write] at hfuel ⊢
    all_goals
      obtain ⟨fuel, rfl⟩ : ∃ more, fuel = more + 1 :=
        Nat.exists_eq_add_one.mpr (by simp at hfuel; omega)
      simp [readValue, skipBlanks_cons, isBlank]
  | natural n => exact readsBack_natural layout n
  | text value => exact readsBack_text layout value
  | array hitems ih => exact readsBack_array hlayout ih
  | object hfields ih => exact readsBack_object hlayout ih

theorem parse_render {value : Json} (hvalue : value.Plain) {blanks : List Char}
    (hblanks : ∀ c, c ∈ blanks → isBlank c = true) :
    parse? (value.render layout ++ String.ofList blanks) = some value := by
  have hends : EndsNumber blanks := by
    simpa using endsNumber_append hblanks endsNumber_nil
  have hread := hvalue.readsBack hlayout 0 (2 * (value.write layout 0 ++ blanks).length + 2) blanks
    hends (by simp; omega)
  have hchars : (value.render layout ++ String.ofList blanks).toList =
      value.write layout 0 ++ blanks := by
    simp [render]
  simp only [parse?, hchars, hread, skipBlanks_eq_nil hblanks, if_true]

end Sequences

end Json
end RestrictedApi
