/-!
# Places reached in a text

A pattern is matched by following all ways through a text at once.  What has been matched so far may
end at several places of the text, and the marks say at which: there is one for every place, from
the one before the first symbol to the one after the last.  A part of a pattern takes marks to marks
in one pass, so the work grows with the length of the pattern times that of the text.
-/

namespace RestrictedApi

structure Marks where
  reached : List Bool
  deriving DecidableEq, Repr, Inhabited

namespace Marks

variable {α : Type}

def start (text : List α) : Marks :=
  ⟨true :: text.map fun _ => false⟩

def advance (test : α → Bool) (text : List α) (marks : Marks) : Marks :=
  ⟨false :: List.zipWith (fun symbol mark => mark && test symbol) text marks.reached⟩

/-- The marks from a place on, of which the first is also reached from the place before it. -/
def spreadFrom (test : α → Bool) (before : Bool) : List α → List Bool → List Bool
  | symbol :: text, mark :: marks =>
      (before || mark) :: spreadFrom test ((before || mark) && test symbol) text marks
  | [], mark :: marks => (before || mark) :: marks
  | _, [] => []

/-- The places any number of symbols further on, if all of these pass a test. -/
def spread (test : α → Bool) (text : List α) (marks : Marks) : Marks :=
  ⟨spreadFrom test false text marks.reached⟩

def toEnd (marks : Marks) : Marks :=
  ⟨(marks.reached.drop 1).map (fun _ => false) ++ [marks.reached.any id]⟩

def either (a b : Marks) : Marks :=
  ⟨List.zipWith (· || ·) a.reached b.reached⟩

def clear (marks : Marks) : Marks :=
  ⟨marks.reached.map fun _ => false⟩

def complete (marks : Marks) : Bool :=
  marks.reached.getLastD false

/-! ## Every place keeps its mark -/

@[simp]
theorem length_start (text : List α) : (start text).reached.length = text.length + 1 := by
  simp [start]

@[simp]
theorem length_advance (test : α → Bool) (text : List α) (marks : Marks) :
    (advance test text marks).reached.length = min text.length marks.reached.length + 1 := by
  simp [advance]

theorem length_spreadFrom (test : α → Bool) (before : Bool) (text : List α) (marks : List Bool) :
    (spreadFrom test before text marks).length = marks.length := by
  induction marks generalizing before text with
  | nil => cases text <;> simp [spreadFrom]
  | cons mark marks ih => cases text <;> simp [spreadFrom, ih]

@[simp]
theorem length_spread (test : α → Bool) (text : List α) (marks : Marks) :
    (spread test text marks).reached.length = marks.reached.length :=
  length_spreadFrom test false text marks.reached

@[simp]
theorem length_either (a b : Marks) :
    (either a b).reached.length = min a.reached.length b.reached.length := by
  simp [either]

end Marks

end RestrictedApi
