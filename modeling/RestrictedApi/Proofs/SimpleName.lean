import RestrictedApi.Tree.Names

/-!
# Simple names

A simple name has no dot in it, so it is the last segment of every dotted name that ends with it.
Declarations are recorded under dotted names, and this is how the simple name is found again.
-/

namespace RestrictedApi

namespace Text

def isSimple (text : String) : Bool :=
  !text.toList.contains '.'

def simpleName (text : String) : String :=
  (segments '.' text).getLastD ""

theorem splitChars_ne_nil (separator : Char) (chars : List Char) :
    splitChars separator chars ≠ [] := by
  cases chars with
  | nil => simp [splitChars]
  | cons c rest =>
      rw [splitChars]
      split
      · simp
      · split <;> simp

theorem splitChars_of_not_mem {separator : Char} {chars : List Char} (hchars : separator ∉ chars) :
    splitChars separator chars = [chars] := by
  induction chars with
  | nil => rfl
  | cons c rest ih =>
      have hc : c ≠ separator := fun heq => hchars (heq ▸ List.mem_cons_self)
      have hrest : separator ∉ rest := fun hmem => hchars (List.mem_cons_of_mem c hmem)
      rw [splitChars, if_neg hc, ih hrest]

theorem splitChars_append (separator : Char) (before after : List Char) :
    splitChars separator (before ++ separator :: after) =
      splitChars separator before ++ splitChars separator after := by
  induction before with
  | nil => simp [splitChars]
  | cons c rest ih =>
      rw [List.cons_append, splitChars, splitChars, ih]
      by_cases hc : c = separator
      · rw [if_pos hc, if_pos hc, List.cons_append]
      · rw [if_neg hc, if_neg hc]
        cases hsplit : splitChars separator rest with
        | nil => exact absurd hsplit (splitChars_ne_nil separator rest)
        | cons segment segments => rfl

theorem intercalate_splitChars (separator : Char) (chars : List Char) :
    [separator].intercalate (splitChars separator chars) = chars := by
  induction chars with
  | nil => rfl
  | cons c rest ih =>
      rw [splitChars]
      cases hsplit : splitChars separator rest with
      | nil => exact absurd hsplit (splitChars_ne_nil separator rest)
      | cons segment segments =>
          rw [hsplit] at ih
          by_cases hc : c = separator
          · rw [if_pos hc, hc]
            simpa [List.intercalate] using ih
          · rw [if_neg hc]
            cases segments with
            | nil => simpa [List.intercalate] using ih
            | cons second others => simpa [List.intercalate] using ih

theorem not_mem_of_mem_splitChars {separator : Char} {chars segment : List Char}
    (hsegment : segment ∈ splitChars separator chars) : separator ∉ segment := by
  induction chars generalizing segment with
  | nil =>
      rw [splitChars, List.mem_singleton] at hsegment
      simp [hsegment]
  | cons c rest ih =>
      rw [splitChars] at hsegment
      by_cases hc : c = separator
      · rw [if_pos hc] at hsegment
        rcases List.mem_cons.mp hsegment with hempty | hrest
        · simp [hempty]
        · exact ih hrest
      · rw [if_neg hc] at hsegment
        cases hsplit : splitChars separator rest with
        | nil => exact absurd hsplit (splitChars_ne_nil separator rest)
        | cons first others =>
            rw [hsplit] at hsegment ih
            rcases List.mem_cons.mp hsegment with hfirst | hothers
            · have hnot := ih List.mem_cons_self
              rw [hfirst]
              intro hmem
              rcases List.mem_cons.mp hmem with heq | hin
              · exact hc heq.symm
              · exact hnot hin
            · exact ih (List.mem_cons_of_mem first hothers)

theorem simpleName_of_isSimple {name : String} (hname : isSimple name = true) :
    simpleName name = name := by
  have hdot : '.' ∉ name.toList := by simpa [isSimple] using hname
  rw [simpleName, segments, splitChars_of_not_mem hdot]
  simp

theorem simpleName_qualified (qualifier name : String) :
    simpleName (qualifier ++ "." ++ name) = simpleName name := by
  have hchars : (qualifier ++ "." ++ name).toList = qualifier.toList ++ '.' :: name.toList := by
    simp
  unfold simpleName segments
  rw [hchars, splitChars_append, List.map_append]
  cases hsplit : splitChars '.' name.toList with
  | nil => exact absurd hsplit (splitChars_ne_nil '.' name.toList)
  | cons segment rest => simp [List.getLast?_cons]

theorem isSimple_strip {drop : Char → Bool} {text : String} (htext : isSimple text = true) :
    isSimple (strip drop text) = true := by
  have hdot : '.' ∉ text.toList := by simpa [isSimple] using htext
  have hstrip : '.' ∉ stripChars drop text.toList := by
    intro hmem
    rw [stripChars, List.mem_reverse] at hmem
    have hkept := List.mem_reverse.mp ((List.dropWhile_sublist drop).mem hmem)
    exact hdot ((List.dropWhile_sublist drop).mem hkept)
  simpa [isSimple, strip] using hstrip

end Text

namespace DottedName

theorem isSimple_of_mem_ofText {text segment : String} (hsegment : segment ∈ ofText text) :
    Text.isSimple segment = true := by
  have hmem := (List.mem_filter.mp hsegment).1
  rcases List.mem_map.mp hmem with ⟨cut, hcut, htrim⟩
  rcases List.mem_map.mp hcut with ⟨chars, hchars, hofList⟩
  have hsimple : Text.isSimple cut = true := by
    have hdot := Text.not_mem_of_mem_splitChars hchars
    simpa [Text.isSimple, ← hofList] using hdot
  rw [← htrim]
  exact Text.isSimple_strip hsimple

theorem toText_cons_cons (first second : String) (rest : DottedName) :
    toText (first :: second :: rest) = first ++ "." ++ toText (second :: rest) := by
  apply String.toList_injective
  simp [toText, String.toList_intercalate, List.intercalate]

theorem simpleName_toText {name : DottedName} {last : String}
    (hsimple : ∀ segment, segment ∈ name → Text.isSimple segment = true)
    (hlast : name.getLast? = some last) : Text.simpleName name.toText = last := by
  induction name with
  | nil => cases hlast
  | cons first rest ih =>
      cases rest with
      | nil =>
          have hfirst : first = last := by simpa using hlast
          rw [← hfirst]
          have htext : toText [first] = first := by
            apply String.toList_injective
            simp [toText]
          rw [htext]
          exact Text.simpleName_of_isSimple (hsimple first List.mem_cons_self)
      | cons second rest =>
          rw [toText_cons_cons, Text.simpleName_qualified]
          exact ih (fun segment hsegment => hsimple segment (List.mem_cons_of_mem first hsegment))
            (by simpa using hlast)

end DottedName

/-!
# Name tokens

The nodes of a tree that are a simple name.
-/

namespace Node

/-- The name of an annotation or of a module, which is not itself part of a name, may be dotted. -/
def holdsDottedName (node : Node) : Bool :=
  (node.kind.isAnnotationUse || node.kind = .moduleDeclaration) &&
    node.role ≠ some .name && node.role ≠ some .scope

theorem holdsDottedName_eq_false {node : Node}
    (hkind : (node.kind.isAnnotationUse || node.kind = .moduleDeclaration) = false) :
    node.holdsDottedName = false := by
  rw [holdsDottedName, hkind]
  rfl

theorem holdsDottedName_of_isTypeDeclaration {node : Node}
    (hkind : node.kind.isTypeDeclaration = true) : node.holdsDottedName = false := by
  apply holdsDottedName_eq_false
  revert hkind
  cases node.kind <;> decide

def isNameToken (node : Node) (parent : Option Node) : Bool :=
  node.kind = .identifier || node.kind = .typeIdentifier || node.role = some .field ||
    (node.role = some .name && !parent.any holdsDottedName)

theorem isNameToken_of_identifier {parent : Option Node} {node : Node}
    (hkind : node.kind = .identifier) : node.isNameToken parent = true := by
  simp [isNameToken, hkind]

theorem isNameToken_of_typeIdentifier {parent : Option Node} {node : Node}
    (hkind : node.kind = .typeIdentifier) : node.isNameToken parent = true := by
  simp [isNameToken, hkind]

theorem isNameToken_of_field {parent : Option Node} {node : Node}
    (hrole : node.role = some .field) :
    node.isNameToken parent = true := by
  simp [isNameToken, hrole]

theorem isNameToken_of_name {parent node : Node} (hrole : node.role = some .name)
    (hparent : parent.holdsDottedName = false) : node.isNameToken (some parent) = true := by
  simp [isNameToken, hrole, hparent]

def isNamedSimply (parent : Option Node) (node : Node) : Bool :=
  !node.isNameToken parent || Text.isSimple node.text

theorem isSimple_of_isNamedSimply {parent : Option Node} {node : Node}
    (hnode : isNamedSimply parent node = true) (htoken : node.isNameToken parent = true) :
    Text.isSimple node.text = true := by
  simpa [isNamedSimply, htoken] using hnode

end Node

end RestrictedApi
