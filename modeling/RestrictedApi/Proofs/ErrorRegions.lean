import RestrictedApi.Proofs.Edited.Usages

/-!
# Errors in syntax trees

Where the parser meets something that it cannot read, the tree has an error, which holds the pieces
that could be read.  The walk has no rule for errors: it goes through one like through any node of
no kind in particular, so a name among the pieces is a usage.  This module shows how far errors are
skipped.  The marks themselves are never looked at.  Errors that hold no piece with a rule or a role
have no usages in them, and they can be left out of the trees, as long as they do not stand where
children are counted or taken by their order.
-/

namespace RestrictedApi

def Edit.unmark : Edit where
  drops _ := false
  unmarks := true

/-- Errors are left out, with all that they hold.  The root of a unit stays. -/
def Edit.removeErrors : Edit where
  drops node := node.kind = .error
  unmarks := false

/-- An error, if the node is one, holds nothing that matters and does not matter to its parent. -/
def Node.isHarmlessError (parent : Option Node) (node : Node) : Bool :=
  node.kind ≠ .error ||
    node.isQuietTree && parent.all fun parent => !parent.ordersChildren

/-!
# Harmless edits
-/

theorem Edit.harmless_unmark (roots : List Node) : Edit.unmark.Harmless roots where
  omits _ _ hdropped := by cases hdropped

theorem Node.idle_of_isHarmlessError {parent : Option Node} {node : Node}
    (h : node.everywhere isHarmlessError parent = true) (hkind : node.kind = .error) :
    node.Idle ∧ ∀ above, parent = some above → above.ordersChildren = false := by
  have hhere := ((everywhere_iff _ _ _).mp h).1
  simp only [isHarmlessError, hkind, ne_eq, not_true_eq_false, decide_false, Bool.false_or,
    Bool.and_eq_true] at hhere
  refine ⟨⟨by rw [hkind]; rfl, hhere.1⟩, ?_⟩
  rintro above rfl
  simpa using hhere.2

theorem Edit.harmless_removeErrors {roots : List Node}
    (hroots : ∀ root, root ∈ roots → root.everywhere Node.isHarmlessError none = true) :
    Edit.removeErrors.Harmless roots where
  omits h hchild hdropped := by
    rcases h.everywhere hroots with ⟨parent, hsite⟩
    have hkind := of_decide_eq_true hdropped
    have hharmless :=
      Node.idle_of_isHarmlessError (Site.everywhere_of_mem_children hsite hchild) hkind
    exact ⟨trivial, hharmless.2 _ rfl, hharmless.1⟩

namespace Program

variable {edit : Edit} {units : List SourceUnit} {number : Nat} {source : SourceUnit}

/-!
# Where usages are
-/

theorem reached_of_twins {site twin : Site} (hsource : units[number]? = some source)
    (h : edit.Twins (units.map (·.root)) site twin) (hunit : InUnit number site) :
    ∃ steps, Site.descend? ⟨[number], source.root⟩ steps = some site ∧
      ∀ above, above ∈ Site.ancestors ⟨[number], source.root⟩ steps ++ [site] →
        above = ⟨[number], source.root⟩ ∨ edit.drops above.node = false := by
  rcases h.reached with ⟨own, root, steps, hroot, hreached, habove⟩
  have hown : number = own := by
    rw [InUnit, Site.path_of_descend? hreached] at hunit
    rcases hunit with ⟨before, hbefore⟩
    exact (List.cons.inj (List.append_inj_right' hbefore rfl)).1
  subst hown
  rw [List.getElem?_map, hsource, Option.map_some] at hroot
  cases hroot
  exact ⟨steps, hreached, habove⟩

theorem located_of_mem_walk (h : edit.Harmless (units.map (·.root)))
    (hsource : units[number]? = some source)
    (hdeep : ((ofUnits units).walk number source).tooDeep = none) {reference : Reference}
    (hreference : reference ∈ ((ofUnits units).walk number source).references.toList) :
    ∃ node, Site.descend? ⟨[number], source.root⟩ reference.steps = some ⟨reference.path, node⟩ ∧
      reference.usage.location = node.locationIn source.path ∧
      ∀ above, above ∈ Site.ancestors ⟨[number], source.root⟩ reference.steps ++
          [⟨reference.path, node⟩] →
        above = ⟨[number], source.root⟩ ∨ edit.drops above.node = false := by
  have hwalk := alike_walk h hsource hdeep
  rcases exists_of_forall₂ hwalk.references hreference with ⟨_, halike⟩
  rcases halike.reported with ⟨site, twin, htwins, hpath, _, hlocation⟩
  rcases reached_of_twins hsource htwins.1 htwins.2 with ⟨steps, hreached, habove⟩
  have hsteps : reference.steps = steps := by
    rw [Reference.steps, hpath, Site.steps_of_descend? rfl hreached]
  rw [hsteps, hpath]
  exact ⟨site.node, hreached, hlocation, habove⟩

theorem references_of_idle (h : edit.Harmless (units.map (·.root))) (hidle : source.root.Idle)
    (hdeep : ((ofUnits units).walk number source).tooDeep = none) :
    ((ofUnits units).walk number source).references.toList = [] := by
  have hwalk : (ofUnits units).walk number source = { table := (ofUnits units).table } :=
    Mirror.walk_idle (m := mirror h number source) trivial _ hidle hdeep
  rw [hwalk]

/-- Errors are walked like nodes of no kind in particular.  If they hold nothing that matters, no
usage is located in one, and the program without them has the same usages. -/
theorem usages_around_errors (units : List SourceUnit) (number : Nat) (source : SourceUnit)
    (usages : List Usage) (hsource : units[number]? = some source)
    (husages : ((ofUnits units).usages number).1 = .ok usages) :
    ((ofEdited .unmark units).usages number).1 = .ok usages ∧
      ((∀ unit, unit ∈ units → unit.root.everywhere Node.isHarmlessError none = true) →
        let root : Site := ⟨[number], source.root⟩
        let references := ((ofUnits units).walk number source).references.toList
        usages = references.map Reference.usage ∧
          (∀ reference, reference ∈ references → ∃ node,
            root.descend? reference.steps = some ⟨reference.path, node⟩ ∧
              reference.usage.location = node.locationIn source.path ∧
              ∀ above, above ∈ root.ancestors reference.steps ++ [⟨reference.path, node⟩] →
                above.kind ≠ .error) ∧
          ((ofEdited .removeErrors units).usages number).1 = .ok usages) := by
  refine ⟨usages_ofEdited (Edit.harmless_unmark _) hsource husages, ?_⟩
  intro hharmless root references
  have hroots : ∀ root, root ∈ units.map (·.root) →
      root.everywhere Node.isHarmlessError none = true := by
    intro root hroot
    rcases List.mem_map.mp hroot with ⟨unit, hunit, rfl⟩
    exact hharmless unit hunit
  have hedit := Edit.harmless_removeErrors hroots
  have hunit : (ofUnits units).units[number]? = some source := hsource
  rcases (usages_eq_ok_iff hunit).mp husages with ⟨hdeep, hreferences⟩
  refine ⟨hreferences.symm, ?_, usages_ofEdited hedit hsource husages⟩
  intro reference hreference
  rcases located_of_mem_walk hedit hsource hdeep hreference with
    ⟨node, hreached, hlocation, habove⟩
  refine ⟨node, hreached, hlocation, ?_⟩
  intro above hmem herror
  rcases habove above hmem with hroot | hkept
  · rw [hroot] at herror
    have hidle := (Node.idle_of_isHarmlessError
      (hharmless source (List.mem_of_getElem? hsource)) herror).1
    have hempty : references = [] := references_of_idle hedit hidle hdeep
    rw [hempty] at hreference
    cases hreference
  · exact of_decide_eq_false hkept herror

end Program

def fieldAfter (errors : List Node) : SourceUnit where
  path := ⟨"A.java"⟩
  root := ⟨.other, true, none, 1, 1, 0, 18, "", [
    ⟨.classDeclaration, true, none, 1, 1, 0, 18, "", [
      ⟨.identifier, true, some .name, 1, 7, 6, 1, "A", []⟩,
      ⟨.classBody, true, some .body, 1, 9, 8, 10, "", errors ++ [
        ⟨.fieldDeclaration, true, none, 1, 13, 12, 4, "", [
          ⟨.typeIdentifier, true, some .type, 1, 13, 12, 1, "A", []⟩,
          ⟨.variableDeclarator, true, some .declarator, 1, 15, 14, 1, "a", [
            ⟨.identifier, true, some .name, 1, 15, 14, 1, "a", []⟩]⟩]⟩]⟩]⟩]⟩
  hasErrors := true

/-- The unit `class A { ) A a; }`, in which a bracket cannot be read. -/
def strayBracket : SourceUnit :=
  fieldAfter [⟨.error, true, none, 1, 11, 10, 1, ")", [
    ⟨.other, false, none, 1, 11, 10, 1, ")", []⟩]⟩]

/-- The type of the field is a usage with the bracket and without. -/
theorem strayBracket_skipped :
    let program := Program.ofUnits [strayBracket]
    let root : Site := ⟨[0], strayBracket.root⟩
    let usages : List Usage := [{
      shape := .identifier, name := "A", location := ⟨⟨"A.java"⟩, 1, 13, 12, 1⟩
      target := some 0 }]
    strayBracket.root.everywhere Node.isHarmlessError none = true ∧
      strayBracket.edited .removeErrors = fieldAfter [] ∧
      (program.usages 0).1 = .ok usages ∧
      ((Program.ofEdited .unmark [strayBracket]).usages 0).1 = .ok usages ∧
      ((Program.ofEdited .removeErrors [strayBracket]).usages 0).1 = .ok usages ∧
      ∀ reference, reference ∈ (program.walk 0 strayBracket).references.toList →
        ∀ above, above ∈ root.ancestors reference.steps → above.kind ≠ .error := by
  intro program root usages
  have hharmless : strayBracket.root.everywhere Node.isHarmlessError none = true := by decide
  have husages : (program.usages 0).1 = .ok usages :=
    (Program.usages_eq_ok_iff rfl).mpr ⟨by decide +kernel, by decide +kernel⟩
  have hshown := Program.usages_around_errors [strayBracket] 0 strayBracket usages rfl husages
  rcases hshown.2 (by simpa using hharmless) with ⟨_, hlocated, hremoved⟩
  refine ⟨hharmless, rfl, husages, hshown.1, hremoved, ?_⟩
  intro reference hreference above habove
  rcases hlocated reference hreference with ⟨node, _, _, hplaces⟩
  exact hplaces above (List.mem_append_left _ habove)

/-- The unit `enum E { A B }`, in which the second name cannot be read as a constant. -/
def missingComma : SourceUnit where
  path := ⟨"E.java"⟩
  root := ⟨.other, true, none, 1, 1, 0, 14, "", [
    ⟨.enumDeclaration, true, none, 1, 1, 0, 14, "", [
      ⟨.identifier, true, some .name, 1, 6, 5, 1, "E", []⟩,
      ⟨.other, true, some .body, 1, 8, 7, 7, "", [
        ⟨.enumConstant, true, none, 1, 10, 9, 1, "A", [
          ⟨.identifier, true, some .name, 1, 10, 9, 1, "A", []⟩]⟩,
        ⟨.error, true, none, 1, 12, 11, 1, "B", [
          ⟨.identifier, true, none, 1, 12, 11, 1, "B", []⟩]⟩]⟩]⟩]⟩
  hasErrors := true

/-- The name in the error is a usage, and there is none without the error. -/
theorem missingComma_reported :
    let program := Program.ofUnits [missingComma]
    let root : Site := ⟨[0], missingComma.root⟩
    let usage : Usage := {
      shape := .identifier, name := "B", location := ⟨⟨"E.java"⟩, 1, 12, 11, 1⟩ }
    (program.usages 0).1 = .ok [usage] ∧
      (root.descend? [0, 1, 1]).map Site.kind = some .error ∧
      (root.descend? [0, 1, 1, 0]).map (fun place => place.node.locationIn missingComma.path) =
        some usage.location ∧
      ((Program.ofEdited .removeErrors [missingComma]).usages 0).1 = .ok [] := by
  intro program root usage
  refine ⟨?_, rfl, rfl, ?_⟩
  · exact (Program.usages_eq_ok_iff rfl).mpr ⟨by decide +kernel, by decide +kernel⟩
  · exact (Program.usages_eq_ok_iff rfl).mpr ⟨by decide +kernel, by decide +kernel⟩

end RestrictedApi
