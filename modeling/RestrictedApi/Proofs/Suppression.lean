import RestrictedApi.Proofs.History
import RestrictedApi.Proofs.Run.Visit
import RestrictedApi.Rule

/-!
# Silenced warnings are lexical

The warnings that a reference is reported with are those that the declarations around it silence, in
the order of the tree: outermost first, and nothing else.  The walk keeps them on a stack; that the
stack always agrees with the tree is an invariant of runs.

The parts of a declaration that the walk enters without visiting must not be declarations.  This
holds of every tree of the grammar and is the only assumption on the tree.
-/

namespace RestrictedApi

/-!
# Declarations around a site
-/

/-- A node that the walk enters directly is no declaration that silences warnings. -/
def Node.isPlainPart (parent : Option Node) (node : Node) : Bool :=
  !(node.enteredFrom parent && node.kind.silences)

namespace Site

def declarationsAbove (top : Site) (steps : List Nat) : List Site :=
  (top.ancestors steps).filter fun site => site.kind.silences

def warningsAbove (top : Site) (steps : List Nat) : List String :=
  (top.declarationsAbove steps).flatMap suppressedWarnings

def ownWarnings (site : Site) : List String :=
  if site.kind.silences then site.suppressedWarnings else []

theorem warningsAbove_cons {top child : Site} {i : Nat} (hchild : top.children[i]? = some child)
    (steps : List Nat) :
    top.warningsAbove (i :: steps) = top.ownWarnings ++ child.warningsAbove steps := by
  unfold warningsAbove declarationsAbove ownWarnings
  rw [ancestors_cons_of_child hchild, List.filter_cons]
  cases top.kind.silences with
  | true => rfl
  | false => rfl

end Site

/-!
# References

A reference that is made while the children of a site are walked is at a node below the site.
-/

def Node.locationIn (node : Node) (file : SourcePath) : Location where
  file := file
  line := node.line
  column := node.column
  offset := node.offset
  length := node.length

/-- A reference is located at the node reached from a site, and carries the warnings silenced
outside of the site and those of the declarations from the site on. -/
structure Reference.LiesBelow (unit : WalkedUnit) (site : Site) (outer : List String)
    (reference : Reference) (steps : List Nat) (found : Site) : Prop where
  reached : site.descend? steps = some found
  path : reference.path = found.path
  location : reference.usage.location = found.node.locationIn unit.file
  suppressions : reference.usage.suppressions = outer ++ site.warningsAbove steps

theorem Reference.liesBelow_of_child {unit : WalkedUnit} {site child : Site} {outer : List String}
    {reference : Reference} (hchild : child ∈ site.children)
    (hbelow : ∃ steps found,
      reference.LiesBelow unit child (outer ++ site.ownWarnings) steps found) :
    ∃ steps found, reference.LiesBelow unit site outer steps found := by
  rcases List.mem_iff_getElem?.mp hchild with ⟨i, hi⟩
  rcases hbelow with ⟨steps, found, hfound⟩
  refine ⟨i :: steps, found, ?_⟩
  exact
    { reached := by rw [Site.descend?_cons_of_child hi, hfound.reached]
      path := hfound.path
      location := hfound.location
      suppressions := by
        rw [hfound.suppressions, Site.warningsAbove_cons hi, List.append_assoc] }

namespace Place

def site : Place → Site
  | .whole _ site => site
  | .inside site => site

/-- The warnings that the site of a place silences there: it does so only on its children. -/
def ownWarnings : Place → List String
  | .whole _ _ => []
  | .inside site => site.ownWarnings

end Place

structure Walk.KeepsSuppressions (unit : WalkedUnit) (place : Place) (first second : Walk) :
    Prop where
  suppressions : second.suppressions = first.suppressions
  references : ∀ outer, first.silenced = outer ++ place.ownWarnings →
    ∀ reference, reference ∈ second.references →
      reference ∈ first.references ∨
        ∃ steps found, reference.LiesBelow unit place.site outer steps found

namespace Walk.KeepsSuppressions

variable {unit : WalkedUnit} {place : Place} {parent : Option Node} {site : Site}
variable {first second third : Walk}

theorem silenced (h : Walk.KeepsSuppressions unit place first second) :
    second.silenced = first.silenced := by
  rw [Walk.silenced, h.suppressions, Walk.silenced]

theorem of_same {first' second' : Walk} (h : Walk.KeepsSuppressions unit place first' second')
    (hfirst : first'.suppressions = first.suppressions)
    (hfirstReferences : first'.references = first.references)
    (hsecond : second.suppressions = second'.suppressions)
    (hsecondReferences : second.references = second'.references) :
    Walk.KeepsSuppressions unit place first second where
  suppressions := by rw [hsecond, h.suppressions, hfirst]
  references := by
    intro outer houter reference hreference
    have hsilenced : first'.silenced = first.silenced := by
      rw [Walk.silenced, hfirst, Walk.silenced]
    rw [hsecondReferences] at hreference
    rw [← hfirstReferences]
    exact h.references outer (by rw [hsilenced, houter]) reference hreference

theorem refl (walk : Walk) : Walk.KeepsSuppressions unit place walk walk where
  suppressions := rfl
  references := fun _ _ _ hreference => Or.inl hreference

theorem trans (h : Walk.KeepsSuppressions unit place first second)
    (h' : Walk.KeepsSuppressions unit place second third) :
    Walk.KeepsSuppressions unit place first third where
  suppressions := by rw [h'.suppressions, h.suppressions]
  references := by
    intro outer houter reference hreference
    rcases h'.references outer (by rw [h.silenced, houter]) reference hreference with hold | hnew
    · exact h.references outer houter reference hold
    · exact Or.inr hnew

theorem child {child : Site} (hchild : child ∈ site.children)
    (h : Walk.KeepsSuppressions unit (.whole (some site.node) child) first second) :
    Walk.KeepsSuppressions unit (.inside site) first second where
  suppressions := h.suppressions
  references := by
    intro outer houter reference hreference
    have hsilenced : first.silenced = (outer ++ site.ownWarnings) ++ [] := by
      rw [List.append_nil]
      exact houter
    rcases h.references _ hsilenced reference hreference with hold | hnew
    · exact Or.inl hold
    · exact Or.inr (Reference.liesBelow_of_child hchild hnew)

theorem enter (hkind : site.kind.silences = false)
    (h : Walk.KeepsSuppressions unit (.inside site) first second) :
    Walk.KeepsSuppressions unit (.whole parent site) first second where
  suppressions := h.suppressions
  references := by
    intro outer houter
    have hown : (Place.inside site).ownWarnings = [] := by
      rw [Place.ownWarnings, Site.ownWarnings, hkind]
      rfl
    exact h.references outer (by rw [hown]; exact houter)

theorem declaration (hkind : site.kind.silences = true)
    (h : Walk.KeepsSuppressions unit (.inside site)
      { first with
        suppressions := (first.silenced ++ site.suppressedWarnings) :: first.suppressions }
      second) :
    Walk.KeepsSuppressions unit (.whole parent site) first
      { second with suppressions := second.suppressions.tail } where
  suppressions := by
    change second.suppressions.tail = first.suppressions
    rw [h.suppressions]
    rfl
  references := by
    intro outer houter
    have hown : (Place.inside site).ownWarnings = site.suppressedWarnings := by
      rw [Place.ownWarnings, Site.ownWarnings, hkind]
      rfl
    apply h.references outer
    change first.silenced ++ site.suppressedWarnings = _
    rw [hown, houter, Place.ownWarnings, List.append_nil]

theorem report {walk : Walk} (shape : UsageShape) (name : String) (target : Option SymbolId)
    (inImport : Bool) :
    Walk.KeepsSuppressions unit (.whole parent site) walk
      ((Walker.report unit site shape name target inImport).run walk).2 := by
  change Walk.KeepsSuppressions unit _ walk (if walk.muted > 0 then walk else _)
  by_cases hmuted : walk.muted > 0
  · rw [if_pos hmuted]
    exact refl walk
  · rw [if_neg hmuted]
    refine { suppressions := rfl, references := ?_ }
    intro outer houter reference hreference
    rcases Array.mem_push.mp hreference with hold | hnew
    · exact Or.inl hold
    · refine Or.inr ⟨[], site, ?_⟩
      rw [hnew]
      exact
        { reached := rfl
          path := rfl
          location := rfl
          suppressions := houter }

end Walk.KeepsSuppressions

/-- The invariant of runs: what is silenced agrees with the tree. -/
theorem Run.keepsSuppressions {unit : WalkedUnit} {place : Place} {first second : Walk}
    (hrun : Run unit Walk.MeetsLimit place first second)
    (hplain : place.Everywhere Node.isPlainPart) :
    Walk.KeepsSuppressions unit place first second := by
  induction hrun with
  | refl place walk => exact Walk.KeepsSuppressions.refl walk
  | trans _ _ ih ih' => exact Walk.KeepsSuppressions.trans (ih hplain) (ih' hplain)
  | child hchild _ ih =>
      exact Walk.KeepsSuppressions.child hchild (ih (hplain _ hchild))
  | @enter parent site _ _ hdirect _ ih =>
      -- Nothing is silenced for a site that is entered directly, so it must not be a declaration.
      have htest := ((Node.everywhere_iff _ _ _).mp hplain).1
      have hkind : site.kind.silences = false := by
        cases hsilences : site.kind.silences with
        | false => rfl
        | true =>
            have henters := hdirect hsilences
            rw [Site.kind] at hsilences
            simp [Node.isPlainPart, henters, hsilences] at htest
      exact Walk.KeepsSuppressions.enter hkind (ih (Place.everywhere_inside hplain))
  | declaration hkind _ ih =>
      exact Walk.KeepsSuppressions.declaration hkind (ih (Place.everywhere_inside hplain))
  | within _ _ ih | inSwitch _ _ ih | unheard _ ih => exact (ih hplain).of_same rfl rfl rfl rfl
  | inBlock hopens _ ih =>
      rcases hopens.eq with ⟨block, table, rfl⟩
      exact (ih hplain).of_same rfl rfl rfl rfl
  | report inImport _ => exact Walk.KeepsSuppressions.report _ _ _ inImport
  | declare =>
      exact (Walk.KeepsSuppressions.refl _).of_same rfl rfl
        (Walk.modifyBlock_suppressions _ _) (Walk.modifyBlock_references _ _)
  | visit hmeets =>
      rcases hmeets with rfl
      exact (Walk.KeepsSuppressions.refl _).of_same rfl rfl rfl rfl

/-!
# Usages of a program
-/

def Reference.steps (reference : Reference) : List Nat :=
  reference.path.dropLast.reverse

/-- One of the declarations above a site silences one of the words, or everything. -/
def Site.silencedAbove (top : Site) (steps : List Nat) (words : List String) : Bool :=
  (top.declarationsAbove steps).any fun declaration =>
    declaration.suppressedWarnings.any fun warning => warning == "all" || words.contains warning

theorem Site.any_warningsAbove (top : Site) (steps : List Nat) (words : List String) :
    ((top.warningsAbove steps).any fun warning => warning == "all" || words.contains warning) =
      top.silencedAbove steps words := by
  rw [Site.warningsAbove, List.any_flatMap]
  rfl

theorem SourceUnit.liesBelow_of_mem_walk {program : Program} {number : Nat} {source : SourceUnit}
    (hplain : source.root.everywhere Node.isPlainPart none = true) {reference : Reference}
    (hreference : reference ∈ (program.walk number source).references) :
    ∃ found, reference.LiesBelow (program.walkedUnit number source) ⟨[number], source.root⟩ []
      reference.steps found := by
  have hrun := (program.walkedUnit number source).run_walk program.table source.root
  have hkeeps := hrun.keepsSuppressions hplain
  rcases hkeeps.references [] rfl reference hreference with hold | ⟨steps, found, hfound⟩
  · cases Array.not_mem_empty reference hold
  · have hsteps : reference.steps = steps := by
      rw [Reference.steps, hfound.path, Site.steps_of_descend? rfl hfound.reached]
    rw [hsteps]
    exact ⟨found, hfound⟩

/-- The silenced warnings of a usage are those of the declarations above its node, so a rule reports
the usages that match and that no such declaration silences it for. -/
theorem Program.usages_silenced_lexically (program : Program) (number : Nat) (source : SourceUnit)
    (usages : List Usage) (hsource : program.units[number]? = some source)
    (hplain : source.root.everywhere Node.isPlainPart none = true)
    (husages : (program.usages number).1 = .ok usages) :
    let root : Site := ⟨[number], source.root⟩
    let references := (program.walk number source).references.toList
    usages = references.map Reference.usage ∧
      (∀ reference, reference ∈ references → ∃ node,
        root.descend? reference.steps = some ⟨reference.path, node⟩ ∧
          reference.usage.location = node.locationIn source.path ∧
          reference.usage.suppressions = root.warningsAbove reference.steps) ∧
      ∀ (rule : ApiRule) (table : SymbolTable),
        rule.toUsageRule.check table usages =
          (references.filter fun reference =>
            !root.silencedAbove reference.steps rule.info.suppressionKeys &&
              rule.restriction.matchesUsage table reference.usage).map
            fun reference => rule.info.violation reference.usage := by
  intro root references
  have hbelow : ∀ reference, reference ∈ references → ∃ found,
      reference.LiesBelow (program.walkedUnit number source) root [] reference.steps found :=
    fun _ hreference => SourceUnit.liesBelow_of_mem_walk hplain (Array.mem_toList_iff.mp hreference)
  have hreferences : usages = references.map Reference.usage :=
    ((usages_eq_ok_iff hsource).mp husages).2.symm
  refine ⟨hreferences, ?_, ?_⟩
  · intro reference hreference
    rcases hbelow reference hreference with ⟨found, hfound⟩
    refine ⟨found.node, ?_, hfound.location, hfound.suppressions⟩
    rw [hfound.path]
    exact hfound.reached
  · intro rule table
    rw [hreferences, UsageRule.check, List.filter_map, List.map_map]
    congr 1
    apply List.filter_congr
    intro reference hreference
    rcases hbelow reference hreference with ⟨found, hfound⟩
    change (!reference.usage.isSuppressedFor rule.info.suppressionKeys &&
      rule.restriction.matchesUsage table reference.usage) = _
    rw [Usage.isSuppressedFor, hfound.suppressions, List.nil_append, Site.any_warningsAbove]

def recursiveClass (modifiers : List Node) : Node where
  kind := .classDeclaration
  named := true
  role := none
  line := 1
  column := 1
  offset := 0
  length := 41
  text := ""
  children := modifiers ++
    [⟨.identifier, true, some .name, 1, 32, 31, 1, "A", []⟩,
      ⟨.classBody, true, some .body, 1, 34, 33, 8, "", [
        ⟨.fieldDeclaration, true, none, 1, 36, 35, 4, "", [
          ⟨.typeIdentifier, true, some .type, 1, 36, 35, 1, "A", []⟩,
          ⟨.variableDeclarator, true, some .declarator, 1, 38, 37, 1, "", [
            ⟨.identifier, true, some .name, 1, 38, 37, 1, "a", []⟩]⟩]⟩]⟩]

/-- Two such classes, the first of which silences a warning. -/
def partlySilenced : SourceUnit where
  path := ⟨"A.java"⟩
  root := ⟨.other, true, none, 1, 1, 0, 82, "", [
    recursiveClass [
      ⟨.modifiers, true, none, 1, 1, 0, 25, "", [
        ⟨.annotationCall, true, none, 1, 1, 0, 25, "", [
          ⟨.identifier, true, some .name, 1, 2, 1, 16, "SuppressWarnings", []⟩,
          ⟨.other, true, some .arguments, 1, 18, 17, 8, "", [
            ⟨.stringLiteral, true, none, 1, 19, 18, 6, "\"beta\"", []⟩]⟩]⟩]⟩],
    recursiveClass []]⟩

def partlySilencedUsages : List Usage :=
  [{ shape := .identifier, name := "SuppressWarnings", location := ⟨⟨"A.java"⟩, 1, 2, 1, 16⟩
     suppressions := ["beta"] },
    { shape := .identifier, name := "A", location := ⟨⟨"A.java"⟩, 1, 36, 35, 1⟩, target := some 3
      suppressions := ["beta"] },
    { shape := .identifier, name := "A", location := ⟨⟨"A.java"⟩, 1, 36, 35, 1⟩, target := some 3 }]

theorem partlySilenced_check :
    let program := Program.ofUnits [partlySilenced]
    let root : Site := ⟨[0], partlySilenced.root⟩
    partlySilenced.root.everywhere Node.isPlainPart none = true ∧
      (program.usages 0).1 = .ok partlySilencedUsages ∧
      ∀ (rule : ApiRule) (table : SymbolTable),
        rule.toUsageRule.check table partlySilencedUsages =
          ((program.walk 0 partlySilenced).references.toList.filter fun reference =>
            !root.silencedAbove reference.steps rule.info.suppressionKeys &&
              rule.restriction.matchesUsage table reference.usage).map
            fun reference => rule.info.violation reference.usage := by
  intro program root
  have hplain : partlySilenced.root.everywhere Node.isPlainPart none = true := by decide
  have husages : (program.usages 0).1 = .ok partlySilencedUsages :=
    (Program.usages_eq_ok_iff rfl).mpr ⟨by decide +kernel, by decide +kernel⟩
  exact ⟨hplain, husages,
    (Program.usages_silenced_lexically program 0 partlySilenced _ rfl hplain husages).2.2⟩

end RestrictedApi
