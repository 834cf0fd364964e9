import RestrictedApi.Extraction
import RestrictedApi.Proofs.Run.Bindings

/-!
# Every walk is a run

A step at a site, whatever its kind, is a run on the site.  By induction on the number of levels, so
is a visit, and so is the walk over a unit.
-/

namespace RestrictedApi
namespace Runs

variable {unit : WalkedUnit} {visited : Site → Walk → Walk → Prop} {visit : Visit}
  {parent : Option Node} {site : Site}

theorem silent {place : Place} {step : Walker Unit} (hstep : Runs unit visited place step) :
    Runs unit visited place (Walker.silent step) :=
  Runs.bind hstep fun _ => Runs.pure _

theorem packageDeclaration (hvisit : SoundVisit unit visited visit)
    (hkind : site.kind = .packageDeclaration) :
    Runs unit visited (.inside site) (site.annotations.forM (Walker.annotationUse unit visit)) := by
  apply Runs.forM
  intro use huse
  rw [Site.annotations, if_pos hkind] at huse
  have hparts := List.mem_filter.mp huse
  exact Runs.child (Site.mem_children_of_mem_namedChildren hparts.1)
    (Runs.annotationUse hvisit hparts.2)

theorem nameAt_of_isName (inImport : Bool) (hkind : site.kind.isName = true) :
    Runs unit visited (.whole parent site) (Walker.nameAt unit inImport site) := by
  have hkinds := NodeKind.eq_of_isName hkind
  apply Runs.nameAt inImport
  · intro h
    rcases hkinds with hkind | hkind <;> rw [hkind] at h <;> cases h
  · apply Node.holdsDottedName_eq_false
    rcases hkinds with hkind | hkind <;> rw [← Site.kind, hkind] <;> rfl

theorem importDeclaration :
    Runs unit visited (.inside site)
      (match site.namedChildren.find? fun child => child.kind.isName with
      | none => Pure.pure ()
      | some name => Functor.discard (Walker.nameAt unit true name)) := by
  cases hname : site.namedChildren.find? fun child => child.kind.isName with
  | none => exact Runs.pure _
  | some name =>
      apply Runs.discard
      apply Runs.child (Site.mem_children_of_mem_namedChildren (List.mem_of_find?_eq_some hname))
      apply Runs.nameAt_of_isName true
      simpa using List.find?_some hname

/-- What happens at a site is a run on it.  Simple names are reported themselves; all other
references are inside the site. -/
theorem step (hvisit : SoundVisit unit visited visit) :
    Runs unit visited (.whole parent site) (Walker.step unit visit site) := by
  have hbelow : ∀ {step : Walker Meaning}, site.kind.silences = false →
      Runs unit visited (.inside site) step → Runs unit visited (.whole parent site) step :=
    fun hkind hstep => Runs.plain hkind hstep
  unfold Walker.step
  cases hkind : site.kind with
  | packageDeclaration =>
      exact hbelow (by rw [hkind]; rfl) (Runs.silent (Runs.packageDeclaration hvisit hkind))
  | importDeclaration =>
      exact hbelow (by rw [hkind]; rfl) (Runs.silent Runs.importDeclaration)
  | moduleDeclaration | lineComment | blockComment | breakStatement | continueStatement =>
      exact Runs.pure _
  | classDeclaration | interfaceDeclaration | enumDeclaration | annotationTypeDeclaration
  | recordDeclaration =>
      exact Runs.silent (Runs.typeDeclaration hvisit (by rw [hkind]; rfl))
  | fieldDeclaration | constantDeclaration =>
      exact Runs.silent (Runs.fieldDeclaration hvisit (by rw [hkind]; rfl))
  | methodDeclaration | constructorDeclaration | compactConstructorDeclaration
  | annotationElementDeclaration =>
      exact Runs.silent (Runs.methodDeclaration hvisit (by rw [hkind]; rfl))
  | enumConstant => exact Runs.silent (Runs.enumConstant hvisit hkind)
  | localVariableDeclaration => exact Runs.silent (Runs.localVariables hvisit hkind)
  | formalParameter | spreadParameter | catchFormalParameter =>
      exact hbelow (by rw [hkind]; rfl) (Runs.silent (Runs.parameter hvisit))
  | variableDeclarator =>
      exact hbelow (by rw [hkind]; rfl)
        (Runs.silent (Runs.discard (Runs.visitRole hvisit .value)))
  | block | constructorBody | staticInitializer | switchGroup | switchRule | forStatement
  | catchClause | tryWithResources =>
      exact hbelow (by rw [hkind]; rfl)
        (Runs.silent (Runs.inBlock (Runs.visitChildren hvisit)))
  | enhancedForStatement =>
      exact hbelow (by rw [hkind]; rfl) (Runs.silent (Runs.enhancedFor hvisit))
  | resource => exact hbelow (by rw [hkind]; rfl) (Runs.silent (Runs.resource hvisit))
  | lambdaExpression =>
      exact hbelow (by rw [hkind]; rfl) (Runs.silent (Runs.lambda hvisit hkind))
  | labeledStatement =>
      apply hbelow (by rw [hkind]; rfl)
      apply Runs.silent
      exact Runs.visitAll hvisit fun child hchild =>
        Site.mem_children_of_mem_namedChildren (List.mem_of_mem_drop hchild)
  | explicitConstructorInvocation =>
      exact hbelow (by rw [hkind]; rfl) (Runs.silent (Runs.constructorInvocation hvisit hkind))
  | typeIdentifier => exact Runs.typeIdentifier
  | scopedTypeIdentifier => exact Runs.scopedType hvisit site.node hkind
  | genericType => exact hbelow (by rw [hkind]; rfl) (Runs.genericType hvisit)
  | typeParameter => exact hbelow (by rw [hkind]; rfl) (Runs.silent (Runs.typeParameter hvisit))
  | annotationMarker | annotationCall =>
      exact Runs.silent (Runs.annotationUse hvisit (by rw [hkind]; rfl))
  | identifier => exact Runs.expressionName hkind
  | scopedIdentifier => exact Runs.nameAt_of_isName false (by rw [hkind]; rfl)
  | fieldAccess | methodInvocation =>
      exact hbelow (by rw [hkind]; rfl) (Runs.memberChain hvisit)
  | binaryExpression =>
      exact hbelow (by rw [hkind]; rfl) (Runs.silent (Runs.operatorChain hvisit))
  | switchExpression => exact hbelow (by rw [hkind]; rfl) (Runs.silent (Runs.switch hvisit))
  | switchLabel => exact hbelow (by rw [hkind]; rfl) (Runs.silent (Runs.switchLabel hvisit))
  | objectCreation => exact hbelow (by rw [hkind]; rfl) (Runs.objectCreation hvisit hkind)
  | methodReference =>
      exact hbelow (by rw [hkind]; rfl) (Runs.silent (Runs.methodReference hvisit))
  | thisKeyword => exact fun walk => Run.refl _ walk
  | castExpression => exact hbelow (by rw [hkind]; rfl) (Runs.cast hvisit)
  | parenthesizedExpression =>
      apply hbelow (by rw [hkind]; rfl)
      apply Runs.visit? hvisit
      intro found hfound
      exact Site.mem_children_of_mem_namedChildren (List.mem_of_head? hfound)
  | ternaryExpression => exact hbelow (by rw [hkind]; rfl) (Runs.conditional hvisit)
  | assignmentExpression => exact hbelow (by rw [hkind]; rfl) (Runs.assignment hvisit)
  | instanceofExpression =>
      exact hbelow (by rw [hkind]; rfl) (Runs.silent (Runs.typeTest hvisit))
  | typePattern | recordPatternComponent =>
      exact hbelow (by rw [hkind]; rfl) (Runs.silent (Runs.typePattern hvisit))
  | _ => exact hbelow (by rw [hkind]; rfl) (Runs.silent (Runs.visitChildren hvisit))

end Runs

/-- All that a walk does where it meets the limit of levels. -/
def Walk.MeetsLimit (site : Site) (first second : Walk) : Prop :=
  second = { first with tooDeep := first.tooDeep <|> some site.line }

theorem Runs.soundVisit (unit : WalkedUnit) (levels : Nat) :
    SoundVisit unit Walk.MeetsLimit (Walker.visit unit levels) := by
  induction levels with
  | zero =>
      intro parent site walk
      exact Run.visit rfl
  | succ levels ih =>
      intro parent site
      apply Runs.bind_get
      intro walk
      split
      · exact Run.refl _ walk
      · exact Runs.step ih walk

theorem WalkedUnit.run_walk (unit : WalkedUnit) (table : SymbolTable) (root : Node) :
    Run unit Walk.MeetsLimit (.whole none ⟨[unit.unit], root⟩) { table } (unit.walk table root) :=
  Runs.soundVisit unit nestingLimit _ _ _

end RestrictedApi
