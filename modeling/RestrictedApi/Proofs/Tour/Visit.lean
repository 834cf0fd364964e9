import RestrictedApi.Extraction
import RestrictedApi.Proofs.Tour.Bindings

/-!
# Every walk is a tour

A step at a site that may be visited, whatever its kind, is a tour of the site.  By induction on the
number of levels, so is a visit, and so is the walk over a unit, for every shape that its tree has.
-/

namespace RestrictedApi
namespace Tours

variable {unit : WalkedUnit} {shape : Shape} {visit : Visit} {parent : Option Site} {site : Site}

theorem silent {stop : Stop} {step : Walker Unit} (hstep : Tours unit shape false stop step) :
    Tours unit shape false stop (Walker.silent step) :=
  Tours.map hstep fun _ => Meaning.unknown

theorem packageDeclaration (hvisit : TouringVisit unit shape visit)
    (hsite : site.Visitable shape parent) (hkind : site.kind = .packageDeclaration) :
    Tours unit shape false (.whole parent site)
      (site.annotations.forM (Walker.annotationUse unit visit)) := by
  have hplain : site.kind.isPlain = true := by
    rw [hkind]
    rfl
  rw [Site.annotations, if_pos hkind]
  refine Tours.enter (Tours.forSites fun use huse => ?_) (site.nodup_namedChildren.filter _) hplain
    hsite.body
  have hparts := List.mem_filter.mp huse
  have hmay := hsite.grammatical.mayVisit_of_visitsAll (NodeKind.visitsAll_of_isPlain hplain)
    (Site.mem_children_of_mem_namedChildren hparts.1)
  exact Tours.part hmay
    (Tours.annotationUse hvisit hmay.visitable hparts.2)

theorem importDeclaration (hsite : site.Visitable shape parent)
    (hkind : site.kind = .importDeclaration) :
    Tours unit shape false (.whole parent site)
      (match site.namedChildren.find? fun child => child.kind.isName with
      | none => Pure.pure ()
      | some name => Functor.discard (Walker.nameAt unit true name)) := by
  cases hfound : site.namedChildren.find? fun child => child.kind.isName with
  | none => exact Tours.pure _
  | some name =>
      have hname : name.kind.isName = true := by
        simpa using List.find?_some hfound
      have hmay := hsite.grammatical.mayVisit_of_visitsAll (by rw [hkind]; rfl)
        (Site.mem_children_of_mem_namedChildren (List.mem_of_find?_eq_some hfound))
      have hblock : site.opensBlock parent = false := by
        rw [Site.opensBlock, hsite.body, hkind]
        rfl
      intro walk
      refine Tour.enterImport hblock hkind (fun _ => List.nodup_singleton name) ?_
      exact Tour.child hmay.mem hmay.undeclared
        (Tours.discard (Tours.nameAt true hmay.visitable hname) walk)

theorem blockStatements (hvisit : TouringVisit unit shape visit)
    (hsite : site.Visitable shape parent)
    (hall : site.kind.visitsAll = true) (hopens : site.kind.opensBlock = true) :
    Tours unit shape false (.whole parent site)
      (Walker.inBlock (Walker.visitChildren visit site)) := by
  have hchildren := Tours.visitChildren hvisit hsite.grammatical hall
  refine hchildren.inBlock site.nodup_namedChildren (Site.opensBlock_of_kind hopens) ?_
  intro himport
  rw [himport] at hopens
  cases hopens

theorem declarator (hvisit : TouringVisit unit shape visit) (hsite : site.Visitable shape parent)
    (hkind : site.kind = .variableDeclarator) :
    Tours unit shape false (.whole parent site) (Walker.visit? visit (site.child? .value)) := by
  refine Tours.enterNode (Tours.visit? hvisit fun value hvalue => ?_) ?_ (by rw [hkind]; rfl)
    hsite.body
  · exact hsite.grammatical.mayVisit_of_ne_name (by rw [hkind]; rfl) (by rw [hkind]; decide)
      (by decide) hvalue
  · cases site.child? .value <;> simp

-- Inferred parameters are visited only where the grammar has none.
theorem strayParameters (hvisit : TouringVisit unit shape visit)
    (hsite : site.Visitable shape parent) (hkind : site.kind = .inferredParameters) :
    Tours unit shape false (.whole parent site) (Walker.visitChildren visit site) := by
  refine Tours.enterNode (Tours.visitAll hvisit fun child hchild => ?_) site.nodup_namedChildren
    (by rw [hkind]; rfl) hsite.body
  exact hsite.grammatical.mayVisit (Site.mem_children_of_mem_namedChildren hchild)
    (by rw [hkind]; decide) fun hshape => absurd hkind (hsite.kind hshape)

theorem step (hvisit : TouringVisit unit shape visit) (hsite : site.Visitable shape parent) :
    Tours unit shape false (.whole parent site) (Walker.step unit visit site) := by
  have hgrammar := hsite.grammatical
  have henter : ∀ {parts : List Site} {step : Walker Meaning}, site.kind.isPlain = true →
      parts.Nodup → Tours unit shape false (.inside site parts) step →
        Tours unit shape false (.whole parent site) step :=
    fun hplain hparts hstep => Tours.enter hstep hparts hplain hsite.body
  unfold Walker.step
  cases hkind : site.kind with
  | packageDeclaration => exact Tours.silent (Tours.packageDeclaration hvisit hsite hkind)
  | importDeclaration => exact Tours.silent (Tours.importDeclaration hsite hkind)
  | moduleDeclaration | lineComment | blockComment | breakStatement | continueStatement =>
      exact Tours.pure _
  | classDeclaration | interfaceDeclaration | enumDeclaration | annotationTypeDeclaration
  | recordDeclaration =>
      exact Tours.silent (Tours.typeDeclaration hvisit hsite (by rw [hkind]; rfl))
  | fieldDeclaration | constantDeclaration =>
      exact Tours.silent (Tours.fieldDeclaration hvisit hsite (by rw [hkind]; rfl))
  | methodDeclaration | constructorDeclaration | compactConstructorDeclaration
  | annotationElementDeclaration =>
      exact Tours.silent (Tours.methodDeclaration hvisit hsite (by rw [hkind]; rfl))
  | enumConstant => exact Tours.silent (Tours.enumConstant hvisit hsite hkind)
  | localVariableDeclaration => exact Tours.silent (Tours.localVariables hvisit hsite hkind)
  | formalParameter | spreadParameter | catchFormalParameter =>
      exact Tours.silent (Tours.parameter hvisit hsite (by rw [hkind]; rfl))
  | variableDeclarator =>
      exact Tours.silent (Tours.discard (Tours.declarator hvisit hsite hkind))
  | block | constructorBody | staticInitializer | switchGroup | switchRule | forStatement
  | catchClause | tryWithResources =>
      exact Tours.silent
        (Tours.blockStatements hvisit hsite (by rw [hkind]; rfl) (by rw [hkind]; rfl))
  | enhancedForStatement => exact Tours.silent (Tours.enhancedFor hvisit hsite hkind)
  | resource => exact Tours.silent (Tours.resource hvisit hsite hkind)
  | lambdaExpression => exact Tours.silent (Tours.lambda hvisit hsite hkind)
  | labeledStatement => exact Tours.silent (Tours.labeledStatement hvisit hsite hkind)
  | explicitConstructorInvocation =>
      exact Tours.silent (Tours.constructorInvocation hvisit hsite hkind)
  | typeIdentifier => exact Tours.typeIdentifier
  | scopedTypeIdentifier => exact Tours.scopedType hvisit site.node hsite hkind
  | genericType =>
      exact henter (by rw [hkind]; rfl) site.nodup_namedChildren
        ((Tours.visitNamed hvisit hgrammar (by rw [hkind]; rfl)).map _)
  | typeParameter => exact Tours.silent (Tours.typeParameter hvisit hsite hkind)
  | annotationMarker | annotationCall =>
      exact Tours.silent (Tours.annotationUse hvisit hsite (by rw [hkind]; rfl))
  | identifier => exact Tours.expressionName hkind
  | scopedIdentifier => exact Tours.nameAt false hsite (by rw [hkind]; rfl)
  | fieldAccess | methodInvocation =>
      exact Tours.memberChain hvisit hsite (by rw [hkind]; rfl)
  | binaryExpression => exact Tours.silent (Tours.operatorChain hvisit hsite (by rw [hkind]; rfl))
  | switchExpression =>
      exact henter (by rw [hkind]; rfl) (site.nodup_pair (by decide))
        (Tours.silent (Tours.switch hvisit hgrammar (by rw [hkind]; rfl)))
  | switchLabel =>
      exact henter (by rw [hkind]; rfl) site.nodup_namedChildren
        (Tours.silent (Tours.switchLabel hvisit hgrammar (by rw [hkind]; rfl)))
  | objectCreation => exact Tours.objectCreation hvisit hsite hkind
  | methodReference => exact Tours.silent (Tours.methodReference hvisit hsite hkind)
  | thisKeyword => exact fun walk => Tour.refl _ _ walk
  | castExpression =>
      exact henter (by rw [hkind]; rfl) (site.nodup_pair (by decide))
        (Tours.cast hvisit hgrammar (by rw [hkind]; rfl))
  | parenthesizedExpression =>
      refine henter (by rw [hkind]; rfl) ?_ (Tours.visit? hvisit fun found hfound => ?_)
      · cases site.namedChildren.head? <;> simp
      · exact hgrammar.mayVisit_of_visitsAll (by rw [hkind]; rfl)
          (Site.mem_children_of_mem_namedChildren (List.mem_of_head? hfound))
  | ternaryExpression =>
      exact henter (by rw [hkind]; rfl) site.nodup_namedChildren
        ((Tours.visitNamed hvisit hgrammar (by rw [hkind]; rfl)).map _)
  | assignmentExpression =>
      exact henter (by rw [hkind]; rfl) (site.nodup_pair (by decide))
        (Tours.assignment hvisit hgrammar (by rw [hkind]; rfl))
  | instanceofExpression => exact Tours.silent (Tours.typeTest hvisit hsite hkind)
  | typePattern => exact Tours.silent (Tours.typePattern hvisit hsite (Or.inl hkind))
  | recordPatternComponent => exact Tours.silent (Tours.typePattern hvisit hsite (Or.inr hkind))
  | inferredParameters => exact Tours.silent (Tours.strayParameters hvisit hsite hkind)
  | _ =>
      exact henter (by rw [hkind]; rfl) site.nodup_namedChildren
        (Tours.silent (Tours.visitChildren hvisit hgrammar (by rw [hkind]; rfl)))

theorem touringVisit (unit : WalkedUnit) (levels : Nat) :
    TouringVisit unit shape (Walker.visit unit levels) := by
  induction levels with
  | zero =>
      intro parent site _ walk
      exact Tour.aside ⟨rfl, rfl, rfl, rfl⟩ (Tour.refl _ _ walk) ⟨rfl, rfl, rfl, rfl⟩
  | succ levels ih =>
      intro parent site hsite
      apply Tours.bind_get
      intro walk
      split
      · exact Tour.refl _ _ walk
      · exact Tours.step ih hsite walk

end Tours

theorem WalkedUnit.tour_walk (unit : WalkedUnit) (table : SymbolTable) {shape : Shape} {root : Node}
    (hroot : Site.Grammatical shape none ⟨[unit.unit], root⟩) :
    Tour unit shape false (.whole none ⟨[unit.unit], root⟩) { table } (unit.walk table root) :=
  Tours.touringVisit unit nestingLimit none _
    ⟨hroot, hroot.root_ne_inferredParameters, rfl⟩ { table }

end RestrictedApi
