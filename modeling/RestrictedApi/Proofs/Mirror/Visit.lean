import RestrictedApi.Proofs.Mirror.Bindings

/-!
# Every walk has a mirror image

At every site, whatever its kind, the two walks do the same.  By induction on the number of levels
so does a visit, and so do the walks over a unit.
-/

namespace RestrictedApi

namespace Mirror

open Renumbering

variable {m : Mirror} {visit visit' : Visit} {site twin : Site}

theorem silent {step step' : Walker Unit} (hstep : m.Steps id step step') :
    m.Steps m.meaning (Walker.silent step) (Walker.silent step') :=
  hstep.bind fun _ => .pure Meaning.unknown

theorem step (hvisit : m.Visits visit visit') (h : m.twins site twin) :
    m.Steps m.meaning (Walker.step m.unit visit site)
      (Walker.step m.twinUnit visit' twin) := by
  have hchildren := silent (visitChildren hvisit h)
  unfold Walker.step
  rw [h.kind_eq]
  refine m.edit.kind_elim site.kind ?_ hchildren
  -- Where the order of the children matters, the kind says that nothing is left out.
  have hordered : ∀ {kind}, site.kind = kind → kind.ordersChildren = true →
      List.Forall₂ m.twins site.namedChildren twin.namedChildren := fun hkind horders =>
    h.namedChildren.ordered (Site.ordersChildren_of_kind (hkind ▸ horders))
  cases hkind : site.kind with
  | packageDeclaration => exact silent (.forM_all h.annotations (annotationUse hvisit ·))
  | importDeclaration =>
      refine silent ((h.find_kind NodeKind.isName rfl rfl).casesOn (fun hname => ?_) (.pure ()))
      exact (nameAt hname true).discard
  | moduleDeclaration | lineComment | blockComment | breakStatement | continueStatement =>
      exact .pure Meaning.unknown
  | classDeclaration | interfaceDeclaration | enumDeclaration | annotationTypeDeclaration
  | recordDeclaration => exact silent (typeDeclaration hvisit h)
  | fieldDeclaration | constantDeclaration => exact silent (fieldDeclaration hvisit h)
  | methodDeclaration | constructorDeclaration | compactConstructorDeclaration
  | annotationElementDeclaration => exact silent (methodDeclaration hvisit h)
  | enumConstant => exact silent (enumConstant hvisit h)
  | localVariableDeclaration => exact silent (localVariables hvisit h)
  | formalParameter | spreadParameter | catchFormalParameter =>
      exact silent (parameter hvisit h (hkind ▸ rfl))
  | variableDeclarator => exact silent (visitRole hvisit h .value).discard
  | block | constructorBody | staticInitializer | switchGroup | switchRule | forStatement
  | catchClause | tryWithResources => exact silent (inBlock (visitChildren hvisit h))
  | enhancedForStatement => exact silent (enhancedFor hvisit h (hkind ▸ rfl))
  | resource => exact silent (resource hvisit h (hkind ▸ rfl))
  | lambdaExpression => exact silent (lambda hvisit h)
  | labeledStatement =>
      exact silent (visitAll hvisit (.of_forall₂ (List.forall₂_drop 1 (hordered hkind rfl)))
        False.elim)
  | explicitConstructorInvocation => exact silent (constructorInvocation hvisit h)
  | typeIdentifier => exact typeIdentifier h
  | scopedTypeIdentifier => exact scopedType hvisit h (hkind ▸ rfl)
  | genericType => exact genericType hvisit h (hkind ▸ rfl)
  | typeParameter => exact silent (typeParameter hvisit h)
  | annotationMarker | annotationCall => exact silent (annotationUse hvisit h)
  | identifier => exact expressionName h
  | scopedIdentifier => exact nameAt h false
  | fieldAccess | methodInvocation => exact memberChain hvisit h
  | binaryExpression => exact silent (operatorChain hvisit h)
  | switchExpression => exact silent (switch hvisit h)
  | switchLabel => exact silent (switchLabel hvisit h)
  | objectCreation => exact objectCreation hvisit h
  | methodReference => exact silent (methodReference hvisit h (hkind ▸ rfl))
  | thisKeyword =>
      refine bind_get Walk.thisType? (fun _ => rfl) fun hthis => ?_
      rw [hthis, thisType_walk]
      exact pureType _
  | castExpression => exact cast hvisit h
  | parenthesizedExpression => exact visit? hvisit (head?_of_forall₂ (hordered hkind rfl))
  | ternaryExpression => exact conditional hvisit h
  | assignmentExpression => exact assignment hvisit h
  | instanceofExpression => exact silent (typeTest hvisit h)
  | typePattern | recordPatternComponent => exact silent (typePattern hvisit h (hkind ▸ rfl))
  | _ => exact hchildren

theorem passes_step (hvisit : ∀ {site : Site}, site.node.Idle → m.walks.Passes (visit site))
    (h : site.node.Idle) : m.walks.Passes (Walker.step m.unit visit site) := by
  have hchildren : m.walks.Passes (Walker.visitChildren visit site) :=
    .forM fun _ hchild => (hvisit (h.of_mem_namedChildren hchild)).discard
  have hsilent := hchildren.bind fun _ => .pure Meaning.unknown
  have hkind : site.kind.isUnknown = true := h.kind
  unfold Walker.step
  exact NodeKind.unknown_elim hkind hsilent hsilent

/-!
# Visits
-/

theorem tooDeep_mark (site : Site) (walk : Walk) :
    ((Walker.markTooDeep site).run walk).2.tooDeep ≠ none := by
  change (walk.tooDeep <|> some site.line) ≠ none
  cases walk.tooDeep <;> exact Option.some_ne_none _

theorem markTooDeep (h : m.twins site twin) :
    m.Steps id (Walker.markTooDeep site) (Walker.markTooDeep twin) := by
  have hline : twin.node.line = site.node.line := by rw [m.node h, Node.edited_eq]
  refine ⟨fun walk hend hlossy => ?_, fun {walk walk'} hwalk _ => ⟨rfl, { hwalk with scope := ?_ }⟩⟩
  · exact absurd (hend hlossy) (tooDeep_mark site walk)
  · have hdeep := congrArg (fun walk : Walk =>
      { walk with tooDeep := walk.tooDeep <|> some site.node.line }) hwalk.scope
    change { walk'.scope with tooDeep := walk'.tooDeep <|> some twin.node.line } = _
    rw [hline]
    exact hdeep

theorem visits_visit (m : Mirror) (levels : Nat) :
    m.Visits (Walker.visit m.unit levels) (Walker.visit m.twinUnit levels) := by
  induction levels with
  | zero =>
      constructor
      · exact fun h => (markTooDeep h).bind fun _ => .pure Meaning.unknown
      · intro site hlossy _
        exact ⟨fun walk hend => absurd (hend hlossy) (tooDeep_mark site walk)⟩
  | succ levels ih =>
      constructor
      · intro site twin h
        refine bind_get Walk.tooDeep (fun _ => rfl) fun {walk walk'} hdeep => ?_
        rw [hdeep]
        change m.Steps _ (if walk.tooDeep.isSome = true then _ else _)
          (if walk.tooDeep.isSome = true then _ else _)
        split
        · exact .pure Meaning.unknown
        · exact step ih h
      · intro site hlossy h
        refine .bind_get fun walk => ?_
        split
        · exact .pure Meaning.unknown
        · exact passes_step (ih.idle hlossy) h

theorem table_base {r : Renumbering} {table : SymbolTable}
    (htable : table.toList = r.base.toList ++ r.inserted) : r.table r.base = table := by
  have hlength : r.base.toList.length ≤ r.base.size := Nat.le_refl _
  unfold Renumbering.table
  rw [List.take_of_length_le hlength, List.drop_of_length_le hlength, List.map_nil,
    List.append_nil, ← htable]
  rfl

/-- The walks over a unit before and after the edit. -/
theorem alike_walk {table : SymbolTable}
    (htable : table.toList = m.base.toList ++ m.inserted) {root rootTwin : Node}
    (h : m.twins ⟨[m.unit.unit], root⟩ ⟨[m.unit.unit], rootTwin⟩)
    (hdeep : m.lossy → (m.unit.walk m.base root).tooDeep = none) :
    (m.unit.walk m.base root).Alike m (m.twinUnit.walk table rootTwin) := by
  have hscope : m.walk { table := m.base } = { table } := by
    rw [← table_base htable]
    simp [Renumbering.walk, Renumbering.block, Renumbering.parameters]
  have hstart : Walk.Alike m { table := m.base } { table } :=
    ⟨Nat.le_refl _, hscope ▸ rfl, .nil, .nil⟩
  exact (((m.visits_visit nestingLimit).twins h).run hstart hdeep).2

theorem walk_idle (hlossy : m.lossy) (table : SymbolTable) {root : Node} (h : root.Idle)
    (hdeep : (m.unit.walk table root).tooDeep = none) : m.unit.walk table root = { table } := by
  have hroot : (Site.mk [m.unit.unit] root).node.Idle := h
  exact ((m.visits_visit nestingLimit).idle hlossy hroot).run { table } fun _ => hdeep

end Mirror

end RestrictedApi
