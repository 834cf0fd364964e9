import RestrictedApi.Proofs.Conserved
import RestrictedApi.Proofs.Grammar
import RestrictedApi.Proofs.Suppression

/-!
# Qualifiers of method references

What stands before the `::` of a method reference is walked without being heard if it is a name, and
like any other expression if it is not.  Which of the two is decided by its kind, before it is known
what it denotes: a name that denotes a value is hidden as well, with all the references inside it.

A walk that is not heard reports nothing, and what a walk does report is below the node that it
starts from, so the references of a qualifier can be told from those of the rest.
-/

namespace RestrictedApi

/-!
# Walks that are not heard
-/

/-- The second state is as silent as the first one; if the first is silent, nothing is reported. -/
structure Walk.StaysUnheard (first second : Walk) : Prop where
  muted : second.muted = first.muted
  references : 0 < first.muted → second.references = first.references

namespace Walk

variable {first second third : Walk}

theorem StaysUnheard.of_same (hmuted : second.muted = first.muted)
    (hreferences : second.references = first.references) : first.StaysUnheard second :=
  ⟨hmuted, fun _ => hreferences⟩

theorem StaysUnheard.trans (h : first.StaysUnheard second) (h' : second.StaysUnheard third) :
    first.StaysUnheard third where
  muted := h'.muted.trans h.muted
  references := by
    intro hmuted
    rw [h'.references (by rw [h.muted]; exact hmuted), h.references hmuted]

theorem conserves_staysUnheard (unit : WalkedUnit) : Conserves unit StaysUnheard where
  refl := fun _ => StaysUnheard.of_same rfl rfl
  trans := StaysUnheard.trans
  report := by
    intro walk site shape name target inImport
    change walk.StaysUnheard (if walk.muted > 0 then walk else _)
    split
    · exact StaysUnheard.of_same rfl rfl
    · rename_i hmuted
      exact ⟨rfl, fun h => absurd h hmuted⟩
  declare := by
    intro walk nameSite kind type
    change walk.StaysUnheard (Walk.modifyBlock _ _)
    apply StaysUnheard.of_same
    · unfold Walk.modifyBlock
      split <;> rfl
    · exact modifyBlock_references _ _
  within := fun _ h => ⟨h.muted, h.references⟩
  inBlock := by
    intro first opened second hopens h
    rcases hopens.eq with ⟨block, table, rfl⟩
    exact ⟨h.muted, h.references⟩
  underDeclaration := fun _ h => ⟨h.muted, h.references⟩
  inSwitch := fun _ h => ⟨h.muted, h.references⟩
  unheard := by
    intro first second h
    apply StaysUnheard.of_same
    · change second.muted - 1 = first.muted
      rw [h.muted]
      rfl
    · exact h.references (Nat.succ_pos _)

theorem references_unheard (unit : WalkedUnit) (levels : Nat) (site : Site) (walk : Walk) :
    ((Walker.unheard (Walker.visit unit levels site)).run walk).2.references =
      walk.references := by
  have hvisit := (conserves_staysUnheard unit).visits
    (fun _ _ => StaysUnheard.of_same rfl rfl) levels site { walk with muted := walk.muted + 1 }
  exact hvisit.references (Nat.succ_pos _)

theorem references_of_tooDeep (unit : WalkedUnit) (levels : Nat) (site : Site) {walk : Walk}
    (hdeep : walk.tooDeep.isSome = true) :
    ((Walker.visit unit levels site).run walk).2.references = walk.references := by
  cases levels with
  | zero => rfl
  | succ levels =>
      change ((if walk.tooDeep.isSome = true then _ else _ : Walker Meaning).run
        walk).2.references = walk.references
      rw [if_pos hdeep]
      rfl

/-!
# Where references are
-/

/-- The second state has further references, at nodes of an area. -/
def Extends (area : Path → Prop) (first second : Walk) (added : List Reference) : Prop :=
  second.references.toList = first.references.toList ++ added ∧
    ∀ reference, reference ∈ added → area reference.path

theorem Extends.of_same {area : Path → Prop} (hreferences : second.references = first.references) :
    first.Extends area second [] :=
  ⟨by rw [hreferences, List.append_nil], fun _ hmem => by cases hmem⟩

theorem Extends.trans {area : Path → Prop} {added further : List Reference}
    (h : first.Extends area second added) (h' : second.Extends area third further) :
    first.Extends area third (added ++ further) := by
  refine ⟨by rw [h'.1, h.1, List.append_assoc], ?_⟩
  intro reference hmem
  rcases List.mem_append.mp hmem with hmem | hmem
  · exact h.2 reference hmem
  · exact h'.2 reference hmem

theorem Extends.mono {area wider : Path → Prop} {added : List Reference}
    (h : first.Extends area second added) (harea : ∀ path, area path → wider path) :
    first.Extends wider second added :=
  ⟨h.1, fun reference hmem => harea reference.path (h.2 reference hmem)⟩

theorem extends_report (unit : WalkedUnit) (site : Site) (shape : UsageShape) (name : String)
    (target : Option SymbolId) (inImport : Bool) (walk : Walk) :
    ∃ added, walk.Extends (site.path <:+ ·)
      ((Walker.report unit site shape name target inImport).run walk).2 added := by
  change ∃ added, walk.Extends _ (if walk.muted > 0 then walk else _) added
  split
  · exact ⟨[], Extends.of_same rfl⟩
  · refine ⟨[_], Array.toList_push, ?_⟩
    intro reference hmem
    rcases List.mem_singleton.mp hmem with rfl
    exact List.suffix_refl site.path

end Walk

theorem Run.extends {unit : WalkedUnit} {place : Place} {first second : Walk}
    (hrun : Run unit Walk.MeetsLimit place first second) :
    ∃ added, first.Extends (place.site.path <:+ ·) second added := by
  induction hrun with
  | refl => exact ⟨[], Walk.Extends.of_same rfl⟩
  | trans _ _ ih ih' =>
      rcases ih with ⟨added, hadded⟩
      rcases ih' with ⟨further, hfurther⟩
      exact ⟨added ++ further, hadded.trans hfurther⟩
  | child hchild _ ih =>
      rcases ih with ⟨added, hadded⟩
      refine ⟨added, hadded.mono fun path hbelow => ?_⟩
      rcases Site.path_of_mem_children hchild with ⟨i, _, hpath⟩
      exact (hpath ▸ List.suffix_cons i _ : _ <:+ _).trans hbelow
  | enter _ _ ih | declaration _ _ ih | within _ _ ih | inSwitch _ _ ih | unheard _ ih => exact ih
  | inBlock hopens _ ih =>
      rcases hopens.eq with ⟨block, table, rfl⟩
      exact ih
  | report inImport _ => exact Walk.extends_report _ _ _ _ _ inImport _
  | declare => exact ⟨[], Walk.Extends.of_same (Walk.modifyBlock_references _ _)⟩
  | visit hmeets =>
      rcases hmeets with rfl
      exact ⟨[], Walk.Extends.of_same rfl⟩

theorem Site.not_below_of_ne {site first second : Site} (hfirst : first ∈ site.children)
    (hsecond : second ∈ site.children) (hne : first ≠ second) {path : Path}
    (hbelow : first.path <:+ path) : ¬ second.path <:+ path := by
  intro hbelow'
  rcases Site.path_of_mem_children hfirst with ⟨i, _, hpath⟩
  rcases Site.path_of_mem_children hsecond with ⟨j, _, hpath'⟩
  have hindex : i = j := Path.eq_of_cons_suffix (hpath ▸ hbelow) (hpath' ▸ hbelow')
  exact hne (Site.eq_of_path hfirst hsecond (by rw [hpath, hpath', hindex]))

/-!
# Method references
-/

namespace Walker

variable {unit : WalkedUnit} {levels : Nat} {site qualifier : Site} {rest : List Site} {walk : Walk}

theorem extends_visit (unit : WalkedUnit) (levels : Nat) (site : Site) (walk : Walk) :
    ∃ added, walk.Extends (site.path <:+ ·) ((visit unit levels site).run walk).2 added :=
  (Runs.soundVisit unit levels none site walk).extends

theorem extends_visitAll (unit : WalkedUnit) (levels : Nat) {area : Path → Prop}
    (sites : List Site)
    (harea : ∀ child, child ∈ sites → ∀ path, child.path <:+ path → area path) (walk : Walk) :
    ∃ added, walk.Extends area ((visitAll (visit unit levels) sites).run walk).2 added := by
  induction sites generalizing walk with
  | nil => exact ⟨[], Walk.Extends.of_same rfl⟩
  | cons child rest ih =>
      rcases extends_visit unit levels child walk with ⟨added, hadded⟩
      rcases ih (fun other hother => harea other (List.mem_cons_of_mem child hother)) _ with
        ⟨further, hfurther⟩
      exact ⟨added ++ further, (hadded.mono (harea child List.mem_cons_self)).trans hfurther⟩

theorem extends_referencedMember (unit : WalkedUnit) (type : Option SymbolId) (member : Site)
    (walk : Walk) :
    ∃ added, walk.Extends (member.path <:+ ·)
      ((referencedMember unit type member).run walk).2 added := by
  rcases Runs.referencedMember_cases unit type member with hnone | ⟨name, target, hreport, _⟩
  · rw [hnone]
    exact ⟨[], Walk.Extends.of_same rfl⟩
  · rw [hreport]
    exact Walk.extends_report _ _ _ _ _ _ walk

/-- What a qualifier adds as the qualifier of a method reference: nothing if it is a name, and
otherwise what it adds on its own. -/
theorem references_referenceQualifier {own : List Reference}
    (hsuper : qualifier.kind ≠ .superKeyword)
    (hown : ((visit unit levels qualifier).run walk).2.references.toList =
      walk.references.toList ++ own) :
    ((referenceQualifier unit (visit unit levels) qualifier).run walk).2.references.toList =
      walk.references.toList ++ if isNameQualifier qualifier.kind then [] else own := by
  rw [referenceQualifier, if_neg hsuper]
  cases isNameQualifier qualifier.kind with
  | true =>
      rw [if_pos rfl, if_pos rfl, Walk.references_unheard, List.append_nil]
  | false => exact hown

theorem extends_methodReference (unit : WalkedUnit) (levels : Nat) (walk : Walk)
    (hnamed : site.namedChildren = qualifier :: rest)
    (hmember : site.children.getLast? ≠ some qualifier) :
    ∃ later, ((referenceQualifier unit (visit unit levels) qualifier).run walk).2.Extends
      (fun path => ¬ qualifier.path <:+ path)
      ((methodReference unit (visit unit levels) site).run walk).2 later := by
  have hchild : ∀ child, child ∈ qualifier :: rest → child ∈ site.children :=
    fun child hmem => Site.mem_children_of_mem_namedChildren (hnamed ▸ hmem)
  have hapart : qualifier ∉ rest := by
    have hnodup := site.nodup_namedChildren
    rw [hnamed] at hnodup
    exact (List.nodup_cons.mp hnodup).1
  have hother : ∀ child, child ∈ site.children → child ≠ qualifier →
      ∀ path, child.path <:+ path → ¬ qualifier.path <:+ path :=
    fun child hmem hne path hbelow =>
      Site.not_below_of_ne hmem (hchild qualifier List.mem_cons_self) hne hbelow
  have harguments : ∀ child, child ∈ rest.filter (fun child => child.kind = .typeArguments) →
      ∀ path, child.path <:+ path → ¬ qualifier.path <:+ path := by
    intro child hmem
    have hrest := (List.mem_filter.mp hmem).1
    exact hother child (hchild child (List.mem_cons_of_mem _ hrest)) fun heq => hapart (heq ▸ hrest)
  rw [methodReference, hnamed]
  let walked := (referenceQualifier unit (visit unit levels) qualifier).run walk
  rcases extends_visitAll unit levels _ harguments walked.2 with ⟨added, hadded⟩
  cases hlast : site.children.getLast? with
  | none => exact ⟨added, hadded⟩
  | some member =>
      rcases extends_referencedMember unit walked.1.receiver? member
        ((visitAll (visit unit levels) _).run walked.2).2 with ⟨further, hfurther⟩
      have hne : member ≠ qualifier := fun heq => hmember (heq ▸ hlast)
      exact ⟨added ++ further,
        hadded.trans (hfurther.mono (hother member (List.mem_of_getLast? hlast) hne))⟩

/-- Of a method reference exactly the names are hidden: its references are those that the qualifier
has on its own, unless that is a name, and then others that are not below the qualifier.  So the
qualifier's references are all reported if and only if it is no name, or has none. -/
theorem methodReference_hides_names (unit : WalkedUnit) (levels : Nat) (site qualifier : Site)
    (rest : List Site) (walk : Walk) (hkind : site.kind = .methodReference)
    (hnamed : site.namedChildren = qualifier :: rest)
    (hmember : site.children.getLast? ≠ some qualifier)
    (hsuper : qualifier.kind ≠ .superKeyword) :
    let alone := ((visit unit levels qualifier).run walk).2
    let after := ((visit unit (levels + 1) site).run walk).2
    ∃ own later,
      alone.references.toList = walk.references.toList ++ own ∧
      after.references.toList = walk.references.toList ++
        ((if isNameQualifier qualifier.kind then [] else own) ++ later) ∧
      (∀ reference, reference ∈ own → qualifier.path <:+ reference.path) ∧
      (∀ reference, reference ∈ later → ¬ qualifier.path <:+ reference.path) ∧
      (own ⊆ (if isNameQualifier qualifier.kind then [] else own) ++ later ↔
        isNameQualifier qualifier.kind = false ∨ own = []) := by
  intro alone after
  rcases extends_visit unit levels qualifier walk with ⟨own, hown, hbelow⟩
  have hreferences : ∃ later, after.references.toList = walk.references.toList ++
      ((if isNameQualifier qualifier.kind then [] else own) ++ later) ∧
      ∀ reference, reference ∈ later → ¬ qualifier.path <:+ reference.path := by
    cases hdeep : walk.tooDeep.isSome with
    | true =>
        have hempty : own = [] := by
          rw [Walk.references_of_tooDeep unit levels qualifier hdeep] at hown
          simpa using hown
        refine ⟨[], ?_, fun _ hmem => by cases hmem⟩
        rw [show after.references = walk.references from
          Walk.references_of_tooDeep unit (levels + 1) site hdeep, hempty]
        simp
    | false =>
        rcases extends_methodReference unit levels walk hnamed hmember with
          ⟨later, hlater, hapart⟩
        refine ⟨later, ?_, hapart⟩
        have hafter : after = ((methodReference unit (visit unit levels) site).run walk).2 := by
          change ((if walk.tooDeep.isSome = true then _ else _ : Walker Meaning).run walk).2 = _
          rw [hdeep, if_neg Bool.false_ne_true, step, hkind]
          rfl
        rw [hafter, hlater, references_referenceQualifier hsuper hown, List.append_assoc]
  rcases hreferences with ⟨later, hlater, hapart⟩
  refine ⟨own, later, hown, hlater, hbelow, hapart, ?_⟩
  cases hname : isNameQualifier qualifier.kind with
  | false => simp
  | true =>
      rw [if_pos rfl, List.nil_append]
      constructor
      · intro hsubset
        refine Or.inr (List.eq_nil_iff_forall_not_mem.mpr ?_)
        intro reference hmem
        exact hapart reference (hsubset hmem) (hbelow reference hmem)
      · rintro (hfalse | hempty)
        · cases hfalse
        · rw [hempty]
          exact List.nil_subset later

end Walker

def callQualifier : Node :=
  ⟨.methodInvocation, true, none, 1, 76, 75, 3, "", [
    ⟨.identifier, true, some .name, 1, 76, 75, 1, "g", []⟩,
    ⟨.other, true, some .arguments, 1, 77, 76, 2, "", []⟩]⟩

/-- The qualifier `g().f`, a field of what a call returns. -/
def selectionQualifier : Node :=
  ⟨.fieldAccess, true, none, 1, 62, 61, 5, "", [
    ⟨.methodInvocation, true, some .object, 1, 62, 61, 3, "", [
      ⟨.identifier, true, some .name, 1, 62, 61, 1, "g", []⟩,
      ⟨.other, true, some .arguments, 1, 63, 62, 2, "", []⟩]⟩,
    ⟨.identifier, true, some .field, 1, 66, 65, 1, "f", []⟩]⟩

def callReference : Node :=
  ⟨.methodReference, true, some .value, 1, 76, 75, 6, "", [
    callQualifier,
    ⟨.other, false, none, 1, 79, 78, 2, "::", []⟩,
    ⟨.identifier, true, none, 1, 81, 80, 1, "m", []⟩]⟩

/-- The method reference `g().f::m`. -/
def selectionReference : Node :=
  ⟨.methodReference, true, some .value, 1, 62, 61, 8, "", [
    selectionQualifier,
    ⟨.other, false, none, 1, 67, 66, 2, "::", []⟩,
    ⟨.identifier, true, none, 1, 69, 68, 1, "m", []⟩]⟩

/-- The unit
`class A { A f; A g() { return this; } void m() {} Object r = g().f::m, s = g()::m; }`. -/
def valueQualifiers : SourceUnit where
  path := ⟨"A.java"⟩
  root := ⟨.other, true, none, 1, 1, 0, 85, "", [
    ⟨.classDeclaration, true, none, 1, 1, 0, 84, "", [
      ⟨.identifier, true, some .name, 1, 7, 6, 1, "A", []⟩,
      ⟨.classBody, true, some .body, 1, 9, 8, 76, "", [
        ⟨.fieldDeclaration, true, none, 1, 11, 10, 4, "", [
          ⟨.typeIdentifier, true, some .type, 1, 11, 10, 1, "A", []⟩,
          ⟨.variableDeclarator, true, some .declarator, 1, 13, 12, 1, "", [
            ⟨.identifier, true, some .name, 1, 13, 12, 1, "f", []⟩]⟩]⟩,
        ⟨.methodDeclaration, true, none, 1, 16, 15, 22, "", [
          ⟨.typeIdentifier, true, some .type, 1, 16, 15, 1, "A", []⟩,
          ⟨.identifier, true, some .name, 1, 18, 17, 1, "g", []⟩,
          ⟨.formalParameters, true, some .parameters, 1, 19, 18, 2, "", []⟩,
          ⟨.block, true, some .body, 1, 22, 21, 16, "", [
            ⟨.other, true, none, 1, 24, 23, 12, "", [
              ⟨.thisKeyword, true, none, 1, 31, 30, 4, "this", []⟩]⟩]⟩]⟩,
        ⟨.methodDeclaration, true, none, 1, 39, 38, 11, "", [
          ⟨.other, true, some .type, 1, 39, 38, 4, "void", []⟩,
          ⟨.identifier, true, some .name, 1, 44, 43, 1, "m", []⟩,
          ⟨.formalParameters, true, some .parameters, 1, 45, 44, 2, "", []⟩,
          ⟨.block, true, some .body, 1, 48, 47, 2, "", []⟩]⟩,
        ⟨.fieldDeclaration, true, none, 1, 51, 50, 32, "", [
          ⟨.typeIdentifier, true, some .type, 1, 51, 50, 6, "Object", []⟩,
          ⟨.variableDeclarator, true, some .declarator, 1, 58, 57, 12, "", [
            ⟨.identifier, true, some .name, 1, 58, 57, 1, "r", []⟩,
            selectionReference]⟩,
          ⟨.variableDeclarator, true, some .declarator, 1, 72, 71, 10, "", [
            ⟨.identifier, true, some .name, 1, 72, 71, 1, "s", []⟩,
            callReference]⟩]⟩]⟩]⟩]⟩

def valueQualifiersWalk : Walk where
  table := (Program.ofUnits [valueQualifiers]).table
  enclosing := [.declared 0]

/-- The call in `g()::m` is reported as it is on its own. -/
theorem callReference_reported :
    let unit := (Program.ofUnits [valueQualifiers]).walkedUnit 0 valueQualifiers
    let qualifier : Site := ⟨[0, 1, 2, 3, 1, 0, 0], callQualifier⟩
    let site : Site := ⟨[1, 2, 3, 1, 0, 0], callReference⟩
    let alone := (Walker.visit unit 9 qualifier).run valueQualifiersWalk
    site.kind = .methodReference ∧ site.namedChildren.head? = some qualifier ∧
      alone.1 = .value 0 ∧ alone.2.references.toList.map (·.usage.name) = ["g"] ∧
      ∀ reference, reference ∈ alone.2.references.toList →
        reference ∈
          ((Walker.visit unit (9 + 1) site).run valueQualifiersWalk).2.references.toList := by
  intro unit qualifier site alone
  have hmember : site.children.getLast? ≠ some qualifier := by
    intro hlast
    have hpath := congrArg (Option.map Site.path) hlast
    revert hpath
    decide
  have hheard : Walker.isNameQualifier qualifier.kind = false := rfl
  refine ⟨rfl, rfl, by decide +kernel, by decide +kernel, ?_⟩
  rcases Walker.methodReference_hides_names unit 9 site qualifier _ valueQualifiersWalk rfl rfl
    hmember (by decide) with ⟨own, later, halone, hafter, _, _, hsubset⟩
  intro reference hmem
  rw [hafter]
  rw [halone] at hmem
  rcases List.mem_append.mp hmem with hbefore | hown
  · exact List.mem_append_left _ hbefore
  · exact List.mem_append_right _ (hsubset.mpr (Or.inl hheard) hown)

/-- The qualifier `g().f` denotes a value, and it is hidden with the call inside it: the reference
`g().f::m` has only the usage of `m`. -/
theorem selectionReference_hidden :
    let program := Program.ofUnits [valueQualifiers]
    let unit := program.walkedUnit 0 valueQualifiers
    let qualifier : Site := ⟨[0, 1, 1, 3, 1, 0, 0], selectionQualifier⟩
    let site : Site := ⟨[1, 1, 3, 1, 0, 0], selectionReference⟩
    let alone := (Walker.visit unit 9 qualifier).run valueQualifiersWalk
    let after := (Walker.visit unit 10 site).run valueQualifiersWalk
    alone.1 = .value 0 ∧
      alone.2.references.toList.map (·.usage.name) = ["g", "f"] ∧
      after.2.references.toList.map (·.usage.name) = ["m"] ∧
      (program.walk 0 valueQualifiers).references.toList.map (·.usage.name) =
        ["A", "A", "Object", "m", "g", "m"] := by
  decide +kernel

end RestrictedApi
