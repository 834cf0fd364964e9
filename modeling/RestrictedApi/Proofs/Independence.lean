import Mathlib.Data.List.Forall2
import RestrictedApi.Proofs.History
import RestrictedApi.Proofs.Renumbering.Visit
import RestrictedApi.Proofs.Run.Visit
import RestrictedApi.Rule

/-!
# Extraction does not depend on its history

What is extracted from a unit is the same whatever has been extracted before, up to the numbers of
the symbols that the extraction itself appends.  Those symbols are never restricted, so the
violations are the same.
-/

namespace RestrictedApi

/-!
# Appended symbols
-/

/-- The second table has the symbols of the first and after them only locals and type parameters,
without annotations. -/
def SymbolTable.AppendsLocals (first second : SymbolTable) : Prop :=
  ∃ fresh, second.toList = first.toList ++ fresh ∧
    ∀ symbol ∈ fresh, symbol.annotations = [] ∧
      symbol.kind ∈ [.localVariable, .parameter, .exceptionParameter, .typeParameter]

namespace SymbolTable.AppendsLocals

variable {first second third : SymbolTable}

theorem refl (table : SymbolTable) : table.AppendsLocals table :=
  ⟨[], (List.append_nil _).symm, fun _ hsymbol => by cases hsymbol⟩

theorem trans (h : first.AppendsLocals second) (h' : second.AppendsLocals third) :
    first.AppendsLocals third := by
  rcases h with ⟨fresh, hsecond, hfresh⟩
  rcases h' with ⟨further, hthird, hfurther⟩
  refine ⟨fresh ++ further, ?_, ?_⟩
  · rw [hthird, hsecond, List.append_assoc]
  · intro symbol hsymbol
    rcases List.mem_append.mp hsymbol with hmem | hmem
    · exact hfresh symbol hmem
    · exact hfurther symbol hmem

theorem insert (table : SymbolTable) {symbol : Symbol} (hannotations : symbol.annotations = [])
    (hkind : symbol.kind ∈ [.localVariable, .parameter, .exceptionParameter, .typeParameter]) :
    table.AppendsLocals (table.insert symbol) := by
  refine ⟨[symbol], toList_insert table symbol, ?_⟩
  intro other hother
  rw [List.mem_singleton.mp hother]
  exact ⟨hannotations, hkind⟩

end SymbolTable.AppendsLocals

theorem SymbolKind.mem_appended_of_isLocal {kind : SymbolKind} (hkind : kind.isLocal = true) :
    kind ∈ [.localVariable, .parameter, .exceptionParameter, .typeParameter] := by
  cases kind <;> simp [SymbolKind.isLocal] at hkind ⊢

theorem Walk.OpensBlock.appendsLocals {unit : WalkedUnit} {first opened : Walk}
    (h : first.OpensBlock unit opened) : first.table.AppendsLocals opened.table := by
  induction h with
  | empty => exact SymbolTable.AppendsLocals.refl first.table
  | @typeParameter opened _ _ _ _ _ _ _ ih =>
      change first.table.AppendsLocals (Walk.modifyBlock opened _).table
      rw [Walk.modifyBlock_table]
      exact ih
  | localTypeParameter _ _ ih =>
      change first.table.AppendsLocals (Walk.modifyBlock _ _).table
      rw [Walk.modifyBlock_table]
      exact ih.trans (SymbolTable.AppendsLocals.insert _ rfl (by simp))

/-- The invariant of runs: only locals are appended. -/
theorem Run.appendsLocals {unit : WalkedUnit} {place : Place} {first second : Walk}
    (hrun : Run unit Walk.MeetsLimit place first second) :
    first.table.AppendsLocals second.table := by
  induction hrun with
  | refl _ walk => exact SymbolTable.AppendsLocals.refl walk.table
  | trans _ _ ih ih' => exact ih.trans ih'
  | child _ _ ih | enter _ _ ih | declaration _ _ ih => exact ih
  | within _ _ ih | inSwitch _ _ ih | unheard _ ih => exact ih
  | inBlock hopens _ ih => exact hopens.appendsLocals.trans ih
  | @report _ _ walk shape name target inImport =>
      change walk.table.AppendsLocals (if walk.muted > 0 then walk else _).table
      split <;> exact SymbolTable.AppendsLocals.refl walk.table
  | @declare _ walk nameSite kind type hkind =>
      change walk.table.AppendsLocals (Walk.modifyBlock _ _).table
      rw [Walk.modifyBlock_table]
      exact SymbolTable.AppendsLocals.insert walk.table rfl
        (SymbolKind.mem_appended_of_isLocal hkind)
  | @visit _ _ walk _ hmeets =>
      rcases hmeets with rfl
      exact SymbolTable.AppendsLocals.refl walk.table

namespace Program

theorem appendsLocals_usages (program : Program) (number : Nat) :
    program.table.AppendsLocals (program.usages number).2.table := by
  cases hsource : program.units[number]? with
  | none =>
      rw [usages_of_none hsource]
      exact SymbolTable.AppendsLocals.refl _
  | some source =>
      rw [table_usages hsource]
      exact ((program.walkedUnit number source).run_walk program.table source.root).appendsLocals

theorem appendsLocals_after (program : Program) (history : List Nat) :
    program.table.AppendsLocals (program.after history).table := by
  induction history generalizing program with
  | nil => exact SymbolTable.AppendsLocals.refl _
  | cons number rest ih => exact (program.appendsLocals_usages number).trans (ih _)

end Program

/-!
# Restrictions

Locals and type parameters carry no annotation and inherit none, so whether a symbol is restricted
does not depend on those that were appended.
-/

namespace Restriction

variable (restriction : Restriction) {base first second : SymbolTable}

theorem inheritsFromOwner_of_mem_appended {kind : SymbolKind}
    (hkind : kind ∈ [.localVariable, .parameter, .exceptionParameter, .typeParameter]) :
    kind.inheritsFromOwner = false := by
  simp only [List.mem_cons, List.not_mem_nil, or_false] at hkind
  rcases hkind with rfl | rfl | rfl | rfl <;> rfl

theorem restrictedWithin_appended (h : base.AppendsLocals first) (steps : Nat) {id : SymbolId}
    (hid : ¬ id < base.size) :
    restriction.restrictedWithin first steps (first.get? id) = false := by
  rcases h with ⟨fresh, hfirst, hfresh⟩
  cases hsymbol : first.get? id with
  | none => cases steps <;> rfl
  | some symbol =>
      have hmem : symbol ∈ fresh := by
        have hlength : base.toList.length ≤ id := Nat.not_lt.mp hid
        rw [← SymbolTable.getElem?_toList, hfirst, List.getElem?_append_right hlength] at hsymbol
        exact List.mem_of_getElem? hsymbol
      rcases hfresh symbol hmem with ⟨hannotations, hkind⟩
      cases steps with
      | zero => rfl
      | succ steps =>
          have hcarries : symbol.carries restriction.marker = false := by
            rw [Symbol.carries, hannotations]
            rfl
          rw [restrictedWithin, hcarries, inheritsFromOwner_of_mem_appended hkind]
          simp

theorem get_of_appendsLocals (h : base.AppendsLocals first) {id : SymbolId}
    (hid : id < base.size) : first.get? id = base.get? id := by
  rcases h with ⟨fresh, hfirst, _⟩
  have hlength : id < base.toList.length := hid
  rw [← SymbolTable.getElem?_toList, hfirst, List.getElem?_append_left hlength,
    SymbolTable.getElem?_toList]

theorem restrictedWithin_eq (h : base.AppendsLocals first) (h' : base.AppendsLocals second)
    (steps : Nat) (symbol : Option Symbol) :
    restriction.restrictedWithin first steps symbol =
      restriction.restrictedWithin second steps symbol := by
  induction steps generalizing symbol with
  | zero => cases symbol <;> rfl
  | succ steps ih =>
      cases symbol with
      | none => rfl
      | some symbol =>
          have howner : restriction.restrictedWithin first steps (symbol.owner.bind first.get?) =
              restriction.restrictedWithin second steps (symbol.owner.bind second.get?) := by
            cases symbol.owner with
            | none => exact ih none
            | some owner =>
                change restriction.restrictedWithin first steps (first.get? owner) =
                  restriction.restrictedWithin second steps (second.get? owner)
                -- The owner is in both tables, or appended and restricted in neither.
                by_cases hid : owner < base.size
                · rw [get_of_appendsLocals h hid, get_of_appendsLocals h' hid]
                  exact ih (base.get? owner)
                · rw [restrictedWithin_appended restriction h steps hid,
                    restrictedWithin_appended restriction h' steps hid]
          rw [restrictedWithin, restrictedWithin, howner]

theorem isRestricted_appended (h : base.AppendsLocals first) {id : SymbolId}
    (hid : base.size ≤ id) : restriction.isRestricted first (first.get? id) = false :=
  restrictedWithin_appended restriction h ownerLimit (Nat.not_lt.mpr hid)

end Restriction

/-!
# Corresponding usages

Two extractions start from tables of the sizes `first` and `second`, both of which begin with the
`size` symbols of the program.
-/

/-- Numbers of the program are the same; others are as far apart as the sizes of the tables. -/
inductive TargetsCorrespond (size first second : Nat) :
    Option SymbolId → Option SymbolId → Prop where
  | unresolved : TargetsCorrespond size first second none none
  | below {id : SymbolId} :
      id < size → TargetsCorrespond size first second (some id) (some id)
  | above {id other : SymbolId} :
      size ≤ id → size ≤ other → other + first = id + second →
      TargetsCorrespond size first second (some id) (some other)

/-- Usages that differ at most in the number of their target. -/
structure Usage.Corresponds (size first second : Nat) (usage other : Usage) : Prop where
  shape : other.shape = usage.shape
  name : other.name = usage.name
  inImport : other.inImport = usage.inImport
  location : other.location = usage.location
  suppressions : other.suppressions = usage.suppressions
  target : TargetsCorrespond size first second usage.target other.target

/-- The same error, or usages that correspond one by one. -/
inductive OutcomesCorrespond (size first second : Nat) :
    Except NestingTooDeep (List Usage) → Except NestingTooDeep (List Usage) → Prop where
  | error (error : NestingTooDeep) :
      OutcomesCorrespond size first second (.error error) (.error error)
  | ok {usages others : List Usage} :
      List.Forall₂ (Usage.Corresponds size first second) usages others →
      OutcomesCorrespond size first second (.ok usages) (.ok others)

theorem Renumbering.corresponds (r r' : Renumbering) (hbase : r'.base = r.base) (usage : Usage) :
    Usage.Corresponds r.base.size (r.base.size + r.inserted.length)
      (r.base.size + r'.inserted.length) (r.usage usage) (r'.usage usage) where
  shape := rfl
  name := rfl
  inImport := rfl
  location := rfl
  suppressions := rfl
  target := by
    change TargetsCorrespond _ _ _ (usage.target.map r.number) (usage.target.map r'.number)
    cases usage.target with
    | none => exact TargetsCorrespond.unresolved
    | some id =>
        by_cases hid : id < r.base.size
        · rw [Option.map_some, Option.map_some, number_of_lt hid,
            number_of_lt (hbase.symm ▸ hid)]
          exact TargetsCorrespond.below hid
        · have hfirst : r.number id = id + r.inserted.length := if_neg hid
          have hsecond : r'.number id = id + r'.inserted.length := if_neg (hbase.symm ▸ hid)
          have hle : r.base.size ≤ id := Nat.not_lt.mp hid
          rw [Option.map_some, Option.map_some, hfirst, hsecond]
          exact TargetsCorrespond.above (Nat.le_add_right_of_le hle) (Nat.le_add_right_of_le hle)
            (by ac_rfl)

theorem Usage.Corresponds.matches_eq {base first second : SymbolTable} {size size' : Nat}
    {usage other : Usage} (h : usage.Corresponds base.size size size' other)
    (hfirst : base.AppendsLocals first) (hsecond : base.AppendsLocals second)
    (restriction : Restriction) :
    restriction.matchesUsage first usage = restriction.matchesUsage second other := by
  have hoverlooks : Restriction.overlooks other = Restriction.overlooks usage := by
    rw [Restriction.overlooks, h.shape, h.inImport, h.name, Restriction.overlooks]
  rw [Restriction.matchesUsage, Restriction.matchesUsage, hoverlooks]
  split
  · rfl
  · have htarget := h.target
    unfold Usage.symbol?
    generalize usage.target = target at htarget
    generalize other.target = target' at htarget
    cases htarget with
    | unresolved => rfl
    | @below id hid =>
        rw [Option.bind_some, Option.bind_some, Restriction.get_of_appendsLocals hfirst hid,
          Restriction.get_of_appendsLocals hsecond hid]
        cases base.get? id with
        | none => rfl
        | some symbol =>
            simp only [Restriction.isRestricted,
              Restriction.restrictedWithin_eq restriction hfirst hsecond]
    | @above id id' hid hid' _ =>
        have hlocal := Restriction.isRestricted_appended restriction hfirst hid
        have hlocal' := Restriction.isRestricted_appended restriction hsecond hid'
        rw [Option.bind_some, Option.bind_some]
        cases hsymbol : first.get? id <;> cases hsymbol' : second.get? id' <;>
          simp_all only [Bool.and_false]

theorem Usage.Corresponds.reports_eq {base first second : SymbolTable} {size size' : Nat}
    {usage other : Usage} (h : usage.Corresponds base.size size size' other)
    (hfirst : base.AppendsLocals first) (hsecond : base.AppendsLocals second) (rule : ApiRule) :
    rule.toUsageRule.reports first usage = rule.toUsageRule.reports second other := by
  have hjudge : rule.toUsageRule.judge first usage = rule.toUsageRule.judge second other :=
    h.matches_eq hfirst hsecond rule.restriction
  rw [UsageRule.reports, UsageRule.reports, hjudge, Usage.isSuppressedFor, Usage.isSuppressedFor,
    h.suppressions]

theorem check_eq_of_corresponds {base first second : SymbolTable} {size size' : Nat}
    {usages others : List Usage}
    (h : List.Forall₂ (Usage.Corresponds base.size size size') usages others)
    (hfirst : base.AppendsLocals first) (hsecond : base.AppendsLocals second) (rule : ApiRule) :
    rule.toUsageRule.check first usages = rule.toUsageRule.check second others := by
  unfold UsageRule.check
  induction h with
  | nil => rfl
  | @cons usage other rest rest' hhead _ ih =>
      have hviolation :
          rule.toUsageRule.info.violation usage = rule.toUsageRule.info.violation other := by
        rw [RuleInfo.violation, RuleInfo.violation, hhead.location]
      rw [List.filter_cons, List.filter_cons, hhead.reports_eq hfirst hsecond rule]
      split
      · rw [List.map_cons, List.map_cons, hviolation, ih]
      · exact ih

theorem OutcomesCorrespond.violations_eq {base first second : SymbolTable} {size size' : Nat}
    {outcome outcome' : Except NestingTooDeep (List Usage)}
    (h : OutcomesCorrespond base.size size size' outcome outcome')
    (hfirst : base.AppendsLocals first) (hsecond : base.AppendsLocals second) (rule : ApiRule) :
    outcome.map (rule.toUsageRule.check first) = outcome'.map (rule.toUsageRule.check second) := by
  cases h with
  | error error => rfl
  | ok husages => exact congrArg Except.ok (check_eq_of_corresponds husages hfirst hsecond rule)

/-!
# Histories
-/

namespace Program

def violations (program : Program) (rule : ApiRule) (number : Nat) :
    Except NestingTooDeep (List Violation) :=
  (program.usages number).1.map (rule.toUsageRule.check (program.usages number).2.table)

/-- The walk over a unit after a history is the walk without it, renumbered. -/
theorem walk_after {simple : Prop} {program : Program}
    (h : program.decls.Sound simple program.table) {history : List Nat} {inserted : List Symbol}
    (hinserted : (program.after history).table.toList = program.table.toList ++ inserted)
    (number : Nat) (source : SourceUnit) :
    (program.after history).walk number source =
      (Renumbering.mk program.table inserted).walk (program.walk number source) := by
  have hunit : (program.after history).walkedUnit number source =
      program.walkedUnit number source := by
    rw [walkedUnit, decls_after, walkedUnit]
  rw [Program.walk, hunit]
  exact Renumbering.walk_inserted h hinserted source.root

theorem usages_after {simple : Prop} {program : Program}
    (h : program.decls.Sound simple program.table) {history : List Nat} {inserted : List Symbol}
    (hinserted : (program.after history).table.toList = program.table.toList ++ inserted)
    (number : Nat) :
    ((program.after history).usages number).1 =
      (program.usages number).1.map (List.map (Renumbering.mk program.table inserted).usage) := by
  unfold Program.usages
  rw [units_after]
  cases program.units[number]? with
  | none => rfl
  | some source =>
      simp only [walk_after h hinserted]
      have hdeep (r : Renumbering) (walk : Walk) : (r.walk walk).tooDeep = walk.tooDeep := rfl
      rw [hdeep]
      cases (program.walk number source).tooDeep with
      | some line => rfl
      | none =>
          refine congrArg Except.ok ?_
          simp only [Renumbering.walk, Array.toList_map, List.map_map]
          rfl

theorem usages_correspond {simple : Prop} {program : Program}
    (h : program.decls.Sound simple program.table) (history other : List Nat) (number : Nat) :
    OutcomesCorrespond program.table.size (program.after history).table.size
      (program.after other).table.size ((program.after history).usages number).1
      ((program.after other).usages number).1 := by
  rcases program.appendsLocals_after history with ⟨inserted, hinserted, _⟩
  rcases program.appendsLocals_after other with ⟨inserted', hinserted', _⟩
  have hsize : (program.after history).table.size = program.table.size + inserted.length := by
    rw [← SymbolTable.length_toList, hinserted, List.length_append, SymbolTable.length_toList]
  have hsize' : (program.after other).table.size = program.table.size + inserted'.length := by
    rw [← SymbolTable.length_toList, hinserted', List.length_append, SymbolTable.length_toList]
  rw [usages_after h hinserted, usages_after h hinserted', hsize, hsize']
  cases (program.usages number).1 with
  | error error => exact OutcomesCorrespond.error error
  | ok usages =>
      refine OutcomesCorrespond.ok ?_
      rw [List.forall₂_map_left_iff, List.forall₂_map_right_iff, List.forall₂_same]
      intro usage _
      exact Renumbering.corresponds ⟨program.table, inserted⟩ ⟨program.table, inserted'⟩ rfl usage

/-- Usages of a unit are extracted independently of what has been extracted before: two histories
lead to outcomes that correspond, and to the same violations.  Extraction itself keeps all symbols
and appends only locals and type parameters without annotations. -/
theorem usages_independent_of_history (units : List SourceUnit) (number : Nat)
    (history other : List Nat) :
    let program := ofUnits units
    let first := program.after history
    let second := program.after other
    OutcomesCorrespond program.table.size first.table.size second.table.size
        (first.usages number).1 (second.usages number).1 ∧
      first.table.AppendsLocals (first.usages number).2.table ∧
      ∀ rule : ApiRule, first.violations rule number = second.violations rule number := by
  intro program first second
  have hsound : program.decls.Sound False program.table := sound_ofUnits False.elim
  have houtcomes := usages_correspond hsound history other number
  have hfirst : program.table.AppendsLocals (first.usages number).2.table :=
    (program.appendsLocals_after history).trans (first.appendsLocals_usages number)
  have hsecond : program.table.AppendsLocals (second.usages number).2.table :=
    (program.appendsLocals_after other).trans (second.appendsLocals_usages number)
  refine ⟨houtcomes, first.appendsLocals_usages number, ?_⟩
  intro rule
  exact houtcomes.violations_eq hfirst hsecond rule

end Program

end RestrictedApi
