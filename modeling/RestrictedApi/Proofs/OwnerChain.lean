import Mathlib.Data.Finset.Card
import Mathlib.Data.Finset.Range
import RestrictedApi.Restriction

/-!
# Owner chains

A usage is judged by a walk from the symbol that it refers to through the owners.  This module says
what the walk finds in terms of chains of symbols, on any table: owners may be missing, and they may
form cycles.  The walk looks at a limited number of symbols; on a table with no more symbols than
the limit, the limit makes no difference.
-/

namespace RestrictedApi
namespace Restriction

/-!
# Chains

A chain of length `k` goes from a symbol through `k` owners to the first one with the annotation.
-/

/-- The symbols `chain 0` to `chain k`, each the owner of the one before, lead to a symbol with the
annotation: those before it have a kind that inherits, and none is exempt. -/
structure LeadsToMarker (restriction : Restriction) (table : SymbolTable) (k : Nat)
    (chain : Nat → Symbol) : Prop where
  owned : ∀ i, i < k → (chain i).owner.bind table.get? = some (chain (i + 1))
  marked : (chain k).carries restriction.marker = true
  inherits : ∀ i, i < k → (chain i).kind.inheritsFromOwner = true
  unmarked : ∀ i, i < k → (chain i).carries restriction.marker = false
  kept : ∀ i, i ≤ k →
    (chain i).qualifiedName ≠ "" → restriction.isIgnoredType (chain i).qualifiedName = false

/-- A usage of a restricted declaration, where chains of the lengths in `allowed` count. -/
structure UsesRestricted (restriction : Restriction) (table : SymbolTable) (usage : Usage)
    (allowed : Nat → Prop) : Prop where
  selection : ¬ (usage.shape = .memberSelect ∧ usage.inImport = true)
  name : ¬ (usage.shape = .identifier ∧ usage.name = "super")
  found : ∃ first, usage.symbol? table = some first ∧
    restriction.isIgnoredNamespace first.package = false ∧
    restriction.containsNamespace first.package = true ∧
    ∃ k, allowed k ∧ ∃ chain, chain 0 = first ∧ restriction.LeadsToMarker table k chain

/-- The recursive form of a chain: the symbol with the annotation is `k` owners away. -/
inductive MarkerAt (restriction : Restriction) (table : SymbolTable) : Symbol → Nat → Prop where
  | here {symbol : Symbol} :
      restriction.exempts symbol = false →
      symbol.carries restriction.marker = true →
      MarkerAt restriction table symbol 0
  | above {symbol owner : Symbol} {k : Nat} :
      restriction.exempts symbol = false →
      symbol.carries restriction.marker = false →
      symbol.kind.inheritsFromOwner = true →
      symbol.owner.bind table.get? = some owner →
      MarkerAt restriction table owner k →
      MarkerAt restriction table symbol (k + 1)

theorem exempts_eq_false_iff (restriction : Restriction) (symbol : Symbol) :
    restriction.exempts symbol = false ↔
      (symbol.qualifiedName ≠ "" → restriction.isIgnoredType symbol.qualifiedName = false) := by
  unfold exempts
  by_cases hname : symbol.qualifiedName = ""
  · simp [hname]
  · simp [hname]

theorem markerAt_of_leadsToMarker {restriction : Restriction} {table : SymbolTable} {k : Nat}
    {chain : Nat → Symbol} (hchain : restriction.LeadsToMarker table k chain) :
    restriction.MarkerAt table (chain 0) k := by
  induction k generalizing chain with
  | zero =>
      have hkept := (restriction.exempts_eq_false_iff (chain 0)).mpr (hchain.kept 0 (Nat.le_refl 0))
      exact MarkerAt.here hkept hchain.marked
  | succ k ih =>
      have hkept := (restriction.exempts_eq_false_iff (chain 0)).mpr
        (hchain.kept 0 (Nat.zero_le (k + 1)))
      have htail : restriction.LeadsToMarker table k (fun i => chain (i + 1)) :=
        { owned := fun i hi => hchain.owned (i + 1) (Nat.succ_lt_succ hi)
          marked := hchain.marked
          inherits := fun i hi => hchain.inherits (i + 1) (Nat.succ_lt_succ hi)
          unmarked := fun i hi => hchain.unmarked (i + 1) (Nat.succ_lt_succ hi)
          kept := fun i hi => hchain.kept (i + 1) (Nat.succ_le_succ hi) }
      exact MarkerAt.above hkept (hchain.unmarked 0 (Nat.succ_pos k))
        (hchain.inherits 0 (Nat.succ_pos k)) (hchain.owned 0 (Nat.succ_pos k)) (ih htail)

def extendChain (symbol : Symbol) (chain : Nat → Symbol) : Nat → Symbol
  | 0 => symbol
  | i + 1 => chain i

theorem leadsToMarker_of_markerAt {restriction : Restriction} {table : SymbolTable}
    {symbol : Symbol} {k : Nat} (hmarker : restriction.MarkerAt table symbol k) :
    ∃ chain, chain 0 = symbol ∧ restriction.LeadsToMarker table k chain := by
  induction hmarker with
  | @here symbol hkept hmarked =>
      refine ⟨fun _ => symbol, rfl, ?_⟩
      exact
        { owned := fun i hi => absurd hi (Nat.not_lt_zero i)
          marked := hmarked
          inherits := fun i hi => absurd hi (Nat.not_lt_zero i)
          unmarked := fun i hi => absurd hi (Nat.not_lt_zero i)
          kept := fun _ _ => (restriction.exempts_eq_false_iff symbol).mp hkept }
  | @above symbol owner k hkept hunmarked hinherits howner _ ih =>
      rcases ih with ⟨chain, hfirst, hchain⟩
      refine ⟨extendChain symbol chain, rfl, ?_⟩
      refine
        { owned := ?_, marked := hchain.marked, inherits := ?_, unmarked := ?_, kept := ?_ }
      · intro i hi
        cases i with
        | zero =>
            rw [← hfirst] at howner
            exact howner
        | succ i =>
            exact hchain.owned i (Nat.lt_of_succ_lt_succ hi)
      · intro i hi
        cases i with
        | zero => exact hinherits
        | succ i => exact hchain.inherits i (Nat.lt_of_succ_lt_succ hi)
      · intro i hi
        cases i with
        | zero => exact hunmarked
        | succ i => exact hchain.unmarked i (Nat.lt_of_succ_lt_succ hi)
      · intro i hi
        cases i with
        | zero => exact (restriction.exempts_eq_false_iff symbol).mp hkept
        | succ i => exact hchain.kept i (Nat.le_of_succ_le_succ hi)

/-!
# The walk

The walk with a limit finds exactly the annotations that are fewer owners away than the limit.
-/

theorem exists_markerAt_of_restrictedWithin {restriction : Restriction} {table : SymbolTable}
    {steps : Nat} {symbol : Symbol}
    (h : restriction.restrictedWithin table steps (some symbol) = true) :
    ∃ k, k < steps ∧ restriction.MarkerAt table symbol k := by
  induction steps generalizing symbol with
  | zero => cases h
  | succ steps ih =>
      rw [restrictedWithin] at h
      split at h
      · cases h
      · rename_i hexempt
        have hkept := Bool.eq_false_iff.mpr hexempt
        split at h
        · rename_i hmarked
          exact ⟨0, Nat.succ_pos steps, MarkerAt.here hkept hmarked⟩
        · rename_i hunmarked
          split at h
          · rename_i hinherits
            cases howner : symbol.owner.bind table.get? with
            | none =>
                rw [howner] at h
                cases steps <;> cases h
            | some owner =>
                rw [howner] at h
                rcases ih h with ⟨k, hk, hmarker⟩
                exact ⟨k + 1, Nat.succ_lt_succ hk,
                  MarkerAt.above hkept (Bool.eq_false_iff.mpr hunmarked) hinherits howner hmarker⟩
          · cases h

theorem restrictedWithin_of_markerAt {restriction : Restriction} {table : SymbolTable}
    {steps : Nat} {symbol : Symbol} {k : Nat} (hmarker : restriction.MarkerAt table symbol k)
    (hk : k < steps) : restriction.restrictedWithin table steps (some symbol) = true := by
  induction hmarker generalizing steps with
  | here hkept hmarked =>
      cases steps with
      | zero => exact absurd hk (Nat.not_lt_zero _)
      | succ steps =>
          rw [restrictedWithin, hkept, hmarked]
          rfl
  | above hkept hunmarked hinherits howner _ ih =>
      cases steps with
      | zero => exact absurd hk (Nat.not_lt_zero _)
      | succ steps =>
          rw [restrictedWithin, hkept, hunmarked, hinherits, howner]
          exact ih (Nat.lt_of_succ_lt_succ hk)

theorem restrictedWithin_iff_markerAt (restriction : Restriction) (table : SymbolTable)
    (steps : Nat) (symbol : Symbol) :
    restriction.restrictedWithin table steps (some symbol) = true ↔
      ∃ k, k < steps ∧ restriction.MarkerAt table symbol k := by
  constructor
  · exact exists_markerAt_of_restrictedWithin
  · rintro ⟨k, hk, hmarker⟩
    exact restrictedWithin_of_markerAt hmarker hk

/-!
# Small tables

The distance to the annotation is a function of the symbol, so the symbols of a chain are all
different, and a chain is no longer than the table.
-/

theorem markerAt_unique {restriction : Restriction} {table : SymbolTable} {symbol : Symbol}
    {j k : Nat} (hj : restriction.MarkerAt table symbol j)
    (hk : restriction.MarkerAt table symbol k) : j = k := by
  induction hj generalizing k with
  | here _ hmarked =>
      cases hk with
      | here => rfl
      | above _ hunmarked =>
          rw [hmarked] at hunmarked
          cases hunmarked
  | above _ hunmarked _ howner _ ih =>
      cases hk with
      | here _ hmarked =>
          rw [hunmarked] at hmarked
          cases hmarked
      | above _ _ _ howner' hk =>
          rw [howner] at howner'
          cases howner'
          rw [ih hk]

theorem exists_markerAt_of_le {restriction : Restriction} {table : SymbolTable} {symbol : Symbol}
    {id : SymbolId} {k : Nat} (hid : table.get? id = some symbol)
    (hk : restriction.MarkerAt table symbol k) {m : Nat} (hm : m ≤ k) :
    ∃ id' symbol', table.get? id' = some symbol' ∧ restriction.MarkerAt table symbol' m := by
  induction hk generalizing id with
  | here hkept hmarked =>
      have hzero : m = 0 := Nat.le_zero.mp hm
      subst hzero
      exact ⟨id, _, hid, MarkerAt.here hkept hmarked⟩
  | above hkept hunmarked hinherits howner hmarker ih =>
      rcases Nat.lt_or_eq_of_le hm with hlt | heq
      · rcases Option.bind_eq_some_iff.mp howner with ⟨ownerId, _, hownerId⟩
        exact ih hownerId (Nat.le_of_lt_succ hlt)
      · subst heq
        exact ⟨id, _, hid, MarkerAt.above hkept hunmarked hinherits howner hmarker⟩

theorem markerAt_lt_size {restriction : Restriction} {table : SymbolTable} {symbol : Symbol}
    {id : SymbolId} {k : Nat} (hid : table.get? id = some symbol)
    (hk : restriction.MarkerAt table symbol k) : k < table.size := by
  -- One symbol for each distance up to `k`; by uniqueness these are different symbols.
  have hall : ∀ m, ∃ id', m ≤ k →
      ∃ symbol', table.get? id' = some symbol' ∧ restriction.MarkerAt table symbol' m := by
    intro m
    by_cases hm : m ≤ k
    · rcases exists_markerAt_of_le hid hk hm with ⟨id', symbol', hget, hmarker⟩
      exact ⟨id', fun _ => ⟨symbol', hget, hmarker⟩⟩
    · exact ⟨0, fun h => absurd h hm⟩
  choose number hnumber using hall
  have hmaps : Set.MapsTo number (Finset.range (k + 1)) (Finset.range table.size) := by
    intro m hm
    have hle : m ≤ k := Nat.le_of_lt_succ (Finset.mem_range.mp hm)
    rcases hnumber m hle with ⟨symbol', hget, _⟩
    exact Finset.mem_coe.mpr (Finset.mem_range.mpr (Array.getElem?_eq_some_iff.mp hget).1)
  have hinj : Set.InjOn number (Finset.range (k + 1)) := by
    intro m hm n hn heq
    rcases hnumber m (Nat.le_of_lt_succ (Finset.mem_range.mp hm)) with ⟨first, hfirst, hmarkerM⟩
    rcases hnumber n (Nat.le_of_lt_succ (Finset.mem_range.mp hn)) with ⟨second, hsecond, hmarkerN⟩
    rw [heq, hsecond] at hfirst
    cases hfirst
    exact markerAt_unique hmarkerM hmarkerN
  have hcard := Finset.card_le_card_of_injOn number hmaps hinj
  rw [Finset.card_range, Finset.card_range] at hcard
  exact hcard

/-!
# The verdict
-/

theorem overlooks_eq_false_iff (usage : Usage) :
    overlooks usage = false ↔
      ¬ (usage.shape = .memberSelect ∧ usage.inImport = true) ∧
        ¬ (usage.shape = .identifier ∧ usage.name = "super") := by
  unfold overlooks
  cases usage.shape <;> simp

theorem matchesUsage_iff_markerAt (restriction : Restriction) (table : SymbolTable)
    (usage : Usage) :
    restriction.matchesUsage table usage = true ↔
      overlooks usage = false ∧ ∃ first, usage.symbol? table = some first ∧
        restriction.covers first.package = true ∧
        ∃ k, k < ownerLimit ∧ restriction.MarkerAt table first k := by
  unfold matchesUsage
  cases overlooks usage with
  | true => simp
  | false =>
      cases usage.symbol? table with
      | none => simp
      | some first =>
          rw [if_neg (by simp)]
          simp only [Bool.and_eq_true, isRestricted, restrictedWithin_iff_markerAt]
          simp

theorem usesRestricted_iff_markerAt (restriction : Restriction) (table : SymbolTable)
    (usage : Usage) (allowed : Nat → Prop) :
    restriction.UsesRestricted table usage allowed ↔
      overlooks usage = false ∧ ∃ first, usage.symbol? table = some first ∧
        restriction.covers first.package = true ∧
        ∃ k, allowed k ∧ restriction.MarkerAt table first k := by
  rw [overlooks_eq_false_iff]
  constructor
  · rintro ⟨hselection, hname, first, hfirst, hignored, hcontains, k, hk, chain, hzero, hchain⟩
    refine ⟨⟨hselection, hname⟩, first, hfirst, ?_, k, hk, ?_⟩
    · simp [covers, hignored, hcontains]
    · rw [← hzero]
      exact markerAt_of_leadsToMarker hchain
  · rintro ⟨⟨hselection, hname⟩, first, hfirst, hcovers, k, hk, hmarker⟩
    have hparts : restriction.isIgnoredNamespace first.package = false ∧
        restriction.containsNamespace first.package = true := by
      simpa [covers] using hcovers
    exact ⟨hselection, hname, first, hfirst, hparts.1, hparts.2, k, hk,
      leadsToMarker_of_markerAt hmarker⟩

/-- The verdict on a usage holds exactly if it is not overlooked and its symbol, which lies in a
covered package, leads to the annotation in fewer than 256 owners; on a table with at most 256
symbols, in any number of owners. -/
theorem matchesUsage_iff_usesRestricted (restriction : Restriction) (table : SymbolTable)
    (usage : Usage) :
    (restriction.matchesUsage table usage = true ↔
      restriction.UsesRestricted table usage (fun k => k < 256)) ∧
    (table.size ≤ 256 →
      (restriction.matchesUsage table usage = true ↔
        restriction.UsesRestricted table usage (fun _ => True))) := by
  constructor
  · rw [matchesUsage_iff_markerAt, usesRestricted_iff_markerAt]
    rfl
  · intro hsize
    rw [matchesUsage_iff_markerAt, usesRestricted_iff_markerAt]
    constructor
    · rintro ⟨hseen, first, hfirst, hcovers, k, _, hmarker⟩
      exact ⟨hseen, first, hfirst, hcovers, k, trivial, hmarker⟩
    · rintro ⟨hseen, first, hfirst, hcovers, k, _, hmarker⟩
      rcases Option.bind_eq_some_iff.mp hfirst with ⟨id, _, hid⟩
      have hlt : k < table.size := markerAt_lt_size hid hmarker
      exact ⟨hseen, first, hfirst, hcovers, k, Nat.lt_of_lt_of_le hlt hsize, hmarker⟩

/-- Two classes that own each other, the second with the annotation, and a method of the first. -/
def cyclicTable : SymbolTable where
  symbols := #[
    { name := "A", qualifiedName := "a.A", package := "a", kind := .classType, owner := some 1 },
    { name := "B", qualifiedName := "a.A.B", package := "a", kind := .classType, owner := some 0
      annotations := ["a.Beta"] },
    { name := "m", qualifiedName := "m", package := "a", kind := .method, owner := some 0 }]

def cyclicUsage : Usage where
  shape := .memberSelect
  name := "m"
  location := { file := default, line := 1, column := 1 }
  target := some 2

theorem usesRestricted_cyclicTable :
    cyclicTable.size ≤ 256 ∧
      UsesRestricted { baseNamespace := "a", marker := "a.Beta" } cyclicTable cyclicUsage
        (fun _ => True) :=
  ⟨by decide, ((matchesUsage_iff_usesRestricted _ _ _).2 (by decide)).mp (by decide)⟩

end Restriction
end RestrictedApi
