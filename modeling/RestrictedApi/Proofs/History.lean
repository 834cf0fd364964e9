import RestrictedApi.Program

/-!
# Extracting usages again and again

Usages are extracted unit by unit, in any order and any number of times.  A program changes by that
only in its table.
-/

namespace RestrictedApi
namespace Program

/-- The program after usages have been extracted from the units of the given numbers. -/
def after (program : Program) (history : List Nat) : Program :=
  history.foldl (fun program number => (program.usages number).2) program

variable {program : Program} {number : Nat} {source : SourceUnit}

theorem usages_of_none (hsource : program.units[number]? = none) :
    program.usages number = (.ok [], program) := by
  rw [usages, hsource]

theorem table_usages (hsource : program.units[number]? = some source) :
    (program.usages number).2.table = (program.walk number source).table := by
  rw [usages, hsource]

theorem units_usages (program : Program) (number : Nat) :
    (program.usages number).2.units = program.units := by
  unfold usages
  split <;> rfl

theorem decls_usages (program : Program) (number : Nat) :
    (program.usages number).2.decls = program.decls := by
  unfold usages
  split <;> rfl

theorem units_after (program : Program) (history : List Nat) :
    (program.after history).units = program.units := by
  induction history generalizing program with
  | nil => rfl
  | cons number rest ih => exact (ih _).trans (units_usages program number)

theorem decls_after (program : Program) (history : List Nat) :
    (program.after history).decls = program.decls := by
  induction history generalizing program with
  | nil => rfl
  | cons number rest ih => exact (ih _).trans (decls_usages program number)

theorem usages_eq_ok_iff {usages : List Usage}
    (hsource : program.units[number]? = some source) :
    (program.usages number).1 = .ok usages ↔
      (program.walk number source).tooDeep = none ∧
        (program.walk number source).references.toList.map Reference.usage = usages := by
  rw [Program.usages, hsource]
  cases hdeep : (program.walk number source).tooDeep with
  | none => simp [hdeep]
  | some line => simp [hdeep]

theorem map_usage_after {history : List Nat} {usages : List Usage}
    (hsource : program.units[number]? = some source)
    (husages : ((program.after history).usages number).1 = .ok usages) :
    ((program.after history).walk number source).references.toList.map Reference.usage =
      usages := by
  rw [← units_after program history] at hsource
  exact ((usages_eq_ok_iff hsource).mp husages).2

end Program
end RestrictedApi
