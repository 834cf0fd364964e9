import RestrictedApi.Proofs.Mirror.Visit

/-!
# Every walk agrees with renumbering

A tree is its own twin, so a walk from a table in which other symbols follow those of the program
goes side by side with the walk from the table of the program: it is the same walk, renumbered.
-/

namespace RestrictedApi

def Edit.keep : Edit :=
  ⟨fun _ => false, false⟩

@[simp] theorem Edit.kind_keep (kind : NodeKind) : Edit.keep.kind kind = kind := by
  cases kind <;> rfl

mutual

theorem Node.edited_keep (node : Node) : node.edited .keep = node := by
  cases node with
  | mk kind named role line column offset length text children =>
      rw [Node.edited, Node.editedIn_keep children, Edit.kind_keep]

theorem Node.editedIn_keep (nodes : List Node) : Node.editedIn .keep nodes = nodes := by
  cases nodes with
  | nil => rw [Node.editedIn]
  | cons node rest =>
      rw [Node.editedIn, if_neg (show ¬ Edit.keep.drops node = true from Bool.false_ne_true),
        Node.edited_keep node, Node.editedIn_keep rest]

end

def Twinning.same : Twinning where
  edit := .keep
  lossy := False
  twins := Eq
  node h := by rw [Node.edited_keep, h]
  children h := h ▸ .refl _
  path h h' := by rw [h, h']

namespace Renumbering

variable {r : Renumbering} {simple : Prop} {unit : WalkedUnit}

def mirror (h : unit.decls.Sound simple r.base) : Mirror where
  toTwinning := .same
  toRenumbering := r
  unit := unit
  sites := unit.decls.sites
  sites_eq hsame := congrArg (fun site : Site => unit.decls.sites[site.path]?) (Eq.symm hsame)
  simple := simple
  sound := h

theorem reference_of_alike {h : unit.decls.Sound simple r.base} {reference twin : Reference}
    (halike : reference.Alike (mirror h) twin) : twin = r.reference reference := by
  rcases halike.reported with ⟨site, siteTwin, hsame, hpath, hpathTwin, _⟩
  have hplace : twin.path = reference.path := by
    rw [hpathTwin, hpath, show site = siteTwin from hsame]
  calc
    twin = ⟨twin.path, twin.usage⟩ := rfl
    _ = r.reference reference := by
      rw [hplace, halike.usage]
      rfl

theorem binding_of_alike {h : unit.decls.Sound simple r.base} {binding twin : Binding}
    (halike : binding.Alike (mirror h) twin) : twin = r.binding binding := by
  rcases halike.declared with ⟨site, siteTwin, hsame, hpath, hpathTwin⟩
  have hplace : twin.path = binding.path := by
    rw [hpathTwin, hpath, show site = siteTwin from hsame]
  rw [halike.same, hplace]
  rfl

/-- The walk over a unit from a table in which symbols follow those of the program. -/
theorem walk_inserted (h : unit.decls.Sound simple r.base) {table : SymbolTable}
    (htable : table.toList = r.base.toList ++ r.inserted) (root : Node) :
    unit.walk table root = r.walk (unit.walk r.base root) := by
  have hwalk : (unit.walk r.base root).Alike (mirror h) (unit.walk table root) :=
    Mirror.alike_walk htable rfl False.elim
  generalize unit.walk r.base root = walk at hwalk
  generalize unit.walk table root = walk' at hwalk
  have hreferences : walk'.references = walk.references.map r.reference := by
    have hlists := map_eq_of_forall₂ hwalk.references (g := id) reference_of_alike
    rw [← Array.toList_inj, Array.toList_map, ← hlists, List.map_id]
  have hbindings : walk'.bindings = walk.bindings.map r.binding := by
    have hlists := map_eq_of_forall₂ hwalk.bindings (g := id) binding_of_alike
    rw [← Array.toList_inj, Array.toList_map, ← hlists, List.map_id]
  calc
    walk' = { walk'.scope with references := walk'.references, bindings := walk'.bindings } := rfl
    _ = r.walk walk := by
      rw [hwalk.scope, hreferences, hbindings]
      rfl

end Renumbering

end RestrictedApi
