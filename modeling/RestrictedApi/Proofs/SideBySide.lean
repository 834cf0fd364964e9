import Mathlib.Data.List.Forall2

/-!
# Side by side

Two lists, of which the second one has a twin for each item of the first one that matters; and two
runs of steps, which are compared as long as the first one stays alive.
-/

namespace RestrictedApi

/-!
# Lists
-/

/-- The second list has a twin for every item of the first one, except that idle items may be left
out. -/
inductive Thinned {α β : Type} (rel : α → β → Prop) (idle : α → Prop) :
    List α → List β → Prop where
  | nil : Thinned rel idle [] []
  | keep {item : α} {twin : β} {items : List α} {twins : List β} : rel item twin →
      Thinned rel idle items twins → Thinned rel idle (item :: items) (twin :: twins)
  | drop {item : α} {items : List α} {twins : List β} : idle item →
      Thinned rel idle items twins → Thinned rel idle (item :: items) twins

section Lists

variable {α β γ δ : Type} {rel : α → β → Prop} {idle : α → Prop}
variable {items : List α} {twins : List β}

theorem map_eq_of_forall₂ (h : List.Forall₂ rel items twins) {f : α → γ} {g : β → γ}
    (hrel : ∀ {item twin}, rel item twin → g twin = f item) : twins.map g = items.map f := by
  induction h with
  | nil => rfl
  | cons hfirst _ ih => rw [List.map_cons, List.map_cons, hrel hfirst, ih]

theorem exists_of_forall₂ (h : List.Forall₂ rel items twins) {item : α} (hitem : item ∈ items) :
    ∃ twin, rel item twin := by
  induction h with
  | nil => cases hitem
  | cons hfirst _ ih =>
      rcases List.mem_cons.mp hitem with heq | hrest
      · exact ⟨_, heq ▸ hfirst⟩
      · exact ih hrest

theorem head?_of_forall₂ (h : List.Forall₂ rel items twins) :
    Option.Rel rel items.head? twins.head? := by
  cases h with
  | nil => exact .none
  | cons hfirst _ => exact .some hfirst

theorem getLast?_of_forall₂ (h : List.Forall₂ rel items twins) :
    Option.Rel rel items.getLast? twins.getLast? := by
  rw [← List.head?_reverse, ← List.head?_reverse]
  exact head?_of_forall₂ (List.forall₂_reverse_iff.mpr h)

theorem map_eq_of_rel {item : Option α} {twin : Option β} (h : Option.Rel rel item twin)
    {f : α → γ} {g : β → γ} (hrel : ∀ {item twin}, rel item twin → g twin = f item) :
    twin.map g = item.map f := by
  cases h with
  | none => rfl
  | some h => exact congrArg some (hrel h)

namespace Thinned

theorem imp_mem (h : Thinned rel idle items twins) {rel' : α → β → Prop} {idle' : α → Prop}
    (hrel : ∀ {item twin}, item ∈ items → rel item twin → rel' item twin)
    (hidle : ∀ {item}, item ∈ items → idle item → idle' item) : Thinned rel' idle' items twins := by
  induction h with
  | nil => exact .nil
  | keep hkeep _ ih =>
      exact .keep (hrel List.mem_cons_self hkeep)
        (ih (fun hitem => hrel (.tail _ hitem)) fun hitem => hidle (.tail _ hitem))
  | drop hdrop _ ih =>
      exact .drop (hidle List.mem_cons_self hdrop)
        (ih (fun hitem => hrel (.tail _ hitem)) fun hitem => hidle (.tail _ hitem))

theorem map (h : Thinned rel idle items twins) {f : α → γ} {g : β → δ} {rel' : γ → δ → Prop}
    {idle' : γ → Prop} (hrel : ∀ {item twin}, rel item twin → rel' (f item) (g twin))
    (hidle : ∀ {item}, idle item → idle' (f item)) :
    Thinned rel' idle' (items.map f) (twins.map g) := by
  induction h with
  | nil => exact .nil
  | keep hkeep _ ih => exact .keep (hrel hkeep) ih
  | drop hdrop _ ih => exact .drop (hidle hdrop) ih

theorem refl (items : List α) : Thinned Eq idle items items := by
  induction items with
  | nil => exact .nil
  | cons item rest ih => exact .keep rfl ih

theorem of_forall₂ (h : List.Forall₂ rel items twins) :
    Thinned rel (fun _ => False) items twins := by
  induction h with
  | nil => exact .nil
  | cons hfirst _ ih => exact .keep hfirst ih

theorem forall₂ (h : Thinned rel idle items twins) (hidle : ∀ {item}, ¬idle item) :
    List.Forall₂ rel items twins := by
  induction h with
  | nil => exact .nil
  | keep hkeep _ ih => exact .cons hkeep ih
  | drop hdrop _ _ => exact absurd hdrop hidle

theorem filterMap_forall₂ (h : Thinned rel idle items twins) {f : α → Option γ} {g : β → Option δ}
    {rel' : γ → δ → Prop} (hrel : ∀ {item twin}, rel item twin → Option.Rel rel' (f item) (g twin))
    (hidle : ∀ {item}, idle item → f item = none) :
    List.Forall₂ rel' (items.filterMap f) (twins.filterMap g) := by
  induction h with
  | nil => exact .nil
  | keep hkeep _ ih =>
      rw [List.filterMap_cons, List.filterMap_cons]
      exact (hrel hkeep).casesOn (fun hfound => .cons hfound ih) ih
  | drop hdrop _ ih =>
      rw [List.filterMap_cons, hidle hdrop]
      exact ih

theorem findSome?_eq (h : Thinned rel idle items twins) {f : α → Option γ} {g : β → Option γ}
    (hrel : ∀ {item twin}, rel item twin → g twin = f item)
    (hidle : ∀ {item}, idle item → f item = none) : twins.findSome? g = items.findSome? f := by
  induction h with
  | nil => rfl
  | keep hkeep _ ih => rw [List.findSome?_cons, List.findSome?_cons, hrel hkeep, ih]
  | drop hdrop _ ih => rw [List.findSome?_cons, hidle hdrop, ih]

/-!
Tests that do not tell an item from its twin.
-/

variable {p : α → Bool} {q : β → Bool} (h : Thinned rel idle items twins)
  (hrel : ∀ {item twin}, rel item twin → q twin = p item)

include h hrel

theorem filter : Thinned rel (fun item => idle item ∧ p item = true) (items.filter p)
    (twins.filter q) := by
  induction h with
  | nil => exact .nil
  | keep hkeep _ ih =>
      rw [List.filter_cons, List.filter_cons, hrel hkeep]
      split
      · exact .keep hkeep ih
      · exact ih
  | drop hdrop _ ih =>
      rw [List.filter_cons]
      split
      · exact .drop ⟨hdrop, ‹_›⟩ ih
      · exact ih

variable (hidle : ∀ {item}, idle item → p item = false)

include hidle

theorem filter_forall₂ : List.Forall₂ rel (items.filter p) (twins.filter q) := by
  refine (h.filter hrel).forall₂ ?_
  rintro item ⟨hitem, htest⟩
  exact Bool.false_ne_true ((hidle hitem).symm.trans htest)

theorem find? : Option.Rel rel (items.find? p) (twins.find? q) := by
  rw [← List.head?_filter, ← List.head?_filter]
  exact head?_of_forall₂ (h.filter_forall₂ hrel hidle)

theorem any_eq : twins.any q = items.any p := by
  induction h with
  | nil => rfl
  | keep hkeep _ ih => rw [List.any_cons, List.any_cons, hrel hkeep, ih]
  | drop hdrop _ ih => rw [List.any_cons, hidle hdrop, Bool.false_or, ih]

end Thinned

end Lists

/-!
# Runs
-/

/-- What two runs have in common, and whether the first one is still alive. -/
structure Comparison (σ : Type) where
  alike : σ → σ → Prop
  live : σ → Prop

def Maps {α β : Type} (image : α → β) (value : α) (twin : β) : Prop :=
  twin = image value

namespace Comparison

variable {σ α β γ δ : Type}

/-- Two steps agree on what they return and on the states that they lead to, as long as the first
run stays alive.  It never comes back to life. -/
structure Steps (c : Comparison σ) (rel : α → β → Prop) (step : StateM σ α) (twin : StateM σ β) :
    Prop where
  live : ∀ state, c.live (step.run state).2 → c.live state
  run : ∀ {state stateTwin}, c.alike state stateTwin → c.live (step.run state).2 →
    rel (step.run state).1 (twin.run stateTwin).1 ∧
      c.alike (step.run state).2 (twin.run stateTwin).2

/-- A step that changes nothing, as long as the run stays alive. -/
structure Passes (c : Comparison σ) (step : StateM σ α) : Prop where
  run : ∀ state, c.live (step.run state).2 → (step.run state).2 = state

variable {c : Comparison σ} {rel : α → β → Prop}

namespace Passes

theorem pure (value : α) : c.Passes (Pure.pure value) :=
  ⟨fun _ _ => rfl⟩

theorem bind {step : StateM σ α} {next : α → StateM σ β} (hstep : c.Passes step)
    (hnext : ∀ value, c.Passes (next value)) : c.Passes (step >>= next) := by
  constructor
  intro state hlive
  change ((next (step.run state).1).run (step.run state).2).2 = state
  change c.live ((next (step.run state).1).run (step.run state).2).2 at hlive
  have hafter := (hnext _).run _ hlive
  rw [hafter] at hlive ⊢
  exact hstep.run state hlive

theorem bind_get {next : σ → StateM σ α} (hnext : ∀ state, c.Passes (next state)) :
    c.Passes (get >>= next) :=
  ⟨fun state => (hnext state).run state⟩

theorem discard {step : StateM σ α} (hstep : c.Passes step) : c.Passes (discard step) :=
  hstep.bind fun _ => pure _

theorem forM {items : List α} {step : α → StateM σ PUnit}
    (hstep : ∀ item, item ∈ items → c.Passes (step item)) : c.Passes (items.forM step) := by
  induction items with
  | nil => exact pure _
  | cons item rest ih =>
      exact (hstep item List.mem_cons_self).bind fun _ =>
        ih fun later hlater => hstep later (.tail _ hlater)

theorem foldlM {items : List α} {step : β → α → StateM σ β}
    (hstep : ∀ item, item ∈ items → ∀ value, c.Passes (step value item)) (start : β) :
    c.Passes (items.foldlM step start) := by
  induction items generalizing start with
  | nil => exact pure _
  | cons item rest ih =>
      rw [List.foldlM_cons]
      exact (hstep item List.mem_cons_self start).bind fun value =>
        ih (fun later hlater => hstep later (.tail _ hlater)) value

end Passes

namespace Steps

theorem pure_rel {value : α} {twin : β} (h : rel value twin) :
    c.Steps rel (Pure.pure value) (Pure.pure twin) :=
  ⟨fun _ hlive => hlive, fun hstate _ => ⟨h, hstate⟩⟩

theorem pure {f : α → β} (value : α) :
    c.Steps (Maps f) (Pure.pure value) (Pure.pure (f value)) :=
  pure_rel rfl

theorem imp {rel' : α → β → Prop} {step : StateM σ α} {twin : StateM σ β}
    (h : c.Steps rel step twin)
    (hrel : ∀ {value valueTwin}, rel value valueTwin → rel' value valueTwin) :
    c.Steps rel' step twin :=
  ⟨h.live, fun hstate hlive => (h.run hstate hlive).imp hrel id⟩

theorem bind_rel {rel' : γ → δ → Prop} {step : StateM σ α} {twin : StateM σ β}
    {next : α → StateM σ γ} {nextTwin : β → StateM σ δ} (hstep : c.Steps rel step twin)
    (hlive : ∀ value state, c.live ((next value).run state).2 → c.live state)
    (hnext : ∀ {value valueTwin}, rel value valueTwin →
      c.Steps rel' (next value) (nextTwin valueTwin)) :
    c.Steps rel' (step >>= next) (twin >>= nextTwin) := by
  refine ⟨fun state hend => hstep.live state (hlive _ _ hend), fun hstate hend => ?_⟩
  rcases hstep.run hstate (hlive _ _ hend) with ⟨hvalue, hafter⟩
  exact (hnext hvalue).run hafter hend

theorem bind {rel' : γ → δ → Prop} {f : α → β} {step : StateM σ α} {twin : StateM σ β}
    {next : α → StateM σ γ} {nextTwin : β → StateM σ δ} (hstep : c.Steps (Maps f) step twin)
    (hnext : ∀ value, c.Steps rel' (next value) (nextTwin (f value))) :
    c.Steps rel' (step >>= next) (twin >>= nextTwin) := by
  refine hstep.bind_rel (fun value => (hnext value).live) ?_
  rintro value _ rfl
  exact hnext value

theorem discard {step : StateM σ α} {twin : StateM σ β} (hstep : c.Steps rel step twin) :
    c.Steps (Maps id) (discard step) (discard twin) := by
  change c.Steps _ (step >>= fun _ => Pure.pure ()) (twin >>= fun _ => Pure.pure ())
  exact hstep.bind_rel (fun _ _ hlive => hlive) fun _ => pure ()

theorem map_left {rel' : γ → β → Prop} {step : StateM σ α} {twin : StateM σ β} {change : α → γ}
    (hstep : c.Steps rel step twin)
    (hrel : ∀ {value valueTwin}, rel value valueTwin → rel' (change value) valueTwin) :
    c.Steps rel' (step >>= fun value => Pure.pure (change value)) twin :=
  ⟨hstep.live, fun hstate hlive => (hstep.run hstate hlive).imp hrel id⟩

theorem bind_get {next : σ → StateM σ α} {nextTwin : σ → StateM σ β}
    (hlive : ∀ value state, c.live ((next value).run state).2 → c.live state)
    (hnext : ∀ {state stateTwin}, c.alike state stateTwin →
      c.Steps rel (next state) (nextTwin stateTwin)) :
    c.Steps rel (get >>= next) (get >>= nextTwin) :=
  ⟨fun state => hlive state state, fun hstate => (hnext hstate).run hstate⟩

/-- A step that passes through can be left out. -/
theorem passes_bind {next : γ → StateM σ α} {twin : StateM σ β} {step : StateM σ γ}
    (hstep : c.Passes step) (hnext : ∀ state, c.Steps rel (next (step.run state).1) twin) :
    c.Steps rel (step >>= next) twin := by
  have hsame : ∀ state, c.live ((step >>= next).run state).2 → (step.run state).2 = state :=
    fun state hend => hstep.run state ((hnext _).live _ hend)
  constructor
  · intro state hend
    have hlive : c.live (step.run state).2 := (hnext _).live _ hend
    rwa [hsame state hend] at hlive
  · intro state stateTwin hstate hend
    have hafter : c.alike (step.run state).2 stateTwin := by rwa [hsame state hend]
    exact (hnext _).run hafter hend

variable {items : List γ} {twins : List δ} {relItems : γ → δ → Prop} {idle : γ → Prop}

theorem forM {step : γ → StateM σ PUnit} {stepTwin : δ → StateM σ PUnit}
    (h : Thinned relItems idle items twins)
    (hrel : ∀ {item twin}, relItems item twin → c.Steps (Maps id) (step item) (stepTwin twin))
    (hidle : ∀ {item}, idle item → c.Passes (step item)) :
    c.Steps (Maps id) (items.forM step) (twins.forM stepTwin) := by
  induction h with
  | nil => exact pure PUnit.unit
  | keep hkeep _ ih => exact (hrel hkeep).bind fun _ => ih
  | drop hdrop _ ih => exact passes_bind (hidle hdrop) fun _ => ih

theorem forM_all {step : γ → StateM σ PUnit} {stepTwin : δ → StateM σ PUnit}
    (h : List.Forall₂ relItems items twins)
    (hrel : ∀ {item twin}, relItems item twin → c.Steps (Maps id) (step item) (stepTwin twin)) :
    c.Steps (Maps id) (items.forM step) (twins.forM stepTwin) :=
  forM (.of_forall₂ h) hrel False.elim

theorem mapM {idleValue : α → Prop} {step : γ → StateM σ α} {stepTwin : δ → StateM σ β}
    (h : Thinned relItems idle items twins)
    (hrel : ∀ {item twin}, relItems item twin → c.Steps rel (step item) (stepTwin twin))
    (hidle : ∀ {item}, idle item →
      c.Passes (step item) ∧ ∀ state, idleValue ((step item).run state).1) :
    c.Steps (Thinned rel idleValue) (items.mapM step) (twins.mapM stepTwin) := by
  induction h with
  | nil => exact pure_rel .nil
  | keep hkeep _ ih =>
      rw [List.mapM_cons, List.mapM_cons]
      refine (hrel hkeep).bind_rel (fun _ => ih.live) fun hvalue => ?_
      exact ih.bind_rel (fun _ _ hlive => hlive) fun hrest => pure_rel (.keep hvalue hrest)
  | drop hdrop _ ih =>
      rw [List.mapM_cons]
      exact passes_bind (hidle hdrop).1 fun state =>
        ih.map_left fun hrest => .drop ((hidle hdrop).2 state) hrest

theorem foldlM {step : α → γ → StateM σ α} {stepTwin : β → δ → StateM σ β}
    (h : Thinned relItems idle items twins) (htotal : ∀ value, ∃ valueTwin, rel value valueTwin)
    (hrel : ∀ {item twin value valueTwin}, relItems item twin → rel value valueTwin →
      c.Steps rel (step value item) (stepTwin valueTwin twin))
    (hidle : ∀ {item}, idle item →
      ∀ value, c.Passes (step value item) ∧ ∀ valueTwin, rel value valueTwin)
    {start : α} {startTwin : β} (hstart : rel start startTwin) :
    c.Steps rel (items.foldlM step start) (twins.foldlM stepTwin startTwin) := by
  induction h generalizing start startTwin with
  | nil => exact pure_rel hstart
  | keep hkeep _ ih =>
      rw [List.foldlM_cons, List.foldlM_cons]
      refine (hrel hkeep hstart).bind_rel (fun value => ?_) ih
      rcases htotal value with ⟨valueTwin, hvalue⟩
      exact (ih hvalue).live
  | drop hdrop _ ih =>
      rw [List.foldlM_cons]
      exact passes_bind (hidle hdrop start).1 fun _ => ih ((hidle hdrop _).2 startTwin)

theorem foldlM_all {f : α → β} {step : α → γ → StateM σ α} {stepTwin : β → δ → StateM σ β}
    (h : List.Forall₂ relItems items twins)
    (hrel : ∀ {item twin}, relItems item twin → ∀ value,
      c.Steps (Maps f) (step value item) (stepTwin (f value) twin)) (start : α) :
    c.Steps (Maps f) (items.foldlM step start) (twins.foldlM stepTwin (f start)) := by
  have htotal : ∀ value, ∃ valueTwin, Maps f value valueTwin := fun value => ⟨_, rfl⟩
  refine foldlM (.of_forall₂ h) htotal ?_ False.elim rfl
  rintro item twin value _ hitem rfl
  exact hrel hitem value

end Steps

end Comparison

end RestrictedApi
