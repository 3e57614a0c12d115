import Mathlib.Init

/-! Runs with inserted inputs. A run folds a step over its inputs; a marked list holds the inputs of two
runs at once, the marked ones belonging to the second run only. When every common input keeps a relation
between the two states, and every inserted input keeps it while only the second run moves, the relation
holds at the end. Nothing here is about a particular program. -/

namespace OnboardAutonomy.Insertion

variable {σ ι : Type}

/-- The inputs of the first run. -/
def kept (inputs : List (Bool × ι)) : List ι := (inputs.filter fun input => !input.1).map Prod.snd

/-- The inputs of the second run. -/
def everything (inputs : List (Bool × ι)) : List ι := inputs.map Prod.snd

variable (step : σ → ι → σ)

/-- Every inserted input meets a state of the second run that it may be inserted at. -/
def Admitted (may : σ → ι → Prop) : σ → List (Bool × ι) → Prop
  | _, [] => True
  | s, (inserted, i) :: inputs => (inserted = true → may s i) ∧ Admitted may (step s i) inputs

instance decidableAdmitted {may : σ → ι → Prop} [∀ s i, Decidable (may s i)] :
    ∀ (s : σ) (inputs : List (Bool × ι)), Decidable (Admitted step may s inputs)
  | _, [] => inferInstanceAs (Decidable True)
  | s, (inserted, i) :: inputs =>
      have : Decidable (Admitted step may (step s i) inputs) := decidableAdmitted (step s i) inputs
      inferInstanceAs (Decidable ((inserted = true → may s i) ∧ Admitted step may (step s i) inputs))

/-- An insertion may be judged on a part of the state that steps on its own. -/
theorem Admitted.of_part {π : Type} {part : σ → π} {step' : π → ι → π} {may : π → ι → Prop}
    (hpart : ∀ s i, part (step s i) = step' (part s) i) (inputs : List (Bool × ι)) :
    ∀ s, Admitted step' may (part s) inputs → Admitted step (fun s i => may (part s) i) s inputs := by
  induction inputs with
  | nil =>
      intro _ h
      exact h
  | cons input inputs ih =>
      rintro s ⟨hmay, hrest⟩
      rw [← hpart] at hrest
      exact ⟨hmay, ih _ hrest⟩

theorem Admitted.of_forall {may : σ → ι → Prop} (inputs : List (Bool × ι)) :
    ∀ s, (∀ input ∈ inputs, input.1 = true → ∀ s, may s input.2) → Admitted step may s inputs := by
  induction inputs with
  | nil =>
      intro _ _
      exact trivial
  | cons input inputs ih =>
      intro s hall
      exact ⟨fun hinserted => hall input (List.mem_cons_self ..) hinserted s,
        ih _ fun other hmem => hall other (List.mem_cons_of_mem _ hmem)⟩

/-- The inputs of the first run stand in the second run in the same order. -/
theorem kept_sublist (inputs : List (Bool × ι)) : (kept inputs).Sublist (everything inputs) :=
  List.filter_sublist.map _

theorem foldl_related {may : σ → ι → Prop} {R : σ → σ → Prop}
    (hcommon : ∀ s t i, R s t → R (step s i) (step t i))
    (hinserted : ∀ s t i, R s t → may t i → R s (step t i)) (inputs : List (Bool × ι)) :
    ∀ s t, R s t → Admitted step may t inputs →
      R ((kept inputs).foldl step s) ((everything inputs).foldl step t) := by
  induction inputs with
  | nil =>
      intro _ _ hrel _
      exact hrel
  | cons input inputs ih =>
      obtain ⟨inserted, i⟩ := input
      rintro s t hrel ⟨hmay, hrest⟩
      cases inserted with
      | true => exact ih s (step t i) (hinserted s t i hrel (hmay rfl)) hrest
      | false => exact ih (step s i) (step t i) (hcommon s t i hrel) hrest

end OnboardAutonomy.Insertion
