import Mathlib.Data.List.Basic

/-!
# Intakes

A store takes entries one at a time and may refuse one. Of a list of entries it takes those in front
of the first that it refuses, and keeps them. What it takes is told by its own answers.

## Main definitions

* `Intake.addAll` — a store after the entries of a list, up to the first that it refuses.
* `Intake.accepted` — the entries of a list that it took.

## Main results

* `Intake.addAll_cases` — a list is taken as a whole, or up to an entry that is refused.
* `Intake.holds_addAll` — what holds of a store and of all that it took.
-/

namespace ControllerManager.Intake

variable {σ α ε : Type} (add : σ → α → Except ε σ)

/-- A store with the entries of a list up to the first that it refuses, and why it does. -/
def addAll (s : σ) : List α → σ × Option ε
  | [] => (s, none)
  | e :: rest =>
    match add s e with
    | .ok s => addAll s rest
    | .error why => (s, some why)

/-- The entries of a list in front of the first that a store refuses. -/
def accepted (s : σ) : List α → List α
  | [] => []
  | e :: rest =>
    match add s e with
    | .ok s => e :: accepted s rest
    | .error _ => []

/-- A list is taken as a whole, or up to an entry that the store refuses with all in front of it. -/
theorem addAll_cases (s : σ) (es : List α) :
    (accepted add s es = es ∧ (addAll add s es).2 = none) ∨
      ∃ e after why, es = accepted add s es ++ e :: after ∧ (addAll add s es).2 = some why ∧
        add (addAll add s es).1 e = .error why := by
  induction es generalizing s with
  | nil => exact .inl ⟨rfl, rfl⟩
  | cons e rest ih =>
    cases h : add s e with
    | error why => exact .inr ⟨e, rest, why, by simp [accepted, h], by simp [addAll, h],
        by simp [addAll, h]⟩
    | ok s' =>
      have hfirst : accepted add s (e :: rest) = e :: accepted add s' rest := by simp [accepted, h]
      have hstore : addAll add s (e :: rest) = addAll add s' rest := by simp [addAll, h]
      rw [hfirst, hstore]
      obtain ⟨hall, hnone⟩ | ⟨e', after, why, hcut, hwhy, hrefused⟩ := ih s'
      · exact .inl ⟨by rw [hall], hnone⟩
      · exact .inr ⟨e', after, why, congrArg (e :: ·) hcut, hwhy, hrefused⟩

variable {add}

theorem addAll_append_of_none {s : σ} {es : List α} (h : (addAll add s es).2 = none)
    (es' : List α) : addAll add s (es ++ es') = addAll add (addAll add s es).1 es' := by
  induction es generalizing s with
  | nil => rfl
  | cons e rest ih =>
    cases hfirst : add s e with
    | error why => simp [addAll, hfirst] at h
    | ok s' =>
      simp only [addAll, hfirst, List.cons_append] at h ⊢
      exact ih h

theorem addAll_append_of_some {s : σ} {es : List α} {why : ε} (h : (addAll add s es).2 = some why)
    (es' : List α) : addAll add s (es ++ es') = addAll add s es := by
  induction es generalizing s with
  | nil => cases h
  | cons e rest ih =>
    cases hfirst : add s e with
    | error why => simp [addAll, hfirst]
    | ok s' =>
      simp only [addAll, hfirst, List.cons_append] at h ⊢
      exact ih h

/-- What one more entry keeps of a store and all that it took, the entries of a list keep. -/
theorem holds_addAll {Holds : σ → List α → Prop}
    (hadd : ∀ {s s' log e}, Holds s log → add s e = .ok s' → Holds s' (log ++ [e])) {s : σ}
    {log : List α} (h : Holds s log) (es : List α) :
    Holds (addAll add s es).1 (log ++ accepted add s es) := by
  induction es generalizing s log with
  | nil => simpa [addAll, accepted] using h
  | cons e rest ih =>
    cases hfirst : add s e with
    | error why => simpa [addAll, accepted, hfirst] using h
    | ok s' => simpa [addAll, accepted, hfirst] using ih (hadd h hfirst)

end ControllerManager.Intake
