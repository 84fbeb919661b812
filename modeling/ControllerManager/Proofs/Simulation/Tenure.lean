import ControllerManager.Proofs.Simulation.Candidacies

/-!
# Tenures in a world

What becomes of one candidate while the renewals of a world go on, and while it acquires the
leadership. A renewal moves only while it is alive, and takes the leadership away only when it is
lost. So whoever holds a guard is leader until the renewals have lost the leadership.

## Main definitions

* `Simulation.World.At` — the candidate of an index has a property.
* `Simulation.Candidate.Lasts` — a property that the renewals keep.
* `Simulation.Candidate.Seated` — a candidate with a guard that is leader unless it lost the lease.

## Main results

* `Simulation.World.At.renewAll` — the renewals keep a property that lasts.
* `Simulation.World.acquires_advance`, `Simulation.World.acquires_sendActivity` — what comes of an
  acquisition.
-/

namespace ControllerManager.Simulation

open Cluster Election

/-! ### Moves of a renewal -/

/-- The candidate after its renewal moved on. -/
def Candidate.renewed (c : Candidate) (g : Guard) (renewal : Renewal) (due : Option Nat) :
    Candidate :=
  match renewal with
  | .lost _ => { c with isLeader := false, guard := some { g with renewal := renewal, due := due } }
  | _ => { c with guard := some { g with renewal := renewal, due := due } }

/-- A property that a candidate keeps when its renewal moves on, which it does only while it is not
over. -/
def Candidate.Lasts (P : Candidate → Prop) : Prop :=
  ∀ c g renewal due, P c → c.guard = some g → g.renewal.isOver = false →
    P (c.renewed g renewal due)

/-- A candidate with a guard, which is leader unless the renewals have lost the leadership. -/
def Candidate.Seated (c : Candidate) : Prop :=
  ∃ g, c.guard = some g ∧ (c.isLeader = true ∨ ∃ time, g.renewal = .lost time)

theorem Candidate.seated_lasts : Candidate.Lasts Candidate.Seated := by
  rintro c g renewal due ⟨g', hg', hleader⟩ hg hlive
  obtain rfl : g' = g := Option.some.inj (hg'.symm.trans hg)
  have hleader : c.isLeader = true := by
    rcases hleader with hleader | ⟨time, hlost⟩
    · exact hleader
    · rw [hlost] at hlive
      cases hlive
  cases renewal with
  | lost time => exact ⟨_, rfl, .inr ⟨time, rfl⟩⟩
  | resting | attempting | crashed | stopped => exact ⟨_, rfl, .inl hleader⟩

theorem Candidate.guardless_lasts : Candidate.Lasts fun c => c.guard = none := by
  intro c g renewal due hnone hg
  rw [hnone] at hg
  cases hg

namespace World

variable {w w' : World} {i j : Nat} {c : Candidate} {P : Candidate → Prop}

/-- The candidate of an index has a property. -/
def At (w : World) (i : Nat) (P : Candidate → Prop) : Prop := ∃ c, w.candidate? i = some c ∧ P c

theorem At.congr (h : w.At i P) (hcandidates : w'.candidates = w.candidates) : w'.At i P := by
  obtain ⟨c, hc, hP⟩ := h
  exact ⟨c, by rwa [candidate?, hcandidates], hP⟩

theorem candidate?_setCandidate_self (h : w.candidate? i = some c) (c' : Candidate) :
    (w.setCandidate i c').candidate? i = some c' :=
  List.getElem?_set_self (List.getElem?_eq_some_iff.1 h).1

theorem candidate?_setCandidate_of_ne (h : j ≠ i) (c' : Candidate) :
    (w.setCandidate i c').candidate? j = w.candidate? j :=
  List.getElem?_set_ne h.symm

theorem setRenewal_candidates (g : Guard) (renewal : Renewal) (due : Option Nat) :
    (w.setRenewal i c g renewal due).candidates =
      (w.setCandidate i (c.renewed g renewal due)).candidates := by
  cases renewal <;> rfl

/-- What a move of a renewal leaves of the candidates. -/
def Moves (i : Nat) (w w' : World) : Prop :=
  w'.candidates = w.candidates ∨ ∃ c g renewal due, w.candidate? i = some c ∧ c.guard = some g ∧
    g.renewal.isOver = false ∧
    w'.candidates = (w.setCandidate i (c.renewed g renewal due)).candidates

theorem moves_setRenewal {g : Guard} {r : Renewal} (due : Option Nat) (hc : w.candidate? i = some c)
    (hg : c.guard = some g) (hlive : g.renewal.isOver = false)
    (hcandidates : w'.candidates = w.candidates) :
    w.Moves i (w'.setRenewal i c g r due) := by
  refine .inr ⟨c, g, r, due, hc, hg, hlive, ?_⟩
  rw [setRenewal_candidates]
  exact congrArg (List.set · i _) hcandidates

theorem moves_wake (w : World) (i : Nat) : w.Moves i (w.wake i) := by
  unfold wake
  split
  · rename_i c hc
    split
    · rename_i g hg
      split
      · rename_i last wake hr
        split_ifs
        · exact moves_setRenewal none hc hg (by rw [hr]; rfl) rfl
        · exact .inl rfl
      · rename_i last deadline a hr
        split
        · split_ifs
          · exact moves_setRenewal none hc hg (by rw [hr]; rfl) rfl
          · exact moves_setRenewal none hc hg (by rw [hr]; rfl) rfl
          · exact .inl rfl
        · exact .inl rfl
      · exact .inl rfl
    · exact .inl rfl
  · exact .inl rfl

theorem moves_sendRenewal (w : World) (i : Nat) : w.Moves i (w.sendRenewal i) := by
  unfold sendRenewal
  split
  · rename_i c hc
    split
    · rename_i g hg
      split
      · rename_i last deadline a hr hdue
        have hlive : g.renewal.isOver = false := by rw [hr]; rfl
        have hsent := (w.send_candidates c.elector a.call).1
        rcases hsend : w.send c.elector a.call with ⟨w', answer | due⟩ <;> rw [hsend] at hsent
        · exact moves_setRenewal none hc hg hlive hsent
        · exact moves_setRenewal (some due) hc hg hlive hsent
      · exact .inl rfl
    · exact .inl rfl
  · exact .inl rfl

theorem At.moves (h : w.At i P) (hP : Candidate.Lasts P) (hmoves : w.Moves j w') : w'.At i P := by
  rcases hmoves with hcandidates | ⟨c, g, renewal, due, hc, hg, hlive, hcandidates⟩
  · exact h.congr hcandidates
  · refine At.congr ?_ hcandidates
    obtain ⟨d, hd, hPd⟩ := h
    by_cases hij : i = j
    · subst hij
      obtain rfl : d = c := Option.some.inj (hd.symm.trans hc)
      exact ⟨_, candidate?_setCandidate_self hc _, hP d g renewal due hPd hg hlive⟩
    · exact ⟨d, (candidate?_setCandidate_of_ne hij _).trans hd, hPd⟩

theorem At.sendRounds (h : w.At i P) (hP : Candidate.Lasts P) (rounds : Nat) :
    (w.sendRounds rounds).At i P := by
  induction rounds generalizing w with
  | zero => exact h
  | succ rounds ih =>
    unfold World.sendRounds
    split
    · exact h
    · exact ih (List.foldlRecOn (motive := fun w => At w i P) _ _ h
        fun w hw j _ => hw.moves hP (w.moves_sendRenewal j))

/-- **The renewals keep what lasts.** -/
theorem At.renewAll (h : w.At i P) (hP : Candidate.Lasts P) : w.renewAll.At i P :=
  At.sendRounds (List.foldlRecOn (motive := fun w => At w i P) _ _ h
    fun w hw j _ => hw.moves hP (w.moves_wake j)) hP 2

/-! ### Acquisitions -/

/-- What comes of an acquisition of a candidate without a deadline: it goes on, or the candidate has
a guard, or it crashes. -/
def Acquires (w : World) (i : Nat) (c : Candidate) (r : World × Progress) : Prop :=
  (∃ phase, r.2 = .inl (.acquiring i none phase) ∧ r.1.candidates = w.candidates) ∨
  (∃ g, r.2 = .inr .acquired ∧ r.1.candidates =
    (w.setCandidate i { c with isLeader := c.guard.isNone, guard := some g }).candidates) ∨
  ∃ crash, r.2 = .inr (.crashed crash)

theorem acquires_acquireAnswer (a : Attempt) (answer : LeaseAnswer)
    (hcandidates : w'.candidates = w.candidates) :
    w.Acquires i c (w'.acquireAnswer i none c a answer) := by
  unfold acquireAnswer
  rcases a.receive c.elector answer with a' | (hold | refusal | error | crash)
  · exact .inl ⟨_, rfl, hcandidates⟩
  · exact .inr (.inl ⟨_, rfl, congrArg (List.set · i _) hcandidates⟩)
  · exact .inl ⟨_, rfl, hcandidates⟩
  · exact .inl ⟨_, rfl, hcandidates⟩
  · exact .inr (.inr ⟨crash, rfl⟩)

theorem acquires_advance (hc : w.candidate? i = some c) (phase : AcquirePhase) :
    w.Acquires i c (w.advance (.acquiring i none phase)) := by
  have hstay : w.Acquires i c (w, .inl (.acquiring i none phase)) := .inl ⟨phase, rfl, rfl⟩
  unfold advance
  rcases phase with ⟨a, _ | due⟩ | ⟨wake, verdict⟩
  · simp only [hc]
    exact hstay
  · by_cases hdue : due ≤ w.time
    · have hanswer : w.Acquires i c
          ((w.answer a.call).1.acquireAnswer i none c a (w.answer a.call).2) :=
        acquires_acquireAnswer a _ rfl
      simp only [hc, if_pos hdue]
      rcases hresult : (w.answer a.call).1.acquireAnswer i none c a (w.answer a.call).2 with
        ⟨w', activity | outcome⟩
      · rw [hresult] at hanswer
        exact hanswer
      · rw [hresult] at hanswer
        exact hanswer
    · simp only [hc, if_neg hdue]
      exact hstay
  · by_cases hwake : wake ≤ w.time
    · simp only [hc, if_pos hwake]
      exact .inl ⟨_, rfl, rfl⟩
    · simp only [hc, if_neg hwake]
      exact hstay

theorem acquires_sendActivity (hc : w.candidate? i = some c) {phase : AcquirePhase}
    {r : World × Progress} (h : w.sendActivity (.acquiring i none phase) = some r) :
    w.Acquires i c r := by
  rcases phase with ⟨a, _ | due⟩ | ⟨wake, verdict⟩
  · simp only [sendActivity, hc, Option.map_some, Option.some.injEq] at h
    have hsent := (w.send_candidates c.elector a.call).1
    rcases hsend : w.send c.elector a.call with ⟨w', answer | due⟩ <;> rw [hsend] at h hsent
    · rw [← h]
      exact acquires_acquireAnswer a answer hsent
    · rw [← h]
      exact .inl ⟨_, rfl, hsent⟩
  · cases h
  · cases h

end World

end ControllerManager.Simulation
