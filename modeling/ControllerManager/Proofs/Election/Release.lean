import ControllerManager.Proofs.Election.Contest

/-!
# Giving the lease back

A release reads the lease and, where its elector holds it, removes the holder by a patch that names
no version. The patch therefore hits whatever is stored when it arrives: it takes the lease from
somebody else exactly if a takeover was accepted since the reading.

## Main definitions

* `Election.Contest.TakesAway` — a lease of somebody else loses its holder or its time of renewal.
* `Election.Contest.Interlude` — events in which only attempts of others reach the server.

## Main results

* `Election.Contest.Interlude.holder_cases` — who holds the lease after an interlude.
* `Election.Contest.patch_takesAway_iff`.
-/

namespace ControllerManager.Election.Contest

open Cluster

variable {ι : Type} {who : ι → Elector} {s s' s₀ s₁ s₂ s₃ : Contest ι} {k : ι}

/-- Between two contests, a lease held under another name than `identity` loses its holder or its
time of renewal. -/
def TakesAway (s : Contest ι) (identity : String) (s' : Contest ι) : Prop :=
  ∃ l l', s.store.lease = some l ∧ s'.store.lease = some l' ∧ l.Foreign identity ∧
    (l'.holder? ≠ l.holder? ∨ l'.renewTime? ≠ l.renewTime?)

/-- An event between the two requests of the release `k`: whatever reaches the server is part of an
attempt of somebody else. -/
def Meanwhile (who : ι → Elector) (k : ι) (s : Contest ι) : Event ι → Prop
  | .serve j => (who j).identity ≠ (who k).identity ∧
      ∀ t, s.trips j = some t → ∃ a, t.errand = .attempt a
  | _ => True

/-- The answer to the reading of the release `k` is `answer`, and the release goes on only if its
elector holds the lease by this answer. -/
def HasRead (who : ι → Elector) (k : ι) (answer : LeaseAnswer) (s : Contest ι) : Prop :=
  ∃ t, s.trips k = some t ∧ (t.errand = .release .reading → t.mail = .answered answer) ∧
    (∀ call, t.errand = .release (.clearing call) →
      ∃ l, answer = .ok l ∧ l.holder? = some (who k).identity)

/-- Either no takeover was accepted since the count was `takeovers`, and the elector of `k` holds
the lease, or one was, and somebody else holds it. -/
def HolderSince (who : ι → Elector) (k : ι) (takeovers : Nat) (s : Contest ι) : Prop :=
  ∃ l, s.store.lease = some l ∧
    (s.takeovers = takeovers ∧ l.holder? = some (who k).identity ∨
      takeovers < s.takeovers ∧ l.Foreign (who k).identity)

variable [DecidableEq ι]

/-- Any sequence of events between the two requests of the release `k`. -/
inductive Interlude (who : ι → Elector) (k : ι) : Contest ι → List (Event ι) → Contest ι → Prop
  | nil (s : Contest ι) : Interlude who k s [] s
  | cons {s s' s'' : Contest ι} {event : Event ι} {events : List (Event ι)}
      (hstep : Step who s event s') (hevent : s.Meanwhile who k event)
      (hrest : Interlude who k s' events s'') : Interlude who k s (event :: events) s''

/-- What every event of an interlude preserves, the interlude preserves. -/
theorem Interlude.preserves {P : Contest ι → Prop}
    (hstep : ∀ {s s' : Contest ι} {event : Event ι}, Step who s event s' →
      s.Meanwhile who k event → P s → P s')
    {events : List (Event ι)} (hbetween : Interlude who k s events s') (hs : P s) : P s' := by
  induction hbetween with
  | nil => exact hs
  | cons h hevent _ ih => exact ih (hstep h hevent hs)

/-! ### The release itself -/

theorem HasRead.setTrip_of_ne {answer : LeaseAnswer} (h : s.HasRead who k answer) {j : ι}
    (hne : k ≠ j) (t : Trip) : (s.setTrip j t).HasRead who k answer := by
  obtain ⟨t', htrip, hread, hclears⟩ := h
  exact ⟨t', by rwa [trips_setTrip_of_ne hne], hread, hclears⟩

/-- A release that learns of an answer goes on only over a lease of its elector. -/
theorem HasRead.hear {answer : LeaseAnswer} (h : s.HasRead who k answer) {t : Trip}
    (htrip : s.trips k = some t) (now : Lease.Instant) {heard : LeaseAnswer}
    (hheard : t.mail = .answered heard ∨ ∃ fault, heard = .error fault) :
    (s.setTrip k (t.hear (who k) now heard)).HasRead who k answer := by
  obtain ⟨t', htrip', hread, hclears⟩ := h
  obtain rfl : t = t' := Option.some.inj (htrip.symm.trans htrip')
  refine ⟨_, trips_setTrip_self _ _, ?_⟩
  rcases t.hear_cases (who k) now heard with
    ⟨began, seen, call, hold, -, -, -, heq⟩ | ⟨l, herrand, rfl, hown, heq⟩ | heq
  · rw [heq]
    exact ⟨by simp, by simp⟩
  · rw [heq]
    refine ⟨by simp, fun call _ => ⟨l, ?_, hown⟩⟩
    rcases hheard with hmail | ⟨fault, hfault⟩
    · exact Mail.answered.inj ((hread herrand).symm.trans hmail)
    · cases hfault
  · rw [heq]
    exact ⟨hread, hclears⟩

/-- Between its requests a release knows no other answer than that to its reading. -/
theorem Step.hasRead {event : Event ι} (hstep : Step who s event s')
    (hevent : s.Meanwhile who k event) {answer : LeaseAnswer} (h : s.HasRead who k answer) :
    s'.HasRead who k answer := by
  obtain ⟨t', htrip', hread, hclears⟩ := id h
  cases hstep with
  | @attempt j now hnew | @release j now hnew =>
    refine h.setTrip_of_ne ?_ _
    rintro rfl
    exact nomatch htrip'.symm.trans hnew
  | @serve j t htrip hmail =>
    refine ⟨t', ?_, hread, hclears⟩
    rw [trips_serve_of_ne, htrip']
    rintro rfl
    exact hevent.1 rfl
  | @deliver j now t heard htrip hattended hmail =>
    by_cases hne : k = j
    · subst hne
      exact h.hear htrip now (.inl hmail)
    · exact h.setTrip_of_ne hne _
  | @fail j now fault t htrip hattended =>
    by_cases hne : k = j
    · subst hne
      exact h.hear htrip now (.inr ⟨fault, rfl⟩)
    · exact h.setTrip_of_ne hne _
  | @abandon j t htrip =>
    by_cases hne : k = j
    · subst hne
      obtain rfl : t = t' := Option.some.inj (htrip.symm.trans htrip')
      exact ⟨_, trips_setTrip_self _ _, hread, hclears⟩
    · exact h.setTrip_of_ne hne _

/-! ### The holder in the meantime -/

omit [DecidableEq ι] in
theorem HolderSince.congr {takeovers : Nat} (h : s.HolderSince who k takeovers)
    (hstore : s'.store = s.store) (htakeovers : s'.takeovers = s.takeovers) :
    s'.HolderSince who k takeovers := by
  unfold HolderSince
  rw [hstore, htakeovers]
  exact h

/-- Of the writes of others, renewals keep the holder, and only a takeover changes it. -/
theorem Step.holderSince {event : Event ι} (hstep : Step who s event s')
    (hevent : s.Meanwhile who k event) (hs : s.Sound who) {takeovers : Nat}
    (h : s.HolderSince who k takeovers) : s'.HolderSince who k takeovers := by
  cases hstep with
  | attempt | release | deliver | fail | abandon => exact h.congr rfl rfl
  | @serve j t htrip hmail =>
    obtain ⟨hother, hattempt⟩ := hevent
    obtain ⟨a, herrand⟩ := hattempt t htrip
    rcases hs.serve_attempt htrip herrand with
      ⟨hstore, htakeovers, -⟩ | ⟨call, hold, l', extra, rfl, hwrites, haccepted, heq⟩
    · exact h.congr hstore htakeovers
    obtain ⟨l, hlease, hholder⟩ := h
    rw [hlease] at hwrites
    refine ⟨{ l' with resourceVersion := s.store.nextVersion }, ?_, ?_⟩
    · rw [store_serve_of_handle_eq herrand heq]
      rfl
    cases hwrites with
    | renew hown hversion =>
      cases haccepted
      -- The lease is that of the other elector already.
      rcases hholder with ⟨-, hholder⟩ | ⟨hlt, hforeign⟩
      · exact absurd (Option.some.inj (hown.symm.trans hholder)) hother
      · refine .inr ⟨by simpa [takeovers_serve, herrand, Errand.isTakeover] using hlt, ?_⟩
        exact ⟨_, hother, (Elector.holder?_renewedLease _ l).trans hown⟩
    | takeOver hforeign hexpired hversion hroom =>
      cases haccepted
      refine .inr ⟨?_, _, hother, rfl⟩
      have hok : (s.store.handle t.errand.call).2.isOk = true := by
        rw [herrand]
        exact congrArg (fun r => r.2.isOk) heq
      rw [takeovers_serve, hok, herrand]
      rcases hholder with ⟨hsame, -⟩ | ⟨hlt, -⟩
      · simp [Errand.isTakeover, hsame]
      · exact Nat.lt_succ_of_lt hlt

/-- Who holds the lease after an interlude, if the elector of `k` held it before. -/
theorem Interlude.holder_cases {events : List (Event ι)}
    (hbetween : Interlude who k s events s') (hs : s.Sound who) {l : Lease}
    (hlease : s.store.lease = some l) (hown : l.holder? = some (who k).identity) :
    s'.HolderSince who k s.takeovers :=
  (hbetween.preserves (P := fun s' => s'.Sound who ∧ s'.HolderSince who k s.takeovers)
    (fun hstep hevent h => ⟨hstep.sound h.1, hstep.holderSince hevent h.1 h.2⟩)
    ⟨hs, l, hlease, .inl ⟨rfl, hown⟩⟩).2

/-! ### The patch -/

/-- The reading leaves the store alone and is answered with what is stored. -/
theorem Step.hasRead_of_reading (hget : Step who s (.serve k) s') {t : Trip}
    (htrip : s.trips k = some t) (hreading : t.errand = .release .reading) :
    s'.store = s.store ∧ s'.takeovers = s.takeovers ∧ s'.HasRead who k s.store.stored := by
  cases hget with
  | @serve _ t' htrip' hmail =>
    obtain rfl : t = t' := Option.some.inj (htrip.symm.trans htrip')
    refine ⟨?_, ?_, _, trips_serve_self _ _, fun _ => ?_, ?_⟩
    · rw [store_serve, hreading]
      rfl
    · simp [takeovers_serve, hreading, Errand.isTakeover]
    · rw [hreading]
      rfl
    · simp [hreading]

omit [DecidableEq ι] in
/-- The patch is sent only if the elector held the lease when it was read. -/
theorem HasRead.held {store : LeaseStore} (h : s.HasRead who k store.stored) {t : Trip}
    (htrip : s.trips k = some t) {call : LeaseCall}
    (hclearing : t.errand = .release (.clearing call)) :
    ∃ l, store.lease = some l ∧ l.holder? = some (who k).identity := by
  obtain ⟨t', htrip', -, hclears⟩ := h
  obtain rfl : t = t' := Option.some.inj (htrip.symm.trans htrip')
  obtain ⟨l, hanswer, hown⟩ := hclears call hclearing
  exact ⟨l, LeaseStore.lease_eq_of_stored_eq_ok hanswer, hown⟩

/-- The patch names no version, so it is accepted, and the lease has no holder after it. -/
theorem Step.cleared (hpatch : Step who s (.serve k) s') (hs : s.Sound who) {t : Trip}
    (htrip : s.trips k = some t) {call : LeaseCall}
    (hclearing : t.errand = .release (.clearing call)) {l : Lease}
    (hlease : s.store.lease = some l) :
    ∃ l', s'.store.lease = some l' ∧ l'.holder? = none := by
  cases hpatch with
  | @serve _ t' htrip' hmail =>
    obtain rfl : t = t' := Option.some.inj (htrip.symm.trans htrip')
    obtain ⟨now, rfl⟩ := (hs.trips k t htrip).clears call hclearing
    refine ⟨{ LeaseStore.change (Release.clearance now) l with
      resourceVersion := s.store.nextVersion }, ?_, ?_⟩
    · rw [store_serve, hclearing]
      simp [Errand.call, Release.call, LeaseStore.handle, hlease, LeaseStore.put]
    · cases hspec : l.spec <;>
        simp [LeaseStore.change, Lease.holder?, Lease.SpecPatch.apply, Release.clearance, hspec]

/-- **A release takes the lease from its successor.** Let the reading of a release be served, then
any requests of attempts of others, and then its patch. The patch leaves the lease without a holder
in any case; it takes the lease from somebody else exactly if a takeover was accepted in between. -/
theorem patch_takesAway_iff {store : LeaseStore} (hstore : store.Coherent)
    {before between : List (Event ι)} (hbefore : Run who (start store) before s₀) {t₀ : Trip}
    (htrip₀ : s₀.trips k = some t₀) (hreading : t₀.errand = .release .reading)
    (hget : Step who s₀ (.serve k) s₁) (hbetween : Interlude who k s₁ between s₂) {t₂ : Trip}
    (htrip₂ : s₂.trips k = some t₂) {call : LeaseCall}
    (hclearing : t₂.errand = .release (.clearing call)) (hpatch : Step who s₂ (.serve k) s₃) :
    (s₂.TakesAway (who k).identity s₃ ↔ s₀.takeovers < s₂.takeovers) ∧
      ∃ l, s₃.store.lease = some l ∧ l.holder? = none := by
  have hs₁ : s₁.Sound who := hget.sound (hbefore.sound hstore)
  have hs₂ : s₂.Sound who := hbetween.preserves (fun hstep _ h => hstep.sound h) hs₁
  obtain ⟨hstore₁, htakeovers₁, hread₁⟩ := hget.hasRead_of_reading htrip₀ hreading
  have hread₂ : s₂.HasRead who k s₀.store.stored :=
    hbetween.preserves (fun hstep hevent h => hstep.hasRead hevent h) hread₁
  obtain ⟨l₀, hstored, hown⟩ := hread₂.held htrip₂ hclearing
  obtain ⟨l, hlease, hholder⟩ := hbetween.holder_cases hs₁ (hstore₁ ▸ hstored) hown
  rw [htakeovers₁] at hholder
  obtain ⟨l', hlease', hcleared⟩ := hpatch.cleared hs₂ htrip₂ hclearing hlease
  refine ⟨⟨?_, fun hlt => ?_⟩, l', hlease', hcleared⟩
  · rintro ⟨m, -, hm, -, ⟨other, hother, hheld⟩, -⟩
    obtain rfl : m = l := Option.some.inj (hm.symm.trans hlease)
    rcases hholder with ⟨-, hsame⟩ | ⟨hlt, -⟩
    · exact absurd (Option.some.inj (hheld.symm.trans hsame)) hother
    · exact hlt
  · rcases hholder with ⟨hsame, -⟩ | ⟨-, hforeign⟩
    · exact absurd hlt (hsame ▸ Nat.lt_irrefl _)
    · obtain ⟨other, -, hheld⟩ := id hforeign
      refine ⟨l, l', hlease, hlease', hforeign, .inl ?_⟩
      rw [hcleared, hheld]
      exact nofun

/-- The first rival gives its own lease back while nobody else does anything. -/
theorem undisturbed_patch_not_takesAway :
    ∃ s₀ s₁ s₂ s₃, Run (rivals .standard) (start (heldByFirst .standard)) [.release false 0] s₀ ∧
      Step (rivals .standard) s₀ (.serve false) s₁ ∧
      Interlude (rivals .standard) false s₁ [.deliver false 0] s₂ ∧
      Step (rivals .standard) s₂ (.serve false) s₃ ∧ ¬ s₂.TakesAway "a" s₃ ∧
      ∃ l, s₃.store.lease = some l ∧ l.holder? = none := by
  have hcourse : ∃ s₀ s₁ s₂ s₃ t₀ t₂ call,
      Run (rivals .standard) (start (heldByFirst .standard)) [.release false 0] s₀ ∧
      s₀.trips false = some t₀ ∧ t₀.errand = .release .reading ∧
      Step (rivals .standard) s₀ (.serve false) s₁ ∧
      Interlude (rivals .standard) false s₁ [.deliver false 0] s₂ ∧ s₂.trips false = some t₂ ∧
      t₂.errand = .release (.clearing call) ∧ Step (rivals .standard) s₂ (.serve false) s₃ ∧
      s₀.takeovers = s₂.takeovers :=
    ⟨_, _, _, _, _, _, _, .cons (.release rfl) (.nil _), rfl, rfl, .serve (by rfl) (by rfl),
      .cons (.deliver rfl rfl rfl) trivial (.nil _), rfl, rfl, .serve (by rfl) (by rfl), rfl⟩
  obtain ⟨s₀, s₁, s₂, s₃, t₀, t₂, call, hbefore, htrip₀, hreading, hget, hbetween, htrip₂,
    hclearing, hpatch, hsame⟩ := hcourse
  obtain ⟨htakes, hcleared⟩ := patch_takesAway_iff (LeaseStore.coherent_put _ _ _) hbefore htrip₀
    hreading hget hbetween htrip₂ hclearing hpatch
  exact ⟨s₀, s₁, s₂, s₃, hbefore, hget, hbetween, hpatch,
    fun h => absurd (htakes.1 h) (hsame ▸ Nat.lt_irrefl _), hcleared⟩

/-- The second rival takes the lease over after the first one has read it as its own. -/
def succession : List (Event Bool) :=
  [.deliver false 15000000, .attempt true 15000001, .serve true, .deliver true 15000001,
    .serve true]

/-- The patch that follows takes the lease from the second rival. -/
theorem patch_takesAway_from_successor :
    ∃ s₀ s₁ s₂ s₃,
      Run (rivals .standard) (start (heldByFirst .standard)) [.release false 15000000] s₀ ∧
      Step (rivals .standard) s₀ (.serve false) s₁ ∧
      Interlude (rivals .standard) false s₁ succession s₂ ∧
      Step (rivals .standard) s₂ (.serve false) s₃ ∧ s₂.TakesAway "a" s₃ := by
  have hforeign : ∀ {s : Contest Bool},
      (∃ t a, s.trips true = some t ∧ t.errand = .attempt a) →
        s.Meanwhile (rivals .standard) false (.serve true) := by
    rintro s ⟨t, a, htrip, herrand⟩
    refine ⟨by decide, fun t' htrip' => ⟨a, ?_⟩⟩
    rw [← Option.some.inj (htrip.symm.trans htrip'), herrand]
  exact ⟨_, _, _, _, .cons (.release rfl) (.nil _), .serve (by rfl) (by rfl),
    .cons (.deliver rfl rfl rfl) trivial <| .cons (.attempt rfl) trivial <|
      .cons (.serve rfl rfl) (hforeign ⟨_, _, rfl, rfl⟩) <| .cons (.deliver rfl rfl rfl) trivial <|
      .cons (.serve rfl rfl) (hforeign ⟨_, _, rfl, rfl⟩) <| .nil _,
    .serve (by rfl) (by rfl), _, _, by rfl, by rfl, ⟨"b", by decide, by rfl⟩, .inl (by decide)⟩

end ControllerManager.Election.Contest
