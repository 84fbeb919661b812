import ControllerManager.Proofs.Election.Candidacy
import ControllerManager.Proofs.Election.Contest

/-!
# Campaigns

Any number of electors over one server and one clock. Each elector makes its own moves, and its
requests travel on their own: they can be served after the elector stopped waiting, and an answer
can be lost or come as any fault. No elector seeks the lease while its renewals go on, and nobody
gives the lease back.

The attempts of an elector are numbered. A write is confirmed once the server has answered it with
the lease, and from then on the lease covers its elector: it is stored under the name of the
elector and renewed no earlier, or else it has run out by the clock.

## Main definitions

* `Election.Campaign` — the electors, the store and the requests.
* `Election.Campaign.Step`, `Election.Campaign.Reachable` — one event, and what events lead to.
* `Election.Campaign.Covers` — the lease of an elector is stored or has run out.
* `Election.Campaign.Inv` — what all campaigns keep.

## Main results

* `Election.Campaign.Step.inv`, `Election.Campaign.Reachable.inv` — the invariant is kept.
-/

namespace ControllerManager.Election

open Cluster

/-- Some seconds after one time a later time has come only if they have passed in between. -/
theorem lt_of_after_lt {origin : Int} {time time' : Nat} {seconds : Int}
    (h : Lease.Instant.after origin time + seconds * Lease.Instant.perSecond <
      Lease.Instant.after origin time') : Timing.perSecond * seconds < (time' : Int) - time := by
  have h : origin + (time / 1000 : Nat) + seconds * 1000000 < origin + (time' / 1000 : Nat) := h
  show (1000000000 * seconds : Int) < (time' : Int) - time
  omega

/-- An answer does not change whether a write is confirmed. -/
theorem Trip.confirmed_hear {e : Elector} {now : Lease.Instant} {answer : LeaseAnswer} {t : Trip}
    {a : Attempt} (herrand : t.errand = .attempt a) :
    (t.hear e now answer).Confirmed ↔ t.Confirmed := by
  rcases hnext : a.receive e answer with a' | verdict
  · rw [hear_of_inl herrand hnext]
    obtain ⟨began, seen, call, hold, rfl, -⟩ := Attempt.eq_writing_of_receive hnext
    simp [Confirmed, herrand]
  · rw [hear_of_inr herrand hnext]
    exact Iff.rfl

/-- The electors, the store and the requests. -/
structure Campaign (ι : Type) where
  /-- Nanoseconds since the start. -/
  time : Nat
  /-- The store, and the attempts by elector and number. -/
  contest : Contest (ι × Nat)
  seats : ι → Candidacy
  /-- The number of the last attempt of each elector. -/
  begun : ι → Nat

namespace Campaign

variable {ι : Type} [DecidableEq ι]

/-- The campaign in which nothing has happened yet. -/
def start (store : LeaseStore) : Campaign ι := ⟨0, .start store, fun _ => .vacant, fun _ => 0⟩

/-- The campaign after an elector moved. -/
def setSeat (s : Campaign ι) (i : ι) (c : Candidacy) : Campaign ι :=
  { s with seats := Function.update s.seats i c }

/-- The campaign after an elector began an attempt. -/
def begin (s : Campaign ι) (origin : Lease.Instant) (i : ι) (c : Candidacy) : Campaign ι :=
  { s.setSeat i c with
    contest := s.contest.setTrip (i, s.begun i + 1) (.attempt (origin.after s.time))
    begun := Function.update s.begun i (s.begun i + 1) }

/-- The campaign after an elector learned of an answer to its last attempt. -/
def hear (s : Campaign ι) (who : ι → Elector) (origin : Lease.Instant) (i : ι)
    (answer : LeaseAnswer) (t : Trip) (c : Candidacy) : Campaign ι :=
  { s.setSeat i c with
    contest := s.contest.setTrip (i, s.begun i)
      (t.hear (who i) (origin.after s.time) answer) }

/-- One event of a campaign. -/
inductive Step (who : ι → Elector) (origin : Lease.Instant) (s : Campaign ι) : Campaign ι → Prop
  | pass {time : Nat} (hle : s.time ≤ time)
      (hpatient : ∀ i r, (s.seats i).renewal = some r → r.Patient time) :
      Step who origin s { s with time := time }
  | serve {k : ι × Nat} {t : Trip} (htrip : s.contest.trips k = some t)
      (hmail : t.mail = .outgoing) :
      Step who origin s { s with contest := s.contest.serve k t }
  | begin {i : ι} {c : Candidacy}
      (hmove : Candidacy.Step (who i) s.time (.begin (origin.after s.time)) (s.seats i) c)
      (hsolo : c.Solo) : Step who origin s (s.begin origin i c)
  | hear {i : ι} {t : Trip} {answer : LeaseAnswer} {c : Candidacy}
      (htrip : s.contest.trips (i, s.begun i) = some t)
      (hanswer : t.mail = .answered answer ∨ ∃ fault, answer = .error fault)
      (hmove : Candidacy.Step (who i) s.time (.hear answer) (s.seats i) c) :
      Step who origin s (s.hear who origin i answer t c)
  | quit {i : ι} {c : Candidacy} (hmove : Candidacy.Step (who i) s.time .quit (s.seats i) c) :
      Step who origin s (s.setSeat i c)

/-- What events lead to. -/
inductive Reachable (who : ι → Elector) (origin : Lease.Instant) (store : LeaseStore) :
    Campaign ι → Prop
  | start : Reachable who origin store (start store)
  | step {s s' : Campaign ι} (h : Reachable who origin store s) (hstep : Step who origin s s') :
      Reachable who origin store s'

variable {who : ι → Elector} {origin : Lease.Instant} {s s' : Campaign ι}

/-! ### Coverage -/

omit [DecidableEq ι] in
/-- The lease that an elector wrote in an attempt that began at `began` is stored under its name,
renewed no earlier, or has run out. -/
def Covers (s : Campaign ι) (origin : Lease.Instant) (e : Elector) (began : Lease.Instant) : Prop :=
  began + e.timing.leaseSeconds.toInt * Lease.Instant.perSecond < origin.after s.time ∨
    ∃ l renewed, s.contest.store.lease = some l ∧ l.holder? = some e.identity ∧
      l.renewTime? = some renewed ∧ began ≤ renewed

omit [DecidableEq ι] in
theorem Covers.mono {e : Elector} {began : Lease.Instant} (h : s.Covers origin e began)
    (hle : s.time ≤ s'.time) (hstore : s'.contest.store = s.contest.store) :
    s'.Covers origin e began := by
  rcases h with hover | hstored
  · exact .inl (Int.lt_of_lt_of_le hover (Lease.Instant.after_le_after hle))
  · exact .inr (hstore ▸ hstored)

end Campaign

/-- The lease that the elector held last does not last through its attempt, the deadline and a
rest. -/
def Candidacy.Loose (e : Elector) (c : Candidacy) : Prop :=
  ∃ span, c.held = some span ∧
    Timing.perSecond * e.timing.leaseSeconds.toInt <
      (span.ended : Int) - span.began + e.timing.renewDeadline + e.timing.retryInterval

namespace Candidacy

/-- What an elector knows agrees with its attempts. -/
structure Documented (e : Elector) (origin : Lease.Instant) (time : Nat)
    (attempts : Nat → Option Trip) (begun : Nat) (c : Candidacy) : Prop where
  timely : c.Timely e time
  solo : c.Solo
  /-- The attempt in progress is the last one. -/
  agree : ∀ began a, c.Attempting began a →
    ∃ t, attempts begun = some t ∧ t.errand = .attempt a ∧ t.began = origin.after began
  /-- Whoever has held the lease has a write that was confirmed. -/
  held : ∀ span, c.held = some span →
    ∃ n t, attempts n = some t ∧ t.Confirmed ∧ t.began = origin.after span.began
  /-- A renewal has read a lease of the elector itself, unless the last one ran out before. -/
  own : ∀ last deadline now t l, c.renewal = some (.attempting last deadline (.reading now)) →
    attempts begun = some t → t.mail = .answered (.ok l) →
      l.holder? = some e.identity ∨ c.Loose e
  frozen : c.Frozen → c.Loose e

variable {e : Elector} {origin : Lease.Instant} {time time' begun : Nat}
  {attempts : Nat → Option Trip} {c c' : Candidacy}

theorem Loose.congr (h : c.Loose e) (hheld : c'.held = c.held) : c'.Loose e := by
  unfold Loose
  rw [hheld]
  exact h

theorem documented_vacant : vacant.Documented e origin 0 attempts begun where
  timely := timely_vacant
  solo := .inl rfl
  agree began a h := (h.not_idle (by simp [vacant]) (by simp [vacant])).elim
  held := by simp [vacant]
  own := by simp [vacant]
  frozen := by simp [vacant, Frozen]

theorem Documented.pass (h : c.Documented e origin time attempts begun) (hle : time ≤ time')
    (hpatient : ∀ r, c.renewal = some r → r.Patient time') :
    c.Documented e origin time' attempts begun :=
  ⟨h.timely.pass hle hpatient, h.solo, h.agree, h.held, h.own, h.frozen⟩

theorem Documented.quit (h : c.Documented e origin time attempts begun)
    (hmove : Step e time .quit c c') : c'.Documented e origin time attempts begun := by
  obtain ⟨hsolo, hpursuit, hrenewal, hbegan, hheld, hfrozen⟩ := hmove.quit_cases h.solo
  refine ⟨hmove.timely h.timely, hsolo, ?_, hheld ▸ h.held, ?_, ?_⟩
  · rintro began a (hp | hr)
    · exact h.agree _ _ (.pursuit (hpursuit _ _ hp))
    · exact hbegan ▸ h.agree _ _ (.renewal (hrenewal _ _ _ hr))
  · intro last deadline now t l hr htrip hmail
    have hown := h.own last deadline now t l (hrenewal _ _ _ hr) htrip hmail
    exact hown.imp_right fun hloose => hloose.congr hheld
  · exact fun hf => (h.frozen (hfrozen hf)).congr hheld

/-- A new attempt gets the next number. -/
theorem Documented.begin (h : c.Documented e origin time attempts begun)
    (hmove : Step e time (.begin (origin.after time)) c c') (hsolo : c'.Solo)
    (hunborn : attempts (begun + 1) = none) :
    c'.Documented e origin time
      (Function.update attempts (begun + 1) (some (.attempt (origin.after time)))) (begun + 1) := by
  obtain ⟨hbegins, hheld, hfrozen⟩ := hmove.begin_cases hsolo
  refine ⟨hmove.timely h.timely, hsolo, ?_, ?_, ?_, fun hf => (h.frozen (hfrozen hf)).congr hheld⟩
  · intro began a ha
    obtain ⟨rfl, rfl⟩ := hbegins began a ha
    exact ⟨_, Function.update_self .., rfl, rfl⟩
  · intro span hspan
    obtain ⟨n, t, htrip, hconfirmed⟩ := h.held span (hheld ▸ hspan)
    refine ⟨n, t, ?_, hconfirmed⟩
    rw [Function.update_of_ne, htrip]
    rintro rfl
    exact nomatch htrip.symm.trans hunborn
  · intro last deadline now t l hr htrip hmail
    rw [Function.update_self] at htrip
    cases htrip
    cases hmail

/-- An answer is one to the attempt of the last number. -/
theorem Documented.hear (h : c.Documented e origin time attempts begun) {answer : LeaseAnswer}
    (hmove : Step e time (.hear answer) c c') {t : Trip} (htrip : attempts begun = some t)
    (hanswer : t.mail = .answered answer ∨ ∃ fault, answer = .error fault) :
    c'.Documented e origin time
      (Function.update attempts begun (some (t.hear e (origin.after time) answer))) begun := by
  obtain ⟨began, a, hheard⟩ := hmove.heard h.solo
  obtain ⟨t', htrip', herrand, hbegan⟩ := h.agree began a hheard.attempting
  obtain rfl : t = t' := Option.some.inj (htrip.symm.trans htrip')
  refine ⟨hmove.timely h.timely, hheard.solo, ?_, ?_, ?_, ?_⟩
  · intro began' a' ha'
    obtain ⟨rfl, hnext⟩ := hheard.goesOn began' a' ha'
    refine ⟨_, Function.update_self .., ?_, (t.began_hear ..).trans hbegan⟩
    rw [Trip.hear_of_inl herrand hnext]
  · intro span hspan
    rcases hheard.held with hheld | ⟨hold, hgain, hheld⟩
    · obtain ⟨n, t', hold, hconfirmed, hbegan'⟩ := h.held span (hheld ▸ hspan)
      by_cases hn : n = begun
      · subst hn
        obtain rfl : t = t' := Option.some.inj (htrip.symm.trans hold)
        exact ⟨n, _, Function.update_self .., (Trip.confirmed_hear herrand).2 hconfirmed,
          (t.began_hear ..).trans hbegan'⟩
      · exact ⟨n, t', by rw [Function.update_of_ne hn, hold], hconfirmed, hbegan'⟩
    · obtain ⟨call, l, rfl, rfl⟩ := Attempt.eq_writing_of_held hgain
      obtain rfl : ⟨began, time⟩ = span := Option.some.inj (hheld.symm.trans hspan)
      refine ⟨begun, _, Function.update_self .., (Trip.confirmed_hear herrand).2 ?_,
        (t.began_hear ..).trans hbegan⟩
      rcases hanswer with hmail | ⟨fault, hfault⟩
      · exact ⟨call, hold, l, herrand, hmail⟩
      · cases hfault
  · intro last deadline now t' l hr
    obtain ⟨-, hnext⟩ := hheard.goesOn _ _ (.renewal hr)
    obtain ⟨_, _, _, _, _, _, _, heq⟩ := Attempt.eq_writing_of_receive hnext
    cases heq
  · intro hf
    obtain ⟨hheld, hfrozen | ⟨last, deadline, crash, hrenewal, hcrash⟩⟩ := hheard.frozen hf
    · exact (h.frozen hfrozen).congr hheld
    · obtain ⟨now, l, rfl, rfl, hforeign⟩ := Attempt.foreign_of_crashed hcrash
      rcases hanswer with hmail | ⟨fault, hfault⟩
      · refine Loose.congr ?_ hheld
        exact (h.own last deadline now t l hrenewal htrip hmail).resolve_left hforeign
      · cases hfault

/-- An answer of the server reaches nobody before it is delivered. -/
theorem Documented.serve (h : c.Documented e origin time attempts begun) {n : Nat} {t : Trip}
    (htrip : attempts n = some t) (hmail : t.mail = .outgoing) {answer : LeaseAnswer}
    (hown : ∀ last deadline now l, c.renewal = some (.attempting last deadline (.reading now)) →
      t.errand = .attempt (.reading now) → answer = .ok l →
        l.holder? = some e.identity ∨ c.Loose e) :
    c.Documented e origin time
      (Function.update attempts n (some { t with mail := .answered answer })) begun := by
  refine ⟨h.timely, h.solo, ?_, ?_, ?_, h.frozen⟩
  · intro began a ha
    obtain ⟨t', htrip', herrand, hbegan⟩ := h.agree began a ha
    by_cases hn : begun = n
    · subst hn
      obtain rfl : t = t' := Option.some.inj (htrip.symm.trans htrip')
      exact ⟨_, Function.update_self .., herrand, hbegan⟩
    · exact ⟨t', by rw [Function.update_of_ne hn, htrip'], herrand, hbegan⟩
  · intro span hspan
    obtain ⟨m, t', htrip', hconfirmed, hbegan⟩ := h.held span hspan
    refine ⟨m, t', ?_, hconfirmed, hbegan⟩
    rw [Function.update_of_ne, htrip']
    rintro rfl
    obtain rfl : t = t' := Option.some.inj (htrip.symm.trans htrip')
    obtain ⟨-, -, l, -, hanswered⟩ := hconfirmed
    exact nomatch hmail.symm.trans hanswered
  · intro last deadline now t' l hr htrip' hanswered
    by_cases hn : begun = n
    · subst hn
      rw [Function.update_self] at htrip'
      obtain ⟨t'', htrip'', herrand, -⟩ := h.agree _ _ (.renewal hr)
      obtain rfl : t = t'' := Option.some.inj (htrip.symm.trans htrip'')
      cases htrip'
      exact hown last deadline now l hr herrand (Mail.answered.inj hanswered)
    · rw [Function.update_of_ne hn] at htrip'
      exact h.own last deadline now t' l hr htrip' hanswered

end Candidacy

namespace Campaign

variable {ι : Type} [DecidableEq ι] {who : ι → Elector} {origin : Lease.Instant}
  {s s' : Campaign ι}

omit [DecidableEq ι] in
/-- What all campaigns keep. -/
structure Inv (who : ι → Elector) (origin : Lease.Instant) (s : Campaign ι) : Prop where
  sound : s.contest.Sound fun k => who k.1
  /-- Nobody gives the lease back. -/
  attempts : ∀ k t, s.contest.trips k = some t → ∃ a, t.errand = .attempt a
  unborn : ∀ i n, s.begun i < n → s.contest.trips (i, n) = none
  began_le : ∀ k t, s.contest.trips k = some t → t.began ≤ origin.after s.time
  began_mono : ∀ i m n t t', m ≤ n → s.contest.trips (i, m) = some t →
    s.contest.trips (i, n) = some t' → t.began ≤ t'.began
  /-- A write that is older than a confirmed one has read a lease that is not stored any more. -/
  stale : ∀ i m n t t', m < n → s.contest.trips (i, m) = some t → t.Pending →
    s.contest.trips (i, n) = some t' → t'.Confirmed → t.seen ≠ s.contest.store.lease
  owned : ∀ i l, s.contest.store.lease = some l → l.holder? = some (who i).identity →
    l.durationSeconds? = some (who i).timing.leaseSeconds
  covers : ∀ i n t, s.contest.trips (i, n) = some t → t.Confirmed → s.Covers origin (who i) t.began
  seats : ∀ i, (s.seats i).Documented (who i) origin s.time (fun n => s.contest.trips (i, n))
    (s.begun i)

omit [DecidableEq ι] in
theorem inv_start {store : LeaseStore} (hstore : store.Coherent)
    (hfree : ∀ i l, store.lease = some l → l.holder? ≠ some (who i).identity) :
    (start store).Inv who origin where
  sound := Contest.sound_start hstore
  attempts := by simp [start, Contest.start]
  unborn := by simp [start, Contest.start]
  began_le := by simp [start, Contest.start]
  began_mono := by simp [start, Contest.start]
  stale := by simp [start, Contest.start]
  owned i l hl hholder := absurd hholder (hfree i l hl)
  covers := by simp [start, Contest.start]
  seats _ := Candidacy.documented_vacant

/-! ### The stored lease -/

/-- A request that is served leaves durations alone, as all electors choose the same one. -/
theorem Inv.owned_serve (h : s.Inv who origin) (htiming : ∀ i j, (who i).timing = (who j).timing)
    {k : ι × Nat} {t : Trip} (htrip : s.contest.trips k = some t) (i : ι) (l : Lease)
    (hlease : (s.contest.serve k t).store.lease = some l)
    (hholder : l.holder? = some (who i).identity) :
    l.durationSeconds? = some (who i).timing.leaseSeconds := by
  obtain ⟨a, herrand⟩ := h.attempts k t htrip
  rcases h.sound.serve_attempt htrip herrand with
    ⟨hstore, -, -⟩ | ⟨call, hold, l', extra, rfl, hwrites, haccepted, heq⟩
  · exact h.owned i l (hstore ▸ hlease) hholder
  rw [Contest.store_serve_of_handle_eq herrand heq] at hlease
  generalize hstored : s.contest.store.lease = stored at hwrites
  cases hlease
  cases hwrites with
  | create =>
    cases haccepted
    exact congrArg (fun timing => some timing.leaseSeconds) (htiming k.1 i)
  | @renew l hown hversion =>
    cases haccepted
    rw [← h.owned i l hstored ((Elector.holder?_renewedLease _ l).symm.trans hholder)]
    exact Elector.durationSeconds?_renewedLease t.began l
  | takeOver hforeign hexpired hversion hroom =>
    cases haccepted
    exact congrArg (fun timing => some timing.leaseSeconds) (htiming k.1 i)

/-- A request that is served changes the lease only for one that no pending write has read. -/
theorem Inv.stale_serve (h : s.Inv who origin) {k : ι × Nat} {t : Trip}
    (htrip : s.contest.trips k = some t) (i : ι) (m n : Nat) (t₁ t₂ : Trip) (hlt : m < n)
    (htrip₁ : (s.contest.serve k t).trips (i, m) = some t₁) (hpending : t₁.Pending)
    (htrip₂ : (s.contest.serve k t).trips (i, n) = some t₂) (hconfirmed : t₂.Confirmed) :
    t₁.seen ≠ (s.contest.serve k t).store.lease := by
  obtain ⟨call₁, hold₁, herrand₁, hmail₁⟩ := hpending
  have htrip₁ : s.contest.trips (i, m) = some t₁ := by
    rcases Contest.trips_serve_cases htrip₁ with ⟨-, rfl⟩ | ⟨-, htrip₁⟩
    · cases hmail₁
    · exact htrip₁
  obtain ⟨a, herrand⟩ := h.attempts k t htrip
  rcases h.sound.serve_attempt htrip herrand with
    ⟨hstore, -, hno⟩ | ⟨call, hold, l, extra, rfl, hwrites, haccepted, heq⟩
  · rw [hstore]
    rcases Contest.trips_serve_cases htrip₂ with ⟨-, rfl⟩ | ⟨-, htrip₂⟩
    · exact absurd hconfirmed hno
    · exact h.stale i m n t₁ t₂ hlt htrip₁ ⟨call₁, hold₁, herrand₁, hmail₁⟩ htrip₂ hconfirmed
  · rw [Contest.store_serve_of_handle_eq herrand heq]
    exact h.sound.seen_ne_put htrip₁ herrand₁ l extra

/-- A request that is served takes a lease from its holder only after it has run out. -/
theorem Inv.covers_serve (h : s.Inv who origin)
    (hid : ∀ i j, (who i).identity = (who j).identity → i = j) {k : ι × Nat} {t : Trip}
    (htrip : s.contest.trips k = some t) (hmail : t.mail = .outgoing) (i : ι) (n : Nat) (t₁ : Trip)
    (htrip₁ : (s.contest.serve k t).trips (i, n) = some t₁) (hconfirmed : t₁.Confirmed) :
    Covers { s with contest := s.contest.serve k t } origin (who i) t₁.began := by
  obtain ⟨a, herrand⟩ := h.attempts k t htrip
  rcases h.sound.serve_attempt htrip herrand with
    ⟨hstore, -, hno⟩ | ⟨call, hold, l, extra, rfl, hwrites, haccepted, heq⟩
  · rcases Contest.trips_serve_cases htrip₁ with ⟨-, rfl⟩ | ⟨-, htrip₁⟩
    · exact absurd hconfirmed hno
    · exact (h.covers i n t₁ htrip₁ hconfirmed).mono (Nat.le_refl _) hstore
  obtain ⟨hholder, hrenewed⟩ := hwrites.holder_renewTime haccepted
  have hlease : (s.contest.serve k t).store.lease =
      some { l with resourceVersion := s.contest.store.nextVersion } := by
    rw [Contest.store_serve_of_handle_eq herrand heq]
    rfl
  rcases Contest.trips_serve_cases htrip₁ with ⟨hk, rfl⟩ | ⟨-, htrip₁⟩
  · subst hk
    exact .inr ⟨_, t.began, hlease, hholder, hrenewed, Int.le_refl _⟩
  rcases h.covers i n t₁ htrip₁ hconfirmed with hover | ⟨l₀, renewed, hstored, hown, hrenewed₀, hle⟩
  · exact .inl hover
  rw [hstored] at hwrites
  cases hwrites with
  | renew hsame hversion =>
    -- The elector renews its own lease, and does so in an attempt that is not older.
    obtain rfl : i = k.1 := hid _ _ (Option.some.inj (hown.symm.trans hsame))
    refine .inr ⟨_, t.began, hlease, hholder, hrenewed, ?_⟩
    rcases Nat.lt_or_ge k.2 n with hn | hn
    · have hseen := h.sound.lease_eq_seen htrip herrand haccepted
      exact absurd hseen.symm
        (h.stale _ k.2 n t t₁ hn htrip ⟨_, _, herrand, hmail⟩ htrip₁ hconfirmed)
    · exact h.began_mono _ n k.2 t₁ t hn htrip₁ htrip
  | takeOver hforeign hexpired hversion hroom =>
    -- The lease has run out by the clock of the takeover, which is not ahead.
    have hlt := Lease.lt_of_expired? hown hrenewed₀ (h.owned i l₀ hstored hown) hexpired
    exact .inl (Int.lt_of_le_of_lt (Int.add_le_add_right hle _)
      (Int.lt_of_lt_of_le hlt (h.began_le k t htrip)))

/-! ### Events -/

/-- A change of one attempt is a change of the attempts of its elector. -/
theorem attempts_update (trips : ι × Nat → Option Trip) (i : ι) (n : Nat) (t : Option Trip) :
    (fun m => Function.update trips (i, n) t (i, m)) =
      Function.update (fun m => trips (i, m)) n t := by
  funext m
  by_cases hm : m = n
  · subst hm
    simp
  · simp [hm]

theorem attempts_update_of_ne (trips : ι × Nat → Option Trip) {i j : ι} (h : j ≠ i) (n : Nat)
    (t : Option Trip) :
    (fun m => Function.update trips (i, n) t (j, m)) = fun m => trips (j, m) := by
  funext m
  exact Function.update_of_ne (fun heq => h (congrArg Prod.fst heq)) ..

/-- An attempt before its request reached the server. -/
theorem exists_trip_of_serve {k j : ι × Nat} {t t' : Trip} (htrip : s.contest.trips k = some t)
    (htrip' : (s.contest.serve k t).trips j = some t') :
    ∃ t₀, s.contest.trips j = some t₀ ∧ t'.errand = t₀.errand ∧ t'.began = t₀.began := by
  rcases Contest.trips_serve_cases htrip' with ⟨rfl, rfl⟩ | ⟨-, htrip'⟩
  · exact ⟨t, htrip, rfl, rfl⟩
  · exact ⟨t', htrip', rfl, rfl⟩

omit [DecidableEq ι] in
/-- Within the deadline and a rest after its last write, an elector still holds the lease, unless
the duration was too short for that. -/
theorem Inv.loose_or_holds (h : s.Inv who origin) {i : ι} {span : Span}
    (hheld : (s.seats i).held = some span)
    (hle : s.time ≤ span.ended + ((who i).timing.renewDeadline + (who i).timing.retryInterval)) :
    (s.seats i).Loose (who i) ∨
      ∃ l, s.contest.store.lease = some l ∧ l.holder? = some (who i).identity := by
  obtain ⟨n, t, htrip, hconfirmed, hbegan⟩ := (h.seats i).held span hheld
  rcases h.covers i n t htrip hconfirmed with hover | ⟨l, renewed, hlease, hholder, -⟩
  · rw [hbegan] at hover
    have hlt := lt_of_after_lt hover
    exact .inl ⟨span, hheld, by omega⟩
  · exact .inr ⟨l, hlease, hholder⟩

omit [DecidableEq ι] in
/-- A renewal that reads the lease reads one of its elector. -/
theorem Inv.reads_own (h : s.Inv who origin) {i : ι} {last deadline : Nat} {a : Attempt} {l : Lease}
    (hrenewal : (s.seats i).renewal = some (.attempting last deadline a))
    (hlease : s.contest.store.lease = some l) :
    l.holder? = some (who i).identity ∨ (s.seats i).Loose (who i) := by
  obtain ⟨span, hheld, -, -, rfl, -, rfl, hle⟩ := (h.seats i).timely.renewal _ hrenewal
  rcases h.loose_or_holds hheld (by omega) with hloose | ⟨l', hlease', hholder⟩
  · exact .inr hloose
  · exact .inl (Option.some.inj (hlease.symm.trans hlease') ▸ hholder)

theorem Inv.serve (h : s.Inv who origin)
    (hid : ∀ i j, (who i).identity = (who j).identity → i = j)
    (htiming : ∀ i j, (who i).timing = (who j).timing) {k : ι × Nat} {t : Trip}
    (htrip : s.contest.trips k = some t) (hmail : t.mail = .outgoing) :
    Inv who origin { s with contest := s.contest.serve k t } where
  sound := h.sound.serve htrip
  attempts j t' htrip' := by
    obtain ⟨t₀, htrip₀, herrand, -⟩ := exists_trip_of_serve htrip htrip'
    exact herrand ▸ h.attempts j t₀ htrip₀
  unborn i n hn := by
    have hnone := h.unborn i n hn
    refine (Contest.trips_serve_of_ne ?_ t).trans hnone
    rintro rfl
    exact nomatch htrip.symm.trans hnone
  began_le j t' htrip' := by
    obtain ⟨t₀, htrip₀, -, hbegan⟩ := exists_trip_of_serve htrip htrip'
    exact hbegan ▸ h.began_le j t₀ htrip₀
  began_mono i m n t₁ t₂ hmn htrip₁ htrip₂ := by
    obtain ⟨t₁', htrip₁', -, hbegan₁⟩ := exists_trip_of_serve htrip htrip₁
    obtain ⟨t₂', htrip₂', -, hbegan₂⟩ := exists_trip_of_serve htrip htrip₂
    rw [hbegan₁, hbegan₂]
    exact h.began_mono i m n t₁' t₂' hmn htrip₁' htrip₂'
  stale := h.stale_serve htrip
  owned := h.owned_serve htiming htrip
  covers := h.covers_serve hid htrip hmail
  seats i := by
    obtain ⟨j, n⟩ := k
    by_cases hij : i = j
    · subst hij
      show (s.seats i).Documented (who i) origin s.time
        (fun m => Function.update s.contest.trips (i, n) _ (i, m)) (s.begun i)
      rw [attempts_update]
      refine (h.seats i).serve htrip hmail fun last deadline now l hr herrand hanswer => ?_
      rw [herrand] at hanswer
      exact h.reads_own hr (LeaseStore.lease_eq_of_stored_eq_ok hanswer)
    · show (s.seats i).Documented (who i) origin s.time
        (fun m => Function.update s.contest.trips (j, n) _ (i, m)) (s.begun i)
      rw [attempts_update_of_ne _ hij]
      exact h.seats i

theorem Inv.begin (h : s.Inv who origin) {i : ι} {c : Candidacy}
    (hmove : Candidacy.Step (who i) s.time (.begin (origin.after s.time)) (s.seats i) c)
    (hsolo : c.Solo) : (s.begin origin i c).Inv who origin where
  sound := h.sound.setTrip (.attempt _)
  attempts j t htrip := by
    rcases Contest.trips_setTrip_cases htrip with ⟨-, rfl⟩ | ⟨-, htrip⟩
    · exact ⟨_, rfl⟩
    · exact h.attempts j t htrip
  unborn j n hn := by
    have hne : (j, n) ≠ (i, s.begun i + 1) ∧ s.begun j < n := by
      by_cases hj : j = i
      · subst hj
        have hn : s.begun j + 1 < n := by simpa [Campaign.begin] using hn
        exact ⟨fun heq => absurd (congrArg Prod.snd heq) (by simp; omega), by omega⟩
      · have hn : s.begun j < n := by simpa [Campaign.begin, hj] using hn
        exact ⟨fun heq => hj (congrArg Prod.fst heq), hn⟩
    exact (Contest.trips_setTrip_of_ne hne.1 _).trans (h.unborn j n hne.2)
  began_le j t htrip := by
    rcases Contest.trips_setTrip_cases htrip with ⟨-, rfl⟩ | ⟨-, htrip⟩
    · exact Int.le_refl _
    · exact h.began_le j t htrip
  began_mono j m n t₁ t₂ hmn htrip₁ htrip₂ := by
    rcases Contest.trips_setTrip_cases htrip₂ with ⟨-, rfl⟩ | ⟨-, hbefore₂⟩
    · -- Nothing has begun later than now.
      rcases Contest.trips_setTrip_cases htrip₁ with ⟨-, rfl⟩ | ⟨-, hbefore₁⟩
      · exact Int.le_refl _
      · exact h.began_le _ t₁ hbefore₁
    · rcases Contest.trips_setTrip_cases htrip₁ with ⟨heq, -⟩ | ⟨-, hbefore₁⟩
      · obtain ⟨rfl, rfl⟩ := Prod.mk.inj heq
        exact nomatch hbefore₂.symm.trans (h.unborn j n (by omega))
      · exact h.began_mono j m n t₁ t₂ hmn hbefore₁ hbefore₂
  stale j m n t₁ t₂ hlt htrip₁ hpending htrip₂ hconfirmed := by
    rcases Contest.trips_setTrip_cases htrip₁ with ⟨-, rfl⟩ | ⟨-, htrip₁⟩
    · obtain ⟨call, hold, herrand, -⟩ := hpending
      cases herrand
    · rcases Contest.trips_setTrip_cases htrip₂ with ⟨-, rfl⟩ | ⟨-, htrip₂⟩
      · obtain ⟨call, hold, l, herrand, -⟩ := hconfirmed
        cases herrand
      · exact h.stale j m n t₁ t₂ hlt htrip₁ hpending htrip₂ hconfirmed
  owned := h.owned
  covers j n t htrip hconfirmed := by
    rcases Contest.trips_setTrip_cases htrip with ⟨-, rfl⟩ | ⟨-, htrip⟩
    · obtain ⟨call, hold, l, herrand, -⟩ := hconfirmed
      cases herrand
    · exact h.covers j n t htrip hconfirmed
  seats j := by
    by_cases hj : j = i
    · subst hj
      have hseat := (h.seats j).begin hmove hsolo (h.unborn j _ (Nat.lt_succ_self _))
      rw [← attempts_update] at hseat
      simpa [Campaign.begin, setSeat, Contest.setTrip] using hseat
    · have hseat := h.seats j
      rw [← attempts_update_of_ne s.contest.trips hj (s.begun i + 1)
        (some (.attempt (origin.after s.time)))] at hseat
      simpa [Campaign.begin, setSeat, Contest.setTrip, hj] using hseat

/-- An attempt before its elector learned of an answer. -/
theorem exists_trip_of_setTrip {k j : ι × Nat} {t t' : Trip} {e : Elector} {now : Lease.Instant}
    {answer : LeaseAnswer} (htrip : s.contest.trips k = some t)
    (htrip' : (s.contest.setTrip k (t.hear e now answer)).trips j = some t') :
    ∃ t₀, s.contest.trips j = some t₀ ∧ t'.began = t₀.began ∧
      ((∃ a, t₀.errand = .attempt a) → (∃ a, t'.errand = .attempt a) ∧
        (t'.Confirmed → t₀.Confirmed)) := by
  rcases Contest.trips_setTrip_cases htrip' with ⟨rfl, rfl⟩ | ⟨-, htrip'⟩
  · refine ⟨t, htrip, t.began_hear .., ?_⟩
    rintro ⟨a, herrand⟩
    refine ⟨?_, (Trip.confirmed_hear herrand).1⟩
    rcases hnext : a.receive e answer with a' | verdict
    · exact ⟨a', by rw [Trip.hear_of_inl herrand hnext]⟩
    · exact ⟨a, by rw [Trip.hear_of_inr herrand hnext, herrand]⟩
  · exact ⟨t', htrip', rfl, fun ha => ⟨ha, id⟩⟩

theorem Inv.hear (h : s.Inv who origin) {i : ι} {t : Trip} {answer : LeaseAnswer} {c : Candidacy}
    (htrip : s.contest.trips (i, s.begun i) = some t)
    (hanswer : t.mail = .answered answer ∨ ∃ fault, answer = .error fault)
    (hmove : Candidacy.Step (who i) s.time (.hear answer) (s.seats i) c) :
    (s.hear who origin i answer t c).Inv who origin where
  sound := by
    refine h.sound.setTrip ((h.sound.trips _ t htrip).hear _ fun hread l hl => ?_)
    rcases hanswer with hmail | ⟨fault, hfault⟩
    · exact (h.sound.trips _ t htrip).answer_issued hread l (hl ▸ hmail)
    · cases hl.symm.trans hfault
  attempts j t' htrip' := by
    obtain ⟨t₀, htrip₀, -, himp⟩ := exists_trip_of_setTrip htrip htrip'
    exact (himp (h.attempts j t₀ htrip₀)).1
  unborn j n hn := by
    refine (Contest.trips_setTrip_of_ne ?_ _).trans (h.unborn j n hn)
    intro heq
    obtain ⟨rfl, rfl⟩ := Prod.mk.inj heq
    exact absurd hn (Nat.lt_irrefl _)
  began_le j t' htrip' := by
    obtain ⟨t₀, htrip₀, hbegan, -⟩ := exists_trip_of_setTrip htrip htrip'
    exact hbegan ▸ h.began_le j t₀ htrip₀
  began_mono j m n t₁ t₂ hmn htrip₁ htrip₂ := by
    obtain ⟨t₁', htrip₁', hbegan₁, -⟩ := exists_trip_of_setTrip htrip htrip₁
    obtain ⟨t₂', htrip₂', hbegan₂, -⟩ := exists_trip_of_setTrip htrip htrip₂
    rw [hbegan₁, hbegan₂]
    exact h.began_mono j m n t₁' t₂' hmn htrip₁' htrip₂'
  stale j m n t₁ t₂ hlt htrip₁ hpending htrip₂ hconfirmed := by
    obtain ⟨t₂', htrip₂', -, himp⟩ := exists_trip_of_setTrip htrip htrip₂
    have hconfirmed' := (himp (h.attempts _ t₂' htrip₂')).2 hconfirmed
    rcases Contest.trips_setTrip_cases htrip₁ with ⟨heq, -⟩ | ⟨-, hbefore₁⟩
    · -- No attempt has a higher number than the last one.
      obtain ⟨rfl, rfl⟩ := Prod.mk.inj heq
      exact nomatch htrip₂'.symm.trans (h.unborn j n hlt)
    · exact h.stale j m n t₁ t₂' hlt hbefore₁ hpending htrip₂' hconfirmed'
  owned := h.owned
  covers j n t' htrip' hconfirmed := by
    obtain ⟨t₀, htrip₀, hbegan, himp⟩ := exists_trip_of_setTrip htrip htrip'
    rw [hbegan]
    exact h.covers j n t₀ htrip₀ ((himp (h.attempts _ t₀ htrip₀)).2 hconfirmed)
  seats j := by
    by_cases hj : j = i
    · subst hj
      have hseat := (h.seats j).hear hmove htrip hanswer
      rw [← attempts_update] at hseat
      simpa [Campaign.hear, setSeat, Contest.setTrip] using hseat
    · have hseat := h.seats j
      rw [← attempts_update_of_ne s.contest.trips hj (s.begun i)
        (some (t.hear (who i) (origin.after s.time) answer))] at hseat
      simpa [Campaign.hear, setSeat, Contest.setTrip, hj] using hseat

theorem Inv.quit (h : s.Inv who origin) {i : ι} {c : Candidacy}
    (hmove : Candidacy.Step (who i) s.time .quit (s.seats i) c) :
    (s.setSeat i c).Inv who origin where
  sound := h.sound
  attempts := h.attempts
  unborn := h.unborn
  began_le := h.began_le
  began_mono := h.began_mono
  stale := h.stale
  owned := h.owned
  covers := h.covers
  seats j := by
    by_cases hj : j = i
    · subst hj
      simpa [setSeat] using (h.seats j).quit hmove
    · simpa [setSeat, hj] using h.seats j

omit [DecidableEq ι] in
theorem Inv.pass (h : s.Inv who origin) {time : Nat} (hle : s.time ≤ time)
    (hpatient : ∀ i r, (s.seats i).renewal = some r → r.Patient time) :
    Inv who origin { s with time := time } where
  sound := h.sound
  attempts := h.attempts
  unborn := h.unborn
  began_le k t htrip := Int.le_trans (h.began_le k t htrip) (Lease.Instant.after_le_after hle)
  began_mono := h.began_mono
  stale := h.stale
  owned := h.owned
  covers i n t htrip hconfirmed := (h.covers i n t htrip hconfirmed).mono hle rfl
  seats i := (h.seats i).pass hle (hpatient i)

/-- Every event keeps the invariant, if the electors have different names and the same timing. -/
theorem Step.inv (hstep : Step who origin s s') (h : s.Inv who origin)
    (hid : ∀ i j, (who i).identity = (who j).identity → i = j)
    (htiming : ∀ i j, (who i).timing = (who j).timing) : s'.Inv who origin := by
  cases hstep with
  | pass hle hpatient => exact h.pass hle hpatient
  | serve htrip hmail => exact h.serve hid htiming htrip hmail
  | begin hmove hsolo => exact h.begin hmove hsolo
  | hear htrip hanswer hmove => exact h.hear htrip hanswer hmove
  | quit hmove => exact h.quit hmove

/-- Every campaign over a lease that none of the electors holds keeps the invariant. -/
theorem Reachable.inv {store : LeaseStore} (h : Reachable who origin store s)
    (hid : ∀ i j, (who i).identity = (who j).identity → i = j)
    (htiming : ∀ i j, (who i).timing = (who j).timing) (hstore : store.Coherent)
    (hfree : ∀ i l, store.lease = some l → l.holder? ≠ some (who i).identity) :
    s.Inv who origin := by
  induction h with
  | start => exact inv_start hstore hfree
  | step _ hstep ih => exact hstep.inv ih hid htiming

end Campaign

end ControllerManager.Election
