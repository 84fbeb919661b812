import ControllerManager.Proofs.Registry.Intake
import ControllerManager.Scheme.Builder
import Mathlib.Data.Finset.Card
import Mathlib.Data.List.Pairwise
import Mathlib.Data.List.Perm.Basic
import Mathlib.Tactic.SplitIfs

/-!
# What a scheme knows

A registration names a kind and its scope. It is refused if the kind has no version or no name, or
if it was accepted before with the other scope. A scheme is what its accepted registrations say: it
knows each of their kinds once, and a kind registered again changes nothing. So the scheme does not
depend on the order of the registrations or on how often each is made. Neither does it depend on
whether they come one at a time or from a builder.

## Main definitions

* `Scheme.Act`, `Scheme.performAll` — registrations and builders in order, with the answers.
* `Scheme.accepted` — the registrations that were accepted of them.
* `Scheme.Mirrors` — a scheme that is what a list of accepted registrations says.
* `Scheme.Admissible` — a registration that is accepted behind others.
* `Scheme.Consistent` — registrations that can all be accepted.

## Main results

* `Scheme.add_cases` — what comes of one registration.
* `Scheme.answers_eq_none_iff` — when all registrations are accepted.
* `Scheme.buildFrom_cases` — when a scheme is built.
* `Scheme.registrations_decide`.
-/

namespace ControllerManager

/-- The scope that a kind does not have. -/
def Scope.other : Scope → Scope
  | .namespaced => .cluster
  | .cluster => .namespaced

theorem Scope.ne_iff {a b : Scope} : a ≠ b ↔ a = b.other := by
  cases a <;> cases b <;> decide

/-- A kind with a version and a name. -/
def GroupVersionKind.IsNamed (g : GroupVersionKind) : Prop := g.version ≠ "" ∧ g.kind ≠ ""

namespace Scheme

/-- A kind with the scope under which it is registered. -/
abbrev Registration := GroupVersionKind × Scope

/-- What a registration makes known: its own kind, under the plural and the scope of that kind. -/
def known (r : Registration) : KnownKind := ⟨r.1, r.1.plural, r.2⟩

/-- The scheme with one more registration. -/
def register (s : Scheme) (r : Registration) : Except Error Scheme := s.add r.1 r.2

variable {s s' : Scheme} {log : List Registration} {r : Registration}

/-! ### One registration -/

/-- Two registrations do not give one kind two scopes. -/
def Agree (r r' : Registration) : Prop := r.1 = r'.1 → r.2 = r'.2

instance : Std.Symm Agree := ⟨fun _ _ h heq => (h heq.symm).symm⟩

/-- A registration of a named kind that agrees with all those before it. -/
structure Admissible (log : List Registration) (r : Registration) : Prop where
  named : r.1.IsNamed
  agrees : ∀ r' ∈ log, Agree r' r

theorem not_admissible_iff :
    ¬ Admissible log r ↔
      r.1.version = "" ∨ r.1.kind = "" ∨ ∃ scope, scope ≠ r.2 ∧ (r.1, scope) ∈ log := by
  constructor
  · intro h
    by_contra hnot
    simp only [not_or, not_exists, not_and] at hnot
    obtain ⟨hversion, hkind, hscope⟩ := hnot
    refine h ⟨⟨hversion, hkind⟩, fun r' hr' heq => ?_⟩
    by_contra hne
    exact hscope r'.2 hne (heq ▸ hr')
  · rintro (hversion | hkind | ⟨scope, hne, hmem⟩) ⟨hnamed, hagrees⟩
    · exact hnamed.1 hversion
    · exact hnamed.2 hkind
    · exact hne (hagrees _ hmem rfl)

/-- What is said against a registration that is refused. A missing name is found first. -/
def objection (r : Registration) : Error :=
  if r.1.version.isEmpty || r.1.kind.isEmpty then
    .registration "scheme kind" r.1.toText "version and kind must be non-empty"
  else
    .registration "scheme kind" r.1.kind ("already registered with scope " ++ r.2.other.name)

/-- The kinds of a scheme are those of its accepted registrations. -/
def Holds (s : Scheme) (log : List Registration) : Prop :=
  ∀ k, k ∈ s.kinds ↔ ∃ r ∈ log, k = known r

theorem holds_empty : Holds empty [] := by
  simp [Holds, empty]

/-- Each kind stands once in a scheme, and is found there. -/
theorem get?_eq_some_iff {g : GroupVersionKind} {k : KnownKind} :
    s.get? g = some k ↔ k ∈ s.kinds ∧ k.gvk = g := by
  constructor
  · intro h
    exact ⟨List.mem_of_find?_eq_some h, by simpa using List.find?_some h⟩
  · rintro ⟨hk, hg⟩
    cases h : s.get? g with
    | none => exact absurd (hg ▸ List.mem_map_of_mem hk) (not_mem_of_get?_eq_none h)
    | some k' =>
      have hk' : k' ∈ s.kinds := List.mem_of_find?_eq_some h
      have hg' : k'.gvk = g := by simpa using List.find?_some h
      rw [List.inj_on_of_nodup_map s.distinct hk' hk (hg'.trans hg.symm)]

namespace Holds

theorem get?_eq_some_iff (h : Holds s log) {g : GroupVersionKind} {k : KnownKind} :
    s.get? g = some k ↔ ∃ r ∈ log, r.1 = g ∧ k = known r := by
  rw [Scheme.get?_eq_some_iff, h]
  constructor
  · rintro ⟨⟨r, hr, rfl⟩, hg⟩
    exact ⟨r, hr, hg, rfl⟩
  · rintro ⟨r, hr, hg, rfl⟩
    exact ⟨⟨r, hr, rfl⟩, hg⟩

theorem get?_eq_none_iff (h : Holds s log) {g : GroupVersionKind} :
    s.get? g = none ↔ ∀ r ∈ log, r.1 ≠ g := by
  constructor
  · intro hnone r hr hg
    rw [h.get?_eq_some_iff.2 ⟨r, hr, hg, rfl⟩] at hnone
    cases hnone
  · intro hlog
    by_contra hne
    obtain ⟨k, hk⟩ := Option.ne_none_iff_exists'.1 hne
    obtain ⟨r, hr, hg, -⟩ := h.get?_eq_some_iff.1 hk
    exact hlog r hr hg

/-- Accepted registrations agree. -/
theorem agree (h : Holds s log) {r' : Registration} (hr : r ∈ log) (hr' : r' ∈ log) :
    Agree r r' := by
  intro heq
  have hfirst := h.get?_eq_some_iff.2 ⟨r, hr, heq, rfl⟩
  have hsecond := h.get?_eq_some_iff.2 ⟨r', hr', rfl, rfl⟩
  exact congrArg KnownKind.scope (Option.some.inj (hfirst.symm.trans hsecond))

/-- A registration that was accepted before enters nothing. -/
theorem append_of_mem (h : Holds s log) (hr : r ∈ log) : Holds s (log ++ [r]) := by
  intro k
  rw [h k]
  simp only [List.mem_append, List.mem_singleton]
  constructor
  · rintro ⟨r', hr', heq⟩
    exact ⟨r', .inl hr', heq⟩
  · rintro ⟨r', hr' | rfl, heq⟩
    · exact ⟨r', hr', heq⟩
    · exact ⟨r', hr, heq⟩

/-- A registration of a new kind enters that kind. -/
theorem append_of_kinds (h : Holds s log) (hkinds : s'.kinds = s.kinds ++ [known r]) :
    Holds s' (log ++ [r]) := by
  intro k
  rw [hkinds]
  simp only [List.mem_append, h k, List.mem_singleton]
  constructor
  · rintro (⟨r', hr', heq⟩ | heq)
    · exact ⟨r', .inl hr', heq⟩
    · exact ⟨r, .inr rfl, heq⟩
  · rintro ⟨r', hr' | rfl, heq⟩
    · exact .inl ⟨r', hr', heq⟩
    · exact .inr heq

end Holds

/-- A registration is accepted if it is admissible behind the accepted ones, and refused with what
is said against it otherwise. -/
theorem add_cases (h : Holds s log) (r : Registration) :
    (Admissible log r ∧ ∃ s', s.register r = .ok s' ∧ Holds s' (log ++ [r])) ∨
      (¬ Admissible log r ∧ s.register r = .error (objection r)) := by
  by_cases hnamed : r.1.IsNamed
  · have hname : ¬ (r.1.version.isEmpty || r.1.kind.isEmpty) = true := by
      simpa [GroupVersionKind.IsNamed] using hnamed
    unfold register add objection
    rw [if_neg hname, if_neg hname]
    split
    case h_1 k hk =>
      obtain ⟨r', hr', hkind, rfl⟩ := h.get?_eq_some_iff.1 hk
      by_cases hscope : r'.2 = r.2
      · obtain rfl : r' = r := Prod.ext hkind hscope
        exact .inl ⟨⟨hnamed, fun r'' hr'' => h.agree hr'' hr'⟩, s, if_pos hscope,
          h.append_of_mem hr'⟩
      · have hdiffers : ¬ (known r').scope = r.2 := hscope
        refine .inr ⟨fun hadmissible => hscope (hadmissible.agrees r' hr' hkind), ?_⟩
        rw [if_neg hdiffers, Scope.ne_iff.1 hdiffers]
    case h_2 hnone =>
      exact .inl ⟨⟨hnamed, fun r' hr' heq => absurd heq (h.get?_eq_none_iff.1 hnone r' hr')⟩, _,
        rfl, h.append_of_kinds rfl⟩
  · have hname : (r.1.version.isEmpty || r.1.kind.isEmpty) = true := by
      simp only [GroupVersionKind.IsNamed, not_and_or, not_not] at hnamed
      simpa using hnamed
    refine .inr ⟨fun hadmissible => hnamed hadmissible.named, ?_⟩
    unfold register add objection
    rw [if_pos hname, if_pos hname]

theorem holds_add (h : Holds s log) (hadd : s.register r = .ok s') : Holds s' (log ++ [r]) := by
  rcases add_cases h r with ⟨-, s₁, hs₁, hholds⟩ | ⟨-, herror⟩
  · cases hadd.symm.trans hs₁
    exact hholds
  · cases hadd.symm.trans herror

/-! ### Registrations and builders in order -/

/-- What is done to a scheme: one registration, or all those of a builder. -/
inductive Act where
  | add (r : Registration)
  | builder (b : Builder)

/-- The registrations that an act asks for, in order. -/
def Act.registrations : Act → List Registration
  | .add r => [r]
  | .builder b => b.registrations

/-- The scheme after an act, and why it failed. -/
def perform (s : Scheme) : Act → Scheme × Option Error
  | .add r =>
    match s.register r with
    | .ok s => (s, none)
    | .error e => (s, some e)
  | .builder b => s.run b

/-- The scheme after acts in order, and why each of them failed. -/
def performAll (s : Scheme) : List Act → Scheme × List (Option Error)
  | [] => (s, [])
  | act :: rest =>
    let (s, answer) := s.perform act
    let (s, answers) := performAll s rest
    (s, answer :: answers)

/-- The registrations that were accepted of acts in order. -/
def accepted (s : Scheme) : List Act → List Registration
  | [] => []
  | act :: rest => Intake.accepted register s act.registrations ++ accepted (s.perform act).1 rest

theorem addAll_eq (s : Scheme) (rs : List Registration) :
    s.addAll rs = Intake.addAll register s rs := by
  induction rs generalizing s with
  | nil => rfl
  | cons r rest ih =>
    obtain ⟨g, scope⟩ := r
    simp only [addAll, Intake.addAll, register]
    cases s.add g scope with
    | ok s' => exact ih s'
    | error e => rfl

/-- A builder does what its registrations do. Behind the last of them it can fail by itself. -/
theorem run_eq (s : Scheme) (b : Builder) :
    s.run b = ((Intake.addAll register s b.registrations).1,
      (Intake.addAll register s b.registrations).2.or b.failure) := by
  unfold run
  rw [addAll_eq]
  rcases Intake.addAll register s b.registrations with ⟨s', e | e⟩ <;> rfl

theorem perform_fst (s : Scheme) (act : Act) :
    (s.perform act).1 = (Intake.addAll register s act.registrations).1 := by
  cases act with
  | add r =>
    simp only [perform, Act.registrations, Intake.addAll]
    cases s.register r <;> rfl
  | builder b =>
    rw [perform, run_eq]
    rfl

theorem holds_perform (h : Holds s log) (act : Act) :
    Holds (s.perform act).1 (log ++ Intake.accepted register s act.registrations) := by
  rw [perform_fst]
  exact Intake.holds_addAll holds_add h act.registrations

theorem holds_performAll (h : Holds s log) (acts : List Act) :
    Holds (s.performAll acts).1 (log ++ s.accepted acts) := by
  induction acts generalizing s log with
  | nil => simpa [performAll, accepted] using h
  | cons act rest ih =>
    have hrest := ih (holds_perform h act)
    rwa [List.append_assoc] at hrest

theorem holds_acts (acts : List Act) : Holds (empty.performAll acts).1 (empty.accepted acts) :=
  holds_performAll holds_empty acts

/-! ### What a scheme says -/

/-- A scheme that is what its accepted registrations say. -/
structure Mirrors (s : Scheme) (log : List Registration) : Prop where
  /-- A kind has the scope of its first registration, and the resource of that very kind. -/
  get?_eq : ∀ g, s.get? g = (log.find? (·.1 = g)).map known
  recognizes_iff : ∀ g, s.recognizes g = true ↔ g ∈ log.map Prod.fst
  /-- Each kind is counted once. -/
  size_eq : s.size = (log.map Prod.fst).toFinset.card

theorem Holds.mirrors (h : Holds s log) : Mirrors s log where
  get?_eq g := by
    cases hfind : log.find? (·.1 = g) with
    | none =>
      refine h.get?_eq_none_iff.2 fun r hr => ?_
      simpa using List.find?_eq_none.1 hfind r hr
    | some r =>
      exact h.get?_eq_some_iff.2
        ⟨r, List.mem_of_find?_eq_some hfind, by simpa using List.find?_some hfind, rfl⟩
  recognizes_iff g := by
    rw [recognizes, Option.isSome_iff_exists, List.mem_map]
    constructor
    · rintro ⟨k, hk⟩
      obtain ⟨r, hr, hg, -⟩ := h.get?_eq_some_iff.1 hk
      exact ⟨r, hr, hg⟩
    · rintro ⟨r, hr, hg⟩
      exact ⟨_, h.get?_eq_some_iff.2 ⟨r, hr, hg, rfl⟩⟩
  size_eq := by
    have hmem : (s.kinds.map KnownKind.gvk).toFinset = (log.map Prod.fst).toFinset := by
      ext g
      simp only [List.mem_toFinset, List.mem_map]
      constructor
      · rintro ⟨k, hk, rfl⟩
        obtain ⟨r, hr, rfl⟩ := (h k).1 hk
        exact ⟨r, hr, rfl⟩
      · rintro ⟨r, hr, rfl⟩
        exact ⟨known r, (h _).2 ⟨r, hr, rfl⟩, rfl⟩
    rw [← hmem, List.toFinset_card_of_nodup s.distinct, List.length_map]
    rfl

/-- Two schemes know the same kinds. -/
structure Alike (s s' : Scheme) : Prop where
  kinds : s.kinds.Perm s'.kinds
  get?_eq : ∀ g, s.get? g = s'.get? g

theorem Holds.alike {log' : List Registration} (h : Holds s log) (h' : Holds s' log')
    (hsame : ∀ r, r ∈ log ↔ r ∈ log') : Alike s s' where
  kinds := by
    have hnodup (s : Scheme) : s.kinds.Nodup := s.distinct.of_map
    refine (List.perm_ext_iff_of_nodup (hnodup s) (hnodup s')).2 fun k => ?_
    simp only [h k, h' k, hsame]
  get?_eq g := by
    refine Option.ext fun k => ?_
    simp only [h.get?_eq_some_iff, h'.get?_eq_some_iff, hsame]

/-! ### Registrations that can all be accepted -/

/-- Registrations of named kinds, none of which gives a kind two scopes. -/
structure Consistent (rs : List Registration) : Prop where
  named : ∀ r ∈ rs, r.1.IsNamed
  agree : ∀ r ∈ rs, ∀ r' ∈ rs, Agree r r'

theorem Consistent.congr {rs rs' : List Registration} (hsame : ∀ r, r ∈ rs' ↔ r ∈ rs)
    (h : Consistent rs) : Consistent rs' where
  named r hr := h.named r ((hsame r).1 hr)
  agree r hr r' hr' := h.agree r ((hsame r).1 hr) r' ((hsame r').1 hr')

theorem admissible_concat_iff {r' : Registration} :
    Admissible (log ++ [r]) r' ↔ Admissible log r' ∧ Agree r r' := by
  constructor
  · rintro ⟨hnamed, hagrees⟩
    exact ⟨⟨hnamed, fun x hx => hagrees x (by simp [hx])⟩, hagrees r (by simp)⟩
  · rintro ⟨⟨hnamed, hagrees⟩, hlast⟩
    refine ⟨hnamed, fun x hx => ?_⟩
    rcases List.mem_append.1 hx with hx | hx
    · exact hagrees x hx
    · rwa [List.mem_singleton.1 hx]

/-- A list of registrations is taken as a whole if each is admissible behind the accepted ones, and
no two of the list disagree. -/
theorem addAll_snd_eq_none_iff (h : Holds s log) (rs : List Registration) :
    (Intake.addAll register s rs).2 = none ↔
      (∀ r ∈ rs, Admissible log r) ∧ rs.Pairwise Agree := by
  induction rs generalizing s log with
  | nil => simp [Intake.addAll]
  | cons r rest ih =>
    rcases add_cases h r with ⟨hadmissible, s', hadd, hholds⟩ | ⟨hnot, herror⟩
    · simp only [Intake.addAll, hadd, ih hholds, List.forall_mem_cons, List.pairwise_cons,
        admissible_concat_iff]
      constructor
      · rintro ⟨hall, hpairs⟩
        exact ⟨⟨hadmissible, fun r' hr' => (hall r' hr').1⟩, fun r' hr' => (hall r' hr').2, hpairs⟩
      · rintro ⟨⟨-, hall⟩, hfirst, hpairs⟩
        exact ⟨fun r' hr' => ⟨hall r' hr', hfirst r' hr'⟩, hpairs⟩
    · simp only [Intake.addAll, herror, List.forall_mem_cons]
      constructor
      · intro hnone
        cases hnone
      · rintro ⟨⟨hadmissible, -⟩, -⟩
        exact absurd hadmissible hnot

theorem addAll_empty_snd_eq_none_iff (rs : List Registration) :
    (Intake.addAll register empty rs).2 = none ↔ Consistent rs := by
  rw [addAll_snd_eq_none_iff holds_empty]
  constructor
  · rintro ⟨hall, hpairs⟩
    exact ⟨fun r hr => (hall r hr).named,
      hpairs.forall_of_forall fun _ _ _ => rfl⟩
  · rintro ⟨hnamed, hagree⟩
    exact ⟨fun r hr => ⟨hnamed r hr, by simp⟩, List.pairwise_of_forall_mem_list hagree⟩

/-- Registrations one at a time are all accepted if the list of them is taken as a whole. -/
theorem answers_eq_none_iff (s : Scheme) (rs : List Registration) :
    (∀ answer ∈ (s.performAll (rs.map .add)).2, answer = none) ↔
      (Intake.addAll register s rs).2 = none := by
  induction rs generalizing s with
  | nil => simp [performAll, Intake.addAll]
  | cons r rest ih =>
    cases hadd : s.register r with
    | ok s' => simp [performAll, perform, Intake.addAll, hadd, ih]
    | error e => simp [performAll, perform, Intake.addAll, hadd]

/-- Where no registration is refused, all are accepted. -/
theorem accepted_of_answers {rs : List Registration}
    (h : ∀ answer ∈ (s.performAll (rs.map .add)).2, answer = none) :
    s.accepted (rs.map .add) = rs := by
  induction rs generalizing s with
  | nil => rfl
  | cons r rest ih =>
    cases hadd : s.register r with
    | ok s' =>
      simp only [List.map_cons, performAll, perform, hadd, List.forall_mem_cons] at h
      simp [accepted, perform, Act.registrations, Intake.accepted, hadd, ih h.2]
    | error e => simp [performAll, perform, hadd] at h

/-! ### Builders -/

/-- Builders build the scheme of all their registrations in order, unless one of these is refused or
a builder fails by itself. -/
theorem buildFrom_cases (s : Scheme) (bs : List Builder) :
    ((∀ b ∈ bs, b.failure = none) ∧
      (Intake.addAll register s (bs.flatMap (·.registrations))).2 = none ∧
      (buildFrom s bs).1 = .ok (Intake.addAll register s (bs.flatMap (·.registrations))).1) ∨
    (¬ ((∀ b ∈ bs, b.failure = none) ∧
      (Intake.addAll register s (bs.flatMap (·.registrations))).2 = none) ∧
      ∃ e, (buildFrom s bs).1 = .error e) := by
  induction bs generalizing s with
  | nil => exact .inl ⟨by simp, rfl, rfl⟩
  | cons b rest ih =>
    have hrun := s.run_eq b
    rw [List.flatMap_cons]
    cases hregistrations : (Intake.addAll register s b.registrations).2 with
    | some e =>
      rw [hregistrations, Option.some_or] at hrun
      rw [Intake.addAll_append_of_some hregistrations]
      exact .inr ⟨fun h => by simp [hregistrations] at h, e, by simp [buildFrom, hrun]⟩
    | none =>
      rw [hregistrations, Option.none_or] at hrun
      rw [Intake.addAll_append_of_none hregistrations]
      cases hfailure : b.failure with
      | some e =>
        rw [hfailure] at hrun
        exact .inr ⟨fun h => by simp [hfailure] at h, e, by simp [buildFrom, hrun]⟩
      | none =>
        rw [hfailure] at hrun
        have hbuild : (buildFrom s (b :: rest)).1 =
            (buildFrom (Intake.addAll register s b.registrations).1 rest).1 := by
          simp [buildFrom, hrun]
        simp only [List.forall_mem_cons, hfailure, true_and, hbuild]
        exact ih _

/-- What comes of a builder: its registrations are accepted up to the first that is refused, which
it fails with. Without such a registration it fails by itself or not at all. -/
theorem run_cases (h : Holds s log) (b : Builder) :
    (Intake.accepted register s b.registrations = b.registrations ∧ (s.run b).2 = b.failure) ∨
      ∃ r rest, b.registrations = Intake.accepted register s b.registrations ++ r :: rest ∧
        ¬ Admissible (log ++ Intake.accepted register s b.registrations) r ∧
        (s.run b).2 = some (objection r) := by
  rw [run_eq]
  rcases Intake.addAll_cases register s b.registrations with
    ⟨hall, hnone⟩ | ⟨r, rest, why, hcut, hwhy, hrefused⟩
  · exact .inl ⟨hall, by simp [hnone]⟩
  · rcases add_cases (Intake.holds_addAll holds_add h b.registrations) r with
      ⟨-, s', hadd, -⟩ | ⟨hnot, herror⟩
    · cases hadd.symm.trans hrefused
    · cases herror.symm.trans hrefused
      exact .inr ⟨r, rest, hcut, hnot, by simp [hwhy]⟩

/-! ### What registrations come to -/

/-- The scheme after acts on the empty one. -/
def after (acts : List Act) : Scheme := (empty.performAll acts).1

theorem accepted_concat (s : Scheme) (acts : List Act) (act : Act) :
    s.accepted (acts ++ [act]) =
      s.accepted acts ++ Intake.accepted register (s.performAll acts).1 act.registrations := by
  induction acts generalizing s with
  | nil => simp [accepted, performAll]
  | cons first rest ih =>
    simp only [List.cons_append, accepted, performAll, ih, List.append_assoc]

/-- How a registration behind acts is judged. -/
structure Judges (acts : List Act) (r : Registration) : Prop where
  fails_iff : ((after acts).perform (.add r)).2 ≠ none ↔
    r.1.version = "" ∨ r.1.kind = "" ∨
      ∃ scope, scope ≠ r.2 ∧ (r.1, scope) ∈ empty.accepted acts
  /-- A registration that fails changes nothing, and is told why. -/
  refused : ((after acts).perform (.add r)).2 ≠ none →
    (after acts).perform (.add r) = (after acts, some (objection r)) ∧
      empty.accepted (acts ++ [.add r]) = empty.accepted acts
  entered : ((after acts).perform (.add r)).2 = none →
    empty.accepted (acts ++ [.add r]) = empty.accepted acts ++ [r]

theorem judges (acts : List Act) (r : Registration) : Judges acts r := by
  have hlog := accepted_concat empty acts (.add r)
  simp only [Act.registrations, Intake.accepted] at hlog
  rcases add_cases (holds_acts acts) r with ⟨hadmissible, s', hadd, -⟩ | ⟨hnot, herror⟩
  · have hperform : (after acts).perform (.add r) = (s', none) := by simp [perform, after, hadd]
    rw [hadd] at hlog
    refine ⟨?_, ?_, fun _ => hlog⟩
    · rw [hperform, ← not_admissible_iff]
      exact iff_of_false (fun h => h rfl) (not_not.2 hadmissible)
    · rw [hperform]
      exact fun h => absurd rfl h
  · have hperform : (after acts).perform (.add r) = (after acts, some (objection r)) := by
      simp [perform, after, herror]
    rw [herror, List.append_nil] at hlog
    refine ⟨?_, fun _ => ⟨hperform, hlog⟩, ?_⟩
    · rw [hperform, ← not_admissible_iff]
      exact iff_of_true (Option.some_ne_none _) hnot
    · rw [hperform]
      exact fun h => absurd h (Option.some_ne_none _)

/-- What a builder behind acts comes to: its registrations are all accepted, and it fails only by
itself; or it fails with the first that is refused, and those before that one are accepted. -/
def Halts (acts : List Act) (b : Builder) : Prop :=
  (((after acts).perform (.builder b)).2 = b.failure ∧
    empty.accepted (acts ++ [.builder b]) = empty.accepted acts ++ b.registrations) ∨
  ∃ before r rest, b.registrations = before ++ r :: rest ∧
    empty.accepted (acts ++ [.builder b]) = empty.accepted acts ++ before ∧
    ¬ Admissible (empty.accepted acts ++ before) r ∧
    ((after acts).perform (.builder b)).2 = some (objection r)

theorem halts (acts : List Act) (b : Builder) : Halts acts b := by
  have hlog := accepted_concat empty acts (.builder b)
  rcases run_cases (holds_acts acts) b with ⟨hall, hfailure⟩ | ⟨r, rest, hcut, hnot, hfailure⟩
  · rw [Act.registrations, hall] at hlog
    exact .inl ⟨hfailure, hlog⟩
  · exact .inr ⟨_, r, rest, hcut, hlog, hnot, hfailure⟩

/-- Registrations come to the same in every order, however often each is made: all are accepted and
give the same scheme, or at least one is refused. -/
def OrderFree (rs : List Registration) : Prop :=
  (Consistent rs ∧ ∀ rs' : List Registration, (∀ r, r ∈ rs' ↔ r ∈ rs) →
    (∀ answer ∈ (empty.performAll (rs'.map .add)).2, answer = none) ∧
      Alike (after (rs'.map .add)) (after (rs.map .add))) ∨
  (¬ Consistent rs ∧ ∀ rs' : List Registration, (∀ r, r ∈ rs' ↔ r ∈ rs) →
    ∃ answer ∈ (empty.performAll (rs'.map .add)).2, answer ≠ none)

theorem answers_empty_eq_none_iff (rs : List Registration) :
    (∀ answer ∈ (empty.performAll (rs.map .add)).2, answer = none) ↔ Consistent rs :=
  (answers_eq_none_iff empty rs).trans (addAll_empty_snd_eq_none_iff rs)

theorem orderFree (rs : List Registration) : OrderFree rs := by
  by_cases h : Consistent rs
  · have hholds {rs' : List Registration} (h' : Consistent rs') :
        Holds (after (rs'.map .add)) rs' := by
      have hlog := holds_acts (rs'.map .add)
      rwa [accepted_of_answers ((answers_empty_eq_none_iff rs').2 h')] at hlog
    refine .inl ⟨h, fun rs' hsame => ?_⟩
    have h' := h.congr hsame
    exact ⟨(answers_empty_eq_none_iff rs').2 h', (hholds h').alike (hholds h) hsame⟩
  · refine .inr ⟨h, fun rs' hsame => ?_⟩
    by_contra hnone
    have hall : ∀ answer ∈ (empty.performAll (rs'.map .add)).2, answer = none := by
      simpa using hnone
    exact h (((answers_empty_eq_none_iff rs').1 hall).congr fun r => (hsame r).symm)

/-- **A scheme is what is registered.** After registrations and builders in any order the scheme is
what the accepted registrations say. A registration fails exactly if its kind lacks a version or a
name, or was accepted before with the other scope, and then changes nothing; a builder stops at the
first of its registrations that fails. Registrations come to the same in every order and number. A
scheme is built exactly if the registrations of all builders are consistent and none of these fails
by itself, and is then what they say. -/
theorem registrations_decide :
    (∀ acts, Mirrors (after acts) (empty.accepted acts)) ∧
    (∀ acts r, Judges acts r) ∧
    (∀ acts b, Halts acts b) ∧
    (∀ rs, OrderFree rs) ∧
    ∀ bs : List Builder,
      ((∃ s, build bs = .ok s) ↔
        Consistent (bs.flatMap (·.registrations)) ∧ ∀ b ∈ bs, b.failure = none) ∧
      ∀ s, build bs = .ok s → Mirrors s (bs.flatMap (·.registrations)) := by
  refine ⟨fun acts => (holds_acts acts).mirrors, judges, halts, orderFree, fun bs => ?_⟩
  unfold build
  rcases buildFrom_cases empty bs with ⟨hfailure, hnone, hbuild⟩ | ⟨hnot, e, hbuild⟩
  · have hconsistent := (addAll_empty_snd_eq_none_iff _).1 hnone
    refine ⟨iff_of_true ⟨_, hbuild⟩ ⟨hconsistent, hfailure⟩, fun s hs => ?_⟩
    cases hs.symm.trans hbuild
    have hall : Intake.accepted register empty (bs.flatMap (·.registrations)) =
        bs.flatMap (·.registrations) := by
      rcases Intake.addAll_cases register empty (bs.flatMap (·.registrations)) with
        ⟨hall, -⟩ | ⟨_, _, why, -, hwhy, -⟩
      · exact hall
      · cases hnone.symm.trans hwhy
    have hholds := Intake.holds_addAll holds_add holds_empty (bs.flatMap (·.registrations))
    rw [hall] at hholds
    exact Holds.mirrors hholds
  · refine ⟨iff_of_false (fun ⟨s, hs⟩ => ?_) fun ⟨hconsistent, hfailure⟩ =>
      hnot ⟨hfailure, (addAll_empty_snd_eq_none_iff _).2 hconsistent⟩, fun s hs => ?_⟩
    · cases hs.symm.trans hbuild
    · cases hs.symm.trans hbuild

end Scheme

end ControllerManager
