import ControllerManager.Proofs.Topology.Choice
import ControllerManager.Startup.Sequencer
import Mathlib.Data.List.Basic
import Mathlib.Data.List.Pairwise

/-!
# Stages in order

A start goes through the stages one behind the other. It ends with the manager after all of them,
or with a failure at the stage that was entered last. The run of the manager adds the stage of the
run, and the exit where it ended without a failure. Whatever is called on a sequencer, and in
whatever order, no stage is entered twice or behind a later one: such an entry halts the course
before anything is told.

## Main definitions

* `Startup.Course.Passes` — a course that enters some stages behind others.
* `Startup.Sequencer.stages` — the stages of a start.
* `Startup.Sequencer.Attended` — the journals that calls on one sequencer lead to.

## Main results

* `Startup.Sequencer.passes_course` — a start passes its stages.
* `Startup.Sequencer.Attended.increasing` — the stages of every journal increase.
* `Startup.Sequencer.stages_in_order`.
-/

namespace ControllerManager.Startup

open Cluster

/-! ### Entries into stages -/

/-- A stage comes behind the last of a list of stages. -/
def Stage.Behind (stage : Stage) (before : List Stage) : Prop :=
  ∀ last, before.getLast? = some last → last.ordinal < stage.ordinal

/-- Every stage of a list comes behind those before it. -/
def Stage.Increasing (stages : List Stage) : Prop :=
  stages.Pairwise fun s t => s.ordinal < t.ordinal

instance : DecidablePred Stage.Increasing := fun stages =>
  inferInstanceAs (Decidable (stages.Pairwise fun s t => s.ordinal < t.ordinal))

namespace Journal

theorem admits_iff {j : Journal} {stage : Stage} :
    j.admits stage = true ↔ stage.Behind j.history := by
  unfold admits Stage.Behind
  cases j.history.getLast? <;> simp

/-- A stage behind the last one of increasing stages is behind all of them. -/
theorem increasing_append_iff {j : Journal} {stage : Stage} (h : Stage.Increasing j.history) :
    Stage.Increasing (j.history ++ [stage]) ↔ j.admits stage = true := by
  rw [admits_iff, Stage.Increasing, List.pairwise_append]
  constructor
  · rintro ⟨-, -, hbefore⟩ last hlast
    exact hbefore last (List.mem_of_getLast? hlast) stage (List.mem_singleton_self _)
  · intro hbehind
    refine ⟨h, List.pairwise_singleton _ _, fun s hs t ht => ?_⟩
    obtain rfl := List.mem_singleton.1 ht
    obtain ⟨before, last, hhistory⟩ : ∃ before last, j.history = before ++ [last] :=
      ⟨_, _, (List.dropLast_append_getLast (List.ne_nil_of_mem hs)).symm⟩
    have hlast : last.ordinal < t.ordinal := hbehind last (by simp [hhistory])
    rw [hhistory, Stage.Increasing, List.pairwise_append] at h
    rw [hhistory, List.mem_append, List.mem_singleton] at hs
    rcases hs with hs | rfl
    · exact Nat.lt_trans (h.2.2 s hs last (List.mem_singleton_self _)) hlast
    · exact hlast

/-- Notices that name no stage leave the stages alone. -/
theorem history_foldl_tell {notices : List Notice} (h : ∀ n ∈ notices, n.stage? = none)
    (j : Journal) : (notices.foldl tell j).history = j.history := by
  induction notices generalizing j with
  | nil => rfl
  | cons n notices ih =>
    rw [List.foldl_cons, ih fun n' hn' => h n' (List.mem_cons_of_mem _ hn')]
    simp [h n List.mem_cons_self]

end Journal

/-! ### Courses -/

namespace Course

variable {α β : Type} {before next rest : List Stage}

theorem run_bind (c : Course α) (k : α → Course β) (j : Journal) :
    (c >>= k).run.run j =
      match c.run.run j with
      | (.ok a, j) => (k a).run.run j
      | (.error halt, j) => (.error halt, j) := by
  simp only [ExceptT.run_bind, StateT.run_bind]
  rcases c.run.run j with ⟨_ | _, _⟩ <;> rfl

/-- An entry that is refused halts the course, and nothing is told. -/
theorem run_enter (stage : Stage) (j : Journal) :
    (enter stage).run.run j =
      if j.admits stage then (.ok (), j.tell (.entered stage)) else (.error .disordered, j) := by
  have hget : (get : Course Journal).run.run j = (.ok j, j) := rfl
  unfold enter
  rw [run_bind, hget]
  simp only [Journal.enter?]
  split_ifs <;> rfl

/-- What comes of a course that goes up to the last of some stages: it has entered all of them, or
failed at the one that it entered last. -/
def Staged (stages : List Stage) : Except Halt α → Journal → Prop
  | .ok _, j => j.history = stages
  | .error (.failed f), j => j.history <+: stages ∧ j.history.getLast? = some f.stage
  | .error _, _ => False

/-- What comes of a course up to increasing stages is a journal with increasing stages. -/
theorem Staged.increasing {stages : List Stage} {x : Except Halt α} {j : Journal}
    (h : Staged stages x j) (hstages : Stage.Increasing stages) : Stage.Increasing j.history := by
  rcases x with (f | _ | _) | a
  · exact hstages.sublist h.1.sublist
  · exact h.elim
  · exact h.elim
  · exact (congrArg Stage.Increasing h).mpr hstages

/-- The course enters the stages `next` behind the stages `before`. -/
def Passes (c : Course α) (before next : List Stage) : Prop :=
  ∀ j : Journal, j.history = before → Staged (before ++ next) (c.run.run j).1 (c.run.run j).2

theorem Passes.bind {c : Course α} {k : α → Course β} (hc : c.Passes before next)
    (hk : ∀ a, (k a).Passes (before ++ next) rest) : (c >>= k).Passes before (next ++ rest) := by
  intro j hj
  have hfirst := hc j hj
  rw [run_bind, ← List.append_assoc]
  rcases hrun : c.run.run j with ⟨(f | _ | _) | a, j'⟩ <;> rw [hrun] at hfirst
  · obtain ⟨hpre, hlast⟩ := hfirst
    exact ⟨hpre.trans (List.prefix_append _ _), hlast⟩
  · exact hfirst
  · exact hfirst
  · exact hk a j' hfirst

theorem passes_pure (a : α) : (pure a : Course α).Passes before [] := fun _ hj =>
  hj.trans (List.append_nil _).symm

theorem passes_tellAll {notices : List Notice} (h : ∀ n ∈ notices, n.stage? = none) :
    (tellAll notices).Passes before [] := by
  rintro j rfl
  rw [List.append_nil]
  exact Journal.history_foldl_tell h j

theorem passes_tell {notice : Notice} (h : notice.stage? = none) :
    (tell notice).Passes before [] :=
  -- A notice is told as the only one of a list.
  passes_tellAll fun _ hn => (List.mem_singleton.1 hn).symm ▸ h

theorem passes_enter {stage : Stage} (h : stage.Behind before) :
    (enter stage).Passes before [stage] := by
  rintro j rfl
  rw [run_enter, if_pos (Journal.admits_iff.2 h)]
  exact Journal.history_tell _ _

/-- A failure is one at the stage that was entered last. -/
theorem passes_settle {stage : Stage} (h : before.getLast? = some stage) (x : Except Error α) :
    (settle stage x).Passes before [] := by
  rintro j rfl
  cases x with
  | ok a => exact (List.append_nil _).symm
  | error error => exact ⟨List.prefix_append _ _, h⟩

end Course

open Course

/-! ### The stages of a start -/

namespace Sequencer

variable {before : List Stage}

/-- The stages of a start. Those of the webhooks are left out where they are turned off. -/
def stages (s : Sequencer) : List Stage :=
  [.parseConfig, .resolveTopology, .buildManager, .applyDefaults, .registerControllers] ++
    (if s.settings.enableWebhooks then [.registerWebhooks] else []) ++ [.registerProbes]

/-- The course of a start, given the choice of a topology. -/
def course (s : Sequencer) (r : Topology.Resolution) : Course Manager := do
  s.assemble (← s.begin) r

theorem passes_begin (s : Sequencer) : s.begin.Passes [] [.parseConfig, .resolveTopology] := by
  have hfirst : Stage.parseConfig.Behind [] := nofun
  have hsecond : Stage.resolveTopology.Behind [.parseConfig] := by
    simp [Stage.Behind, Stage.ordinal]
  refine (passes_enter hfirst).bind fun _ => ?_
  refine (passes_tellAll (List.forall_mem_map.2 fun _ _ => rfl)).bind fun _ => ?_
  refine (passes_settle rfl _).bind fun scheme => ?_
  refine (passes_tell rfl).bind fun _ => ?_
  exact (passes_enter hsecond).bind fun _ => passes_pure scheme

/-- The choice of a topology enters no stage by itself. -/
theorem stage?_topologyNotices (exportName : String) (r : Topology.Resolution) :
    ∀ n ∈ topologyNotices exportName r, n.stage? = none := by
  unfold topologyNotices
  rcases r.group with _ | (_ | _) <;> rcases r.result with _ | (_ | ⟨_, _⟩) <;>
    simp [Notice.stage?]

theorem passes_buildManager (s : Sequencer) (scheme : Scheme) (r : Topology.Resolution)
    (h : before.getLast? = some .resolveTopology) :
    (s.buildManager scheme r).Passes before [.buildManager] := by
  have hbehind : Stage.buildManager.Behind before := by simp [Stage.Behind, h, Stage.ordinal]
  refine (passes_tellAll (stage?_topologyNotices _ r)).bind fun _ => ?_
  rw [List.append_nil]
  refine (passes_settle h _).bind fun topology => ?_
  rw [List.append_nil]
  refine (passes_enter hbehind).bind fun _ => ?_
  refine (passes_settle (by simp) _).bind fun m => ?_
  exact (passes_tell rfl).bind fun _ => passes_pure m

theorem passes_applyDefaults (s : Sequencer) (m : Manager) (h : Stage.applyDefaults.Behind before) :
    (s.applyDefaults m).Passes before [.applyDefaults] := by
  refine (passes_enter h).bind fun _ => ?_
  refine (passes_tellAll (List.forall_mem_map.2 fun _ _ => rfl)).bind fun _ => ?_
  exact (passes_settle (by simp) _).bind fun values => passes_pure (m.setDefaults values)

theorem passes_registerControllers (s : Sequencer) (m : Manager)
    (h : Stage.registerControllers.Behind before) :
    (s.registerControllers m).Passes before [.registerControllers] :=
  (passes_enter h).bind fun _ => passes_settle (by simp) _

theorem passes_registerWebhooks (s : Sequencer) (m : Manager)
    (h : Stage.registerWebhooks.Behind before) :
    (s.registerWebhooks m).Passes before
      (if s.settings.enableWebhooks then [.registerWebhooks] else []) := by
  unfold registerWebhooks
  split_ifs
  · refine (passes_enter h).bind fun _ => ?_
    refine (passes_tellAll (List.forall_mem_map.2 fun _ _ => rfl)).bind fun _ => ?_
    exact passes_settle (by simp) _
  · exact (passes_tell rfl).bind fun _ => passes_pure m

theorem passes_registerProbes (m : Manager) (h : Stage.registerProbes.Behind before) :
    (registerProbes m).Passes before [.registerProbes] := by
  refine (passes_enter h).bind fun _ => ?_
  refine (passes_settle (by simp) _).bind fun m => ?_
  exact passes_settle (by simp) _

/-- **A start passes its stages**, whatever the choice of a topology is. -/
theorem passes_course (s : Sequencer) (r : Topology.Resolution) :
    (s.course r).Passes [] s.stages := by
  refine s.passes_begin.bind fun scheme => ?_
  refine (s.passes_buildManager scheme r rfl).bind fun m => ?_
  refine (s.passes_applyDefaults m (by simp [Stage.Behind, Stage.ordinal])).bind fun m => ?_
  refine (s.passes_registerControllers m (by simp [Stage.Behind, Stage.ordinal])).bind fun m => ?_
  refine (s.passes_registerWebhooks m (by simp [Stage.Behind, Stage.ordinal])).bind fun m => ?_
  refine passes_registerProbes m ?_
  split_ifs <;> simp [Stage.Behind, Stage.ordinal]

theorem increasing_stages (s : Sequencer) : Stage.Increasing s.stages := by
  unfold stages
  split_ifs <;> decide

/-! ### Calls on a sequencer -/

/-- A start on a surface is its course for the choice that is made there. -/
theorem run_prepare_eq {σ : Type} (s : Sequencer) (surface : Surface (StateM σ)) (state : σ)
    (j : Journal) : ((s.prepare surface j).run state).1 =
      (s.course ((Topology.resolution surface s.settings.cluster
        s.settings.apiExportName).run state).1).run.run j := by
  unfold prepare course
  rw [run_bind]
  rcases s.begin.run.run j with ⟨_ | scheme, j⟩ <;> rfl

/-- A start on a surface is its course for some choice of a topology. -/
theorem run_prepare {σ : Type} (s : Sequencer) (surface : Surface (StateM σ)) (state : σ)
    (j : Journal) : ∃ r, ((s.prepare surface j).run state).1 = (s.course r).run.run j :=
  ⟨_, s.run_prepare_eq surface state j⟩

/-- Behind any other stage nothing is started again. -/
theorem run_course_of_ne_nil (s : Sequencer) (r : Topology.Resolution) {j : Journal}
    (h : j.history ≠ []) : (s.course r).run.run j = (.error .disordered, j) := by
  have hrefused : ¬ j.admits .parseConfig = true := by
    rw [Journal.admits_iff]
    intro hbehind
    exact Nat.not_lt_zero _ (hbehind _ (List.getLast?_eq_some_getLast h))
  unfold course begin
  rw [run_bind, run_bind, run_enter, if_neg hrefused]

end Sequencer

/-- The stages of a run of the manager that ended in this phase. -/
def attended : Manager.Phase → List Stage
  | .over none => [.run, .exit]
  | _ => [.run]

/-- What comes of attending a run that ended in this phase. -/
def attendance : Manager.Phase → Except Halt Unit
  | .over (some error) => .error (.failed ⟨.run, error⟩)
  | .crashed => .error .crashed
  | _ => .ok ()

/-- Where the stage of the run is admitted, the stages of the run are entered. -/
theorem run_attend (m : Manager) (r : Manager.Run) {j : Journal} (h : j.admits .run = true) :
    ((attend m r).run.run j).1 = attendance r.phase ∧
      ((attend m r).run.run j).2.history = j.history ++ attended r.phase := by
  have hlaunch : (launch m).run.run j =
      (.ok (), (j.tell (.entered .run)).tell (.managerStarted m.kind m.host)) := by
    unfold launch
    rw [run_bind, run_enter, if_pos h]
    rfl
  unfold attend
  rw [run_bind, hlaunch]
  simp only [run_bind]
  generalize hnotices : r.log.reverse.map _ = notices
  have hsilent : ∀ n ∈ notices, n.stage? = none := by
    rw [← hnotices]
    exact List.forall_mem_map.2 fun _ _ => rfl
  generalize hj : (j.tell (.entered .run)).tell (.managerStarted m.kind m.host) = j'
  have htold : (tellAll notices).run.run j' = (.ok (), notices.foldl Journal.tell j') := rfl
  rw [htold]
  have hhistory : (notices.foldl Journal.tell j').history = j.history ++ [.run] := by
    rw [Journal.history_foldl_tell hsilent, ← hj, Journal.history_tell, Journal.history_tell]
    simp [Notice.stage?]
  rcases r.phase with _ | _ | _ | _ | _ | (_ | error) | _
  case over.none =>
    have hexit : (notices.foldl Journal.tell j').admits .exit = true := by
      simp [Journal.admits_iff, Stage.Behind, hhistory, Stage.ordinal]
    simp only [run_enter, if_pos hexit]
    refine ⟨rfl, ?_⟩
    rw [Journal.history_tell, hhistory, List.append_assoc]
    rfl
  all_goals exact ⟨rfl, hhistory⟩

/-- Where the stage of the run is not admitted, nothing is attended. -/
theorem run_attend_of_not_admits (m : Manager) (r : Manager.Run) {j : Journal}
    (h : ¬ j.admits .run = true) : (attend m r).run.run j = (.error .disordered, j) := by
  unfold attend launch
  rw [run_bind, run_bind, run_enter, if_neg h]

/-- The exit comes behind the run, and so behind all that the run comes behind. -/
theorem increasing_append_attended {before : List Stage} (h : Stage.Increasing (before ++ [.run]))
    (phase : Manager.Phase) : Stage.Increasing (before ++ attended phase) := by
  rcases phase with _ | _ | _ | _ | _ | (_ | error) | _
  case over.none =>
    obtain ⟨hbefore, -, hrun⟩ := List.pairwise_append.1 h
    refine List.pairwise_append.2 ⟨hbefore, by decide, fun s hs t ht => ?_⟩
    have hs : s.ordinal < Stage.run.ordinal := hrun s hs _ (List.mem_singleton_self _)
    rcases List.mem_pair.1 ht with rfl | rfl
    · exact hs
    · exact Nat.lt_trans hs (by decide)
  all_goals exact h

namespace Sequencer

/-- The journals that calls on one sequencer lead to, in any order and after failures too. -/
inductive Attended (s : Sequencer) : Journal → Prop
  | fresh : Attended s .empty
  | prepare {σ : Type} {j : Journal} (surface : Surface (StateM σ)) (state : σ)
      (h : Attended s j) : Attended s ((s.prepare surface j).run state).1.2
  | run {j : Journal} (m : Manager) (r : Manager.Run) (h : Attended s j) :
      Attended s ((attend m r).run.run j).2

/-- **The stages of every journal increase.** -/
theorem Attended.increasing {s : Sequencer} {j : Journal} (h : s.Attended j) :
    Stage.Increasing j.history := by
  induction h with
  | fresh => exact List.Pairwise.nil
  | @prepare σ j surface state _ ih =>
    obtain ⟨r, hr⟩ := s.run_prepare surface state j
    rw [hr]
    by_cases hj : j.history = []
    · exact (s.passes_course r j hj).increasing s.increasing_stages
    · rwa [run_course_of_ne_nil s r hj]
  | @run j m r _ ih =>
    by_cases hadmits : j.admits .run = true
    · rw [(run_attend m r hadmits).2]
      exact increasing_append_attended ((Journal.increasing_append_iff ih).2 hadmits) _
    · rwa [run_attend_of_not_admits m r hadmits]

/-- **Stages in order.** A first start goes through its stages, and ends with the manager or with a
failure at the stage that it entered last. A run behind them adds its own stages. Whatever is
called on the sequencer, no stage is entered twice or behind a later one: such an entry halts, a
second start and a run that comes too late with it, and the journal stays as it is. -/
theorem stages_in_order (s : Sequencer) :
    (∀ (σ : Type) (surface : Surface (StateM σ)) (state : σ),
      Staged s.stages ((s.prepare surface .empty).run state).1.1
        ((s.prepare surface .empty).run state).1.2) ∧
    (∀ (j : Journal) (m : Manager) (r : Manager.Run), j.history = s.stages →
      ((attend m r).run.run j).1 = attendance r.phase ∧
        ((attend m r).run.run j).2.history = s.stages ++ attended r.phase) ∧
    (∀ j, s.Attended j → Stage.Increasing j.history) ∧
    ∀ j, s.Attended j →
      (∀ stage, ¬ Stage.Increasing (j.history ++ [stage]) →
        (enter stage).run.run j = (.error .disordered, j)) ∧
      (j.history ≠ [] → ∀ (σ : Type) (surface : Surface (StateM σ)) (state : σ),
        ((s.prepare surface j).run state).1 = (.error .disordered, j)) ∧
      (¬ Stage.Increasing (j.history ++ [.run]) → ∀ (m : Manager) (r : Manager.Run),
        (attend m r).run.run j = (.error .disordered, j)) := by
  refine ⟨fun σ surface state => ?_, fun j m r hj => ?_, fun j hj => hj.increasing, fun j hj =>
    ⟨fun stage hstage => ?_, fun hne σ surface state => ?_, fun hrun m r => ?_⟩⟩
  · obtain ⟨r, hr⟩ := s.run_prepare surface state .empty
    rw [hr]
    exact s.passes_course r .empty rfl
  · have hadmits : j.admits .run = true := by
      rw [Journal.admits_iff, hj]
      unfold stages
      split_ifs <;> simp [Stage.Behind, Stage.ordinal]
    rw [← hj]
    exact run_attend m r hadmits
  · rw [Journal.increasing_append_iff hj.increasing] at hstage
    rw [run_enter, if_neg hstage]
  · obtain ⟨r, hr⟩ := s.run_prepare surface state j
    rw [hr, run_course_of_ne_nil s r hne]
  · rw [Journal.increasing_append_iff hj.increasing] at hrun
    exact run_attend_of_not_admits m r hrun

/-- A sequencer with nothing to register, whose webhooks are turned off. -/
def plain : Sequencer where
  settings := {
    cluster := .ofUrl (.absolute "https".toList "base.example".toList ⟨['/'], none⟩)
    apiExportName := "releases"
    metricsBindAddress := .disabled
    healthProbeBindAddress := .disabled
    leaderElect := false
    leaderElectionNamespace := none
    enableWebhooks := false
    webhookPort := 9443
    webhookCertDir := ""
    gracefulShutdownTimeout := 30
    overrides := ⟨none, none⟩ }
  environment := fun _ => .unset
  collaborators := ⟨[], .ok, []⟩
  inClusterNamespace := none
  identity := "plain"
  recordsMetrics := false

/-- A surface that serves the group of exports or does not, and has no export. -/
def exportless (served : Bool) : Surface (StateM Unit) :=
  .answering (.ok served) (.ok none)

/-- The journal of a first start of the plain sequencer. -/
def plainStart (served : Bool) : Journal := ((plain.prepare (exportless served) .empty).run ()).1.2

/-- The run of a manager that was asked to stop before it began. -/
def stoppedRun (m : Manager) : Manager.Run :=
  (Manager.Run.start m
    { site := .isolated [] fun _ => .missing
      server := ⟨.empty, [], false, false⟩
      connected := false
      clock := fun _ => 0
      signal := Manager.ShutdownSignal.initial.send true
      agenda := [] }).upTo 0

theorem attended_plainStart (served : Bool) : plain.Attended (plainStart served) :=
  .prepare (exportless served) () .fresh

/-- A start that failed is not started again, and a run that is over does not run again. -/
theorem plain_not_repeated :
    (plainStart true).history = [.parseConfig, .resolveTopology] ∧
    ((plain.prepare (exportless false) (plainStart true)).run ()).1 =
      (.error .disordered, plainStart true) ∧
    ∃ m, ((plain.prepare (exportless false) .empty).run ()).1.1 = .ok m ∧
      (plainStart false).history = plain.stages ∧
      (stoppedRun m).phase = .over none ∧
      ((attend m (stoppedRun m)).run.run (plainStart false)).2.history =
        plain.stages ++ [.run, .exit] ∧
      (attend m (stoppedRun m)).run.run ((attend m (stoppedRun m)).run.run (plainStart false)).2 =
        (.error .disordered, ((attend m (stoppedRun m)).run.run (plainStart false)).2) := by
  obtain ⟨-, hrun, -, hagain⟩ := plain.stages_in_order
  refine ⟨rfl, (hagain _ (attended_plainStart true)).2.1 (by decide) Unit _ (), _, rfl, rfl, rfl,
    (hrun _ _ _ rfl).2, ?_⟩
  exact (hagain _ (.run _ _ (attended_plainStart false))).2.2 (by decide) _ _

end Sequencer

end ControllerManager.Startup
