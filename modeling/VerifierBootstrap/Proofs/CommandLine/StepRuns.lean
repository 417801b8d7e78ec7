import Mathlib.Logic.Function.Basic
import VerifierBootstrap.Proofs.CommandLine.StepEffects

/-!
Runs of the steps of the command, one after the other. A step is begun once all before it have
completed or are left out; what was started belongs to steps that were begun, and a run is a success
just in case every step that is not left out has completed.
-/

namespace VerifierBootstrap.CommandLine.BootstrapOrder

open VerifierBootstrap.Action

/-- Takes some steps one after the other; the first that fails is the last. -/
def runSteps (order : BootstrapOrder) (settings : BootstrapSettings) : List Step → Action Findings
  | [] => pure []
  | step :: rest => do
      let findings ← order.action settings step
      let more ← runSteps order settings rest
      return findings ++ more

/-- A step was completed by what was started for it, behind what was started for those before it. -/
def Completed (order : BootstrapOrder) (host : Host) (steps : List Step)
    (started : Step → List Event) (step : Step)
    : Prop :=
  step.Completes order.root host.launch
    (host.events ++ (steps.takeWhile (· ≠ step)).flatMap started) (started step)

/-- A step that is not left out was begun, since those before it have completed or are left out. -/
def Begun (order : BootstrapOrder) (host : Host) (steps : List Step) (started : Step → List Event)
    (step : Step)
    : Prop :=
  order.skips step = false
  ∧ ∀ earlier ∈ steps.takeWhile (· ≠ step),
      order.skips earlier = false → order.Completed host steps started earlier

/-- Some steps were taken on a host, and what was started is accounted for step by step. `origin` is
the host that the command was run on.
-/
structure Accounted (order : BootstrapOrder) (origin : Host) (steps : List Step) (host : Host)
    (started : Step → List Event) (success : Bool) (after : Host) : Prop where
  events : after.events = host.events ++ steps.flatMap started
  asks : ∀ step ∈ steps, ∀ event ∈ started step, order.Asks origin step event
  unbegun : ∀ step ∈ steps, ¬ order.Begun host steps started step → started step = []
  relays
    : ∀ place,
        (∀ step ∈ steps, order.Begun host steps started step → ¬ order.Touches origin step place)
        → host.Relays place after
  success_iff
    : success = true
      ↔ ∀ step ∈ steps, order.skips step = false → order.Completed host steps started step

variable {order : BootstrapOrder} {origin host middle after : Host} {step other : Step}
  {rest : List Step} {asked : List Event} {started : Step → List Event} {success : Bool}

-----------------------------------------------------------------------------------------
-- A step in front
-----------------------------------------------------------------------------------------

theorem completed_cons_self (order : BootstrapOrder) (host : Host) (rest : List Step)
    : order.Completed host (step :: rest) (Function.update started step asked) step
      ↔ step.Completes order.root host.launch host.events asked := by
  rw [Completed, List.takeWhile_cons_of_neg (by simp), Function.update_self, List.flatMap_nil,
    List.append_nil]

theorem begun_cons_self (order : BootstrapOrder) (host : Host) (rest : List Step)
    (started : Step → List Event)
    : order.Begun host (step :: rest) started step ↔ order.skips step = false := by
  rw [Begun, List.takeWhile_cons_of_neg (by simp)]
  exact and_iff_left fun _ => nofun

/-- What was started for the steps behind a step is not that of the step. -/
theorem flatMap_update {steps : List Step} (fresh : step ∉ steps)
    : steps.flatMap (Function.update started step asked) = steps.flatMap started :=
  List.flatMap_congr fun _ member => Function.update_of_ne (ne_of_mem_of_not_mem member fresh) _ _

/-- What holds of each step and what was started for it: that of the step in front is new, that of
the others is as it was.
-/
theorem forall_mem_update (holds : Step → List Event → Prop) (fresh : step ∉ rest)
    : (∀ other ∈ step :: rest, holds other (Function.update started step asked other))
      ↔ holds step asked ∧ ∀ other ∈ rest, holds other (started other) := by
  rw [List.forall_mem_cons, Function.update_self]
  refine and_congr_right fun _ => forall₂_congr fun other behind => ?_
  rw [Function.update_of_ne (ne_of_mem_of_not_mem behind fresh)]

theorem completed_cons (fresh : step ∉ rest) (member : other ∈ rest)
    (launch : middle.launch = host.launch) (events : middle.events = host.events ++ asked)
    : order.Completed host (step :: rest) (Function.update started step asked) other
      ↔ order.Completed middle rest started other := by
  have differ : other ≠ step := ne_of_mem_of_not_mem member fresh
  have front : step ∉ rest.takeWhile (· ≠ other) :=
    fun inside => fresh (List.takeWhile_subset _ inside)
  rw [Completed, Completed, List.takeWhile_cons_of_pos (by simpa using differ.symm),
    List.flatMap_cons, flatMap_update front, Function.update_self, Function.update_of_ne differ,
    launch, events, List.append_assoc]

theorem begun_cons (fresh : step ∉ rest) (member : other ∈ rest)
    (launch : middle.launch = host.launch) (events : middle.events = host.events ++ asked)
    : order.Begun host (step :: rest) (Function.update started step asked) other
      ↔ (order.skips step = false → step.Completes order.root host.launch host.events asked)
        ∧ order.Begun middle rest started other := by
  have differ : other ≠ step := ne_of_mem_of_not_mem member fresh
  rw [Begun, Begun, List.takeWhile_cons_of_pos (by simpa using differ.symm), List.forall_mem_cons,
    completed_cons_self, and_left_comm]
  refine and_congr_right fun _ => and_congr_right fun _ => ?_
  refine forall₂_congr fun earlier inside => imp_congr_right fun _ => ?_
  exact completed_cons fresh (List.takeWhile_subset _ inside) launch events

-----------------------------------------------------------------------------------------
-- Accounts
-----------------------------------------------------------------------------------------

theorem Accounted.none (order : BootstrapOrder) (origin host : Host)
    : Accounted order origin [] host (fun _ => []) true host where
  events := (List.append_nil _).symm
  asks := fun _ => nofun
  unbegun := fun _ => nofun
  relays := fun place _ => (Host.Kept.refl host).relays place
  success_iff := iff_of_true rfl fun _ => nofun

/-- Behind a step that fails nothing is begun. -/
theorem Accounted.stop (fresh : step ∉ rest)
    (stepped : Stepped order origin host step asked false after)
    : Accounted order origin (step :: rest) host (Function.update (fun _ => []) step asked) false
        after := by
  have ended : ¬ (order.skips step = false
      → step.Completes order.root host.launch host.events asked) :=
    mt stepped.success_iff.mpr nofun
  refine ⟨?_, ?_, ?_, ?_, iff_of_false nofun ?_⟩
  · rw [List.flatMap_cons, flatMap_update fresh, Function.update_self, stepped.events]
    simp
  · exact (forall_mem_update (fun other asked => ∀ event ∈ asked, order.Asks origin other event)
      fresh).mpr ⟨stepped.asks, fun _ _ => nofun⟩
  · refine (forall_mem_update (fun other asked => ¬ order.Begun host _ _ other → asked = [])
      fresh).mpr ⟨fun idle => stepped.idle ?_, fun _ _ _ => rfl⟩
    rwa [begun_cons_self, Bool.not_eq_false] at idle
  · intro place free
    refine stepped.relays place fun wanted => free step (.head _) ?_
    exact (begun_cons_self order host rest _).mpr wanted
  · intro completed
    exact ended fun wanted =>
      (completed_cons_self order host rest).mp (completed step (.head _) wanted)

/-- Behind a step that succeeds the others follow. -/
theorem Accounted.next (fresh : step ∉ rest)
    (stepped : Stepped order origin host step asked true middle)
    (accounted : Accounted order origin rest middle started success after)
    : Accounted order origin (step :: rest) host (Function.update started step asked) success
        after := by
  have passed := stepped.success_iff.mp rfl
  have launch := stepped.setup.launch
  have begun {other : Step} (behind : other ∈ rest)
      : order.Begun host (step :: rest) (Function.update started step asked) other
        ↔ order.Begun middle rest started other := by
    rw [begun_cons fresh behind launch stepped.events]
    exact and_iff_right passed
  refine ⟨?_, ?_, ?_, ?_, ?_⟩
  · rw [accounted.events, stepped.events, List.flatMap_cons, flatMap_update fresh,
      Function.update_self, List.append_assoc]
  · exact (forall_mem_update (fun other asked => ∀ event ∈ asked, order.Asks origin other event)
      fresh).mpr ⟨stepped.asks, accounted.asks⟩
  · refine (forall_mem_update (fun other asked => ¬ order.Begun host _ _ other → asked = [])
      fresh).mpr ⟨fun idle => stepped.idle ?_, fun other behind idle => ?_⟩
    · rwa [begun_cons_self, Bool.not_eq_false] at idle
    · exact accounted.unbegun other behind (mt (begun behind).mpr idle)
  · intro place free
    refine (stepped.relays place fun wanted => free step (.head _) ?_).trans
      (accounted.relays place fun other behind started =>
        free other (.tail _ behind) ((begun behind).mpr started))
    exact (begun_cons_self order host rest _).mpr wanted
  · rw [accounted.success_iff, List.forall_mem_cons, completed_cons_self]
    refine Iff.trans ?_ (and_iff_right passed).symm
    refine forall₂_congr fun other behind => imp_congr_right fun _ => ?_
    exact (completed_cons fresh behind launch stepped.events).symm

/-- Whatever comes of some steps, they can be accounted for. By induction on the steps: the host
that a step leaves is the one that the next is taken on.
-/
theorem exists_accounted (apart : order.WorksApart origin) {steps : List Step}
    (distinct : steps.Nodup) (setup : origin.SameSetup host)
    : let action := order.runSteps (order.settings origin.environment) steps
      ∃ started,
        Accounted order origin steps host started (perform action host).1.isOk
          (perform action host).2 := by
  intro action
  induction steps generalizing host with
  | nil => exact ⟨_, .none order origin host⟩
  | cons step rest ih =>
      obtain ⟨fresh, distinct⟩ := List.nodup_cons.mp distinct
      obtain ⟨asked, stepped⟩ := exists_stepped setup apart step
      cases taken : perform (order.action (order.settings origin.environment) step) host with
      | mk outcome middle =>
          rw [taken] at stepped
          cases outcome with
          | error failure =>
              have run : perform action host = (.error failure, middle) :=
                perform_bind_error taken _
              rw [run]
              exact ⟨_, .stop fresh stepped⟩
          | ok findings =>
              obtain ⟨started, accounted⟩ := ih distinct (setup.trans stepped.setup)
              have run
                  : perform action host
                    = perform (order.runSteps (order.settings origin.environment) rest
                        >>= fun more => pure (findings ++ more)) middle :=
                perform_bind_ok taken _
              rw [run, perform_bind_pure, isOk_map]
              exact ⟨_, .next fresh stepped accounted⟩

end VerifierBootstrap.CommandLine.BootstrapOrder
