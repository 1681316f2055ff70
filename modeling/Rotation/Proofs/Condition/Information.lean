import Rotation.Proofs.Cast.Live
import Rotation.Proofs.Condition.Evaluation
import Rotation.Simulation.Run

/-!
# More information keeps what is known

An environment answers the questions of a condition.  One that answers more
questions, and the same way where both answer, leaves every known value of a
condition as it is: a sensor that is lost makes values unknown, it never turns
them around.  So what a simulation finds without a screen holds live.
-/

namespace Rotation

/-- What a condition is evaluated against when the screen stands still. -/
structure Environment where
  sample : Spot → Observed Color
  sources : Sources

/-- Samples taken in an environment. -/
def Environment.sampler (e : Environment) : Sampler Id :=
  fun spot => pure (e.sample spot)

/-- The value of a condition. -/
def Environment.eval (e : Environment) (catalogue : Catalogue) (c : Condition) : Evaluation :=
  Id.run (c.eval catalogue e.sampler e.sources)

/-- The environment that is left when nothing is seen of the screen. -/
def Environment.blind (sources : Sources) : Environment :=
  ⟨fun _ => .error (.because "sampler_offline" "no pixel source attached"), sources⟩

/-- A value that is observed here is observed there as well. -/
def Observed.Below {α : Type} (first second : Observed α) : Prop :=
  ∀ found, first = .ok found → second = .ok found

/-- Every question that the sources answer by a value has the same answer from
others. -/
structure Sources.Below (s s' : Sources) : Prop where
  metric : ∀ skill metric n, s.metricAt skill metric = some (.ok n) →
    s'.metricAt skill metric = some (.ok n)
  baseline : ∀ point color, s.baselineAt point = some (.ok color) →
    s'.baselineAt point = some (.ok color)

/-- Every question that an environment answers by a value has the same answer in
another. -/
structure Environment.Below (e e' : Environment) : Prop where
  sample : ∀ spot, (e.sample spot).Below (e'.sample spot)
  sources : e.sources.Below e'.sources

namespace Evaluation

/-- A value that is known here is known there as well. -/
def Below (first second : Evaluation) : Prop :=
  ∀ value, first = .known value → second = .known value

theorem below_unknown (reason : String) (e : Evaluation) : (unknown reason).Below e :=
  fun _ known => by contradiction

theorem below_rfl (e : Evaluation) : e.Below e :=
  fun _ known => known

theorem Below.not {first second : Evaluation} (below : first.Below second) :
    first.not.Below second.not := by
  cases first with
  | known value => exact below value rfl ▸ below_rfl _
  | unknown reason => exact below_unknown reason _

theorem below_ofObserved {α : Type} {first second : Observed α} (below : first.Below second)
    (test : α → Bool) : (ofObserved first test).Below (ofObserved second test) := by
  cases first with
  | ok found => exact below found rfl ▸ below_rfl _
  | error u => exact below_unknown u.code _

end Evaluation

namespace Condition

/-- Without a decision by the dominant value, a group with an unknown child has
no value. -/
theorem eq_of_evalGroup_pending {catalogue : Catalogue} {sample : Sampler Id} {sources : Sources}
    {dominant value : Bool} {reason : String} {children : List Condition}
    (known : Id.run (evalGroup catalogue sample sources dominant (some reason) children) =
      .known value) : value = dominant := by
  induction children with
  | nil => contradiction
  | cons child rest ih =>
      rw [evalGroup] at known
      cases found : Id.run (child.eval catalogue sample sources) with
      | known own =>
          simp only [Id.run_bind, found] at known
          split at known
          · cases known
            rfl
          · exact ih known
      | unknown own =>
          simp only [Id.run_bind, found] at known
          exact ih known

section

variable {m : Type → Type} [Monad m] {catalogue : Catalogue} {e : Environment}
  {sample : Sampler m} {sources : Sources}

theorem below_evalMetric (below : e.sources.Below sources) (skill : String) (metric : Metric)
    (count : UInt32) :
    (evalMetric e.sources skill metric count).Below (evalMetric sources skill metric count) := by
  rw [evalMetric_eq, evalMetric_eq]
  cases answer : e.sources.metricAt skill metric with
  | none => exact Evaluation.below_unknown _ _
  | some first =>
      cases first with
      | error u => exact Evaluation.below_unknown u.code _
      | ok n =>
          rw [below.metric skill metric n answer]
          exact Evaluation.below_rfl _

theorem holds_evalShows_below (post : Postcondition m)
    (samples : ∀ spot, post.Holds (Observed.Below (e.sample spot)) (sample spot))
    (indicator : Indicator) (tolerance : Option UInt8) :
    post.Holds
      (Evaluation.Below (Id.run (evalShows e.sampler indicator tolerance)))
      (evalShows sample indicator tolerance) :=
  post.bind (samples indicator.spot) fun _ below => post.pure (Evaluation.below_ofObserved below _)

theorem holds_evalChanged_below (post : Postcondition m)
    (samples : ∀ spot, post.Holds (Observed.Below (e.sample spot)) (sample spot))
    (below : e.sources.Below sources) (point : String) (indicator : Indicator)
    (tolerance : Option UInt8) :
    post.Holds
      (Evaluation.Below
        (Id.run (evalChanged e.sampler e.sources point indicator tolerance)))
      (evalChanged sample sources point indicator tolerance) := by
  have first :
      (∃ reason, Id.run (evalChanged e.sampler e.sources point indicator tolerance) =
        .unknown reason) ∨
      ∃ base, e.sources.baselineAt point = some (.ok base) ∧
        Id.run (evalChanged e.sampler e.sources point indicator tolerance) =
          .ofObserved (e.sample indicator.spot) fun c =>
            !c.within base (tolerance.getD indicator.tolerance) := by
    rw [evalChanged_eq]
    rcases e.sources.baselineAt point with _ | u | base
    · exact .inl ⟨_, rfl⟩
    · exact .inl ⟨_, rfl⟩
    · exact .inr ⟨base, rfl, rfl⟩
  rcases first with ⟨reason, first_eq⟩ | ⟨base, answer, first_eq⟩ <;> rw [first_eq]
  · exact holds_evalChanged post (samples indicator.spot)
      (fun _ _ => Evaluation.below_unknown reason _)
      (fun _ _ _ _ => Evaluation.below_unknown reason _)
  · have answered := below.baseline point base answer
    refine holds_evalChanged post (samples indicator.spot)
      (fun missing => absurd answered (missing base)) ?_
    intro other found answer' sampled
    rw [answered] at answer'
    cases answer'
    exact Evaluation.below_ofObserved sampled _

/-- The children of a group are taken one by one on both sides, though the
second side may stop at a child where the first goes on: then the first has met
an unknown child, and can only be decided in the same way. -/
theorem holds_evalGroup_below (post : Postcondition m) (dominant : Bool)
    {pending pending' : Option String} {children : List Condition}
    (pending_none : pending = none → pending' = none)
    (children_hold : ∀ child ∈ children,
      post.Holds (Evaluation.Below (e.eval catalogue child))
        (child.eval catalogue sample sources)) :
    post.Holds
      (Evaluation.Below
        (Id.run (evalGroup catalogue e.sampler e.sources dominant pending children)))
      (evalGroup catalogue sample sources dominant pending' children) := by
  induction children generalizing pending pending' with
  | nil =>
      cases pending with
      | none =>
          rw [pending_none rfl]
          exact post.pure (Evaluation.below_rfl _)
      | some reason => cases pending' <;> exact post.pure (Evaluation.below_unknown reason _)
  | cons child rest ih =>
      obtain ⟨child_holds, rest_hold⟩ := List.forall_mem_cons.mp children_hold
      rw [evalGroup, evalGroup, Id.run_bind]
      apply post.bind child_holds
      intro found below
      cases first : e.eval catalogue child with
      | known value =>
          rw [below value first, ← Environment.eval, first]
          dsimp only
          split
          · exact post.pure (Evaluation.below_rfl _)
          · exact ih pending_none rest_hold
      | unknown reason =>
          obtain ⟨earliest, pending_eq⟩ : ∃ earliest, pending.or (some reason) = some earliest := by
            cases pending <;> simp
          rw [← Environment.eval, first]
          dsimp only
          rw [pending_eq]
          cases found with
          | known value =>
              dsimp only
              split
              · apply post.pure
                intro own known
                rw [eq_of_evalGroup_pending known]
              · exact ih (fun none_eq => by contradiction) rest_hold
          | unknown later => exact ih (fun none_eq => by contradiction) rest_hold

theorem holds_eval_below (post : Postcondition m)
    (samples : ∀ spot, post.Holds (Observed.Below (e.sample spot)) (sample spot))
    (below : e.sources.Below sources) (c : Condition) :
    post.Holds (Evaluation.Below (e.eval catalogue c)) (c.eval catalogue sample sources) := by
  induction c with
  | all children ih | any children ih =>
      rw [Environment.eval, eval, eval]
      exact holds_evalGroup_below post _ id ih
  | not child ih =>
      rw [Environment.eval, eval, eval]
      exact post.bind ih fun _ below => post.pure below.not
  | const value =>
      rw [Environment.eval, eval, eval]
      exact post.pure (Evaluation.below_rfl _)
  | pointShows point tolerance =>
      rw [Environment.eval, eval, eval]
      cases catalogue.point? point with
      | none => exact post.pure (Evaluation.below_unknown _ _)
      | some found => exact holds_evalShows_below post samples found.indicator tolerance
  | skillShows skill tolerance =>
      rw [Environment.eval, eval, eval]
      cases catalogue.skill? skill with
      | none => exact post.pure (Evaluation.below_unknown _ _)
      | some found =>
          dsimp only
          cases found.indicator with
          | none => exact post.pure (Evaluation.below_unknown _ _)
          | some indicator => exact holds_evalShows_below post samples indicator tolerance
  | barChanged point tolerance =>
      rw [Environment.eval, eval, eval]
      cases catalogue.point? point with
      | none => exact post.pure (Evaluation.below_unknown _ _)
      | some found =>
          exact holds_evalChanged_below post samples below point found.indicator tolerance
  | metricAtLeast skill metric count =>
      rw [Environment.eval, eval, eval]
      exact post.pure (below_evalMetric below skill metric count)

end

end Condition

/-! ## Live evaluation -/

/-- A sample of the equipment may crash in this way. -/
def Rig.Breaks {σ : Type} (rig : Rig σ) (crash : Crash) : Prop :=
  ∃ spot now equipment, (rig.sample spot now equipment).1 = .error crash

theorem Live.holds_sample {σ : Type} (rig : Rig σ) {P : Observed Color → Prop}
    (any : ∀ found, P found) (spot : Spot) :
    (Live.upTo rig.Breaks).Holds P (Live.sample rig spot) := by
  intro s
  have run_eq := Live.run_sample rig spot s
  rcases result : rig.sample spot s.now s.equipment with ⟨crash | found, events, equipment⟩
  · rw [result] at run_eq
    exact .inr ⟨crash, by rw [run_eq], spot, s.now, s.equipment, by rw [result]⟩
  · rw [result] at run_eq
    exact .inl ⟨found, _, run_eq, any found⟩

/-- What is counted in a simulation is what is counted live, if the counts are
the same. -/
theorem Store.below_lookup {s s' : Store}
    (same : ∀ skill metric, s'.metric skill metric = s.metric skill metric)
    (baselines : Option (String → Observed Color)) :
    Sources.Below ⟨some s.lookup, none⟩ ⟨some s'.lookup, baselines⟩ where
  metric skill metric n answer := by
    rw [← answer]
    simp only [Sources.metricAt, Option.map_some, Store.lookup, same]
  baseline point color answer := by contradiction

/-- A condition that has a value in an environment has the same value in every
environment that answers more.  In particular a value that is found in a
simulation, without a screen, is found live, with any equipment and where as
much has been counted; unless a sample crashes. -/
theorem Condition.eval_keeps_known (catalogue : Catalogue) (c : Condition) :
    (∀ e e' : Environment, e.Below e' →
        ∀ value, e.eval catalogue c = .known value → e'.eval catalogue c = .known value) ∧
      ∀ {σ : Type} (rig : Rig σ) (simulated : Simulation.State) (session : Session σ),
        (∀ skill metric, session.store.metric skill metric =
          simulated.store.metric skill metric) →
        ∀ value, simulated.evaluate catalogue c = .known value →
          (∃ after, (Live.eval rig catalogue c).Ends session (.known value) after) ∨
            ∃ crash, ((Live.eval rig catalogue c).run.run session).1 = .error crash ∧
              rig.Breaks crash := by
  constructor
  · intro e e' below
    exact Condition.holds_eval_below .value below.sample below.sources c
  · intro σ rig simulated session same value known
    let simulation : Environment := .blind ⟨some simulated.store.lookup, none⟩
    have samples : ∀ spot, (Live.upTo rig.Breaks).Holds
        (Observed.Below (simulation.sample spot)) (Live.sample rig spot) :=
      fun spot => Live.holds_sample rig (fun _ _ seen => by contradiction) spot
    rcases Condition.holds_eval_below (Live.upTo rig.Breaks) samples
        (Store.below_lookup same _) c session
      with ⟨found, after, ends, below⟩ | ⟨crash, crashed, broken⟩
    · exact .inl ⟨after, below value known ▸ ends⟩
    · exact .inr ⟨crash, crashed, broken⟩

/-- The spark alone decides, and so it does when the lamp is seen. -/
theorem Condition.lampOrSpark_stays_true :
    let unseen := Environment.blind ⟨some fun _ _ => .ok 2, none⟩
    let seen : Environment := ⟨fun _ => .ok ⟨255, 255, 255⟩, some fun _ _ => .ok 2, none⟩
    unseen.eval lampCatalogue lampOrSpark = .known true ∧
      seen.eval lampCatalogue lampOrSpark = .known true := by
  intro unseen seen
  have below : unseen.Below seen :=
    { sample := fun _ _ found => by contradiction
      sources := ⟨fun _ _ _ answer => answer, fun _ _ answer => by contradiction⟩ }
  have unseen_true : unseen.eval lampCatalogue lampOrSpark = .known true := by decide
  exact ⟨unseen_true,
    (eval_keeps_known lampCatalogue lampOrSpark).1 unseen seen below true unseen_true⟩

end Rotation
