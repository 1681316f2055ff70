import Rotation.Condition.Eval

/-!
# How conditions are evaluated

A condition is evaluated in some monad, in which samples are taken.  What all
results of its atoms have in common, whatever the monad does besides, carries
over to the condition: the connectives add no reasons of their own, and they
evaluate nothing but children.
-/

namespace Rotation

/-- A way to promise something of the results of computations.  It is a promise
of any result and is kept when computations follow one another. -/
structure Postcondition (m : Type → Type) [Monad m] where
  Holds : {α : Type} → (α → Prop) → m α → Prop
  pure : ∀ {α : Type} {P : α → Prop} {a : α}, P a → Holds P (Pure.pure a)
  bind : ∀ {α β : Type} {P : α → Prop} {Q : β → Prop} {x : m α} {f : α → m β},
    Holds P x → (∀ a, P a → Holds Q (f a)) → Holds Q (x >>= f)

/-- Pure computations have their value as result. -/
def Postcondition.value : Postcondition Id where
  Holds P x := P x.run
  pure holds := holds
  bind {_ _ _ _ x _} holds rest := rest x.run holds

namespace Sources

/-- The answer about a metric, if metrics are at hand. -/
def metricAt (s : Sources) (skill : String) (metric : Metric) : Option (Observed Nat) :=
  s.metric.map fun lookup => lookup skill metric

/-- The answer about a baseline, if baselines are at hand. -/
def baselineAt (s : Sources) (point : String) : Option (Observed Color) :=
  s.baseline.map fun lookup => lookup point

end Sources

/-- An evaluation that is unknown only for certain reasons. -/
def Evaluation.OnlyFor (reasons : String → Prop) (e : Evaluation) : Prop :=
  ∀ reason, e = .unknown reason → reasons reason

theorem Evaluation.OnlyFor.not {reasons : String → Prop} {e : Evaluation}
    (only : e.OnlyFor reasons) : e.not.OnlyFor reasons := by
  cases e with
  | known value =>
      intro reason unknown
      contradiction
  | unknown reason => exact only

namespace Condition

/-- Induction on conditions: a group has what its children have. -/
@[elab_as_elim, induction_eliminator]
theorem inductionOn {motive : Condition → Prop}
    (all : ∀ children, (∀ child ∈ children, motive child) → motive (.all children))
    (any : ∀ children, (∀ child ∈ children, motive child) → motive (.any children))
    (not : ∀ child, motive child → motive (.not child))
    (const : ∀ value, motive (.const value))
    (pointShows : ∀ point tolerance, motive (.pointShows point tolerance))
    (skillShows : ∀ skill tolerance, motive (.skillShows skill tolerance))
    (barChanged : ∀ point tolerance, motive (.barChanged point tolerance))
    (metricAtLeast : ∀ skill metric count, motive (.metricAtLeast skill metric count))
    (c : Condition) : motive c :=
  match c with
  | .all children => all children fun child _ =>
      inductionOn all any not const pointShows skillShows barChanged metricAtLeast child
  | .any children => any children fun child _ =>
      inductionOn all any not const pointShows skillShows barChanged metricAtLeast child
  | .not child => not child
      (inductionOn all any not const pointShows skillShows barChanged metricAtLeast child)
  | .const value => const value
  | .pointShows point tolerance => pointShows point tolerance
  | .skillShows skill tolerance => skillShows skill tolerance
  | .barChanged point tolerance => barChanged point tolerance
  | .metricAtLeast skill metric count => metricAtLeast skill metric count

theorem atomsOf_eq_flatMap (children : List Condition) :
    atomsOf children = children.flatMap atoms := by
  induction children with
  | nil => rfl
  | cons child rest ih => rw [atomsOf, ih, List.flatMap_cons]

theorem mem_atomsOf {children : List Condition} {child atom : Condition} (mem : child ∈ children)
    (atom_mem : atom ∈ child.atoms) : atom ∈ atomsOf children := by
  rw [atomsOf_eq_flatMap]
  exact List.mem_flatMap.mpr ⟨child, mem, atom_mem⟩

section

variable {m : Type → Type} [Monad m] {catalogue : Catalogue} {sample : Sampler m}
  {sources : Sources}

/-! ## The look-ups of atoms -/

theorem evalMetric_eq (skill : String) (metric : Metric) (count : UInt32) :
    evalMetric sources skill metric count =
      match sources.metricAt skill metric with
      | none => .unknown "metric_provider_missing"
      | some answer => .ofObserved answer fun n => count.toNat ≤ n := by
  unfold evalMetric Sources.metricAt
  cases sources.metric <;> rfl

theorem evalChanged_eq (point : String) (indicator : Indicator) (tolerance : Option UInt8) :
    evalChanged sample sources point indicator tolerance =
      match sources.baselineAt point with
      | none => pure (.unknown "baseline_provider_missing")
      | some (.error u) => pure (.unknown u.code)
      | some (.ok base) => do
        let found ← sample indicator.spot
        return .ofObserved found fun c => !c.within base (tolerance.getD indicator.tolerance) := by
  unfold evalChanged Sources.baselineAt
  cases sources.baseline with
  | none => rfl
  | some lookup => cases h : lookup point <;> simp [h]

/-- A change is found by a sample if there is a baseline, and is unknown
otherwise. -/
theorem holds_evalChanged (post : Postcondition m) {P : Evaluation → Prop}
    {Q : Observed Color → Prop} {point : String} {indicator : Indicator}
    {tolerance : Option UInt8} (sampled : post.Holds Q (sample indicator.spot))
    (missing : (∀ base, sources.baselineAt point ≠ some (.ok base)) →
      ∀ reason, P (.unknown reason))
    (changed : ∀ base found, sources.baselineAt point = some (.ok base) → Q found →
      P (.ofObserved found fun c => !c.within base (tolerance.getD indicator.tolerance))) :
    post.Holds P (evalChanged sample sources point indicator tolerance) := by
  rw [evalChanged_eq]
  rcases answer : sources.baselineAt point with _ | u | base
  · exact post.pure (missing (by simp [answer]) _)
  · exact post.pure (missing (by simp [answer]) _)
  · exact post.bind sampled fun found holds => post.pure (changed base found answer holds)

/-! ## From atoms to conditions -/

/-- A group is unknown only for the reasons of its children. -/
theorem holds_evalGroup (post : Postcondition m) {reasons : String → Prop} (dominant : Bool)
    {pending : Option String} {children : List Condition}
    (pending_ok : ∀ reason, pending = some reason → reasons reason)
    (children_hold : ∀ child ∈ children,
      post.Holds (Evaluation.OnlyFor reasons) (child.eval catalogue sample sources)) :
    post.Holds (Evaluation.OnlyFor reasons)
      (evalGroup catalogue sample sources dominant pending children) := by
  induction children generalizing pending with
  | nil =>
      cases pending with
      | none => exact post.pure fun _ unknown => by contradiction
      | some reason =>
          apply post.pure
          rintro _ ⟨⟩
          exact pending_ok reason rfl
  | cons child rest ih =>
      obtain ⟨child_holds, rest_hold⟩ := List.forall_mem_cons.mp children_hold
      rw [evalGroup]
      apply post.bind child_holds
      intro found only
      cases found with
      | known value =>
          dsimp only
          split
          · exact post.pure fun _ unknown => by contradiction
          · exact ih pending_ok rest_hold
      | unknown reason =>
          refine ih ?_ rest_hold
          intro first first_eq
          cases pending with
          | none => exact Option.some.inj first_eq ▸ only reason rfl
          | some earlier => exact pending_ok first first_eq

/-- A condition is unknown only for the reasons of its atoms. -/
theorem holds_eval (post : Postcondition m) {reasons : String → Prop} {c : Condition}
    (atoms_hold : ∀ atom ∈ c.atoms,
      post.Holds (Evaluation.OnlyFor reasons) (atom.eval catalogue sample sources)) :
    post.Holds (Evaluation.OnlyFor reasons) (c.eval catalogue sample sources) := by
  induction c with
  | all children ih | any children ih =>
      rw [eval]
      refine holds_evalGroup post _ (fun _ none_eq => by contradiction) ?_
      intro child mem
      exact ih child mem fun atom atom_mem => atoms_hold atom (mem_atomsOf mem atom_mem)
  | not child ih =>
      rw [eval]
      exact post.bind (ih atoms_hold) fun _ only => post.pure only.not
  | const value =>
      rw [eval]
      exact post.pure fun _ unknown => by contradiction
  | pointShows | skillShows | barChanged | metricAtLeast =>
      exact atoms_hold _ (List.mem_singleton_self _)

variable {sample' : Sampler m} {sources' : Sources}

/-- Children that evaluate in the same way make up groups that do. -/
theorem evalGroup_congr (dominant : Bool) (pending : Option String) {children : List Condition}
    (same : ∀ child ∈ children,
      child.eval catalogue sample sources = child.eval catalogue sample' sources') :
    evalGroup catalogue sample sources dominant pending children =
      evalGroup catalogue sample' sources' dominant pending children := by
  induction children generalizing pending with
  | nil => simp only [evalGroup]
  | cons child rest ih =>
      obtain ⟨child_same, rest_same⟩ := List.forall_mem_cons.mp same
      rw [evalGroup, evalGroup, child_same]
      congr 1
      funext found
      cases found with
      | known value =>
          dsimp only
          rw [ih pending rest_same]
      | unknown reason => exact ih _ rest_same

/-- Atoms that evaluate in the same way make up conditions that do. -/
theorem eval_congr {c : Condition}
    (same : ∀ atom ∈ c.atoms,
      atom.eval catalogue sample sources = atom.eval catalogue sample' sources') :
    c.eval catalogue sample sources = c.eval catalogue sample' sources' := by
  induction c with
  | all children ih | any children ih =>
      rw [eval, eval]
      apply evalGroup_congr
      intro child mem
      exact ih child mem fun atom atom_mem => same atom (mem_atomsOf mem atom_mem)
  | not child ih => rw [eval, eval, ih same]
  | const value => rw [eval, eval]
  | pointShows | skillShows | barChanged | metricAtLeast =>
      exact same _ (List.mem_singleton_self _)

end

/-! ## A lamp and a spark -/

/-- The lamp does not show white, or a spark has succeeded. -/
def lampOrSpark : Condition :=
  .any [.not (.pointShows "lamp" none), .metricAtLeast "spark" .success 1]

/-- A catalogue in which the lamp is. -/
def lampCatalogue : Catalogue :=
  Catalogue.empty.addPoint ⟨"lamp", ⟨0, 3, 4, 1⟩, ⟨255, 255, 255⟩, 0⟩

end Condition

end Rotation
