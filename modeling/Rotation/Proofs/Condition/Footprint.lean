import Rotation.Condition.Requirements
import Rotation.Proofs.Condition.Evaluation

/-!
# What a condition depends on

The requirements of a condition name all that its value depends on.  Every
sample that is taken while it is evaluated is of a required spot, and no change
elsewhere, of metrics that it sets no threshold on or of baselines that it does
not read makes a difference to its value or to the reason why it has none.
-/

namespace Rotation

open Rotation.Order

/-- A property that each step of a fold may bring about, and that no step takes
away, comes from the start or from one of the items. -/
theorem foldl_iff {σ α : Type} {f : σ → α → σ} {P : σ → Prop} {R : α → Prop}
    (step : ∀ s a, P (f s a) ↔ P s ∨ R a) (items : List α) (s : σ) :
    P (items.foldl f s) ↔ P s ∨ ∃ a ∈ items, R a := by
  induction items generalizing s with
  | nil => simp
  | cons a rest ih => simp [ih, step, or_assoc]

namespace Condition

/-! ## Atoms -/

theorem isAtom_of_mem_atoms {c atom : Condition} (mem : atom ∈ c.atoms) : atom.isAtom = true := by
  induction c with
  | all children ih | any children ih =>
      rw [atoms, atomsOf_eq_flatMap] at mem
      obtain ⟨child, child_mem, atom_mem⟩ := List.mem_flatMap.mp mem
      exact ih child child_mem atom_mem
  | not child ih => exact ih mem
  | const value => contradiction
  | pointShows | skillShows | barChanged | metricAtLeast =>
      rw [List.mem_singleton.mp mem]
      rfl

/-- The spot that an atom looks at, unless the catalogue has none for it. -/
def spot? (catalogue : Catalogue) : Condition → Option Spot
  | .pointShows point _ | .barChanged point _ =>
    (catalogue.point? point).map fun p => p.indicator.spot
  | .skillShows skill _ => ((catalogue.skill? skill).bind Skill.indicator).map Indicator.spot
  | _ => none

theorem mem_metricAtoms_iff {c : Condition} {skill : String} {metric : Metric} :
    (skill, metric) ∈ c.metricAtoms ↔ ∃ count, .metricAtLeast skill metric count ∈ c.atoms := by
  unfold metricAtoms
  rw [foldl_iff (P := fun seen => (skill, metric) ∈ seen)
    (R := fun atom => ∃ count, atom = .metricAtLeast skill metric count)]
  · grind
  · intro seen atom
    cases atom with
    | metricAtLeast other kind count =>
        dsimp only
        split <;> simp <;> grind
    | _ => simp

theorem mem_barPoints_iff {c : Condition} {point : String} :
    point ∈ c.barPoints ↔ ∃ tolerance, .barChanged point tolerance ∈ c.atoms := by
  unfold barPoints
  rw [foldl_iff (P := fun seen => point ∈ seen)
    (R := fun atom => ∃ tolerance, atom = .barChanged point tolerance)]
  · grind
  · intro seen atom
    cases atom with
    | barChanged other tolerance =>
        dsimp only
        split <;> simp <;> grind
    | _ => simp

end Condition

namespace Requirements

theorem mem_filterMap_insert {ids : IdSet} {id : String} {f : String → Option Spot} {spot : Spot} :
    spot ∈ (ids.insert id).filterMap f ↔ spot ∈ ids.filterMap f ∨ f id = some spot := by
  simp only [List.mem_filterMap, IdSet.mem_insert]
  grind

theorem mem_spots_addAtom_iff {r : Requirements} {catalogue : Catalogue} {atom : Condition}
    {spot : Spot} :
    spot ∈ (r.addAtom atom).spots catalogue ↔
      spot ∈ r.spots catalogue ∨ atom.spot? catalogue = some spot := by
  unfold spots
  rw [List.mem_append, List.mem_append]
  cases atom with
  | pointShows point _ | barChanged point _ =>
      rw [addAtom, addPoint, mem_filterMap_insert, or_right_comm]
      rfl
  | skillShows skill _ =>
      rw [addAtom, addIndicator, mem_filterMap_insert, or_assoc]
      rfl
  | _ => simp [addAtom, addMetric, Condition.spot?]

/-- The required spots are those that the atoms look at. -/
theorem mem_spots_ofCondition_iff {catalogue : Catalogue} {c : Condition} {spot : Spot} :
    spot ∈ (ofCondition c).spots catalogue ↔
      ∃ atom ∈ c.atoms, atom.spot? catalogue = some spot := by
  unfold ofCondition add
  rw [foldl_iff (P := fun r : Requirements => spot ∈ r.spots catalogue)
    (R := fun atom => atom.spot? catalogue = some spot) fun _ _ => mem_spots_addAtom_iff]
  simp [empty, spots]

end Requirements

namespace Condition

/-! ## Samples -/

/-- An atom samples its own spot at most. -/
theorem holds_eval_of_isAtom {m : Type → Type} [Monad m] (post : Postcondition m)
    {catalogue : Catalogue} {sample : Sampler m} {sources : Sources} {atom : Condition}
    (is_atom : atom.isAtom = true)
    (sampled : ∀ spot, atom.spot? catalogue = some spot →
      post.Holds (fun _ => True) (sample spot)) :
    post.Holds (Evaluation.OnlyFor fun _ => True) (atom.eval catalogue sample sources) := by
  have anything : ∀ e : Evaluation, e.OnlyFor fun _ => True := fun _ _ _ => trivial
  cases atom with
  | all | any | not | const => contradiction
  | pointShows point tolerance =>
      rw [eval]
      cases found : catalogue.point? point with
      | none => exact post.pure (anything _)
      | some p =>
          have looked := sampled p.indicator.spot (by simp [spot?, found])
          exact post.bind looked fun _ _ => post.pure (anything _)
  | skillShows skill tolerance =>
      rw [eval]
      cases found : catalogue.skill? skill with
      | none => exact post.pure (anything _)
      | some own =>
          dsimp only
          cases shown : own.indicator with
          | none => exact post.pure (anything _)
          | some indicator =>
              have looked := sampled indicator.spot (by simp [spot?, found, shown])
              exact post.bind looked fun _ _ => post.pure (anything _)
  | barChanged point tolerance =>
      rw [eval]
      cases found : catalogue.point? point with
      | none => exact post.pure (anything _)
      | some p =>
          have looked := sampled p.indicator.spot (by simp [spot?, found])
          exact holds_evalChanged post looked (fun _ _ => anything _) fun _ _ _ _ => anything _
  | metricAtLeast skill metric count =>
      rw [eval]
      exact post.pure (anything _)

/-- Samples whose spots are written down; an answer may depend on those that
have been taken before. -/
def recording (answer : List Spot → Spot → Observed Color) : Sampler (StateM (List Spot)) :=
  fun spot => do
    let past ← get
    set (past ++ [spot])
    return answer past spot

/-- The spots that are sampled while a condition is evaluated, one after the
other. -/
def samples (catalogue : Catalogue) (answer : List Spot → Spot → Observed Color)
    (sources : Sources) (c : Condition) : List Spot :=
  ((c.eval catalogue (recording answer) sources).run []).2

/-- Computations that sample nothing but certain spots. -/
def within (spots : List Spot) : Postcondition (StateM (List Spot)) where
  Holds P x := ∀ past, past ⊆ spots → P (x.run past).1 ∧ (x.run past).2 ⊆ spots
  pure holds _ inside := ⟨holds, inside⟩
  bind {_ _ _ _ x _} holds rest past inside :=
    rest (x.run past).1 (holds past inside).1 (x.run past).2 (holds past inside).2

theorem samples_subset (catalogue : Catalogue) (answer : List Spot → Spot → Observed Color)
    (sources : Sources) (c : Condition) :
    c.samples catalogue answer sources ⊆ (Requirements.ofCondition c).spots catalogue := by
  have atoms_hold : ∀ atom ∈ c.atoms,
      (within ((Requirements.ofCondition c).spots catalogue)).Holds
        (Evaluation.OnlyFor fun _ => True) (atom.eval catalogue (recording answer) sources) := by
    intro atom mem
    apply holds_eval_of_isAtom _ (isAtom_of_mem_atoms mem)
    intro spot looked past inside
    have required := Requirements.mem_spots_ofCondition_iff.mpr ⟨atom, mem, looked⟩
    exact ⟨trivial, List.append_subset.mpr ⟨inside, by simpa using required⟩⟩
  exact (holds_eval _ atoms_hold [] (List.nil_subset _)).2

/-! ## Answers -/

section

variable {m : Type → Type} [Monad m] {catalogue : Catalogue} {sample sample' : Sampler m}
  {sources sources' : Sources}

theorem eval_congr_of_isAtom {atom : Condition} (is_atom : atom.isAtom = true)
    (samples_eq : ∀ spot, atom.spot? catalogue = some spot → sample spot = sample' spot)
    (metrics_eq : ∀ skill metric count, atom = .metricAtLeast skill metric count →
      sources.metricAt skill metric = sources'.metricAt skill metric)
    (baselines_eq : ∀ point tolerance, atom = .barChanged point tolerance →
      sources.baselineAt point = sources'.baselineAt point) :
    atom.eval catalogue sample sources = atom.eval catalogue sample' sources' := by
  cases atom with
  | all | any | not | const => contradiction
  | pointShows point tolerance =>
      rw [eval, eval]
      cases found : catalogue.point? point with
      | none => rfl
      | some p =>
          dsimp only
          rw [evalShows, evalShows, samples_eq _ (by simp [spot?, found])]
  | skillShows skill tolerance =>
      rw [eval, eval]
      cases found : catalogue.skill? skill with
      | none => rfl
      | some own =>
          dsimp only
          cases shown : own.indicator with
          | none => rfl
          | some indicator =>
              dsimp only
              rw [evalShows, evalShows, samples_eq _ (by simp [spot?, found, shown])]
  | barChanged point tolerance =>
      rw [eval, eval]
      cases found : catalogue.point? point with
      | none => rfl
      | some p =>
          dsimp only
          rw [evalChanged_eq, evalChanged_eq, baselines_eq point tolerance rfl,
            samples_eq _ (by simp [spot?, found])]
  | metricAtLeast skill metric count =>
      rw [eval, eval, evalMetric_eq, evalMetric_eq, metrics_eq skill metric count rfl]

end

/-- The requirements of a condition are complete.  All samples that are taken
while it is evaluated are of required spots, whatever they answer; and samples
that agree there, with metrics that agree on its thresholds and baselines that
agree on its bars, give it the same value, or none for the same reason. -/
theorem eval_depends_on_requirements (catalogue : Catalogue) (c : Condition) :
    (∀ answer sources, ∀ spot ∈ c.samples catalogue answer sources,
        spot ∈ (Requirements.ofCondition c).spots catalogue) ∧
      ∀ {m : Type → Type} [Monad m] (sample sample' : Sampler m) (sources sources' : Sources),
        (∀ spot ∈ (Requirements.ofCondition c).spots catalogue, sample spot = sample' spot) →
        (∀ skill metric, (skill, metric) ∈ c.metricAtoms →
          sources.metricAt skill metric = sources'.metricAt skill metric) →
        (∀ point ∈ c.barPoints, sources.baselineAt point = sources'.baselineAt point) →
        c.eval catalogue sample sources = c.eval catalogue sample' sources' := by
  constructor
  · intro answer sources spot mem
    exact samples_subset catalogue answer sources c mem
  · intro m _ sample sample' sources sources' samples_eq metrics_eq baselines_eq
    apply eval_congr
    intro atom mem
    apply eval_congr_of_isAtom (isAtom_of_mem_atoms mem)
    · intro spot looked
      exact samples_eq spot (Requirements.mem_spots_ofCondition_iff.mpr ⟨atom, mem, looked⟩)
    · rintro skill metric count rfl
      exact metrics_eq skill metric (mem_metricAtoms_iff.mpr ⟨count, mem⟩)
    · rintro point tolerance rfl
      exact baselines_eq point (mem_barPoints_iff.mpr ⟨tolerance, mem⟩)

/-- What is seen away from the lamp, and what other skills have done, makes no
difference. -/
theorem lampOrSpark_ignores_the_rest :
    let lit : Sampler Id := fun _ => pure (.ok ⟨255, 255, 255⟩)
    let only_lamp : Sampler Id := fun spot =>
      pure (if spot = ⟨0, 3, 4, 1⟩ then .ok ⟨255, 255, 255⟩ else .ok ⟨0, 0, 0⟩)
    let idle : Sources := ⟨some fun _ _ => .ok 0, none⟩
    let others : Sources := ⟨some fun skill _ => .ok (if skill = "spark" then 0 else 5), none⟩
    lampOrSpark.eval lampCatalogue lit idle = lampOrSpark.eval lampCatalogue only_lamp others := by
  intro lit only_lamp idle others
  apply (eval_depends_on_requirements lampCatalogue lampOrSpark).2
  · intro spot mem
    have spots_eq :
        (Requirements.ofCondition lampOrSpark).spots lampCatalogue = [⟨0, 3, 4, 1⟩] := by decide
    rw [spots_eq, List.mem_singleton] at mem
    simp [lit, only_lamp, mem]
  · intro skill metric mem
    have atoms_eq : lampOrSpark.metricAtoms = [("spark", .success)] := by decide
    rw [atoms_eq, List.mem_singleton] at mem
    cases mem
    rfl
  · intro point mem
    rfl

end Condition

end Rotation
