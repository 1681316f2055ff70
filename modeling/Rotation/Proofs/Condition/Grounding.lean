import Rotation.Condition.Check
import Rotation.Proofs.Condition.Footprint

/-!
# Conditions whose names are in the catalogue

A condition is grounded in a catalogue that has all the points and skills that
it names.  The check of a condition lets no other pass.  A grounded condition may
still be unknown, because something cannot be seen or has not been recorded, but
never because a name stands for nothing.
-/

namespace Rotation

/-! ## Names that stand for nothing -/

/-- The reasons that blame a name: of a skill or a point that the catalogue does
not have, or of a key that is none. -/
def Dangling (reason : String) : Prop :=
  reason ∈ ["skill_not_found", "point_not_found", "key_unresolved"]

instance (reason : String) : Decidable (Dangling reason) :=
  inferInstanceAs (Decidable (_ ∈ _))

/-- An answer that may be missing, but not because of a name. -/
def Blameless {α : Type} (answer : Observed α) : Prop :=
  ∀ u, answer = .error u → ¬Dangling u.code

/-- Metrics and baselines that may be missing, but not because of a name. -/
structure Sources.BlamesNoName (s : Sources) : Prop where
  metric : ∀ skill metric answer, s.metricAt skill metric = some answer → Blameless answer
  baseline : ∀ point answer, s.baselineAt point = some answer → Blameless answer

/-- An evaluation that is known, or unknown for a reason that blames no name. -/
def Evaluation.BlamesNoName (e : Evaluation) : Prop :=
  e.OnlyFor fun reason => ¬Dangling reason

theorem Evaluation.blamesNoName_unknown {reason : String} (plain : ¬Dangling reason) :
    (Evaluation.unknown reason).BlamesNoName := by
  rintro _ ⟨⟩
  exact plain

theorem Evaluation.blamesNoName_ofObserved {α : Type} {answer : Observed α}
    (blameless : Blameless answer) (test : α → Bool) :
    (Evaluation.ofObserved answer test).BlamesNoName := by
  cases answer with
  | ok found =>
      intro reason unknown
      contradiction
  | error u => exact blamesNoName_unknown (blameless u rfl)

namespace Condition

/-! ## Grounded conditions -/

/-- The name in an atom is in the catalogue. -/
def NamesKnown (catalogue : Catalogue) : Condition → Prop
  | .pointShows point _ | .barChanged point _ => (catalogue.point? point).isSome = true
  | .skillShows skill _ | .metricAtLeast skill _ _ => (catalogue.skill? skill).isSome = true
  | _ => True

/-- All names in a condition are in the catalogue. -/
def Grounded (catalogue : Catalogue) (c : Condition) : Prop :=
  ∀ atom ∈ c.atoms, atom.NamesKnown catalogue

theorem grounded_const (catalogue : Catalogue) (value : Bool) :
    (const value).Grounded catalogue := by
  intro atom mem
  contradiction

theorem grounded_atom {catalogue : Catalogue} {atom : Condition} (is_atom : atom.isAtom = true)
    (known : atom.NamesKnown catalogue) : atom.Grounded catalogue := by
  intro other mem
  cases atom with
  | all | any | not | const => contradiction
  | pointShows | skillShows | barChanged | metricAtLeast =>
      rw [List.mem_singleton.mp mem]
      exact known

/-! ## What the check finds -/

theorem isSome_of_checkPoint {point path : String} {catalogue : Catalogue}
    (clean : (checkPoint point catalogue path).hasErrors = false) :
    (catalogue.point? point).isSome = true := by
  unfold checkPoint at clean
  split at clean
  · rename_i blank
    simp [blankId, blank] at clean
  · split at clean
    · simp at clean
    · rename_i found
      simpa [← Option.isSome_iff_ne_none] using found

theorem isSome_of_checkIndicator {skill path : String} {catalogue : Catalogue}
    (clean : (checkIndicator skill catalogue path).hasErrors = false) :
    (catalogue.skill? skill).isSome = true := by
  unfold checkIndicator at clean
  split at clean
  · rename_i blank
    simp [blankId, blank] at clean
  · cases found : catalogue.skill? skill with
    | none => simp [found, unknownSkill] at clean
    | some own => rfl

theorem isSome_of_checkMetric {skill path : String} {count : UInt32} {catalogue : Catalogue}
    (clean : (checkMetric skill count catalogue path).hasErrors = false) :
    (catalogue.skill? skill).isSome = true := by
  simp only [checkMetric, Diagnostics.hasErrors_append, Bool.or_eq_false_iff] at clean
  obtain ⟨skill_clean, _⟩ := clean
  split at skill_clean
  · rename_i blank
    simp [blankId, blank] at skill_clean
  · split at skill_clean
    · simp [unknownSkill] at skill_clean
    · rename_i found
      simpa [← Option.isSome_iff_ne_none] using found

/-- A list without errors has none in any of its conditions. -/
theorem checkList_clean {children : List Condition} {catalogue : Catalogue} {base : String} {i : Nat}
    (clean : (checkList children catalogue base i).hasErrors = false) {child : Condition}
    (mem : child ∈ children) : ∃ path, (child.check catalogue path).hasErrors = false := by
  induction children generalizing i with
  | nil => contradiction
  | cons first rest ih =>
      simp only [checkList, Diagnostics.hasErrors_append, Bool.or_eq_false_iff] at clean
      obtain ⟨first_clean, rest_clean⟩ := clean
      rcases List.mem_cons.mp mem with rfl | later
      · exact ⟨_, first_clean⟩
      · exact ih rest_clean later

/-- A condition in which the check finds no error is grounded. -/
theorem grounded_of_check {c : Condition} {catalogue : Catalogue} {path : String}
    (clean : (c.check catalogue path).hasErrors = false) : c.Grounded catalogue := by
  induction c generalizing path with
  | all children ih | any children ih =>
      simp only [check, Diagnostics.hasErrors_append, Bool.or_eq_false_iff] at clean
      intro atom mem
      rw [atoms, atomsOf_eq_flatMap] at mem
      obtain ⟨child, child_mem, atom_mem⟩ := List.mem_flatMap.mp mem
      obtain ⟨child_path, child_clean⟩ := checkList_clean clean.2 child_mem
      exact ih child child_mem child_clean atom atom_mem
  | not child ih =>
      rw [check] at clean
      exact ih clean
  | const value => exact grounded_const catalogue value
  | pointShows point tolerance | barChanged point tolerance =>
      rw [check] at clean
      exact grounded_atom rfl (isSome_of_checkPoint clean)
  | skillShows skill tolerance =>
      rw [check] at clean
      exact grounded_atom rfl (isSome_of_checkIndicator clean)
  | metricAtLeast skill metric count =>
      rw [check] at clean
      exact grounded_atom rfl (isSome_of_checkMetric clean)

/-! ## What an evaluation finds -/

section

variable {m : Type → Type} [Monad m] {catalogue : Catalogue} {sample : Sampler m}
  {sources : Sources}

theorem blamesNoName_evalMetric (blameless : sources.BlamesNoName) (skill : String)
    (metric : Metric) (count : UInt32) :
    (evalMetric sources skill metric count).BlamesNoName := by
  rw [evalMetric_eq]
  cases answer : sources.metricAt skill metric with
  | none => exact Evaluation.blamesNoName_unknown (by decide)
  | some found => exact Evaluation.blamesNoName_ofObserved (blameless.metric skill metric _ answer) _

theorem holds_evalShows_blamesNoName (post : Postcondition m) {indicator : Indicator}
    (sampled : post.Holds Blameless (sample indicator.spot)) (tolerance : Option UInt8) :
    post.Holds Evaluation.BlamesNoName (evalShows sample indicator tolerance) :=
  post.bind sampled fun _ blameless => post.pure (Evaluation.blamesNoName_ofObserved blameless _)

theorem holds_evalChanged_blamesNoName (post : Postcondition m) {indicator : Indicator}
    (sampled : post.Holds Blameless (sample indicator.spot)) (blameless : sources.BlamesNoName)
    (point : String) (tolerance : Option UInt8) :
    post.Holds Evaluation.BlamesNoName
      (evalChanged sample sources point indicator tolerance) := by
  rw [evalChanged_eq]
  rcases answer : sources.baselineAt point with _ | u | base
  · exact post.pure (Evaluation.blamesNoName_unknown (by decide))
  · exact post.pure (Evaluation.blamesNoName_unknown (blameless.baseline point _ answer u rfl))
  · exact post.bind sampled fun _ seen =>
      post.pure (Evaluation.blamesNoName_ofObserved seen _)

/-- An atom whose name is known blames no name. -/
theorem holds_eval_of_namesKnown (post : Postcondition m) {atom : Condition}
    (is_atom : atom.isAtom = true) (known : atom.NamesKnown catalogue)
    (sampled : ∀ spot, post.Holds Blameless (sample spot)) (blameless : sources.BlamesNoName) :
    post.Holds Evaluation.BlamesNoName (atom.eval catalogue sample sources) := by
  cases atom with
  | all | any | not | const => contradiction
  | pointShows point tolerance =>
      obtain ⟨found, there⟩ := Option.isSome_iff_exists.mp known
      rw [eval, there]
      exact holds_evalShows_blamesNoName post (sampled _) tolerance
  | skillShows skill tolerance =>
      obtain ⟨found, there⟩ := Option.isSome_iff_exists.mp known
      rw [eval, there]
      dsimp only
      cases shown : found.indicator with
      | none => exact post.pure (Evaluation.blamesNoName_unknown (by decide))
      | some indicator => exact holds_evalShows_blamesNoName post (sampled _) tolerance
  | barChanged point tolerance =>
      obtain ⟨found, there⟩ := Option.isSome_iff_exists.mp known
      rw [eval, there]
      exact holds_evalChanged_blamesNoName post (sampled _) blameless point tolerance
  | metricAtLeast skill metric count =>
      rw [eval]
      exact post.pure (blamesNoName_evalMetric blameless skill metric count)

/-- A grounded condition blames no name, as long as what it asks does not. -/
theorem Grounded.holds_eval (post : Postcondition m) {c : Condition}
    (grounded : c.Grounded catalogue) (sampled : ∀ spot, post.Holds Blameless (sample spot))
    (blameless : sources.BlamesNoName) :
    post.Holds Evaluation.BlamesNoName (c.eval catalogue sample sources) := by
  apply Condition.holds_eval
  intro atom mem
  exact holds_eval_of_namesKnown post (isAtom_of_mem_atoms mem) (grounded atom mem) sampled
    blameless

end

end Condition

end Rotation
