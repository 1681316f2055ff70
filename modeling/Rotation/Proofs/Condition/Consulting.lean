import Rotation.Proofs.Condition.Grounding
import Rotation.Proofs.Condition.Nodes

/-!
# What is asked while a condition is evaluated

The providers of samples, metrics and baselines are asked one question after the
other, and each may fail.  To consult them is to evaluate a condition and to note
all questions with their answers; what comes out is the same.  A condition in
which the check finds no error, and no skill without an indicator, is unknown
only if a question has failed, and for the reason that the provider gave.
-/

namespace Rotation

/-- Where samples, metrics and baselines come from, if all of them are at hand. -/
structure Providers (m : Type → Type) where
  sample : Sampler m
  metric : String → Metric → m (Observed Nat)
  baseline : String → m (Observed Color)

/-- A question to a provider, with its answer. -/
inductive Query where
  | sample (spot : Spot) (found : Observed Color)
  | metric (skill : String) (metric : Metric) (found : Observed Nat)
  | baseline (point : String) (found : Observed Color)

/-- Why a question has failed, if it has. -/
def Query.failure? : Query → Option Unavailable
  | .sample _ (.error u) | .metric _ _ (.error u) | .baseline _ (.error u) => some u
  | .sample _ (.ok _) | .metric _ _ (.ok _) | .baseline _ (.ok _) => none

/-- A computation that notes the questions it asks. -/
abbrev Noting (m : Type → Type) := StateT (List Query) m

section

variable {m : Type → Type} [Monad m]

/-- Ask a question, and note it with its answer. -/
def noting {α : Type} (ask : m (Observed α)) (query : Observed α → Query) :
    Noting m (Observed α) := do
  let found ← ask
  modify fun asked => asked ++ [query found]
  return found

namespace Providers

/-- Providers whose metrics and baselines are look-ups. -/
def ofLookups (sample : Sampler m) (metric : String → Metric → Observed Nat)
    (baseline : String → Observed Color) : Providers m :=
  ⟨sample, fun skill kind => pure (metric skill kind), fun point => pure (baseline point)⟩

/-- Samples that are noted. -/
def sampler (p : Providers m) : Sampler (Noting m) :=
  fun spot => noting (p.sample spot) (.sample spot)

end Providers

namespace Condition

mutual

/-- Evaluate a condition and note the questions that are asked. -/
def consult (catalogue : Catalogue) (p : Providers m) : Condition → Noting m Evaluation
  | .const value => return .known value
  | .not child => do
    let inner ← consult catalogue p child
    return inner.not
  | .all children => consultGroup catalogue p false none children
  | .any children => consultGroup catalogue p true none children
  | .pointShows point tolerance => eval catalogue p.sampler .none (.pointShows point tolerance)
  | .skillShows skill tolerance => eval catalogue p.sampler .none (.skillShows skill tolerance)
  | .barChanged point tolerance =>
    match catalogue.point? point with
    | none => return .unknown "point_not_found"
    | some found => do
      let base ← noting (p.baseline point) (.baseline point)
      evalChanged p.sampler ⟨none, some fun _ => base⟩ point found.indicator tolerance
  | .metricAtLeast skill metric count => do
    let found ← noting (p.metric skill metric) (.metric skill metric)
    return evalMetric ⟨some fun _ _ => found, none⟩ skill metric count

/-- Evaluate a group and note the questions that are asked. -/
def consultGroup (catalogue : Catalogue) (p : Providers m) (dominant : Bool)
    (pending : Option String) : List Condition → Noting m Evaluation
  | [] =>
    match pending with
    | some reason => return .unknown reason
    | none => return .known (!dominant)
  | child :: rest => do
    match ← consult catalogue p child with
    | .known value =>
      if value = dominant then return .known dominant
      else consultGroup catalogue p dominant pending rest
    | .unknown reason =>
      consultGroup catalogue p dominant (pending.or (some reason)) rest

end

end Condition

/-! ## Notes change nothing -/

/-- Without its notes a computation is the other one. -/
def Erases {α : Type} (noted : Noting m α) (plain : m α) : Prop :=
  ∀ asked, Prod.fst <$> noted.run asked = plain

variable [LawfulMonad m]

theorem erases_pure {α : Type} (a : α) : Erases (pure a : Noting m α) (pure a) := by
  intro asked
  simp

theorem Erases.bind {α β : Type} {noted : Noting m α} {plain : m α} {f : α → Noting m β}
    {g : α → m β} (erases : Erases noted plain) (rest : ∀ a, Erases (f a) (g a)) :
    Erases (noted >>= f) (plain >>= g) := by
  intro asked
  rw [StateT.run_bind, map_bind, ← erases asked, bind_map_left]
  exact bind_congr fun r => rest r.1 r.2

theorem run_noting {α : Type} (ask : m (Observed α)) (query : Observed α → Query)
    (asked : List Query) :
    (noting ask query).run asked =
      ask >>= fun found => pure (found, asked ++ [query found]) := by
  simp [noting]

theorem erases_noting {α : Type} (ask : m (Observed α)) (query : Observed α → Query) :
    Erases (noting ask query) ask := by
  intro asked
  simp [run_noting]

/-- A question to a look-up changes nothing but the notes. -/
theorem erases_lookup {α β : Type} (found : Observed α) (query : Observed α → Query)
    {f : Observed α → Noting m β} {plain : m β} (rest : Erases (f found) plain) :
    Erases (noting (pure found) query >>= f) plain := by
  intro asked
  rw [StateT.run_bind, run_noting, pure_bind, pure_bind]
  exact rest _

/-- What holds of all results also holds if it says less. -/
theorem Postcondition.mono {α : Type} (post : Postcondition m) {P Q : α → Prop} {x : m α}
    (holds : post.Holds P x) (less : ∀ a, P a → Q a) : post.Holds Q x := by
  have passed_on : post.Holds Q (x >>= Pure.pure) :=
    post.bind holds fun a held => post.pure (less a held)
  rwa [bind_pure] at passed_on

/-- Each question is answered somehow. -/
structure Providers.Answers (p : Providers m) (post : Postcondition m) : Prop where
  sample : ∀ spot, post.Holds (fun _ => True) (p.sample spot)
  metric : ∀ skill kind, post.Holds (fun _ => True) (p.metric skill kind)
  baseline : ∀ point, post.Holds (fun _ => True) (p.baseline point)

namespace Condition

variable {catalogue : Catalogue}

section

variable {sample : Sampler m} {metric : String → Metric → Observed Nat}
  {baseline : String → Observed Color}

theorem erases_evalShows (indicator : Indicator) (tolerance : Option UInt8) :
    Erases (evalShows (Providers.ofLookups sample metric baseline).sampler indicator tolerance)
      (evalShows sample indicator tolerance) :=
  (erases_noting _ _).bind fun _ => erases_pure _

theorem erases_evalChanged {noted plain : Sources} {point : String}
    (same : noted.baselineAt point = plain.baselineAt point) (indicator : Indicator)
    (tolerance : Option UInt8) :
    Erases
      (evalChanged (Providers.ofLookups sample metric baseline).sampler noted point indicator
        tolerance)
      (evalChanged sample plain point indicator tolerance) := by
  rw [evalChanged_eq, evalChanged_eq, same]
  rcases plain.baselineAt point with _ | u | base
  · exact erases_pure _
  · exact erases_pure _
  · exact (erases_noting _ _).bind fun _ => erases_pure _

theorem erases_consultGroup (dominant : Bool) (pending : Option String) {children : List Condition}
    (children_erase : ∀ child ∈ children,
      Erases (child.consult catalogue (.ofLookups sample metric baseline))
        (child.eval catalogue sample ⟨some metric, some baseline⟩)) :
    Erases
      (consultGroup catalogue (.ofLookups sample metric baseline) dominant pending children)
      (evalGroup catalogue sample ⟨some metric, some baseline⟩ dominant pending children) := by
  induction children generalizing pending with
  | nil => cases pending <;> exact erases_pure _
  | cons child rest ih =>
      obtain ⟨child_erases, rest_erase⟩ := List.forall_mem_cons.mp children_erase
      rw [consultGroup, evalGroup]
      apply child_erases.bind
      intro found
      cases found with
      | known value =>
          dsimp only
          split
          · exact erases_pure _
          · exact ih pending rest_erase
      | unknown reason => exact ih _ rest_erase

/-- To consult look-ups is to evaluate. -/
theorem erases_consult (c : Condition) :
    Erases (c.consult catalogue (.ofLookups sample metric baseline))
      (c.eval catalogue sample ⟨some metric, some baseline⟩) := by
  induction c with
  | all children ih | any children ih =>
      rw [consult, eval]
      exact erases_consultGroup _ none ih
  | not child ih =>
      rw [consult, eval]
      exact ih.bind fun _ => erases_pure _
  | const value =>
      rw [consult, eval]
      exact erases_pure _
  | pointShows point tolerance =>
      rw [consult, eval, eval]
      cases catalogue.point? point with
      | none => exact erases_pure _
      | some found => exact erases_evalShows found.indicator tolerance
  | skillShows skill tolerance =>
      rw [consult, eval, eval]
      cases catalogue.skill? skill with
      | none => exact erases_pure _
      | some found =>
          dsimp only
          cases found.indicator with
          | none => exact erases_pure _
          | some indicator => exact erases_evalShows indicator tolerance
  | barChanged point tolerance =>
      rw [consult, eval]
      cases catalogue.point? point with
      | none => exact erases_pure _
      | some found =>
          dsimp only
          exact erases_lookup _ _ (erases_evalChanged rfl found.indicator tolerance)
  | metricAtLeast skill metric count =>
      rw [consult, eval]
      exact erases_lookup _ _ (erases_pure _)

end

/-! ## Failures are accounted for -/

/-- A reason is that of a question that has failed. -/
def Explains (asked : List Query) (reason : String) : Prop :=
  ∃ query ∈ asked, ∃ u, query.failure? = some u ∧ u.code = reason

theorem Explains.mono {asked after : List Query} {reason : String}
    (explains : Explains asked reason) (grows : asked ⊆ after) : Explains after reason := by
  obtain ⟨query, mem, failed⟩ := explains
  exact ⟨query, grows mem, failed⟩

/-- An evaluation has added to the notes, and they explain it if it is unknown. -/
structure Accounts (asked : List Query) (r : Evaluation × List Query) : Prop where
  grows : asked ⊆ r.2
  explains : r.1.OnlyFor (Explains r.2)

theorem Accounts.trans {asked after : List Query} {r : Evaluation × List Query}
    (accounts : Accounts after r) (grows : asked ⊆ after) : Accounts asked r :=
  ⟨List.Subset.trans grows accounts.grows, accounts.explains⟩

theorem accounts_known {asked after : List Query} (grows : asked ⊆ after) (value : Bool) :
    Accounts asked (.known value, after) :=
  ⟨grows, fun _ unknown => by contradiction⟩

/-- A question that is noted explains what comes of it. -/
theorem accounts_ofObserved {α : Type} (asked : List Query) (found : Observed α)
    {query : Observed α → Query} (fails : ∀ u, (query (.error u)).failure? = some u)
    (test : α → Bool) : Accounts asked (.ofObserved found test, asked ++ [query found]) where
  grows := List.subset_append_left _ _
  explains := by
    intro reason unknown
    cases found with
    | ok a => contradiction
    | error u =>
        cases unknown
        exact ⟨query (.error u), by simp, u, fails u, rfl⟩

variable {post : Postcondition m} {p : Providers m} {asked : List Query}

theorem holds_noting {α : Type} {ask : m (Observed α)} (answered : post.Holds (fun _ => True) ask)
    (query : Observed α → Query) :
    post.Holds (fun r => ∃ found, r = (found, asked ++ [query found]))
      ((noting ask query).run asked) := by
  rw [run_noting]
  exact post.bind answered fun found _ => post.pure ⟨found, rfl⟩

theorem accounts_evalShows (answers : p.Answers post) (indicator : Indicator)
    (tolerance : Option UInt8) :
    post.Holds (Accounts asked) ((evalShows p.sampler indicator tolerance).run asked) := by
  rw [evalShows, StateT.run_bind]
  apply post.bind (holds_noting (answers.sample _) _)
  rintro _ ⟨found, rfl⟩
  exact post.pure (accounts_ofObserved asked found (fun _ => rfl) _)

theorem accounts_evalChanged (answers : p.Answers post) {sources : Sources} {point : String}
    {answer : Observed Color} (answered : sources.baselineAt point = some answer)
    (failed : ∀ u, answer = .error u → Explains asked u.code) (indicator : Indicator)
    (tolerance : Option UInt8) :
    post.Holds (Accounts asked)
      ((evalChanged p.sampler sources point indicator tolerance).run asked) := by
  rw [evalChanged_eq, answered]
  rcases answer with u | base
  · refine post.pure ⟨List.Subset.refl _, ?_⟩
    rintro _ ⟨⟩
    exact failed u rfl
  · dsimp only
    rw [StateT.run_bind]
    apply post.bind (holds_noting (answers.sample _) _)
    rintro _ ⟨found, rfl⟩
    exact post.pure (accounts_ofObserved asked found (fun _ => rfl) _)

/-- A group passes on what its children account for. -/
theorem accounts_consultGroup (dominant : Bool) {pending : Option String}
    (pending_ok : ∀ reason, pending = some reason → Explains asked reason)
    {children : List Condition}
    (children_account : ∀ child ∈ children, ∀ asked,
      post.Holds (Accounts asked) ((child.consult catalogue p).run asked)) :
    post.Holds (Accounts asked)
      ((consultGroup catalogue p dominant pending children).run asked) := by
  induction children generalizing pending asked with
  | nil =>
      cases pending with
      | none => exact post.pure (accounts_known (List.Subset.refl _) _)
      | some reason =>
          refine post.pure ⟨List.Subset.refl _, ?_⟩
          rintro _ ⟨⟩
          exact pending_ok reason rfl
  | cons child rest ih =>
      obtain ⟨child_accounts, rest_account⟩ := List.forall_mem_cons.mp children_account
      rw [consultGroup, StateT.run_bind]
      apply post.bind (child_accounts asked)
      rintro ⟨found, after⟩ ⟨grows, explains⟩
      cases found with
      | known value =>
          dsimp only
          split
          · exact post.pure (accounts_known grows _)
          · have still_ok := fun reason held => (pending_ok reason held).mono grows
            exact post.mono (ih still_ok rest_account) fun _ accounts => accounts.trans grows
      | unknown reason =>
          refine post.mono (ih ?_ rest_account) fun _ accounts => accounts.trans grows
          intro first first_eq
          cases pending with
          | none => exact Option.some.inj first_eq ▸ explains reason rfl
          | some earlier => exact (pending_ok first first_eq).mono grows

/-- A name in an atom leads to what the atom is about. -/
def Resolves (catalogue : Catalogue) : Condition → Prop
  | .pointShows point _ | .barChanged point _ => (catalogue.point? point).isSome = true
  | .skillShows skill _ => ((catalogue.skill? skill).bind Skill.indicator).isSome = true
  | _ => True

theorem accounts_consult (answers : p.Answers post) {c : Condition}
    (resolve : ∀ atom ∈ c.atoms, atom.Resolves catalogue) (asked : List Query) :
    post.Holds (Accounts asked) ((c.consult catalogue p).run asked) := by
  induction c generalizing asked with
  | all children ih | any children ih =>
      rw [consult]
      refine accounts_consultGroup _ (fun _ none_eq => by contradiction) ?_
      intro child mem
      exact ih child mem fun atom atom_mem => resolve atom (mem_atomsOf mem atom_mem)
  | not child ih =>
      rw [consult, StateT.run_bind]
      apply post.bind (ih resolve asked)
      rintro ⟨found, after⟩ accounts
      exact post.pure ⟨accounts.grows, accounts.explains.not⟩
  | const value =>
      rw [consult]
      exact post.pure (accounts_known (List.Subset.refl _) value)
  | pointShows point tolerance =>
      obtain ⟨found, there⟩ := Option.isSome_iff_exists.mp (resolve _ (List.mem_singleton_self _))
      rw [consult, eval, there]
      exact accounts_evalShows answers found.indicator tolerance
  | skillShows skill tolerance =>
      obtain ⟨indicator, there⟩ :=
        Option.isSome_iff_exists.mp (resolve _ (List.mem_singleton_self _))
      obtain ⟨found, skill_there, shown⟩ := Option.bind_eq_some_iff.mp there
      rw [consult, eval, skill_there]
      dsimp only
      rw [shown]
      exact accounts_evalShows answers indicator tolerance
  | barChanged point tolerance =>
      obtain ⟨found, there⟩ := Option.isSome_iff_exists.mp (resolve _ (List.mem_singleton_self _))
      rw [consult, there]
      dsimp only
      rw [StateT.run_bind]
      apply post.bind (holds_noting (answers.baseline point) _)
      rintro _ ⟨base, rfl⟩
      apply post.mono (accounts_evalChanged answers rfl ?_ found.indicator tolerance)
      · exact fun _ accounts => accounts.trans (List.subset_append_left _ _)
      · rintro u rfl
        exact ⟨.baseline point (.error u), by simp, u, rfl, rfl⟩
  | metricAtLeast skill kind count =>
      rw [consult, StateT.run_bind]
      apply post.bind (holds_noting (answers.metric skill kind) _)
      rintro _ ⟨found, rfl⟩
      exact post.pure (accounts_ofObserved asked found (fun _ => rfl) _)

/-! ## What the check makes sure of -/

/-- In a condition without an error, in which no skill lacks an indicator, every
atom leads to what it is about. -/
theorem resolves_of_check {c : Condition} {path : String}
    (clean : (c.check catalogue path).hasErrors = false)
    (shown : (c.check catalogue path).withCode "expr.skill_pixel_missing" = []) :
    ∀ atom ∈ c.atoms, atom.Resolves catalogue := by
  intro atom mem
  have known := grounded_of_check clean atom mem
  obtain ⟨place, found_own⟩ := exists_ownFindings_subset_check mem catalogue path
  cases atom with
  | skillShows skill tolerance =>
      obtain ⟨found, there⟩ := Option.isSome_iff_exists.mp known
      have own_clean : (checkIndicator skill catalogue place).hasErrors = false :=
        List.any_eq_false.mpr fun d d_mem => List.any_eq_false.mp clean d (found_own d_mem)
      have own_shown :
          (checkIndicator skill catalogue place).withCode "expr.skill_pixel_missing" = [] :=
        List.filter_eq_nil_iff.mpr fun d d_mem =>
          List.filter_eq_nil_iff.mp shown d (found_own d_mem)
      rw [Resolves, there, Option.bind_some]
      rw [checkIndicator, there] at own_clean own_shown
      cases indicator_eq : found.indicator with
      | some indicator => rfl
      | none =>
          cases blank : Text.allBlank skill with
          | true => simp [blank, blankId] at own_clean
          | false =>
              simp [blank, indicator_eq, Diagnostics.warning, Diagnostics.withCode] at own_shown
  | pointShows | barChanged => exact known
  | all | any | not | const | metricAtLeast => exact trivial

end Condition

end

open Condition

/-- A condition in which the check finds no error, and no skill without an
indicator, is defined as far as the providers are.  Whatever they answer, it is
unknown only for the reason of a question that has been asked and has failed; it
has a value if all questions have been answered.  The questions are those of the
evaluation: to ask look-ups and to note what is asked is to evaluate. -/
theorem Condition.isDefined_of_check {c : Condition} {catalogue : Catalogue} {path : String}
    (clean : (c.check catalogue path).hasErrors = false)
    (shown : (c.check catalogue path).withCode "expr.skill_pixel_missing" = [])
    {m : Type → Type} [Monad m] [LawfulMonad m] :
    (∀ (post : Postcondition m) (p : Providers m), p.Answers post →
        post.Holds
          (fun r => (∀ reason, r.1 = .unknown reason → Explains r.2 reason) ∧
            ((∀ query ∈ r.2, query.failure? = none) → ∃ value, r.1 = .known value))
          ((c.consult catalogue p).run [])) ∧
      ∀ (sample : Sampler m) (metric : String → Metric → Observed Nat)
        (baseline : String → Observed Color),
        Prod.fst <$> (c.consult catalogue (.ofLookups sample metric baseline)).run [] =
          c.eval catalogue sample ⟨some metric, some baseline⟩ := by
  constructor
  · intro post p answers
    apply post.mono (accounts_consult answers (resolves_of_check clean shown) [])
    rintro ⟨found, asked⟩ ⟨_, explains⟩
    refine ⟨explains, ?_⟩
    intro answered
    cases found with
    | known value => exact ⟨value, rfl⟩
    | unknown reason =>
        obtain ⟨query, mem, u, failed, _⟩ := explains reason rfl
        rw [answered query mem] at failed
        contradiction
  · intro sample metric baseline
    exact erases_consult c []

/-- A lamp that cannot be seen leaves the question whether it shows, although the
spark has been counted. -/
theorem Condition.lampOrSpark_isDefined :
    let catalogue := lampCatalogue.addSkill (Skill.named "spark")
    let sample : Sampler Id := fun _ => pure (.error (.because "no_frame" ""))
    let r := Id.run ((lampOrSpark.consult catalogue
      (.ofLookups sample (fun _ _ => .ok 0) fun _ => .ok ⟨0, 0, 0⟩)).run [])
    (lampOrSpark.check catalogue "").hasErrors = false ∧
      (lampOrSpark.check catalogue "").withCode "expr.skill_pixel_missing" = [] ∧
      r.1 = .unknown "no_frame" ∧ Explains r.2 "no_frame" ∧
      Id.run (lampOrSpark.eval catalogue sample
        ⟨some fun _ _ => .ok 0, some fun _ => .ok ⟨0, 0, 0⟩⟩) = .unknown "no_frame" := by
  intro catalogue sample r
  have clean : (lampOrSpark.check catalogue "").hasErrors = false := by decide +kernel
  have shown : (lampOrSpark.check catalogue "").withCode "expr.skill_pixel_missing" = [] := by
    decide +kernel
  have unknown : r.1 = .unknown "no_frame" := by decide +kernel
  obtain ⟨noted, erased⟩ := isDefined_of_check (m := Id) clean shown
  have answers : (Providers.ofLookups sample (fun _ _ => .ok 0)
      fun _ => .ok ⟨0, 0, 0⟩).Answers Postcondition.value :=
    ⟨fun _ => trivial, fun _ _ => trivial, fun _ => trivial⟩
  refine ⟨clean, shown, unknown, (noted .value _ answers).1 _ unknown, ?_⟩
  rw [← erased]
  exact unknown

end Rotation
