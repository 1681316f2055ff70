import Rotation.Proofs.Condition.Information

/-!
# What conditions mean

A condition means what Kleene's strong logic says: an atom has the value that is
read for it, or none; a group folds the values of all its children.  An evaluation
looks at no more children than it needs and keeps one reason.  Yet it finds the
value that the condition means, and blames the first atom that is in the way: that
of the first unknown child of a group, and there the same again.
-/

namespace Rotation

/-! ## Folds of truth values -/

namespace Tri

/-- The connective of a group that a child of the value `dominant` decides. -/
def connective (dominant : Bool) : Tri → Tri → Tri :=
  if dominant then or else and

variable (dominant : Bool) (values : List Tri)

/-- What the dominant value has decided stays decided. -/
theorem foldl_connective_dominant :
    values.foldl (connective dominant) (ofBool dominant) = ofBool dominant := by
  induction values with
  | nil => rfl
  | cons value rest ih =>
      have absorbed : connective dominant (ofBool dominant) value = ofBool dominant := by
        cases dominant <;> cases value <;> rfl
      rw [List.foldl_cons, absorbed, ih]

/-- What is unknown can only be decided by the dominant value. -/
theorem foldl_connective_unknown :
    values.foldl (connective dominant) unknown =
      if ofBool dominant ∈ values then ofBool dominant else unknown := by
  induction values with
  | nil => rfl
  | cons value rest ih =>
      by_cases decides : value = ofBool dominant
      · have decided : connective dominant unknown (ofBool dominant) = ofBool dominant := by
          cases dominant <;> rfl
        rw [List.foldl_cons, decides, decided, foldl_connective_dominant]
        simp
      · have spread : connective dominant unknown value = unknown := by
          cases dominant <;> cases value <;> first | rfl | exact absurd rfl decides
        rw [List.foldl_cons, spread, ih]
        simp [Ne.symm decides]

/-- A fold yields the dominant value if it is there, and else the unknown if that
is there. -/
theorem foldl_connective :
    values.foldl (connective dominant) (ofBool !dominant) =
      if ofBool dominant ∈ values then ofBool dominant
      else if unknown ∈ values then unknown
      else ofBool !dominant := by
  induction values with
  | nil => rfl
  | cons value rest ih =>
      have neutral : connective dominant (ofBool !dominant) value = value := by
        cases dominant <;> cases value <;> rfl
      rw [List.foldl_cons, neutral]
      by_cases decides : value = ofBool dominant
      · rw [decides, foldl_connective_dominant]
        simp
      · by_cases spreads : value = unknown
        · rw [spreads, foldl_connective_unknown]
          cases dominant <;> simp [ofBool]
        · have same : value = ofBool !dominant := by
            cases dominant <;> cases value <;> simp_all [ofBool]
          rw [same, ih]
          cases dominant <;> simp [ofBool]

end Tri

/-! ## Meaning and blame -/

/-- What is read for an atom: a value, or the reason why there is none. -/
abbrev Answer := Except String Bool

/-- The truth of what is read. -/
def Answer.truth : Answer → Tri
  | .ok value => .ofBool value
  | .error _ => .unknown

namespace Environment

variable (e : Environment) (catalogue : Catalogue)

/-- What is read for an atom.  Each question on the way to it may fail; a
connective asks none. -/
def read : Condition → Answer
  | .const value => .ok value
  | .pointShows point tolerance => do
    let found ← (catalogue.point? point).elim (.error "point_not_found") .ok
    let color ← (e.sample found.indicator.spot).mapError Unavailable.code
    return color.within found.indicator.color (tolerance.getD found.indicator.tolerance)
  | .skillShows skill tolerance => do
    let found ← (catalogue.skill? skill).elim (.error "skill_not_found") .ok
    let indicator ← found.indicator.elim (.error "skill_pixel_missing") .ok
    let color ← (e.sample indicator.spot).mapError Unavailable.code
    return color.within indicator.color (tolerance.getD indicator.tolerance)
  | .barChanged point tolerance => do
    let found ← (catalogue.point? point).elim (.error "point_not_found") .ok
    let reply ← (e.sources.baselineAt point).elim (.error "baseline_provider_missing") .ok
    let base ← reply.mapError Unavailable.code
    let color ← (e.sample found.indicator.spot).mapError Unavailable.code
    return !color.within base (tolerance.getD found.indicator.tolerance)
  | .metricAtLeast skill metric count => do
    let reply ← (e.sources.metricAt skill metric).elim (.error "metric_provider_missing") .ok
    let n ← reply.mapError Unavailable.code
    return decide (count.toNat ≤ n)
  | .all _ | .any _ | .not _ => .error ""

mutual

/-- What a condition means. -/
def truth : Condition → Tri
  | .all children => (truths children).foldl Tri.and .true
  | .any children => (truths children).foldl Tri.or .false
  | .not child => (truth child).not
  | .const value => .ofBool value
  | .pointShows point tolerance => (e.read catalogue (.pointShows point tolerance)).truth
  | .skillShows skill tolerance => (e.read catalogue (.skillShows skill tolerance)).truth
  | .barChanged point tolerance => (e.read catalogue (.barChanged point tolerance)).truth
  | .metricAtLeast skill metric count =>
    (e.read catalogue (.metricAtLeast skill metric count)).truth

/-- What each of the children of a group means. -/
def truths : List Condition → List Tri
  | [] => []
  | child :: rest => truth child :: truths rest

end

/-- A condition is unknown for a reason: that of its atom, or of the first unknown
child of a group that no other child decides. -/
inductive Blames : Condition → String → Prop
  | atom {c : Condition} {reason : String} (atom : c.isAtom = true)
      (silent : e.read catalogue c = .error reason) : Blames c reason
  | not {child : Condition} {reason : String} (blames : Blames child reason) :
      Blames (.not child) reason
  | all {before after : List Condition} {child : Condition} {reason : String}
      (undecided : e.truth catalogue (.all (before ++ child :: after)) = .unknown)
      (earlier : ∀ c ∈ before, e.truth catalogue c ≠ .unknown) (blames : Blames child reason) :
      Blames (.all (before ++ child :: after)) reason
  | any {before after : List Condition} {child : Condition} {reason : String}
      (undecided : e.truth catalogue (.any (before ++ child :: after)) = .unknown)
      (earlier : ∀ c ∈ before, e.truth catalogue c ≠ .unknown) (blames : Blames child reason) :
      Blames (.any (before ++ child :: after)) reason

variable {e catalogue}

theorem truths_eq_map (children : List Condition) :
    e.truths catalogue children = children.map (e.truth catalogue) := by
  induction children with
  | nil => rfl
  | cons child rest ih => rw [truths, ih, List.map_cons]

end Environment

/-! ## The value of a group -/

namespace Evaluation

/-- The evaluation that says what is read. -/
def ofAnswer : Answer → Evaluation
  | .ok value => .known value
  | .error reason => .unknown reason

/-- A group whose children are evaluated one after the other comes to the value
that decides it, or to the first reason. -/
def group (dominant : Bool) (found : List Evaluation) : Evaluation :=
  if .known dominant ∈ found then .known dominant
  else (found.findSome? reason).elim (.known !dominant) .unknown

theorem truth_eq_ofBool_iff {e : Evaluation} {value : Bool} :
    e.truth = .ofBool value ↔ e = .known value := by
  cases e with
  | known own => cases own <;> cases value <;> simp [truth, Tri.ofBool]
  | unknown reason => cases value <;> simp [truth, Tri.ofBool]

theorem truth_not (e : Evaluation) : e.not.truth = e.truth.not := by
  cases e with
  | known value => cases value <;> rfl
  | unknown reason => rfl

theorem reason_eq_some_iff {e : Evaluation} {reason : String} :
    e.reason = some reason ↔ e = .unknown reason := by
  cases e <;> simp [Evaluation.reason]

theorem reason_eq_none_iff {e : Evaluation} : e.reason = none ↔ e.truth ≠ .unknown := by
  cases e with
  | known value => cases value <;> simp [Evaluation.reason, truth, Tri.ofBool]
  | unknown reason => simp [Evaluation.reason, truth]

/-- A group means the fold of what its children mean. -/
theorem truth_group (dominant : Bool) (found : List Evaluation) :
    (group dominant found).truth =
      (found.map truth).foldl (Tri.connective dominant) (.ofBool !dominant) := by
  have decides_iff : Tri.ofBool dominant ∈ found.map truth ↔ .known dominant ∈ found := by
    simp [List.mem_map, truth_eq_ofBool_iff]
  rw [Tri.foldl_connective, group]
  simp only [decides_iff]
  split
  · rfl
  · cases first : found.findSome? reason with
    | none =>
        rw [List.findSome?_eq_none_iff] at first
        have known : Tri.unknown ∉ found.map truth := by
          rw [List.mem_map]
          rintro ⟨own, mem, unknown⟩
          exact reason_eq_none_iff.mp (first own mem) unknown
        rw [if_neg known]
        rfl
    | some reason =>
        obtain ⟨own, mem, own_reason⟩ := List.exists_of_findSome?_eq_some first
        have unknown : Tri.unknown ∈ found.map truth := by
          rw [reason_eq_some_iff] at own_reason
          exact List.mem_map.mpr ⟨own, mem, by rw [own_reason]; rfl⟩
        rw [if_pos unknown]
        rfl

/-- A group is unknown for the reason of its first unknown child, if no child
decides it. -/
theorem group_eq_unknown_iff {dominant : Bool} {found : List Evaluation} {reason : String} :
    group dominant found = .unknown reason ↔
      (group dominant found).truth = .unknown ∧
        found.findSome? Evaluation.reason = some reason := by
  unfold group
  split
  · cases dominant <;> simp [truth, Tri.ofBool]
  · cases found.findSome? Evaluation.reason with
    | none => cases dominant <;> simp [truth, Tri.ofBool]
    | some first => simp [truth]

end Evaluation

namespace Condition

section

variable {m : Type → Type} [Monad m] {catalogue : Catalogue} {e : Environment}
  {sample : Sampler m}

/-- The evaluation of a group stops early, and comes to what its children would. -/
theorem run_evalGroup (dominant : Bool) (pending : Option String) (children : List Condition) :
    Id.run (evalGroup catalogue e.sampler e.sources dominant pending children) =
      if .known dominant ∈ children.map (e.eval catalogue) then .known dominant
      else (pending.or ((children.map (e.eval catalogue)).findSome? Evaluation.reason)).elim
        (.known !dominant) .unknown := by
  induction children generalizing pending with
  | nil => cases pending <;> rfl
  | cons child rest ih =>
      rw [evalGroup, Id.run_bind, ← Environment.eval, List.map_cons]
      cases found : e.eval catalogue child with
      | known value =>
          by_cases decides : value = dominant
          · simp [decides]
          · simp only [decides, if_false, ih]
            simp [List.findSome?_cons, Evaluation.reason, Ne.symm decides]
      | unknown reason =>
          simp only [ih]
          cases pending <;> simp [List.findSome?_cons, Evaluation.reason]

theorem eval_all (children : List Condition) :
    e.eval catalogue (.all children) = .group false (children.map (e.eval catalogue)) := by
  rw [Environment.eval, eval, run_evalGroup, Option.none_or]
  rfl

theorem eval_any (children : List Condition) :
    e.eval catalogue (.any children) = .group true (children.map (e.eval catalogue)) := by
  rw [Environment.eval, eval, run_evalGroup, Option.none_or]
  rfl

theorem eval_not (child : Condition) :
    e.eval catalogue (.not child) = (e.eval catalogue child).not := by
  rw [Environment.eval, eval, Id.run_bind]
  rfl

/-! ## The value of an atom -/

theorem run_evalShows (indicator : Indicator) (tolerance : Option UInt8) :
    Id.run (evalShows e.sampler indicator tolerance) = .ofAnswer (do
      let color ← (e.sample indicator.spot).mapError Unavailable.code
      return color.within indicator.color (tolerance.getD indicator.tolerance)) := by
  rw [evalShows, Id.run_bind, Environment.sampler]
  rcases e.sample indicator.spot with u | color <;> rfl

theorem run_evalChanged (point : String) (indicator : Indicator) (tolerance : Option UInt8) :
    Id.run (evalChanged e.sampler e.sources point indicator tolerance) = .ofAnswer (do
      let reply ← (e.sources.baselineAt point).elim (.error "baseline_provider_missing") .ok
      let base ← reply.mapError Unavailable.code
      let color ← (e.sample indicator.spot).mapError Unavailable.code
      return !color.within base (tolerance.getD indicator.tolerance)) := by
  rw [evalChanged_eq]
  rcases e.sources.baselineAt point with _ | u | base
  · rfl
  · rfl
  · dsimp only [Environment.sampler]
    rcases e.sample indicator.spot with u | color <;> rfl

theorem eval_of_isAtom {c : Condition} (atom : c.isAtom = true) :
    e.eval catalogue c = .ofAnswer (e.read catalogue c) := by
  cases c with
  | all | any | not | const => contradiction
  | pointShows point tolerance =>
      rw [Environment.eval, eval, Environment.read]
      rcases catalogue.point? point with _ | found
      · rfl
      · exact run_evalShows found.indicator tolerance
  | skillShows skill tolerance =>
      rw [Environment.eval, eval, Environment.read]
      rcases catalogue.skill? skill with _ | found
      · rfl
      · dsimp only [Option.elim_some, bind, Except.bind]
        rcases found.indicator with _ | indicator
        · rfl
        · exact run_evalShows indicator tolerance
  | barChanged point tolerance =>
      rw [Environment.eval, eval, Environment.read]
      rcases catalogue.point? point with _ | found
      · rfl
      · exact run_evalChanged point found.indicator tolerance
  | metricAtLeast skill metric count =>
      rw [Environment.eval, eval, Environment.read, evalMetric_eq]
      rcases e.sources.metricAt skill metric with _ | u | n <;> rfl

/-! ## Meaning -/

theorem truth_ofAnswer (answer : Answer) :
    (Evaluation.ofAnswer answer).truth = answer.truth := by
  cases answer <;> rfl

/-- The value that is found is the one that is meant. -/
theorem truth_eval (e : Environment) (catalogue : Catalogue) (c : Condition) :
    (e.eval catalogue c).truth = e.truth catalogue c := by
  induction c with
  | all children ih =>
      rw [eval_all, Evaluation.truth_group, List.map_map, Environment.truth,
        Environment.truths_eq_map, ← List.map_congr_left ih]
      rfl
  | any children ih =>
      rw [eval_any, Evaluation.truth_group, List.map_map, Environment.truth,
        Environment.truths_eq_map, ← List.map_congr_left ih]
      rfl
  | not child ih => rw [eval_not, Evaluation.truth_not, ih, Environment.truth]
  | const value => rfl
  | pointShows | skillShows | barChanged | metricAtLeast =>
      rw [eval_of_isAtom rfl, truth_ofAnswer, Environment.truth]

/-! ## Blame -/

/-- The first reason among children is that of the first unknown one. -/
theorem findSome?_reason_eq_some_iff {children : List Condition} {reason : String} :
    (children.map (e.eval catalogue)).findSome? Evaluation.reason = some reason ↔
      ∃ before child after, children = before ++ child :: after ∧
        e.eval catalogue child = .unknown reason ∧
        ∀ c ∈ before, e.truth catalogue c ≠ .unknown := by
  simp only [List.findSome?_map, List.findSome?_eq_some_iff, Function.comp_apply,
    Evaluation.reason_eq_some_iff, Evaluation.reason_eq_none_iff, truth_eval]

/-- What an evaluation gives as its reason is what is to blame. -/
theorem eval_eq_unknown_iff (e : Environment) (catalogue : Catalogue) (c : Condition)
    {reason : String} : e.eval catalogue c = .unknown reason ↔ e.Blames catalogue c reason := by
  induction c with
  | all children ih =>
      rw [eval_all, Evaluation.group_eq_unknown_iff, findSome?_reason_eq_some_iff, ← eval_all,
        truth_eval]
      constructor
      · rintro ⟨undecided, before, child, after, rfl, unknown, earlier⟩
        exact .all undecided earlier ((ih child (by simp)).mp unknown)
      · intro blames
        cases blames with
        | atom atom => contradiction
        | all undecided earlier blames =>
            exact ⟨undecided, _, _, _, rfl, (ih _ (by simp)).mpr blames, earlier⟩
  | any children ih =>
      rw [eval_any, Evaluation.group_eq_unknown_iff, findSome?_reason_eq_some_iff, ← eval_any,
        truth_eval]
      constructor
      · rintro ⟨undecided, before, child, after, rfl, unknown, earlier⟩
        exact .any undecided earlier ((ih child (by simp)).mp unknown)
      · intro blames
        cases blames with
        | atom atom => contradiction
        | any undecided earlier blames =>
            exact ⟨undecided, _, _, _, rfl, (ih _ (by simp)).mpr blames, earlier⟩
  | not child ih =>
      have kept : (e.eval catalogue child).not = .unknown reason ↔
          e.eval catalogue child = .unknown reason := by
        cases e.eval catalogue child <;> simp [Evaluation.not]
      rw [eval_not, kept, ih]
      constructor
      · exact .not
      · intro blames
        cases blames with
        | atom atom => contradiction
        | not blames => exact blames
  | const value =>
      constructor
      · intro unknown
        contradiction
      · intro blames
        cases blames
        contradiction
  | pointShows | skillShows | barChanged | metricAtLeast =>
      have silent_iff : ∀ answer : Answer,
          Evaluation.ofAnswer answer = .unknown reason ↔ answer = .error reason := by
        intro answer
        cases answer <;> simp [Evaluation.ofAnswer]
      rw [eval_of_isAtom rfl, silent_iff]
      constructor
      · exact .atom rfl
      · intro blames
        cases blames with
        | atom _ silent => exact silent

/-! ## Samples that are effects -/

theorem holds_evalGroup_eq (post : Postcondition m) (dominant : Bool) (pending : Option String)
    {children : List Condition}
    (children_hold : ∀ child ∈ children,
      post.Holds (· = e.eval catalogue child) (child.eval catalogue sample e.sources)) :
    post.Holds (· = Id.run (evalGroup catalogue e.sampler e.sources dominant pending children))
      (evalGroup catalogue sample e.sources dominant pending children) := by
  induction children generalizing pending with
  | nil => cases pending <;> exact post.pure rfl
  | cons child rest ih =>
      obtain ⟨child_holds, rest_hold⟩ := List.forall_mem_cons.mp children_hold
      rw [evalGroup, evalGroup, Id.run_bind]
      apply post.bind child_holds
      rintro _ rfl
      rw [← Environment.eval]
      cases e.eval catalogue child with
      | known value =>
          dsimp only
          split
          · exact post.pure rfl
          · exact ih pending rest_hold
      | unknown reason => exact ih _ rest_hold

/-- If each sample comes to what an environment shows, so does each evaluation. -/
theorem holds_eval_eq (post : Postcondition m)
    (samples : ∀ spot, post.Holds (· = e.sample spot) (sample spot)) (c : Condition) :
    post.Holds (· = e.eval catalogue c) (c.eval catalogue sample e.sources) := by
  have shows : ∀ indicator tolerance,
      post.Holds (· = Id.run (evalShows e.sampler indicator tolerance))
        (evalShows sample indicator tolerance) := by
    intro indicator tolerance
    exact post.bind (samples indicator.spot) fun found same => post.pure (by rw [same]; rfl)
  induction c with
  | all children ih | any children ih =>
      rw [Environment.eval, eval, eval]
      exact holds_evalGroup_eq post _ none ih
  | not child ih =>
      rw [Environment.eval, eval, eval]
      exact post.bind ih fun _ same => post.pure (by rw [same]; rfl)
  | const value =>
      rw [Environment.eval, eval, eval]
      exact post.pure rfl
  | pointShows point tolerance =>
      rw [Environment.eval, eval, eval]
      cases catalogue.point? point with
      | none => exact post.pure rfl
      | some found => exact shows found.indicator tolerance
  | skillShows skill tolerance =>
      rw [Environment.eval, eval, eval]
      cases catalogue.skill? skill with
      | none => exact post.pure rfl
      | some found =>
          dsimp only
          cases found.indicator with
          | none => exact post.pure rfl
          | some indicator => exact shows indicator tolerance
  | barChanged point tolerance =>
      rw [Environment.eval, eval, eval]
      cases catalogue.point? point with
      | none => exact post.pure rfl
      | some found =>
          dsimp only
          rw [evalChanged_eq, evalChanged_eq]
          rcases e.sources.baselineAt point with _ | u | base
          · exact post.pure rfl
          · exact post.pure rfl
          · exact post.bind (samples found.indicator.spot) fun _ same =>
              post.pure (by rw [same]; rfl)
  | metricAtLeast skill metric count =>
      rw [Environment.eval, eval, eval]
      exact post.pure rfl

end

/-- An evaluation finds what a condition means, has a reason exactly if that is
unknown, and gives the reason that is to blame.  So it does wherever samples are
taken, if each comes to what an environment shows. -/
theorem eval_isKleene (catalogue : Catalogue) (e : Environment) (c : Condition) :
    ((e.eval catalogue c).truth = e.truth catalogue c ∧
        ((e.eval catalogue c).reason.isSome ↔ (e.eval catalogue c).truth = .unknown) ∧
        ∀ reason, (e.eval catalogue c).reason = some reason ↔ e.Blames catalogue c reason) ∧
      ∀ {m : Type → Type} [Monad m] (post : Postcondition m) (sample : Sampler m),
        (∀ spot, post.Holds (· = e.sample spot) (sample spot)) →
          post.Holds (· = e.eval catalogue c) (c.eval catalogue sample e.sources) := by
  refine ⟨⟨truth_eval e catalogue c, ?_, ?_⟩, fun post sample samples =>
    holds_eval_eq post samples c⟩
  · rw [Option.isSome_iff_ne_none, ne_eq, Evaluation.reason_eq_none_iff,
      Classical.not_not]
  · intro reason
    rw [Evaluation.reason_eq_some_iff, eval_eq_unknown_iff]

/-- Neither the lamp nor the spark can be told, and the lamp comes first. -/
theorem lampOrSpark_blames_lamp :
    let e : Environment :=
      { sample := fun _ => .error (.because "no_frame" "")
        sources := ⟨some fun _ _ => .error (.because "no_store" ""), none⟩ }
    e.truth lampCatalogue lampOrSpark = .unknown ∧
      e.Blames lampCatalogue lampOrSpark "no_frame" ∧
      (∀ spot, Postcondition.value.Holds (· = e.sample spot) (e.sampler spot)) ∧
      Id.run (lampOrSpark.eval lampCatalogue e.sampler e.sources) = .unknown "no_frame" := by
  intro e
  have samples : ∀ spot, Postcondition.value.Holds (· = e.sample spot) (e.sampler spot) :=
    fun _ => rfl
  obtain ⟨⟨truth_eq, _, reason_iff⟩, evaluated⟩ := eval_isKleene lampCatalogue e lampOrSpark
  have found : e.eval lampCatalogue lampOrSpark = .unknown "no_frame" := by decide
  refine ⟨?_, ?_, samples, ?_⟩
  · rw [← truth_eq, found]
    rfl
  · rw [← reason_iff, found]
    rfl
  · rw [← found]
    exact evaluated .value e.sampler samples

end Condition

end Rotation
