import Rotation.Proofs.Cast.Completion
import Rotation.Proofs.Cast.Strides

/-!
# The life cycle of an attempt

Between the steps of an attempt others may do what they like: time passes, the
screen changes, a stop is asked for, the lock is taken and let go of.  Whatever
they do, a node either is passed over, which changes nothing, or lives out one
attempt from its beginning to its end; and then the lock is left to those others.
-/

namespace Rotation

namespace Act

variable {σ : Type} {rig : Rig σ} {s : Session σ}

theorem attempt?_of_isCapture {event : Event} (capture : event.isCapture = true) :
    event.attempt? = none := by
  cases event <;> first | rfl | contradiction

/-- Who looks or tells that a node is skipped tells of no attempt. -/
theorem attempt?_toldAll (discreet : rig.Discreet) {acts : List (Act σ)}
    (quiet : ∀ act ∈ acts, act.Passes) : ∀ event ∈ toldAll rig s acts, event.attempt? = none := by
  induction acts generalizing s with
  | nil => simp [toldAll]
  | cons act rest ih =>
      obtain ⟨first, later⟩ := List.forall_mem_cons.mp quiet
      intro event mem
      rcases List.mem_append.mp mem with own | others
      · cases act with
        | looks spot => exact attempt?_of_isCapture (discreet _ _ _ event own)
        | tells events =>
            obtain ⟨_, _, _, _, rfl⟩ := first event own
            rfl
        | presses | equips | operates | remembers | remarks | locks => contradiction
      · exact ih later event others

/-- An attempt under way stays so while it goes on, and what is told of it are
the stages that it is moved to. -/
theorem runs_applyAll (discreet : rig.Discreet) (linked : s.store.Linked) {id skill : String}
    (runs : s.store.Runs id skill) {acts : List (Act σ)} (own : ∀ act ∈ acts, act.GoesOn id) :
    (applyAll rig s acts).store.Runs id skill ∧
      (toldAll rig s acts).filter Event.begins = [] ∧
      (toldAll rig s acts).filterMap (Event.stageOf? id) = acts.filterMap stage? := by
  induction acts generalizing s with
  | nil => exact ⟨runs, rfl, rfl⟩
  | cons act rest ih =>
      obtain ⟨first, later⟩ := List.forall_mem_cons.mp own
      have now : (act.apply rig s).store.Runs id skill ∧
          (act.told rig s).filter Event.begins = [] ∧
          (act.told rig s).filterMap (Event.stageOf? id) = act.stage?.toList := by
        cases act with
        | operates operation => exact runs.goesOn linked first
        | looks spot =>
            have plain : ∀ event ∈ (looks spot).told rig s, event.attempt? = none :=
              fun event mem => attempt?_of_isCapture (discreet _ _ _ event mem)
            refine ⟨runs, ?_, ?_⟩
            · rw [List.filter_eq_nil_iff]
              intro event mem
              simp [Event.begins_of_attempt?_eq_none (plain event mem)]
            · exact List.filterMap_eq_nil_iff.mpr fun event mem =>
                Event.stageOf?_of_attempt?_eq_none id (plain event mem)
        | presses | remembers | remarks => exact ⟨runs, rfl, rfl⟩
        | equips | locks | tells => contradiction
      have still_linked : (act.apply rig s).store.Linked := by
        have store_eq := store_applyAll rig s [act]
        exact store_eq ▸ linked.operateAll _
      obtain ⟨runs_on, no_beginning, stages⟩ := ih still_linked now.1 later
      refine ⟨runs_on, ?_, ?_⟩
      · rw [toldAll, List.filter_append, now.2.1, no_beginning, List.nil_append]
      · rw [toldAll, List.filterMap_append, now.2.2, stages]
        cases stage : act.stage? with
        | none => rw [List.filterMap_cons_none stage]; rfl
        | some moved => rw [List.filterMap_cons_some stage]; rfl

end Act

namespace Cast.Caster

variable {σ : Type}

/-- An attempt among others has come to a phase, and its steps have told of
events on the way. -/
inductive Course (c : Caster σ) (node : SkillNode) (first : Shared σ) :
    List Event → Phase → Shared σ → Prop
  | opening : Course c node first [] .opening first
  | stirred {told : List Event} {phase : Phase} {shared : Shared σ}
      (course : Course c node first told phase shared) (stir : Stir σ) :
      Course c node first told phase (shared.stir stir)
  | stepped {told : List Event} {phase later : Phase} {s s' : Session σ} {theirs : Option String}
      {next : Next} (course : Course c node first told phase (s, theirs))
      (ends : (c.step node phase).Ends s next s') (on : next.phase? = some later) :
      Course c node first (told ++ (c.step node phase).told s) later (s', theirs)

/-- Who casts, at another keyboard. -/
def withPress (c : Caster σ) (press : Chord → σ → Except Crash (Except PressError Unit) × σ) :
    Caster σ :=
  { c with rig := { c.rig with press } }

/-- What is known of a node before its attempt is opened: nothing has changed,
and no key would have been of any consequence. -/
structure Untouched (c : Caster σ) (node : SkillNode) (first : Shared σ) (told : List Event)
    (phase : Phase) (shared : Shared σ) : Prop where
  store : shared.1.store = first.1.store
  silent : ∀ event ∈ told, event.attempt? = none
  keyless : ∀ press, (c.withPress press).Course node first told phase shared

/-- What is known of an attempt between its beginning and its end. -/
structure UnderWay (c : Caster σ) (node : SkillNode) (first : Shared σ) (told : List Event)
    (opened : Opened) (passed : List Stage) (shared : Shared σ) (time : Nat)
    (operations : List Store.Operation) : Prop where
  known : c.catalogue.skill? node.skill = some opened.skill
  named : opened.attempt = (first.1.store.begin opened.skill.id node.id time).result
  own : ∀ operation ∈ operations, operation.GoesOn opened.attempt
  store : shared.1.store =
    first.1.store.operateAll (.begin opened.skill.id node.id time :: operations)
  runs : shared.1.store.Runs opened.attempt opened.skill.id
  begun : told.filter Event.begins =
    [.attemptStarted opened.attempt opened.skill.id node.id time]
  stages : told.filterMap (Event.stageOf? opened.attempt) = passed

/-- What is known of an attempt on its way. -/
structure Comprises (c : Caster σ) (node : SkillNode) (first : Shared σ) (told : List Event)
    (phase : Phase) (shared : Shared σ) : Prop where
  fits : c.Fits node phase
  splits : shared.Splits (held node phase)
  state : match phase.opened? with
    | none => c.Untouched node first told phase shared
    | some opened => ∃ time operations,
        c.UnderWay node first told opened phase.passed shared time operations

open Live

variable {c : Caster σ} {node : SkillNode} {first : Shared σ} {told : List Event} {phase : Phase}
  {s s' : Session σ} {theirs : Option String}

/-- Before an attempt is opened, a step has no use for the keyboard. -/
theorem step_withPress (press : Chord → σ → Except Crash (Except PressError Unit) × σ)
    (unopened : phase.opened? = none) :
    (c.withPress press).step node phase = c.step node phase := by
  cases phase with
  | opening | awaitingLock => rfl
  | launching | starting | resting | completing => contradiction

/-- A step whose acts are known leads to the session after them and tells of
their events. -/
theorem ends_iff_of_does {acts : List (Act σ)} {result : Except Crash Next} {next : Next}
    (does : (c.step node phase).Does c.rig s acts result)
    (ends : (c.step node phase).Ends s next s') :
    result = .ok next ∧ s' = Act.applyAll c.rig s acts ∧
      (c.step node phase).told s = Act.toldAll c.rig s acts := by
  obtain ⟨result_eq, session_eq⟩ := Prod.mk.inj (does.run.symm.trans ends)
  exact ⟨result_eq, session_eq.symm, does.told⟩

theorem Untouched.append {shared : Shared σ} {acts : List (Act σ)} (discreet : c.rig.Discreet)
    (untouched : c.Untouched node first told phase shared) (quiet : ∀ act ∈ acts, act.Passes) :
    (∀ event ∈ told ++ Act.toldAll c.rig shared.1 acts, event.attempt? = none) ∧
      (Act.applyAll c.rig shared.1 acts).store = first.1.store := by
  refine ⟨?_, ?_⟩
  · intro event mem
    exact (List.mem_append.mp mem).elim (untouched.silent event)
      (Act.attempt?_toldAll discreet quiet event)
  · rw [← untouched.store]
    apply Act.store_applyAll_eq
    intro act mem
    have passes := quiet act mem
    cases act with
    | operates => contradiction
    | looks | presses | equips | remembers | remarks | locks | tells => rfl

theorem UnderWay.linked {opened : Opened} {passed : List Stage} {shared : Shared σ} {time : Nat}
    {operations : List Store.Operation} (linked : first.1.store.Linked)
    (way : c.UnderWay node first told opened passed shared time operations) :
    shared.1.store.Linked := by
  rw [way.store]
  exact linked.operateAll _

/-- An attempt under way stays so while it goes on. -/
theorem UnderWay.append {opened : Opened} {passed : List Stage} {time : Nat}
    {operations : List Store.Operation} {acts : List (Act σ)} (discreet : c.rig.Discreet)
    (linked : first.1.store.Linked)
    (way : c.UnderWay node first told opened passed (s, theirs) time operations)
    (own : ∀ act ∈ acts, act.GoesOn opened.attempt) :
    c.UnderWay node first (told ++ Act.toldAll c.rig s acts) opened
      (passed ++ acts.filterMap Act.stage?) (Act.applyAll c.rig s acts, theirs) time
      (operations ++ acts.filterMap Act.operation?) := by
  obtain ⟨runs, no_beginning, stages⟩ :=
    Act.runs_applyAll discreet (way.linked linked) way.runs own
  constructor
  · exact way.known
  · exact way.named
  · intro operation mem
    rcases List.mem_append.mp mem with before | after
    · exact way.own operation before
    · obtain ⟨act, act_mem, is_operation⟩ := List.mem_filterMap.mp after
      cases act with
      | operates operation =>
          cases is_operation
          exact own _ act_mem
      | looks | presses | equips | remembers | remarks | locks | tells => contradiction
  · rw [Act.store_applyAll, way.store, ← Store.operateAll_append]
    rfl
  · exact runs
  · rw [List.filter_append, way.begun, no_beginning, List.append_nil]
  · rw [List.filterMap_append, way.stages, stages]

/-- An attempt is under way once it has been opened. -/
theorem UnderWay.open {looks : List (Act σ)} {skill : Skill} (discreet : c.rig.Discreet)
    (linked : first.1.store.Linked) (untouched : c.Untouched node first told phase (s, theirs))
    (looking : ∀ act ∈ looks, act.isLook = true)
    (known : c.catalogue.skill? node.skill = some skill) :
    let begins : List (Act σ) :=
      [.locks ⟨some (owner node)⟩, .operates (.begin skill.id node.id s.now)]
    c.UnderWay node first (told ++ Act.toldAll c.rig s (looks ++ begins))
      ⟨(s.store.begin skill.id node.id s.now).result, skill⟩ [.preparing]
      (Act.applyAll c.rig s (looks ++ begins), theirs) s.now [] := by
  intro begins
  obtain ⟨silent, looks_store⟩ := untouched.append discreet fun act mem =>
    Act.passes_of_isLook (looking act mem)
  dsimp only at silent looks_store
  have store_eq : (Act.applyAll c.rig s looks).store = s.store := looks_store.trans
    untouched.store.symm
  have told_eq : Act.toldAll c.rig s (looks ++ begins) =
      Act.toldAll c.rig s looks ++ (s.store.begin skill.id node.id s.now).events := by
    rw [Act.toldAll_append, ← store_eq]
    simp [begins, Act.toldAll, Act.told, Act.apply, Act.change, Session.on, Store.outcome]
  have after_eq : (Act.applyAll c.rig s (looks ++ begins)).store =
      (s.store.begin skill.id node.id s.now).store := by
    rw [Act.applyAll_append, ← store_eq]
    rfl
  have same := untouched.store
  dsimp only at same
  obtain ⟨runs, _, begun, stages⟩ :=
    (same ▸ linked : s.store.Linked).runs_begin skill.id node.id s.now
  constructor
  · exact known
  · rw [same]
  · simp
  · rw [after_eq, same]
    rfl
  · rw [after_eq]
    exact runs
  · rw [told_eq, ← List.append_assoc, List.filter_append, begun]
    rw [List.filter_eq_nil_iff.mpr, List.nil_append]
    intro event mem
    simp [Event.begins_of_attempt?_eq_none (silent event mem)]
  · rw [told_eq, ← List.append_assoc, List.filterMap_append, stages]
    rw [List.filterMap_eq_nil_iff.mpr, List.nil_append]
    exact fun event mem => Event.stageOf?_of_attempt?_eq_none _ (silent event mem)

theorem Comprises.stir {shared : Shared σ} (comprises : c.Comprises node first told phase shared)
    (stir : Stir σ) : c.Comprises node first told phase (shared.stir stir) := by
  refine ⟨comprises.fits, comprises.splits.stir stir, ?_⟩
  have store_eq := Shared.store_stir shared stir
  have state := comprises.state
  split
  · rename_i unopened
    simp only [unopened] at state
    exact ⟨store_eq.trans state.store, state.silent,
      fun press => .stirred (state.keyless press) stir⟩
  · rename_i opened under_way
    simp only [under_way] at state
    obtain ⟨time, operations, way⟩ := state
    exact ⟨time, operations, { way with
      store := store_eq.trans way.store
      runs := store_eq ▸ way.runs }⟩

/-- A step that goes on goes on with what it has come from. -/
theorem Comprises.step {next : Next} {later : Phase} (discreet : c.rig.Discreet)
    (linked : first.1.store.Linked) (comprises : c.Comprises node first told phase (s, theirs))
    (ends : (c.step node phase).Ends s next s') (on : next.phase? = some later) :
    c.Comprises node first (told ++ (c.step node phase).told s) later (s', theirs) := by
  obtain ⟨acts, result, does, strides⟩ := acts_step (s := s) comprises.fits
  obtain ⟨rfl, rfl, told_eq⟩ := ends_iff_of_does does ends
  have splits := strides.splits comprises.splits
  rw [heldAfter, on, Option.bind_some] at splits
  have state := comprises.state
  cases strides with
  | waits unopened looks other_on still fits =>
      obtain rfl := Option.some.inj (on.symm.trans other_on)
      simp only [unopened] at state
      obtain ⟨silent, store_eq⟩ := state.append discreet fun act mem =>
        Act.passes_of_isLook (looks act mem)
      refine ⟨fits, splits, ?_⟩
      rw [still]
      refine ⟨store_eq, told_eq ▸ silent, fun press => ?_⟩
      rw [← step_withPress press unopened] at ends ⊢
      exact .stepped (state.keyless press) ends on
  | passes => contradiction
  | opens unopened looking known free =>
      cases on
      simp only [unopened] at state
      refine ⟨trivial, splits, s.now, [], ?_⟩
      rw [told_eq]
      exact UnderWay.open discreet linked state looking known
  | proceeds under_way proceeds =>
      simp only [under_way] at state
      obtain ⟨time, operations, way⟩ := state
      cases proceeds with
      | on own other_on same passed_eq =>
          obtain rfl := Option.some.inj (on.symm.trans other_on)
          refine ⟨fits_of_opened same, splits, ?_⟩
          rw [same, passed_eq, told_eq]
          exact ⟨time, _, way.append discreet linked own⟩
      | closes => contradiction

/-- What is known of an attempt holds all along its way. -/
theorem Course.comprises {shared : Shared σ} (discreet : c.rig.Discreet)
    (linked : first.1.store.Linked) (apart : first.1.lock.holder = first.2)
    (course : c.Course node first told phase shared) :
    c.Comprises node first told phase shared := by
  induction course with
  | opening =>
      refine ⟨trivial, ⟨apart, .inl rfl⟩, rfl, by simp, fun _ => .opening⟩
  | stirred course stir ih => exact ih.stir stir
  | stepped course ends on ih => exact ih.step discreet linked ends on

/-! ## The end of a node -/

/-- A node ends in a phase without an attempt: it has been skipped, or the run
has been stopped while it waited for the lock.  The store is what it was, and
the keyboard was not touched: at any other one the same would have happened. -/
structure PassedOver (c : Caster σ) (node : SkillNode) (first : Shared σ) (told : List Event)
    (phase : Phase) (s : Session σ) (theirs : Option String) (outcome : Outcome)
    (s' : Session σ) : Prop where
  attempt : outcome.attempt = none
  verdict : outcome.verdict = .skipped ∨
    outcome.verdict = .stopped ∧ ∃ skill deadline, phase = .awaitingLock skill deadline
  store : s'.store = first.1.store
  silent : ∀ event ∈ told ++ (c.step node phase).told s, event.attempt? = none
  keyless : ∀ press, (c.withPress press).Course node first told phase (s, theirs) ∧
    ((c.withPress press).step node phase).Ends s (.finished outcome) s'

/-- A node has opened an attempt at its skill and closed it by a stage after some
others.  Nothing else has been done to the store. -/
structure LivedOut (c : Caster σ) (node : SkillNode) (first : Shared σ) (told : List Event)
    (outcome : Outcome) (s' : Session σ) (id : String) (skill : Skill) (passed : List Stage)
    (stage : Stage) : Prop where
  attempt : outcome.attempt = some id
  known : c.catalogue.skill? node.skill = some skill
  verdict : outcome.verdict = stage.verdict
  terminal : stage.isTerminal = true
  begun : ∃ time, told.filter Event.begins = [.attemptStarted id skill.id node.id time]
  in_order : passed <+: Stage.ordinary
  stages : told.filterMap (Event.stageOf? id) = passed ++ [stage]
  complete : stage = .success → passed = Stage.ordinary
  store : ∃ begun ended reason operations,
    (∀ operation ∈ operations, Store.Operation.GoesOn id operation) ∧
    s'.store = first.1.store.operateAll
      (.begin skill.id node.id begun :: operations ++ [.finish id stage reason ended])
  gone : s'.store.live.find? id = none
  idle : (s'.store.countersOf skill.id).inFlight = none

/-- An attempt under way that is closed has been lived out. -/
theorem UnderWay.close {opened : Opened} {time : Nat} {operations : List Store.Operation}
    {acts : List (Act σ)} {outcome : Outcome} (discreet : c.rig.Discreet)
    (linked : first.1.store.Linked)
    (way : c.UnderWay node first told opened phase.passed (s, theirs) time operations)
    (proceeds : Proceeds opened s.now phase.passed acts (.ok (.finished outcome))) :
    (outcome.advance = false ↔ outcome.verdict = .stopped) ∧
      ∃ passed stage, c.LivedOut node first (told ++ Act.toldAll c.rig s acts) outcome
        (Act.applyAll c.rig s acts) opened.attempt opened.skill passed stage := by
  cases proceeds with
  | on own on => contradiction
  | closes reason f own terminal in_order complete attempt verdict held =>
      rename_i acts stage
      have before := way.append discreet linked own
      obtain ⟨told_end, gone, idle⟩ :=
        Store.Runs.finish (before.linked linked) before.runs terminal reason s.now
      have told_eq : told ++ Act.toldAll c.rig s (acts ++ [.operates
            (.finish opened.attempt stage reason s.now), .locks .free, .remarks f]) =
          told ++ Act.toldAll c.rig s acts ++
            [.attemptFinished opened.attempt opened.skill.id stage reason s.now] := by
        rw [Act.toldAll_append, ← told_end, List.append_assoc]
        simp [Act.toldAll, Act.told, Store.outcome]
      have store_eq : (Act.applyAll c.rig s (acts ++ [.operates
            (.finish opened.attempt stage reason s.now), .locks .free, .remarks f])).store =
          ((Act.applyAll c.rig s acts).store.finish opened.attempt stage reason s.now).store := by
        rw [Act.applyAll_append]
        rfl
      refine ⟨?_, phase.passed ++ acts.filterMap Act.stage?, stage, ?_⟩
      · rw [held, verdict]
        cases stage <;> simp [Stage.verdict]
      rw [told_eq]
      constructor
      · exact attempt
      · exact way.known
      · exact verdict
      · exact terminal
      · refine ⟨time, ?_⟩
        rw [List.filter_append, before.begun]
        rfl
      · exact in_order
      · rw [List.filterMap_append, before.stages]
        simp [Event.stageOf?]
      · exact complete
      · refine ⟨time, s.now, reason, _, before.own, ?_⟩
        rw [store_eq, Store.operateAll_append, ← before.store]
        rfl
      · rw [store_eq]
        exact gone
      · rw [store_eq]
        exact idle

/-- However others interfere with a node, when it ends the lock is held by who
holds it among the others.  The node has either been passed over or lived out
one attempt, of which no trace is left in flight.  And the track moves on unless
the run was stopped, or the lock was held by somebody else and the node is to
wait for its turn on its place. -/
theorem Course.passed_over_or_lived_out {outcome : Outcome} (discreet : c.rig.Discreet)
    (linked : first.1.store.Linked) (apart : first.1.lock.holder = first.2)
    (course : c.Course node first told phase (s, theirs))
    (ends : (c.step node phase).Ends s (.finished outcome) s') :
    s'.lock.holder = theirs ∧
      (outcome.advance = false ↔ outcome.verdict = .stopped ∨
        node.lock.policy = .skipButHold ∧ c.Contends node s phase) ∧
      (c.PassedOver node first told phase s theirs outcome s' ∨
        ∃ id skill passed stage, c.LivedOut node first (told ++ (c.step node phase).told s) outcome
          s' id skill passed stage) := by
  have comprises := course.comprises discreet linked apart
  obtain ⟨acts, result, does, strides⟩ := acts_step (s := s) comprises.fits
  obtain ⟨rfl, rfl, told_eq⟩ := ends_iff_of_does does ends
  refine ⟨(strides.splits comprises.splits).holder, ?_⟩
  have state := comprises.state
  cases strides with
  | waits unopened looks on => contradiction
  | passes unopened quiet attempt verdict advance =>
      simp only [unopened] at state
      obtain ⟨silent, store_eq⟩ := state.append discreet quiet
      refine ⟨advance, .inl ⟨attempt, verdict, store_eq, told_eq ▸ silent, ?_⟩⟩
      intro press
      refine ⟨state.keyless press, ?_⟩
      rw [step_withPress press unopened]
      exact ends
  | proceeds under_way proceeds =>
      simp only [under_way] at state
      obtain ⟨time, operations, way⟩ := state
      obtain ⟨held, passed, stage, lived⟩ := way.close discreet linked proceeds
      have uncontended : ¬c.Contends node s phase := by
        rintro ⟨rfl, _⟩
        contradiction
      rw [told_eq]
      exact ⟨by simp [held, uncontended], .inr ⟨_, _, passed, stage, lived⟩⟩

theorem Course.sleep (course : c.Course node first told phase (s, theirs)) (ms : Nat) :
    c.Course node first told phase (afterSleep s ms, theirs) := by
  unfold afterSleep
  split
  · exact course
  · exact course.stirred (.elapse ms)

theorem Course.await (course : c.Course node first told phase (s, theirs)) (ms : Nat) :
    c.Course node first told phase (afterAwait s ms, theirs) := by
  unfold afterAwait
  split
  · exact course
  · exact course.stirred (.elapse ms)

/-- On a virtual clock an attempt takes a course in which nothing but time
passes. -/
theorem Course.exists_of_runFrom {fuel : Nat} {outcome : Outcome} {last : Session σ}
    (course : c.Course node first told phase (s, theirs))
    (ran : c.runFrom (fun s => s) node fuel phase s = (some (.ok outcome), last)) :
    ∃ told phase t, c.Course node first told phase (t, theirs) ∧
      (c.step node phase).Ends t (.finished outcome) last := by
  induction fuel generalizing told phase s with
  | zero => simp [runFrom] at ran
  | succ fuel ih =>
      unfold runFrom at ran
      rcases result : (c.step node phase).run.run s with ⟨crash | next, t⟩
      · simp only [result] at ran
        cases ran
      simp only [result] at ran
      have stepped : ∀ {later : Phase}, next.phase? = some later →
          c.Course node first (told ++ (c.step node phase).told s) later (t, theirs) :=
        fun on => .stepped course result on
      cases next with
      | finished ended =>
          cases ran
          exact ⟨told, phase, s, course, result⟩
      | proceed later => exact ih (stepped rfl) ran
      | sleep ms later => exact ih ((stepped rfl).sleep ms) ran
      | await ms later => exact ih ((stepped rfl).await ms) ran

/-- A hum is lived out in the quiet: it is sung outside of any track, succeeds,
and leaves the lock free. -/
theorem hum_lives_out :
    ∃ told phase s outcome last,
      blindSinger.Course (blindSinger.extraNode "hum") (.quiet, none) told phase (s, none) ∧
        (blindSinger.step (blindSinger.extraNode "hum") phase).Ends s (.finished outcome) last ∧
        outcome.verdict = .success ∧ last.lock.holder = none ∧
        ∃ id skill passed stage, blindSinger.LivedOut (blindSinger.extraNode "hum") (.quiet, none)
          (told ++ (blindSinger.step (blindSinger.extraNode "hum") phase).told s) outcome last
          id skill passed stage := by
  have discreet : blindSinger.rig.Discreet := fun _ _ _ _ mem => by contradiction
  have sung : ((blindSinger.runFrom (fun s => s) (blindSinger.extraNode "hum") 10 .opening
      .quiet).1.bind fun result => result.toOption).map Outcome.verdict = some .success := by
    decide +kernel
  rcases ran : blindSinger.runFrom (fun s => s) (blindSinger.extraNode "hum") 10 .opening .quiet
    with ⟨_ | crash | outcome, last⟩
  · rw [ran] at sung
    contradiction
  · rw [ran] at sung
    contradiction
  have success : outcome.verdict = .success := by
    rw [ran] at sung
    exact Option.some.inj sung
  obtain ⟨told, phase, s, course, ends⟩ := Course.exists_of_runFrom .opening ran
  obtain ⟨free, _, passed_over | lived⟩ :=
    course.passed_over_or_lived_out discreet (Store.linked_empty _) rfl ends
  · rcases passed_over.verdict with skipped | ⟨stopped, _⟩
    · rw [success] at skipped
      contradiction
    · rw [success] at stopped
      contradiction
  · exact ⟨told, phase, s, outcome, last, course, ends, success, free, lived⟩

end Cast.Caster

end Rotation
