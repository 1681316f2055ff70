import Rotation.Proofs.Cast.LifeCycle

/-!
# Records of what is done with the equipment

Equipment can be wrapped so that it writes down each look at the screen and each
press of a key, with what came of it.  The record is for the reader only: without
it, an attempt with the wrapped equipment is the same attempt.  So every course of
an attempt has a chronicle, in which it can be read whether all of some points were
looked at right before each press, and whether the baselines still tell what was
seen before the latest one.
-/

namespace Rotation

open Cast

/-- A look at the screen or the press of a key, with what came of it. -/
inductive Deed where
  | looked (spot : Spot) (result : Except Crash (Observed Color))
  | pressed (key : Chord) (result : Except Crash (Except PressError Unit))

namespace Deed

/-- Whether a key was pressed, be it in vain. -/
def isPress : Deed → Bool
  | .pressed _ _ => true
  | .looked _ _ => false

/-- Whether a key was sent. -/
def isSent : Deed → Bool
  | .pressed _ (.ok (.ok ())) => true
  | _ => false

end Deed

/-- Equipment with a record of what was done with it. -/
abbrev Recorded (σ : Type) :=
  σ × List Deed

variable {σ α β : Type}

/-- How equipment with a record is used: as without it, and the deed is written
down. -/
def Rig.recorded (rig : Rig σ) : Rig (Recorded σ) where
  sample spot now equipment :=
    let (result, events, after) := rig.sample spot now equipment.1
    (result, events, after, equipment.2 ++ [.looked spot result])
  press key equipment :=
    let (result, after) := rig.press key equipment.1
    (result, after, equipment.2 ++ [.pressed key result])

/-- Who casts, with a record. -/
def Cast.Caster.recorded (c : Caster σ) : Caster (Recorded σ) :=
  { catalogue := c.catalogue, rig := c.rig.recorded, settings := c.settings }

namespace Session

/-- The session with a record. -/
def noting (s : Session σ) (log : List Deed) : Session (Recorded σ) :=
  { s with equipment := (s.equipment, log) }

/-- The session without its record. -/
def forget (s : Session (Recorded σ)) : Session σ :=
  { s with equipment := s.equipment.1 }

/-- The record of a session. -/
def log (s : Session (Recorded σ)) : List Deed :=
  s.equipment.2

theorem forget_noting (s : Session σ) (log : List Deed) : (s.noting log).forget = s :=
  rfl

theorem now_forget (s : Session (Recorded σ)) : s.forget.now = s.now :=
  rfl

theorem cancelled_forget (s : Session (Recorded σ)) : s.forget.cancelled = s.cancelled :=
  rfl

theorem lock_forget (s : Session (Recorded σ)) : s.forget.lock = s.lock :=
  rfl

end Session

namespace Live

/-- Without the record a computation is the other one. -/
def Forgets (recorded : Live (Recorded σ) α) (plain : Live σ α) : Prop :=
  ∀ s, plain.run.run s.forget = Prod.map id Session.forget (recorded.run.run s)

theorem forgets_pure (a : α) : Forgets (pure a : Live (Recorded σ) α) (pure a) :=
  fun _ => rfl

theorem Forgets.bind {x : Live (Recorded σ) α} {y : Live σ α} {f : α → Live (Recorded σ) β}
    {g : α → Live σ β} (first : Forgets x y) (rest : ∀ a, Forgets (f a) (g a)) :
    Forgets (x >>= f) (y >>= g) := by
  intro s
  rw [run_bind, run_bind, first s]
  rcases x.run.run s with ⟨crash | a, s'⟩
  · rfl
  · exact rest a s'

/-- What is read of a session is not its record. -/
theorem forgets_session_bind {f : Session (Recorded σ) → Live (Recorded σ) β}
    {g : Session σ → Live σ β} (rest : ∀ s, Forgets (f s) (g s.forget)) :
    Forgets (session >>= f) (session >>= g) := by
  intro s
  exact rest s s

theorem forgets_publish (events : List Event) :
    Forgets (publish events : Live (Recorded σ) Unit) (publish events) :=
  fun _ => rfl

theorem forgets_remark (f : Journal → Journal) :
    Forgets (remark f : Live (Recorded σ) Unit) (remark f) :=
  fun _ => rfl

theorem forgets_release : Forgets (release : Live (Recorded σ) Unit) release :=
  fun _ => rfl

theorem forgets_change (f : Store → Nat → Store.Change α) :
    Forgets (change f : Live (Recorded σ) α) (change f) :=
  fun _ => rfl

theorem forgets_sample (rig : Rig σ) (spot : Spot) :
    Forgets (sample rig.recorded spot) (sample rig spot) := by
  intro s
  rw [run_sample, run_sample]
  rfl

theorem forgets_press (rig : Rig σ) (key : Chord) :
    Forgets (press rig.recorded key) (press rig key) := by
  intro s
  rw [run_press, run_press]
  rfl

theorem Forgets.holding {x : Live (Recorded σ) α} {y : Live σ α} (inner : Forgets x y) :
    Forgets (holding x) (holding y) := by
  intro s
  rw [run_holding, run_holding, inner s]
  rcases x.run.run s with ⟨crash | a, s'⟩ <;> rfl

section

variable {rig : Rig σ} {catalogue : Catalogue} {sources : Sources}

theorem forgets_evalShows (indicator : Indicator) (tolerance : Option UInt8) :
    Forgets (Condition.evalShows (sample rig.recorded) indicator tolerance)
      (Condition.evalShows (sample rig) indicator tolerance) :=
  (forgets_sample rig indicator.spot).bind fun _ => forgets_pure _

theorem forgets_evalChanged (point : String) (indicator : Indicator) (tolerance : Option UInt8) :
    Forgets (Condition.evalChanged (sample rig.recorded) sources point indicator tolerance)
      (Condition.evalChanged (sample rig) sources point indicator tolerance) := by
  unfold Condition.evalChanged
  split
  · exact forgets_pure _
  · split
    · exact forgets_pure _
    · exact (forgets_sample rig indicator.spot).bind fun _ => forgets_pure _

theorem forgets_evalGroup (dominant : Bool) (pending : Option String) {children : List Condition}
    (each : ∀ child ∈ children, Forgets (child.eval catalogue (sample rig.recorded) sources)
      (child.eval catalogue (sample rig) sources)) :
    Forgets
      (Condition.evalGroup catalogue (sample rig.recorded) sources dominant pending children)
      (Condition.evalGroup catalogue (sample rig) sources dominant pending children) := by
  induction children generalizing pending with
  | nil => cases pending <;> exact forgets_pure _
  | cons child rest ih =>
      obtain ⟨first, others⟩ := List.forall_mem_cons.mp each
      rw [Condition.evalGroup, Condition.evalGroup]
      apply first.bind
      intro found
      cases found with
      | known value =>
          dsimp only
          split
          · exact forgets_pure _
          · exact ih pending others
      | unknown reason => exact ih _ others

/-- To evaluate a condition leaves nothing but looks in the record. -/
theorem forgets_conditionEval (condition : Condition) :
    Forgets (condition.eval catalogue (sample rig.recorded) sources)
      (condition.eval catalogue (sample rig) sources) := by
  induction condition with
  | all children ih | any children ih =>
      rw [Condition.eval, Condition.eval]
      exact forgets_evalGroup _ none ih
  | not child ih =>
      rw [Condition.eval, Condition.eval]
      exact ih.bind fun _ => forgets_pure _
  | const value =>
      rw [Condition.eval, Condition.eval]
      exact forgets_pure _
  | pointShows point tolerance =>
      rw [Condition.eval, Condition.eval]
      split
      · exact forgets_pure _
      · exact forgets_evalShows _ tolerance
  | skillShows skill tolerance =>
      rw [Condition.eval, Condition.eval]
      split
      · exact forgets_pure _
      · split
        · exact forgets_pure _
        · exact forgets_evalShows _ tolerance
  | barChanged point tolerance =>
      rw [Condition.eval, Condition.eval]
      split
      · exact forgets_pure _
      · exact forgets_evalChanged point _ tolerance
  | metricAtLeast skill metric count =>
      rw [Condition.eval, Condition.eval]
      exact forgets_pure _

end

end Live

namespace Cast.Caster

open Live

variable {c : Caster σ} {node : SkillNode}

/-! ## The same attempt without the record -/

theorem catalogue_recorded (c : Caster σ) : c.recorded.catalogue = c.catalogue :=
  rfl

theorem settings_recorded (c : Caster σ) : c.recorded.settings = c.settings :=
  rfl

theorem forgets_eval (condition : Condition) :
    Forgets (c.recorded.eval condition) (c.eval condition) :=
  forgets_session_bind fun _ => forgets_conditionEval condition

theorem forgets_skip (reason : String) (advance : Bool) :
    Forgets (c.recorded.skip node reason advance) (c.skip node reason advance) :=
  forgets_session_bind fun _ => (forgets_publish _).bind fun _ => forgets_pure _

theorem forgets_close {opened : Opened} {stage : Stage} {reason : Option String} :
    Forgets (close node opened stage reason : Live (Recorded σ) Next)
      (close node opened stage reason) := by
  unfold close
  refine (forgets_change _).bind fun _ => forgets_release.bind fun _ => ?_
  cases stage <;> exact (forgets_remark _).bind fun _ => forgets_pure _

theorem forgets_refused (why : Contention) :
    Forgets (c.recorded.refused node why) (c.refused node why) := by
  unfold refused
  split
  · exact forgets_pure _
  · exact forgets_skip _ _

theorem forgets_openAttempt (skill : Skill) (lock : CastLock) :
    Forgets (openAttempt node skill lock : Live (Recorded σ) Next)
      (openAttempt node skill lock) := by
  unfold openAttempt
  have locks : Forgets (modify fun s => { s with lock } : Live (Recorded σ) Unit)
      (modify fun s => { s with lock }) :=
    fun _ => rfl
  exact locks.bind fun _ => (forgets_change _).bind fun _ => forgets_pure _

theorem forgets_enter (skill : Skill) :
    Forgets (c.recorded.enter node skill) (c.enter node skill) := by
  unfold enter
  refine forgets_session_bind fun s => ?_
  split
  · exact forgets_pure _
  · rw [Session.lock_forget]
    split
    · exact forgets_openAttempt skill _
    · exact forgets_refused _

theorem forgets_begin : Forgets (c.recorded.begin node) (c.begin node) := by
  unfold begin
  rw [catalogue_recorded]
  split
  · exact forgets_skip _ _
  · split
    · exact forgets_skip _ _
    · refine (forgets_eval _).bind fun found => ?_
      split
      · exact forgets_enter _
      · exact forgets_skip _ _
      · exact forgets_skip _ _

theorem forgets_awaitLock (skill : Skill) (deadline : Nat) :
    Forgets (c.recorded.awaitLock node skill deadline) (c.awaitLock node skill deadline) := by
  unfold awaitLock
  refine forgets_session_bind fun s => ?_
  rw [Session.lock_forget, Session.now_forget, Session.cancelled_forget, settings_recorded]
  split
  · exact forgets_openAttempt skill _
  · exact forgets_refused _
  · exact forgets_pure _

variable {opened : Opened}

theorem forgets_recordBaseline (id : String) :
    Forgets (c.recorded.recordBaseline opened id) (c.recordBaseline opened id) := by
  unfold recordBaseline
  rw [catalogue_recorded]
  split
  · exact forgets_pure _
  · refine (forgets_sample c.rig _).bind fun found => ?_
    cases found with
    | ok color => exact fun _ => rfl
    | error u => exact fun _ => rfl

theorem forgets_recordBaselines (ids : List String) :
    Forgets (c.recorded.recordBaselines opened ids) (c.recordBaselines opened ids) := by
  induction ids with
  | nil => exact forgets_pure _
  | cons id rest ih => exact (forgets_recordBaseline id).bind fun _ => ih

theorem forgets_send (key : Chord) :
    Forgets (c.recorded.send node opened key) (c.send node opened key) := by
  unfold send
  refine (forgets_recordBaselines _).bind fun _ => (forgets_press c.rig key).bind fun sent => ?_
  cases sent with
  | ok _ => exact (forgets_change _).bind fun _ => forgets_pure _
  | error e => exact forgets_pure _

theorem forgets_enterCasting :
    Forgets (c.recorded.enterCasting node opened) (c.enterCasting node opened) := by
  unfold enterCasting
  refine (forgets_change _).bind fun _ => (forgets_change _).bind fun _ => ?_
  split
  · exact forgets_pure _
  · exact forgets_pure _
  · exact forgets_session_bind fun _ => forgets_pure _

theorem forgets_launch : Forgets (c.recorded.launch node opened) (c.launch node opened) := by
  unfold launch
  refine forgets_session_bind fun s => ?_
  rw [Session.cancelled_forget]
  split
  · exact forgets_close
  · split
    · exact forgets_close
    · refine (forgets_send _).bind fun sent => ?_
      cases sent with
      | error e => exact (forgets_remark _).bind fun _ => forgets_close
      | ok _ =>
          refine (forgets_change _).bind fun _ => ?_
          split
          · exact forgets_enterCasting
          · exact forgets_session_bind fun _ => forgets_pure _

theorem forgets_pressAgain {key : Chord} {signal : Condition} {retries : Nat} :
    Forgets (c.recorded.pressAgain node opened key signal retries)
      (c.pressAgain node opened key signal retries) := by
  unfold pressAgain
  split
  · exact forgets_close
  · refine (forgets_change _).bind fun _ => (forgets_send _).bind fun sent => ?_
    cases sent with
    | error e => exact forgets_close
    | ok _ => exact forgets_session_bind fun _ => forgets_pure _

theorem forgets_awaitStart {key : Chord} {signal : Condition} {deadline retries : Nat} :
    Forgets (c.recorded.awaitStart node opened key signal deadline retries)
      (c.awaitStart node opened key signal deadline retries) := by
  unfold awaitStart
  refine forgets_session_bind fun s => ?_
  rw [Session.cancelled_forget]
  split
  · exact forgets_close
  · refine (forgets_eval signal).bind fun found => ?_
    split
    · exact forgets_enterCasting
    · refine forgets_session_bind fun t => ?_
      rw [Session.now_forget]
      dsimp only
      split
      · exact forgets_pressAgain
      · exact forgets_pure _

theorem forgets_finishResting :
    Forgets (finishResting node opened : Live (Recorded σ) Next) (finishResting node opened) := by
  unfold finishResting
  refine forgets_session_bind fun s => ?_
  rw [Session.cancelled_forget]
  split
  · exact forgets_close
  · exact forgets_close

theorem forgets_finishUnseen (observed : Bool) :
    Forgets (finishUnseen node opened observed : Live (Recorded σ) Next)
      (finishUnseen node opened observed) := by
  rw [finishUnseen_eq, finishUnseen_eq]
  split
  · exact forgets_close
  · exact (forgets_change _).bind fun _ => forgets_close

theorem forgets_awaitCompletion {signal : Condition} {deadline : Nat} {observed : Bool} :
    Forgets (c.recorded.awaitCompletion node opened signal deadline observed)
      (c.awaitCompletion node opened signal deadline observed) := by
  unfold awaitCompletion
  refine forgets_session_bind fun s => ?_
  rw [Session.cancelled_forget]
  split
  · exact forgets_close
  · refine (forgets_eval signal).bind fun found => ?_
    dsimp only
    split
    · exact forgets_close
    · refine forgets_session_bind fun t => ?_
      rw [Session.now_forget]
      split
      · exact forgets_finishUnseen _
      · exact forgets_pure _

/-- A step with a record is the same step without it. -/
theorem forgets_step (phase : Phase) :
    Forgets (c.recorded.step node phase) (c.step node phase) := by
  cases phase with
  | opening => exact forgets_begin
  | awaitingLock skill deadline => exact forgets_awaitLock skill deadline
  | launching opened => exact forgets_launch.holding
  | starting opened key signal deadline retries => exact forgets_awaitStart.holding
  | resting opened => exact forgets_finishResting.holding
  | completing opened signal deadline observed => exact forgets_awaitCompletion.holding

/-- A step takes place exactly if it does with a record. -/
theorem ends_step_iff {phase : Phase} {s s' : Session σ} {next : Next} (log : List Deed) :
    (c.step node phase).Ends s next s' ↔
      ∃ later, (c.recorded.step node phase).Ends (s.noting log) next (s'.noting later) := by
  have forgets : Forgets (c.recorded.step node phase) (c.step node phase) := forgets_step phase
  have same := forgets (s.noting log)
  rw [Session.forget_noting] at same
  unfold Ends
  rw [same]
  constructor
  · intro ends
    generalize (c.recorded.step node phase).run.run (s.noting log) = r at ends ⊢
    obtain ⟨result, t⟩ := r
    cases ends
    exact ⟨t.log, rfl⟩
  · rintro ⟨later, ends⟩
    rw [ends]
    rfl

/-! ## Chronicles -/

/-- An attempt among others has come to a phase, and what it has done with the
equipment has been recorded. -/
inductive Chronicle (c : Caster σ) (node : SkillNode) (first : Shared σ) :
    List Deed → Phase → Shared σ → Prop
  | opening : Chronicle c node first [] .opening first
  | stirred {log : List Deed} {phase : Phase} {shared : Shared σ}
      (chronicle : Chronicle c node first log phase shared) (stir : Stir σ) :
      Chronicle c node first log phase (shared.stir stir)
  | stepped {log grown : List Deed} {phase later : Phase} {s s' : Session σ}
      {theirs : Option String} {next : Next}
      (chronicle : Chronicle c node first log phase (s, theirs))
      (ends : (c.recorded.step node phase).Ends (s.noting log) next (s'.noting grown))
      (on : next.phase? = some later) : Chronicle c node first grown later (s', theirs)

/-- Every course has a chronicle. -/
theorem Course.exists_chronicle {first shared : Shared σ} {told : List Event} {phase : Phase}
    (course : c.Course node first told phase shared) :
    ∃ log, c.Chronicle node first log phase shared := by
  induction course with
  | opening => exact ⟨[], .opening⟩
  | stirred _ stir ih =>
      obtain ⟨log, chronicle⟩ := ih
      exact ⟨log, .stirred chronicle stir⟩
  | stepped _ ends on ih =>
      obtain ⟨log, chronicle⟩ := ih
      obtain ⟨grown, recorded⟩ := (ends_step_iff log).mp ends
      exact ⟨grown, .stepped chronicle recorded on⟩

end Cast.Caster

/-! ## What a record shows -/

/-- A look at each of some points, at its spot, with what was seen there. -/
abbrev Sampling :=
  List ((String × Spot) × Observed Color)

namespace Sampling

/-- The points that are looked at, with their spots. -/
def points (sampling : Sampling) : List (String × Spot) :=
  sampling.map Prod.fst

/-- The looks as they are recorded. -/
def deeds (sampling : Sampling) : List Deed :=
  sampling.map fun look => .looked look.1.2 (.ok look.2)

/-- Baselines tell what was seen: the colour of a point, or nothing if it could
not be seen. -/
def KeptIn (sampling : Sampling) (baselines : Baselines) : Prop :=
  ∀ look ∈ sampling, Order.Table.find? look.1.1 baselines = look.2.toOption

theorem deeds_append (sampling others : Sampling) :
    (sampling ++ others).deeds = sampling.deeds ++ others.deeds :=
  List.map_append

theorem isPress_of_mem_deeds {sampling : Sampling} {deed : Deed} (mem : deed ∈ sampling.deeds) :
    deed.isPress = false := by
  obtain ⟨look, _, rfl⟩ := List.mem_map.mp mem
  rfl

end Sampling

/-- Right before each press all the points have been looked at, one after the
other. -/
def LooksFirst (points : List (String × Spot)) (log : List Deed) : Prop :=
  ∀ earlier key result later, log = earlier ++ .pressed key result :: later →
    ∃ before sampling, earlier = before ++ Sampling.deeds sampling ∧ sampling.points = points

/-- The latest press has sent its key, and the baselines tell what was seen right
before it. -/
def Fresh (points : List (String × Spot)) (log : List Deed) (baselines : Baselines) : Prop :=
  ∃ before sampling key later,
    log = before ++ Sampling.deeds sampling ++ .pressed key (.ok (.ok ())) :: later ∧
      (∀ deed ∈ later, deed.isPress = false) ∧ sampling.points = points ∧
      sampling.KeptIn baselines

section

variable {points : List (String × Spot)} {log more : List Deed}

theorem countP_isSent_eq_zero (pressless : ∀ deed ∈ more, deed.isPress = false) :
    more.countP Deed.isSent = 0 := by
  rw [List.countP_eq_zero]
  intro deed mem
  have other := pressless deed mem
  cases deed with
  | looked spot result => simp [Deed.isSent]
  | pressed key result => contradiction

theorem looksFirst_of_pressless (pressless : ∀ deed ∈ log, deed.isPress = false) :
    LooksFirst points log := by
  rintro earlier key result later rfl
  have other := pressless (.pressed key result) (by simp)
  contradiction

theorem LooksFirst.append (looks_first : LooksFirst points log)
    (pressless : ∀ deed ∈ more, deed.isPress = false) : LooksFirst points (log ++ more) := by
  intro earlier key result later split_eq
  have absent : Deed.pressed key result ∉ more := fun mem => by
    have other := pressless _ mem
    contradiction
  rcases List.append_eq_append_iff.mp split_eq with ⟨rest, _, more_eq⟩ | ⟨rest, log_eq, rest_eq⟩
  · rw [more_eq] at absent
    simp at absent
  · cases rest with
    | nil =>
        rw [List.nil_append] at rest_eq
        rw [← rest_eq] at absent
        simp at absent
    | cons deed rest =>
        obtain ⟨rfl, _⟩ := List.cons_eq_cons.mp rest_eq
        exact looks_first earlier key result rest log_eq

/-- A press may be added after all the points have been looked at. -/
theorem LooksFirst.press {sampling : Sampling} (looks_first : LooksFirst points log)
    (all : sampling.points = points) (key : Chord)
    (result : Except Crash (Except PressError Unit)) :
    LooksFirst points (log ++ sampling.deeds ++ [.pressed key result]) := by
  have looked : LooksFirst points (log ++ sampling.deeds) :=
    looks_first.append fun deed mem => Sampling.isPress_of_mem_deeds mem
  intro earlier other other_result later split_eq
  rcases List.append_eq_append_iff.mp split_eq with ⟨rest, earlier_eq, one⟩ | ⟨rest, log_eq, one⟩
  · cases rest with
    | nil =>
        rw [List.append_nil] at earlier_eq
        exact ⟨log, sampling, earlier_eq, all⟩
    | cons deed rest => simp at one
  · cases rest with
    | nil =>
        rw [List.append_nil] at log_eq
        exact ⟨log, sampling, log_eq.symm, all⟩
    | cons deed rest =>
        obtain ⟨rfl, _⟩ := List.cons_eq_cons.mp one
        exact looked earlier other other_result rest log_eq

theorem Fresh.append {baselines : Baselines} (fresh : Fresh points log baselines)
    (pressless : ∀ deed ∈ more, deed.isPress = false) : Fresh points (log ++ more) baselines := by
  obtain ⟨before, sampling, key, later, rfl, quiet, all, kept⟩ := fresh
  refine ⟨before, sampling, key, later ++ more, by simp, ?_, all, kept⟩
  intro deed mem
  exact (List.mem_append.mp mem).elim (quiet deed) (pressless deed)

end

/-! ## What parts of a step leave behind -/

/-- The part of a session that presses and retries are about. -/
structure Ledger where
  store : Store
  baselines : Baselines
  log : List Deed

namespace Ledger

/-- The ledger with another store. -/
def withStore (ledger : Ledger) (store : Store) : Ledger :=
  { ledger with store }

/-- The ledger after more has been done. -/
def after (ledger : Ledger) (deeds : List Deed) : Ledger :=
  { ledger with log := ledger.log ++ deeds }

end Ledger

/-- The ledger of a session with a record. -/
def Session.ledger (s : Session (Recorded σ)) : Ledger :=
  ⟨s.store, s.baselines, s.log⟩

namespace Live

variable {s s' : Session (Recorded σ)}

theorem ledger_of_sample {rig : Rig σ} {spot : Spot} {found : Observed Color}
    (ends : (sample rig.recorded spot).Ends s found s') :
    s'.ledger = s.ledger.after [.looked spot (.ok found)] := by
  unfold Ends at ends
  rw [run_sample] at ends
  obtain ⟨result_eq, rfl⟩ := Prod.mk.inj ends
  have result_eq : (rig.sample spot s.now s.equipment.1).1 = .ok found := result_eq
  rw [← result_eq]
  rfl

theorem ledger_of_press {rig : Rig σ} {key : Chord} {sent : Except PressError Unit}
    (ends : (press rig.recorded key).Ends s sent s') :
    s'.ledger = s.ledger.after [.pressed key (.ok sent)] := by
  unfold Ends at ends
  rw [run_press] at ends
  obtain ⟨result_eq, rfl⟩ := Prod.mk.inj ends
  have result_eq : (rig.press key s.equipment.1).1 = .ok sent := result_eq
  rw [← result_eq]
  rfl

theorem ledger_of_change {f : Store → Nat → Store.Change α} {a : α}
    (ends : (change f).Ends s a s') :
    a = (f s.ledger.store s.now).result ∧
      s'.ledger = s.ledger.withStore (f s.ledger.store s.now).store := by
  obtain ⟨result_eq, rfl⟩ := Prod.mk.inj ends
  exact ⟨(Except.ok.inj result_eq).symm, rfl⟩

/-- Looks are recorded and change nothing else. -/
theorem ledger_applyAll_looks {rig : Rig σ} {acts : List (Act (Recorded σ))}
    (looking : ∀ act ∈ acts, act.isLook = true) (s : Session (Recorded σ)) :
    ∃ looks, (∀ deed ∈ looks, deed.isPress = false) ∧
      (Act.applyAll rig.recorded s acts).ledger = s.ledger.after looks := by
  induction acts generalizing s with
  | nil => exact ⟨[], by simp, by simp [Act.applyAll, Ledger.after]⟩
  | cons act rest ih =>
      obtain ⟨look, later⟩ := List.forall_mem_cons.mp looking
      cases act with
      | looks spot =>
          obtain ⟨looks, pressless, ledger_eq⟩ :=
            ih later ((Act.looks spot).apply rig.recorded s)
          refine ⟨.looked spot (rig.sample spot s.now s.equipment.1).1 :: looks, ?_, ?_⟩
          · exact List.forall_mem_cons.mpr ⟨rfl, pressless⟩
          · rw [Act.applyAll_cons, ledger_eq, Ledger.after, Ledger.after, List.append_cons]
            rfl
      | presses | equips | operates | remembers | remarks | locks | tells => contradiction

theorem ledger_of_eval {c : Caster σ} {condition : Condition} {found : Evaluation}
    (ends : (c.recorded.eval condition).Ends s found s') :
    ∃ looks, (∀ deed ∈ looks, deed.isPress = false) ∧ s'.ledger = s.ledger.after looks := by
  obtain ⟨acts, result, does, looking⟩ :=
    acts_eval c.recorded.rig s c.recorded.catalogue condition
  obtain ⟨_, rfl⟩ := Prod.mk.inj (does.run.symm.trans ends)
  exact ledger_applyAll_looks looking s

end Live

end Rotation
