import Rotation.Proofs.Cast.Course
import Rotation.Proofs.Condition.Decoding
import Rotation.Proofs.Preset.Validation

/-!
# Completions that require a signal

A node that requires a signal of its completion is given one, or has it derived
from the cast bar of its skill.  Validation finds an error where neither is
possible, with one exception: a start that is shown by a cast bar, but has a
condition of its own, needs no bar, and the completion is left without a signal
if there is none.

An attempt at a node that requires a signal, and has one, succeeds only by
seeing it after its key was pressed.  With the one exception, the attempt rests
for the cast time and succeeds unseen.
-/

namespace Rotation

/-- A skill has a point that shows it being cast. -/
def Catalogue.HasBar (c : Catalogue) (skill : String) : Prop :=
  ∃ own bar, c.skill? skill = some own ∧ own.castBar = some bar ∧ (c.point? bar).isSome = true

namespace Draft

/-! ## Findings without errors -/

/-- A document without errors is a condition. -/
theorem condition_clean {catalogue : Catalogue} {value : Document} {path : String}
    (clean : (condition catalogue value path).diagnostics.hasErrors = false) :
    (condition catalogue value path).value ≠ none := by
  intro missing
  have reports := Condition.reports_decodeAt value path
  unfold condition at clean missing
  rcases decoded : Condition.decodeAt value path with ⟨_ | c, found⟩
  · rw [decoded] at clean reports
    exact Bool.false_ne_true (clean.symm.trans (reports rfl))
  · rw [decoded] at missing
    contradiction

/-- A skill without errors is in the catalogue. -/
theorem skill_clean {catalogue : Catalogue} {id path : String}
    (clean : (skill catalogue id path).diagnostics.hasErrors = false) :
    ∃ own, catalogue.skill? id = some own ∧ (skill catalogue id path).value = some own := by
  unfold skill at clean ⊢
  cases found : catalogue.skill? id with
  | none => simp [found] at clean
  | some own => exact ⟨own, rfl, rfl⟩

/-- The look-up of a bar finds it, or else an error. -/
theorem castBar_cases {catalogue : Catalogue} {id : String} {own : Skill}
    (found : catalogue.skill? id = some own) (path : String) :
    (catalogue.HasBar id ∧ ∃ bar, castBar catalogue (some own) path = ⟨some bar, []⟩) ∨
      (¬catalogue.HasBar id ∧ (castBar catalogue (some own) path).value = none ∧
        (castBar catalogue (some own) path).diagnostics.hasErrors = true) := by
  cases bar : own.castBar with
  | none => simp [castBar, Catalogue.HasBar, found, bar]
  | some point =>
      cases shown : (catalogue.point? point).isSome <;>
        simp [castBar, Catalogue.HasBar, found, bar, shown]

/-! ## Skill nodes -/

/-- A node that requires a signal has none in exactly one case. -/
theorem completion_eq_none_iff {d : Draft} {catalogue : Catalogue} {written : SkillNode}
    {path : String} (clean : (skillNode d catalogue written path).diagnostics.hasErrors = false)
    (requires : written.completion.policy = .requireSignal) :
    (skillNode d catalogue written path).value.completion.condition = none ↔
      written.completion.condition = none ∧ written.start.mode = .castBar ∧
        written.start.condition ≠ none ∧ ¬catalogue.HasBar written.skill := by
  simp only [skillNode, Diagnostics.hasErrors_append, Bool.or_eq_false_iff] at clean ⊢
  obtain ⟨⟨⟨⟨⟨⟨⟨found_clean, _⟩, _⟩, start_clean⟩, _⟩, completion_clean⟩, _⟩, _⟩ := clean
  obtain ⟨own, found, value_eq⟩ := skill_clean found_clean
  rw [value_eq] at start_clean completion_clean ⊢
  unfold completionCondition at completion_clean ⊢
  cases given : written.completion.condition with
  | some value =>
      rw [given] at completion_clean
      simpa using condition_clean completion_clean
  | none =>
      simp only [given, requires, reduceCtorEq, if_false, true_and] at completion_clean ⊢
      by_cases bar_start : written.start.mode = .castBar
      · have start_given : ¬catalogue.HasBar written.skill → written.start.condition ≠ none := by
          intro no_bar start_missing
          rcases castBar_cases found (Pointer.push path "start") with ⟨bar, _⟩ | ⟨_, _, error⟩
          · exact no_bar bar
          · simp [startCondition, start_missing, bar_start, error] at start_clean
        rcases castBar_cases found (Pointer.push path "start") with
          ⟨bar, point, found_eq⟩ | ⟨no_bar, missing, _⟩
        · simp [bar_start, found_eq, bar]
        · simp [bar_start, missing, no_bar, start_given no_bar]
      · simp [bar_start] at completion_clean

/-- Every skill node of a validated preset has been drafted at its place, and
there was no error in it. -/
theorem Compiles.drafted {d : Draft} {catalogue : Catalogue} {p : Preset}
    (compiles : d.Compiles catalogue p) {place : Place} {track : Rotation.Track} {i : Nat}
    {node : Rotation.SkillNode} (there : p.track? place = some track)
    (found : track.nodes[i]? = some (.skill node)) :
    ∃ drafted written path, d.track? place = some drafted ∧
      drafted.nodes[i]? = some (.skill written) ∧
      (skillNode d catalogue written path).diagnostics.hasErrors = false ∧
      node = (skillNode d catalogue written path).value := by
  obtain ⟨drafted, n, path, drafted_there, n_found, n_clean, n_eq⟩ :=
    compiles.node_of_getElem? there found
  cases n with
  | gateway g => contradiction
  | skill written =>
      cases n_eq
      exact ⟨drafted, written, _, drafted_there, n_found, n_clean, rfl⟩

end Draft

/-! ## Attempts -/

open Cast

/-- A success that requires a signal has seen it in the last step, after the
key was pressed in an earlier one. -/
theorem Cast.Caster.Comes.signal_of_success {σ : Type} {c : Caster σ} {node : SkillNode}
    {past : List (Phase × Session σ)} {phase : Phase} {s s' : Session σ} {outcome : Outcome}
    (comes : c.Comes node past phase) (ends : (c.step node phase).Ends s (.finished outcome) s')
    (success : outcome.verdict = .success) (required : node.completion.policy = .requireSignal)
    {signal : Condition} (given : node.completion.condition = some signal) :
    ∃ opened deadline observed t, phase = .completing opened signal deadline observed ∧
      c.Pressed node past opened ∧ (c.eval signal).Ends s (.known true) t := by
  have prepared := comes.prepared
  cases Caster.goes_of_step ends with
  | fails unsuccessful =>
      obtain ⟨_, ⟨⟩, failed⟩ := unsuccessful
      exact absurd success failed
  | begins _ _ _ casts | starts _ casts => contradiction
  | rested =>
      rcases prepared.2 with assumed | missing
      · rw [required] at assumed
        contradiction
      · rw [given] at missing
        contradiction
  | completes _ seen =>
      obtain ⟨pressed, own⟩ := prepared
      cases given.symm.trans own
      exact ⟨_, _, _, _, rfl, pressed, seen⟩
  | assumes _ lenient => exact absurd required lenient

/-- Every node of a validated preset that requires a signal has one, unless it
was drafted without, with a start of its own by a cast bar that its skill does
not have.  With a signal it succeeds only when the signal was seen after the
key was pressed, whatever happens to the session between its steps. -/
theorem signal_of_validate {d : Draft} {catalogue : Catalogue} {p : Preset}
    (valid : (d.validate catalogue).preset = some p) {place : Place} {track : Track} {i : Nat}
    {node : SkillNode} (there : p.track? place = some track)
    (found : track.nodes[i]? = some (.skill node))
    (required : node.completion.policy = .requireSignal) :
    (∃ drafted written, d.track? place = some drafted ∧
        drafted.nodes[i]? = some (.skill written) ∧
        (node.completion.condition = none ↔
          written.completion.condition = none ∧ written.start.mode = .castBar ∧
            written.start.condition ≠ none ∧ ¬catalogue.HasBar written.skill)) ∧
      ∀ signal, node.completion.condition = some signal →
        ∀ {σ : Type} (c : Caster σ) past phase s s' outcome, c.Comes node past phase →
          (c.step node phase).Ends s (.finished outcome) s' → outcome.verdict = .success →
          ∃ opened deadline observed t, phase = .completing opened signal deadline observed ∧
            c.Pressed node past opened ∧ (c.eval signal).Ends s (.known true) t := by
  obtain ⟨drafted, written, path, drafted_there, written_found, clean, rfl⟩ :=
    (Draft.compiles_of_validate valid).drafted there found
  refine ⟨⟨drafted, written, drafted_there, written_found,
    Draft.completion_eq_none_iff clean required⟩, ?_⟩
  intro signal given σ c past phase s s' outcome comes ends success
  exact comes.signal_of_success ends success required given

/-! ## Humming -/

/-- A draft of a single node, whose completion requires a signal. -/
def Draft.humming (start : Draft.Start) (signal : Option Document) : Draft :=
  { id := "choir"
    name := ""
    entryMode := none
    defaultGapMs := 0
    globalTracks := [⟨"song", [.skill
      { id := "hum", skill := "hum", step := 0, gapMs := none, ready := none, start
        completion := ⟨.requireSignal, signal, 1.5⟩
        lock := .standard }]⟩]
    modes := [] }

/-- A hum that is complete when its key has been pressed. -/
def Draft.countedHum : Draft :=
  humming .standard (some (.record
    [("type", .text "skill_metric_ge"), ("skill_id", .text "hum"),
      ("metric", .text "key_sent_ok"), ("count", .integer 1)]))

/-- A hum that starts by a cast bar, but with a condition of its own, and whose
completion has none. -/
def Draft.barredHum : Draft :=
  humming ⟨.castBar, some (.record [("type", .text "const"), ("value", .bool true)]), 600, 1⟩ none

/-- A catalogue in which the hum takes half a second and has no cast bar. -/
def Catalogue.choir : Catalogue :=
  .ofLists [{ Skill.named "hum" with key := some "1", castMs := 500 }] []

/-- A singer who sees nothing and can press every key. -/
def Cast.Caster.blindSinger : Caster Unit :=
  { catalogue := .choir
    rig := {
      sample := fun _ _ _ => (.ok (.error (.because "dark" "")), [], ())
      press := fun _ _ => (.ok (.ok ()), ()) }
    settings := .standard }

/-- A session in which nothing has happened. -/
def Session.quiet : Session Unit :=
  { now := 0, cancelled := false, lock := .free, store := .empty EngineSettings.standard.limits
    baselines := [], bus := .empty, journal := #[], equipment := () }

/-- The outcome of a node that is sung in the quiet. -/
def SkillNode.sung (node : SkillNode) : Option (Except Crash Outcome) :=
  (Caster.blindSinger.runFrom (fun s => s) node 10 .opening .quiet).1

/-- A draft becomes a preset whose first node requires a signal, and succeeds
when it is sung. -/
structure Draft.Hums (d : Draft) (p : Preset) (track : Rotation.Track)
    (node : Rotation.SkillNode) (outcome : Outcome) : Prop where
  valid : (d.validate .choir).preset = some p
  there : p.track? (.global 0) = some track
  found : track.nodes[0]? = some (.skill node)
  required : node.completion.policy = .requireSignal
  ran : node.sung = some (.ok outcome)
  success : outcome.verdict = .success

/-- Whether a draft hums, with or without a signal for the completion. -/
def Draft.hums (d : Draft) (signaled : Bool) : Bool :=
  match (d.validate .choir).preset.bind fun p => p.track? (.global 0) with
  | some ⟨_, .skill node :: _⟩ =>
    node.completion.policy == .requireSignal && node.completion.condition.isSome == signaled &&
      match node.sung with
      | some (.ok outcome) => outcome.verdict == .success
      | _ => false
  | _ => false

theorem Draft.exists_hums {d : Draft} {signaled : Bool} (hums : d.hums signaled = true) :
    ∃ p track node outcome, d.Hums p track node outcome ∧
      node.completion.condition.isSome = signaled := by
  unfold Draft.hums at hums
  split at hums
  · rename_i id node rest found
    obtain ⟨p, valid, there⟩ := Option.bind_eq_some_iff.mp found
    simp only [Bool.and_eq_true, beq_iff_eq] at hums
    obtain ⟨⟨required, signaled_eq⟩, succeeds⟩ := hums
    split at succeeds
    · rename_i outcome ran
      exact ⟨p, _, node, outcome,
        ⟨valid, there, rfl, required, ran, by simpa using succeeds⟩, signaled_eq⟩
    · contradiction
  · contradiction

/-- The signal of a counted hum has been seen when it succeeds. -/
theorem countedHum_is_heard :
    ∃ p track node outcome, Draft.countedHum.Hums p track node outcome ∧
      ∃ signal past opened s t, node.completion.condition = some signal ∧
        Caster.blindSinger.Pressed node past opened ∧
        (Caster.blindSinger.eval signal).Ends s (.known true) t := by
  have checked : Draft.countedHum.hums true = true := by decide +kernel
  obtain ⟨p, track, node, outcome, hums, signaled⟩ := Draft.exists_hums checked
  obtain ⟨signal, given⟩ := Option.isSome_iff_exists.mp signaled
  obtain ⟨past, phase, s, t, comes, ends⟩ := Caster.Comes.exists_of_runFrom .opening hums.ran
  obtain ⟨opened, _, _, u, _, pressed, seen⟩ :=
    (signal_of_validate hums.valid hums.there hums.found hums.required).2 signal given
      .blindSinger past phase s t outcome comes ends hums.success
  exact ⟨p, track, node, outcome, hums, signal, past, opened, s, u, given, pressed, seen⟩

/-- A barred hum goes unheard: nobody misses the cast bar that its start names,
so its completion requires a signal, has none, and succeeds. -/
theorem barredHum_goes_unheard :
    ∃ p track node outcome, Draft.barredHum.Hums p track node outcome ∧
      node.completion.condition = none := by
  have checked : Draft.barredHum.hums false = true := by decide +kernel
  obtain ⟨p, track, node, outcome, hums, silent⟩ := Draft.exists_hums checked
  exact ⟨p, track, node, outcome, hums, by simpa using silent⟩

end Rotation
