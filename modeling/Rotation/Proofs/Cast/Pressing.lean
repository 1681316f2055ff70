import Rotation.Proofs.Attempt.UnderWay
import Rotation.Proofs.Cast.Baselines
import Rotation.Proofs.Cast.Recording

/-!
# Presses, retries and baselines

Whenever an attempt presses its key, it has just looked at every point whose
baseline it keeps.  So while it waits for a signal the baselines are those of the
latest press, and the number of keys sent is one more than that of the retries.
-/

namespace Rotation

open Cast

variable {σ : Type}

/-- Those of some points that a catalogue knows, with their spots. -/
def Catalogue.spots (catalogue : Catalogue) (ids : List String) : List (String × Spot) :=
  ids.filterMap fun id => (catalogue.point? id).map fun point => (id, point.indicator.spot)

namespace Cast

/-- The signal that is waited for in a phase. -/
def Phase.signal? : Phase → Option Condition
  | .starting _ _ signal _ _ | .completing _ signal _ _ => some signal
  | _ => none

namespace Caster

/-- The points whose baselines an attempt keeps, as far as they are known. -/
def watched (c : Caster σ) (node : SkillNode) (opened : Opened) : List (String × Spot) :=
  c.catalogue.spots (baselinePoints node opened.skill)

/-- How many keys an attempt has sent by a stage, since it was begun in a store:
never more than one for each retry and one more, and not fewer once it has started.
Right before each press it has looked at all the points that it watches. -/
structure Presses (c : Caster σ) (node : SkillNode) (first : Store) (opened : Opened)
    (stage : Stage) (retries keys : Nat) (ledger : Ledger) : Prop where
  totals : first.Totals ledger.store opened.attempt opened.skill.id stage retries keys
  sent : ledger.log.countP Deed.isSent = keys
  looks_first : LooksFirst (c.watched node opened) ledger.log
  ascending : ledger.baselines.Ascending
  retries_le : retries ≤ node.start.retries
  keys_le : keys ≤ retries + 1
  started : stage = .casting ∨ stage = .completeWait → keys = retries + 1

/-- What the presses of an attempt have come to in a phase. -/
def Stands (c : Caster σ) (node : SkillNode) (first : Store) (ledger : Ledger) : Phase → Prop
  | .opening | .awaitingLock _ _ =>
    ledger.store = first ∧ ledger.baselines.Ascending ∧ ∀ deed ∈ ledger.log, deed.isPress = false
  | .launching opened => c.Presses node first opened .preparing 0 0 ledger
  | .starting opened _ signal _ retries =>
    c.Presses node first opened .startWait retries (retries + 1) ledger ∧
      node.start.condition = some signal ∧
      Fresh (c.watched node opened) ledger.log ledger.baselines
  | .resting opened => ∃ retries keys, c.Presses node first opened .completeWait retries keys ledger
  | .completing opened signal _ _ =>
    (∃ retries keys, c.Presses node first opened .completeWait retries keys ledger) ∧
      node.completion.condition = some signal ∧
      Fresh (c.watched node opened) ledger.log ledger.baselines

/-- An attempt has been closed for a reason, and its presses had come to something
in the store before.  The start has timed out only if no retry was left, and the keys
that have been counted for each skill are those that the attempt has sent. -/
def Concludes (c : Caster σ) (node : SkillNode) (first : Store) (opened : Opened)
    (reason : Option String) (ledger : Ledger) : Prop :=
  ∃ before last time stage retries keys,
    ledger.store = (Store.finish before opened.attempt last reason time).store ∧
      c.Presses node first opened stage retries keys (ledger.withStore before) ∧
      (reason = some "start_timeout" → retries = node.start.retries) ∧
      ∀ k, ledger.store.metric k .keySent =
        first.metric k .keySent + if k = opened.skill.id then keys else 0

/-- What the presses of an attempt, if it has been opened, have come to when it goes
on in some way. -/
def Arrives (c : Caster σ) (node : SkillNode) (first : Store) (own : Option Opened)
    (ledger : Ledger) : Next → Prop
  | .proceed phase | .sleep _ phase | .await _ phase => c.Stands node first ledger phase
  | .finished outcome => ∀ id, outcome.attempt = some id → ∃ opened, own = some opened ∧
      opened.attempt = id ∧ c.Concludes node first opened outcome.reason ledger

open Live

variable {c : Caster σ} {node : SkillNode} {first : Store} {opened : Opened} {stage : Stage}
  {own : Option Opened} {retries keys : Nat} {ledger : Ledger} {s s' : Session (Recorded σ)}
  {next : Next}

theorem Presses.look (presses : c.Presses node first opened stage retries keys ledger)
    {looks : List Deed} (pressless : ∀ deed ∈ looks, deed.isPress = false) :
    c.Presses node first opened stage retries keys (ledger.after looks) where
  totals := presses.totals
  sent := by
    rw [Ledger.after, List.countP_append, presses.sent, countP_isSent_eq_zero pressless,
      Nat.add_zero]
  looks_first := presses.looks_first.append pressless
  ascending := presses.ascending
  retries_le := presses.retries_le
  keys_le := presses.keys_le
  started := presses.started

/-! ## Sending a key -/

/-- The baselines of some points have been recorded for an attempt, by one look at
each of them that is known. -/
structure Rebases (c : Caster σ) (first : Store) (opened : Opened) (stage : Stage)
    (retries keys : Nat) (ids : List String) (before after : Ledger) : Prop where
  sampled : ∃ sampling : Sampling, sampling.points = c.catalogue.spots ids ∧
    after.log = before.log ++ sampling.deeds ∧ sampling.KeptIn after.baselines
  totals : first.Totals after.store opened.attempt opened.skill.id stage retries keys
  ascending : after.baselines.Ascending
  others : ∀ id, id ∉ ids →
    Order.Table.find? id after.baselines = Order.Table.find? id before.baselines

theorem fst_mem_of_mem_spots {catalogue : Catalogue} {ids : List String} {point : String × Spot}
    (mem : point ∈ catalogue.spots ids) : point.1 ∈ ids := by
  obtain ⟨id, id_mem, found⟩ := List.mem_filterMap.mp mem
  obtain ⟨_, _, rfl⟩ := Option.map_eq_some_iff.mp found
  exact id_mem

/-- What was seen of a point is kept while the baselines of others are recorded. -/
theorem Rebases.trans {ids more : List String} {before between after : Ledger}
    (rebases : c.Rebases first opened stage retries keys ids before between)
    (later : c.Rebases first opened stage retries keys more between after)
    (apart : ∀ id ∈ ids, id ∉ more) :
    c.Rebases first opened stage retries keys (ids ++ more) before after where
  sampled := by
    obtain ⟨sampling, points_eq, log_eq, kept⟩ := rebases.sampled
    obtain ⟨others, others_eq, later_eq, others_kept⟩ := later.sampled
    refine ⟨sampling ++ others, ?_, ?_, ?_⟩
    · rw [Sampling.points, List.map_append, Catalogue.spots, List.filterMap_append]
      exact congrArg₂ _ points_eq others_eq
    · rw [later_eq, log_eq, List.append_assoc, Sampling.deeds_append]
    · intro look mem
      rcases List.mem_append.mp mem with own | other
      · have point_mem : look.1 ∈ c.catalogue.spots ids := points_eq ▸ List.mem_map_of_mem own
        rw [later.others _ (apart _ (fst_mem_of_mem_spots point_mem))]
        exact kept look own
      · exact others_kept look other
  totals := later.totals
  ascending := later.ascending
  others id absent := by
    rw [List.mem_append, not_or] at absent
    exact (later.others id absent.2).trans (rebases.others id absent.1)

/-- The colour of a known point is recorded, or the old one is forgotten. -/
theorem rebases_of_recordBaseline {id : String}
    (totals : first.Totals s.store opened.attempt opened.skill.id stage retries keys)
    (ascending : s.baselines.Ascending)
    (ends : (c.recorded.recordBaseline opened id).Ends s () s') :
    c.Rebases first opened stage retries keys [id] s.ledger s'.ledger := by
  unfold recordBaseline at ends
  rw [catalogue_recorded] at ends
  split at ends
  · rename_i unknown
    obtain ⟨_, rfl⟩ := ends_pure_iff.mp ends
    exact ⟨⟨[], by simp [Catalogue.spots, unknown, Sampling.points],
      by simp [Sampling.deeds], by simp [Sampling.KeptIn]⟩, totals, ascending, fun _ _ => rfl⟩
  · rename_i point known
    obtain ⟨found, t, sampled, ends⟩ := ends_bind_iff.mp ends
    have looked := ledger_of_sample sampled
    have spots_eq : Sampling.points [((id, point.indicator.spot), found)] =
        c.catalogue.spots [id] := by
      simp [Sampling.points, Catalogue.spots, known]
    have store_eq : t.store = s.store := congrArg Ledger.store looked
    have baselines_eq : t.baselines = s.baselines := congrArg Ledger.baselines looked
    have log_eq : t.log = s.log ++ Sampling.deeds [((id, point.indicator.spot), found)] :=
      congrArg Ledger.log looked
    rw [← store_eq] at totals
    rw [← baselines_eq] at ascending
    cases found with
    | ok color =>
        obtain ⟨_, rfl⟩ := Prod.mk.inj ends
        refine ⟨⟨_, spots_eq, log_eq, ?_⟩, totals, ?_, ?_⟩
        · rintro look mem
          cases List.mem_singleton.mp mem
          exact Order.Table.find?_insert_self ..
        · exact Order.Table.ascending_insert ascending id color
        · intro other absent
          have differs : other ≠ id := by simpa using absent
          exact (Order.Table.find?_insert_of_ne differs color t.baselines).trans
            (congrArg _ baselines_eq)
    | error u =>
        obtain ⟨_, r, forgotten, ends⟩ := ends_bind_iff.mp ends
        obtain ⟨_, rfl⟩ := Prod.mk.inj forgotten
        obtain ⟨_, _, noted, ends⟩ := ends_bind_iff.mp ends
        obtain ⟨_, rfl⟩ := ends_pure_iff.mp ends
        obtain ⟨_, ledger_eq⟩ := ledger_of_change noted
        rw [ledger_eq]
        refine ⟨⟨_, spots_eq, log_eq, ?_⟩, ?_, ?_, ?_⟩
        · rintro look mem
          cases List.mem_singleton.mp mem
          exact Order.Table.find?_erase_self ascending id
        · exact totals.note _ _ _
        · exact Order.Table.ascending_erase ascending id
        · intro other absent
          have differs : other ≠ id := by simpa using absent
          exact (Order.Table.find?_erase_of_ne differs t.baselines).trans
            (congrArg _ baselines_eq)

theorem rebases_of_recordBaselines {ids : List String} (nodup : ids.Nodup)
    (totals : first.Totals s.store opened.attempt opened.skill.id stage retries keys)
    (ascending : s.baselines.Ascending)
    (ends : (c.recorded.recordBaselines opened ids).Ends s () s') :
    c.Rebases first opened stage retries keys ids s.ledger s'.ledger := by
  induction ids generalizing s with
  | nil =>
      obtain ⟨_, rfl⟩ := ends_pure_iff.mp ends
      exact ⟨⟨[], rfl, by simp [Sampling.deeds], by simp [Sampling.KeptIn]⟩, totals, ascending,
        fun _ _ => rfl⟩
  | cons id rest ih =>
      obtain ⟨absent, rest_nodup⟩ := List.nodup_cons.mp nodup
      obtain ⟨_, t, recorded, ends⟩ := ends_bind_iff.mp ends
      have rebases := rebases_of_recordBaseline totals ascending recorded
      have later := ih rest_nodup rebases.totals rebases.ascending ends
      exact rebases.trans later fun other mem => List.mem_singleton.mp mem ▸ absent

/-- No point is recorded twice. -/
theorem nodup_baselinePoints (node : SkillNode) (skill : Skill) :
    (baselinePoints node skill).Nodup := by
  unfold baselinePoints
  have bar_nodup : (if node.start.mode = .castBar then skill.castBar.toList else []).Nodup := by
    split
    · cases skill.castBar <;> simp
    · exact List.nodup_nil
  refine List.foldlRecOn _ _ bar_nodup ?_
  intro points nodup point _
  split
  · exact nodup
  · rename_i absent
    have fresh : point ∉ points := by simpa using absent
    rw [List.nodup_append]
    refine ⟨nodup, List.nodup_singleton point, ?_⟩
    rintro other mem _ own rfl
    exact fresh (List.mem_singleton.mp own ▸ mem)

/-- A press, be it in vain, comes right after the looks at all the points that are
watched. -/
theorem Presses.press {between : Ledger} {key : Chord} {result : Except PressError Unit}
    {store : Store} {total : Nat} (presses : c.Presses node first opened stage retries keys ledger)
    (rebases : c.Rebases first opened stage retries keys (baselinePoints node opened.skill) ledger
      between)
    (unstarted : ¬(stage = .casting ∨ stage = .completeWait))
    (totals : first.Totals store opened.attempt opened.skill.id stage retries total)
    (sent : keys + [Deed.pressed key (.ok result)].countP Deed.isSent = total)
    (left : total ≤ retries + 1) :
    c.Presses node first opened stage retries total
      ((between.after [.pressed key (.ok result)]).withStore store) := by
  obtain ⟨sampling, points_eq, log_eq, _⟩ := rebases.sampled
  have looked : sampling.deeds.countP Deed.isSent = 0 :=
    countP_isSent_eq_zero fun deed mem => Sampling.isPress_of_mem_deeds mem
  constructor
  · exact totals
  · change (between.log ++ [_]).countP Deed.isSent = total
    rw [log_eq, List.countP_append, List.countP_append, looked, presses.sent, Nat.add_zero]
    exact sent
  · change LooksFirst _ (between.log ++ [_])
    rw [log_eq]
    exact presses.looks_first.press points_eq key (.ok result)
  · exact rebases.ascending
  · exact presses.retries_le
  · exact left
  · exact fun started => absurd started unstarted

/-- An attempt that sends its key looks at all the points that it watches right
before, and keeps what it has seen. -/
theorem presses_of_send {key : Chord} {result : Except PressError Unit}
    (presses : c.Presses node first opened stage retries keys s.ledger) (left : keys ≤ retries)
    (unstarted : ¬(stage = .casting ∨ stage = .completeWait))
    (ends : (c.recorded.send node opened key).Ends s result s') :
    (result = .ok () ∧ c.Presses node first opened stage retries (keys + 1) s'.ledger ∧
        Fresh (c.watched node opened) s'.ledger.log s'.ledger.baselines) ∨
      ∃ e, result = .error e ∧ c.Presses node first opened stage retries keys s'.ledger := by
  unfold send at ends
  obtain ⟨_, t, recorded, ends⟩ := ends_bind_iff.mp ends
  have rebases := rebases_of_recordBaselines (nodup_baselinePoints node opened.skill)
    presses.totals presses.ascending recorded
  obtain ⟨sent, u, pressed, ends⟩ := ends_bind_iff.mp ends
  have pressed_eq := ledger_of_press pressed
  cases sent with
  | ok _ =>
      obtain ⟨_, _, counted, ends⟩ := ends_bind_iff.mp ends
      obtain ⟨rfl, rfl⟩ := ends_pure_iff.mp ends
      obtain ⟨_, ledger_eq⟩ := ledger_of_change counted
      rw [ledger_eq, pressed_eq]
      refine .inl ⟨rfl, ?_, ?_⟩
      · exact presses.press rebases unstarted (rebases.totals.keySent _) rfl
          (Nat.succ_le_succ left)
      · obtain ⟨sampling, points_eq, log_eq, kept⟩ := rebases.sampled
        exact ⟨s.log, sampling, key, [], congrArg (· ++ _) log_eq, by simp, points_eq, kept⟩
  | error e =>
      obtain ⟨rfl, rfl⟩ := ends_pure_iff.mp ends
      rw [pressed_eq]
      exact .inr ⟨e, rfl, presses.press rebases unstarted rebases.totals rfl presses.keys_le⟩

/-! ## The end of an attempt -/

/-- An attempt is closed by finishing it in the store. -/
theorem ledger_of_close {last : Stage} {reason : Option String}
    (ends : (close node opened last reason).Ends s next s') :
    ∃ outcome, next = .finished outcome ∧ outcome.attempt = some opened.attempt ∧
      outcome.reason = reason ∧ s'.ledger =
        s.ledger.withStore (s.ledger.store.finish opened.attempt last reason s.now).store := by
  unfold close at ends
  obtain ⟨_, t, finished, ends⟩ := ends_bind_iff.mp ends
  obtain ⟨_, _, ⟨⟩, ends⟩ := ends_bind_iff.mp ends
  obtain ⟨_, ledger_eq⟩ := ledger_of_change finished
  cases last
  all_goals
    obtain ⟨_, _, ⟨⟩, ends⟩ := ends_bind_iff.mp ends
    obtain ⟨rfl, rfl⟩ := ends_pure_iff.mp ends
    exact ⟨_, rfl, rfl, rfl, ledger_eq⟩

/-- An attempt may be closed at any time, but for the time-out of its start only
after its last retry. -/
theorem arrives_of_close {last : Stage} {reason : Option String}
    (presses : c.Presses node first opened stage retries keys s.ledger)
    (spent : reason = some "start_timeout" → retries = node.start.retries)
    (ends : (close node opened last reason).Ends s next s') :
    c.Arrives node first (some opened) s'.ledger next := by
  obtain ⟨outcome, rfl, attempt, rfl, ledger_eq⟩ := ledger_of_close ends
  intro id named
  rw [attempt] at named
  rw [ledger_eq]
  refine ⟨opened, rfl, Option.some.inj named, s.ledger.store, last, s.now, stage, retries, keys,
    rfl, presses, spent, ?_⟩
  exact fun k => (Store.keySent_finish ..).trans (presses.totals.counted k)

/-! ## Steps before the attempt is opened -/

theorem arrives_of_skip {reason : String} {advance : Bool}
    (ends : (c.recorded.skip node reason advance).Ends s next s') :
    c.Arrives node first own s'.ledger next := by
  unfold skip at ends
  replace ends := ends_session_bind_iff.mp ends
  obtain ⟨_, _, _, ends⟩ := ends_bind_iff.mp ends
  obtain ⟨rfl, _⟩ := ends_pure_iff.mp ends
  intro id named
  contradiction

theorem arrives_of_refused {why : Contention}
    (ends : (c.recorded.refused node why).Ends s next s') :
    c.Arrives node first own s'.ledger next := by
  unfold refused at ends
  split at ends
  · obtain ⟨rfl, _⟩ := ends_pure_iff.mp ends
    intro id named
    contradiction
  · exact arrives_of_skip ends

/-- An attempt that is opened has sent no key. -/
theorem arrives_of_openAttempt {skill : Skill} {lock : CastLock} (linked : first.Linked)
    (stands : c.Stands node first s.ledger .opening)
    (ends : (openAttempt node skill lock).Ends s next s') :
    c.Arrives node first own s'.ledger next := by
  obtain ⟨store_eq, ascending, pressless⟩ := stands
  unfold openAttempt at ends
  obtain ⟨_, t, locked, ends⟩ := ends_bind_iff.mp ends
  obtain ⟨_, rfl⟩ := Prod.mk.inj locked
  obtain ⟨id, _, begun, ends⟩ := ends_bind_iff.mp ends
  obtain ⟨rfl, rfl⟩ := ends_pure_iff.mp ends
  obtain ⟨rfl, ledger_eq⟩ := ledger_of_change begun
  rw [← store_eq] at linked ⊢
  rw [ledger_eq]
  constructor
  · exact linked.totals_begin skill.id node.id s.now
  · exact countP_isSent_eq_zero pressless
  · exact looksFirst_of_pressless pressless
  · exact ascending
  · exact Nat.zero_le _
  · exact Nat.zero_le _
  · intro started
    simp at started

theorem arrives_of_enter {skill : Skill} (linked : first.Linked)
    (stands : c.Stands node first s.ledger .opening)
    (ends : (c.recorded.enter node skill).Ends s next s') :
    c.Arrives node first own s'.ledger next := by
  unfold enter at ends
  replace ends := ends_session_bind_iff.mp ends
  split at ends
  · obtain ⟨rfl, rfl⟩ := ends_pure_iff.mp ends
    exact stands
  · split at ends
    · exact arrives_of_openAttempt linked stands ends
    · exact arrives_of_refused ends

theorem arrives_of_begin (linked : first.Linked)
    (stands : c.Stands node first s.ledger .opening)
    (ends : (c.recorded.begin node).Ends s next s') : c.Arrives node first own s'.ledger next := by
  unfold begin at ends
  split at ends
  · exact arrives_of_skip ends
  · split at ends
    · exact arrives_of_skip ends
    · obtain ⟨found, t, seen, ends⟩ := ends_bind_iff.mp ends
      obtain ⟨looks, pressless, ledger_eq⟩ := ledger_of_eval seen
      split at ends
      · refine arrives_of_enter linked ?_ ends
        rw [ledger_eq]
        obtain ⟨store_eq, ascending, before⟩ := stands
        exact ⟨store_eq, ascending, fun deed mem =>
          (List.mem_append.mp mem).elim (before deed) (pressless deed)⟩
      · exact arrives_of_skip ends
      · exact arrives_of_skip ends

theorem arrives_of_awaitLock {skill : Skill} {deadline : Nat} (linked : first.Linked)
    (stands : c.Stands node first s.ledger (.awaitingLock skill deadline))
    (ends : (c.recorded.awaitLock node skill deadline).Ends s next s') :
    c.Arrives node first own s'.ledger next := by
  unfold awaitLock at ends
  replace ends := ends_session_bind_iff.mp ends
  split at ends
  · exact arrives_of_openAttempt linked stands ends
  · exact arrives_of_refused ends
  · obtain ⟨rfl, rfl⟩ := ends_pure_iff.mp ends
    exact stands

/-! ## Steps of an attempt under way -/

theorem Presses.note (presses : c.Presses node first opened stage retries keys ledger)
    (kind : String) (detail : Option String) (time : Nat) :
    c.Presses node first opened stage retries keys
      (ledger.withStore (ledger.store.note opened.attempt kind detail time).store) :=
  { presses with totals := presses.totals.note kind detail time }

theorem Presses.retry (presses : c.Presses node first opened .startWait retries keys ledger)
    (left : retries < node.start.retries) (time : Nat) :
    c.Presses node first opened .startWait (retries + 1) keys
      (ledger.withStore (ledger.store.retry opened.attempt time).store) where
  totals := presses.totals.retry time
  sent := presses.sent
  looks_first := presses.looks_first
  ascending := presses.ascending
  retries_le := left
  keys_le := Nat.le_succ_of_le presses.keys_le
  started := by simp

/-- An attempt starts when it has sent one key more than it has been retried. -/
theorem Presses.transition (presses : c.Presses node first opened stage retries keys ledger)
    (later : Stage) (ongoing : later.isTerminal = false)
    (started : later = .casting ∨ later = .completeWait → keys = retries + 1) (time : Nat) :
    c.Presses node first opened later retries keys
      (ledger.withStore (ledger.store.transition opened.attempt later time).store) :=
  { presses with totals := presses.totals.transition ongoing time, started }

/-- Neither stage of a cast touches what was recorded before the latest press. -/
theorem arrives_of_enterCasting
    (presses : c.Presses node first opened .startWait retries (retries + 1) s.ledger)
    (fresh : Fresh (c.watched node opened) s.ledger.log s.ledger.baselines)
    (ends : (c.recorded.enterCasting node opened).Ends s next s') :
    c.Arrives node first (some opened) s'.ledger next := by
  unfold enterCasting at ends
  obtain ⟨_, t, cast, ends⟩ := ends_bind_iff.mp ends
  obtain ⟨_, u, waits, ends⟩ := ends_bind_iff.mp ends
  obtain ⟨_, cast_eq⟩ := ledger_of_change cast
  obtain ⟨_, waits_eq⟩ := ledger_of_change waits
  have casting := presses.transition .casting rfl (fun _ => rfl) s.now
  rw [← cast_eq] at casting
  have waiting := casting.transition .completeWait rfl (fun _ => rfl) t.now
  rw [← waits_eq] at waiting
  have still_fresh : Fresh (c.watched node opened) u.ledger.log u.ledger.baselines := by
    rw [waits_eq, cast_eq]
    exact fresh
  split at ends
  · obtain ⟨rfl, rfl⟩ := ends_pure_iff.mp ends
    exact ⟨retries, _, waiting⟩
  · obtain ⟨rfl, rfl⟩ := ends_pure_iff.mp ends
    exact ⟨retries, _, waiting⟩
  · rename_i signal given _
    replace ends := ends_session_bind_iff.mp ends
    obtain ⟨rfl, rfl⟩ := ends_pure_iff.mp ends
    exact ⟨⟨retries, _, waiting⟩, given, still_fresh⟩

/-- Why a key was not sent is no time-out. -/
theorem code_ne_start_timeout (e : PressError) : some e.code ≠ some "start_timeout" := by
  cases e <;> simp [PressError.code]

theorem arrives_of_launch (presses : c.Presses node first opened .preparing 0 0 s.ledger)
    (ends : (c.recorded.launch node opened).Ends s next s') :
    c.Arrives node first (some opened) s'.ledger next := by
  unfold launch at ends
  replace ends := ends_session_bind_iff.mp ends
  split at ends
  · exact arrives_of_close presses (by simp) ends
  split at ends
  · rename_i e _
    exact arrives_of_close presses (fun late => absurd late (code_ne_start_timeout e)) ends
  rename_i key bound
  obtain ⟨result, t, sent, ends⟩ := ends_bind_iff.mp ends
  rcases presses_of_send presses (Nat.le_refl 0) (by simp) sent with
    ⟨rfl, pressed, fresh⟩ | ⟨e, rfl, unpressed⟩
  · obtain ⟨_, u, waits, ends⟩ := ends_bind_iff.mp ends
    obtain ⟨_, waits_eq⟩ := ledger_of_change waits
    have waiting := pressed.transition .startWait rfl (by simp) t.now
    rw [← waits_eq] at waiting
    have still_fresh : Fresh (c.watched node opened) u.ledger.log u.ledger.baselines := by
      rw [waits_eq]
      exact fresh
    split at ends
    · exact arrives_of_enterCasting waiting still_fresh ends
    · rename_i signal given
      replace ends := ends_session_bind_iff.mp ends
      obtain ⟨rfl, rfl⟩ := ends_pure_iff.mp ends
      exact ⟨waiting, given, still_fresh⟩
  · obtain ⟨_, u, remarked, ends⟩ := ends_bind_iff.mp ends
    have same : u.ledger = t.ledger := by
      obtain ⟨_, rfl⟩ := Prod.mk.inj remarked
      rfl
    rw [← same] at unpressed
    exact arrives_of_close unpressed (fun late => absurd late (code_ne_start_timeout e)) ends

/-- The key is pressed once more if a retry is left. -/
theorem arrives_of_pressAgain {key : Chord} {signal : Condition}
    (presses : c.Presses node first opened .startWait retries (retries + 1) s.ledger)
    (given : node.start.condition = some signal)
    (ends : (c.recorded.pressAgain node opened key signal retries).Ends s next s') :
    c.Arrives node first (some opened) s'.ledger next := by
  unfold pressAgain at ends
  split at ends
  · rename_i spent
    exact arrives_of_close presses (fun _ => Nat.le_antisymm presses.retries_le spent) ends
  · rename_i left
    obtain ⟨_, t, retried, ends⟩ := ends_bind_iff.mp ends
    obtain ⟨_, retried_eq⟩ := ledger_of_change retried
    have again := presses.retry (Nat.lt_of_not_le left) s.now
    rw [← retried_eq] at again
    obtain ⟨result, u, sent, ends⟩ := ends_bind_iff.mp ends
    rcases presses_of_send again (Nat.le_refl _) (by simp) sent with
      ⟨rfl, pressed, fresh⟩ | ⟨e, rfl, unpressed⟩
    · replace ends := ends_session_bind_iff.mp ends
      obtain ⟨rfl, rfl⟩ := ends_pure_iff.mp ends
      exact ⟨pressed, given, fresh⟩
    · exact arrives_of_close unpressed (fun late => absurd late (code_ne_start_timeout e)) ends

theorem arrives_of_awaitStart {key : Chord} {signal : Condition} {deadline : Nat}
    (stands : c.Stands node first s.ledger (.starting opened key signal deadline retries))
    (ends : (c.recorded.awaitStart node opened key signal deadline retries).Ends s next s') :
    c.Arrives node first (some opened) s'.ledger next := by
  obtain ⟨presses, given, fresh⟩ := stands
  unfold awaitStart at ends
  replace ends := ends_session_bind_iff.mp ends
  split at ends
  · exact arrives_of_close presses (by simp) ends
  obtain ⟨found, t, seen, ends⟩ := ends_bind_iff.mp ends
  obtain ⟨looks, pressless, ledger_eq⟩ := ledger_of_eval seen
  have looked := presses.look pressless
  have still_fresh := fresh.append pressless
  rw [← ledger_eq] at looked
  split at ends
  · refine arrives_of_enterCasting looked ?_ ends
    rw [ledger_eq]
    exact still_fresh
  · replace ends := ends_session_bind_iff.mp ends
    dsimp only at ends
    split at ends
    · exact arrives_of_pressAgain looked given ends
    · obtain ⟨rfl, rfl⟩ := ends_pure_iff.mp ends
      refine ⟨looked, given, ?_⟩
      rw [ledger_eq]
      exact still_fresh

theorem arrives_of_finishResting
    (presses : c.Presses node first opened stage retries keys s.ledger)
    (ends : (finishResting node opened).Ends s next s') :
    c.Arrives node first (some opened) s'.ledger next := by
  unfold finishResting at ends
  replace ends := ends_session_bind_iff.mp ends
  split at ends
  · exact arrives_of_close presses (by simp) ends
  · exact arrives_of_close presses (by simp) ends

theorem arrives_of_finishUnseen {observed : Bool}
    (presses : c.Presses node first opened stage retries keys s.ledger)
    (ends : (finishUnseen node opened observed).Ends s next s') :
    c.Arrives node first (some opened) s'.ledger next := by
  rw [finishUnseen_eq] at ends
  split at ends
  · exact arrives_of_close presses (by simp) ends
  · obtain ⟨_, t, noted, ends⟩ := ends_bind_iff.mp ends
    obtain ⟨_, noted_eq⟩ := ledger_of_change noted
    have assumed := presses.note "COMPLETION_ASSUMED" none s.now
    rw [← noted_eq] at assumed
    exact arrives_of_close assumed (by simp) ends

theorem arrives_of_awaitCompletion {signal : Condition} {deadline : Nat} {observed : Bool}
    (stands : c.Stands node first s.ledger (.completing opened signal deadline observed))
    (ends : (c.recorded.awaitCompletion node opened signal deadline observed).Ends s next s') :
    c.Arrives node first (some opened) s'.ledger next := by
  obtain ⟨⟨retries, keys, presses⟩, given, fresh⟩ := stands
  unfold awaitCompletion at ends
  replace ends := ends_session_bind_iff.mp ends
  split at ends
  · exact arrives_of_close presses (by simp) ends
  obtain ⟨found, t, seen, ends⟩ := ends_bind_iff.mp ends
  obtain ⟨looks, pressless, ledger_eq⟩ := ledger_of_eval seen
  have looked := presses.look pressless
  rw [← ledger_eq] at looked
  split at ends
  · exact arrives_of_close looked (by simp) ends
  · replace ends := ends_session_bind_iff.mp ends
    dsimp only at ends
    split at ends
    · exact arrives_of_finishUnseen looked ends
    · obtain ⟨rfl, rfl⟩ := ends_pure_iff.mp ends
      refine ⟨⟨retries, keys, looked⟩, given, ?_⟩
      rw [ledger_eq]
      exact fresh.append pressless

/-- A step that comes to an end leaves the presses as they have to be. -/
theorem arrives_of_step {phase : Phase} (linked : first.Linked)
    (stands : c.Stands node first s.ledger phase)
    (ends : (c.recorded.step node phase).Ends s next s') :
    c.Arrives node first phase.opened? s'.ledger next := by
  cases phase with
  | opening => exact arrives_of_begin linked stands ends
  | awaitingLock skill deadline => exact arrives_of_awaitLock linked stands ends
  | launching opened => exact arrives_of_launch stands (ends_of_holding ends)
  | starting opened key signal deadline retries =>
      exact arrives_of_awaitStart stands (ends_of_holding ends)
  | resting opened =>
      obtain ⟨retries, keys, presses⟩ := stands
      exact arrives_of_finishResting presses (ends_of_holding ends)
  | completing opened signal deadline observed =>
      exact arrives_of_awaitCompletion stands (ends_of_holding ends)

/-! ## Whole attempts -/

theorem Arrives.stands {phase : Phase} (arrives : c.Arrives node first own ledger next)
    (on : next.phase? = some phase) : c.Stands node first ledger phase := by
  cases next with
  | proceed later | sleep ms later | await ms later =>
      cases on
      exact arrives
  | finished outcome => contradiction

theorem ledger_stir (shared : Shared σ) (stir : Stir σ) (log : List Deed) :
    ((shared.stir stir).1.noting log).ledger = (shared.1.noting log).ledger := by
  cases stir with
  | take owner =>
      rw [Shared.stir]
      split <;> rfl
  | letGo =>
      rw [Shared.stir]
      split <;> rfl
  | elapse | cancel | equip | rewire => rfl

/-- Whatever others do between its steps, the presses of an attempt stand as they
have to in every phase. -/
theorem Chronicle.stands {first shared : Shared σ} {log : List Deed} {phase : Phase}
    (linked : first.1.store.Linked) (ascending : first.1.baselines.Ascending)
    (chronicle : c.Chronicle node first log phase shared) :
    c.Stands node first.1.store (shared.1.noting log).ledger phase := by
  induction chronicle with
  | opening => exact ⟨rfl, ascending, by simp [Session.ledger, Session.noting, Session.log]⟩
  | stirred _ stir ih =>
      rw [ledger_stir]
      exact ih
  | stepped _ ends on ih => exact (arrives_of_step linked ih ends).stands on

/-- The points that a signal compares with their baselines are watched, as far as
they are known. -/
theorem mem_watched {signal : Condition} {id : String} {point : Point}
    (own : signal ∈ node.start.condition.toList ++ node.completion.condition.toList)
    (mem : id ∈ signal.barPoints) (known : c.catalogue.point? id = some point) :
    (id, point.indicator.spot) ∈ c.watched node opened := by
  apply List.mem_filterMap.mpr
  refine ⟨id, mem_baselinePoints_iff.mpr (.inr ⟨signal, own, mem⟩), ?_⟩
  rw [known]
  rfl

/-- No point is looked at twice before a press. -/
theorem nodup_watched (c : Caster σ) (node : SkillNode) (opened : Opened) :
    (c.watched node opened).Nodup := by
  apply (nodup_baselinePoints node opened.skill).filterMap
  intro id other point found other_found
  obtain ⟨_, _, rfl⟩ := Option.map_eq_some_iff.mp found
  obtain ⟨_, _, same⟩ := Option.map_eq_some_iff.mp other_found
  exact (Prod.mk.inj same).1.symm

/-- While an attempt goes on, whatever the equipment does and others do meanwhile,
it has sent at most one key for each of its retries and one more, and exactly so
many once it has started; its retries are at most those of the node; its skill's
count of keys has grown by those that it has sent, and no other count has.  Right
before each press it has looked at each point that it watches, once.  When it is
about to look for a signal, the baselines of the points that the signal compares
are what was seen right before the latest press.  When it is closed this is still
true, and if the reason is that it has not started, then no retry was left. -/
theorem Chronicle.presses_and_baselines {first : Shared σ} {log : List Deed} {phase : Phase}
    {s : Session σ} {theirs : Option String} (linked : first.1.store.Linked)
    (ascending : first.1.baselines.Ascending)
    (chronicle : c.Chronicle node first log phase (s, theirs)) :
    (∀ opened, phase.opened? = some opened →
      (c.watched node opened).Nodup ∧
      (∃ stage retries keys, c.Presses node first.1.store opened stage retries keys
        (s.noting log).ledger) ∧
      ∀ signal, phase.signal? = some signal →
        Fresh (c.watched node opened) log s.baselines ∧
        ∀ id ∈ signal.barPoints, ∀ point, c.catalogue.point? id = some point →
          (id, point.indicator.spot) ∈ c.watched node opened) ∧
    ∀ outcome (s' : Session σ) grown id,
      (c.recorded.step node phase).Ends (s.noting log) (.finished outcome) (s'.noting grown) →
      outcome.attempt = some id →
      ∃ opened, phase.opened? = some opened ∧ opened.attempt = id ∧
        c.Concludes node first.1.store opened outcome.reason (s'.noting grown).ledger := by
  have stands := chronicle.stands linked ascending
  constructor
  · intro opened under_way
    refine ⟨nodup_watched c node opened, ?_⟩
    cases phase with
    | opening | awaitingLock => contradiction
    | launching own =>
        cases under_way
        exact ⟨⟨_, _, _, stands⟩, fun signal awaited => by contradiction⟩
    | starting own key signal deadline retries =>
        cases under_way
        obtain ⟨presses, given, fresh⟩ := stands
        refine ⟨⟨_, _, _, presses⟩, ?_⟩
        rintro _ ⟨⟩
        exact ⟨fresh, fun id mem point known => mem_watched (by simp [given]) mem known⟩
    | resting own =>
        cases under_way
        obtain ⟨retries, keys, presses⟩ := stands
        exact ⟨⟨_, retries, keys, presses⟩, fun signal awaited => by contradiction⟩
    | completing own signal deadline observed =>
        cases under_way
        obtain ⟨⟨retries, keys, presses⟩, given, fresh⟩ := stands
        refine ⟨⟨_, retries, keys, presses⟩, ?_⟩
        rintro _ ⟨⟩
        exact ⟨fresh, fun id mem point known => mem_watched (by simp [given]) mem known⟩
  · intro outcome s' grown id ends attempted
    exact arrives_of_step linked stands ends id attempted

/-! ## A hum that does not start -/

/-- A singer who sees a bar that never changes, and can press every key. -/
def staringSinger : Caster Unit :=
  { catalogue := .stage
    rig := {
      sample := fun _ _ _ => (.ok (.ok ⟨255, 255, 255⟩), [], ())
      press := fun _ _ => (.ok (.ok ()), ()) }
    settings := .standard }

end Caster

end Cast

/-- A node that hums, does not wait for a bar that has not changed, and tries once
more. -/
def SkillNode.impatientHum : SkillNode :=
  { id := "hum", skill := "hum", step := 0, gapMs := 0
    ready := .const true
    start := ⟨.castBar, some (.barChanged "bar" none), 0, 1⟩
    completion := ⟨.assumeSuccess, none, 1⟩
    lock := .standard }

/-- An impatient hum is given up after two presses, as its bar does not change. -/
theorem Cast.Caster.impatientHum_presses_twice :
    ∃ log phase s outcome, ∃ (last : Session Unit) (grown : List Deed) (opened : Opened),
      staringSinger.Chronicle .impatientHum (.quiet, none) log phase (s, none) ∧
        (staringSinger.recorded.step .impatientHum phase).Ends (s.noting log) (.finished outcome)
          (last.noting grown) ∧
        outcome.reason = some "start_timeout" ∧ grown.countP Deed.isSent = 2 ∧
        staringSinger.Concludes .impatientHum Session.quiet.store opened outcome.reason
          (last.noting grown).ledger := by
  have sung : ((staringSinger.runFrom (fun s => s) .impatientHum 10 .opening .quiet).1.bind
      fun result => result.toOption).map (fun outcome => (outcome.reason, outcome.attempt)) =
        some (some "start_timeout", some "hum#1") := by decide +kernel
  have counted : (staringSinger.runFrom (fun s => s) .impatientHum 10 .opening
      .quiet).2.store.metric "hum" .keySent = 2 := by decide +kernel
  rcases ran : staringSinger.runFrom (fun s => s) .impatientHum 10 .opening .quiet
    with ⟨_ | crash | outcome, last⟩
  · rw [ran] at sung
    contradiction
  · rw [ran] at sung
    contradiction
  rw [ran] at sung counted
  obtain ⟨reason, attempt⟩ := Prod.mk.inj (Option.some.inj sung)
  obtain ⟨told, phase, s, course, ends⟩ := Course.exists_of_runFrom .opening ran
  obtain ⟨log, chronicle⟩ := course.exists_chronicle
  obtain ⟨grown, recorded⟩ := (ends_step_iff log).mp ends
  obtain ⟨opened, _, _, concludes⟩ := (chronicle.presses_and_baselines (Store.linked_empty _)
    Order.Table.ascending_nil).2 outcome last grown "hum#1" recorded attempt
  refine ⟨log, phase, s, outcome, last, grown, opened, chronicle, recorded, reason, ?_, concludes⟩
  obtain ⟨_, _, _, _, _, keys, _, presses, _, counts⟩ := concludes
  have own := counts "hum"
  have grown_eq : grown.countP Deed.isSent = keys := presses.sent
  have hummed : last.store.metric "hum" .keySent =
      if "hum" = opened.skill.id then keys else 0 := own.trans (Nat.zero_add _)
  rw [counted] at hummed
  split at hummed
  · rw [grown_eq, ← hummed]
  · contradiction

end Rotation
