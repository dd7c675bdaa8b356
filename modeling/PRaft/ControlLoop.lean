import PRaft.Projector
import PRaft.LeaderLogger
import PRaft.Migration
import PRaft.PredictLeader

/-!
The tick loop of `predict_leader.main`:

    while True:
        it += 1
        try:    is_self, optimal_ip = run_once_and_decide(f_holder.get(), calc, self_ip)
        except Exception: is_self, optimal_ip = True, None
        will_move = not is_self  (downgraded when optimal_ip is empty)
        logger.record(self_ip if not will_move else optimal_ip, will_move)
        if not will_move:
            if MAX_ITERS > 0 and it >= MAX_ITERS: break
            sleep; continue
        calc.check_and_transfer_leader(self_ip, optimal_ip); metrics; break

A run is a list of ticks, each saying what the forecaster's `predict` did and how the
outside world behaved; `mainLoop` folds `tick` over it. Once the loop has left (`exit`),
`tick` changes nothing, so a finite list stands for every finite prefix of a run.

`mainLoop_cases` is the run lemma every result below rests on: a run is a block of keep
ticks below the cap, then at most one tick that leaves the loop.
-/

namespace PRaft.PredictLeader

open LeaderLogger BufferedPredictedLeaderWriter

/-- What the current forecaster's `predict` did at one tick. -/
inductive PredictOutcome where
  | returned (df : Option PredFrame)
  | raised (e : PyException)

/-- `run_once_and_decide`: `(is_self_optimal, optimal_ip)`, or the exception it raised. -/
def runOnceAndDecide (self : OptimalLeaderCalculator) (selfIp : String) :
    PredictOutcome → Except PyException (Bool × Option String)
  | .raised e => .error e
  | .returned none => .ok (true, none)
  | .returned (some df) =>
    if df.empty then .ok (true, none)
    else (buildDomainsFromPredMean self df).map fun domains =>
      if domains.isEmpty then (true, none)
      else match findOptimalLeader self domains with
        | .pair (.obj optimal) _ => (optimal.address == selfIp, some optimal.address)
        | _ => (true, none)

/-- The pair the tick goes on with: an exception in the `try` counts as `(True, None)`. -/
def decision : Except PyException (Bool × Option String) → Bool × Option String
  | .ok d => d
  | .error _ => (true, none)

/-- `will_move`, after the downgrade of an empty `optimal_ip`, as the target it names. -/
def moveTarget : Bool × Option String → Option String
  | (false, some a) => if a = "" then none else some a
  | _ => none

/-- The inputs `main` reads once: its own address and `MAX_ITERS`. -/
structure Config where
  selfIp : String
  maxIters : Nat

/-- One tick of a run: what `predict` did, the time `record` stamps on the row, and how
the outside world behaves. -/
structure Tick where
  predict : PredictOutcome
  now : String
  env : Env

/-- How the loop was left. -/
inductive Exit where
  | cap
  | migrated
  | raised (e : PyException)
deriving DecidableEq, Repr

/-- The loop's variables, the decision log, and the run's events so far. -/
structure MainState where
  it : Nat
  rounds : Nat
  logger : BufferedPredictedLeaderWriter
  events : List Event
  exit : Option Exit

/-- `PREDICT_LOG_CSV`. -/
def predictLogCsv : String := "/etcd/etcd-release-3.4/predicted_leaderA.csv"

/-- The state on entering the loop; `file` is the decision log already on disk. -/
def MainState.init (file : Option (List Row)) : MainState :=
  ⟨0, 0, ⟨predictLogCsv, [], file, []⟩, [], none⟩

/-- The target the tick decides on. -/
def Tick.target (self : OptimalLeaderCalculator) (selfIp : String) (t : Tick) : Option String :=
  moveTarget (decision (runOnceAndDecide self selfIp t.predict))

/-- `it >= MAX_ITERS` with a positive cap. -/
def Config.capped (cfg : Config) (it : Nat) : Prop := 0 < cfg.maxIters ∧ cfg.maxIters ≤ it

instance (cfg : Config) (it : Nat) : Decidable (cfg.capped it) :=
  inferInstanceAs (Decidable (_ ∧ _))

/-- The migrate branch, from `check_and_transfer_leader` to the `break`. -/
def migrate (self : OptimalLeaderCalculator) (cfg : Config) (env : Env) (a : String)
    (s : MainState) : MainState :=
  let (effects, err) := checkAndTransferLeader self env cfg.selfIp a
  let s := { s with events := s.events ++ Event.transfer cfg.selfIp a :: effects }
  match err with
  | some e => { s with exit := some (.raised e) }
  | none =>
    { s with
      events := s.events ++ (if env.metricsWritable then [Event.metrics s.rounds] else [])
      exit := some .migrated }

/-- One pass of the `while True` body. -/
def tick (self : OptimalLeaderCalculator) (cfg : Config) (s : MainState) (t : Tick) : MainState :=
  match s.exit with
  | some _ => s
  | none =>
    let r := runOnceAndDecide self cfg.selfIp t.predict
    let target := moveTarget (decision r)
    let leaderForLog := target.getD cfg.selfIp
    let (logger, err) := s.logger.record t.env.logWritable t.now leaderForLog target.isSome
    let s : MainState :=
      { s with
        it := s.it + 1
        rounds := if r.isOk then s.rounds + 1 else s.rounds
        logger
        events := s.events ++ [.predict, .record leaderForLog target.isSome] }
    match err, target with
    | some e, _ => { s with exit := some (.raised e) }
    | none, none => if cfg.capped s.it then { s with exit := some .cap } else s
    | none, some a => migrate self cfg t.env a s

/-- A run of the loop over the given ticks. -/
def mainLoop (self : OptimalLeaderCalculator) (cfg : Config) (file : Option (List Row))
    (ticks : List Tick) : MainState :=
  ticks.foldl (tick self cfg) (MainState.init file)

/-! ### Keep ticks, and the one tick that leaves -/

/-- The state after the keep ticks `pre`, none of which reached the cap: every decision
recorded for `self_ip`, buffered, and nothing written. -/
def keepState (self : OptimalLeaderCalculator) (cfg : Config) (file : Option (List Row))
    (pre : List Tick) : MainState where
  it := pre.length
  rounds := pre.countP fun t => (runOnceAndDecide self cfg.selfIp t.predict).isOk
  logger := ⟨predictLogCsv, pre.map fun t => [t.now, cfg.selfIp], file, []⟩
  events := pre.flatMap fun _ => [.predict, .record cfg.selfIp false]
  exit := none

/-- Every tick of `pre` decides to keep, and the cap is not reached within them. -/
def KeepBlock (self : OptimalLeaderCalculator) (cfg : Config) (pre : List Tick) : Prop :=
  (∀ t ∈ pre, t.target self cfg.selfIp = none) ∧ ¬ cfg.capped pre.length

theorem KeepBlock.take {self : OptimalLeaderCalculator} {cfg : Config} {pre : List Tick}
    (h : KeepBlock self cfg pre) (j : Nat) : KeepBlock self cfg (pre.take j) :=
  ⟨fun t ht => h.1 t (List.mem_of_mem_take ht),
    fun hc => h.2 ⟨hc.1, hc.2.trans (List.length_take_le' j pre)⟩⟩

theorem keepBlock_nil (self : OptimalLeaderCalculator) (cfg : Config) : KeepBlock self cfg [] :=
  ⟨by simp, fun h => by simp only [Config.capped, List.length_nil] at h; omega⟩

section Steps

variable {self : OptimalLeaderCalculator} {cfg : Config}

theorem tick_of_exit {s : MainState} {x : Exit} (h : s.exit = some x) (t : Tick) :
    tick self cfg s t = s := by
  simp [tick, h]

theorem foldl_tick_of_exit {s : MainState} {x : Exit} (h : s.exit = some x) (ts : List Tick) :
    ts.foldl (tick self cfg) s = s := by
  induction ts with
  | nil => rfl
  | cons t ts ih => rw [List.foldl_cons, tick_of_exit h, ih]

theorem migrate_exit (env : Env) (a : String) (s : MainState) :
    (migrate self cfg env a s).exit.isSome := by
  unfold migrate
  split
  split <;> simp

theorem migrate_exit_cases (env : Env) (a : String) (s : MainState) :
    (migrate self cfg env a s).exit = some .migrated ∨
      ∃ e, (migrate self cfg env a s).exit = some (.raised e) := by
  unfold migrate
  split
  split <;> simp

theorem migrate_logger (env : Env) (a : String) (s : MainState) :
    (migrate self cfg env a s).logger = s.logger := by
  unfold migrate
  split
  split <;> rfl

theorem mem_migrate_of_mem_effects {env : Env} {a : String} {s : MainState} {ev : Event}
    (h : ev ∈ (checkAndTransferLeader self env cfg.selfIp a).1) :
    ev ∈ (migrate self cfg env a s).events := by
  unfold migrate
  rcases hc : checkAndTransferLeader self env cfg.selfIp a with ⟨effects, _ | e⟩ <;>
    simp only [hc] at h ⊢ <;> simp [h]

theorem mem_migrate_events {env : Env} {a : String} {s : MainState} {ev : Event}
    (h : ev ∈ (migrate self cfg env a s).events) :
    ev ∈ s.events ∨ ev = .transfer cfg.selfIp a ∨
      ev ∈ (checkAndTransferLeader self env cfg.selfIp a).1 ∨ ∃ n, ev = .metrics n := by
  unfold migrate at h
  rcases hc : checkAndTransferLeader self env cfg.selfIp a with ⟨effects, _ | e⟩ <;>
    simp only [hc, List.mem_append, List.mem_cons] at h ⊢
  · split_ifs at h <;> simp at h <;> tauto
  · tauto

theorem keepState_exit (file : Option (List Row)) (pre : List Tick) :
    (keepState self cfg file pre).exit = none := rfl

theorem mem_keepState_events {file : Option (List Row)} {pre : List Tick} {ev : Event}
    (h : ev ∈ (keepState self cfg file pre).events) :
    ev = .predict ∨ ev = .record cfg.selfIp false := by
  simp only [keepState, List.mem_flatMap, List.mem_cons, List.mem_singleton,
    List.not_mem_nil, or_false] at h
  obtain ⟨_, _, h⟩ := h
  exact h

/-- An exception anywhere in `run_once_and_decide` is caught in its tick, whatever state the
running loop is in: the tick is recorded as a keep for `self_ip`, it is not counted in
`rounds`, and the loop goes on unless the cap is reached. -/
theorem tick_of_error {s : MainState} (hs : s.exit = none) {t : Tick} {e : PyException}
    (he : runOnceAndDecide self cfg.selfIp t.predict = .error e) :
    tick self cfg s t =
      { s with
        it := s.it + 1
        logger := { s.logger with buffer := s.logger.buffer ++ [[t.now, cfg.selfIp]] }
        events := s.events ++ [.predict, .record cfg.selfIp false]
        exit := if cfg.capped (s.it + 1) then some .cap else none } := by
  simp only [tick, hs, he, decision, moveTarget, Option.getD_none, Option.isSome_none, record_keep,
    Except.isOk, Except.toBool, Bool.false_eq_true, if_false]
  split_ifs <;> rfl

theorem tick_keepState {file : Option (List Row)} {pre : List Tick} {t : Tick}
    (hkeep : t.target self cfg.selfIp = none) (hcap : ¬ cfg.capped (pre.length + 1)) :
    tick self cfg (keepState self cfg file pre) t = keepState self cfg file (pre ++ [t]) := by
  simp only [Tick.target] at hkeep
  simp [tick, keepState, hkeep, hcap, List.countP_append, Bool.cond_eq_ite]
  split_ifs with hok <;> simp [List.countP_cons, hok]

theorem tick_keepState_exit {file : Option (List Row)} {pre : List Tick} {t : Tick}
    (h : ¬ (t.target self cfg.selfIp = none ∧ ¬ cfg.capped (pre.length + 1))) :
    (tick self cfg (keepState self cfg file pre) t).exit.isSome := by
  simp only [Tick.target] at h
  simp only [tick, keepState_exit]
  rcases ht : moveTarget (decision (runOnceAndDecide self cfg.selfIp t.predict)) with _ | a
  · simp only [ht, true_and, not_not] at h
    simp [keepState, ht, record_keep, h]
  · simp only [ht, Option.isSome_some, Option.getD_some]
    rcases (record t.env.logWritable t.now a true (keepState self cfg file pre).logger) with
      ⟨lg, _ | e⟩ <;> simp [migrate_exit]

end Steps

section ExitTick

variable {self : OptimalLeaderCalculator} {cfg : Config} {file : Option (List Row)}
  {pre : List Tick} {t : Tick}

theorem tick_keepState_cap (hkeep : t.target self cfg.selfIp = none)
    (hcap : cfg.capped (pre.length + 1)) :
    tick self cfg (keepState self cfg file pre) t =
      { keepState self cfg file (pre ++ [t]) with exit := some .cap } := by
  simp only [Tick.target] at hkeep
  simp [tick, keepState, hkeep, hcap, List.countP_append, Bool.cond_eq_ite]
  split_ifs with hok <;> simp [List.countP_cons, hok]

theorem tick_keepState_logFails {a : String} (ht : t.target self cfg.selfIp = some a)
    (hw : t.env.logWritable = false) :
    (tick self cfg (keepState self cfg file pre) t).events =
      (keepState self cfg file pre).events ++ [.predict, .record a true] ∧
    (tick self cfg (keepState self cfg file pre) t).exit = some (.raised ⟨"OSError"⟩) ∧
    (tick self cfg (keepState self cfg file pre) t).logger.writes = [] := by
  simp only [Tick.target] at ht
  cases hf : file <;>
    simp [tick, keepState, ht, hw, hf, record, flushBuffer, ensureFile, hasDirectory,
      predictLogCsv, List.isEmpty_iff]

/-- A migrate decision whose log append succeeds writes every decision of the run in one
append and then runs the migration branch. -/
theorem tick_keepState_migrate {a : String} (ht : t.target self cfg.selfIp = some a)
    (hw : t.env.logWritable = true) :
    tick self cfg (keepState self cfg file pre) t =
      migrate self cfg t.env a
        { it := pre.length + 1
          rounds := (pre ++ [t]).countP fun u => (runOnceAndDecide self cfg.selfIp u.predict).isOk
          logger :=
            { csvPath := predictLogCsv
              buffer := []
              file := some (file.getD [header] ++ (pre.map fun u => [u.now, cfg.selfIp]) ++ [[t.now, a]])
              writes := (if file.isNone then [.header] else []) ++
                [.rows ((pre.map fun u => [u.now, cfg.selfIp]) ++ [[t.now, a]])] }
          events := (keepState self cfg file pre).events ++ [.predict, .record a true]
          exit := none } := by
  simp only [Tick.target] at ht
  have hdir : hasDirectory predictLogCsv = true := by decide
  simp only [tick, keepState, ht, hw, record, Option.getD_some, Option.isSome_some]
  rw [flushBuffer_of_writable hdir (by simp)]
  cases hok : (runOnceAndDecide self cfg.selfIp t.predict).isOk <;> cases file <;>
    simp [hok, List.countP_append, List.countP_cons]

theorem tick_keepState_eq_cap (h : (tick self cfg (keepState self cfg file pre) t).exit = some .cap) :
    t.target self cfg.selfIp = none ∧ cfg.capped (pre.length + 1) := by
  rcases ht : t.target self cfg.selfIp with _ | a
  · by_cases hc : cfg.capped (pre.length + 1)
    · exact ⟨rfl, hc⟩
    · rw [tick_keepState ht hc] at h
      cases h
  · exfalso
    cases hw : t.env.logWritable
    · rw [(tick_keepState_logFails ht hw).2.1] at h
      cases h
    · rw [tick_keepState_migrate ht hw] at h
      rcases migrate_exit_cases t.env a _ with h' | ⟨_, h'⟩ <;> rw [h'] at h <;> cases h

end ExitTick

/-- The run lemma: a run is a keep block below the cap, possibly followed by one tick that
leaves the loop, after which nothing changes. -/
theorem mainLoop_cases (self : OptimalLeaderCalculator) (cfg : Config)
    (file : Option (List Row)) (ticks : List Tick) :
    (KeepBlock self cfg ticks ∧ mainLoop self cfg file ticks = keepState self cfg file ticks) ∨
    ∃ pre t rest, ticks = pre ++ t :: rest ∧ KeepBlock self cfg pre ∧
      (tick self cfg (keepState self cfg file pre) t).exit.isSome ∧
      mainLoop self cfg file ticks = tick self cfg (keepState self cfg file pre) t := by
  induction ticks using List.reverseRecOn with
  | nil =>
    left
    refine ⟨⟨by simp, fun h => ?_⟩, rfl⟩
    simp only [Config.capped, List.length_nil] at h
    omega
  | append_singleton ts t ih =>
    have hrun : mainLoop self cfg file (ts ++ [t]) = tick self cfg (mainLoop self cfg file ts) t := by
      simp [mainLoop, List.foldl_append]
    rcases ih with ⟨hblock, hts⟩ | ⟨pre, t', rest, rfl, hblock, hexit, hts⟩
    · rw [hrun, hts]
      by_cases hnext : t.target self cfg.selfIp = none ∧ ¬ cfg.capped (ts.length + 1)
      · left
        refine ⟨⟨fun u hu => ?_, by simpa using hnext.2⟩, tick_keepState hnext.1 hnext.2⟩
        rcases List.mem_append.mp hu with hu | hu
        · exact hblock.1 u hu
        · simp only [List.mem_singleton] at hu
          exact hu ▸ hnext.1
      · exact .inr ⟨ts, t, [], rfl, hblock, tick_keepState_exit hnext, rfl⟩
    · right
      obtain ⟨x, hx⟩ := Option.isSome_iff_exists.mp hexit
      refine ⟨pre, t', rest ++ [t], by simp, hblock, hexit, ?_⟩
      rw [hrun, hts, tick_of_exit hx]

theorem mainLoop_singleton (self : OptimalLeaderCalculator) (cfg : Config)
    (file : Option (List Row)) (t : Tick) :
    mainLoop self cfg file [t] = tick self cfg (keepState self cfg file []) t := rfl

theorem mainLoop_keepBlock {self : OptimalLeaderCalculator} {cfg : Config}
    {file : Option (List Row)} {pre : List Tick} (h : KeepBlock self cfg pre) :
    mainLoop self cfg file pre = keepState self cfg file pre := by
  induction pre using List.reverseRecOn with
  | nil => rfl
  | append_singleton ts t ih =>
    obtain ⟨hkeep, hcap⟩ := h
    have hcap' : ¬ cfg.capped ts.length := fun hc => hcap ⟨hc.1, hc.2.trans (by simp)⟩
    rw [mainLoop, List.foldl_append, ← mainLoop,
      ih ⟨fun u hu => hkeep u (by simp [hu]), hcap'⟩, List.foldl_cons, List.foldl_nil,
      tick_keepState (hkeep t (by simp)) (by simpa using hcap)]

theorem mainLoop_of_exit {self : OptimalLeaderCalculator} {cfg : Config}
    {file : Option (List Row)} {pre : List Tick} {t : Tick} (h : KeepBlock self cfg pre)
    (hexit : (tick self cfg (keepState self cfg file pre) t).exit.isSome) (more : List Tick) :
    mainLoop self cfg file (pre ++ t :: more) = tick self cfg (keepState self cfg file pre) t := by
  obtain ⟨x, hx⟩ := Option.isSome_iff_exists.mp hexit
  rw [mainLoop, List.foldl_append, ← mainLoop, mainLoop_keepBlock h, List.foldl_cons,
    foldl_tick_of_exit hx]

/-! ### What the events of a run say -/

/-- The arguments of a `logger.record` call. -/
def Event.recordOf : Event → Option (String × Bool)
  | .record ip m => some (ip, m)
  | _ => none

/-- The arguments of a `check_and_transfer_leader` call. -/
def Event.transferOf : Event → Option (String × String)
  | .transfer c a => some (c, a)
  | _ => none

theorem checkAndTransferLeader_quiet (self : OptimalLeaderCalculator) (env : Env) (c a : String) :
    (checkAndTransferLeader self env c a).1.filterMap Event.recordOf = [] ∧
    (checkAndTransferLeader self env c a).1.filterMap Event.transferOf = [] := by
  constructor <;> refine List.filterMap_eq_nil_iff.mpr fun ev hev => ?_ <;>
    rcases checkAndTransferLeader_events self env c a ev hev with h | h | ⟨_, h⟩ | h <;>
    simp [h, Event.recordOf, Event.transferOf]

theorem migrate_events (self : OptimalLeaderCalculator) (cfg : Config) (env : Env) (a : String)
    (s : MainState) :
    (migrate self cfg env a s).events.filterMap Event.recordOf = s.events.filterMap Event.recordOf ∧
    (migrate self cfg env a s).events.filterMap Event.transferOf =
      s.events.filterMap Event.transferOf ++ [(cfg.selfIp, a)] := by
  obtain ⟨hr, ht⟩ := checkAndTransferLeader_quiet self env cfg.selfIp a
  unfold migrate
  split
  split <;> simp_all [List.filterMap_append, Event.recordOf, Event.transferOf]

theorem keepState_events (self : OptimalLeaderCalculator) (cfg : Config)
    (file : Option (List Row)) (pre : List Tick) :
    (keepState self cfg file pre).events.filterMap Event.recordOf =
      List.replicate pre.length (cfg.selfIp, false) ∧
    (keepState self cfg file pre).events.filterMap Event.transferOf = [] := by
  induction pre with
  | nil => simp [keepState]
  | cons t pre ih =>
    simp only [keepState, List.flatMap_cons, List.filterMap_append] at ih ⊢
    simp [ih, Event.recordOf, Event.transferOf, List.replicate_succ]

/-- The decision `main` goes on with at this tick is to migrate to `a`: `predict` returned
a non-empty frame, the projector a non-empty domain list, and `find_optimal_leader` a
domain at the non-empty address `a`, which is not ours. -/
def MigrateDecision (self : OptimalLeaderCalculator) (selfIp a : String)
    (o : PredictOutcome) : Prop :=
  ∃ df domains L c, o = .returned (some df) ∧ df.empty = false ∧
    buildDomainsFromPredMean self df = .ok domains ∧ domains ≠ [] ∧
    findOptimalLeader self domains = .pair (.obj L) c ∧ L.address = a ∧ a ≠ "" ∧ a ≠ selfIp

theorem target_of_singleton {self : OptimalLeaderCalculator} {selfIp : String} {df : PredFrame}
    {d : Domain ℚ} (hne : df.empty = false) (hb : buildDomainsFromPredMean self df = .ok [d])
    (ha : d.address ≠ "") (hs : d.address ≠ selfIp) (now : String) (env : Env) :
    Tick.target self selfIp ⟨.returned (some df), now, env⟩ = some d.address := by
  have hne' : (d.address == selfIp) = false := by simpa using hs
  simp [Tick.target, runOnceAndDecide, hne, hb, Except.map, findOptimalLeader_singleton, decision,
    moveTarget, ha, hne']

theorem migrateDecision_of_target {self : OptimalLeaderCalculator} {selfIp a : String}
    {o : PredictOutcome} (h : moveTarget (decision (runOnceAndDecide self selfIp o)) = some a) :
    MigrateDecision self selfIp a o := by
  rcases o with (_ | df) | e
  · simp [runOnceAndDecide, decision, moveTarget] at h
  · by_cases he : df.empty
    · simp [runOnceAndDecide, he, decision, moveTarget] at h
    rcases hb : buildDomainsFromPredMean self df with e | domains
    · simp [runOnceAndDecide, he, hb, decision, moveTarget, Except.map] at h
    simp only [runOnceAndDecide, he, hb, Except.map, decision, Bool.false_eq_true, if_false] at h
    split_ifs at h with hd
    · simp [moveTarget] at h
    split at h
    · rename_i L c hf
      simp only [moveTarget] at h
      cases hs : (L.address == selfIp) <;> simp only [hs] at h
      · split_ifs at h with ha
        cases h
        exact ⟨df, domains, L, c, rfl, by simpa using he, hb, by simpa using hd, hf, rfl, ha,
          by simpa using hs⟩
      · simp at h
    · simp [moveTarget] at h
  · simp [runOnceAndDecide, decision, moveTarget] at h

section Calls

variable {self : OptimalLeaderCalculator} {cfg : Config} {file : Option (List Row)}
  {pre : List Tick} {t : Tick}

theorem tick_keepState_records :
    (tick self cfg (keepState self cfg file pre) t).events.filterMap Event.recordOf =
      List.replicate pre.length (cfg.selfIp, false) ++
        [((t.target self cfg.selfIp).getD cfg.selfIp, (t.target self cfg.selfIp).isSome)] := by
  have hkeep := (keepState_events self cfg file pre).1
  rcases ht : t.target self cfg.selfIp with _ | a
  · have hnext := (keepState_events self cfg file (pre ++ [t])).1
    simp only [List.length_append, List.length_singleton, List.replicate_succ'] at hnext
    by_cases hcap : cfg.capped (pre.length + 1)
    · rw [tick_keepState_cap ht hcap]
      exact hnext
    · rw [tick_keepState ht hcap]
      exact hnext
  · cases hw : t.env.logWritable
    · simp [(tick_keepState_logFails ht hw).1, List.filterMap_append, hkeep, Event.recordOf]
    · simp [tick_keepState_migrate ht hw, (migrate_events ..).1, List.filterMap_append, hkeep,
        Event.recordOf]

theorem tick_keepState_transfers :
    (tick self cfg (keepState self cfg file pre) t).events.filterMap Event.transferOf =
      if t.env.logWritable then ((t.target self cfg.selfIp).map fun a => (cfg.selfIp, a)).toList
      else [] := by
  have hkeep := (keepState_events self cfg file pre).2
  rcases ht : t.target self cfg.selfIp with _ | a
  · have hnext := (keepState_events self cfg file (pre ++ [t])).2
    by_cases hcap : cfg.capped (pre.length + 1)
    · rw [tick_keepState_cap ht hcap]
      simpa using hnext
    · rw [tick_keepState ht hcap]
      simpa using hnext
  · cases hw : t.env.logWritable
    · simp [(tick_keepState_logFails ht hw).1, List.filterMap_append, hkeep, Event.transferOf]
    · simp [tick_keepState_migrate ht hw, (migrate_events ..).2, List.filterMap_append, hkeep,
        Event.transferOf]

/-- The tick after a keep block emits, beyond the block's events, its `predict` and its
`record`, and, when it migrates with a writable log, the transfer call, the executor's
effects and the metrics row. -/
theorem mem_tick_keepState_events {ev : Event}
    (h : ev ∈ (tick self cfg (keepState self cfg file pre) t).events) :
    ev ∈ (keepState self cfg file pre).events ∨ ev = .predict ∨ (∃ ip m, ev = .record ip m) ∨
      ∃ a, t.target self cfg.selfIp = some a ∧ t.env.logWritable = true ∧
        (ev = .transfer cfg.selfIp a ∨ ev ∈ (checkAndTransferLeader self t.env cfg.selfIp a).1 ∨
          ∃ n, ev = .metrics n) := by
  rcases ht : t.target self cfg.selfIp with _ | a
  · have hnext : ev ∈ (keepState self cfg file (pre ++ [t])).events := by
      by_cases hcap : cfg.capped (pre.length + 1)
      · rwa [tick_keepState_cap ht hcap] at h
      · rwa [tick_keepState ht hcap] at h
    simp only [keepState, List.flatMap_append, List.flatMap_singleton, List.mem_append] at hnext
    rcases hnext with hev | hev
    · exact .inl hev
    · simp only [List.mem_cons, List.mem_singleton, List.not_mem_nil, or_false] at hev
      rcases hev with rfl | rfl <;> simp
  · cases hw : t.env.logWritable
    · rw [(tick_keepState_logFails ht hw).1] at h
      simp only [List.mem_append, List.mem_cons, List.not_mem_nil, or_false] at h
      rcases h with hev | rfl | rfl
      · exact .inl hev
      all_goals simp
    · rw [tick_keepState_migrate ht hw] at h
      rcases mem_migrate_events h with hev | hev
      · simp only [List.mem_append, List.mem_cons, List.not_mem_nil, or_false] at hev
        rcases hev with hev | rfl | rfl
        · exact .inl hev
        all_goals simp
      · simp [hev]

end Calls

end PRaft.PredictLeader
