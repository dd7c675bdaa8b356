import PRaft.ControlLoop

/-!
What every run of `main`'s tick loop does, for every `self_ip`, every `MAX_ITERS`, every
sequence of forecaster outcomes and every behaviour of the files and commands it touches.
All of it follows from `mainLoop_cases` and the equations of the tick that leaves the loop.

* `checkAndTransferLeader_at_most_once`: the executor is called at most once, after a migrate
  decision, with every earlier tick recorded as a keep for `self_ip`; later ticks change nothing.
* `mainLoop_commands`: the only commands a run starts copy the history file to, and move the
  leadership towards, the one transfer target, which `node_id_to_ip` gives some node.
* `mainLoop_transfers_to_unresolved_target`: nothing downgrades a migration whose target has no
  cluster identity: it is carried out all the same, and `move-leader` then names `"unknown"`.
  `mainLoop_commands_resolve`: with the identity tables as shipped this never happens, every
  target has its member in `IpToId`.
* `mainLoop_log_writes`: the decision log receives one append, at the migrate tick, holding
  every decision of the run in order; `mainLoop_cap_unflushed`: a run stopped by the cap
  writes none of its decisions.
* `mainLoop_error_tick`, `mainLoop_exit_cases`, `mainLoop_log_failure_exits`: an exception in a
  tick is a keep for `self_ip`, and the loop is left only at the cap, after a transfer, or when
  the log append of a migrate decision raises.
-/

namespace PRaft.PredictLeader

open OptimalLeaderCalculator LeaderLogger BufferedPredictedLeaderWriter

/-! ### A forecast that moves the leader -/

/-- A forecast whose only column is a read load of node `b92b49a4de72942d`. -/
def readForecast : PredFrame where
  columns := ["b92b49a4de72942d_read"]
  rows := [[1]]
  row_width := by decide

/-- Every file write and every command succeeds. -/
def healthyEnv : Env := ⟨true, true, true, true, true, true, true⟩

theorem target_readForecast {self : OptimalLeaderCalculator}
    (hip : self.nodeIdToIp = init.nodeIdToIp) (now : String) (env : Env) :
    Tick.target self "192.168.0.38" ⟨.returned (some readForecast), now, env⟩ =
      some "192.168.0.82" := by
  have hids : nodeIds readForecast = ["b92b49a4de72942d"] := by decide
  have hmean : readForecast.mean = [("b92b49a4de72942d_read", 1)] := by
    simp [readForecast, PredFrame.mean]
  have hlook : self.nodeIdToIp.lookup "b92b49a4de72942d" = some "192.168.0.82" := by
    rw [hip]
    decide
  have hb : buildDomainsFromPredMean self readForecast =
      .ok [⟨"b92b49a4de72942d", "192.168.0.82", 1, 1, 0⟩] := by
    rw [buildDomainsFromPredMean, if_neg (by decide), hids, hmean, List.mapM_cons, List.mapM_nil]
    simp [domainFor, meanGet, hlook, bind, Except.bind, pure, Except.pure, Functor.map, Except.map]
  exact target_of_singleton (by decide) hb (by decide) (by decide) now env

/-! ### The transfer -/

/-- `check_and_transfer_leader` is called at most once in a run, from `self_ip`. The call
made at tick `k` follows a migrate decision there, every earlier tick was recorded as a keep
for `self_ip`, and whatever the later ticks would have been, the run ends as it is. -/
theorem checkAndTransferLeader_at_most_once (self : OptimalLeaderCalculator) (cfg : Config)
    (file : Option (List Row)) (ticks : List Tick) :
    ((mainLoop self cfg file ticks).events.filterMap Event.transferOf).length ≤ 1 ∧
    ∀ c a, (c, a) ∈ (mainLoop self cfg file ticks).events.filterMap Event.transferOf →
      c = cfg.selfIp ∧ ∃ k, ∃ hk : k < ticks.length,
        MigrateDecision self cfg.selfIp a ticks[k].predict ∧
        (mainLoop self cfg file ticks).events.filterMap Event.recordOf =
          List.replicate k (cfg.selfIp, false) ++ [(a, true)] ∧
        ∀ more, mainLoop self cfg file (ticks.take (k + 1) ++ more) = mainLoop self cfg file ticks := by
  rcases mainLoop_cases self cfg file ticks with ⟨-, hs⟩ | ⟨pre, t, rest, rfl, hb, hex, hs⟩
  · simp [hs, (keepState_events self cfg file ticks).2]
  rw [hs, tick_keepState_transfers, tick_keepState_records]
  refine ⟨by split <;> cases t.target self cfg.selfIp <;> simp, fun c a h => ?_⟩
  obtain ⟨ht, rfl⟩ : t.target self cfg.selfIp = some a ∧ c = cfg.selfIp := by
    split at h
    · rcases ht : t.target self cfg.selfIp with _ | b <;> simp [ht] at h
      obtain ⟨rfl, rfl⟩ := h
      exact ⟨rfl, rfl⟩
    · simp at h
  refine ⟨rfl, pre.length, by simp, ?_, by simp [ht], fun more => ?_⟩
  · rw [List.getElem_append_right (le_refl _)]
    simpa using migrateDecision_of_target ht
  · rw [← mainLoop_of_exit hb hex more]
    simp [List.take_append_eq_append_take, List.take_of_length_le (Nat.le_succ pre.length)]


/-- One tick on `readForecast` calls the executor once, from `192.168.0.38` to `192.168.0.82`,
after a migrate decision, and records that decision alone. -/
theorem checkAndTransferLeader_at_most_once_on_forecast :
    (mainLoop init ⟨"192.168.0.38", 0⟩ none
        [⟨.returned (some readForecast), "2025-06-01 12:00", healthyEnv⟩]).events.filterMap
        Event.transferOf = [("192.168.0.38", "192.168.0.82")] ∧
      MigrateDecision init "192.168.0.38" "192.168.0.82" (.returned (some readForecast)) ∧
      (mainLoop init ⟨"192.168.0.38", 0⟩ none
        [⟨.returned (some readForecast), "2025-06-01 12:00", healthyEnv⟩]).events.filterMap
        Event.recordOf = [("192.168.0.82", true)] := by
  have ht := target_readForecast (show init.nodeIdToIp = init.nodeIdToIp from rfl)
    "2025-06-01 12:00" healthyEnv
  have htr : (mainLoop init ⟨"192.168.0.38", 0⟩ none
      [⟨.returned (some readForecast), "2025-06-01 12:00", healthyEnv⟩]).events.filterMap
      Event.transferOf = [("192.168.0.38", "192.168.0.82")] := by
    simp only [mainLoop_singleton, tick_keepState_transfers, ht]
    rfl
  obtain ⟨-, k, hk, hmd, hrec, -⟩ :=
    (checkAndTransferLeader_at_most_once init ⟨"192.168.0.38", 0⟩ none
      [⟨.returned (some readForecast), "2025-06-01 12:00", healthyEnv⟩]).2
      "192.168.0.38" "192.168.0.82" (by simp [htr])
  obtain rfl : k = 0 := by simpa using hk
  exact ⟨htr, hmd, hrec⟩

/-! ### Commands and cluster identities -/

theorem mainLoop_runs_of_migrate {self : OptimalLeaderCalculator} {cfg : Config}
    {file : Option (List Row)} {pre : List Tick} {t : Tick} {a : String} (rest : List Tick)
    (hb : KeepBlock self cfg pre) (ht : t.target self cfg.selfIp = some a)
    (hw : t.env.logWritable = true) (hh : t.env.historyExists = true)
    (hscp : t.env.scpSucceeds = true) :
    Event.run (scpCommand historyCsv a historyCsv) ∈
        (mainLoop self cfg file (pre ++ t :: rest)).events ∧
      Event.run (moveLeaderCommand self cfg.selfIp a) ∈
        (mainLoop self cfg file (pre ++ t :: rest)).events := by
  have hex : (tick self cfg (keepState self cfg file pre) t).exit.isSome :=
    tick_keepState_exit (by simp [ht])
  obtain ⟨hcopy, hmove⟩ := checkAndTransferLeader_runs self hh hscp cfg.selfIp a
  rw [mainLoop_of_exit hb hex rest, tick_keepState_migrate ht hw]
  exact ⟨mem_migrate_of_mem_effects hcopy, mem_migrate_of_mem_effects hmove⟩

theorem mem_run_mainLoop {self : OptimalLeaderCalculator} {cfg : Config}
    {file : Option (List Row)} {ticks : List Tick} {argv : List String}
    (h : Event.run argv ∈ (mainLoop self cfg file ticks).events) :
    ∃ a, (cfg.selfIp, a) ∈ (mainLoop self cfg file ticks).events.filterMap Event.transferOf ∧
      (argv = scpCommand historyCsv a historyCsv ∨ argv = moveLeaderCommand self cfg.selfIp a) ∧
      (∃ nodeId, self.nodeIdToIp.lookup nodeId = some a) ∧ a ≠ cfg.selfIp := by
  rcases mainLoop_cases self cfg file ticks with ⟨-, hs⟩ | ⟨pre, t, rest, rfl, -, -, hs⟩
  · rw [hs] at h
    rcases mem_keepState_events h with h | h <;> cases h
  rw [hs] at h ⊢
  rcases mem_tick_keepState_events h with h | h | ⟨_, _, h⟩ | ⟨a, ht, hw, h⟩
  · rcases mem_keepState_events h with h | h <;> cases h
  · cases h
  · cases h
  obtain ⟨_, _, L, _, -, -, hbuild, -, hfind, rfl, -, hself⟩ := migrateDecision_of_target ht
  refine ⟨L.address, by simp [tick_keepState_transfers, ht, hw], ?_,
    ⟨L.id, (mem_buildDomainsFromPredMean hbuild L (mem_of_findOptimalLeader hfind)).1⟩, hself⟩
  rcases h with h | h | ⟨_, h⟩
  · cases h
  · rcases checkAndTransferLeader_events self t.env cfg.selfIp L.address _ h with
      h | h | ⟨_, h⟩ | h <;> simp only [Event.run.injEq, reduceCtorEq] at h
    · exact .inl h
    · exact .inr h
  · cases h

/-- Every command a run starts is the copy of the history file to, or the `move-leader`
towards, the address the executor was called with; that address is not `self_ip`, and
`node_id_to_ip` gives it to some node. -/
theorem mainLoop_commands (self : OptimalLeaderCalculator) (cfg : Config)
    (file : Option (List Row)) (ticks : List Tick) (argv : List String)
    (h : Event.run argv ∈ (mainLoop self cfg file ticks).events) :
    ∃ a, (cfg.selfIp, a) ∈ (mainLoop self cfg file ticks).events.filterMap Event.transferOf ∧
      (argv = scpCommand historyCsv a historyCsv ∨ argv = moveLeaderCommand self cfg.selfIp a) ∧
      (∃ nodeId, self.nodeIdToIp.lookup nodeId = some a) ∧ a ≠ cfg.selfIp :=
  mem_run_mainLoop h

/-- The run of one tick on `readForecast` copies the history file to `192.168.0.82`, which
the shipped `node_id_to_ip` gives node `b92b49a4de72942d`. -/
theorem mainLoop_commands_on_forecast :
    Event.run (scpCommand historyCsv "192.168.0.82" historyCsv) ∈
        (mainLoop init ⟨"192.168.0.38", 0⟩ none
          [⟨.returned (some readForecast), "2025-06-01 12:00", healthyEnv⟩]).events ∧
      ∃ a, ("192.168.0.38", a) ∈ (mainLoop init ⟨"192.168.0.38", 0⟩ none
          [⟨.returned (some readForecast), "2025-06-01 12:00", healthyEnv⟩]).events.filterMap
          Event.transferOf ∧
        (scpCommand historyCsv "192.168.0.82" historyCsv = scpCommand historyCsv a historyCsv ∨
          scpCommand historyCsv "192.168.0.82" historyCsv = moveLeaderCommand init "192.168.0.38" a) ∧
        (∃ nodeId, init.nodeIdToIp.lookup nodeId = some a) ∧ a ≠ "192.168.0.38" := by
  have hrun : Event.run (scpCommand historyCsv "192.168.0.82" historyCsv) ∈
      (mainLoop init ⟨"192.168.0.38", 0⟩ none
        [⟨.returned (some readForecast), "2025-06-01 12:00", healthyEnv⟩]).events :=
    (mainLoop_runs_of_migrate [] (keepBlock_nil init ⟨"192.168.0.38", 0⟩)
    (target_readForecast (show init.nodeIdToIp = init.nodeIdToIp from rfl)
      "2025-06-01 12:00" healthyEnv) rfl rfl rfl).1
  exact ⟨hrun, mainLoop_commands init ⟨"192.168.0.38", 0⟩ none _ _ hrun⟩

/-- A migrate decision is carried out whether or not its target has a cluster identity: when
`IpToId` has no key for it, the history file is still copied there, `move-leader` is run
naming `"unknown"`, and the tick is recorded as a migration rather than a keep. -/
theorem mainLoop_transfers_to_unresolved_target {self : OptimalLeaderCalculator} {cfg : Config}
    {file : Option (List Row)} {pre : List Tick} {t : Tick} {a : String} (rest : List Tick)
    (hb : KeepBlock self cfg pre) (ht : t.target self cfg.selfIp = some a)
    (hw : t.env.logWritable = true) (hh : t.env.historyExists = true)
    (hscp : t.env.scpSucceeds = true) (hid : self.ipToId.lookup (a ++ ":2379") = none) :
    Event.run (scpCommand historyCsv a historyCsv) ∈
        (mainLoop self cfg file (pre ++ t :: rest)).events ∧
      Event.run [etcdctlPath, "--endpoints=" ++ cfg.selfIp ++ ":2379", "move-leader", "unknown"] ∈
        (mainLoop self cfg file (pre ++ t :: rest)).events ∧
      (mainLoop self cfg file (pre ++ t :: rest)).events.filterMap Event.recordOf =
        List.replicate pre.length (cfg.selfIp, false) ++ [(a, true)] := by
  have hex : (tick self cfg (keepState self cfg file pre) t).exit.isSome :=
    tick_keepState_exit (by simp [ht])
  obtain ⟨hcopy, hmove⟩ := mainLoop_runs_of_migrate rest hb ht hw hh hscp
  refine ⟨hcopy, by simpa [moveLeaderCommand, hid] using hmove, ?_⟩
  rw [mainLoop_of_exit hb hex rest, tick_keepState_records, ht]
  rfl

/-- With `IpToId` empty and `node_id_to_ip` as shipped, one tick on `readForecast` copies the
history file to `192.168.0.82`, runs `move-leader unknown` and records a migration, not a
keep. -/
theorem mainLoop_transfers_to_unresolved_target_without_identities :
    KeepBlock { init with ipToId := [] } ⟨"192.168.0.38", 0⟩ [] ∧
      Tick.target { init with ipToId := [] } "192.168.0.38"
        ⟨.returned (some readForecast), "2025-06-01 12:00", healthyEnv⟩ = some "192.168.0.82" ∧
      ({ init with ipToId := [] } : OptimalLeaderCalculator).ipToId.lookup
        ("192.168.0.82" ++ ":2379") = none ∧
      Event.run (scpCommand historyCsv "192.168.0.82" historyCsv) ∈
        (mainLoop { init with ipToId := [] } ⟨"192.168.0.38", 0⟩ none
          [⟨.returned (some readForecast), "2025-06-01 12:00", healthyEnv⟩]).events ∧
      Event.run [etcdctlPath, "--endpoints=" ++ "192.168.0.38" ++ ":2379", "move-leader", "unknown"] ∈
        (mainLoop { init with ipToId := [] } ⟨"192.168.0.38", 0⟩ none
          [⟨.returned (some readForecast), "2025-06-01 12:00", healthyEnv⟩]).events ∧
      (mainLoop { init with ipToId := [] } ⟨"192.168.0.38", 0⟩ none
          [⟨.returned (some readForecast), "2025-06-01 12:00", healthyEnv⟩]).events.filterMap
        Event.recordOf = List.replicate 0 ("192.168.0.38", false) ++ [("192.168.0.82", true)] := by
  have hb := keepBlock_nil { init with ipToId := [] } ⟨"192.168.0.38", 0⟩
  have ht := target_readForecast (show ({ init with ipToId := [] } : OptimalLeaderCalculator).nodeIdToIp =
    init.nodeIdToIp from rfl) "2025-06-01 12:00" healthyEnv
  exact ⟨hb, ht, rfl, mainLoop_transfers_to_unresolved_target [] hb ht rfl rfl rfl rfl⟩

theorem ipToId_resolves_nodeIdToIp :
    ∀ a ∈ init.nodeIdToIp.map Prod.snd, (init.ipToId.lookup (a ++ ":2379")).isSome = true := by
  decide

/-- With the identity tables as shipped, every target a run transfers to resolves: `IpToId` has
the key `a:2379`, and the `move-leader` command names that member. The code never looks the
target up before it acts; the shipped tables make the lookup succeed. -/
theorem mainLoop_commands_resolve (self : OptimalLeaderCalculator) (cfg : Config)
    (hip : self.nodeIdToIp = init.nodeIdToIp) (hid : self.ipToId = init.ipToId)
    (file : Option (List Row)) (ticks : List Tick) (argv : List String)
    (h : Event.run argv ∈ (mainLoop self cfg file ticks).events) :
    ∃ a id, (cfg.selfIp, a) ∈ (mainLoop self cfg file ticks).events.filterMap Event.transferOf ∧
      self.ipToId.lookup (a ++ ":2379") = some id ∧
      (argv = scpCommand historyCsv a historyCsv ∨
        argv = [etcdctlPath, "--endpoints=" ++ cfg.selfIp ++ ":2379", "move-leader", id]) := by
  obtain ⟨a, htr, hcmd, ⟨nodeId, hnode⟩, -⟩ := mem_run_mainLoop h
  rw [hip] at hnode
  have ha : a ∈ init.nodeIdToIp.map Prod.snd := by
    by_contra hna
    exact lookup_ne_of_not_mem hna nodeId hnode
  obtain ⟨id, hlook⟩ := Option.isSome_iff_exists.1 (ipToId_resolves_nodeIdToIp a ha)
  rw [← hid] at hlook
  refine ⟨a, id, htr, hlook, hcmd.imp_right fun hm => ?_⟩
  rw [hm, moveLeaderCommand, hlook, Option.getD_some]

/-- The run of one tick on `readForecast` with the shipped tables moves the leadership to the
member `b92b49a4de72942d` of `192.168.0.82:2379`. -/
theorem mainLoop_commands_resolve_on_forecast :
    init.nodeIdToIp = init.nodeIdToIp ∧ init.ipToId = init.ipToId ∧
      Event.run (moveLeaderCommand init "192.168.0.38" "192.168.0.82") ∈
        (mainLoop init ⟨"192.168.0.38", 0⟩ none
          [⟨.returned (some readForecast), "2025-06-01 12:00", healthyEnv⟩]).events ∧
      ∃ a id, ("192.168.0.38", a) ∈ (mainLoop init ⟨"192.168.0.38", 0⟩ none
          [⟨.returned (some readForecast), "2025-06-01 12:00", healthyEnv⟩]).events.filterMap
          Event.transferOf ∧
        init.ipToId.lookup (a ++ ":2379") = some id ∧
        (moveLeaderCommand init "192.168.0.38" "192.168.0.82" = scpCommand historyCsv a historyCsv ∨
          moveLeaderCommand init "192.168.0.38" "192.168.0.82" =
            [etcdctlPath, "--endpoints=" ++ "192.168.0.38" ++ ":2379", "move-leader", id]) := by
  have hrun : Event.run (moveLeaderCommand init "192.168.0.38" "192.168.0.82") ∈
      (mainLoop init ⟨"192.168.0.38", 0⟩ none
        [⟨.returned (some readForecast), "2025-06-01 12:00", healthyEnv⟩]).events :=
    (mainLoop_runs_of_migrate [] (keepBlock_nil init ⟨"192.168.0.38", 0⟩)
      (target_readForecast (show init.nodeIdToIp = init.nodeIdToIp from rfl)
        "2025-06-01 12:00" healthyEnv) rfl rfl rfl).2
  exact ⟨rfl, rfl, hrun, mainLoop_commands_resolve init _ rfl rfl _ _ _ hrun⟩

/-! ### The decision log -/

/-- The decision log is written at most once in a run: nothing is written, or the run reached a
migrate tick after a block of keep ticks, nothing had been written before it, and then one
append of every decision of the run, in tick order, follows the header of a new file. -/
theorem mainLoop_log_writes (self : OptimalLeaderCalculator) (cfg : Config)
    (file : Option (List Row)) (ticks : List Tick) :
    (mainLoop self cfg file ticks).logger.writes = [] ∨
    ∃ pre t rest a, ticks = pre ++ t :: rest ∧ KeepBlock self cfg pre ∧
      t.target self cfg.selfIp = some a ∧
      (∀ j ≤ pre.length, (mainLoop self cfg file (ticks.take j)).logger.writes = []) ∧
      (mainLoop self cfg file ticks).logger.writes =
        (if file.isNone then [.header] else []) ++
          [.rows ((pre.map fun u => [u.now, cfg.selfIp]) ++ [[t.now, a]])] := by
  rcases mainLoop_cases self cfg file ticks with ⟨-, hs⟩ | ⟨pre, t, rest, rfl, hb, -, hs⟩
  · exact .inl (by rw [hs]; rfl)
  rw [hs]
  rcases ht : t.target self cfg.selfIp with _ | a
  · left
    by_cases hcap : cfg.capped (pre.length + 1)
    · rw [tick_keepState_cap ht hcap]
      rfl
    · rw [tick_keepState ht hcap]
      rfl
  cases hw : t.env.logWritable
  · exact .inl (tick_keepState_logFails ht hw).2.2
  refine .inr ⟨pre, t, rest, a, rfl, hb, ht, fun j hj => ?_, ?_⟩
  · rw [List.take_append_of_le_length hj, mainLoop_keepBlock (hb.take j)]
    rfl
  · rw [tick_keepState_migrate ht hw, migrate_logger]

/-- A run stopped by the cap returns with all its `MAX_ITERS` decisions still in the buffer:
it has written nothing, and the log file is as the run found it. -/
theorem mainLoop_cap_unflushed {self : OptimalLeaderCalculator} {cfg : Config}
    {file : Option (List Row)} {ticks : List Tick}
    (hcap : (mainLoop self cfg file ticks).exit = some .cap) :
    (mainLoop self cfg file ticks).logger.writes = [] ∧
      (mainLoop self cfg file ticks).logger.file = file ∧
      (mainLoop self cfg file ticks).logger.buffer =
        (ticks.take cfg.maxIters).map (fun t => [t.now, cfg.selfIp]) ∧
      0 < cfg.maxIters ∧ cfg.maxIters ≤ ticks.length := by
  rcases mainLoop_cases self cfg file ticks with ⟨-, hs⟩ | ⟨pre, t, rest, rfl, hb, -, hs⟩
  · simp [hs, keepState] at hcap
  rw [hs] at hcap ⊢
  obtain ⟨ht, hc⟩ := tick_keepState_eq_cap hcap
  have hlen : cfg.maxIters = pre.length + 1 := by
    have := hb.2
    simp only [Config.capped] at this hc
    omega
  rw [tick_keepState_cap ht hc]
  simp [keepState, hlen, List.take_append_eq_append_take]

/-- With `MAX_ITERS = 1`, a run whose one forecast raises stops at the cap with its keep row
still in the buffer, and no log file is written. -/
theorem mainLoop_cap_unflushed_after_one_tick :
    (mainLoop init ⟨"192.168.0.38", 1⟩ none
        [⟨.raised ⟨"RuntimeError"⟩, "2025-06-01 12:00", healthyEnv⟩]).exit = some .cap ∧
      (mainLoop init ⟨"192.168.0.38", 1⟩ none
        [⟨.raised ⟨"RuntimeError"⟩, "2025-06-01 12:00", healthyEnv⟩]).logger.writes = [] ∧
      (mainLoop init ⟨"192.168.0.38", 1⟩ none
        [⟨.raised ⟨"RuntimeError"⟩, "2025-06-01 12:00", healthyEnv⟩]).logger.file = none ∧
      (mainLoop init ⟨"192.168.0.38", 1⟩ none
        [⟨.raised ⟨"RuntimeError"⟩, "2025-06-01 12:00", healthyEnv⟩]).logger.buffer =
        [["2025-06-01 12:00", "192.168.0.38"]] ∧ 0 < 1 ∧ 1 ≤ 1 := by
  have hcap : (mainLoop init ⟨"192.168.0.38", 1⟩ none
      [⟨.raised ⟨"RuntimeError"⟩, "2025-06-01 12:00", healthyEnv⟩]).exit = some .cap := rfl
  exact ⟨hcap, mainLoop_cap_unflushed hcap⟩

/-! ### Exceptions and exits -/

/-- An exception raised in tick `k` of a running loop is caught there: the tick is recorded as
a keep for `self_ip`, like every tick before it, and the loop is still running after it unless
`k + 1` reaches a positive `MAX_ITERS`. -/
theorem mainLoop_error_tick (self : OptimalLeaderCalculator) (cfg : Config)
    (file : Option (List Row)) (ticks : List Tick) {k : Nat} (hk : k < ticks.length)
    {e : PyException} (he : runOnceAndDecide self cfg.selfIp ticks[k].predict = .error e)
    (hrun : (mainLoop self cfg file (ticks.take k)).exit = none) :
    (mainLoop self cfg file (ticks.take (k + 1))).events.filterMap Event.recordOf =
        List.replicate (k + 1) (cfg.selfIp, false) ∧
      (mainLoop self cfg file (ticks.take (k + 1))).exit =
        if cfg.capped (k + 1) then some .cap else none := by
  have hkeep : mainLoop self cfg file (ticks.take k) = keepState self cfg file (ticks.take k) := by
    rcases mainLoop_cases self cfg file (ticks.take k) with ⟨-, hs⟩ | ⟨_, _, _, -, -, hex, hs⟩
    · exact hs
    · rw [hs] at hrun
      simp [hrun] at hex
  have hlen : (ticks.take k).length = k := List.length_take_of_le hk.le
  have hstep : mainLoop self cfg file (ticks.take (k + 1)) =
      tick self cfg (keepState self cfg file (ticks.take k)) ticks[k] := by
    rw [List.take_succ, List.getElem?_eq_getElem hk, Option.toList_some, mainLoop,
      List.foldl_append, ← mainLoop, hkeep]
    rfl
  rw [hstep, tick_of_error (keepState_exit file _) he]
  constructor
  · simp [List.filterMap_append, (keepState_events self cfg file _).1, hlen, List.replicate_succ',
      Event.recordOf]
  · simp [keepState, hlen]

/-- A run whose first forecast raises records a keep for `self_ip` and, with no cap, goes on. -/
theorem mainLoop_error_tick_first :
    0 < [(⟨.raised ⟨"RuntimeError"⟩, "2025-06-01 12:00", healthyEnv⟩ : Tick)].length ∧
      runOnceAndDecide init "192.168.0.38" (PredictOutcome.raised ⟨"RuntimeError"⟩) =
        .error ⟨"RuntimeError"⟩ ∧
      (mainLoop init ⟨"192.168.0.38", 0⟩ none []).exit = none ∧
      (mainLoop init ⟨"192.168.0.38", 0⟩ none
          [⟨.raised ⟨"RuntimeError"⟩, "2025-06-01 12:00", healthyEnv⟩]).events.filterMap
          Event.recordOf = List.replicate 1 ("192.168.0.38", false) ∧
      (mainLoop init ⟨"192.168.0.38", 0⟩ none
          [⟨.raised ⟨"RuntimeError"⟩, "2025-06-01 12:00", healthyEnv⟩]).exit =
        if (⟨"192.168.0.38", 0⟩ : Config).capped 1 then some .cap else none :=
  ⟨by decide, rfl, rfl, @mainLoop_error_tick init ⟨"192.168.0.38", 0⟩ none
    [⟨.raised ⟨"RuntimeError"⟩, "2025-06-01 12:00", healthyEnv⟩] 0 (by decide) _ rfl rfl⟩

/-- The loop is left only at the cap after a keep decision, or at a migrate decision: with a
transfer when the log append succeeds, and by the log's `OSError`, with no transfer, when it
fails. -/
theorem mainLoop_exit_cases (self : OptimalLeaderCalculator) (cfg : Config)
    (file : Option (List Row)) (ticks : List Tick) :
    (mainLoop self cfg file ticks).exit = none ∨
    ∃ pre t rest, ticks = pre ++ t :: rest ∧ KeepBlock self cfg pre ∧
      ((t.target self cfg.selfIp = none ∧ cfg.capped (pre.length + 1) ∧
          (mainLoop self cfg file ticks).exit = some .cap) ∨
        ∃ a, t.target self cfg.selfIp = some a ∧
          ((t.env.logWritable = false ∧
              (mainLoop self cfg file ticks).exit = some (.raised ⟨"OSError"⟩) ∧
              (mainLoop self cfg file ticks).events.filterMap Event.transferOf = []) ∨
            (t.env.logWritable = true ∧
              (mainLoop self cfg file ticks).events.filterMap Event.transferOf =
                [(cfg.selfIp, a)]))) := by
  rcases mainLoop_cases self cfg file ticks with ⟨-, hs⟩ | ⟨pre, t, rest, rfl, hb, hex, hs⟩
  · exact .inl (by rw [hs]; rfl)
  refine .inr ⟨pre, t, rest, rfl, hb, ?_⟩
  rw [hs]
  rcases ht : t.target self cfg.selfIp with _ | a
  · by_cases hc : cfg.capped (pre.length + 1)
    · exact .inl ⟨rfl, hc, by rw [tick_keepState_cap ht hc]⟩
    · rw [tick_keepState ht hc] at hex
      cases hex
  refine .inr ⟨a, rfl, ?_⟩
  cases hw : t.env.logWritable
  · exact .inl ⟨rfl, (tick_keepState_logFails ht hw).2.1, by simp [tick_keepState_transfers, hw]⟩
  · exact .inr ⟨rfl, by simp [tick_keepState_transfers, hw, ht]⟩

/-- A migrate decision whose log append fails leaves the loop by that exception, before any
transfer is attempted. -/
theorem mainLoop_log_failure_exits {self : OptimalLeaderCalculator} {cfg : Config}
    {file : Option (List Row)} {pre : List Tick} {t : Tick} {a : String} (rest : List Tick)
    (hb : KeepBlock self cfg pre) (ht : t.target self cfg.selfIp = some a)
    (hw : t.env.logWritable = false) :
    (mainLoop self cfg file (pre ++ t :: rest)).exit = some (.raised ⟨"OSError"⟩) ∧
      (mainLoop self cfg file (pre ++ t :: rest)).events.filterMap Event.transferOf = [] := by
  have hex : (tick self cfg (keepState self cfg file pre) t).exit.isSome :=
    tick_keepState_exit (by simp [ht])
  rw [mainLoop_of_exit hb hex rest]
  exact ⟨(tick_keepState_logFails ht hw).2.1, by simp [tick_keepState_transfers, hw]⟩

/-- A first forecast that moves the leader, with a decision log that refuses the append, ends
the run by `OSError` with no transfer. -/
theorem mainLoop_log_failure_exits_on_forecast :
    KeepBlock init ⟨"192.168.0.38", 0⟩ [] ∧
      Tick.target init "192.168.0.38" ⟨.returned (some readForecast), "2025-06-01 12:00",
        { healthyEnv with logWritable := false }⟩ = some "192.168.0.82" ∧
      (mainLoop init ⟨"192.168.0.38", 0⟩ none [⟨.returned (some readForecast), "2025-06-01 12:00",
        { healthyEnv with logWritable := false }⟩]).exit = some (.raised ⟨"OSError"⟩) ∧
      (mainLoop init ⟨"192.168.0.38", 0⟩ none [⟨.returned (some readForecast), "2025-06-01 12:00",
        { healthyEnv with logWritable := false }⟩]).events.filterMap Event.transferOf = [] := by
  have hb := keepBlock_nil init ⟨"192.168.0.38", 0⟩
  have ht := target_readForecast (show init.nodeIdToIp = init.nodeIdToIp from rfl)
    "2025-06-01 12:00" { healthyEnv with logWritable := false }
  exact ⟨hb, ht, mainLoop_log_failure_exits [] hb ht rfl⟩

end PRaft.PredictLeader
