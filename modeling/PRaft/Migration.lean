import PRaft.Cluster

/-!
The migration executor of `predict_leader.py`: `scp_to_host`, `move_leader_with_timing`
and `check_and_transfer_leader`. The executor's effects on the outside world are returned
as a list of events, in the order the code performs them; `Env` says how each file write
and each external command behaves in the run at hand.
-/

namespace PRaft.PredictLeader

/-- What a run of `main` does that the outside world sees, or that a statement about the
run needs to name. -/
inductive Event where
  /-- `forecaster.predict(...)` is called. -/
  | predict
  /-- `logger.record(leader_ip, will_move)` is called. -/
  | record (leaderIp : String) (willMove : Bool)
  /-- `calc.check_and_transfer_leader(current_leader_ip, optimal_leader_ip)` is called. -/
  | transfer (currentLeaderIp optimalLeaderIp : String)
  /-- `subprocess.run(argv, check=True)` is started. -/
  | run (argv : List String)
  /-- `move_leader_with_timing` appends a row with this status to its CSV. -/
  | timing (status : String)
  /-- `os.remove(path)` succeeds. -/
  | remove (path : String)
  /-- `_append_metrics_row` appends the metrics row with this round count. -/
  | metrics (rounds : Nat)
deriving DecidableEq, Repr

/-- How the outside world behaves at one tick. -/
structure Env where
  /-- `PREDICT_LOG_CSV` accepts writes. -/
  logWritable : Bool
  /-- The history file exists when `scp_to_host` checks for it. -/
  historyExists : Bool
  /-- `scp` exits with status 0. -/
  scpSucceeds : Bool
  /-- `etcdctl move-leader` exits with status 0. -/
  moveLeaderSucceeds : Bool
  /-- `move_leader_timeA.csv` accepts the timing row. -/
  timingWritable : Bool
  /-- `os.remove` of the history file succeeds. -/
  removeSucceeds : Bool
  /-- `METRICS_CSV` accepts the metrics row. -/
  metricsWritable : Bool
deriving DecidableEq, Repr

/-- `local_path` and `remote_path` of `check_and_transfer_leader`, also `HISTORY_CSV`. -/
def historyCsv : String := "/etcd/etcd-release-3.4/raft_stats.csv"

/-- The `etcdctl` binary `check_and_transfer_leader` runs. -/
def etcdctlPath : String := "/etcd/etcd-release-3.4/bin/etcdctl"

/-- The command `scp_to_host` runs with its defaults `user="root", port=22, key=None`. -/
def scpCommand (localFile host remotePath : String) : List String :=
  ["scp", localFile, "root@" ++ host ++ ":" ++ remotePath]

/-- `scp_to_host`: `FileNotFoundError` for a missing local file, and the
`CalledProcessError` of `check=True` when `scp` fails. -/
def scpToHost (env : Env) (localFile host remotePath : String) :
    List Event × Option PyException :=
  if !env.historyExists then ([], some ⟨"FileNotFoundError"⟩)
  else ([.run (scpCommand localFile host remotePath)],
    if env.scpSucceeds then none else some ⟨"CalledProcessError"⟩)

/-- `move_leader_with_timing`: a failing command is caught and logged as `"failed"`; the
append to the timing CSV may raise. -/
def moveLeaderWithTiming (env : Env) (cmd : List String) : List Event × Option PyException :=
  let status := if env.moveLeaderSucceeds then "success" else "failed"
  if env.timingWritable then ([.run cmd, .timing status], none)
  else ([.run cmd], some ⟨"OSError"⟩)

/-- The `etcdctl move-leader` command of `check_and_transfer_leader`. The target's cluster
identity is looked up with `IpToId.get(endpoint, "unknown")`. -/
def moveLeaderCommand (self : OptimalLeaderCalculator) (currentLeaderIp optimalLeaderIp : String) :
    List String :=
  [etcdctlPath, "--endpoints=" ++ currentLeaderIp ++ ":2379", "move-leader",
    (self.ipToId.lookup (optimalLeaderIp ++ ":2379")).getD "unknown"]

/-- `check_and_transfer_leader`: copy the history file to the target, move the leadership,
delete the local history file. It returns `1` whenever it does not raise. -/
def checkAndTransferLeader (self : OptimalLeaderCalculator) (env : Env)
    (currentLeaderIp optimalLeaderIp : String) : List Event × Option PyException :=
  match scpToHost env historyCsv optimalLeaderIp historyCsv with
  | (copied, some e) => (copied, some e)
  | (copied, none) =>
    match moveLeaderWithTiming env (moveLeaderCommand self currentLeaderIp optimalLeaderIp) with
    | (moved, some e) => (copied ++ moved, some e)
    | (moved, none) =>
      if env.removeSucceeds then (copied ++ moved ++ [.remove historyCsv], none)
      else (copied ++ moved, some ⟨"OSError"⟩)

/-- The only commands the executor runs are the copy of the history file to the target and
the `move-leader` command naming the target's identity, or `"unknown"` when `IpToId` has
none; it never records, transfers or predicts. -/
theorem checkAndTransferLeader_events (self : OptimalLeaderCalculator) (env : Env)
    (current a : String) :
    ∀ ev ∈ (checkAndTransferLeader self env current a).1,
      ev = .run (scpCommand historyCsv a historyCsv) ∨
      ev = .run (moveLeaderCommand self current a) ∨
      (∃ status, ev = .timing status) ∨ ev = .remove historyCsv := by
  unfold checkAndTransferLeader scpToHost moveLeaderWithTiming
  cases env.historyExists <;> cases env.scpSucceeds <;> cases env.timingWritable <;>
    cases env.removeSucceeds <;> simp

theorem checkAndTransferLeader_runs (self : OptimalLeaderCalculator) {env : Env}
    (hh : env.historyExists = true) (hs : env.scpSucceeds = true) (current a : String) :
    Event.run (scpCommand historyCsv a historyCsv) ∈ (checkAndTransferLeader self env current a).1 ∧
    Event.run (moveLeaderCommand self current a) ∈ (checkAndTransferLeader self env current a).1 := by
  unfold checkAndTransferLeader scpToHost moveLeaderWithTiming
  cases env.timingWritable <;> cases env.removeSucceeds <;> simp [hh, hs]

end PRaft.PredictLeader
