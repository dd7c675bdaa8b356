import PRaft.RaftStats
import PRaft.MoveLeader

/-!
The two scripts that act on the leadership by hand.

`check_leader.py` runs on one host. It reads the leader's URL from the table of
`etcdctl endpoint status`, and when the leader runs on this host it copies `raft_stats.csv` to
`192.168.0.38`, moves the leadership to `192.168.0.38:2379` and deletes its own copy. A run is a
function of the `Cluster` it acts on, the endpoint that leads and the hosts that hold the stats
file; what the environment answers (the local address, the table `etcdctl` prints, whether `scp`
and `move-leader` succeed) is a `CheckWorld`. The cluster's members are those of the script's
`IpToId`. A raise leaves the effects made before it, so a run returns how it ended together with
the cluster as it left it. `str.split()` splits at the Unicode whitespace of `isPySpace`, as
`read_raft_stats` models `strip()`.

`main` of `moveleader.py` reads the stats, finds the optimal leader, and then calls
`calculator.get_current_leader_ip()`, a module-level function the class does not have.

`checkLeaderMain_keeps_stats_at_leader` says when a run keeps the stats file on the leader's
host: always, except when the script runs on `192.168.0.38` while a member of that host on another
port leads; the copy then goes from the host to itself and `os.remove` deletes the only file.
`moveleaderMain_eq` says that `moveleader.py` never reaches its transfer: with distinct node ids,
every file it can read domains from ends in `AttributeError`.
-/

namespace PRaft.CheckLeader

open MoveLeader (isPySpace)

/-! ### The string builtins -/

/-- The line boundaries of `str.splitlines()`. -/
def isLineBreak (c : Char) : Bool :=
  c = '\n' || c = '\r' || c = '\x0b' || c = '\x0c' || ('\x1c' ≤ c && c ≤ '\x1e') ||
    c = '\x85' || c = '\u2028' || c = '\u2029'

/-- `splitlines()`, with the characters of the current line, reversed, in the first argument;
`\r\n` is one boundary. -/
def splitLinesFrom : List Char → List Char → List String
  | cur, [] => if cur.isEmpty then [] else [⟨cur.reverse⟩]
  | cur, '\r' :: '\n' :: cs => ⟨cur.reverse⟩ :: splitLinesFrom [] cs
  | cur, c :: cs =>
    if isLineBreak c then ⟨cur.reverse⟩ :: splitLinesFrom [] cs else splitLinesFrom (c :: cur) cs

/-- `s.splitlines()`. -/
def pySplitlines (s : String) : List String := splitLinesFrom [] s.data

/-- `split()` with no separator: the maximal runs of characters that are not spaces. -/
def splitWsFrom : List Char → List Char → List String
  | cur, [] => if cur.isEmpty then [] else [⟨cur.reverse⟩]
  | cur, c :: cs =>
    if isPySpace c then
      if cur.isEmpty then splitWsFrom [] cs else ⟨cur.reverse⟩ :: splitWsFrom [] cs
    else splitWsFrom (c :: cur) cs

/-- `s.split()`. -/
def pySplitWs (s : String) : List String := splitWsFrom [] s.data

/-- `split(sep)` for a non-empty `sep` (the code passes `//`, `://` and `:`): occurrences are
found left to right and do not overlap. `skip` counts the characters of the last occurrence still
to pass, as in `replaceFrom`. -/
def splitSepFrom (sep : List Char) : ℕ → List Char → List Char → List String
  | _, cur, [] => [⟨cur.reverse⟩]
  | 0, cur, c :: cs =>
    if sep.isPrefixOf (c :: cs) then ⟨cur.reverse⟩ :: splitSepFrom sep (sep.length - 1) [] cs
    else splitSepFrom sep 0 (c :: cur) cs
  | skip + 1, cur, _ :: cs => splitSepFrom sep skip cur cs

/-- `s.split(sep)`. -/
def pySplit (s sep : String) : List String := splitSepFrom sep.data 0 [] s.data

/-- `endpoint.split(":")[0]`, the host of an `ip:port`; `split` never returns an empty list. -/
def hostOf (endpoint : String) : String := (pySplit endpoint ":").headD ""

/-! ### The script -/

/-- `IpToId`, the same nine members as the calculators' table. -/
def ipToId : List (String × String) := OptimalLeaderCalculator.init.ipToId

/-- `get_leader`, on what `check_output` returns: `none` when `etcdctl` fails, which
`check_output` raises as `CalledProcessError`. The URL is the second field of the first line that
contains `true`; a line with one field raises `IndexError`. -/
def getLeader (output : Option String) : Except PyException (Option String) :=
  match output with
  | none => .error ⟨"CalledProcessError"⟩
  | some out =>
    match (pySplitlines out).find? (fun line => decide ("true".data <:+: line.data)) with
    | none => .ok none
    | some line =>
      match (pySplitWs line)[1]? with
      | none => .error ⟨"IndexError"⟩
      | some url => .ok (some url)

/-- `extract_ip`: `None` for `None` and the empty string, and otherwise the host between `//`
and the next `:`; a URL without `//` raises `IndexError`. -/
def extractIp (url : Option String) : Except PyException (Option String) :=
  match url with
  | none => .ok none
  | some u =>
    if u.isEmpty then .ok none
    else
      match (pySplit u "//")[1]? with
      | none => .error ⟨"IndexError"⟩
      | some rest => .ok (some ((pySplit rest ":").headD ""))

/-- What a run changes: the client endpoint `ip:port` of the leader, and the hosts that hold
`/etcd/etcd-release-3.4/raft_stats.csv`. -/
structure Cluster where
  leader : String
  hasStats : String → Bool

/-- What the environment answers a run: `get_local_ip()`, the output of
`etcdctl endpoint status` (`none` when the command fails), and whether `scp` and `move-leader`
exit with status 0. -/
structure CheckWorld where
  localIp : String
  status : Option String
  scpOk : Bool
  moveOk : Bool

/-- How a run ended, and the cluster as it left it. -/
abbrev Outcome := Except PyException Unit × Cluster

/-- Run `k` on the cluster a run left, unless that run raised. -/
def Outcome.andThen : Outcome → (Cluster → Outcome) → Outcome
  | (.ok (), c), k => k c
  | (.error e, c), _ => (.error e, c)

/-- The cluster after a copy of the stats file has been written to `host`. -/
def Cluster.copyTo (c : Cluster) (host : String) : Cluster :=
  { c with hasStats := fun h => h == host || c.hasStats h }

/-- The cluster after the stats file of `host` has been deleted. -/
def Cluster.removeFrom (c : Cluster) (host : String) : Cluster :=
  { c with hasStats := fun h => h != host && c.hasStats h }

@[simp] theorem Cluster.copyTo_leader (c : Cluster) (host : String) :
    (c.copyTo host).leader = c.leader := rfl
@[simp] theorem Cluster.copyTo_hasStats (c : Cluster) (host h : String) :
    (c.copyTo host).hasStats h = (h == host || c.hasStats h) := rfl
@[simp] theorem Cluster.removeFrom_leader (c : Cluster) (host : String) :
    (c.removeFrom host).leader = c.leader := rfl
@[simp] theorem Cluster.removeFrom_hasStats (c : Cluster) (host h : String) :
    (c.removeFrom host).hasStats h = (h != host && c.hasStats h) := rfl

/-- `scp_to_host(local_path, host, remote_path)`: `FileNotFoundError` when this host holds no stats
file, `CalledProcessError` when `scp` fails, and otherwise the file is on `host` as well. -/
def scpToHost (w : CheckWorld) (host : String) (c : Cluster) : Outcome :=
  if !c.hasStats w.localIp then (.error ⟨"FileNotFoundError"⟩, c)
  else if !w.scpOk then (.error ⟨"CalledProcessError"⟩, c)
  else (.ok (), c.copyTo host)

/-- `subprocess.run([ETCDCTL, ..., "move-leader", id], check=True)`: the member `id` takes over;
a failed command, or an id of no member, raises `CalledProcessError`. -/
def moveLeader (w : CheckWorld) (id : String) (c : Cluster) : Outcome :=
  match w.moveOk, ipToId.find? (·.2 == id) with
  | true, some (endpoint, _) => (.ok (), { c with leader := endpoint })
  | _, _ => (.error ⟨"CalledProcessError"⟩, c)

/-- `os.remove(local_path)`. -/
def removeLocal (w : CheckWorld) (c : Cluster) : Outcome :=
  if !c.hasStats w.localIp then (.error ⟨"FileNotFoundError"⟩, c)
  else (.ok (), c.removeFrom w.localIp)

/-- `moveleader_demo(local_ip, leader_url, local_path)`: every leader but `192.168.0.38:2379` is
moved there, the file first; `IpToId[target]` is looked up after the copy. -/
def moveleaderDemo (w : CheckWorld) (leaderUrl : String) (c : Cluster) : Outcome :=
  match (pySplit leaderUrl "://")[1]? with
  | none => (.error ⟨"IndexError"⟩, c)
  | some leaderEndpoint =>
    let target : Option String :=
      if leaderEndpoint ≠ "192.168.0.38:2379" then some "192.168.0.38:2379" else none
    match target with
    | none => (.ok (), c)
    | some target =>
      (scpToHost w ((pySplit target ":").headD "") c).andThen fun c =>
        match ipToId.lookup target with
        | none => (.error ⟨"KeyError"⟩, c)
        | some id => (moveLeader w id c).andThen (removeLocal w)

/-- `main`: act only when the leader's host is this host. `local_ip == leader_ip` is false when
`extract_ip` returned `None`. -/
def checkLeaderMain (w : CheckWorld) (c : Cluster) : Outcome :=
  match getLeader w.status with
  | .error e => (.error e, c)
  | .ok leaderUrl =>
    match extractIp leaderUrl with
    | .error e => (.error e, c)
    | .ok leaderIp =>
      match leaderUrl, leaderIp with
      | some url, some ip => if w.localIp = ip then moveleaderDemo w url c else (.ok (), c)
      | _, _ => (.ok (), c)

/-! ### A run on a member's URL -/

theorem split_member_url :
    ∀ endpoint ∈ ipToId.map Prod.fst,
      (pySplit ("http://" ++ endpoint) "//")[1]? = some endpoint ∧
      (pySplit ("http://" ++ endpoint) "://")[1]? = some endpoint ∧
      ("http://" ++ endpoint).isEmpty = false ∧ (pySplit endpoint ":").headD "" = hostOf endpoint ∧
      (hostOf endpoint = "192.168.0.38" ∧ endpoint ≠ "192.168.0.38:2379" ↔
        endpoint ∈ ["192.168.0.38:3379", "192.168.0.38:4379"]) := by
  decide

theorem extractIp_member_url {endpoint : String} (h : endpoint ∈ ipToId.map Prod.fst) :
    extractIp (some ("http://" ++ endpoint)) = .ok (some (hostOf endpoint)) := by
  obtain ⟨h1, -, he, h3, -⟩ := split_member_url endpoint h
  simp only [extractIp, h1, h3, he, Bool.false_eq_true, if_false]

theorem lookup_ipToId_target : ipToId.lookup "192.168.0.38:2379" = some "933ca51d2bb602b8" := by
  decide

theorem moveLeader_target (w : CheckWorld) (c : Cluster) :
    moveLeader w "933ca51d2bb602b8" c =
      if w.moveOk then (.ok (), { c with leader := "192.168.0.38:2379" })
      else (.error ⟨"CalledProcessError"⟩, c) := by
  have hfind : ipToId.find? (·.2 == "933ca51d2bb602b8") =
      some ("192.168.0.38:2379", "933ca51d2bb602b8") := by decide
  cases hm : w.moveOk <;> simp [moveLeader, hfind, hm]

/-- A run of `check_leader.py` whose table names the leader: nothing happens unless the leader runs
on this host and is not `192.168.0.38:2379`; then the copy, the move and the removal each happen
or raise in turn. -/
theorem checkLeaderMain_eq (w : CheckWorld) (c : Cluster) (hmem : c.leader ∈ ipToId.map Prod.fst)
    (hstatus : getLeader w.status = .ok (some ("http://" ++ c.leader))) :
    checkLeaderMain w c =
      if w.localIp = hostOf c.leader ∧ c.leader ≠ "192.168.0.38:2379" then
        if !c.hasStats w.localIp then (.error ⟨"FileNotFoundError"⟩, c)
        else if !w.scpOk then (.error ⟨"CalledProcessError"⟩, c)
        else
          if !w.moveOk then (.error ⟨"CalledProcessError"⟩, c.copyTo "192.168.0.38")
          else (.ok (), { c.copyTo "192.168.0.38" with leader := "192.168.0.38:2379" }.removeFrom w.localIp)
      else (.ok (), c) := by
  obtain ⟨-, h2, -, -, -⟩ := split_member_url c.leader hmem
  have hhost : (pySplit "192.168.0.38:2379" ":").headD "" = "192.168.0.38" := by decide
  simp only [checkLeaderMain, hstatus, extractIp_member_url hmem]
  by_cases hl : w.localIp = hostOf c.leader
  · simp only [hl, if_true, moveleaderDemo, h2]
    by_cases h38 : c.leader = "192.168.0.38:2379"
    · simp [h38]
    · simp only [ne_eq, h38, not_false_eq_true, and_true, if_true, hhost]
      cases hs : c.hasStats (hostOf c.leader) <;> cases hsc : w.scpOk <;> cases hm : w.moveOk <;>
        simp [scpToHost, hl, hs, hsc, hm, Outcome.andThen, lookup_ipToId_target, moveLeader_target,
          removeLocal]
  · simp [hl]

/-- The stats file is on the host of the leader. -/
def Cluster.StatsAtLeader (c : Cluster) : Prop := c.hasStats (hostOf c.leader) = true

instance Cluster.instDecidableStatsAtLeader (c : Cluster) : Decidable c.StatsAtLeader :=
  inferInstanceAs (Decidable (_ = true))

/-- A run of `check_leader.py` whose table names the leader keeps the stats file on the leader's
host, in every environment but one: the script runs on `192.168.0.38` while the member of that
host on port 3379 or 4379 leads, and both commands succeed. The file is then copied from the host
to itself, the leadership stays on the host, and `os.remove` deletes the only copy. -/
theorem checkLeaderMain_keeps_stats_at_leader (w : CheckWorld) (c : Cluster)
    (hmem : c.leader ∈ ipToId.map Prod.fst)
    (hstatus : getLeader w.status = .ok (some ("http://" ++ c.leader)))
    (hinv : c.StatsAtLeader) :
    (checkLeaderMain w c).2.StatsAtLeader ↔
      ¬ (w.localIp = "192.168.0.38" ∧ c.leader ∈ ["192.168.0.38:3379", "192.168.0.38:4379"] ∧
        w.scpOk = true ∧ w.moveOk = true) := by
  obtain ⟨-, -, -, -, hbad⟩ := split_member_url c.leader hmem
  have h38 : hostOf "192.168.0.38:2379" = "192.168.0.38" := by decide
  unfold Cluster.StatsAtLeader at hinv ⊢
  rw [checkLeaderMain_eq w c hmem hstatus, ← hbad]
  by_cases hact : w.localIp = hostOf c.leader ∧ c.leader ≠ "192.168.0.38:2379"
  · rw [if_pos hact]
    obtain ⟨hl, hne⟩ := hact
    rw [hl, hinv]
    cases w.scpOk <;> cases w.moveOk <;> simp [hinv, h38, hne, @eq_comm _ "192.168.0.38"]
  · rw [if_neg hact]
    simp only [hinv, true_iff]
    rintro ⟨hl, hb, -⟩
    exact hact ⟨hl.trans hb.1.symm, hb.2⟩

-- the one environment that loses the file: a cluster led by `192.168.0.38:3379`, read there
example :
    let w : CheckWorld := ⟨"192.168.0.38",
      some "| ENDPOINT | IS LEADER |\n| http://192.168.0.38:3379 | true |\n", true, true⟩
    let c : Cluster := ⟨"192.168.0.38:3379", (· == "192.168.0.38")⟩
    c.StatsAtLeader ∧ ¬ (checkLeaderMain w c).2.StatsAtLeader := by
  intro w c
  have hinv : c.StatsAtLeader := by decide
  refine ⟨hinv, (checkLeaderMain_keeps_stats_at_leader w c (by decide) rfl hinv).not.mpr ?_⟩
  simp [w, c]

end PRaft.CheckLeader

namespace PRaft.MoveLeader

/-! ### `main` of `moveleader.py` -/

/-- How `main` returns: no domains read, or no candidate that reaches its quorum. -/
inductive MainExit
  | noDomains
  | noOptimum
deriving DecidableEq, Repr

/-- `main` on the file `raft_stats.csv` (`none` when it does not exist). Once `find_optimal_leader`
returns a leader, `calculator.get_current_leader_ip()` raises `AttributeError`: the function is
defined at module level, not on the class. A bare `None` cannot be unpacked into two names. -/
def moveleaderMain (file : Option (List (List String))) : Except PyException MainExit :=
  let calculator := OptimalLeaderCalculator.init
  let domains := readRaftStats calculator file
  if domains.isEmpty then .ok .noDomains
  else
    match findOptimalLeader calculator domains with
    | .pair .none _ => .ok .noOptimum
    | .pair _ _ => .error ⟨"AttributeError"⟩
    | _ => .error ⟨"TypeError"⟩

section Single

variable {α : Type} [LinearOrderedCommRing α]

omit [LinearOrderedCommRing α] in
theorem sum_nodes_of_single {ds : List (Domain α)} (h : ∀ d ∈ ds, d.nodes = 1) :
    (ds.map Domain.nodes).sum = ds.length := by
  induction ds with
  | nil => rfl
  | cons d ds ih =>
    simp only [List.mem_cons, forall_eq_or_imp] at h
    simp [h.1, ih h.2, Nat.add_comm]

omit [LinearOrderedCommRing α] in
theorem length_others_of_nodup {ds : List (Domain α)} (hids : (ds.map Domain.id).Nodup)
    {L : Domain α} (hL : L ∈ ds) : (ds.filter (fun d => d.id != L.id)).length + 1 = ds.length := by
  obtain ⟨pre, post, rfl⟩ := List.append_of_mem hL
  simp only [List.map_append, List.map_cons, List.nodup_append, List.nodup_cons,
    List.disjoint_cons_right] at hids
  have hkeep : ∀ l : List (Domain α), L.id ∉ l.map Domain.id →
      l.filter (fun d => d.id != L.id) = l := fun l hl =>
    List.filter_eq_self.2 fun d hd => by
      simpa using fun h => hl (List.mem_map.2 ⟨d, hd, h⟩)
  rw [List.filter_append, List.filter_cons_of_neg (by simp), hkeep pre hids.2.2.1,
    hkeep post hids.2.1.1]
  simp only [List.length_append, List.length_cons]
  omega

omit [LinearOrderedCommRing α] in
/-- Among single-node domains of distinct ids every candidate reaches its quorum: the quorum
needs `n / 2` followers and a candidate has `n - 1`. -/
theorem calculateCommitLatency_isSome_of_single (self : OptimalLeaderCalculator)
    {ds : List (Domain α)} (hone : ∀ d ∈ ds, d.nodes = 1) (hids : (ds.map Domain.id).Nodup)
    {L : Domain α} (hL : L ∈ ds) :
    (calculateCommitLatency self L ds (quorumSize ds)).isSome := by
  have hlen := length_others_of_nodup hids hL
  rw [Option.isSome_iff_ne_none, Ne, calculateCommitLatency_eq_none_iff, quorumSize,
    sum_nodes_of_single hone]
  omega

end Single

/-! ### What `read_raft_stats` returns is single-node -/

section Parse

variable {self : OptimalLeaderCalculator} {lastRow : List String}

theorem parseNodes_single :
    ∀ {colIndex : ℕ} {nodeIds : List String}, ∀ d ∈ (parseNodes self lastRow colIndex nodeIds).1,
      d.nodes = 1
  | _, [], _, h => by simp [parseNodes] at h
  | colIndex, nodeId :: nodeIds, d, h => by
    rcases hd : domainAt self lastRow colIndex nodeId with e | o
    · simp [parseNodes, hd] at h
    simp only [parseNodes, hd, List.mem_append, Option.mem_toList] at h
    rcases h with rfl | h
    · exact (domainAt_eq_some hd).2.2.2.2.2.1
    · exact parseNodes_single d h

theorem parseNodes_ids_sublist :
    ∀ {colIndex : ℕ} {nodeIds : List String},
      ((parseNodes self lastRow colIndex nodeIds).1.map Domain.id).Sublist nodeIds
  | _, [] => by simp [parseNodes]
  | colIndex, nodeId :: nodeIds => by
    rcases hd : domainAt self lastRow colIndex nodeId with e | _ | d
    · simp [parseNodes, hd]
    · simpa [parseNodes, hd] using (parseNodes_ids_sublist).cons nodeId
    · simpa [parseNodes, hd, (domainAt_eq_some hd).1] using parseNodes_ids_sublist

theorem readRaftStats_single (rows : List (List String)) :
    (∀ d ∈ readRaftStats self (some rows), d.nodes = 1) ∧
      ((readRaftStats self (some rows)).map Domain.id).Sublist (nodeIdsOf (rows.headD [])) := by
  simp only [readRaftStats]
  split_ifs
  · simp
  · simp
  · exact ⟨fun d => parseNodes_single d, parseNodes_ids_sublist⟩

end Parse

/-- `main` of `moveleader.py` never transfers the leadership. With distinct node ids in the
header, every single-node domain reaches its quorum, so `find_optimal_leader` returns a leader
whenever `read_raft_stats` returns a domain, and `main` then raises `AttributeError`; it returns
only when it read no domain. -/
theorem moveleaderMain_eq {rows : List (List String)} (hids : (nodeIdsOf (rows.headD [])).Nodup) :
    moveleaderMain (some rows) =
      if readRaftStats .init (some rows) = [] then .ok .noDomains else .error ⟨"AttributeError"⟩ := by
  obtain ⟨hone, hsub⟩ := @readRaftStats_single OptimalLeaderCalculator.init rows
  have hnodup := hsub.nodup hids
  simp only [moveleaderMain]
  generalize readRaftStats .init (some rows) = ds at hone hnodup ⊢
  rcases ds with _ | ⟨d, ds⟩
  · rfl
  have hsome := calculateCommitLatency_isSome_of_single .init hone hnodup (List.mem_cons_self d ds)
  rcases runningMin_spec (candidateCost .init (d :: ds) (quorumSize (d :: ds))) (d :: ds) with
    ⟨-, hnone⟩ | ⟨L, c, hr, -⟩
  · have h := hnone d (List.mem_cons_self d ds)
    rw [candidateCost, Option.map_eq_none'] at h
    simp [h] at hsome
  · simp [findOptimalLeader, hr]

/-- A file with one node that has requests: `main` raises. -/
theorem moveleaderMain_one_node :
    let rows := [["timestamp", "933ca51d2bb602b8_write", "933ca51d2bb602b8_read"],
      ["1700000000", "5", "3"]]
    (nodeIdsOf (rows.headD [])).Nodup ∧ moveleaderMain (some rows) = .error ⟨"AttributeError"⟩ := by
  intro rows
  have hids : (nodeIdsOf (rows.headD [])).Nodup := by decide
  refine ⟨hids, ?_⟩
  rw [moveleaderMain_eq hids, if_neg (by decide)]

end PRaft.MoveLeader
