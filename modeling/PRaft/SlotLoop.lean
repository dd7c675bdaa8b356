import PRaft.Workload
import PRaft.RaftStats

/-!
`rotate_ycsb.main` around its load matrix: the `--prop` table it forwards, the command of
`start_ycsb`, the escalation of `stop_process`, the row `append_total_stats_from_log` reads
from each slot's log, and the slot loop with its rounds.

The world is an input, as in the model of `update.py`: for every slot, where a `Ctrl+C`
arrives if it does, how far `stop_process` has to go before `go-ycsb` is gone, and the lines
of the slot's log when its statistics are read. Time is ideal, as in `Workload`, so the loop
runs one slot after another; a run is observed for `fuel` slots, since without `--rounds` it
only ends on `Ctrl+C` or an exception. The patterns read the log as Python's `re` reads a
`str`: `\s` and `\d` are Unicode whitespace and decimal digits, and `re.IGNORECASE` also lets
`ſ` match `s`. The few floats here are exact rationals: `load_base * p` before `round`, and the
average parsed by `float()` and divided by `1000.0`.

* `rotateMain_lifecycle`: every `go-ycsb` the loop starts is stopped before the next starts,
  and the runs are numbered `0, 1, 2, …`, whatever the world does.
* `rotateMain_rounds`: with `--rounds r` and no interruption, `main` runs exactly
  `3 * max r 1` slots and returns: `--rounds 0` still runs one full rotation.
* `rotateMain_opcount`: every `go-ycsb` gets `operationcount = max(1, round(base * p))` as
  the last `-p` of its command, so that it overrides `--prop`, between `1` and `load_base`.
-/

namespace PRaft.Workload

open MoveLeader (isPySpace isPyDigit pyDigitValue)

/-! ### `--prop` and the `go-ycsb` command -/

/-- `str.strip()`. -/
def pyStrip (s : String) : String :=
  ⟨((s.data.dropWhile isPySpace).reverse.dropWhile isPySpace).reverse⟩

/-- `d[k] = v` on a dict kept as its items in insertion order: a key already there keeps its
place. -/
def dictSet {β : Type} (d : List (String × β)) (k : String) (v : β) : List (String × β) :=
  if k ∈ d.map Prod.fst then d.map fun kv => if kv.1 = k then (k, v) else kv else d ++ [(k, v)]

/-- `kv.split('=', 1)`: the text before the first `=` and the text after it. -/
def splitEq (kv : String) : String × String :=
  (⟨kv.data.takeWhile (· ≠ '=')⟩, ⟨(kv.data.dropWhile (· ≠ '=')).drop 1⟩)

/-- The loop that builds `extra_props` from the `--prop` items, from the table `d`: both
sides of each item stripped, and `sys.exit` on an item with no `=`. -/
def extraProps (d : List (String × String)) : List String → Except String (List (String × String))
  | [] => .ok d
  | kv :: kvs =>
    if '=' ∈ kv.data then extraProps (dictSet d (pyStrip (splitEq kv).1) (pyStrip (splitEq kv).2)) kvs
    else .error ("ERROR: --prop expects key=value, got: " ++ kv)

/-- The command of `start_ycsb`; the output of `go-ycsb` goes to the slot's log file. -/
def startYcsb (goycsb db workload selfEndpoint : String) (threads : Option ℤ)
    (extraProps : List (String × String)) (opcount : ℤ) : List String :=
  [goycsb, "run", db, "-P", workload, "-p", "etcd.endpoints=" ++ selfEndpoint] ++
    (threads.map fun t => ["-p", "threadcount=" ++ toString t]).getD [] ++
    extraProps.flatMap (fun kv => ["-p", kv.1 ++ "=" ++ kv.2]) ++
    ["-p", "operationcount=" ++ toString opcount]

/-- The properties a `go-ycsb` command line sets, read as the docstrings of `start_ycsb` and
`ymc.py` describe it: each `-p key=value` sets `key`, a later one overriding an earlier. -/
def readPFlags (d : List (String × String)) : List String → List (String × String)
  | "-p" :: kv :: rest => readPFlags (dictSet d (splitEq kv).1 (splitEq kv).2) rest
  | _ :: rest => readPFlags d rest
  | [] => d

/-- The signals `stop_process` sends to the process group of `go-ycsb`. -/
inductive Signal
  | sigint
  | sigterm
  | sigkill
deriving DecidableEq, Repr

/-- How far `stop_process` gets before `proc.poll()` sees `go-ycsb` gone: it had exited before
the call, or it exits within the grace second after `SIGINT`, or after `SIGTERM`, or never. -/
inductive Yield
  | exited
  | sigint
  | sigterm
  | never
deriving DecidableEq, Repr

/-- `stop_process(proc)` for a started process: the signals it sends, in order. `SIGKILL`
is sent with no wait after it. -/
def stopProcess : Yield → List Signal
  | .exited => []
  | .sigint => [.sigint]
  | .sigterm => [.sigint, .sigterm]
  | .never => [.sigint, .sigterm, .sigkill]

theorem dictSet_cons_of_ne {β : Type} {a k : String} (b v : β) (d : List (String × β)) (h : a ≠ k) :
    dictSet ((a, b) :: d) k v = (a, b) :: dictSet d k v := by
  by_cases hk : k ∈ d.map Prod.fst <;> simp [dictSet, hk, h, Ne.symm h]

theorem lookup_dictSet_self {β : Type} (d : List (String × β)) (k : String) (v : β) :
    (dictSet d k v).lookup k = some v := by
  induction d with
  | nil => simp [dictSet]
  | cons kv d ih =>
    obtain ⟨a, b⟩ := kv
    by_cases h : a = k
    · subst h; simp [dictSet]
    · have hka : (k == a) = false := beq_false_of_ne (Ne.symm h)
      rw [dictSet_cons_of_ne b v d h, List.lookup_cons, hka, ih]

theorem ne_pFlag {x : String} (hx : '=' ∈ x.data) : x ≠ "-p" := by
  rintro rfl; exact absurd hx (by decide)

theorem readPFlags_append_pair (d : List (String × String)) (xs : List String) {a : String}
    (ha : '=' ∈ a.data) (kv : String) :
    ∃ d', readPFlags d (xs ++ [a, "-p", kv]) = dictSet d' (splitEq kv).1 (splitEq kv).2 := by
  induction d, xs using readPFlags.induct with
  | case1 d y rest ih => rw [List.cons_append, List.cons_append, readPFlags.eq_1]; exact ih
  | case2 d x rest hx ih =>
    by_cases hxp : x = "-p"
    · obtain rfl : rest = [] := by
        cases rest with
        | nil => rfl
        | cons y rest => exact (hx y rest hxp rfl).elim
      subst hxp
      exact ⟨dictSet d (splitEq a).1 (splitEq a).2, by simp [readPFlags.eq_1, readPFlags.eq_3]⟩
    · rw [List.cons_append, readPFlags.eq_2 _ _ _ fun _ _ h _ => hxp h]; exact ih
  | case3 d =>
    refine ⟨d, ?_⟩
    rw [List.nil_append, readPFlags.eq_2 _ _ _ fun _ _ h _ => ne_pFlag ha h, readPFlags.eq_1,
      readPFlags.eq_3]

theorem startYcsb_eq_append (goycsb db workload ep : String) (threads : Option ℤ)
    (props : List (String × String)) (opcount : ℤ) :
    startYcsb goycsb db workload ep threads props opcount =
      [goycsb, "run", db, "-P", workload, "-p"] ++ ("etcd.endpoints=" ++ ep) ::
        (((threads.map fun t => ["threadcount=" ++ toString t]).getD [] ++
          props.map fun kv => kv.1 ++ "=" ++ kv.2).flatMap fun v => ["-p", v]) ++
        ["-p", "operationcount=" ++ toString opcount] := by
  cases threads <;> simp [startYcsb, List.flatMap_append, List.flatMap_map]

/-- `-p operationcount=<opcount>` comes last in `start_ycsb`'s command, so it overrides an
`operationcount` from `--prop`, as the docstring of `start_ycsb` says. -/
theorem startYcsb_operationcount (goycsb db workload ep : String) (threads : Option ℤ)
    (props : List (String × String)) (opcount : ℤ) :
    (readPFlags [] (startYcsb goycsb db workload ep threads props opcount)).lookup
      "operationcount" = some (toString opcount) := by
  have hkey : splitEq ("operationcount=" ++ toString opcount) = ("operationcount", toString opcount) := by
    simp [splitEq, List.takeWhile_append, List.dropWhile_append]
  obtain ⟨xs, a, ha, heq⟩ : ∃ xs a, '=' ∈ a.data ∧ startYcsb goycsb db workload ep threads props opcount =
      xs ++ [a, "-p", "operationcount=" ++ toString opcount] := by
    rw [startYcsb_eq_append]
    rcases List.eq_nil_or_concat ((threads.map fun t => ["threadcount=" ++ toString t]).getD [] ++
        props.map fun kv => kv.1 ++ "=" ++ kv.2) with h | ⟨vs, v, h⟩
    · exact ⟨[goycsb, "run", db, "-P", workload, "-p"], "etcd.endpoints=" ++ ep, by simp,
        by rw [h]; rfl⟩
    · refine ⟨[goycsb, "run", db, "-P", workload, "-p"] ++ ("etcd.endpoints=" ++ ep) ::
        (vs.flatMap fun v => ["-p", v]) ++ ["-p"], v, ?_,
        by rw [h, List.concat_eq_append, List.flatMap_append]; simp⟩
      have hv : v ∈ (threads.map fun t => ["threadcount=" ++ toString t]).getD [] ++
          props.map fun kv => kv.1 ++ "=" ++ kv.2 := by rw [h]; simp
      cases threads <;> simp only [Option.map_none', Option.map_some', Option.getD_none,
        Option.getD_some, List.nil_append, List.mem_map, List.cons_append, List.singleton_append,
        List.mem_cons, Prod.exists] at hv
      · obtain ⟨a, b, -, rfl⟩ := hv; simp
      · rcases hv with rfl | ⟨a, b, -, rfl⟩ <;> simp
  obtain ⟨d', hd'⟩ := readPFlags_append_pair [] xs ha ("operationcount=" ++ toString opcount)
  rw [heq, hd', hkey, lookup_dictSet_self]

/-! ### `append_total_stats_from_log` -/

/-- `re.search` for a pattern that `matchAt` matches at a position: the leftmost match. -/
def searchFrom {α : Type} (matchAt : List Char → Option α) : List Char → Option α
  | [] => matchAt []
  | c :: cs => (matchAt (c :: cs)).or (searchFrom matchAt cs)

/-- `.*?` followed by the rest of a pattern, which `rest` matches at a position: the first
position, past no newline, where the rest matches. -/
def lazyThen {α : Type} (rest : List Char → Option α) : List Char → Option α
  | [] => rest []
  | c :: cs => (rest (c :: cs)).or (if c = '\n' then none else lazyThen rest cs)

/-- `re.IGNORECASE` on a pattern character written in lower case: `c` matches `p` when it
lowers to `p`, or when `p` is `s` and `c` is `ſ`, which `re` counts as the same letter. No
other character lowers to a letter of these patterns. -/
def matchesIgnoreCase (p c : Char) : Bool :=
  c.toLower == p || (p == 's' && c == '\u017f')

/-- A pattern in lower case at the start of `s`, under `re.IGNORECASE`. -/
def ignoreCasePrefix : List Char → List Char → Bool
  | [], _ => true
  | _ :: _, [] => false
  | p :: ps, c :: cs => matchesIgnoreCase p c && ignoreCasePrefix ps cs

/-- `int()` of a run of decimal digits. -/
def decimalValue (ds : List Char) : ℕ :=
  ds.foldl (fun n c => 10 * n + (pyDigitValue c).getD 0) 0

/-- `float(s)` for a run of digits and dots: `none` where Python raises `ValueError`. -/
def floatOfDigits (s : List Char) : Option ℚ :=
  match s.dropWhile isPyDigit with
  | [] => some (decimalValue s)
  | '.' :: frac =>
    if frac.all isPyDigit ∧ (s.takeWhile isPyDigit ≠ [] ∨ frac ≠ []) then
      some (decimalValue (s.takeWhile isPyDigit) + decimalValue frac / 10 ^ frac.length)
    else none
  | _ => none

/-- `"operationcount"\s*=\s*"(\d+)"` at the start of `s`: the digits it captures. -/
def opcountAt (s : List Char) : Option (List Char) :=
  if "\x22operationcount\x22".data.isPrefixOf s then
    match (s.drop 16).dropWhile isPySpace with
    | '=' :: r =>
      match r.dropWhile isPySpace with
      | '\x22' :: t =>
        if t.takeWhile isPyDigit ≠ [] ∧ (t.dropWhile isPyDigit).head? = some '\x22' then
          some (t.takeWhile isPyDigit)
        else none
      | _ => none
    | _ => none
  else none

/-- `Avg\(us\):\s*([\d.]+)` at the start of `s`, in any case: the digits and dots it
captures, as many as there are. -/
def avgAt (s : List Char) : Option (List Char) :=
  if ignoreCasePrefix "avg(us):".data s then
    let v := ((s.drop 8).dropWhile isPySpace).takeWhile fun c => isPyDigit c || c = '.'
    if v = [] then none else some v
  else none

/-- `Count:\s*(\d+).*?Avg\(us\):\s*([\d.]+)` at the start of `s`, in any case. `(\d+)` keeps
all its digits: giving some back only lets `.*?` pass them. -/
def countAt (s : List Char) : Option (List Char × List Char) :=
  if ignoreCasePrefix "count:".data s then
    let r := (s.drop 6).dropWhile isPySpace
    if r.takeWhile isPyDigit = [] then none
    else (lazyThen avgAt (r.dropWhile isPyDigit)).map fun a => (r.takeWhile isPyDigit, a)
  else none

/-- `re_total.search(line)`, for `^TOTAL\s+-.*?Count:\s*(\d+).*?Avg\(us\):\s*([\d.]+)` with
`re.IGNORECASE`: without `re.M`, `^` holds only at the start of the line. -/
def totalAt (s : List Char) : Option (List Char × List Char) :=
  if ignoreCasePrefix "total".data s ∧ (s.drop 5).takeWhile isPySpace ≠ [] then
    match (s.drop 5).dropWhile isPySpace with
    | '-' :: t => lazyThen countAt t
    | _ => none
  else none

/-- `append_total_stats_from_log` on the lines of a log: the values of the row it appends,
`operationcount` from the first line that has one and the `TOTAL` count and average, in ms,
from the last `TOTAL` line, or nothing when one of them is missing. `float()` raises
`ValueError` on an average such as `1.2.3` before the check that all three were found. -/
def appendTotalStatsFromLog (lines : List String) : Except PyException (Option (ℤ × ℤ × ℚ)) :=
  match lines.reverse.findSome? fun l => totalAt l.data with
  | none => .ok none
  | some (count, avg) =>
    match floatOfDigits avg with
    | none => .error ⟨"ValueError"⟩
    | some avgUs =>
      .ok ((lines.findSome? fun l => searchFrom opcountAt l.data).map fun op =>
        (decimalValue op, decimalValue count, avgUs / 1000))

/-! ### The slot loop -/

/-- `my_ep`, the endpoint every `go-ycsb` of this machine targets. -/
def myEp : String := "192.168.0.38:2379"

/-- Where a `Ctrl+C` reaches the slot loop: in the sleep up to the slot's start, when no
`go-ycsb` runs, or in the sleep through the slot's window, while one runs. -/
inductive Pause
  | beforeStart
  | inWindow
deriving DecidableEq, Repr

/-- What the world does in one slot: where a `Ctrl+C` arrives, if it does; how far
`stop_process` has to go; and the lines of the slot's log when its statistics are read. -/
structure SlotWorld where
  interrupt : Option Pause
  yield : Yield
  log : List String

/-- What `rotate_ycsb.main` does that the outside world sees. -/
inductive SlotEvent
  /-- `call_delete()` runs `delete.sh`. -/
  | delete
  /-- `write_hotspot_plan` writes `rightIP.csv`. -/
  | writePlan
  /-- `start_ycsb` starts `go-ycsb` for a slot. -/
  | start (slot : ℕ) (argv : List String)
  /-- `stop_process` sends these signals. -/
  | stop (signals : List Signal)
  /-- A row of `timesA.csv`, after the header when the file did not exist. -/
  | appendStats (header : Bool) (opcount totalCount : ℤ) (totalAvgMs : ℚ)
  /-- `KeyboardInterrupt` is caught. -/
  | interrupted
  /-- The loop `break`s after this many full rotations. -/
  | completed (rounds : ℕ)
deriving DecidableEq, Repr

/-- What the slot loop reads of `main`'s set-up. The matrix has `load_rows` rows. -/
structure SlotConfig where
  goycsb : String
  db : String
  workload : String
  threads : Option ℤ
  extraProps : List (String × String)
  loadRows : ℕ
  loadBase : ℤ
  matrix : List (Fin 3 → ℚ)
  domainCol : Fin 3
  rounds : Option ℤ
  matrix_length : matrix.length = loadRows

/-- `opcount = max(1, int(round(args.load_base * p)))` for `p = M[slot % load_rows,
domain_col]`. -/
def SlotConfig.opcount (cfg : SlotConfig) (slot : ℕ) (h : cfg.loadRows ≠ 0) : ℤ :=
  max 1 (pyRound (cfg.loadBase * cfg.matrix.get ⟨slot % cfg.loadRows,
    by rw [cfg.matrix_length]; exact Nat.mod_lt _ (Nat.pos_of_ne_zero h)⟩ cfg.domainCol))

/-- How a slot ends the loop, or the state the next slot starts from. -/
inductive SlotOutcome
  | exit (exc : Option PyException)
  | next (rounds : ℕ) (timesExists : Bool)

/-- One slot of the loop, from `rounds_completed = rounds`: its events and its outcome.
`slot % load_rows` raises `ZeroDivisionError` when there are no rows; `proc` is `None`
before the slot's start, so a `Ctrl+C` there stops nothing. -/
def slotStep (cfg : SlotConfig) (w : SlotWorld) (slot rounds : ℕ) (timesExists : Bool) :
    List SlotEvent × SlotOutcome :=
  if w.interrupt = some .beforeStart then ([.interrupted], .exit none)
  else if h : cfg.loadRows = 0 then ([], .exit (some ⟨"ZeroDivisionError"⟩))
  else
    let start := SlotEvent.start slot
      (startYcsb cfg.goycsb cfg.db cfg.workload myEp cfg.threads cfg.extraProps (cfg.opcount slot h))
    let stop := SlotEvent.stop (stopProcess w.yield)
    if w.interrupt = some .inWindow then ([start, .interrupted, stop], .exit none)
    else
      match appendTotalStatsFromLog w.log with
      | .error e => ([start, stop], .exit (some e))
      | .ok row =>
        let evs := start :: stop ::
          (row.map fun r => SlotEvent.appendStats (!timesExists) r.1 r.2.1 r.2.2).toList
        let rounds' := if (slot + 1) % rotateEndpoints.length = 0 then rounds + 1 else rounds
        if (slot + 1) % rotateEndpoints.length = 0 ∧ cfg.rounds.any (· ≤ (rounds' : ℤ)) then
          (evs ++ [.completed rounds'], .exit none)
        else (evs, .next rounds' (timesExists || row.isSome))

/-- The slot loop from slot `slot`, observed for `fuel` slots: its events, and the exception
that leaves it, if one does. -/
def slotLoop (cfg : SlotConfig) (world : ℕ → SlotWorld) :
    ℕ → ℕ → ℕ → Bool → List SlotEvent × Option PyException
  | 0, _, _, _ => ([], none)
  | fuel + 1, slot, rounds, timesExists =>
    match slotStep cfg (world slot) slot rounds timesExists with
    | (evs, .exit exc) => (evs, exc)
    | (evs, .next rounds' timesExists') =>
      ((evs ++ (slotLoop cfg world fuel (slot + 1) rounds' timesExists').1),
        (slotLoop cfg world fuel (slot + 1) rounds' timesExists').2)

theorem SlotConfig.opcount_eq (cfg : SlotConfig) (slot : ℕ) (h0 : cfg.loadRows ≠ 0) :
    ∃ row, cfg.matrix[slot % cfg.loadRows]? = some row ∧
      cfg.opcount slot h0 = max 1 (pyRound (cfg.loadBase * row cfg.domainCol)) :=
  ⟨_, List.getElem?_eq_getElem _, rfl⟩

/-- With shares in `[0, 1]`, the opcount is at least 1 and at most `load_base`, or 1 when
`load_base` is not positive. -/
theorem opcount_mem {base : ℤ} {p : ℚ} (hp : 0 ≤ p ∧ p ≤ 1) :
    1 ≤ max 1 (pyRound (base * p)) ∧ max 1 (pyRound (base * p)) ≤ max 1 base := by
  have hle : base * p ≤ ((max 0 base : ℤ) : ℚ) := by
    rcases le_total 0 base with hb | hb
    · rw [max_eq_right hb]
      exact mul_le_of_le_one_right (by exact_mod_cast hb) hp.2
    · rw [max_eq_left hb, Int.cast_zero]
      exact mul_nonpos_of_nonpos_of_nonneg (by exact_mod_cast hb) hp.1
  have := (pyRound_le_ceil _).trans (Int.ceil_le.2 hle)
  constructor <;> omega

theorem generateAbcMatrix_share_mem {rand : ℕ → ℚ} (hrand : ∀ k, 0 ≤ rand k ∧ rand k ≤ 1)
    {nRows i : ℕ} {row : Fin 3 → ℚ} (h : (generateAbcMatrix nRows rand)[i]? = some row)
    (j : Fin 3) : 0 ≤ row j ∧ row j ≤ 1 := by
  obtain ⟨hi, rfl⟩ := List.getElem?_eq_some_iff.1 h
  obtain ⟨k, hk⟩ := getElem_generateAbcMatrix rand nRows i hi
  obtain ⟨hnn, hsum, -⟩ := abcRow_spec rand i k (hrand k) (hrand (k + 1))
  rw [hk]
  have h0 := hnn 0; have h1 := hnn 1; have h2 := hnn 2
  fin_cases j <;> exact ⟨hnn _, by simp only [Fin.zero_eta, Fin.mk_one, Fin.reduceFinMk] at *; linarith⟩

/-! ### Each `go-ycsb` is stopped before the next one starts -/

/-- The events that start or stop `go-ycsb`. -/
def SlotEvent.isProc : SlotEvent → Bool
  | .start _ _ | .stop _ => true
  | _ => false

/-- `go-ycsb` runs numbered from `slot` on, each started and then stopped. -/
def startStopFrom : ℕ → List (List String × List Signal) → List SlotEvent
  | _, [] => []
  | slot, (argv, sigs) :: runs => .start slot argv :: .stop sigs :: startStopFrom (slot + 1) runs

theorem filter_isProc_stats (row : Option (ℤ × ℤ × ℚ)) (te : Bool) :
    (row.map fun r => SlotEvent.appendStats te r.1 r.2.1 r.2.2).toList.filter SlotEvent.isProc = [] := by
  cases row <;> rfl

/-- A slot starts at most one `go-ycsb`, for its own opcount, and stops it; a slot that hands
on to the next one did start and stop one. -/
theorem slotStep_proc (cfg : SlotConfig) (w : SlotWorld) (slot rounds : ℕ) (te : Bool) :
    ((slotStep cfg w slot rounds te).1.filter SlotEvent.isProc = [] ∧
      ∃ exc, (slotStep cfg w slot rounds te).2 = .exit exc) ∨
    ∃ h : cfg.loadRows ≠ 0, (slotStep cfg w slot rounds te).1.filter SlotEvent.isProc =
      [.start slot (startYcsb cfg.goycsb cfg.db cfg.workload myEp cfg.threads cfg.extraProps
        (cfg.opcount slot h)), .stop (stopProcess w.yield)] := by
  unfold slotStep
  by_cases hb : w.interrupt = some .beforeStart
  · exact .inl ⟨by simp [hb, SlotEvent.isProc], none, by simp [hb]⟩
  by_cases h0 : cfg.loadRows = 0
  · exact .inl ⟨by simp [hb, h0], some ⟨"ZeroDivisionError"⟩, by simp [hb, h0]⟩
  refine .inr ⟨h0, ?_⟩
  simp only [hb, h0, if_false, dite_false]
  by_cases hw : w.interrupt = some .inWindow
  · simp [hw, SlotEvent.isProc]
  rw [if_neg hw]
  split
  · simp [SlotEvent.isProc]
  · split_ifs <;> simp [SlotEvent.isProc, List.filter_append, filter_isProc_stats]

/-- Every `go-ycsb` the slot loop starts, it stops before it starts the next, and the runs are
the slots from `slot` on, in order. -/
theorem slotLoop_lifecycle (cfg : SlotConfig) (world : ℕ → SlotWorld) :
    ∀ fuel slot rounds te, ∃ runs : List (List String × List Signal),
      (slotLoop cfg world fuel slot rounds te).1.filter SlotEvent.isProc = startStopFrom slot runs
  | 0, _, _, _ => ⟨[], rfl⟩
  | fuel + 1, slot, rounds, te => by
    rcases slotStep_proc cfg (world slot) slot rounds te with ⟨hf, exc, hexc⟩ | ⟨h0, hf⟩
    · refine ⟨[], ?_⟩
      rcases hs : slotStep cfg (world slot) slot rounds te with ⟨evs, _ | _⟩
      · simp only [hs] at hf
        simp [slotLoop, hs, hf, startStopFrom]
      · simp [hs] at hexc
    · rcases hs : slotStep cfg (world slot) slot rounds te with ⟨evs, _ | ⟨rounds', te'⟩⟩
      · simp only [hs] at hf
        exact ⟨[(_, _)], by simp [slotLoop, hs, hf, startStopFrom]; exact ⟨rfl, rfl⟩⟩
      · simp only [hs] at hf
        obtain ⟨runs, hruns⟩ := slotLoop_lifecycle cfg world fuel (slot + 1) rounds' te'
        exact ⟨(_, _) :: runs, by
          simp [slotLoop, hs, List.filter_append, hf, hruns, startStopFrom]; exact ⟨rfl, rfl⟩⟩

theorem slotLoop_start (cfg : SlotConfig) (world : ℕ → SlotWorld) :
    ∀ fuel slot rounds te k argv, SlotEvent.start k argv ∈ (slotLoop cfg world fuel slot rounds te).1 →
      ∃ h0 : cfg.loadRows ≠ 0, argv = startYcsb cfg.goycsb cfg.db cfg.workload myEp cfg.threads
        cfg.extraProps (cfg.opcount k h0)
  | 0, _, _, _, _, _, h => by simp [slotLoop] at h
  | fuel + 1, slot, rounds, te, k, argv, h => by
    have hproc : ∀ evs : List SlotEvent, SlotEvent.start k argv ∈ evs →
        SlotEvent.start k argv ∈ evs.filter SlotEvent.isProc := fun _ h => List.mem_filter.2 ⟨h, rfl⟩
    have hstep : SlotEvent.start k argv ∈ (slotStep cfg (world slot) slot rounds te).1 → ∃ h0, argv =
        startYcsb cfg.goycsb cfg.db cfg.workload myEp cfg.threads cfg.extraProps (cfg.opcount k h0) := by
      intro hk
      rcases slotStep_proc cfg (world slot) slot rounds te with ⟨hf, -⟩ | ⟨h0, hf⟩
      · simpa [hf] using hproc _ hk
      · have := hproc _ hk
        simp only [hf, List.mem_cons, SlotEvent.start.injEq, List.mem_singleton, reduceCtorEq,
          or_false, List.not_mem_nil] at this
        obtain ⟨rfl, rfl⟩ := this
        exact ⟨h0, rfl⟩
    rcases hs : slotStep cfg (world slot) slot rounds te with ⟨evs, _ | ⟨rounds', te'⟩⟩ <;>
      simp only [slotLoop, hs, List.mem_append] at h hstep
    · exact hstep h
    · exact h.elim hstep (slotLoop_start cfg world fuel (slot + 1) rounds' te' k argv)

/-! ### Rounds -/

/-- A slot the world leaves alone: no `Ctrl+C`, and a log whose `TOTAL` average `float()`
reads. -/
def SlotWorld.Quiet (w : SlotWorld) : Prop :=
  w.interrupt = none ∧ ∃ row, appendTotalStatsFromLog w.log = .ok row

/-- A quiet slot starts and stops one `go-ycsb`, counts a rotation when it ends one, and
leaves the loop exactly when the count reaches `--rounds`. -/
theorem slotStep_quiet {cfg : SlotConfig} {w : SlotWorld} (hw : w.Quiet) (h0 : cfg.loadRows ≠ 0)
    (slot rounds : ℕ) (te : Bool) :
    ∃ (evs : List SlotEvent) (te' : Bool), evs.filter SlotEvent.isProc =
        [.start slot (startYcsb cfg.goycsb cfg.db cfg.workload myEp cfg.threads cfg.extraProps
          (cfg.opcount slot h0)), .stop (stopProcess w.yield)] ∧
      slotStep cfg w slot rounds te =
        if (slot + 1) % 3 = 0 ∧ cfg.rounds.any (· ≤ ((rounds + 1 : ℕ) : ℤ)) then
          (evs ++ [.completed (rounds + 1)], .exit none)
        else (evs, .next (if (slot + 1) % 3 = 0 then rounds + 1 else rounds) te') := by
  obtain ⟨hi, row, hrow⟩ := hw
  refine ⟨.start slot (startYcsb cfg.goycsb cfg.db cfg.workload myEp cfg.threads cfg.extraProps
      (cfg.opcount slot h0)) :: .stop (stopProcess w.yield) ::
      (row.map fun r => SlotEvent.appendStats (!te) r.1 r.2.1 r.2.2).toList, te || row.isSome,
    by simp [SlotEvent.isProc, filter_isProc_stats], ?_⟩
  have h3 : rotateEndpoints.length = 3 := rfl
  simp only [slotStep, hi, hrow, h3, h0, dite_false, reduceCtorEq, if_false]
  by_cases hs : (slot + 1) % 3 = 0 <;> simp only [hs, if_true, if_false, true_and, false_and]

/-- From slot `slot`, with the rotations before it counted, a quiet world runs the slots up to
`3 * max r 1` and leaves the loop after the last, having counted `max r 1` rotations. -/
theorem slotLoop_rounds {cfg : SlotConfig} {world : ℕ → SlotWorld} (hq : ∀ k, (world k).Quiet)
    (h0 : cfg.loadRows ≠ 0) {r : ℤ} (hr : cfg.rounds = some r) :
    ∀ fuel slot te, slot < 3 * (max r 1).toNat → 3 * (max r 1).toNat ≤ slot + fuel →
      ∃ runs : List (List String × List Signal),
        (slotLoop cfg world fuel slot (slot / 3) te).1.filter SlotEvent.isProc =
          startStopFrom slot runs ∧ slot + runs.length = 3 * (max r 1).toNat ∧
        (slotLoop cfg world fuel slot (slot / 3) te).1.getLast? =
          some (.completed (max r 1).toNat) ∧
        (slotLoop cfg world fuel slot (slot / 3) te).2 = none
  | 0, _, _, hs, hf => absurd hf (by omega)
  | fuel + 1, slot, te, hs, hf => by
    obtain ⟨evs, te', hevs, hstep⟩ := slotStep_quiet (hq slot) h0 slot (slot / 3) te
    obtain ⟨argv, sigs, hevs⟩ : ∃ argv sigs, evs.filter SlotEvent.isProc =
      [.start slot argv, .stop sigs] := ⟨_, _, hevs⟩
    have hany : cfg.rounds.any (· ≤ ((slot / 3 + 1 : ℕ) : ℤ)) =
        decide (r ≤ ((slot / 3 + 1 : ℕ) : ℤ)) := by simp [hr]
    by_cases hend : slot + 1 = 3 * (max r 1).toNat
    · rw [if_pos (by rw [hany, decide_eq_true_iff]; omega)] at hstep
      have hR : slot / 3 + 1 = (max r 1).toNat := by omega
      refine ⟨[(argv, sigs)], ?_, by simp only [List.length_singleton]; omega, ?_, ?_⟩ <;>
        simp [slotLoop, hstep, hevs, List.filter_append, startStopFrom, SlotEvent.isProc, hR]
    · rw [if_neg (by rw [hany, decide_eq_true_iff]; omega)] at hstep
      have hnext : (if (slot + 1) % 3 = 0 then slot / 3 + 1 else slot / 3) = (slot + 1) / 3 := by
        split_ifs <;> omega
      obtain ⟨runs, hruns, hlen, hlast, hexc⟩ :=
        slotLoop_rounds hq h0 hr fuel (slot + 1) te' (by omega) (by omega)
      have hne : (slotLoop cfg world fuel (slot + 1) ((slot + 1) / 3) te').1 ≠ [] := by
        intro h; simp [h] at hlast
      refine ⟨(argv, sigs) :: runs, ?_, by simp only [List.length_cons]; omega, ?_, ?_⟩ <;>
        simp [slotLoop, hstep, hnext, hevs, List.filter_append, hruns, startStopFrom, hlast, hexc]

/-! ### `main` -/

/-- The arguments of `rotate_ycsb` that `main` reads, with their defaults; the paths are
given resolved. -/
structure RotateArgs where
  goycsb : String := "./go-ycsb"
  workload : String
  db : String := "etcd"
  threads : Option ℤ := none
  duration : ℤ := 10
  rounds : Option ℤ := none
  prop : List String := []
  noAlign : Bool := false
  loadRows : ℤ := 300
  loadBase : ℤ := 200
  loadSeed : ℤ := 42
  loadDomainIndex : Option ℤ := none

/-- What `main` finds on disk. -/
structure RotateDisk where
  goycsbExists : Bool
  goycsbExecutable : Bool
  workloadExists : Bool
  timesExists : Bool

/-- How `main` ends: `sys.exit` with its message, an exception it does not catch, or a
return. -/
inductive RotateExit
  | systemExit (msg : String)
  | raised (e : PyException)
  | returned
deriving DecidableEq, Repr

/-- The checks of `main` before its loop, giving the `--prop` table. `np.random.seed` refuses
a seed outside `[0, 2^32)` and `np.zeros` a negative `load_rows`; `align_to_boundary` divides
by the window length. -/
def rotateSetup (args : RotateArgs) (disk : RotateDisk) : Except RotateExit (List (String × String)) :=
  if !disk.goycsbExists then .error (.systemExit ("ERROR: " ++ args.goycsb ++ " does not exist"))
  else if !disk.goycsbExecutable then
    .error (.systemExit ("ERROR: " ++ args.goycsb ++ " is not executable"))
  else if !disk.workloadExists then
    .error (.systemExit ("ERROR: workload file not found: " ++ args.workload))
  else
    match extraProps [] args.prop with
    | .error msg => .error (.systemExit msg)
    | .ok props =>
      if args.loadSeed < 0 ∨ 2 ^ 32 ≤ args.loadSeed ∨ args.loadRows < 0 then
        .error (.raised ⟨"ValueError"⟩)
      else if !args.noAlign ∧ args.duration = 0 then .error (.raised ⟨"ZeroDivisionError"⟩)
      else .ok props

/-- `domain_col`: `--load-domain-index`, or `my_idx = 0`, and `my_idx % 3 = 0` when it is not
a column. -/
def domainColOf (loadDomainIndex : Option ℤ) : Fin 3 :=
  match loadDomainIndex with
  | some 1 => 1
  | some 2 => 2
  | _ => 0

/-- What the slot loop reads of `main`'s set-up, where `rand` is the stream of
`random.random()` draws `random.seed(load_seed)` sets. -/
def RotateArgs.slotConfig (args : RotateArgs) (props : List (String × String)) (rand : ℕ → ℚ) :
    SlotConfig where
  goycsb := args.goycsb
  db := args.db
  workload := args.workload
  threads := args.threads
  extraProps := props
  loadRows := args.loadRows.toNat
  loadBase := args.loadBase
  matrix := generateAbcMatrix args.loadRows.toNat rand
  domainCol := domainColOf args.loadDomainIndex
  rounds := args.rounds
  matrix_length := length_generateAbcMatrix _ _

/-- `rotate_ycsb.main` observed for `fuel` slots. -/
def rotateMain (args : RotateArgs) (disk : RotateDisk) (rand : ℕ → ℚ) (world : ℕ → SlotWorld)
    (fuel : ℕ) : List SlotEvent × RotateExit :=
  match rotateSetup args disk with
  | .error ex => ([.delete], ex)
  | .ok props =>
    let run := slotLoop (args.slotConfig props rand) world fuel 0 0 disk.timesExists
    (.delete :: .writePlan :: run.1, (run.2.map RotateExit.raised).getD .returned)

theorem rotateMain_of_setup {args : RotateArgs} {disk : RotateDisk} {props : List (String × String)}
    (h : rotateSetup args disk = .ok props) (rand : ℕ → ℚ) (world : ℕ → SlotWorld) (fuel : ℕ) :
    rotateMain args disk rand world fuel =
      (.delete :: .writePlan :: (slotLoop (args.slotConfig props rand) world fuel 0 0 disk.timesExists).1,
        ((slotLoop (args.slotConfig props rand) world fuel 0 0 disk.timesExists).2.map
          RotateExit.raised).getD .returned) := by
  simp only [rotateMain, h]

/-- Every `go-ycsb` that `main` starts, it stops before it starts the next, whatever the world
does: the starts and stops of a run alternate, one run per slot from slot 0 on, and the last
one started is stopped. -/
theorem rotateMain_lifecycle (args : RotateArgs) (disk : RotateDisk) (rand : ℕ → ℚ)
    (world : ℕ → SlotWorld) (fuel : ℕ) :
    ∃ runs : List (List String × List Signal),
      (rotateMain args disk rand world fuel).1.filter SlotEvent.isProc = startStopFrom 0 runs := by
  cases h : rotateSetup args disk with
  | error ex => exact ⟨[], by simp [rotateMain, h, SlotEvent.isProc, startStopFrom]⟩
  | ok props =>
    obtain ⟨runs, hruns⟩ := slotLoop_lifecycle (args.slotConfig props rand) world fuel 0 0 disk.timesExists
    exact ⟨runs, by simp [rotateMain_of_setup h, SlotEvent.isProc, hruns]⟩

/-- Every `go-ycsb` that `main` starts for slot `slot` runs `M[slot % load_rows, domain_col]`
of the load: its command ends in `-p operationcount=<opcount>`, which overrides any
`--prop operationcount`, for `opcount = max(1, round(load_base * p))`, between 1 and
`load_base` (1 when `load_base` is not positive). -/
theorem rotateMain_opcount {args : RotateArgs} {disk : RotateDisk} {rand : ℕ → ℚ}
    (hrand : ∀ k, 0 ≤ rand k ∧ rand k ≤ 1) {world : ℕ → SlotWorld} {fuel slot : ℕ}
    {argv : List String} (h : .start slot argv ∈ (rotateMain args disk rand world fuel).1) :
    ∃ (props : List (String × String)) (row : Fin 3 → ℚ) (opcount : ℤ),
      rotateSetup args disk = .ok props ∧
      (generateAbcMatrix args.loadRows.toNat rand)[slot % args.loadRows.toNat]? = some row ∧
      opcount = max 1 (pyRound (args.loadBase * row (domainColOf args.loadDomainIndex))) ∧
      argv = startYcsb args.goycsb args.db args.workload myEp args.threads props opcount ∧
      1 ≤ opcount ∧ opcount ≤ max 1 args.loadBase ∧
      (readPFlags [] argv).lookup "operationcount" = some (toString opcount) := by
  cases hs : rotateSetup args disk with
  | error ex => simp [rotateMain, hs] at h
  | ok props =>
    rw [rotateMain_of_setup hs] at h
    simp only [List.mem_cons, reduceCtorEq, false_or] at h
    obtain ⟨h0, rfl⟩ := slotLoop_start _ world fuel 0 0 _ slot argv h
    obtain ⟨row, hrow, hop⟩ := (args.slotConfig props rand).opcount_eq slot h0
    have hmem := @opcount_mem args.loadBase _ (generateAbcMatrix_share_mem hrand hrow
      (domainColOf args.loadDomainIndex))
    refine ⟨props, row, _, rfl, hrow, hop, rfl, ?_⟩
    rw [hop]
    exact ⟨hmem.1, hmem.2, startYcsb_operationcount ..⟩

/-- One row, no base load, and a world that leaves every slot alone: the first `go-ycsb` gets
`operationcount=1`. -/
theorem rotateMain_opcount_one_row :
    let args : RotateArgs := { workload := "workloads/myworkload", loadRows := 1, loadBase := 0 }
    let disk : RotateDisk := ⟨true, true, true, false⟩
    let world : ℕ → SlotWorld := fun _ => ⟨none, .exited, []⟩
    let argv := startYcsb "./go-ycsb" "etcd" "workloads/myworkload" myEp none [] 1
    (∀ k : ℕ, 0 ≤ (fun _ => (0 : ℚ)) k ∧ (fun _ => (0 : ℚ)) k ≤ 1) ∧
      .start 0 argv ∈ (rotateMain args disk (fun _ => 0) world 1).1 ∧
      ∃ (props : List (String × String)) (row : Fin 3 → ℚ) (opcount : ℤ),
        rotateSetup args disk = .ok props ∧
        (generateAbcMatrix args.loadRows.toNat fun _ => (0 : ℚ))[0 % args.loadRows.toNat]? =
          some row ∧
        opcount = max 1 (pyRound (args.loadBase * row (domainColOf args.loadDomainIndex))) ∧
        argv = startYcsb args.goycsb args.db args.workload myEp args.threads props opcount ∧
        1 ≤ opcount ∧ opcount ≤ max 1 args.loadBase ∧
        (readPFlags [] argv).lookup "operationcount" = some (toString opcount) := by
  intro args disk world argv
  have hrand : ∀ k : ℕ, 0 ≤ (fun _ => (0 : ℚ)) k ∧ (fun _ => (0 : ℚ)) k ≤ 1 :=
    fun _ => ⟨le_rfl, zero_le_one⟩
  have hsetup : rotateSetup args disk = .ok [] := rfl
  have hstats : appendTotalStatsFromLog [] = .ok none := rfl
  have hmem : .start 0 argv ∈ (rotateMain args disk (fun _ => 0) world 1).1 := by
    simp [rotateMain_of_setup hsetup, slotLoop, slotStep, world, hstats, SlotConfig.opcount,
      RotateArgs.slotConfig, args, argv, pyRound]
  exact ⟨hrand, hmem, rotateMain_opcount hrand hmem⟩

/-- With `--rounds r`, rows to read, and a world that leaves every slot alone, `main` runs
exactly `3 * max r 1` slots, one `go-ycsb` each, and returns after counting `max r 1`
rotations: `--rounds 0`, or a negative count, still runs one full rotation. -/
theorem rotateMain_rounds {args : RotateArgs} {disk : RotateDisk} {props : List (String × String)}
    (hsetup : rotateSetup args disk = .ok props) (hrows : 0 < args.loadRows) {r : ℤ}
    (hr : args.rounds = some r) {world : ℕ → SlotWorld} (hq : ∀ k, (world k).Quiet)
    (rand : ℕ → ℚ) {fuel : ℕ} (hfuel : 3 * (max r 1).toNat ≤ fuel) :
    ∃ runs : List (List String × List Signal),
      (rotateMain args disk rand world fuel).1.filter SlotEvent.isProc = startStopFrom 0 runs ∧
      runs.length = 3 * (max r 1).toNat ∧
      (rotateMain args disk rand world fuel).1.getLast? = some (.completed (max r 1).toNat) ∧
      (rotateMain args disk rand world fuel).2 = .returned := by
  have h0 : (args.slotConfig props rand).loadRows ≠ 0 := by
    simp only [RotateArgs.slotConfig]; omega
  obtain ⟨runs, hruns, hlen, hlast, hexc⟩ :=
    slotLoop_rounds hq h0 hr fuel 0 disk.timesExists (by omega) (by omega)
  refine ⟨runs, ?_, by omega, ?_, ?_⟩ <;>
    simp [rotateMain_of_setup hsetup, SlotEvent.isProc, hruns, List.getLast?_cons, hlast, hexc]

/-- `--rounds 0` runs the three slots of one rotation. -/
theorem rotateMain_rounds_zero :
    let args : RotateArgs := { workload := "workloads/myworkload", rounds := some 0 }
    let disk : RotateDisk := ⟨true, true, true, false⟩
    let world : ℕ → SlotWorld := fun _ => ⟨none, .exited, []⟩
    rotateSetup args disk = .ok [] ∧ 0 < args.loadRows ∧ args.rounds = some 0 ∧
      (∀ k, (world k).Quiet) ∧ 3 * (max (0 : ℤ) 1).toNat ≤ 3 ∧
      ∃ runs : List (List String × List Signal),
        (rotateMain args disk (fun _ => 0) world 3).1.filter SlotEvent.isProc =
          startStopFrom 0 runs ∧
        runs.length = 3 * (max (0 : ℤ) 1).toNat ∧
        (rotateMain args disk (fun _ => 0) world 3).1.getLast? =
          some (.completed (max (0 : ℤ) 1).toNat) ∧
        (rotateMain args disk (fun _ => 0) world 3).2 = .returned := by
  intro args disk world
  have hsetup : rotateSetup args disk = .ok [] := rfl
  have hq : ∀ k, (world k).Quiet := fun _ => ⟨rfl, none, rfl⟩
  exact ⟨hsetup, by decide, rfl, hq, by decide,
    rotateMain_rounds hsetup (by decide) rfl hq _ (by decide)⟩

end PRaft.Workload
