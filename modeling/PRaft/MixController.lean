import PRaft.SlotLoop

/-!
`ymc.py`, the read/write mix controller: one `go-ycsb load`, then a loop that every
`--interval` seconds stops the running `go-ycsb run` and starts a new one with a fresh write
proportion `w`, drawn in `[--min-write, --max-write]`, and read proportion `1 - w`.

The world is an input: the exit code of the load and, for every iteration, the time since
the loop began, the `random.random()` draw behind `random.uniform`, the pid of the process it
starts, whether the stop flag is set by the end of its sleep, and how `stop_proc` finds that
process. A run is observed for `fuel` iterations. The draw and `1.0 - w` are `float`
operations (`binary64`); `round(x, 6)` is the multiple of `10⁻⁶` that `repr` then prints, which is
the text a `-p` item and the log carry. Only the POSIX branches of `start_proc` and `stop_proc`
are modelled.

* `ymcMain_one_at_a_time`: whatever the world does, no `go-ycsb run` starts before the load
  has succeeded or while another runs, each stop stops the one running, and none runs once
  the loop has ended.
* `ymcMain_mix`: every run reads, with the later `-p` items winning as the module docstring
  says, insert, scan and read-modify-write proportions 0 and update and read proportions
  `round(w, 6)` and `round(clamp01(1.0 - w), 6)`, which lie in `[0, 1]` and sum to 1 within
  one step of `10⁻⁶`, for a `w` in `[--min-write, --max-write]` up to rounding.
-/

namespace PRaft.Mix

open Workload (dictSet pyStrip Signal)

/-! ### Properties and command lines -/

/-- A value of the property dicts: text, a Python `int`, or a Python `float`. -/
inductive PropVal
  | text (s : String)
  | int (n : ℤ)
  | float (q : ℚ)
deriving DecidableEq, Repr

/-- An item of a `go-ycsb` command line: a plain argument, or the `f"{k}={v}"` after a `-p`. -/
inductive Arg
  | lit (s : String)
  | prop (k : String) (v : PropVal)
deriving DecidableEq, Repr

/-- `build_p_flags`. -/
def buildPFlags (props : List (String × PropVal)) : List Arg :=
  props.flatMap fun kv => [.lit "-p", .prop kv.1 kv.2]

/-- The properties a command line sets, a later `-p` item overriding an earlier one. -/
def readArgs (d : List (String × PropVal)) : List Arg → List (String × PropVal)
  | .lit "-p" :: .prop k v :: rest => readArgs (dictSet d k v) rest
  | _ :: rest => readArgs d rest
  | [] => d

/-- `clamp01`. -/
def clamp01 (x : ℚ) : ℚ := max 0 (min 1 x)

theorem clamp01_mem (x : ℚ) : 0 ≤ clamp01 x ∧ clamp01 x ≤ 1 :=
  ⟨le_max_left _ _, max_le zero_le_one (min_le_left _ _)⟩

theorem clamp01_eq {x : ℚ} (h0 : 0 ≤ x) (h1 : x ≤ 1) : clamp01 x = x := by
  rw [clamp01, min_eq_right h1, max_eq_right h0]

/-- `round(x, 6)`: the multiple of `10⁻⁶` nearest to `x`, a tie going to the even one. -/
def round6 (x : ℚ) : ℚ := pyRound (x * 10 ^ 6) / 10 ^ 6

/-- The arguments of `ymc.py`, with their defaults. -/
structure MixArgs where
  goYcsb : String
  endpoints : String
  baseProps : String := ""
  table : String := "usertable"
  recordcount : ℤ := 1000
  threads : ℤ := 100
  fieldcount : ℤ := 1
  fieldlength : ℤ := 1
  requestDistribution : String := "uniform"
  dialTimeout : String := "20s"
  reqTimeout : String := "30s"
  interval : ℤ := 10
  duration : ℤ := 0
  gracefulStopSeconds : ℤ := 2
  operationcount : ℤ := 10000000
  minWrite : ℚ := 0
  maxWrite : ℚ := 1
  logCsv : String := "mix_log.csv"

/-- `common`. -/
def common (args : MixArgs) : List (String × PropVal) :=
  [("workload", .text "core"), ("requestdistribution", .text args.requestDistribution),
    ("threadcount", .int args.threads), ("table", .text args.table),
    ("fieldcount", .int args.fieldcount), ("fieldlength", .int args.fieldlength),
    ("readallfields", .text "true"), ("etcd.endpoints", .text args.endpoints),
    ("etcd.dialtimeout", .text args.dialTimeout), ("etcd.reqtimeout", .text args.reqTimeout)]

/-- `load_props`. -/
def loadProps (args : MixArgs) : List (String × PropVal) :=
  dictSet (common args) "recordcount" (.int args.recordcount)

/-- `run_props_static`: `common` with the load's `recordcount`, then `update` with the other
operations at 0. -/
def runPropsStatic (args : MixArgs) : List (String × PropVal) :=
  [("insertproportion", .float 0), ("scanproportion", .float 0),
      ("readmodifywriteproportion", .float 0), ("dotransactions", .text "true"),
      ("operationcount", .int args.operationcount)].foldl (fun d kv => dictSet d kv.1 kv.2)
    (dictSet (common args) "recordcount" (.int args.recordcount))

/-- `iter_props`. -/
def iterProps (args : MixArgs) (writeProp readProp : ℚ) : List (String × PropVal) :=
  dictSet (dictSet (runPropsStatic args) "updateproportion" (.float (round6 writeProp)))
    "readproportion" (.float (round6 readProp))

/-- `load_cmd` and `run_cmd`: `-P base_props` when it is not empty, then the `-p` items. -/
def ycsbCmd (args : MixArgs) (mode : String) (props : List (String × PropVal)) : List Arg :=
  [.lit args.goYcsb, .lit mode, .lit "etcd"] ++
    (if args.baseProps ≠ "" then [.lit "-P", .lit args.baseProps] else []) ++ buildPFlags props

/-- The endpoints as `__main__` normalises them: split at commas, stripped, empty ones
dropped. -/
def normalizeEndpoints (s : String) : String :=
  ",".intercalate (((s.split (· = ',')).map pyStrip).filter (· ≠ ""))

/-! ### What a command line sets -/

theorem readArgs_buildPFlags (d props : List (String × PropVal)) :
    readArgs d (buildPFlags props) = props.foldl (fun d kv => dictSet d kv.1 kv.2) d := by
  induction props generalizing d with
  | nil => rfl
  | cons kv props ih => exact (readArgs.eq_1 _ _ _ _).trans (ih _)

theorem readArgs_lit (d : List (String × PropVal)) (s : String) (rest : List Arg)
    (hrest : ∀ k v, rest.head? ≠ some (.prop k v)) : readArgs d (.lit s :: rest) = readArgs d rest :=
  readArgs.eq_2 _ _ _ fun k v _ _ h => hrest k v (by rw [h]; rfl)

theorem readArgs_ycsbCmd (d : List (String × PropVal)) (args : MixArgs) (mode : String)
    (props : List (String × PropVal)) :
    readArgs d (ycsbCmd args mode props) = props.foldl (fun d kv => dictSet d kv.1 kv.2) d := by
  have hflags : ∀ k v, (buildPFlags props).head? ≠ some (.prop k v) := by
    cases props <;> simp [buildPFlags]
  rw [← readArgs_buildPFlags]
  unfold ycsbCmd
  split_ifs <;> simp only [List.cons_append, List.nil_append] <;>
    repeat rw [readArgs_lit _ _ _ (by simp [hflags])]

theorem foldl_dictSet_of_nodup {β : Type} :
    ∀ (d props : List (String × β)), (props.map Prod.fst).Nodup →
      (∀ k ∈ props.map Prod.fst, k ∉ d.map Prod.fst) →
      props.foldl (fun d kv => dictSet d kv.1 kv.2) d = d ++ props
  | d, [], _, _ => by simp
  | d, (k, v) :: props, hnd, hfresh => by
    have hk : k ∉ d.map Prod.fst := hfresh k (List.mem_cons_self _ _)
    rw [List.foldl_cons, show dictSet d (k, v).1 (k, v).2 = d ++ [(k, v)] by simp [dictSet, hk],
      foldl_dictSet_of_nodup _ props (List.nodup_cons.1 hnd).2 ?_]
    · simp
    · intro k' hk' hmem
      simp only [List.map_append, List.map_cons, List.map_nil, List.mem_append, List.mem_singleton] at hmem
      rcases hmem with hd | rfl
      · exact hfresh k' (List.mem_cons_of_mem _ hk') hd
      · exact (List.nodup_cons.1 hnd).1 hk'

theorem iterProps_eq (args : MixArgs) (writeProp readProp : ℚ) :
    iterProps args writeProp readProp = common args ++
      [("recordcount", .int args.recordcount), ("insertproportion", .float 0),
        ("scanproportion", .float 0), ("readmodifywriteproportion", .float 0),
        ("dotransactions", .text "true"), ("operationcount", .int args.operationcount),
        ("updateproportion", .float (round6 writeProp)), ("readproportion", .float (round6 readProp))] := by
  simp [iterProps, runPropsStatic, common, dictSet]

theorem readArgs_run (args : MixArgs) (writeProp readProp : ℚ) :
    readArgs [] (ycsbCmd args "run" (iterProps args writeProp readProp)) =
      iterProps args writeProp readProp := by
  rw [readArgs_ycsbCmd, foldl_dictSet_of_nodup _ _ _ (by simp), List.nil_append]
  · rw [iterProps_eq]; simp [common]

/-! ### The proportions -/

/-- The update and read proportions of a run sum to exactly 1: rounding to 6 places is
symmetric about `1/2`, ties going to the even multiple of `10⁻⁶`. -/
theorem round6_add_round6_one_sub (w : ℚ) : round6 w + round6 (1 - w) = 1 := by
  have h := pyRound_even_sub (n := 10 ^ 6) (by norm_num) (w * 10 ^ 6)
  unfold round6
  rw [show (1 - w) * 10 ^ 6 = ((10 ^ 6 : ℤ) : ℚ) - w * 10 ^ 6 by push_cast; ring, h]
  push_cast
  ring

theorem round6_mem {w : ℚ} (h0 : 0 ≤ w) (h1 : w ≤ 1) : 0 ≤ round6 w ∧ round6 w ≤ 1 := by
  obtain ⟨hlo, hhi⟩ := pyRound_mem (x := w * 10 ^ 6) (b := 10 ^ 6) (by positivity)
    (by push_cast; nlinarith)
  unfold round6
  constructor
  · exact div_nonneg (by exact_mod_cast hlo) (by positivity)
  · rw [div_le_one (by positivity)]; exact_mod_cast hhi

theorem abs_round6_sub_le {x y : ℚ} (h : |x - y| < 1 / 10 ^ 6) :
    |round6 x - round6 y| ≤ 1 / 10 ^ 6 := by
  have hx := abs_sub_pyRound_le (x * 10 ^ 6)
  have hy := abs_sub_pyRound_le (y * 10 ^ 6)
  have hxy : |x * 10 ^ 6 - y * 10 ^ 6| < 1 := by
    rw [← sub_mul, abs_mul, abs_of_pos (by norm_num : (0 : ℚ) < 10 ^ 6)]
    exact (lt_div_iff₀ (by norm_num)).1 h
  -- the two rounded integers are less than `2` apart, so at most `1`
  have hk : |pyRound (x * 10 ^ 6) - pyRound (y * 10 ^ 6)| ≤ 1 := by
    have h2 : ((|pyRound (x * 10 ^ 6) - pyRound (y * 10 ^ 6)| : ℤ) : ℚ) < 2 := by
      rw [Int.cast_abs, Int.cast_sub]
      generalize (pyRound (x * 10 ^ 6) : ℚ) = P at hx ⊢
      generalize (pyRound (y * 10 ^ 6) : ℚ) = Q at hy ⊢
      obtain ⟨hx₁, hx₂⟩ := abs_le.1 hx
      obtain ⟨hy₁, hy₂⟩ := abs_le.1 hy
      obtain ⟨hxy₁, hxy₂⟩ := abs_lt.1 hxy
      exact abs_lt.2 ⟨by linarith, by linarith⟩
    have : |pyRound (x * 10 ^ 6) - pyRound (y * 10 ^ 6)| < 2 := by exact_mod_cast h2
    omega
  have hq : round6 x - round6 y = ((pyRound (x * 10 ^ 6) - pyRound (y * 10 ^ 6) : ℤ) : ℚ) / 10 ^ 6 := by
    unfold round6; push_cast; ring
  rw [hq, abs_div, abs_of_pos (by norm_num : (0 : ℚ) < 10 ^ 6)]
  exact div_le_div_of_nonneg_right (by exact_mod_cast hk) (by norm_num)

/-- `round(w, 6)` and `round(clamp01(1.0 - w), 6)` sum to `1` within one step of `10⁻⁶`: the
`float` subtraction moves `1 - w` by less than `10⁻⁶`, and without it the sum is exactly `1`. -/
theorem round6_add_round6_read {w : ℚ} (h0 : 0 ≤ w) (h1 : w ≤ 1) :
    |round6 w + round6 (clamp01 (binary64 (1 - w))) - 1| ≤ 1 / 10 ^ 6 := by
  have hr0 : 0 ≤ binary64 (1 - w) := binary64_nonneg (by linarith)
  have hr1 : binary64 (1 - w) ≤ 1 := (binary64_mono (by linarith)).trans_eq binary64_one
  have hclose := abs_roundBinary_sub_le (p := 53) (1 - w)
  rw [abs_of_nonneg (by linarith : (0 : ℚ) ≤ 1 - w)] at hclose
  have hlt : |binary64 (1 - w) - (1 - w)| < 1 / 10 ^ 6 :=
    lt_of_le_of_lt hclose (by rw [div_lt_div_iff₀ (by norm_num) (by norm_num)]; linarith)
  have hsum := round6_add_round6_one_sub w
  rw [clamp01_eq hr0 hr1, show round6 w + round6 (binary64 (1 - w)) - 1 =
    round6 (binary64 (1 - w)) - round6 (1 - w) by linarith]
  exact abs_round6_sub_le hlt


/-! ### The loop -/

/-- How `stop_proc` finds a process: its group already gone, so that `killpg` raises
`ProcessLookupError`; gone within the grace period after `SIGTERM`; or still there. -/
inductive StopYield
  | gone
  | term
  | never
deriving DecidableEq, Repr

/-- The signals `stop_proc` sends to a process group. -/
def stopProc : StopYield → List Signal
  | .gone => []
  | .term => [.sigterm]
  | .never => [.sigterm, .sigkill]

/-- What the world does in one iteration. -/
structure MixIter where
  elapsed : ℚ
  draw : ℚ
  pid : ℕ
  stopFlag : Bool
  yield : StopYield

/-- The world of a run: whether `--go-ycsb` exists, the exit code of the load, whether the
log CSV is empty, and the iterations. -/
structure MixWorld where
  goYcsbExists : Bool
  loadCode : ℤ
  logEmpty : Bool
  iter : ℕ → MixIter

/-- What `ymc.py` does that the outside world sees. -/
inductive MixEvent
  /-- `subprocess.call(load_cmd)`, which waits for the load. -/
  | load (argv : List Arg)
  /-- The header of the log CSV. -/
  | header
  /-- `stop_proc` on the process with this pid. -/
  | stop (pid : ℕ) (signals : List Signal)
  /-- `start_proc(run_cmd)` for an iteration. -/
  | start (iter pid : ℕ) (argv : List Arg)
  /-- A row of the log CSV. -/
  | logRow (iter : ℕ) (writeProp readProp : ℚ) (pid : ℕ)
deriving DecidableEq, Repr

/-- How `ymc.py` ends: `sys.exit` with a code, the loop ended, or the observation was cut. -/
inductive MixExit
  | exit (code : ℤ)
  | finished
  | cut
deriving DecidableEq, Repr

/-- `stop_proc(proc)`: nothing when `proc` is `None`. -/
def stopPrev : Option (ℕ × StopYield) → List MixEvent
  | none => []
  | some (pid, y) => [.stop pid (stopProc y)]

/-- `random.uniform(a, b)` in `float`: `a + (b - a) * random()`, for the draw `u` of
`random()`. -/
def uniform (a b u : ℚ) : ℚ := binary64 (a + binary64 (binary64 (b - a) * u))

/-- On `0 ≤ a ≤ b` and a draw in `[0, 1]`, `uniform` lies in `[a, b]` up to its three
roundings. -/
theorem uniform_mem {a b u : ℚ} (ha : 0 ≤ a) (hab : a ≤ b) (hu : 0 ≤ u ∧ u ≤ 1) :
    a * (1 - 1 / 2 ^ 53) ≤ uniform a b u ∧ uniform a b u ≤ b * (1 + 1 / 2 ^ 51) := by
  have hd := binary64_mem_of_nonneg (sub_nonneg.2 hab)
  have hd0 : 0 ≤ binary64 (b - a) := binary64_nonneg (sub_nonneg.2 hab)
  have hdu := mul_le_of_le_one_right hd0 hu.2
  have hm := binary64_mem_of_nonneg (mul_nonneg hd0 hu.1)
  have hm0 : 0 ≤ binary64 (binary64 (b - a) * u) := binary64_nonneg (mul_nonneg hd0 hu.1)
  have hv := binary64_mem_of_nonneg (add_nonneg ha hm0)
  unfold uniform
  constructor <;> linarith [hv.1, hv.2, hm.2, hd.2]

/-- The write and read proportions of an iteration whose draw is `u`. -/
def mixOf (args : MixArgs) (u : ℚ) : ℚ × ℚ :=
  let w := clamp01 (uniform args.minWrite args.maxWrite u)
  (w, clamp01 (binary64 (1 - w)))

/-- With `0 ≤ min_write ≤ max_write ≤ 1`, as `__main__` checks, and a draw in `[0, 1]`, the
write proportion lies in `[0, 1]` and in `[min_write, max_write]` up to rounding. -/
theorem mixOf_eq {args : MixArgs}
    (hv : 0 ≤ args.minWrite ∧ args.minWrite ≤ args.maxWrite ∧ args.maxWrite ≤ 1) {u : ℚ}
    (hu : 0 ≤ u ∧ u ≤ 1) :
    ∃ w, args.minWrite * (1 - 1 / 2 ^ 53) ≤ w ∧ w ≤ args.maxWrite * (1 + 1 / 2 ^ 51) ∧
      0 ≤ w ∧ w ≤ 1 ∧ mixOf args u = (w, clamp01 (binary64 (1 - w))) := by
  obtain ⟨hlo, hhi⟩ := uniform_mem hv.1 hv.2.1 hu
  obtain ⟨h0, h1⟩ := clamp01_mem (uniform args.minWrite args.maxWrite u)
  refine ⟨_, le_max_of_le_right (le_min (by nlinarith [hv.2.1, hv.2.2]) hlo),
    max_le (mul_nonneg (hv.1.trans hv.2.1) (by norm_num)) ((min_le_right _ _).trans hhi), h0, h1,
    rfl⟩

/-- The `RUN` loop from iteration `i`, with `proc` the running process, if any, observed for
`fuel` iterations: its events, and whether it ended. The time check comes first, and the stop
flag is read after the sleep. -/
def mixLoop (args : MixArgs) (iter : ℕ → MixIter) :
    ℕ → ℕ → Option (ℕ × StopYield) → List MixEvent × Bool
  | 0, _, _ => ([], false)
  | fuel + 1, i, proc =>
    if args.duration ≠ 0 ∧ (args.duration : ℚ) ≤ (iter i).elapsed then (stopPrev proc, true)
    else
      let props := iterProps args (mixOf args (iter i).draw).1 (mixOf args (iter i).draw).2
      let evs := stopPrev proc ++ [.start i (iter i).pid (ycsbCmd args "run" props),
        .logRow i (round6 (mixOf args (iter i).draw).1) (round6 (mixOf args (iter i).draw).2)
          (iter i).pid]
      if (iter i).stopFlag then (evs ++ stopPrev (some ((iter i).pid, (iter i).yield)), true)
      else
        (evs ++ (mixLoop args iter fuel (i + 1) (some ((iter i).pid, (iter i).yield))).1,
          (mixLoop args iter fuel (i + 1) (some ((iter i).pid, (iter i).yield))).2)

/-- `ymc.py` run as a script: the check of `--min-write` and `--max-write`, the endpoints
normalised, then `run_once`. -/
def ymcMain (args : MixArgs) (world : MixWorld) (fuel : ℕ) : List MixEvent × MixExit :=
  if args.minWrite < 0 ∨ 1 < args.maxWrite ∨ args.maxWrite < args.minWrite then ([], .exit 2)
  else
    let args := { args with endpoints := normalizeEndpoints args.endpoints }
    if !world.goYcsbExists then ([], .exit 2)
    else
      let load := MixEvent.load (ycsbCmd args "load" (loadProps args))
      if world.loadCode ≠ 0 then ([load], .exit world.loadCode)
      else
        let run := mixLoop args world.iter fuel 0 none
        (load :: (if world.logEmpty then [MixEvent.header] else []) ++ run.1,
          if run.2 then .finished else .cut)

/-! ### One `go-ycsb run` at a time -/

/-- The events that start or stop `go-ycsb run`. -/
def MixEvent.isProc : MixEvent → Bool
  | .start _ _ _ | .stop _ _ => true
  | _ => false

/-- The starts and stops of a run as an automaton on the process running, if any: a start
only when none runs, a stop only of the one running. `Runs r evs r'` goes from `r` to `r'`. -/
def Runs : Option ℕ → List MixEvent → Option ℕ → Prop
  | r, [], r' => r = r'
  | none, .start _ p _ :: evs, r' => Runs (some p) evs r'
  | some p, .stop q _ :: evs, r' => q = p ∧ Runs none evs r'
  | _, _ :: _, _ => False

@[simp] theorem stopPrev_some (p : ℕ) (y : StopYield) :
    stopPrev (some (p, y)) = [.stop p (stopProc y)] := rfl

@[simp] theorem filter_isProc_stopPrev (proc : Option (ℕ × StopYield)) :
    (stopPrev proc).filter MixEvent.isProc = stopPrev proc := by
  rcases proc with _ | ⟨q, y⟩ <;> rfl

theorem runs_stopPrev_start (proc : Option (ℕ × StopYield)) (i p : ℕ) (argv : List Arg)
    (evs : List MixEvent) (r' : Option ℕ) :
    Runs (proc.map Prod.fst) (stopPrev proc ++ MixEvent.start i p argv :: evs) r' ↔
      Runs (some p) evs r' := by
  rcases proc with _ | ⟨q, y⟩ <;> simp [stopPrev, Runs]

/-- Each iteration stops the process before it, if any, and starts one; the loop leaves no
process running when it ends. -/
theorem mixLoop_runs (args : MixArgs) (iter : ℕ → MixIter) :
    ∀ fuel i proc, ∃ r', Runs (proc.map Prod.fst)
        ((mixLoop args iter fuel i proc).1.filter MixEvent.isProc) r' ∧
      ((mixLoop args iter fuel i proc).2 = true → r' = none)
  | 0, _, proc => ⟨proc.map Prod.fst, by simp [mixLoop, Runs]⟩
  | fuel + 1, i, proc => by
    by_cases ht : args.duration ≠ 0 ∧ (args.duration : ℚ) ≤ (iter i).elapsed
    · refine ⟨none, ?_, fun _ => rfl⟩
      rcases proc with _ | ⟨q, y⟩ <;> simp [mixLoop, ht, stopPrev, MixEvent.isProc, Runs]
    by_cases hf : (iter i).stopFlag
    · refine ⟨none, ?_, fun _ => rfl⟩
      simp only [mixLoop, ht, hf, if_false, if_true, List.filter_append, filter_isProc_stopPrev,
        List.append_assoc]
      simp [MixEvent.isProc, runs_stopPrev_start, Runs]
    · obtain ⟨r', hr', hend⟩ := mixLoop_runs args iter fuel (i + 1) (some ((iter i).pid, (iter i).yield))
      refine ⟨r', ?_, ?_⟩
      · simp only [mixLoop, ht, hf, if_false, List.filter_append, filter_isProc_stopPrev,
          List.append_assoc]
        simpa [MixEvent.isProc, runs_stopPrev_start] using hr'
      · simpa [mixLoop, ht, hf] using hend

/-- Whatever the world does, `ymc.py` starts no `go-ycsb run` unless the load, which comes
first, exited with 0; it never starts one while another runs, stops only the one running, and
leaves none running unless the observation was cut. -/
theorem ymcMain_one_at_a_time (args : MixArgs) (world : MixWorld) (fuel : ℕ) :
    ((∃ i p argv, MixEvent.start i p argv ∈ (ymcMain args world fuel).1) →
      world.loadCode = 0 ∧ ∃ argv, (ymcMain args world fuel).1.head? = some (.load argv)) ∧
    ∃ r', Runs none ((ymcMain args world fuel).1.filter MixEvent.isProc) r' ∧
      ((ymcMain args world fuel).2 ≠ .cut → r' = none) := by
  unfold ymcMain
  split_ifs with hv hg hl
  · exact ⟨by simp, none, by simp [Runs]⟩
  · exact ⟨by simp, none, by simp [Runs]⟩
  · exact ⟨by simp, none, by simp [MixEvent.isProc, Runs]⟩
  all_goals
    obtain ⟨r', hr', hend⟩ := mixLoop_runs { args with endpoints := normalizeEndpoints args.endpoints }
      world.iter fuel 0 none
    refine ⟨fun _ => ⟨by simpa using hl, _, rfl⟩, r', by simpa [MixEvent.isProc] using hr',
      fun h => hend ?_⟩
    by_contra hc; simp [hc] at h

/-! ### What every run reads -/

theorem mixLoop_start (args : MixArgs) (iter : ℕ → MixIter) :
    ∀ fuel i proc k p argv, MixEvent.start k p argv ∈ (mixLoop args iter fuel i proc).1 →
      argv = ycsbCmd args "run"
        (iterProps args (mixOf args (iter k).draw).1 (mixOf args (iter k).draw).2)
  | 0, _, _, _, _, _, h => by simp [mixLoop] at h
  | fuel + 1, i, proc, k, p, argv, h => by
    have hstop : ∀ q, MixEvent.start k p argv ∉ stopPrev q := by
      rintro (_ | ⟨_, _⟩) <;> simp [stopPrev]
    unfold mixLoop at h
    split_ifs at h with ht hf
    · exact absurd h (hstop proc)
    all_goals
      simp only [List.mem_append, List.mem_cons, MixEvent.start.injEq, reduceCtorEq,
        List.mem_singleton, or_false, List.not_mem_nil] at h
    · rcases h with (h | ⟨rfl, -, rfl⟩) | h
      · exact absurd h (hstop proc)
      · rfl
      · exact absurd h (hstop _)
    · rcases h with (h | ⟨rfl, -, rfl⟩) | h
      · exact absurd h (hstop proc)
      · rfl
      · exact mixLoop_start args iter fuel (i + 1) _ k p argv h

/-- For every world whose draws lie in `[0, 1]`, every `go-ycsb run` that `ymc.py` starts sets,
with later `-p` items winning as its docstring says, exactly the `common` properties for the
normalised endpoints, the load's `recordcount`, insert, scan and read-modify-write
proportions 0, and update and read proportions `round(w, 6)` and `round(1 - w, 6)` for a `w`
in `[--min-write, --max-write]`; these lie in `[0, 1]` and sum to exactly 1. -/
theorem ymcMain_mix {args : MixArgs} {world : MixWorld} {fuel : ℕ}
    (hdraw : ∀ i, 0 ≤ (world.iter i).draw ∧ (world.iter i).draw ≤ 1) {i p : ℕ} {argv : List Arg}
    (h : .start i p argv ∈ (ymcMain args world fuel).1) :
    ∃ w, args.minWrite * (1 - 1 / 2 ^ 53) ≤ w ∧ w ≤ args.maxWrite * (1 + 1 / 2 ^ 51) ∧
      readArgs [] argv = common { args with endpoints := normalizeEndpoints args.endpoints } ++
        [("recordcount", .int args.recordcount), ("insertproportion", .float 0),
          ("scanproportion", .float 0), ("readmodifywriteproportion", .float 0),
          ("dotransactions", .text "true"), ("operationcount", .int args.operationcount),
          ("updateproportion", .float (round6 w)),
          ("readproportion", .float (round6 (clamp01 (binary64 (1 - w)))))] ∧
      0 ≤ round6 w ∧ round6 w ≤ 1 ∧
      0 ≤ round6 (clamp01 (binary64 (1 - w))) ∧ round6 (clamp01 (binary64 (1 - w))) ≤ 1 ∧
      |round6 w + round6 (clamp01 (binary64 (1 - w))) - 1| ≤ 1 / 10 ^ 6 := by
  unfold ymcMain at h
  split_ifs at h with hv hg hl <;> simp only [List.mem_cons, List.not_mem_nil, reduceCtorEq,
    or_false, false_or, List.cons_append, List.nil_append] at h
  all_goals
    have hv' : 0 ≤ args.minWrite ∧ args.minWrite ≤ args.maxWrite ∧ args.maxWrite ≤ 1 := by
      push_neg at hv; exact ⟨hv.1, hv.2.2, hv.2.1⟩
    obtain ⟨w, hlo, hhi, h0, h1, hmix⟩ :=
      @mixOf_eq { args with endpoints := normalizeEndpoints args.endpoints } hv' _ (hdraw i)
    have hw := mixLoop_start _ _ _ _ _ _ _ _ h
    rw [hmix] at hw
    have hw1 := round6_mem h0 h1
    have hr1 := round6_mem (clamp01_mem (binary64 (1 - w))).1 (clamp01_mem _).2
    refine ⟨w, hlo, hhi, ?_, hw1.1, hw1.2, hr1.1, hr1.2, round6_add_round6_read h0 h1⟩
    rw [hw, readArgs_run, iterProps_eq]

/-- One iteration that draws `1/2` and is then stopped: its `go-ycsb run` sets the update and
read proportions `0.5`. -/
theorem ymcMain_mix_half :
    let args : MixArgs := { goYcsb := "./go-ycsb", endpoints := "http://192.168.0.38:2379" }
    let world : MixWorld := ⟨true, 0, true, fun _ => ⟨0, 1 / 2, 7, true, .term⟩⟩
    let argv := ycsbCmd { args with endpoints := normalizeEndpoints args.endpoints } "run"
      (iterProps { args with endpoints := normalizeEndpoints args.endpoints } (1 / 2) (1 / 2))
    (∀ i, 0 ≤ (world.iter i).draw ∧ (world.iter i).draw ≤ 1) ∧
      .start 0 7 argv ∈ (ymcMain args world 1).1 ∧
      ∃ w, args.minWrite * (1 - 1 / 2 ^ 53) ≤ w ∧ w ≤ args.maxWrite * (1 + 1 / 2 ^ 51) ∧
        readArgs [] argv = common { args with endpoints := normalizeEndpoints args.endpoints } ++
          [("recordcount", .int args.recordcount), ("insertproportion", .float 0),
            ("scanproportion", .float 0), ("readmodifywriteproportion", .float 0),
            ("dotransactions", .text "true"), ("operationcount", .int args.operationcount),
            ("updateproportion", .float (round6 w)),
            ("readproportion", .float (round6 (clamp01 (binary64 (1 - w)))))] ∧
        0 ≤ round6 w ∧ round6 w ≤ 1 ∧
        0 ≤ round6 (clamp01 (binary64 (1 - w))) ∧ round6 (clamp01 (binary64 (1 - w))) ≤ 1 ∧
        |round6 w + round6 (clamp01 (binary64 (1 - w))) - 1| ≤ 1 / 10 ^ 6 := by
  intro args world argv
  have hdraw : ∀ i, 0 ≤ (world.iter i).draw ∧ (world.iter i).draw ≤ 1 :=
    fun _ => ⟨by norm_num [world], by norm_num [world]⟩
  have hhalf : binary64 (1 / 2) = 1 / 2 := roundBinary_eq_self 1 (-1) (by norm_num) (by norm_num)
  have hmix : mixOf { args with endpoints := normalizeEndpoints args.endpoints } (1 / 2) =
      (1 / 2, 1 / 2) := by
    norm_num [mixOf, clamp01, uniform, args, hhalf]
  have hv : ¬(args.minWrite < 0 ∨ 1 < args.maxWrite ∨ args.maxWrite < args.minWrite) := by
    norm_num [args]
  have hmem : .start 0 7 argv ∈ (ymcMain args world 1).1 := by
    norm_num [ymcMain, hv, mixLoop, world, argv, hmix, args]
  exact ⟨hdraw, hmem, ymcMain_mix hdraw hmem⟩

end PRaft.Mix
