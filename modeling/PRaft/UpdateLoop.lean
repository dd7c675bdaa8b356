import PRaft.RaftStats
import PRaft.Forecaster

/-!
The retraining loop of `update.py`. Every cycle of `main_loop` sleeps `CYCLE_WAIT_SECONDS`
one second at a time, then probes for `WINDOW_SECONDS`. A probe asks the local etcd member's
metrics whether it is the leader; if it is, `snapshot_csv` copies `SRC_CSV` into `SNAP_DIR`, and
a snapshot taken starts `train.py` on it, deletes it and ends the window.

The outside world is an input: the metrics text each probe read (`none` when the request
raised), and how each copy attempt of `snapshot_csv` went. A run is the list of cycles up to
the stop signal, each with the probes its window ran before its deadline. The loop's effects
are a list of events.

* `isLeader_exposition`: `is_leader` reads back the gauge `etcd_server_is_leader` from any
  metrics text whose earlier lines are not that gauge.
* `snapshotCsv_spec`: at most `CSV_SNAPSHOT_RETRY` attempts; a snapshot is returned only from
  an attempt whose copy passed the size check, and every copy that failed the check stays in
  `SNAP_DIR`.
* `mainLoop_blocks`: every cycle trains at most once, right after a positive leader check and
  the copy it trains on, and deletes exactly that copy; nothing else is ever deleted.
* `runTrain_updateArgs_iff`: with the arguments `run_training` passes, `train.py` gets past its
  data checks exactly when the snapshot has at least 43 complete rows.
-/

namespace PRaft.Update

open MoveLeader Forecast

/-! ### `is_leader` -/

/-- The metric the pattern of `is_leader` names. -/
def leaderMetric : List Char := "etcd_server_is_leader".data

/-- `etcd_server_is_leader\s+([01])\s*$` matched at the start of `s`: the digit it captures.
`\s+` takes the whole run of whitespace and the digit must follow it; `\s*$` needs the
whitespace after the digit to reach a newline or the end of the text. -/
def matchAt (s : List Char) : Option Char :=
  if leaderMetric.isPrefixOf s then
    let r := s.drop leaderMetric.length
    match r.dropWhile isPySpace with
    | d :: t =>
      if (r.takeWhile isPySpace) ≠ [] ∧ (d = '0' ∨ d = '1') ∧
          ('\n' ∈ t.takeWhile isPySpace ∨ t.takeWhile isPySpace = t) then some d
      else none
    | [] => none
  else none

/-- `re.search(pattern, text, re.M)` for the pattern of `is_leader`: the digit of the leftmost
match, trying the start of the text and every position after a newline (`^` under `re.M`). -/
def searchLeader (lineStart : Bool) : List Char → Option Char
  | [] => none
  | c :: cs =>
    match (if lineStart then matchAt (c :: cs) else none) with
    | some d => some d
    | none => searchLeader (c = '\n') cs

/-- `is_leader()`: the captured digit is `1`; `False` when the request raised. -/
def isLeader (metrics : Option String) : Bool :=
  match metrics with
  | none => false
  | some text => searchLeader true text.data = some '1'

/-- A line that `^etcd_server_is_leader\s+` can start on: the metric's name followed by
whitespace or by the end of the line. -/
def GaugeLine (l : List Char) : Prop :=
  leaderMetric <+: l ∧ ∀ c ∈ (l.drop leaderMetric.length).head?, isPySpace c = true

/-- Gauge lines are decided on their characters. -/
instance decidableGaugeLine : DecidablePred GaugeLine := fun _ =>
  inferInstanceAs (Decidable (_ ∧ _))

theorem searchLeader_false_append {l rest : List Char} (hl : '\n' ∉ l) :
    searchLeader false (l ++ '\n' :: rest) = searchLeader true rest := by
  induction l with
  | nil => rfl
  | cons c l ih =>
    have hc : c ≠ '\n' := fun h => hl (h ▸ List.mem_cons_self _ _)
    simp only [List.cons_append, searchLeader, if_false, decide_eq_false hc]
    exact ih (fun h => hl (List.mem_cons_of_mem _ h))

theorem matchAt_append_newline {l rest : List Char} (hg : ¬ GaugeLine l) :
    matchAt (l ++ '\n' :: rest) = none := by
  unfold matchAt
  split_ifs with hp
  swap
  · rfl
  rw [List.isPrefixOf_iff_prefix] at hp
  rcases le_or_lt leaderMetric.length l.length with hlen | hlen
  · -- the name lies inside the line: the character after it is not whitespace
    have hpre : leaderMetric <+: l := List.prefix_of_prefix_length_le hp (List.prefix_append _ _) hlen
    obtain ⟨c, t, hct⟩ : ∃ c t, l.drop leaderMetric.length = c :: t := by
      cases h : l.drop leaderMetric.length with
      | nil => exact absurd ⟨hpre, by simp [h]⟩ hg
      | cons c t => exact ⟨c, t, rfl⟩
    have hc : isPySpace c = false := by
      by_contra hc
      exact hg ⟨hpre, by simp [hct, Bool.not_eq_false] at hc ⊢; exact hc⟩
    simp [List.drop_append_of_le_length hlen, hct, hc]
  · -- the line is shorter than the name: the name would have to contain the newline
    obtain ⟨u, hu⟩ := hp
    have hnl : leaderMetric[l.length] = '\n' := by
      have := congrArg (·[l.length]?) hu
      simp only [List.getElem?_append_left hlen, List.getElem?_append_right (le_refl _),
        Nat.sub_self, List.getElem?_cons_zero] at this
      simpa [List.getElem?_eq_getElem hlen] using this
    have hmem := List.getElem_mem hlen
    rw [hnl] at hmem
    exact absurd hmem (by decide)

theorem searchLeader_true_append {l rest : List Char} (hl : '\n' ∉ l) (hg : ¬ GaugeLine l) :
    searchLeader true (l ++ '\n' :: rest) = searchLeader true rest := by
  cases l with
  | nil =>
    have h0 : matchAt ('\n' :: rest) = none := matchAt_append_newline (l := []) hg
    simp [searchLeader, h0]
  | cons c l =>
    have hc : c ≠ '\n' := fun h => hl (h ▸ List.mem_cons_self _ _)
    have h0 : matchAt (c :: (l ++ '\n' :: rest)) = none := matchAt_append_newline hg
    rw [List.cons_append, searchLeader.eq_2, if_pos rfl, h0]
    simp only [decide_eq_false hc]
    exact searchLeader_false_append (fun h => hl (List.mem_cons_of_mem _ h))

theorem matchAt_gauge {d : Char} (hd : d = '0' ∨ d = '1') {post : List Char}
    (hpost : post = [] ∨ post.head? = some '\n') :
    matchAt (leaderMetric ++ ' ' :: d :: post) = some d := by
  have hds : isPySpace d = false := by rcases hd with rfl | rfl <;> rfl
  have hspace : isPySpace ' ' = true := rfl
  have htail : '\n' ∈ post.takeWhile isPySpace ∨ post.takeWhile isPySpace = post := by
    rcases hpost with rfl | hpost
    · exact .inr rfl
    · obtain ⟨t, rfl⟩ : ∃ t, post = '\n' :: t := by
        cases post with
        | nil => cases hpost
        | cons c t => cases hpost; exact ⟨t, rfl⟩
      exact .inl (by simp [List.takeWhile_cons, show isPySpace '\n' = true from rfl])
  have hpre : leaderMetric.isPrefixOf (leaderMetric ++ ' ' :: d :: post) = true :=
    List.isPrefixOf_iff_prefix.2 (List.prefix_append _ _)
  simp only [matchAt, hpre, if_true, List.drop_left, List.dropWhile_cons, List.takeWhile_cons,
    hspace, hds, List.takeWhile_nil, List.dropWhile_nil, if_false]
  exact if_pos ⟨List.cons_ne_nil _ _, hd, htail⟩

/-- `is_leader` reads back the gauge: on a metrics text whose lines before the gauge line are
not gauge lines, it answers whether the gauge is `1`, whatever follows the gauge line. -/
theorem isLeader_exposition (pre : List (List Char)) {d : Char} (hd : d = '0' ∨ d = '1')
    {post : List Char} (hpost : post = [] ∨ post.head? = some '\n')
    (hpre : ∀ l ∈ pre, '\n' ∉ l ∧ ¬ GaugeLine l) :
    isLeader (some ⟨pre.flatMap (· ++ ['\n']) ++ leaderMetric ++ ' ' :: d :: post⟩) =
      decide (d = '1') := by
  have hsearch : searchLeader true (pre.flatMap (· ++ ['\n']) ++ leaderMetric ++ ' ' :: d :: post) =
      some d := by
    induction pre with
    | nil =>
      obtain ⟨c, cs, hcs⟩ : ∃ c cs, leaderMetric ++ ' ' :: d :: post = c :: cs := ⟨_, _, rfl⟩
      simp only [List.flatMap_nil, List.nil_append]
      rw [hcs, searchLeader, if_pos rfl, ← hcs, matchAt_gauge hd hpost]
    | cons l pre ih =>
      simp only [List.flatMap_cons, List.append_assoc, List.singleton_append, List.cons_append] at ih ⊢
      rw [searchLeader_true_append (hpre l (List.mem_cons_self _ _)).1
        (hpre l (List.mem_cons_self _ _)).2]
      exact ih fun l' hl' => hpre l' (List.mem_cons_of_mem _ hl')
  simp only [isLeader, hsearch, Option.some.injEq]

theorem isLeader_exposition_help_type :
    let pre := ["# HELP etcd_server_is_leader Whether or not this member is a leader.".data,
      "# TYPE etcd_server_is_leader gauge".data]
    ('1' = '0' ∨ '1' = '1') ∧ ("\nprocess_open_fds 12".data = [] ∨
      "\nprocess_open_fds 12".data.head? = some '\n') ∧ (∀ l ∈ pre, '\n' ∉ l ∧ ¬ GaugeLine l) ∧
      isLeader (some ⟨pre.flatMap (· ++ ['\n']) ++ leaderMetric ++ ' ' :: '1' ::
        "\nprocess_open_fds 12".data⟩) = decide ('1' = '1') :=
  ⟨.inr rfl, .inr rfl, by decide, isLeader_exposition _ (.inr rfl) (.inr rfl) (by decide)⟩

/-! ### `snapshot_csv` -/

/-- `SNAP_DIR` at its default. -/
def snapDir : String := "/tmp/raft-snapshots"

/-- `CSV_SNAPSHOT_RETRY`. -/
def csvSnapshotRetry : ℕ := 10

/-- `Path(snap_dir) / f"{src_p.stem}-{ts}{src_p.suffix}"` for `SRC_CSV` at its default. -/
def snapshotPath (ts : String) : String := snapDir ++ "/raft_stats-" ++ ts ++ ".csv"

/-- How one attempt of `snapshot_csv`'s loop went; `ts` is the time stamp of the copy's name. -/
inductive Attempt where
  /-- `csv_is_stable` said no, or a `stat` raised: nothing was copied. -/
  | unstable
  /-- `shutil.copy2` raised, after creating the copy or not. -/
  | copyRaised (ts : String) (created : Bool)
  /-- The copy was made; `sizeOk` is the size check `src.stat().st_size == dst.stat().st_size`. -/
  | copied (ts : String) (sizeOk : Bool)
deriving DecidableEq, Repr

namespace Attempt

/-- The snapshot an attempt returns: its copy, when the size check passed. -/
def snapshot? : Attempt → Option String
  | copied ts true => some (snapshotPath ts)
  | _ => none

/-- The copy a failed attempt leaves in `SNAP_DIR`: nothing in the loop removes it. -/
def leftover : Attempt → List String
  | unstable => []
  | copyRaised ts created => if created then [snapshotPath ts] else []
  | copied ts sizeOk => if sizeOk then [] else [snapshotPath ts]

end Attempt

/-- The loop of `snapshot_csv` from attempt `k` with `n` attempts left: the snapshot, or the
`RuntimeError` after the last attempt, and the copies made, in order. -/
def retry (attempt : ℕ → Attempt) : ℕ → ℕ → Except PyException String × List String
  | 0, _ => (.error ⟨"RuntimeError"⟩, [])
  | n + 1, k =>
    match (attempt k).snapshot? with
    | some p => (.ok p, [p])
    | none => ((retry attempt n (k + 1)).1, (attempt k).leftover ++ (retry attempt n (k + 1)).2)

/-- `snapshot_csv(SRC_CSV, SNAP_DIR)`: `FileNotFoundError` when `SRC_CSV` is missing, otherwise
attempts `1` to `CSV_SNAPSHOT_RETRY`. -/
def snapshotCsv (srcExists : Bool) (attempt : ℕ → Attempt) : Except PyException String × List String :=
  if srcExists then retry attempt csvSnapshotRetry 1 else (.error ⟨"FileNotFoundError"⟩, [])

theorem retry_ok {attempt : ℕ → Attempt} :
    ∀ {n k : ℕ} {p : String} {copies : List String}, retry attempt n k = (.ok p, copies) →
      ∃ i < n, (attempt (k + i)).snapshot? = some p ∧
        (∀ j ∈ List.range' k i, (attempt j).snapshot? = none) ∧
        copies = (List.range' k i).flatMap (fun j => (attempt j).leftover) ++ [p]
  | 0, _, _, _, h => by cases h
  | n + 1, k, p, copies, h => by
    simp only [retry] at h
    cases hk : (attempt k).snapshot? with
    | some q =>
      rw [hk] at h
      cases h
      exact ⟨0, Nat.succ_pos _, hk, by simp, by simp⟩
    | none =>
      simp only [hk, Prod.mk.injEq] at h
      obtain ⟨i, hi, hp, hnone, hcopies⟩ :=
        retry_ok (Prod.ext h.1 rfl : retry attempt n (k + 1) = (.ok p, (retry attempt n (k + 1)).2))
      refine ⟨i + 1, by omega, by rw [show k + (i + 1) = k + 1 + i by omega]; exact hp, ?_, ?_⟩
      · simp only [List.range'_succ, List.mem_cons]
        rintro j (rfl | hj)
        exacts [hk, hnone j hj]
      · rw [← h.2, hcopies]
        simp [List.range'_succ]

theorem retry_error {attempt : ℕ → Attempt} :
    ∀ {n k : ℕ} {e : PyException} {copies : List String}, retry attempt n k = (.error e, copies) →
      e = ⟨"RuntimeError"⟩ ∧ (∀ j ∈ List.range' k n, (attempt j).snapshot? = none) ∧
        copies = (List.range' k n).flatMap fun j => (attempt j).leftover
  | 0, _, _, _, h => by cases h; simp
  | n + 1, k, e, copies, h => by
    simp only [retry] at h
    cases hk : (attempt k).snapshot? with
    | some q => rw [hk] at h; cases h
    | none =>
      simp only [hk, Prod.mk.injEq] at h
      obtain ⟨rfl, hnone, hcopies⟩ :=
        retry_error (Prod.ext h.1 rfl : retry attempt n (k + 1) = (.error e, (retry attempt n (k + 1)).2))
      refine ⟨rfl, ?_, ?_⟩
      · simp only [List.range'_succ, List.mem_cons]
        rintro j (rfl | hj)
        exacts [hk, hnone j hj]
      · rw [← h.2, hcopies]
        simp [List.range'_succ]

/-- A snapshot comes from the first attempt, among the first `CSV_SNAPSHOT_RETRY`, whose copy
passed the size check; before it come the copies every earlier attempt left behind. -/
theorem snapshotCsv_eq_ok {srcExists : Bool} {attempt : ℕ → Attempt} {p : String}
    {copies : List String} (h : snapshotCsv srcExists attempt = (.ok p, copies)) :
    ∃ k, 1 ≤ k ∧ k ≤ csvSnapshotRetry ∧ (attempt k).snapshot? = some p ∧
      (∀ j ∈ List.range' 1 (k - 1), (attempt j).snapshot? = none) ∧
      copies = (List.range' 1 (k - 1)).flatMap (fun j => (attempt j).leftover) ++ [p] := by
  cases srcExists with
  | false => simp only [snapshotCsv] at h; cases h
  | true =>
    obtain ⟨i, hi, hp, hnone, hcopies⟩ := retry_ok h
    refine ⟨1 + i, by omega, by simp only [csvSnapshotRetry] at hi ⊢; omega, hp, ?_, ?_⟩
    · simpa using hnone
    · simpa using hcopies

/-- `snapshot_csv` makes at most `CSV_SNAPSHOT_RETRY` attempts. It returns the copy of the first
attempt whose copy passed the size check, and then the copies it made are those every earlier
attempt left behind, followed by the snapshot. Otherwise it raises `FileNotFoundError` without
an attempt, or `RuntimeError` after ten failed attempts, leaving their copies behind. -/
theorem snapshotCsv_spec (srcExists : Bool) (attempt : ℕ → Attempt) :
    (∀ p copies, snapshotCsv srcExists attempt = (.ok p, copies) →
      ∃ k, 1 ≤ k ∧ k ≤ csvSnapshotRetry ∧ (attempt k).snapshot? = some p ∧
        (∀ j ∈ List.range' 1 (k - 1), (attempt j).snapshot? = none) ∧
        copies = (List.range' 1 (k - 1)).flatMap (fun j => (attempt j).leftover) ++ [p]) ∧
    (∀ e copies, snapshotCsv srcExists attempt = (.error e, copies) →
      (srcExists = false ∧ e = ⟨"FileNotFoundError"⟩ ∧ copies = []) ∨
      (srcExists = true ∧ e = ⟨"RuntimeError"⟩ ∧
        (∀ j ∈ List.range' 1 csvSnapshotRetry, (attempt j).snapshot? = none) ∧
        copies = (List.range' 1 csvSnapshotRetry).flatMap fun j => (attempt j).leftover)) := by
  refine ⟨fun _ _ => snapshotCsv_eq_ok, fun e copies h => ?_⟩
  cases srcExists with
  | false => simp only [snapshotCsv] at h; cases h; exact .inl ⟨rfl, rfl, rfl⟩
  | true => exact .inr ⟨rfl, retry_error h⟩

/-! ### `main_loop` -/

/-- What one probe of the window met: the metrics text (`none` when `urlopen` raised), whether
`SRC_CSV` existed, and how each attempt of `snapshot_csv` went. -/
structure Probe where
  metrics : Option String
  srcExists : Bool
  attempt : ℕ → Attempt

/-- One cycle of `main_loop`: whether `_stop` was seen during its wait, and the probes its window
ran before the deadline or the stop signal. -/
structure Cycle where
  stopDuringWait : Bool
  probes : List Probe

/-- What `main_loop` does that the outside world sees. -/
inductive Event where
  /-- The `CYCLE_WAIT_SECONDS` one-second sleeps of a cycle. -/
  | wait
  /-- `is_leader()` answered. -/
  | leaderCheck (leader : Bool)
  /-- A copy of `SRC_CSV` appeared in `SNAP_DIR`. -/
  | copy (path : String)
  /-- `run_training` started `train.py` with this command. -/
  | train (argv : List String)
  /-- `Path(snap_path).unlink(missing_ok=True)`; its exceptions are swallowed. -/
  | unlink (path : String)
deriving DecidableEq, Repr

/-- `TRAIN_ARGS`: `None` after `--input` stands for the snapshot. -/
def trainArgs : List (Option String) :=
  [some "--input", none, some "--out-dir", some "/root/artifacts", some "--look-back", some "30",
    some "--horizon", some "7", some "--epoch", some "35", some "--batch-size", some "64",
    some "--early-stopping", some "--reduce-lr"]

/-- The command of `run_training(snapshot_path)`: `PYTHON_BIN`, `TRAIN_PY` and `TRAIN_ARGS` with
`patched[1] = snapshot_path`. -/
def trainingCommand (snapshot : String) : List String :=
  ["python3", "/root/train.py"] ++ (trainArgs.set 1 (some snapshot)).filterMap id

/-- The probing window of a cycle: a leader check per probe, then the copies of `snapshot_csv`;
a snapshot taken is trained on and deleted, and the window ends (`break`). -/
def runWindow : List Probe → List Event
  | [] => []
  | p :: ps =>
    if isLeader p.metrics then
      match snapshotCsv p.srcExists p.attempt with
      | (.ok snap, copies) =>
        .leaderCheck true :: copies.map .copy ++ [.train (trainingCommand snap), .unlink snap]
      | (.error _, copies) => .leaderCheck true :: copies.map .copy ++ runWindow ps
    else .leaderCheck false :: runWindow ps

/-- `main_loop` over the cycles of a run; a stop signal seen during a wait returns at once. -/
def mainLoop : List Cycle → List Event
  | [] => []
  | c :: cs => if c.stopDuringWait then [] else .wait :: runWindow c.probes ++ mainLoop cs

/-- The events of a probe that trains on nothing. -/
def Event.IsProbe : Event → Prop
  | .leaderCheck _ | .copy _ => True
  | _ => False

/-- The events of one window: probes only, or probes, then a positive leader check and the
copies of its `snapshot_csv`, the last of them trained on and deleted. -/
def WindowShape (w : List Event) : Prop :=
  (∀ e ∈ w, e.IsProbe) ∨
    ∃ (pre : List Event) (fails : List String) (snap : String),
      w = pre ++ .leaderCheck true :: fails.map .copy ++
        [.copy snap, .train (trainingCommand snap), .unlink snap] ∧ ∀ e ∈ pre, e.IsProbe

theorem windowShape_cons {e : Event} (he : e.IsProbe) {w : List Event} (hw : WindowShape w) :
    WindowShape (e :: w) := by
  rcases hw with hw | ⟨pre, fails, snap, rfl, hpre⟩
  · exact Or.inl fun e' he' => (List.mem_cons.1 he').elim (· ▸ he) (hw e')
  · exact Or.inr ⟨e :: pre, fails, snap, rfl,
      fun e' he' => (List.mem_cons.1 he').elim (· ▸ he) (hpre e')⟩

theorem windowShape_copies {copies : List String} {w : List Event} (hw : WindowShape w) :
    WindowShape (copies.map .copy ++ w) := by
  induction copies with
  | nil => exact hw
  | cons c copies ih => exact windowShape_cons (e := .copy c) trivial ih

theorem windowShape_runWindow : ∀ ps : List Probe, WindowShape (runWindow ps)
  | [] => Or.inl fun _ h => nomatch h
  | p :: ps => by
    unfold runWindow
    split_ifs
    · rcases hs : snapshotCsv p.srcExists p.attempt with ⟨_ | snap, copies⟩
      · exact windowShape_cons (e := .leaderCheck true) trivial
          (windowShape_copies (windowShape_runWindow ps))
      · obtain ⟨k, -, -, -, -, rfl⟩ := snapshotCsv_eq_ok hs
        refine Or.inr ⟨[], (List.range' 1 (k - 1)).flatMap (fun j => (p.attempt j).leftover), snap,
          by simp, fun _ h => nomatch h⟩
    · exact windowShape_cons (e := .leaderCheck false) trivial (windowShape_runWindow ps)

/-- A run of `main_loop` is a sequence of cycles, each a wait followed by a window of the shape
`WindowShape`: at most one training per cycle, started right after a positive leader check
and the copy it trains on, and followed by the deletion of exactly that copy. No other file is
ever deleted, so the copies that failed the size check stay in `SNAP_DIR`. -/
theorem mainLoop_blocks (cs : List Cycle) :
    ∃ windows : List (List Event), mainLoop cs = windows.flatMap (Event.wait :: ·) ∧
      ∀ w ∈ windows, WindowShape w := by
  induction cs with
  | nil => exact ⟨[], rfl, by simp⟩
  | cons c cs ih =>
    obtain ⟨windows, hrun, hw⟩ := ih
    by_cases hc : c.stopDuringWait
    · exact ⟨[], by simp [mainLoop, hc], by simp⟩
    · refine ⟨runWindow c.probes :: windows, by simp [mainLoop, hc, hrun], ?_⟩
      intro w hw'
      rcases List.mem_cons.1 hw' with rfl | hw'
      exacts [windowShape_runWindow _, hw w hw']

/-! ### The training `main_loop` starts -/

/-- The data-path arguments `train.py` parses from `trainingCommand`: `--look-back 30` and
`--horizon 7`, with `--train-ratio` and `--tail-rows` at their defaults. -/
def updateTrainArgs : TrainArgs := { lookBack := 30, horizon := 7 }

theorem length_tailData_updateArgs (raw : List (List ℚ)) :
    (tailData updateTrainArgs.tailRows raw).length = min raw.length 900 := by
  simp only [tailData, updateTrainArgs]
  split_ifs with h
  · push_cast [true_and] at h
    rw [takeLast_of_pos (by decide), List.length_drop, show (900 : ℤ).toNat = 900 from rfl,
      Nat.sub_sub_self (by omega), min_eq_right (by omega)]
  · push_cast [true_and] at h
    exact (min_eq_left (by omega)).symm

/-- `int(len * 0.9)` reads the `float` product, which is within a thousandth of `0.9 * len`. -/
theorem binary64_mul_nineTenths_mem (L : ℕ) :
    9 / 10 * (1 - 1 / 1000) * L ≤ binary64 (L * binary64 (9 / 10)) ∧
      binary64 (L * binary64 (9 / 10)) ≤ 9 / 10 * (1 + 1 / 1000) * L := by
  have hL : (0 : ℚ) ≤ L := Nat.cast_nonneg L
  have hr := binary64_mem_of_nonneg (show (0 : ℚ) ≤ 9 / 10 by norm_num)
  have hb := binary64_mem_of_nonneg (mul_nonneg hL (binary64_nonneg (show (0 : ℚ) ≤ 9 / 10 by norm_num)))
  -- the product's two roundings, each within `2 ^ -53`
  have h₁ := mul_le_mul_of_nonneg_left hr.1 hL
  have h₂ := mul_le_mul_of_nonneg_left hr.2 hL
  constructor <;> linarith [hb.1, hb.2]

/-- With the arguments `update.py` passes, `train.py` gets past its data checks to `model.fit`
exactly when the snapshot has at least 43 complete rows: `int(0.9 * len)` must exceed
`look_back + horizon = 37`. A shorter snapshot always ends in `ValueError`. -/
theorem runTrain_updateArgs_iff {df : CsvFrame} {idx : List (Option ℚ)} {raw : List (List ℚ)}
    (hts : ensureTimestamp df "timestamp" = .ok idx)
    (hcols : trainFeatures.all (· ∈ df.columns) = true) (hraw : trainValues df = .ok raw) :
    (∃ td, runTrain updateTrainArgs df = .ok td) ↔ 43 ≤ raw.length := by
  have hL := length_tailData_updateArgs raw
  have hratio : updateTrainArgs.trainRatio = binary64 (9 / 10) := by unfold updateTrainArgs; rfl
  constructor
  · rintro ⟨td, h⟩
    obtain ⟨raw', n, -, hraw', hn, hlbn, -⟩ := runTrain_eq_ok h
    rw [hraw] at hraw'
    cases hraw'
    set L := (tailData updateTrainArgs.tailRows raw).length
    have hb := binary64_mul_nineTenths_mem L
    have hle := PredictLeader.pyInt_le (le_trans (by positivity) hb.1)
    rw [hratio] at hn
    rw [← hn, Int.cast_natCast] at hle
    have h38 : (38 : ℚ) ≤ n := by exact_mod_cast (show 38 ≤ n by simp [updateTrainArgs] at hlbn; omega)
    have h42 : (42 : ℚ) < L := by linarith [hb.2]
    have : 42 < L := by exact_mod_cast h42
    omega
  · intro h43
    have hw : ∀ r ∈ tailData updateTrainArgs.tailRows raw, r.length = trainFeatures.length :=
      fun r hr => trainValues_width hraw r (tailData_sublist _ _ hr)
    rw [runTrain, hts, ok_bind, if_pos hcols, hraw, ok_bind, hratio]
    dsimp only
    generalize tailData updateTrainArgs.tailRows raw = data at hL hw ⊢
    have hb := binary64_mul_nineTenths_mem data.length
    have hx : (0 : ℚ) ≤ binary64 (data.length * binary64 (9 / 10)) := le_trans (by positivity) hb.1
    have hlo := PredictLeader.lt_pyInt_add_one hx
    have hhi := PredictLeader.pyInt_le hx
    generalize PredictLeader.pyInt (binary64 (data.length * binary64 (9 / 10))) = n at hlo hhi ⊢
    -- `37 < n < len`: the training split outgrows one window and the test split is not empty
    have hlen : (43 : ℚ) ≤ data.length := by exact_mod_cast (show 43 ≤ data.length by omega)
    have hn37 : (37 : ℚ) < n := by linarith [hb.1]
    have hnL : (n : ℚ) < data.length := by linarith [hb.2]
    have hn : 37 < n ∧ n < data.length := ⟨by exact_mod_cast hn37, by exact_mod_cast hnL⟩
    rw [if_neg (by simp only [updateTrainArgs]; omega)]
    have hne : data ≠ [] := List.ne_nil_of_length_pos (by omega)
    obtain ⟨sc, hfit, hsc⟩ := @fit_eq_ok_of_width (data.take n.toNat) _
      (by simp [List.take_eq_nil_iff, hne]; omega) fun x hx => hw x (List.mem_of_mem_take hx)
    rw [hfit, ok_bind,
      sc.transform_of_width (by simp [List.take_eq_nil_iff, hne]; omega)
        (fun x hx => (hw x (List.mem_of_mem_take hx)).trans hsc.symm), ok_bind,
      sc.transform_of_width (by simp [List.drop_eq_nil_iff]; omega)
        (fun x hx => (hw x (List.mem_of_mem_drop hx)).trans hsc.symm), ok_bind]
    exact ⟨_, rfl⟩

/-- The four-row history is too short for the arguments of `update.py`. -/
theorem runTrain_updateArgs_iff_zeroLoadHistory :
    ensureTimestamp zeroLoadHistory "timestamp" = .ok [some 0, some 1, some 2, some 3] ∧
      trainFeatures.all (· ∈ zeroLoadHistory.columns) = true ∧
      trainValues zeroLoadHistory = .ok (List.replicate 4 (List.replicate 6 0)) ∧
      ¬ ∃ td, runTrain updateTrainArgs zeroLoadHistory = .ok td := by
  have hts : ensureTimestamp zeroLoadHistory "timestamp" = .ok [some 0, some 1, some 2, some 3] :=
    rfl
  have hcols : trainFeatures.all (· ∈ zeroLoadHistory.columns) = true := by decide
  have hraw := trainValues_zeroLoadHistory
  exact ⟨hts, hcols, hraw, fun h => absurd ((runTrain_updateArgs_iff hts hcols hraw).1 h) (by simp)⟩

end PRaft.Update
