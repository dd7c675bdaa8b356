import PRaft.Cluster

/-!
`BufferedPredictedLeaderWriter` of `leader_logger.py`. Decisions are kept in memory and
reach the CSV only when a migration is recorded or the buffer is flushed on request.

The writer object and the file it writes are one record here. `writes` is the history of
writes the file has received, oldest first: the code keeps no such list, it is what the
statements about the file quantify over. A flag `writable` says whether the file system
accepts the writes of one call; a failed write raises, and what was done before it stays.
-/

namespace PRaft.LeaderLogger

/-- A CSV row. -/
abbrev Row := List String

/-- The header `_ensure_file` writes into a new file. -/
def header : Row := ["timestamp", "predicted_leader_ip"]

/-- A write to the CSV: the header of a newly created file, or one `writerows` call. -/
inductive FileWrite where
  | header
  | rows (rows : List Row)
deriving DecidableEq, Repr

/-- The writer with its file. `file` is `none` while the CSV does not exist. -/
structure BufferedPredictedLeaderWriter where
  csvPath : String
  buffer : List Row
  file : Option (List Row)
  writes : List FileWrite

namespace BufferedPredictedLeaderWriter

/-- `os.path.dirname(csv_path)` is non-empty exactly when the path contains a `/`. -/
def hasDirectory (path : String) : Bool := path.data.contains '/'

/-- `_ensure_file`: `os.makedirs` of the directory, which raises for an empty directory
name, then the header row if the file does not exist yet. -/
def ensureFile (writable : Bool) (w : BufferedPredictedLeaderWriter) :
    BufferedPredictedLeaderWriter × Option PyException :=
  if !hasDirectory w.csvPath then (w, some ⟨"FileNotFoundError"⟩)
  else match w.file with
    | some _ => (w, none)
    | none =>
      if writable then ({ w with file := some [header], writes := w.writes ++ [.header] }, none)
      else (w, some ⟨"OSError"⟩)

/-- `_flush_buffer`: nothing for an empty buffer, otherwise the whole buffer appended by one
`writerows` and then cleared. -/
def flushBuffer (writable : Bool) (w : BufferedPredictedLeaderWriter) :
    BufferedPredictedLeaderWriter × Option PyException :=
  if w.buffer.isEmpty then (w, none)
  else match ensureFile writable w with
    | (w, some e) => (w, some e)
    | (w, none) =>
      if writable then
        ({ w with
            file := w.file.map (· ++ w.buffer)
            writes := w.writes ++ [.rows w.buffer]
            buffer := [] }, none)
      else (w, some ⟨"OSError"⟩)

/-- `record(leader_ip, will_move)`, stamped `now`: the row is buffered, and a migration
flushes the buffer with it. -/
def record (writable : Bool) (now leaderIp : String) (willMove : Bool)
    (w : BufferedPredictedLeaderWriter) : BufferedPredictedLeaderWriter × Option PyException :=
  let w := { w with buffer := w.buffer ++ [[now, leaderIp]] }
  if willMove then flushBuffer writable w else (w, none)

/-- `flush_remaining`. -/
def flushRemaining (writable : Bool) (w : BufferedPredictedLeaderWriter) :
    BufferedPredictedLeaderWriter × Option PyException :=
  flushBuffer writable w

@[simp] theorem record_keep (writable : Bool) (now leaderIp : String)
    (w : BufferedPredictedLeaderWriter) :
    record writable now leaderIp false w = ({ w with buffer := w.buffer ++ [[now, leaderIp]] }, none) :=
  rfl

theorem flushBuffer_of_writable {w : BufferedPredictedLeaderWriter}
    (hdir : hasDirectory w.csvPath = true) (hne : w.buffer ≠ []) :
    flushBuffer true w =
      ({ w with
          file := some (w.file.getD [header] ++ w.buffer)
          writes := w.writes ++ (if w.file.isNone then [.header] else []) ++ [.rows w.buffer]
          buffer := [] }, none) := by
  cases hf : w.file <;>
    simp [flushBuffer, ensureFile, hdir, hne, hf, List.isEmpty_iff]

theorem flushBuffer_error {writable : Bool} {w w' : BufferedPredictedLeaderWriter}
    {e : PyException} (h : flushBuffer writable w = (w', some e)) :
    w'.buffer = w.buffer ∧ (w'.writes = w.writes ∨ w'.writes = w.writes ++ [.header]) ∧
      (w'.file = w.file ∨ w'.file = some [header]) := by
  unfold flushBuffer ensureFile at h
  split_ifs at h <;> cases hf : w.file <;> cases writable <;> simp_all [Prod.mk.injEq]


/-! ### Runs of calls -/

/-- The writer `__init__` builds, over a CSV that exists with contents `file` or does not. -/
def create (csvPath : String) (file : Option (List Row)) : BufferedPredictedLeaderWriter :=
  ⟨csvPath, [], file, []⟩

end BufferedPredictedLeaderWriter

open BufferedPredictedLeaderWriter

/-- A call on the writer: `record(leader_ip, will_move)`, stamped `now`, or
`flush_remaining()`. -/
inductive Call where
  | record (now leaderIp : String) (willMove : Bool)
  | flushRemaining
deriving DecidableEq, Repr

namespace Call

/-- The call on a file system that accepts every write. -/
def apply : Call → BufferedPredictedLeaderWriter → BufferedPredictedLeaderWriter × Option PyException
  | .record now leaderIp willMove, w =>
    BufferedPredictedLeaderWriter.record true now leaderIp willMove w
  | .flushRemaining, w => BufferedPredictedLeaderWriter.flushRemaining true w

/-- The row a call records. -/
def row : Call → List Row
  | .record now leaderIp _ => [[now, leaderIp]]
  | .flushRemaining => []

/-- Whether the call flushes the buffer: a migration, or `flush_remaining`. -/
def flushes : Call → Bool
  | .record _ _ willMove => willMove
  | .flushRemaining => true

end Call

/-- The data rows a write puts in the file. -/
def FileWrite.dataRows : FileWrite → List Row
  | .header => []
  | .rows rs => rs

@[simp] theorem FileWrite.dataRows_header : FileWrite.header.dataRows = [] := rfl

@[simp] theorem FileWrite.dataRows_rows (rs : List Row) : (FileWrite.rows rs).dataRows = rs := rfl

/-- Calls one after another, each on the writer the previous one left. -/
def runCalls (calls : List Call) (w : BufferedPredictedLeaderWriter) : BufferedPredictedLeaderWriter :=
  calls.foldl (fun w c => (c.apply w).1) w

/-- Everything one call does: it buffers its row, and when it flushes a non-empty buffer it
appends the whole buffer in one write, after the header if the file is new, and empties the
buffer. It raises nothing. -/
theorem Call.apply_eq {w : BufferedPredictedLeaderWriter} (hdir : hasDirectory w.csvPath = true)
    (c : Call) :
    c.apply w =
      if c.flushes = true ∧ w.buffer ++ c.row ≠ [] then
        ({ w with
            buffer := []
            file := some (w.file.getD [header] ++ (w.buffer ++ c.row))
            writes := w.writes ++ (if w.file.isNone then [.header] else []) ++
              [.rows (w.buffer ++ c.row)] }, none)
      else ({ w with buffer := w.buffer ++ c.row }, none) := by
  cases c with
  | record now leaderIp willMove =>
    cases willMove
    · rfl
    · simp only [apply, BufferedPredictedLeaderWriter.record, flushes, row, if_true]
      rw [flushBuffer_of_writable (by exact hdir) (by simp)]
      simp
  | flushRemaining =>
    by_cases hb : w.buffer = []
    · cases w
      simp_all [apply, BufferedPredictedLeaderWriter.flushRemaining, flushBuffer, row]
    · simp only [apply, BufferedPredictedLeaderWriter.flushRemaining, flushes, row,
        List.append_nil, flushBuffer_of_writable hdir hb]
      simp [hb]

/-- What holds after every run of calls from the constructor, on a file that existed with
contents `file₀` or did not. -/
def LogInv (csvPath : String) (file₀ : Option (List Row)) (recorded : List Row)
    (w : BufferedPredictedLeaderWriter) : Prop :=
  w.csvPath = csvPath ∧
  w.writes.flatMap FileWrite.dataRows ++ w.buffer = recorded ∧
  w.file = (if w.writes = [] then file₀
    else some (file₀.getD [header] ++ w.writes.flatMap FileWrite.dataRows)) ∧
  w.writes.count .header ≤ 1 ∧
  (FileWrite.header ∈ w.writes → file₀ = none ∧ w.writes.head? = some .header)

theorem logInv_create (csvPath : String) (file₀ : Option (List Row)) :
    LogInv csvPath file₀ [] (create csvPath file₀) := by
  simp [LogInv, create]

/-- The step lemma: a call keeps the invariant, with its row recorded. -/
theorem logInv_apply {csvPath : String} (hdir : hasDirectory csvPath = true)
    {file₀ : Option (List Row)} {recorded : List Row} {w : BufferedPredictedLeaderWriter}
    (h : LogInv csvPath file₀ recorded w) (c : Call) :
    LogInv csvPath file₀ (recorded ++ c.row) (c.apply w).1 := by
  obtain ⟨hpath, hdata, hfile, hcount, hhead⟩ := h
  rw [Call.apply_eq (hpath ▸ hdir)]
  by_cases hfl : c.flushes = true ∧ w.buffer ++ c.row ≠ []
  · rw [if_pos hfl]
    cases hf : w.file with
    | none =>
      -- a file that does not exist yet has never been written, and did not exist at the start
      have hw : w.writes = [] := by
        by_contra hw
        simp [hw, hf] at hfile
      have h0 : file₀ = none := by simpa [hw, hf] using hfile.symm
      simp [LogInv, hw, h0, hpath, ← hdata]
    | some rows =>
      have hrows : rows = file₀.getD [header] ++ w.writes.flatMap FileWrite.dataRows := by
        split_ifs at hfile with hw <;> simp_all
      refine ⟨hpath, by simp [← hdata], by simp [hrows], by simpa [List.count_append] using hcount,
        fun hmem => ?_⟩
      have hmem : FileWrite.header ∈ w.writes := by simpa using hmem
      obtain ⟨h0, hhd⟩ := hhead hmem
      exact ⟨h0, by simp [List.head?_append, hhd]⟩
  · rw [if_neg hfl]
    exact ⟨hpath, by simp [← hdata], hfile, hcount, hhead⟩

/-- The run lemma: from a writer that keeps the invariant, a run of calls keeps it, with the
calls' rows recorded after the earlier ones. -/
theorem logInv_runCalls {csvPath : String} (hdir : hasDirectory csvPath = true)
    {file₀ : Option (List Row)} {recorded : List Row} {w : BufferedPredictedLeaderWriter}
    (h : LogInv csvPath file₀ recorded w) (calls : List Call) :
    LogInv csvPath file₀ (recorded ++ calls.flatMap Call.row) (runCalls calls w) := by
  induction calls generalizing w recorded with
  | nil => simpa [runCalls] using h
  | cons c calls ih => simpa [runCalls] using ih (logInv_apply hdir h c)

/-- The decision log of a writer over a path with a directory part, on a file system that
accepts every write, after any sequence of calls from the constructor: the rows written,
followed by the buffer, are the recorded rows in call order; the file holds its old contents,
or the header when it was new, followed by the rows written; the header is written at most
once, only into a new file, and first; and the next call changes the file only by flushing a
non-empty buffer, in one write of the whole buffer that then empties it. -/
theorem runCalls_log (csvPath : String) (hdir : hasDirectory csvPath = true)
    (file₀ : Option (List Row)) (calls : List Call) :
    let w := runCalls calls (create csvPath file₀)
    w.writes.flatMap FileWrite.dataRows ++ w.buffer = calls.flatMap Call.row ∧
    w.file = (if w.writes = [] then file₀
      else some (file₀.getD [header] ++ w.writes.flatMap FileWrite.dataRows)) ∧
    w.writes.count .header ≤ 1 ∧
    (FileWrite.header ∈ w.writes → file₀ = none ∧ w.writes.head? = some .header) ∧
    ∀ c : Call, c.apply w =
      if c.flushes = true ∧ w.buffer ++ c.row ≠ [] then
        ({ w with
            buffer := []
            file := some (w.file.getD [header] ++ (w.buffer ++ c.row))
            writes := w.writes ++ (if w.file.isNone then [.header] else []) ++
              [.rows (w.buffer ++ c.row)] }, none)
      else ({ w with buffer := w.buffer ++ c.row }, none) := by
  obtain ⟨hpath, hdata, hfile, hcount, hhead⟩ := logInv_runCalls hdir (logInv_create csvPath file₀) calls
  exact ⟨hdata, hfile, hcount, hhead, Call.apply_eq (by rw [hpath]; exact hdir)⟩

/-- A run in `logs/`: a decision kept in memory, a migration that writes it with its own row
after the header, and a final flush of an empty buffer that writes nothing. -/
theorem runCalls_log_fixture :
    hasDirectory "logs/leader.csv" = true ∧
    let calls := [Call.record "t0" "10.0.0.1" false, .record "t1" "10.0.0.2" true, .flushRemaining]
    let w := runCalls calls (create "logs/leader.csv" none)
    w.writes.flatMap FileWrite.dataRows ++ w.buffer = calls.flatMap Call.row ∧
    w.file = (if w.writes = [] then none
      else some ((none : Option (List Row)).getD [header] ++ w.writes.flatMap FileWrite.dataRows)) ∧
    w.writes.count .header ≤ 1 ∧
    (FileWrite.header ∈ w.writes → (none : Option (List Row)) = none ∧ w.writes.head? = some .header) ∧
    ∀ c : Call, c.apply w =
      if c.flushes = true ∧ w.buffer ++ c.row ≠ [] then
        ({ w with
            buffer := []
            file := some (w.file.getD [header] ++ (w.buffer ++ c.row))
            writes := w.writes ++ (if w.file.isNone then [.header] else []) ++
              [.rows (w.buffer ++ c.row)] }, none)
      else ({ w with buffer := w.buffer ++ c.row }, none) :=
  ⟨by decide, runCalls_log "logs/leader.csv" (by decide) none _⟩

end PRaft.LeaderLogger
