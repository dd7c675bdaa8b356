import PRaft.TsCommon
import PRaft.ControlLoop

/-!
`Forecaster.predict` of `forecaster.py` and the data path of `train.py`'s `run_train`, up to
the network. The history is the frame `pd.read_csv` returns, its cells numbers, missing values
or text; the CSV tokeniser is not modelled. The network is opaque: `model` is whatever the
saved Keras model computes from a window of scaled rows.

`predict` selects the timestamp and the six trained columns by name, reads every other value
as a number (text and missing values become `0`), takes the last `N` rows, scales them,
feeds the network the last `look_back` of them, undoes the scaling with negatives set to `0`,
and stamps the rows with timestamps one step apart after the history's last one. `run_train`
drops rows with a missing value, keeps the last `tail_rows`, splits off the first
`int(len * train_ratio)` rows, the product a `float`, fits the scaler on them and cuts them
into samples. Both cast the values to `float32`.
-/

namespace PRaft.Forecast

/-- `pd.to_numeric(col, errors="coerce").fillna(0.0)` on one cell. -/
def Cell.toNumber : Cell → ℚ
  | .num q => q
  | .nan => 0
  | .text _ => 0

/-- `TRAIN_FEATURES` of `predict`, which is also `keep_cols` of `run_train`. -/
def trainFeatures : List String :=
  ["69f554c3f7f50a72_write", "69f554c3f7f50a72_read",
   "933ca51d2bb602b8_write", "933ca51d2bb602b8_read",
   "b92b49a4de72942d_write", "b92b49a4de72942d_read"]

/-- `xs[-n:]`: the last `n` elements, and the whole list for `n = 0`, since `-0` is `0`. -/
def takeLast {α : Type} (n : ℕ) (xs : List α) : List α :=
  if n = 0 then xs else xs.drop (xs.length - n)

/-! ### `Forecaster.predict` -/

/-- A `Forecaster` as `__init__` loads it: the network, the scaler, and `columns`,
`look_back` and `horizon` from the meta file. -/
structure Forecaster where
  model : List (List ℚ) → List (List ℚ)
  scaler : MinMaxScaler
  featureCols : List String
  lookBack : ℕ
  horizon : ℕ

/-- The history `predict` works on: the timestamps, which become the index, and per row the
values of `feature_cols`. -/
structure History where
  index : List (Option ℚ)
  values : List (List ℚ)

/-- `predict` up to `df[self.feature_cols].astype("float32")`: `KeyError` for a missing
timestamp or trained column, `ValueError` for a timestamp that is text or a `feature_cols` entry
`predict` does not keep. After `fillna` no value is missing, so `dropna` keeps every row. -/
def Forecaster.history (self : Forecaster) (df : CsvFrame) : Except PyException History :=
  if ("timestamp" :: trainFeatures).all (· ∈ df.columns) then
    (ensureTimestamp df "timestamp").bind fun index =>
      if self.featureCols.all (· ∈ trainFeatures) then
        .ok ⟨index, df.rows.map fun r =>
          self.featureCols.map fun c => binary32 (df.cell r c).toNumber⟩
      else .error ⟨"ValueError"⟩
  else .error ⟨"KeyError"⟩

/-- `N`: `use_last_rows`, or `look_back` when it is `None`, raised to `look_back` and cut to
the number of rows. -/
def historyLength (lookBack totalLen : ℕ) (useLastRows : Option ℤ) : ℕ :=
  let n := useLastRows.getD lookBack
  let n := if n < lookBack then (lookBack : ℤ) else n
  (if n > totalLen then (totalLen : ℤ) else n).toNat

/-- The step between the forecast's timestamps: `fixed_step_sec`, or the inferred step, which
falls back to one second when it is not positive. -/
def forecastStep (fixedStepSec : Option ℤ) (histIndex : List (Option ℚ)) : ℚ :=
  match fixedStepSec with
  | some s => s
  | none => if inferStepDelta histIndex ≤ 0 then 1 else inferStepDelta histIndex

/-- `pd.date_range(start, periods, freq)`: `ValueError` for a `NaT` start or a zero step. -/
def dateRange (start : Option ℚ) (periods : ℕ) (step : ℚ) : Except PyException (List ℚ) :=
  match start with
  | none => .error ⟨"ValueError"⟩
  | some t =>
    if step = 0 then .error ⟨"ValueError"⟩
    else .ok ((List.range periods).map fun (k : ℕ) => t + k * step)

/-- What `predict` returns with `return_dataframe=True`: the future timestamps and the frame of
predicted loads. -/
structure Prediction where
  index : List ℚ
  frame : PredictLeader.PredFrame

/-- The network's output for a history: the last `look_back` rows, scaled, through the network,
then back through `safe_inverse_transform`. -/
def Forecaster.forecastRows (self : Forecaster) (values : List (List ℚ)) :
    Except PyException (List (List ℚ)) :=
  (self.scaler.transform values).bind fun scaled =>
    safeInverseTransform self.scaler (self.model (takeLast self.lookBack scaled))

/-- `predict(data, use_last_rows, fixed_step_sec)`. The frame's constructor raises
`ValueError` unless the network gave one row per timestamp and one value per column. -/
def Forecaster.predict (self : Forecaster) (df : CsvFrame) (useLastRows fixedStepSec : Option ℤ) :
    Except PyException Prediction :=
  (self.history df).bind fun hist =>
    if hist.values.length < self.lookBack then .error ⟨"ValueError"⟩
    else
      let n := historyLength self.lookBack hist.values.length useLastRows
      let histIndex := takeLast n hist.index
      let step := forecastStep fixedStepSec histIndex
      (self.forecastRows (takeLast n hist.values)).bind fun preds =>
        (dateRange ((histIndex.getLast?.bind id).map (· + step)) self.horizon step).bind
          fun futureIndex =>
            if h : preds.length = futureIndex.length ∧
                ∀ r ∈ preds, r.length = self.featureCols.length then
              .ok ⟨futureIndex, ⟨self.featureCols, preds, h.2⟩⟩
            else .error ⟨"ValueError"⟩

/-- What `predict` gave `run_once_and_decide` at a tick: `HISTORY_CSV` read with
`USE_LAST_ROWS = 30` and `FIXED_STEP_SEC = None`; `none` is a missing file. -/
def Forecaster.outcome (self : Forecaster) (history : Option CsvFrame) :
    PredictLeader.PredictOutcome :=
  match history with
  | none => .raised ⟨"FileNotFoundError"⟩
  | some df =>
    match self.predict df (some 30) none with
    | .ok f => .returned (some f.frame)
    | .error e => .raised e

/-! ### The window -/

section TakeLast

variable {α : Type} {n m : ℕ} {xs : List α}

theorem takeLast_of_pos (hn : 0 < n) : takeLast n xs = xs.drop (xs.length - n) :=
  if_neg hn.ne'

theorem takeLast_map {β : Type} (f : α → β) (n : ℕ) (xs : List α) :
    takeLast n (xs.map f) = (takeLast n xs).map f := by
  unfold takeLast
  split_ifs <;> simp

theorem takeLast_takeLast (hm : 0 < m) (hmn : m ≤ n) :
    takeLast m (takeLast n xs) = takeLast m xs := by
  rw [takeLast_of_pos hm, takeLast_of_pos (lt_of_lt_of_le hm hmn), takeLast_of_pos hm,
    List.drop_drop, List.length_drop]
  congr 1
  omega

theorem mem_of_mem_takeLast {x : α} (h : x ∈ takeLast n xs) : x ∈ xs := by
  unfold takeLast at h
  split_ifs at h
  exacts [h, List.mem_of_mem_drop h]

theorem takeLast_eq_nil_iff (hn : 0 < n) : takeLast n xs = [] ↔ xs = [] := by
  rw [takeLast_of_pos hn, List.drop_eq_nil_iff, ← List.length_eq_zero]
  omega

theorem getLast?_takeLast (n : ℕ) (xs : List α) : (takeLast n xs).getLast? = xs.getLast? := by
  unfold takeLast
  split_ifs with hn
  · rfl
  rw [List.getLast?_drop]
  split_ifs with h
  · obtain rfl : xs = [] := List.length_eq_zero.1 (by omega)
    rfl
  · rfl

end TakeLast

theorem historyLength_bounds {lookBack totalLen : ℕ} (h : lookBack ≤ totalLen) (u : Option ℤ) :
    lookBack ≤ historyLength lookBack totalLen u ∧ historyLength lookBack totalLen u ≤ totalLen := by
  unfold historyLength
  generalize u.getD (lookBack : ℤ) = n
  dsimp only
  split_ifs <;> omega

namespace MinMaxScaler

theorem checkRows_takeLast (sc : MinMaxScaler) {rows : List (List ℚ)} {w n : ℕ} (hn : 0 < n)
    (hw : ∀ r ∈ rows, r.length = w) : sc.checkRows (takeLast n rows) = sc.checkRows rows := by
  rw [Bool.eq_iff_iff, checkRows_iff, checkRows_iff, Ne, takeLast_eq_nil_iff hn]
  refine ⟨fun ⟨hne, hall⟩ => ⟨hne, fun r hr => ?_⟩,
    fun ⟨hne, hall⟩ => ⟨hne, fun r hr => hall r (mem_of_mem_takeLast hr)⟩⟩
  obtain ⟨x, hx⟩ := List.exists_mem_of_ne_nil _ (mt (takeLast_eq_nil_iff hn).1 hne)
  rw [hw r hr, ← hw x (mem_of_mem_takeLast hx), hall x hx]

theorem transform_takeLast (sc : MinMaxScaler) {rows : List (List ℚ)} {w n : ℕ} (hn : 0 < n)
    (hw : ∀ r ∈ rows, r.length = w) :
    sc.transform (takeLast n rows) = (sc.transform rows).map (takeLast n) := by
  unfold transform
  rw [sc.checkRows_takeLast hn hw]
  split_ifs <;> simp [Except.map, takeLast_map]

end MinMaxScaler

theorem Forecaster.forecastRows_takeLast (self : Forecaster) {values : List (List ℚ)} {w n : ℕ}
    (hw : ∀ r ∈ values, r.length = w) (hlb : 0 < self.lookBack) (hn : self.lookBack ≤ n) :
    self.forecastRows (takeLast n values) = self.forecastRows values := by
  unfold Forecaster.forecastRows
  rw [self.scaler.transform_takeLast (lt_of_lt_of_le hlb hn) hw]
  cases self.scaler.transform values <;> simp [Except.map, Except.bind, takeLast_takeLast hlb hn]

/-! ### The timestamps -/

theorem forecastStep_none_pos (histIndex : List (Option ℚ)) : 0 < forecastStep none histIndex := by
  unfold forecastStep
  split_ifs with h
  exacts [one_pos, not_le.1 h]

theorem forecastStep_eq_zero_iff {s : Option ℤ} {histIndex : List (Option ℚ)} :
    forecastStep s histIndex = 0 ↔ s = some 0 := by
  cases s with
  | none => simp [(forecastStep_none_pos histIndex).ne']
  | some k => simp [forecastStep]

theorem dateRange_eq_ok {start : Option ℚ} {periods : ℕ} {step : ℚ} {idx : List ℚ}
    (h : dateRange start periods step = .ok idx) :
    ∃ t, start = some t ∧ step ≠ 0 ∧ idx = (List.range periods).map fun (k : ℕ) => t + k * step := by
  unfold dateRange at h
  split at h
  · cases h
  · split_ifs at h with hs
    cases h
    exact ⟨_, rfl, hs, rfl⟩

/-! ### `predict` -/

theorem Forecaster.history_eq_ok {self : Forecaster} {df : CsvFrame} {hist : History}
    (h : self.history df = .ok hist) :
    (∀ c ∈ self.featureCols, c ∈ trainFeatures) ∧ ensureTimestamp df "timestamp" = .ok hist.index ∧
      hist.values =
        df.rows.map fun r => self.featureCols.map fun c => binary32 (df.cell r c).toNumber := by
  unfold Forecaster.history at h
  split_ifs at h with hcols hfeat <;> obtain ⟨index, hidx, h⟩ := bind_eq_ok.1 h <;> cases h
  exact ⟨by simpa using hfeat, hidx, rfl⟩

theorem Forecaster.forecastRows_nonneg {self : Forecaster} {values preds : List (List ℚ)}
    (h : self.forecastRows values = .ok preds) : ∀ r ∈ preds, ∀ v ∈ r, 0 ≤ v := by
  obtain ⟨_, -, h⟩ := bind_eq_ok.1 h
  exact safeInverseTransform_nonneg h

/-- `predict`'s frame with the choice of `N` resolved: whatever `use_last_rows` is, the network
sees the last `look_back` rows, and `date_range` raises only for a `NaT` last timestamp or a
zero `fixed_step_sec`. -/
theorem Forecaster.predict_map_frame (self : Forecaster) (df : CsvFrame) (u s : Option ℤ)
    (hlb : 0 < self.lookBack) :
    (self.predict df u s).map Prediction.frame =
      (self.history df).bind fun hist =>
        if hist.values.length < self.lookBack then .error ⟨"ValueError"⟩
        else (self.forecastRows hist.values).bind fun preds =>
          if (hist.index.getLast?.bind id).isSome ∧ s ≠ some 0 then
            if h : preds.length = self.horizon ∧ ∀ r ∈ preds, r.length = self.featureCols.length then
              .ok ⟨self.featureCols, preds, h.2⟩
            else .error ⟨"ValueError"⟩
          else .error ⟨"ValueError"⟩ := by
  unfold Forecaster.predict
  cases hh : self.history df with
  | error e => rfl
  | ok hist =>
    obtain ⟨-, -, hvals⟩ := self.history_eq_ok hh
    have hw : ∀ r ∈ hist.values, r.length = self.featureCols.length := by simp [hvals]
    simp only [Except.bind]
    by_cases hlen : hist.values.length < self.lookBack
    · simp only [hlen, if_true]
      rfl
    simp only [hlen, if_false]
    have hn := historyLength_bounds (not_lt.1 hlen) u
    rw [self.forecastRows_takeLast hw hlb hn.1, getLast?_takeLast]
    cases self.forecastRows hist.values with
    | error e => rfl
    | ok preds =>
      cases hist.index.getLast?.bind id with
      | none => simp [dateRange, Except.map]
      | some t =>
        by_cases hs : s = some 0
        · simp [dateRange, forecastStep_eq_zero_iff, hs, Except.map]
        · simp only [dateRange, Option.map_some', forecastStep_eq_zero_iff, hs, if_false,
            List.length_map, List.length_range, Option.isSome_some, ne_eq, not_false_eq_true,
            and_self, if_true]
          split <;> rfl

/-- The forecast's values do not depend on `use_last_rows`: the scaler works row by row and the
network sees the last `look_back` rows whatever `N` is; only the timestamps can differ, through
the inferred step. With a `look_back` of `0`, `[-0:]` would hand the network all `N` rows. -/
theorem predict_frame_indep_useLastRows (self : Forecaster) (df : CsvFrame) (u₁ u₂ s : Option ℤ)
    (hlb : 0 < self.lookBack) :
    (self.predict df u₁ s).map Prediction.frame = (self.predict df u₂ s).map Prediction.frame := by
  rw [self.predict_map_frame df u₁ s hlb, self.predict_map_frame df u₂ s hlb]

/-- A forecaster as `run_train` saves it, with a look-back and a horizon of one step: the scaler
`fit` makes of rows that are all zero, and a network that repeats its input. -/
def oneStepForecaster : Forecaster :=
  ⟨fun rows => rows, ⟨List.replicate 6 (1, 0), by simp⟩, trainFeatures, 1, 1⟩

/-- A history of one row, at second 100, with 5 writes on node `69f554c3f7f50a72`. -/
def oneRowHistory : CsvFrame :=
  ⟨"timestamp" :: trainFeatures, [[.num 100, .num 5, .num 0, .num 0, .num 0, .num 0, .num 0]],
    by decide, by decide⟩

/-- Four rows, one a second, with every load zero. -/
def zeroLoadHistory : CsvFrame :=
  ⟨"timestamp" :: trainFeatures,
    [.num 0 :: List.replicate 6 (.num 0), .num 1 :: List.replicate 6 (.num 0),
      .num 2 :: List.replicate 6 (.num 0), .num 3 :: List.replicate 6 (.num 0)],
    by decide, by decide⟩

/-- On four rows, `use_last_rows = 30` hands the scaler all four and the default only the last
one; the forecasts agree. -/
theorem predict_frame_indep_useLastRows_oneStep :
    0 < oneStepForecaster.lookBack ∧
      historyLength oneStepForecaster.lookBack zeroLoadHistory.rows.length (some 30) = 4 ∧
      historyLength oneStepForecaster.lookBack zeroLoadHistory.rows.length none = 1 ∧
      (oneStepForecaster.predict zeroLoadHistory (some 30) none).map Prediction.frame =
        (oneStepForecaster.predict zeroLoadHistory none none).map Prediction.frame :=
  ⟨by decide, rfl, rfl, predict_frame_indep_useLastRows _ _ _ _ _ (by decide)⟩

/-- `predict` on that history: the last row again, one second after it. -/
theorem predict_oneRowHistory :
    oneStepForecaster.predict oneRowHistory (some 30) none =
      .ok ⟨[101], ⟨trainFeatures, [[5, 0, 0, 0, 0, 0]], by decide⟩⟩ := by
  have h5 : binary32 5 = 5 := binary32_ofNat 5 (by norm_num)
  have hh : oneStepForecaster.history oneRowHistory = .ok ⟨[some 100], [[5, 0, 0, 0, 0, 0]]⟩ := by
    have h : oneStepForecaster.history oneRowHistory = .ok ⟨[some 100],
        [[binary32 5, binary32 0, binary32 0, binary32 0, binary32 0, binary32 0]]⟩ := rfl
    rw [h, h5, binary32_zero]
  have hrows : oneStepForecaster.forecastRows [[5, 0, 0, 0, 0, 0]] = .ok [[5, 0, 0, 0, 0, 0]] := by
    simp only [Forecaster.forecastRows, MinMaxScaler.transform, safeInverseTransform,
      MinMaxScaler.inverseTransform]
    norm_num [MinMaxScaler.checkRows, MinMaxScaler.transformRow, MinMaxScaler.inverseRow,
      oneStepForecaster, MinMaxScaler.nFeatures, takeLast, Except.bind, Except.map,
      List.replicate_succ, h5]
  have hfc : oneStepForecaster.lookBack = 1 ∧ oneStepForecaster.horizon = 1 ∧
      oneStepForecaster.featureCols = trainFeatures := ⟨rfl, rfl, rfl⟩
  have hstep : forecastStep none [some 100] = 1 := rfl
  simp only [Forecaster.predict, hh, Except.bind, hfc]
  norm_num [historyLength, takeLast, hstep, dateRange, hrows, trainFeatures, List.range_succ]

/-- What a successful `predict` went through: the history, the network's rows and the
timestamps, with the frame built from them. -/
theorem Forecaster.predict_eq_ok {self : Forecaster} {df : CsvFrame} {u s : Option ℤ}
    {f : Prediction} (h : self.predict df u s = .ok f) :
    ∃ hist preds, self.history df = .ok hist ∧
      self.forecastRows (takeLast (historyLength self.lookBack hist.values.length u) hist.values) =
        .ok preds ∧
      dateRange ((hist.index.getLast?.bind id).map
          (· + forecastStep s (takeLast (historyLength self.lookBack hist.values.length u) hist.index)))
        self.horizon
        (forecastStep s (takeLast (historyLength self.lookBack hist.values.length u) hist.index)) =
        .ok f.index ∧
      f.frame.columns = self.featureCols ∧ f.frame.rows = preds ∧ preds.length = f.index.length := by
  unfold Forecaster.predict at h
  obtain ⟨hist, hh, h⟩ := bind_eq_ok.1 h
  by_cases hlen : hist.values.length < self.lookBack
  · simp [hlen] at h
  rw [if_neg hlen] at h
  obtain ⟨preds, hp, h⟩ := bind_eq_ok.1 h
  obtain ⟨idx, hd, h⟩ := bind_eq_ok.1 h
  rw [getLast?_takeLast] at hd
  split at h
  · rename_i hshape
    cases h
    exact ⟨hist, preds, hh, hp, hd, rfl, rfl, hshape.1⟩
  · cases h

/-- A forecast has the columns `feature_cols`, one row per step of the horizon and no negative
value, and its timestamps run evenly from one step after the last row's timestamp: the step is
`fixed_step_sec` when it is given, and positive otherwise. -/
theorem predict_output {self : Forecaster} {df : CsvFrame} {u s : Option ℤ} {f : Prediction}
    (h : self.predict df u s = .ok f) :
    f.frame.columns = self.featureCols ∧ f.frame.rows.length = self.horizon ∧
      (∀ r ∈ f.frame.rows, ∀ v ∈ r, 0 ≤ v) ∧
      ∃ (r : List Cell) (t step : ℚ), df.rows.getLast? = some r ∧ df.cell r "timestamp" = .num t ∧
        (s = none → 0 < step) ∧ (∀ k, s = some k → step = k) ∧
        f.index = (List.range self.horizon).map fun (k : ℕ) => t + step + k * step := by
  obtain ⟨hist, preds, hh, hp, hd, hcols, hrows, hlen⟩ := self.predict_eq_ok h
  obtain ⟨t', hstart, -, hidx⟩ := dateRange_eq_ok hd
  obtain ⟨t, hlast, rfl⟩ := Option.map_eq_some'.1 hstart
  obtain ⟨r, hr, hcell⟩ := ensureTimestamp_getLast? (self.history_eq_ok hh).2.1 hlast
  refine ⟨hcols, by simp [hrows, hlen, hidx], hrows ▸ self.forecastRows_nonneg hp, r, t, _, hr,
    hcell, fun hs => hs ▸ forecastStep_none_pos _, fun k hs => by simp [hs, forecastStep], hidx⟩

theorem predict_output_oneRowHistory :
    let f : Prediction := ⟨[101], ⟨trainFeatures, [[5, 0, 0, 0, 0, 0]], by decide⟩⟩
    oneStepForecaster.predict oneRowHistory (some 30) none = .ok f ∧
      f.frame.columns = oneStepForecaster.featureCols ∧
      f.frame.rows.length = oneStepForecaster.horizon ∧ (∀ r ∈ f.frame.rows, ∀ v ∈ r, 0 ≤ v) ∧
      ∃ (r : List Cell) (t step : ℚ), oneRowHistory.rows.getLast? = some r ∧
        oneRowHistory.cell r "timestamp" = .num t ∧ ((none : Option ℤ) = none → 0 < step) ∧
        (∀ k, (none : Option ℤ) = some k → step = k) ∧
        f.index = (List.range oneStepForecaster.horizon).map fun (k : ℕ) => t + step + k * step :=
  ⟨predict_oneRowHistory, predict_output predict_oneRowHistory⟩

/-! ### From the forecast to the leader -/

open PredictLeader

theorem mem_trainedNodes {c n : String} (hc : c ∈ trainFeatures) (h : columnNodeId c = some n) :
    n ∈ ["69f554c3f7f50a72", "933ca51d2bb602b8", "b92b49a4de72942d"] := by
  have hn : n ∈ trainFeatures.filterMap columnNodeId := List.mem_filterMap.2 ⟨c, hc, h⟩
  rw [show trainFeatures.filterMap columnNodeId = ["69f554c3f7f50a72", "69f554c3f7f50a72",
    "933ca51d2bb602b8", "933ca51d2bb602b8", "b92b49a4de72942d", "b92b49a4de72942d"] by decide] at hn
  simpa using hn

theorem lookup_getD_nonneg :
    ∀ {l : List (String × ℚ)}, (∀ p ∈ l, 0 ≤ p.2) → ∀ c, 0 ≤ (l.lookup c).getD 0
  | [], _, _ => le_refl 0
  | (k, v) :: l, h, c => by
    simp only [List.lookup]
    split
    · exact h _ (List.mem_cons_self _ _)
    · exact lookup_getD_nonneg (fun p hp => h p (List.mem_cons_of_mem _ hp)) c

theorem colMean_nonneg {df : PredFrame} (h : ∀ r ∈ df.rows, ∀ v ∈ r, 0 ≤ v) (c : String) :
    0 ≤ df.colMean c := by
  refine lookup_getD_nonneg (fun p hp => ?_) c
  simp only [PredFrame.mean, List.mapIdx_eq_enum_map, List.mem_map] at hp
  obtain ⟨⟨j, name⟩, -, rfl⟩ := hp
  refine div_nonneg (List.sum_nonneg fun x hx => ?_) (Nat.cast_nonneg _)
  obtain ⟨r, hr, rfl⟩ := List.mem_map.1 hx
  rw [List.getD_eq_getElem?_getD]
  cases hj : r[j]? with
  | none => exact le_refl 0
  | some v => exact h r hr v (List.getElem?_mem hj)

theorem buildDomainsFromPredMean_eq_ok_of_predict (olc : OptimalLeaderCalculator)
    {self : Forecaster} {df : CsvFrame} {u s : Option ℤ} {f : Prediction}
    (hnodup : self.featureCols.Nodup) (h : self.predict df u s = .ok f) :
    buildDomainsFromPredMean olc f.frame =
      .ok (if f.frame.empty then [] else (nodeIds f.frame).filterMap (projectedDomain olc f.frame)) := by
  obtain ⟨-, -, -, -, -, hcols, -, -⟩ := self.predict_eq_ok h
  cases he : f.frame.empty
  · exact buildDomainsFromPredMean_of_nodup olc (hcols ▸ hnodup) he
  · simp [buildDomainsFromPredMean, he]

/-- A forecast over distinct columns goes through `build_domains_from_pred_mean` without an
exception, and every domain it yields is one of the three trained nodes, with nonnegative
loads. -/
theorem buildDomainsFromPredMean_predict (olc : OptimalLeaderCalculator) {self : Forecaster}
    {df : CsvFrame} {u s : Option ℤ} {f : Prediction} (hnodup : self.featureCols.Nodup)
    (h : self.predict df u s = .ok f) :
    ∃ ds, buildDomainsFromPredMean olc f.frame = .ok ds ∧ ∀ d ∈ ds,
      d.id ∈ ["69f554c3f7f50a72", "933ca51d2bb602b8", "b92b49a4de72942d"] ∧
        0 ≤ d.readRequests ∧ 0 ≤ d.writeRequests := by
  obtain ⟨hist, preds, hh, hp, -, hcols, hrows, -⟩ := self.predict_eq_ok h
  have hnn : ∀ r ∈ f.frame.rows, ∀ v ∈ r, 0 ≤ v := hrows ▸ self.forecastRows_nonneg hp
  have hsub : ∀ c ∈ f.frame.columns, c ∈ trainFeatures := hcols ▸ (self.history_eq_ok hh).1
  refine ⟨_, buildDomainsFromPredMean_eq_ok_of_predict olc hnodup h, fun d hd => ?_⟩
  split_ifs at hd
  · simp at hd
  obtain ⟨n, hn, hnd⟩ := List.mem_filterMap.1 hd
  obtain ⟨rfl, -, -, hr, hw⟩ := projectedDomain_eq_some hnd
  refine ⟨?_, hr ▸ colMean_nonneg hnn _, hw ▸ colMean_nonneg hnn _⟩
  rcases mem_nodeIds.1 hn with hc | hc
  · exact mem_trainedNodes (hsub _ hc) (columnNodeId_eq_some_iff.2 (.inl rfl))
  · exact mem_trainedNodes (hsub _ hc) (columnNodeId_eq_some_iff.2 (.inr rfl))

theorem buildDomainsFromPredMean_predict_oneRowHistory :
    oneStepForecaster.featureCols.Nodup ∧
      oneStepForecaster.predict oneRowHistory (some 30) none =
        .ok ⟨[101], ⟨trainFeatures, [[5, 0, 0, 0, 0, 0]], by decide⟩⟩ ∧
      ∃ ds, buildDomainsFromPredMean OptimalLeaderCalculator.init
          ⟨trainFeatures, [[5, 0, 0, 0, 0, 0]], by decide⟩ = .ok ds ∧ ∀ d ∈ ds,
        d.id ∈ ["69f554c3f7f50a72", "933ca51d2bb602b8", "b92b49a4de72942d"] ∧
          0 ≤ d.readRequests ∧ 0 ≤ d.writeRequests :=
  ⟨by decide, predict_oneRowHistory,
    buildDomainsFromPredMean_predict _ (by decide) predict_oneRowHistory⟩

/-- On a forecaster with distinct `feature_cols`, the only exception the `try` of a tick catches
is one that reading the history or `predict` raised: the projector and the choice of the leader
never raise on a forecast. -/
theorem runOnceAndDecide_outcome_eq_error (olc : OptimalLeaderCalculator) (selfIp : String)
    {self : Forecaster} (hnodup : self.featureCols.Nodup) (history : Option CsvFrame)
    (e : PyException) :
    runOnceAndDecide olc selfIp (self.outcome history) = .error e ↔
      self.outcome history = .raised e := by
  cases history with
  | none => simp [Forecaster.outcome, runOnceAndDecide]
  | some df =>
    cases hp : self.predict df (some 30) none with
    | error e' => simp [Forecaster.outcome, hp, runOnceAndDecide]
    | ok f =>
      simp only [Forecaster.outcome, hp, runOnceAndDecide,
        buildDomainsFromPredMean_eq_ok_of_predict olc hnodup hp]
      split_ifs <;> simp [Except.map]


theorem runOnceAndDecide_outcome_eq_error_oneStep :
    oneStepForecaster.featureCols.Nodup ∧
      (runOnceAndDecide OptimalLeaderCalculator.init "192.168.0.223"
          (oneStepForecaster.outcome (some oneRowHistory)) = .error ⟨"ValueError"⟩ ↔
        oneStepForecaster.outcome (some oneRowHistory) = .raised ⟨"ValueError"⟩) :=
  ⟨by decide, runOnceAndDecide_outcome_eq_error _ _ (by decide) _ _⟩

/-! ### `run_train` -/

/-- `astype("float32")` on a cell of a row `dropna` kept: `ValueError` for text. A missing value
never reaches it, `dropna` has removed its row. -/
def Cell.toFloat : Cell → Except PyException ℚ
  | .num q => .ok (binary32 q)
  | .nan => .ok 0
  | .text _ => .error ⟨"ValueError"⟩

/-- `df[keep_cols].dropna().astype("float32").values`: the rows with no missing value among the
trained columns, as numbers. -/
def trainValues (df : CsvFrame) : Except PyException (List (List ℚ)) :=
  ((df.rows.map fun r => trainFeatures.map (df.cell r)).filter fun r => r.all (· ≠ .nan)).mapM
    fun r => r.mapM Cell.toFloat

/-- The arguments of `run_train` that its data path reads, with the defaults of
`build_arg_parser`. -/
structure TrainArgs where
  lookBack : ℕ := 30
  horizon : ℕ := 5
  trainRatio : ℚ := binary64 (9 / 10)
  tailRows : ℤ := 900

/-- What `run_train` fits the network on and saves: the scaler and the training samples. -/
structure TrainData where
  scaler : MinMaxScaler
  xTrain : List (List (List ℚ))
  yTrain : List (List (List ℚ))

/-- The rows `run_train` keeps: `df.tail(tail_rows)` when `tail_rows` is positive and there are
more rows than that. -/
def tailData (tailRows : ℤ) (data : List (List ℚ)) : List (List ℚ) :=
  if tailRows > 0 ∧ data.length > tailRows then takeLast tailRows.toNat data else data

/-- `run_train(args)` up to `model.fit`: the scaler is fitted on the first
`int(len(data) * train_ratio)` rows, and both splits are scaled, although only the training
one is used. -/
def runTrain (args : TrainArgs) (df : CsvFrame) : Except PyException TrainData :=
  (ensureTimestamp df "timestamp").bind fun _ =>
    if trainFeatures.all (· ∈ df.columns) then
      (trainValues df).bind fun raw =>
        let data := tailData args.tailRows raw
        let trainSize := PredictLeader.pyInt (binary64 (data.length * args.trainRatio))
        if trainSize ≤ ((args.lookBack + args.horizon : ℕ) : ℤ) then .error ⟨"ValueError"⟩
        else
          let trainRaw := data.take trainSize.toNat
          let testRaw := data.drop trainSize.toNat
          (fit trainRaw).bind fun scaler =>
            (scaler.transform trainRaw).bind fun trainScaled =>
              (scaler.transform testRaw).bind fun _ =>
                let samples := createDatasetMulti trainScaled args.lookBack args.horizon
                .ok ⟨scaler, samples.1, samples.2⟩
    else .error ⟨"ValueError"⟩

theorem trainValues_width {df : CsvFrame} {raw : List (List ℚ)} (h : trainValues df = .ok raw) :
    ∀ r ∈ raw, r.length = trainFeatures.length := by
  obtain ⟨hall, rfl⟩ := mapM_eq_ok h
  intro r hr
  obtain ⟨c, hc, rfl⟩ := List.mem_map.1 hr
  obtain ⟨r, -, rfl⟩ := List.mem_map.1 (List.mem_of_mem_filter hc)
  rw [(mapM_eq_ok (hall _ hc)).2, List.length_map, List.length_map]

theorem length_trainValues_le {df : CsvFrame} {raw : List (List ℚ)} (h : trainValues df = .ok raw) :
    raw.length ≤ df.rows.length := by
  rw [(mapM_eq_ok h).2, List.length_map]
  exact (List.length_filter_le _ _).trans_eq (List.length_map _ _)

theorem length_tailData_le (tailRows : ℤ) (data : List (List ℚ)) :
    (tailData tailRows data).length ≤ data.length := by
  unfold tailData takeLast
  split_ifs <;> simp

theorem tailData_sublist (tailRows : ℤ) (data : List (List ℚ)) {r : List ℚ}
    (h : r ∈ tailData tailRows data) : r ∈ data := by
  unfold tailData at h
  split_ifs at h
  exacts [mem_of_mem_takeLast h, h]

theorem trainValues_onlyRaises (df : CsvFrame) : OnlyRaises ⟨"ValueError"⟩ (trainValues df) :=
  OnlyRaises.mapM fun r _ => OnlyRaises.mapM fun c _ => by
    cases c
    exacts [OnlyRaises.ok _, OnlyRaises.ok _, OnlyRaises.error_self]

theorem runTrain_onlyRaises (args : TrainArgs) (df : CsvFrame) :
    OnlyRaises ⟨"ValueError"⟩ (runTrain args df) := by
  refine (ensureTimestamp_onlyRaises df _).bind fun _ _ => ?_
  split_ifs
  · refine (trainValues_onlyRaises df).bind fun raw _ => ?_
    dsimp only
    split_ifs
    · exact OnlyRaises.error_self
    · exact (fit_onlyRaises _).bind fun sc _ => (sc.transform_onlyRaises _).bind fun _ _ =>
        (sc.transform_onlyRaises _).bind fun _ _ => OnlyRaises.ok _
  · exact OnlyRaises.error_self

/-- What a successful `run_train` went through: the clean rows, the training split of the first
`n = int(len * train_ratio)` of the rows kept, with a row left over, the scaler fitted on it, and
the samples cut from it once scaled. -/
theorem runTrain_eq_ok {args : TrainArgs} {df : CsvFrame} {td : TrainData}
    (h : runTrain args df = .ok td) :
    ∃ (raw : List (List ℚ)) (n : ℕ) (scaled : List (List ℚ)), trainValues df = .ok raw ∧
      (n : ℤ) = PredictLeader.pyInt (binary64 ((tailData args.tailRows raw).length * args.trainRatio)) ∧
      args.lookBack + args.horizon < n ∧ n < (tailData args.tailRows raw).length ∧
      fit ((tailData args.tailRows raw).take n) = .ok td.scaler ∧
      td.scaler.transform ((tailData args.tailRows raw).take n) = .ok scaled ∧
      td.xTrain = (createDatasetMulti scaled args.lookBack args.horizon).1 ∧
      td.yTrain = (createDatasetMulti scaled args.lookBack args.horizon).2 := by
  unfold runTrain at h
  obtain ⟨-, -, h⟩ := bind_eq_ok.1 h
  by_cases hk : trainFeatures.all (· ∈ df.columns)
  swap
  · simp [hk] at h
  rw [if_pos hk] at h
  obtain ⟨raw, hraw, h⟩ := bind_eq_ok.1 h
  dsimp only at h
  split_ifs at h with hg
  obtain ⟨sc, hfit, h⟩ := bind_eq_ok.1 h
  obtain ⟨scaled, ht, h⟩ := bind_eq_ok.1 h
  obtain ⟨_, htest, h⟩ := bind_eq_ok.1 h
  cases h
  have hnonempty := ((sc.checkRows_iff).1 (sc.transform_eq_ok htest).1).1
  rw [Ne, List.drop_eq_nil_iff, not_le] at hnonempty
  exact ⟨raw, _, scaled, hraw, by omega, by omega, hnonempty, hfit, ht, rfl, rfl⟩

theorem trainValues_zeroLoadHistory :
    trainValues zeroLoadHistory = .ok (List.replicate 4 (List.replicate 6 0)) := by
  have h : trainValues zeroLoadHistory = .ok (List.replicate 4 (List.replicate 6 (binary32 0))) := rfl
  rwa [binary32_zero] at h

/-- Arguments that keep three of four rows for training, with one-step windows and targets. -/
def smallTrainArgs : TrainArgs :=
  { lookBack := 1, horizon := 1, trainRatio := 3 / 4, tailRows := 0 }

/-- `run_train` on those rows: two samples of zero rows, and the scaler of constant features. -/
theorem runTrain_zeroLoadHistory :
    runTrain smallTrainArgs zeroLoadHistory =
      .ok ⟨⟨List.replicate 6 (1, 0), by simp⟩, [[List.replicate 6 0], [List.replicate 6 0]],
        [[List.replicate 6 0], [List.replicate 6 0]]⟩ := by
  have hts : ensureTimestamp zeroLoadHistory "timestamp" = .ok [some 0, some 1, some 2, some 3] :=
    rfl
  have hraw := trainValues_zeroLoadHistory
  have hk : trainFeatures.all (· ∈ zeroLoadHistory.columns) = true := by decide
  have hn : PredictLeader.pyInt (binary64 3) = 3 := by
    norm_num [binary64_ofNat 3 (by norm_num), PredictLeader.pyInt]
  have hnat : Int.toNat 3 = 3 := rfl
  simp only [runTrain, hts, hraw, Except.bind, smallTrainArgs, tailData, hk, if_true]
  norm_num [hn, hnat, fit, columnMin, columnMax, featureParams, constantTol,
    MinMaxScaler.transform, MinMaxScaler.checkRows, MinMaxScaler.nFeatures,
    MinMaxScaler.transformRow, createDatasetMulti, List.replicate_succ, List.range_succ]

/-- The samples `run_train` fits the network on: at least two, one target per window, windows
of `look_back` rows and targets of `horizon` rows, each row of the six trained columns with
every value scaled to a nonnegative number. -/
theorem runTrain_samples {args : TrainArgs} {df : CsvFrame} {td : TrainData}
    (h : runTrain args df = .ok td) :
    2 ≤ td.xTrain.length ∧ td.yTrain.length = td.xTrain.length ∧
      (∀ x ∈ td.xTrain, x.length = args.lookBack) ∧ (∀ y ∈ td.yTrain, y.length = args.horizon) ∧
      ∀ w ∈ td.xTrain ++ td.yTrain, ∀ row ∈ w,
        row.length = trainFeatures.length ∧ ∀ v ∈ row, 0 ≤ v := by
  obtain ⟨raw, n, scaled, hraw, -, hlbn, hnlen, hfit, ht, hX, hY⟩ := runTrain_eq_ok h
  rw [hX, hY]
  have hlen : scaled.length = n := by
    rw [(td.scaler.transform_eq_ok ht).2, List.length_map, List.length_take]
    omega
  -- every row of a sample is a row of the scaled training split
  have hrows : ∀ w ∈ (createDatasetMulti scaled args.lookBack args.horizon).1 ++
      (createDatasetMulti scaled args.lookBack args.horizon).2, ∀ row ∈ w, row ∈ scaled := by
    simp only [createDatasetMulti, List.mem_append, List.mem_map]
    rintro _ (⟨i, -, rfl⟩ | ⟨i, -, rfl⟩) row hrow
    exacts [List.mem_of_mem_drop (List.mem_of_mem_take hrow),
      List.mem_of_mem_drop (List.mem_of_mem_take hrow)]
  have hwidth : ∀ row ∈ scaled, row.length = trainFeatures.length := by
    obtain ⟨hc, rfl⟩ := td.scaler.transform_eq_ok ht
    rw [MinMaxScaler.checkRows_iff] at hc
    obtain ⟨r₀, hr₀⟩ := List.exists_mem_of_ne_nil _ hc.1
    intro row hrow
    obtain ⟨r, hr, rfl⟩ := List.mem_map.1 hrow
    rw [td.scaler.length_transformRow (hc.2 r hr), ← hc.2 r₀ hr₀,
      trainValues_width hraw r₀ (tailData_sublist _ _ (List.mem_of_mem_take hr₀))]
  refine ⟨by simp [createDatasetMulti]; omega, by simp [createDatasetMulti], ?_, ?_,
    fun w hw row hrow => ⟨hwidth row (hrows w hw row hrow),
      transform_fit_nonneg hfit ht row (hrows w hw row hrow)⟩⟩
  · simp only [createDatasetMulti, List.mem_map, List.mem_range]
    rintro _ ⟨i, hi, rfl⟩
    simp only [List.length_take, List.length_drop]
    omega
  · simp only [createDatasetMulti, List.mem_map, List.mem_range]
    rintro _ ⟨i, hi, rfl⟩
    simp only [List.length_take, List.length_drop]
    omega

theorem runTrain_samples_zeroLoadHistory :
    let td : TrainData := ⟨⟨List.replicate 6 (1, 0), by simp⟩,
      [[List.replicate 6 0], [List.replicate 6 0]], [[List.replicate 6 0], [List.replicate 6 0]]⟩
    runTrain smallTrainArgs zeroLoadHistory = .ok td ∧
      2 ≤ td.xTrain.length ∧ td.yTrain.length = td.xTrain.length ∧
      (∀ x ∈ td.xTrain, x.length = smallTrainArgs.lookBack) ∧
      (∀ y ∈ td.yTrain, y.length = smallTrainArgs.horizon) ∧
      ∀ w ∈ td.xTrain ++ td.yTrain, ∀ row ∈ w,
        row.length = trainFeatures.length ∧ ∀ v ∈ row, 0 ≤ v :=
  ⟨runTrain_zeroLoadHistory, runTrain_samples runTrain_zeroLoadHistory⟩

/-- No test row reaches the network or the scaler: with `n = int(len * train_ratio)` rows in the
training split and at least one row left for the test split, the scaler is fitted on the first
`n` rows alone, and the `i`-th window and its target are the `look_back + horizon` consecutive
rows of the training split from row `i`, scaled. -/
theorem runTrain_windows {args : TrainArgs} {df : CsvFrame} {td : TrainData}
    (h : runTrain args df = .ok td) :
    ∃ (raw : List (List ℚ)) (n : ℕ), trainValues df = .ok raw ∧
      (n : ℤ) = PredictLeader.pyInt (binary64 ((tailData args.tailRows raw).length * args.trainRatio)) ∧
      n < (tailData args.tailRows raw).length ∧
      fit ((tailData args.tailRows raw).take n) = .ok td.scaler ∧
      ∀ i x y, td.xTrain[i]? = some x → td.yTrain[i]? = some y →
        x ++ y = ((((tailData args.tailRows raw).take n).drop i).take
          (args.lookBack + args.horizon)).map td.scaler.transformRow := by
  obtain ⟨raw, n, scaled, hraw, hn, -, hnlen, hfit, ht, hX, hY⟩ := runTrain_eq_ok h
  refine ⟨raw, n, hraw, hn, hnlen, hfit, fun i x y hx hy => ?_⟩
  rw [hX] at hx
  rw [hY] at hy
  obtain ⟨hi, -⟩ := List.getElem?_eq_some_iff.1 hx
  obtain ⟨x', y', hx', hy', happ, -, -⟩ :=
    (createDatasetMulti_spec scaled args.lookBack args.horizon).2.2 i (by simpa [createDatasetMulti] using hi)
  rw [hx, Option.some.injEq] at hx'
  rw [hy, Option.some.injEq] at hy'
  rw [hx', hy', happ, (td.scaler.transform_eq_ok ht).2, ← List.map_drop, ← List.map_take]

theorem runTrain_windows_zeroLoadHistory :
    let td : TrainData := ⟨⟨List.replicate 6 (1, 0), by simp⟩,
      [[List.replicate 6 0], [List.replicate 6 0]], [[List.replicate 6 0], [List.replicate 6 0]]⟩
    runTrain smallTrainArgs zeroLoadHistory = .ok td ∧
      ∃ (raw : List (List ℚ)) (n : ℕ), trainValues zeroLoadHistory = .ok raw ∧
        (n : ℤ) = PredictLeader.pyInt
          (binary64 ((tailData smallTrainArgs.tailRows raw).length * smallTrainArgs.trainRatio)) ∧
        n < (tailData smallTrainArgs.tailRows raw).length ∧
        fit ((tailData smallTrainArgs.tailRows raw).take n) = .ok td.scaler ∧
        ∀ i x y, td.xTrain[i]? = some x → td.yTrain[i]? = some y →
          x ++ y = ((((tailData smallTrainArgs.tailRows raw).take n).drop i).take
            (smallTrainArgs.lookBack + smallTrainArgs.horizon)).map td.scaler.transformRow :=
  ⟨runTrain_zeroLoadHistory, runTrain_windows runTrain_zeroLoadHistory⟩

/-- `run_train` always raises `ValueError` when `train_ratio` is at least `1`: the test split
`data[train_size:]` is then empty, and `scaler.transform` refuses it although the test rows are
never used. The CSV has fewer than `2 ^ 53` rows: the `float` product `len * 1.0` rounds
`2 ^ 53 + 1` down to `2 ^ 53`. -/
theorem runTrain_of_one_le_trainRatio (args : TrainArgs) (df : CsvFrame)
    (hr : 1 ≤ args.trainRatio) (hlen : df.rows.length < 2 ^ 53) :
    runTrain args df = .error ⟨"ValueError"⟩ := by
  cases h : runTrain args df with
  | error e => rw [runTrain_onlyRaises args df e h]
  | ok td =>
    exfalso
    obtain ⟨raw, n, -, hraw, hn, -, hnlen, -⟩ := runTrain_eq_ok h
    set L := (tailData args.tailRows raw).length
    have hL : L < 2 ^ 53 :=
      (length_tailData_le _ _).trans_lt ((length_trainValues_le hraw).trans_lt hlen)
    -- `len` is a `float` exactly, so rounding `len * train_ratio` keeps it at least `len`
    have hle : (L : ℚ) ≤ binary64 (L * args.trainRatio) :=
      (binary64_natCast L hL).symm.le.trans
        (binary64_mono (le_mul_of_one_le_right (Nat.cast_nonneg _) hr))
    have hfloor : (L : ℤ) ≤ PredictLeader.pyInt (binary64 (L * args.trainRatio)) := by
      rw [PredictLeader.pyInt, if_pos (le_trans (Nat.cast_nonneg _) hle)]
      exact Int.le_floor.2 (by exact_mod_cast hle)
    omega

theorem runTrain_of_one_le_trainRatio_zeroLoadHistory :
    1 ≤ ({ trainRatio := 1 } : TrainArgs).trainRatio ∧ zeroLoadHistory.rows.length < 2 ^ 53 ∧
      runTrain { trainRatio := 1 } zeroLoadHistory = .error ⟨"ValueError"⟩ :=
  ⟨le_refl 1, by decide, runTrain_of_one_le_trainRatio _ _ (le_refl 1) (by decide)⟩

end PRaft.Forecast
