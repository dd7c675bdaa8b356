import PRaft.Cluster

/-!
The data helpers of `ts_common.py` and the scaler they work with: `MinMaxScaler((0, 1))`,
which `train.py` fits on the training rows and `Forecaster.predict` applies to the history
and undoes on the network's output; `safe_inverse_transform`; and `create_dataset_multi`,
which cuts the scaled rows into training samples.

A row is the list of its feature values. The scaler follows scikit-learn on the `float32`
arrays `train.py` and `predict` hand it, every operation rounded to `float32` (`binary32`):
`fit` takes the per-feature minimum and maximum, a range below `10 * eps` counts as zero and is
replaced by `1`, `scale_ = 1 / range` and `min_ = 0 - data_min_ * scale_`; `transform` is
`X *= scale_; X += min_`, `inverse_transform` is `X -= min_; X /= scale_`. Rounding breaks the
exact round trip and can push a value past `1`; what survives, and what the forecasts rely on,
is monotonicity: every value of the fitted rows is scaled to a nonnegative number.

A frame is what `pd.read_csv` returns: named columns, and cells that are numbers, missing
values or text. Timestamps are seconds; `pd.to_datetime` reads a missing one as `NaT`.
-/

namespace PRaft.Forecast

/-- A fitted `MinMaxScaler((0, 1))`: per feature, the pair `(scale_, min_)`. Every scale is
positive, as `fit` makes it. -/
structure MinMaxScaler where
  params : List (ℚ × ℚ)
  scale_pos : ∀ p ∈ params, 0 < p.1

namespace MinMaxScaler

/-- `n_features_in_`. -/
def nFeatures (sc : MinMaxScaler) : ℕ := sc.params.length

/-- `transform` on one row: `X *= scale_`, then `X += min_`. -/
def transformRow (sc : MinMaxScaler) (x : List ℚ) : List ℚ :=
  List.zipWith (fun v p => binary32 (binary32 (v * p.1) + p.2)) x sc.params

/-- `inverse_transform` on one row: `X -= min_`, then `X /= scale_`. -/
def inverseRow (sc : MinMaxScaler) (y : List ℚ) : List ℚ :=
  List.zipWith (fun v p => binary32 (binary32 (v - p.2) / p.1)) y sc.params

/-- The input check of `transform` and `inverse_transform`: at least one row, and every row
of the width the scaler was fitted on. -/
def checkRows (sc : MinMaxScaler) (rows : List (List ℚ)) : Bool :=
  !rows.isEmpty && rows.all (·.length == sc.nFeatures)

/-- `transform`. -/
def transform (sc : MinMaxScaler) (rows : List (List ℚ)) : Except PyException (List (List ℚ)) :=
  if sc.checkRows rows then .ok (rows.map sc.transformRow) else .error ⟨"ValueError"⟩

/-- `inverse_transform`. -/
def inverseTransform (sc : MinMaxScaler) (rows : List (List ℚ)) :
    Except PyException (List (List ℚ)) :=
  if sc.checkRows rows then .ok (rows.map sc.inverseRow) else .error ⟨"ValueError"⟩

end MinMaxScaler

/-! ### `fit` -/

/-- `10 * np.finfo(np.float32).eps`: ranges below it count as constant features. -/
def constantTol : ℚ := 10 / 2 ^ 23

/-- The scale and offset of one feature with minimum `lo` and maximum `hi`:
`scale_ = 1 / _handle_zeros_in_scale(hi - lo)` and `min_ = 0 - lo * scale_`. Taking a `float32`
from `0` is exact. -/
def featureParams (lo hi : ℚ) : ℚ × ℚ :=
  let range := binary32 (hi - lo)
  let scale := binary32 (1 / (if range < constantTol then 1 else range))
  (scale, 0 - binary32 (lo * scale))

theorem featureParams_scale_pos (lo hi : ℚ) : 0 < (featureParams lo hi).1 := by
  refine binary32_pos (one_div_pos.2 ?_)
  split_ifs with h
  · exact one_pos
  · exact lt_of_lt_of_le (by norm_num [constantTol]) (not_lt.1 h)

/-- `data_min_` and `data_max_`: the per-feature minimum and maximum over the rows. -/
def columnMin (r : List ℚ) (rs : List (List ℚ)) : List ℚ := rs.foldl (List.zipWith min) r

def columnMax (r : List ℚ) (rs : List (List ℚ)) : List ℚ := rs.foldl (List.zipWith max) r

/-- `MinMaxScaler((0, 1)).fit(rows)`: `ValueError` for no rows or rows of different widths. -/
def fit : List (List ℚ) → Except PyException MinMaxScaler
  | [] => .error ⟨"ValueError"⟩
  | r :: rs =>
    if (r :: rs).all (·.length == r.length) then
      .ok ⟨List.zipWith featureParams (columnMin r rs) (columnMax r rs), fun p hp => by
        rw [← List.map_uncurry_zip_eq_zipWith] at hp
        obtain ⟨⟨lo, hi⟩, -, rfl⟩ := List.mem_map.1 hp
        exact featureParams_scale_pos lo hi⟩
    else .error ⟨"ValueError"⟩

/-! ### `ts_common.py` -/

/-- `safe_inverse_transform`: `inverse_transform`, then every negative value set to `0`. -/
def safeInverseTransform (sc : MinMaxScaler) (rows : List (List ℚ)) :
    Except PyException (List (List ℚ)) :=
  (sc.inverseTransform rows).map fun out => out.map fun row => row.map fun v => if v < 0 then 0 else v

/-- `create_dataset_multi(dataset, look_back, horizon)`: for every start `i` below
`len(dataset) - look_back - horizon + 1`, the window `dataset[i:i+look_back]` and the
`horizon` rows after it. -/
def createDatasetMulti {α : Type} (dataset : List α) (lookBack horizon : ℕ) :
    List (List α) × List (List α) :=
  let limit := dataset.length + 1 - (lookBack + horizon)
  ((List.range limit).map fun i => (dataset.drop i).take lookBack,
    (List.range limit).map fun i => (dataset.drop (i + lookBack)).take horizon)

/-! ### Frames and timestamps -/

/-- A cell of the frame `pd.read_csv` returns: a number, a missing value, or text that is not
a number. -/
inductive Cell where
  | num (q : ℚ)
  | nan
  | text (s : String)
deriving DecidableEq, Repr

/-- A frame as `pd.read_csv` returns it: distinct column names (`read_csv` renames a repeated
header name) and one cell per column in every row. -/
structure CsvFrame where
  columns : List String
  rows : List (List Cell)
  columns_nodup : columns.Nodup
  row_width : ∀ r ∈ rows, r.length = columns.length

/-- The cell of column `name` in row `r`. -/
def CsvFrame.cell (df : CsvFrame) (r : List Cell) (name : String) : Cell :=
  r.getD (df.columns.indexOf name) .nan

/-- `pd.to_datetime(col, unit="s")` on one cell, in seconds: `NaT` for a missing value,
`ValueError` for text. -/
def Cell.toSeconds : Cell → Except PyException (Option ℚ)
  | .num q => .ok (some q)
  | .nan => .ok none
  | .text _ => .error ⟨"ValueError"⟩

/-- `ensure_timestamp(df, col)`: the index it sets, one timestamp per row; `ValueError` for a
missing column or a timestamp that is text. -/
def ensureTimestamp (df : CsvFrame) (col : String) : Except PyException (List (Option ℚ)) :=
  if col ∈ df.columns then df.rows.mapM fun r => (df.cell r col).toSeconds
  else .error ⟨"ValueError"⟩

/-- `pd.Series(ts_index).diff().dropna()`: the differences of consecutive timestamps, those
next to a `NaT` dropped. -/
def diffs (index : List (Option ℚ)) : List ℚ :=
  (index.zip index.tail).filterMap fun
    | (some a, some b) => some (b - a)
    | _ => none

/-- `Series.median()` of a non-empty series: the middle value, or the mean of the two middle
values. -/
def median (xs : List ℚ) : ℚ :=
  let s := xs.insertionSort (· ≤ ·)
  if s.length % 2 = 1 then s.getD (s.length / 2) 0
  else (s.getD (s.length / 2 - 1) 0 + s.getD (s.length / 2) 0) / 2

/-- `infer_step_delta`, in seconds: the median difference, or one second when there is none. -/
def inferStepDelta (index : List (Option ℚ)) : ℚ :=
  if (diffs index).isEmpty then 1 else median (diffs index)

/-! ### `transform` -/

namespace MinMaxScaler

variable (sc : MinMaxScaler)

theorem length_transformRow {x : List ℚ} (hx : x.length = sc.nFeatures) :
    (sc.transformRow x).length = sc.nFeatures := by
  simp [transformRow, nFeatures, hx]

theorem checkRows_iff {rows : List (List ℚ)} :
    sc.checkRows rows = true ↔ rows ≠ [] ∧ ∀ x ∈ rows, x.length = sc.nFeatures := by
  simp [checkRows, List.isEmpty_iff]

theorem transform_eq_ok {rows t : List (List ℚ)} (h : sc.transform rows = .ok t) :
    sc.checkRows rows = true ∧ t = rows.map sc.transformRow := by
  unfold transform at h
  split_ifs at h with hc
  · exact ⟨hc, (Except.ok.inj h).symm⟩

end MinMaxScaler

/-! ### What `fit` computes -/

theorem foldl_zipWith_min_le :
    ∀ (acc : List ℚ) (rs : List (List ℚ)) {j : ℕ} {m : ℚ},
      (rs.foldl (List.zipWith min) acc)[j]? = some m → ∀ x ∈ acc :: rs, ∃ v, x[j]? = some v ∧ m ≤ v
  | acc, [], _, m, h, x, hx => by
    obtain rfl : x = acc := by simpa using hx
    exact ⟨m, h, le_refl m⟩
  | acc, r :: rs, j, m, h, x, hx => by
    have ih := foldl_zipWith_min_le (List.zipWith min acc r) rs h
    -- the accumulator after `r` bounds both `acc` and `r`
    have hstep : ∀ y ∈ [acc, r], ∃ v, y[j]? = some v ∧ m ≤ v := by
      obtain ⟨w, hw, hmw⟩ := ih _ (List.mem_cons_self _ _)
      obtain ⟨a, b, ha, hb, rfl⟩ := List.getElem?_zipWith_eq_some.1 hw
      simp only [List.mem_cons, List.mem_singleton, List.not_mem_nil, or_false]
      rintro y (rfl | rfl)
      exacts [⟨a, ha, hmw.trans (min_le_left a b)⟩, ⟨b, hb, hmw.trans (min_le_right a b)⟩]
    rcases List.mem_cons.1 hx with rfl | hx
    · exact hstep _ (List.mem_cons_self _ _)
    rcases List.mem_cons.1 hx with rfl | hx
    · exact hstep _ (by simp)
    · exact ih x (List.mem_cons_of_mem _ hx)

/-- A value at or above the feature's minimum is scaled to a nonnegative number: rounding is
monotone, so `v * scale_` rounds to at least what `data_min_ * scale_` does. -/
theorem featureParams_transform_nonneg {lo hi v : ℚ} (hlo : lo ≤ v) :
    0 ≤ binary32 (binary32 (v * (featureParams lo hi).1) + (featureParams lo hi).2) := by
  have hmono := binary32_mono (mul_le_mul_of_nonneg_right hlo (featureParams_scale_pos lo hi).le)
  exact binary32_nonneg (by simp only [featureParams] at hmono ⊢; linarith)

/-- `fit` followed by `transform` on the same rows scales every value to a nonnegative
number. -/
theorem transform_fit_nonneg {rows t : List (List ℚ)} {sc : MinMaxScaler}
    (hfit : fit rows = .ok sc) (ht : sc.transform rows = .ok t) : ∀ row ∈ t, ∀ v ∈ row, 0 ≤ v := by
  obtain ⟨-, rfl⟩ := sc.transform_eq_ok ht
  cases rows with
  | nil => cases hfit
  | cons r rs =>
    simp only [fit] at hfit
    split_ifs at hfit
    cases hfit
    intro row hrow v hv
    obtain ⟨x, hx, rfl⟩ := List.mem_map.1 hrow
    obtain ⟨j, hj⟩ := List.mem_iff_getElem?.1 hv
    obtain ⟨xv, p, hxv, hp, rfl⟩ := List.getElem?_zipWith_eq_some.1 hj
    obtain ⟨l, h, hl, -, rfl⟩ := List.getElem?_zipWith_eq_some.1 hp
    obtain ⟨v₁, hv₁, hlv⟩ := foldl_zipWith_min_le r rs hl x hx
    rw [hxv, Option.some.injEq] at hv₁
    subst hv₁
    exact featureParams_transform_nonneg hlv

/-! ### When `fit` and `transform` succeed -/

theorem length_foldl_zipWith {f : ℚ → ℚ → ℚ} {w : ℕ} :
    ∀ {acc : List ℚ} {rs : List (List ℚ)}, acc.length = w → (∀ r ∈ rs, r.length = w) →
      (rs.foldl (List.zipWith f) acc).length = w
  | _, [], hacc, _ => hacc
  | acc, r :: rs, hacc, hrs => by
    rw [List.foldl_cons]
    exact length_foldl_zipWith (by simp [hacc, hrs r (List.mem_cons_self _ _)])
      fun r' hr' => hrs r' (List.mem_cons_of_mem _ hr')

theorem fit_eq_ok_of_width {rows : List (List ℚ)} {w : ℕ} (hne : rows ≠ [])
    (hw : ∀ x ∈ rows, x.length = w) : ∃ sc, fit rows = .ok sc ∧ sc.nFeatures = w := by
  obtain ⟨r, rs, rfl⟩ := List.exists_cons_of_ne_nil hne
  have hr := hw r (List.mem_cons_self _ _)
  have hrs : ∀ x ∈ rs, x.length = w := fun x hx => hw x (List.mem_cons_of_mem _ hx)
  refine ⟨_, if_pos (List.all_eq_true.2 fun x hx => by simp [hw x hx, hr]), ?_⟩
  simp [MinMaxScaler.nFeatures, columnMin, columnMax, length_foldl_zipWith hr hrs]

theorem MinMaxScaler.transform_of_width (sc : MinMaxScaler) {rows : List (List ℚ)}
    (hne : rows ≠ []) (hw : ∀ x ∈ rows, x.length = sc.nFeatures) :
    sc.transform rows = .ok (rows.map sc.transformRow) :=
  if_pos ((sc.checkRows_iff).2 ⟨hne, hw⟩)

/-! ### Reading a frame -/

theorem ok_bind {α β : Type} (a : α) (f : α → Except PyException β) :
    (Except.ok a : Except PyException α).bind f = f a := rfl

theorem bind_eq_ok {α β : Type} {x : Except PyException α} {f : α → Except PyException β}
    {b : β} : x.bind f = .ok b ↔ ∃ a, x = .ok a ∧ f a = .ok b := by
  cases x <;> simp [Except.bind]

/-- Every exception `x` can raise is `e₀`. -/
def OnlyRaises {α : Type} (e₀ : PyException) (x : Except PyException α) : Prop :=
  ∀ e, x = .error e → e = e₀

namespace OnlyRaises

variable {α β : Type} {e₀ : PyException}

theorem ok (a : α) : OnlyRaises e₀ (.ok a) := fun _ h => by cases h

theorem error_self : OnlyRaises e₀ (.error e₀ : Except PyException α) := fun _ h => by cases h; rfl

theorem bind {x : Except PyException α} {f : α → Except PyException β} (hx : OnlyRaises e₀ x)
    (hf : ∀ a, x = .ok a → OnlyRaises e₀ (f a)) : OnlyRaises e₀ (x.bind f) := by
  intro e h
  cases hxa : x with
  | error e' => rw [hxa] at h; cases h; exact hx _ hxa
  | ok a => rw [hxa] at h; exact hf a hxa e h

theorem mapM {xs : List α} {f : α → Except PyException β} (hf : ∀ a ∈ xs, OnlyRaises e₀ (f a)) :
    OnlyRaises e₀ (xs.mapM f) := by
  induction xs with
  | nil => exact ok _
  | cons x xs ih =>
    rw [List.mapM_cons]
    refine bind (hf x (List.mem_cons_self _ _)) fun b _ => bind (ih fun a ha => hf a
      (List.mem_cons_of_mem _ ha)) fun bs _ => ok _

end OnlyRaises

theorem mapM_eq_ok {α β : Type} [Inhabited β] {f : α → Except PyException β} :
    ∀ {xs : List α} {ys : List β}, xs.mapM f = .ok ys →
      (∀ x ∈ xs, f x = .ok ((f x).toOption.getD default)) ∧
        ys = xs.map fun x => (f x).toOption.getD default
  | [], ys, h => by
    simp only [List.mapM_nil, pure, Except.pure, Except.ok.injEq] at h
    simp [← h]
  | x :: xs, ys, h => by
    rw [List.mapM_cons] at h
    cases hx : f x with
    | error e => simp only [hx, bind, Except.bind, reduceCtorEq] at h
    | ok y =>
      cases hxs : xs.mapM f with
      | error e => simp only [hx, hxs, bind, Except.bind, reduceCtorEq] at h
      | ok ys' =>
        simp only [hx, hxs, bind, Except.bind, pure, Except.pure, Except.ok.injEq] at h
        obtain ⟨hall, rfl⟩ := mapM_eq_ok hxs
        refine ⟨fun a ha => ?_, by simp [← h, hx, Except.toOption]⟩
        rcases List.mem_cons.1 ha with rfl | ha
        exacts [by simp [hx, Except.toOption], hall a ha]

/-- The last timestamp `ensure_timestamp` sets, when it is not `NaT`, is the number in the last
row's cell. -/
theorem ensureTimestamp_getLast? {df : CsvFrame} {col : String} {index : List (Option ℚ)}
    (h : ensureTimestamp df col = .ok index) {t : ℚ} (ht : index.getLast?.bind id = some t) :
    ∃ r, df.rows.getLast? = some r ∧ df.cell r col = .num t := by
  unfold ensureTimestamp at h
  split_ifs at h
  rw [(mapM_eq_ok h).2, List.getLast?_map] at ht
  cases hr : df.rows.getLast? with
  | none => simp [hr] at ht
  | some r =>
    refine ⟨r, rfl, ?_⟩
    simp only [hr, Option.map_some', Option.bind_some, id] at ht
    cases hc : df.cell r col <;> simp_all [Cell.toSeconds, Except.toOption]

theorem ensureTimestamp_onlyRaises (df : CsvFrame) (col : String) :
    OnlyRaises ⟨"ValueError"⟩ (ensureTimestamp df col) := by
  unfold ensureTimestamp
  split_ifs
  · refine OnlyRaises.mapM fun r _ => ?_
    cases df.cell r col
    exacts [OnlyRaises.ok _, OnlyRaises.ok _, OnlyRaises.error_self]
  · exact OnlyRaises.error_self

theorem MinMaxScaler.transform_onlyRaises (sc : MinMaxScaler) (rows : List (List ℚ)) :
    OnlyRaises ⟨"ValueError"⟩ (sc.transform rows) := by
  unfold transform
  split_ifs
  exacts [OnlyRaises.ok _, OnlyRaises.error_self]

theorem fit_onlyRaises (rows : List (List ℚ)) : OnlyRaises ⟨"ValueError"⟩ (fit rows) := by
  cases rows with
  | nil => exact OnlyRaises.error_self
  | cons r rs =>
    simp only [fit]
    split_ifs
    exacts [OnlyRaises.ok _, OnlyRaises.error_self]

theorem safeInverseTransform_nonneg {sc : MinMaxScaler} {rows out : List (List ℚ)}
    (h : safeInverseTransform sc rows = .ok out) : ∀ r ∈ out, ∀ v ∈ r, 0 ≤ v := by
  unfold safeInverseTransform at h
  cases hi : sc.inverseTransform rows with
  | error e => simp [hi, Except.map] at h
  | ok y =>
    simp only [hi, Except.map, Except.ok.injEq] at h
    subst h
    intro r hr v hv
    obtain ⟨r, -, rfl⟩ := List.mem_map.1 hr
    obtain ⟨v, -, rfl⟩ := List.mem_map.1 hv
    split_ifs with hv
    exacts [le_refl 0, not_lt.1 hv]

/-! ### The training samples -/

/-- `create_dataset_multi` makes one sample per start `i` up to `len - look_back - horizon`:
the window of `look_back` rows from `i` and the `horizon` rows right after it, which together
are the `look_back + horizon` consecutive rows from `i`. -/
theorem createDatasetMulti_spec {α : Type} (dataset : List α) (lookBack horizon : ℕ) :
    (createDatasetMulti dataset lookBack horizon).1.length =
        dataset.length + 1 - (lookBack + horizon) ∧
      (createDatasetMulti dataset lookBack horizon).2.length =
        dataset.length + 1 - (lookBack + horizon) ∧
      ∀ i < dataset.length + 1 - (lookBack + horizon),
        ∃ x y, (createDatasetMulti dataset lookBack horizon).1[i]? = some x ∧
          (createDatasetMulti dataset lookBack horizon).2[i]? = some y ∧
          x ++ y = (dataset.drop i).take (lookBack + horizon) ∧
          x.length = lookBack ∧ y.length = horizon := by
  refine ⟨by simp [createDatasetMulti], by simp [createDatasetMulti], fun i hi => ?_⟩
  refine ⟨(dataset.drop i).take lookBack, (dataset.drop (i + lookBack)).take horizon,
    by simp [createDatasetMulti, List.getElem?_range hi],
    by simp [createDatasetMulti, List.getElem?_range hi], ?_, ?_, ?_⟩
  · rw [List.take_add, List.drop_drop]
  · simp only [List.length_take, List.length_drop]
    omega
  · simp only [List.length_take, List.length_drop]
    omega

end PRaft.Forecast
