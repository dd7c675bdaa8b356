import PRaft.Forecaster

/-!
The artifacts that connect training to forecasting. `run_train` saves the fitted network, the
scaler and the meta file `{"columns": feature_cols, "look_back": look_back, "horizon": horizon}`
under `out_dir`; `update.py` passes `--out-dir /root/artifacts`, and `predict_leader.py` loads
`Forecaster(MODEL_PATH, SCALER_PATH, META_PATH)` from the same three files.

The network is opaque but for its shape: `build_seq2seq_model(n_features, look_back, horizon)`
ends in `RepeatVector(horizon)` and `TimeDistributed(Dense(n_features))`, so whatever its weights
it maps a window to `horizon` rows of `n_features` values. `predict_trained_iff` says exactly on
which histories a forecaster loaded from a successful training run returns a forecast.
-/

namespace PRaft.Forecast

/-- The network `build_seq2seq_model(n_features, look_back, horizon)` builds, with any weights:
`horizon` rows of `n_features` values for every window. -/
structure Seq2Seq (nFeatures horizon : ℕ) where
  run : List (List ℚ) → List (List ℚ)
  length_run : ∀ x, (run x).length = horizon
  width_run : ∀ x, ∀ r ∈ run x, r.length = nFeatures

/-- `Forecaster(MODEL_PATH, SCALER_PATH, META_PATH)` on what `run_train(args)` saved: the fitted
network, the scaler, and the meta file's `columns` (`feature_cols`, which are the six
`keep_cols`), `look_back` and `horizon`. -/
def TrainData.forecaster (td : TrainData) (args : TrainArgs)
    (net : Seq2Seq trainFeatures.length args.horizon) : Forecaster where
  model := net.run
  scaler := td.scaler
  featureCols := trainFeatures
  lookBack := args.lookBack
  horizon := args.horizon

/-- What a history needs for a trained forecaster to forecast on it. -/
structure Forecastable (df : CsvFrame) (lookBack : ℕ) : Prop where
  columns : ∀ c ∈ "timestamp" :: trainFeatures, c ∈ df.columns
  no_text : ∀ r ∈ df.rows, ∀ s, df.cell r "timestamp" ≠ .text s
  rows : lookBack ≤ df.rows.length
  last : ∃ r t, df.rows.getLast? = some r ∧ df.cell r "timestamp" = .num t

/-! ### Reading the history -/

theorem mapM_ok_iff {α β : Type} {f : α → Except PyException β} :
    ∀ {xs : List α}, (∃ ys, xs.mapM f = .ok ys) ↔ ∀ x ∈ xs, ∃ y, f x = .ok y
  | [] => ⟨fun _ => by simp, fun _ => ⟨[], rfl⟩⟩
  | x :: xs => by
    rw [List.mapM_cons, List.forall_mem_cons, ← @mapM_ok_iff α β f xs]
    cases f x <;> cases xs.mapM f <;> simp [bind, Except.bind, pure, Except.pure]

theorem ensureTimestamp_ok_iff {df : CsvFrame} {col : String} :
    (∃ index, ensureTimestamp df col = .ok index) ↔
      col ∈ df.columns ∧ ∀ r ∈ df.rows, ∀ s, df.cell r col ≠ .text s := by
  unfold ensureTimestamp
  split_ifs with hc
  · rw [mapM_ok_iff]
    refine ⟨fun h => ⟨hc, fun r hr s hs => ?_⟩, fun h r hr => ?_⟩
    · obtain ⟨y, hy⟩ := h r hr
      simp [hs, Cell.toSeconds] at hy
    · cases hcell : df.cell r col <;> simp_all [Cell.toSeconds]
  · simp [hc]

theorem ensureTimestamp_getLast?_iff {df : CsvFrame} {col : String} {index : List (Option ℚ)}
    (h : ensureTimestamp df col = .ok index) {t : ℚ} :
    index.getLast?.bind id = some t ↔ ∃ r, df.rows.getLast? = some r ∧ df.cell r col = .num t := by
  refine ⟨ensureTimestamp_getLast? h, fun ⟨r, hr, hc⟩ => ?_⟩
  unfold ensureTimestamp at h
  split_ifs at h
  rw [(mapM_eq_ok h).2, List.getLast?_map, hr]
  simp [hc, Cell.toSeconds, Except.toOption]

/-! ### The trained forecaster -/

section Trained

variable {args : TrainArgs} {df₀ : CsvFrame} {td : TrainData}

theorem runTrain_scaler_nFeatures (h : runTrain args df₀ = .ok td) :
    td.scaler.nFeatures = trainFeatures.length := by
  obtain ⟨raw, n, -, hraw, -, hlbn, hnlen, hfit, -⟩ := runTrain_eq_ok h
  have hne : (tailData args.tailRows raw).take n ≠ [] := by
    rw [Ne, List.take_eq_nil_iff]
    rintro (hn | hnil)
    · omega
    · simp [hnil] at hnlen
  obtain ⟨sc, hsc, hw⟩ := fit_eq_ok_of_width hne fun r hr =>
    trainValues_width hraw r (tailData_sublist _ _ (List.mem_of_mem_take hr))
  rw [hfit, Except.ok.injEq] at hsc
  rwa [hsc]

theorem history_trained (net : Seq2Seq trainFeatures.length args.horizon) (df : CsvFrame) :
    (td.forecaster args net).history df =
      if ("timestamp" :: trainFeatures).all (· ∈ df.columns) then
        (ensureTimestamp df "timestamp").bind fun index =>
          .ok ⟨index, df.rows.map fun r =>
            trainFeatures.map fun c => binary32 (df.cell r c).toNumber⟩
      else .error ⟨"KeyError"⟩ := by
  have hfeat : trainFeatures.all (· ∈ trainFeatures) = true := by decide
  simp only [Forecaster.history, TrainData.forecaster, hfeat, if_true]

theorem forecastRows_trained_shape (h : runTrain args df₀ = .ok td)
    (net : Seq2Seq trainFeatures.length args.horizon) {vals preds : List (List ℚ)}
    (hp : (td.forecaster args net).forecastRows vals = .ok preds) :
    preds.length = args.horizon ∧ ∀ r ∈ preds, r.length = trainFeatures.length := by
  obtain ⟨scaled, -, hinv⟩ := bind_eq_ok.1 hp
  simp only [safeInverseTransform, MinMaxScaler.inverseTransform, TrainData.forecaster] at hinv
  split_ifs at hinv with hc
  · simp only [Except.map, Except.ok.injEq] at hinv
    subst hinv
    rw [MinMaxScaler.checkRows_iff] at hc
    refine ⟨by simp [net.length_run], fun r hr => ?_⟩
    simp only [List.map_map, List.mem_map, Function.comp] at hr
    obtain ⟨y, hy, rfl⟩ := hr
    have hp := runTrain_scaler_nFeatures h
    simp only [MinMaxScaler.nFeatures] at hc hp
    simp [MinMaxScaler.inverseRow, hc.2 y hy, hp]
  · simp [Except.map] at hinv

/-- On rows of the six trained columns the trained forecaster's network output comes back
through the scaler exactly when there are rows and the network forecasts at least one step:
`inverse_transform` refuses no rows. -/
theorem forecastRows_trained_ok_iff (h : runTrain args df₀ = .ok td)
    (net : Seq2Seq trainFeatures.length args.horizon) {vals : List (List ℚ)}
    (hw : ∀ r ∈ vals, r.length = trainFeatures.length) :
    (∃ preds, (td.forecaster args net).forecastRows vals = .ok preds) ↔
      vals ≠ [] ∧ 0 < args.horizon := by
  have hn := runTrain_scaler_nFeatures h
  by_cases hv : vals = []
  · subst hv
    simp [Forecaster.forecastRows, MinMaxScaler.transform, MinMaxScaler.checkRows, Except.bind]
  rw [Forecaster.forecastRows, TrainData.forecaster]
  dsimp only
  rw [td.scaler.transform_of_width hv (hn ▸ hw)]
  have hcheck : td.scaler.checkRows
      (net.run (takeLast args.lookBack (vals.map td.scaler.transformRow))) =
        decide (0 < args.horizon) := by
    rw [Bool.eq_iff_iff, MinMaxScaler.checkRows_iff, Ne, ← List.length_eq_zero, net.length_run, hn,
      decide_eq_true_iff]
    exact ⟨fun h => Nat.pos_of_ne_zero h.1, fun h => ⟨h.ne', net.width_run _⟩⟩
  simp only [Except.bind, safeInverseTransform, MinMaxScaler.inverseTransform, hcheck]
  by_cases hpos : 0 < args.horizon <;> simp [hpos, hv, Except.map]

/-- A forecaster loaded from the artifacts of a successful `run_train` returns a forecast on a
history exactly when the history has the timestamp and the six trained columns, no timestamp
that is text, at least `look_back` rows and a last timestamp that is a number, the step is not
fixed at `0`, and the network forecasts at least one step. Every other history raises. -/
theorem predict_trained_iff (h : runTrain args df₀ = .ok td)
    (net : Seq2Seq trainFeatures.length args.horizon) (df : CsvFrame) (u s : Option ℤ) :
    (∃ f, (td.forecaster args net).predict df u s = .ok f) ↔
      0 < args.horizon ∧ s ≠ some 0 ∧ Forecastable df args.lookBack := by
  set F := td.forecaster args net
  have hw : ∀ r ∈ df.rows.map
      (fun r => trainFeatures.map fun c => binary32 (df.cell r c).toNumber),
      r.length = trainFeatures.length := by
    intro r hr
    obtain ⟨r, -, rfl⟩ := List.mem_map.1 hr
    exact List.length_map _ _
  constructor
  · rintro ⟨f, hf⟩
    obtain ⟨hist, preds, hh, hp, hd, -⟩ := F.predict_eq_ok hf
    have hh' := hh
    rw [history_trained] at hh'
    split_ifs at hh' with hc
    obtain ⟨index, hidx, hhist⟩ := bind_eq_ok.1 hh'
    cases hhist
    have hlen : args.lookBack ≤ df.rows.length := by
      by_contra hlt
      unfold Forecaster.predict at hf
      rw [hh] at hf
      simp only [Except.bind, List.length_map] at hf
      rw [if_pos (show df.rows.length < F.lookBack from not_le.1 hlt)] at hf
      cases hf
    obtain ⟨t, hstart, hstep, -⟩ := dateRange_eq_ok hd
    obtain ⟨t', hlast, -⟩ := Option.map_eq_some'.1 hstart
    dsimp only at hlast
    obtain ⟨-, hpos⟩ := (forecastRows_trained_ok_iff h net (fun r hr =>
      hw r (mem_of_mem_takeLast hr))).1 ⟨preds, hp⟩
    refine ⟨hpos, fun hs => hstep (forecastStep_eq_zero_iff.2 hs), by simpa using hc,
      fun r _ => (ensureTimestamp_ok_iff.1 ⟨_, hidx⟩).2 r ‹_›, hlen, ?_⟩
    exact ⟨_, _, ((ensureTimestamp_getLast?_iff hidx).1 hlast).choose_spec⟩
  · rintro ⟨hpos, hs, hcols, hnotext, hlen, r, t, hr, ht⟩
    obtain ⟨index, hidx⟩ := ensureTimestamp_ok_iff.2 ⟨hcols _ (List.mem_cons_self _ _), hnotext⟩
    have hhist : F.history df = .ok ⟨index, df.rows.map fun r =>
        trainFeatures.map fun c => binary32 (df.cell r c).toNumber⟩ := by
      rw [history_trained, if_pos (by simpa using hcols), hidx]
      rfl
    have hne : df.rows ≠ [] := fun h => by simp [h] at hr
    have hlb : F.lookBack = args.lookBack := rfl
    have hhz : F.horizon = args.horizon := rfl
    have hfc : F.featureCols = trainFeatures := rfl
    have htake : takeLast (historyLength args.lookBack df.rows.length u)
        (df.rows.map fun r =>
          trainFeatures.map fun c => binary32 (df.cell r c).toNumber) ≠ [] := by
      unfold takeLast
      split_ifs
      · simpa using hne
      · rw [Ne, List.drop_eq_nil_iff, List.length_map]
        have := List.length_pos.2 hne
        omega
    obtain ⟨preds, hp⟩ := (forecastRows_trained_ok_iff h net fun r hr =>
      hw r (mem_of_mem_takeLast hr)).2 ⟨htake, hpos⟩
    obtain ⟨hplen, hpw⟩ := forecastRows_trained_shape h net hp
    have hlast := (ensureTimestamp_getLast?_iff hidx).2 ⟨r, hr, ht⟩
    have hstep : forecastStep s (takeLast (historyLength args.lookBack df.rows.length u) index) ≠ 0 :=
      fun h0 => hs (forecastStep_eq_zero_iff.1 h0)
    unfold Forecaster.predict
    rw [hhist]
    simp only [Except.bind, hlb, hhz, hfc, List.length_map]
    rw [if_neg (not_lt.2 hlen)]
    dsimp only
    rw [hp, getLast?_takeLast, hlast]
    simp only [Option.map_some', dateRange, hstep, if_false]
    rw [dif_pos ⟨by simp [hplen], hpw⟩]
    exact ⟨_, rfl⟩

end Trained

/-- A network that forecasts zero loads. -/
def zeroNet (nFeatures horizon : ℕ) : Seq2Seq nFeatures horizon where
  run _ := List.replicate horizon (List.replicate nFeatures 0)
  length_run _ := List.length_replicate _ _
  width_run _ r hr := by rw [List.eq_of_mem_replicate hr, List.length_replicate]

/-- The forecaster trained on four rows of zero loads forecasts on those rows. -/
theorem predict_trained_iff_zeroLoadHistory :
    ∃ td, runTrain smallTrainArgs zeroLoadHistory = .ok td ∧ ∃ f,
      (td.forecaster smallTrainArgs (zeroNet _ _)).predict zeroLoadHistory none none = .ok f := by
  have hts : ensureTimestamp zeroLoadHistory "timestamp" = .ok [some 0, some 1, some 2, some 3] :=
    rfl
  refine ⟨_, runTrain_zeroLoadHistory, (predict_trained_iff runTrain_zeroLoadHistory _ _ _ _).2
    ⟨by decide, by simp, ⟨by decide, (ensureTimestamp_ok_iff.1 ⟨_, hts⟩).2, by decide,
      _, 3, rfl, rfl⟩⟩⟩

end PRaft.Forecast
