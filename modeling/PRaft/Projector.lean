import PRaft.Cluster

/-!
The load projector of `predict_leader.py`, `build_domains_from_pred_mean`: the forecast
frame is averaged over its horizon, columns named `{node_id}_write` and `{node_id}_read`
are paired by node id, and one `Domain` is built per node id whose address is known and
whose two means are not both zero.

Column suffixes are compared on the strings' characters, which is what `str.endswith`
and Python's string order do.
-/

namespace PRaft.PredictLeader

/-- A prediction frame as `Forecaster.predict` returns it: named columns and rows of
values (`float32` in the source), every row holding one value per column. -/
structure PredFrame where
  columns : List String
  rows : List (List ℚ)
  row_width : ∀ r ∈ rows, r.length = columns.length

namespace PredFrame

/-- `DataFrame.empty`: no rows or no columns. -/
def empty (df : PredFrame) : Bool := df.rows.isEmpty || df.columns.isEmpty

/-- `pred_df.mean(axis=0)`: each column's name with its mean over the rows. -/
def mean (df : PredFrame) : List (String × ℚ) :=
  df.columns.mapIdx fun j name => (name, (df.rows.map fun r => r.getD j 0).sum / df.rows.length)

end PredFrame

/-- `str.endswith`. -/
def endsWith (s suffix : String) : Bool := suffix.data.isSuffixOf s.data

/-- The node id a column names: `col[:-6]` for `*_write`, `col[:-5]` for `*_read`. -/
def columnNodeId (col : String) : Option String :=
  if endsWith col "_write" then some (col.dropRight 6)
  else if endsWith col "_read" then some (col.dropRight 5)
  else none

/-- `sorted(node_ids)`, with `node_ids` the set of ids the columns name. -/
def nodeIds (df : PredFrame) : List String :=
  ((df.columns.filterMap columnNodeId).dedup).insertionSort fun a b => a.data ≤ b.data

/-- `float(mean_row.get(col, 0.0))`: `0` for a missing column, the mean of a column that
appears once, and the `TypeError` of `float()` on the `Series` a duplicated column name
selects. -/
def meanGet (meanRow : List (String × ℚ)) (col : String) : Except PyException ℚ :=
  match meanRow.filter (·.1 = col) with
  | [] => .ok 0
  | [(_, v)] => .ok v
  | _ => .error ⟨"TypeError"⟩

/-- One iteration of the loop over the node ids: the domain it appends, if any. -/
def domainFor (self : OptimalLeaderCalculator) (meanRow : List (String × ℚ)) (nodeId : String) :
    Except PyException (Option (Domain ℚ)) := do
  let writeVal ← meanGet meanRow (nodeId ++ "_write")
  let readVal ← meanGet meanRow (nodeId ++ "_read")
  if writeVal = 0 ∧ readVal = 0 then return none
  let ipAddr := (self.nodeIdToIp.lookup nodeId).getD "unknown"
  if ipAddr = "unknown" then return none
  return some ⟨nodeId, ipAddr, 1, readVal, writeVal⟩

/-- `build_domains_from_pred_mean`. -/
def buildDomainsFromPredMean (self : OptimalLeaderCalculator) (df : PredFrame) :
    Except PyException (List (Domain ℚ)) :=
  if df.empty then .ok []
  else (fun found => found.filterMap id) <$> (nodeIds df).mapM (domainFor self df.mean)

theorem domainFor_eq_some {self : OptimalLeaderCalculator} {meanRow : List (String × ℚ)}
    {nodeId : String} {d : Domain ℚ} (h : domainFor self meanRow nodeId = .ok (some d)) :
    d.id = nodeId ∧ self.nodeIdToIp.lookup nodeId = some d.address ∧ d.address ≠ "unknown" ∧
      d.nodes = 1 ∧ ¬ (d.writeRequests = 0 ∧ d.readRequests = 0) := by
  unfold domainFor at h
  rcases hw : meanGet meanRow (nodeId ++ "_write") with _ | w
  · simp [hw, bind, Except.bind] at h
  rcases hr : meanGet meanRow (nodeId ++ "_read") with _ | r
  · simp [hw, hr, bind, Except.bind] at h
  rcases hip : self.nodeIdToIp.lookup nodeId with _ | ip <;>
    simp only [hw, hr, hip, bind, Except.bind, pure, Except.pure, Option.getD_none,
      Option.getD_some] at h
  · split_ifs at h <;> simp at h
  · split_ifs at h with hz hu
    · simp at h
    · simp at h
    · simp only [Except.ok.injEq, Option.some.injEq] at h
      subst h
      exact ⟨rfl, rfl, hu, rfl, hz⟩

private theorem exists_of_mapM_ok {f : String → Except PyException (Option (Domain ℚ))} :
    ∀ {xs : List String} {ys : List (Option (Domain ℚ))}, xs.mapM f = .ok ys →
      ∀ y ∈ ys, ∃ x ∈ xs, f x = .ok y
  | [], ys, h => by
    simp only [List.mapM_nil, pure, Except.pure, Except.ok.injEq] at h
    simp [← h]
  | x :: xs, ys, h => by
    rw [List.mapM_cons] at h
    rcases hx : f x with _ | y
    · simp only [hx, bind, Except.bind] at h
      cases h
    rcases hxs : xs.mapM f with _ | ys'
    · simp only [hx, hxs, bind, Except.bind] at h
      cases h
    simp only [hx, hxs, bind, Except.bind, pure, Except.pure, Except.ok.injEq] at h
    subst h
    intro z hz
    rcases List.mem_cons.mp hz with rfl | hz
    · exact ⟨x, List.mem_cons_self _ _, hx⟩
    · obtain ⟨w, hw, hfw⟩ := exists_of_mapM_ok hxs z hz
      exact ⟨w, List.mem_cons_of_mem _ hw, hfw⟩

/-- Every domain the projector returns has an address `node_id_to_ip` gives its node id,
one node, and loads that are not both zero. -/
theorem mem_buildDomainsFromPredMean {self : OptimalLeaderCalculator} {df : PredFrame}
    {domains : List (Domain ℚ)} (h : buildDomainsFromPredMean self df = .ok domains) :
    ∀ d ∈ domains, self.nodeIdToIp.lookup d.id = some d.address ∧ d.address ≠ "unknown" ∧
      d.nodes = 1 ∧ ¬ (d.writeRequests = 0 ∧ d.readRequests = 0) := by
  unfold buildDomainsFromPredMean at h
  split_ifs at h
  · cases h
    simp
  rcases hm : (nodeIds df).mapM (domainFor self df.mean) with _ | found
  · simp only [hm, Functor.map, Except.map] at h
    cases h
  simp only [hm, Functor.map, Except.map, Except.ok.injEq] at h
  subst h
  intro d hd
  obtain ⟨nodeId, -, hfor⟩ :=
    exists_of_mapM_ok hm (some d) (by simpa using hd)
  obtain ⟨rfl, hlook, hne, hn, hz⟩ := domainFor_eq_some hfor
  exact ⟨hlook, hne, hn, hz⟩

/-! ### Column names -/

theorem endsWith_iff (col s : String) : endsWith col s = true ↔ ∃ m : String, col = m ++ s := by
  rw [endsWith, List.isSuffixOf_iff_suffix]
  exact ⟨fun ⟨m, h⟩ => ⟨⟨m⟩, String.ext (by simp [h])⟩, fun ⟨m, h⟩ => ⟨m.data, by simp [h]⟩⟩

theorem endsWith_append_self (n s : String) : endsWith (n ++ s) s = true :=
  (endsWith_iff _ _).2 ⟨n, rfl⟩

theorem endsWith_read_write (n : String) : endsWith (n ++ "_read") "_write" = false := by
  rw [Bool.eq_false_iff, ne_eq, endsWith, List.isSuffixOf_iff_suffix, String.data_append]
  intro h
  exact absurd (List.suffix_of_suffix_length_le (List.suffix_append _ _) h (by decide)) (by decide)

theorem dropRight_append_length (m s : String) : (m ++ s).dropRight s.length = m := by
  obtain ⟨m⟩ := m
  obtain ⟨t⟩ := s
  show String.dropRight ⟨m ++ t⟩ t.length = ⟨m⟩
  have h := String.validFor_toSubstring ⟨m ++ t⟩
  have hp := (show Substring.ValidFor [] ((m ++ t).reverse.reverse ++ []) [] _ by simpa using h).prevn
    t.length
  simp only [List.reverse_append, List.drop_left' (List.length_reverse t), String.utf8Len_reverse,
    String.utf8Len_append, Nat.add_comm (String.utf8Len t)] at hp
  simp only [String.dropRight, Substring.dropRight, h.bsize,
    String.utf8Len_append, hp]
  exact Substring.ValidFor.toString
    (@Substring.ValidFor.of_eq [] m t _ (by simp [String.toSubstring]) (by simp [String.toSubstring])
      (by simp [String.toSubstring]))

/-- A column names node `n` exactly when it is `n_write` or `n_read`: stripping the suffix and
appending it again agree for every name. -/
theorem columnNodeId_eq_some_iff {col n : String} :
    columnNodeId col = some n ↔ col = n ++ "_write" ∨ col = n ++ "_read" := by
  constructor
  · intro h
    unfold columnNodeId at h
    split_ifs at h with hw hr
    · obtain ⟨m, rfl⟩ := (endsWith_iff _ _).1 hw
      have hm : (m ++ "_write").dropRight 6 = m := dropRight_append_length m "_write"
      exact .inl (by rw [← Option.some.inj h, hm])
    · obtain ⟨m, rfl⟩ := (endsWith_iff _ _).1 hr
      have hm : (m ++ "_read").dropRight 5 = m := dropRight_append_length m "_read"
      exact .inr (by rw [← Option.some.inj h, hm])
  · rintro (rfl | rfl)
    · simp only [columnNodeId, endsWith_append_self, if_true]
      exact congrArg some (dropRight_append_length n "_write")
    · simp only [columnNodeId, endsWith_read_write, endsWith_append_self, if_true]
      exact congrArg some (dropRight_append_length n "_read")

/-! ### The projector on a frame with distinct column names -/

/-- The mean of column `c`, `0` for a column the frame does not have. -/
def PredFrame.colMean (df : PredFrame) (c : String) : ℚ := (df.mean.lookup c).getD 0

theorem PredFrame.map_fst_mean (df : PredFrame) : df.mean.map Prod.fst = df.columns := by
  simp [PredFrame.mean, List.mapIdx_eq_enum_map, Function.uncurry, Function.comp_def]

theorem filter_fst_eq_of_nodup :
    ∀ {l : List (String × ℚ)}, (l.map Prod.fst).Nodup → ∀ c : String,
      l.filter (·.1 = c) = ((l.lookup c).map fun v => (c, v)).toList
  | [], _, _ => rfl
  | (k, v) :: l, h, c => by
    rw [List.map_cons, List.nodup_cons] at h
    by_cases hk : k = c
    · subst hk
      have hnil : l.filter (·.1 = k) = [] :=
        List.filter_eq_nil_iff.2 fun p hp hpk => h.1 (List.mem_map.2 ⟨p, hp, by simpa using hpk⟩)
      simp [List.filter_cons, List.lookup, hnil]
    · have hck : (c == k) = false := by simpa using Ne.symm hk
      simp [List.filter_cons, hk, List.lookup, hck, filter_fst_eq_of_nodup h.2 c]

theorem meanGet_of_nodup {l : List (String × ℚ)} (h : (l.map Prod.fst).Nodup) (c : String) :
    meanGet l c = .ok ((l.lookup c).getD 0) := by
  unfold meanGet
  rw [filter_fst_eq_of_nodup h c]
  cases l.lookup c <;> rfl

theorem lookup_eq_of_perm {l l' : List (String × ℚ)} (h : (l.map Prod.fst).Nodup)
    (hp : l.Perm l') (c : String) : l.lookup c = l'.lookup c := by
  have h' : (l'.map Prod.fst).Nodup := (hp.map Prod.fst).nodup_iff.1 h
  have hf := hp.filter (·.1 = c)
  rw [filter_fst_eq_of_nodup h, filter_fst_eq_of_nodup h'] at hf
  cases hl : l.lookup c <;> cases hl' : l'.lookup c <;> simp_all [List.singleton_perm]

/-- One iteration of the loop over the node ids with its `mean_row.get` calls resolved: the
domain it appends, if any, on a frame with distinct column names. -/
def projectedDomain (self : OptimalLeaderCalculator) (df : PredFrame) (nodeId : String) :
    Option (Domain ℚ) :=
  let writeVal := df.colMean (nodeId ++ "_write")
  let readVal := df.colMean (nodeId ++ "_read")
  if writeVal = 0 ∧ readVal = 0 then none
  else
    let ipAddr := (self.nodeIdToIp.lookup nodeId).getD "unknown"
    if ipAddr = "unknown" then none else some ⟨nodeId, ipAddr, 1, readVal, writeVal⟩

theorem domainFor_of_nodup (self : OptimalLeaderCalculator) {df : PredFrame}
    (h : df.columns.Nodup) (nodeId : String) :
    domainFor self df.mean nodeId = .ok (projectedDomain self df nodeId) := by
  rw [← df.map_fst_mean] at h
  simp only [domainFor, projectedDomain, meanGet_of_nodup h, PredFrame.colMean, bind,
    Except.bind, pure, Except.pure]
  split_ifs <;> rfl

theorem projectedDomain_eq_some {self : OptimalLeaderCalculator} {df : PredFrame}
    {nodeId : String} {d : Domain ℚ} (h : projectedDomain self df nodeId = some d) :
    d.id = nodeId ∧ self.nodeIdToIp.lookup nodeId = some d.address ∧ d.nodes = 1 ∧
      d.readRequests = df.colMean (nodeId ++ "_read") ∧
      d.writeRequests = df.colMean (nodeId ++ "_write") := by
  dsimp only [projectedDomain] at h
  split_ifs at h with hz hu
  cases h
  cases hip : self.nodeIdToIp.lookup nodeId <;> simp_all

theorem isSome_projectedDomain (self : OptimalLeaderCalculator)
    (hself : ∀ n, self.nodeIdToIp.lookup n ≠ some "unknown") (df : PredFrame) (nodeId : String) :
    (projectedDomain self df nodeId).isSome ↔ (self.nodeIdToIp.lookup nodeId).isSome ∧
      ¬ (df.colMean (nodeId ++ "_write") = 0 ∧ df.colMean (nodeId ++ "_read") = 0) := by
  dsimp only [projectedDomain]
  cases hip : self.nodeIdToIp.lookup nodeId with
  | none => split_ifs <;> simp_all
  | some ip =>
    have hu : ip ≠ "unknown" := fun hu => hself nodeId (hu ▸ hip)
    split_ifs <;> simp_all

theorem map_id_filterMap_projectedDomain (self : OptimalLeaderCalculator) (df : PredFrame) :
    ∀ l : List String, (l.filterMap (projectedDomain self df)).map Domain.id =
      l.filter fun n => (projectedDomain self df n).isSome
  | [] => rfl
  | n :: l => by
    cases h : projectedDomain self df n with
    | none => simp [List.filterMap_cons, h, map_id_filterMap_projectedDomain self df l]
    | some d =>
      simp [List.filterMap_cons, h, (projectedDomain_eq_some h).1,
        map_id_filterMap_projectedDomain self df l]

private theorem mapM_ok_of_forall {β : Type} {f : String → Except PyException β} {g : String → β} :
    ∀ {xs : List String}, (∀ x ∈ xs, f x = .ok (g x)) → xs.mapM f = .ok (xs.map g)
  | [], _ => rfl
  | x :: xs, h => by
    rw [List.mapM_cons, h x (List.mem_cons_self _ _),
      mapM_ok_of_forall fun y hy => h y (List.mem_cons_of_mem _ hy)]
    rfl

/-- On distinct column names the projector never raises: it keeps the node ids whose
iteration appends a domain. -/
theorem buildDomainsFromPredMean_of_nodup (self : OptimalLeaderCalculator) {df : PredFrame}
    (h : df.columns.Nodup) (he : df.empty = false) :
    buildDomainsFromPredMean self df = .ok ((nodeIds df).filterMap (projectedDomain self df)) := by
  rw [buildDomainsFromPredMean, if_neg (by simp [he]),
    mapM_ok_of_forall fun n _ => domainFor_of_nodup self h n]
  simp [Functor.map, Except.map, List.filterMap_map]

/-! ### The node ids -/

/-- The order `nodeIds` sorts by, Python's string order. -/
instance isTotal_data_le : IsTotal String fun a b => a.data ≤ b.data := ⟨fun _ _ => le_total _ _⟩

instance isTrans_data_le : IsTrans String fun a b => a.data ≤ b.data := ⟨fun _ _ _ => le_trans⟩

instance isAntisymm_data_le : IsAntisymm String fun a b => a.data ≤ b.data :=
  ⟨fun _ _ hab hba => String.ext (le_antisymm hab hba)⟩

theorem mem_nodeIds {df : PredFrame} {n : String} :
    n ∈ nodeIds df ↔ (n ++ "_write") ∈ df.columns ∨ (n ++ "_read") ∈ df.columns := by
  simp [nodeIds, columnNodeId_eq_some_iff, and_or_left, exists_or]

theorem sorted_nodeIds (df : PredFrame) : (nodeIds df).Sorted fun a b => a.data < b.data := by
  have hnd : (nodeIds df).Nodup :=
    (List.perm_insertionSort _ _).nodup_iff.2 (List.nodup_dedup _)
  exact ((List.sorted_insertionSort _ _).and hnd).imp fun ⟨hle, hne⟩ =>
    lt_of_le_of_ne hle fun h => hne (String.ext h)

theorem nodeIds_eq_of_perm {df df' : PredFrame} (hp : df.columns.Perm df'.columns) :
    nodeIds df = nodeIds df' :=
  List.eq_of_perm_of_sorted
    ((List.perm_insertionSort _ _).trans <| ((hp.filterMap _).dedup).trans
      (List.perm_insertionSort _ _).symm)
    (List.sorted_insertionSort _ _) (List.sorted_insertionSort _ _)

/-! ### The projector -/

theorem lookup_ne_of_not_mem {l : List (String × String)} {v : String}
    (h : v ∉ l.map Prod.snd) (n : String) : l.lookup n ≠ some v := by
  induction l with
  | nil => simp [List.lookup]
  | cons p l ih =>
    rw [List.map_cons, List.mem_cons, not_or] at h
    cases hp : n == p.1 <;> simp [List.lookup, hp, ih h.2, Ne.symm h.1]

/-- `build_domains_from_pred_mean` on a frame with distinct column names, for a table that maps
no node id to `"unknown"`: `[]` for an empty frame; otherwise one domain per node id named by a
column `{id}_write` or `{id}_read` whose address is known and whose two column means (`0` for
a missing column) are not both zero, in strictly ascending id order, with that address, one
node and those means as its loads. The result depends on the columns only through their
names and means, not on their order. -/
theorem buildDomainsFromPredMean_spec (self : OptimalLeaderCalculator)
    (hself : ∀ n, self.nodeIdToIp.lookup n ≠ some "unknown") (df : PredFrame)
    (hcols : df.columns.Nodup) :
    (df.empty = true → buildDomainsFromPredMean self df = .ok []) ∧
    (df.empty = false → ∃ domains, buildDomainsFromPredMean self df = .ok domains ∧
      (domains.map Domain.id).Sorted (fun a b => a.data < b.data) ∧
      (∀ n, n ∈ domains.map Domain.id ↔
        ((n ++ "_write") ∈ df.columns ∨ (n ++ "_read") ∈ df.columns) ∧
          (self.nodeIdToIp.lookup n).isSome ∧
          ¬ (df.colMean (n ++ "_write") = 0 ∧ df.colMean (n ++ "_read") = 0)) ∧
      ∀ d ∈ domains, self.nodeIdToIp.lookup d.id = some d.address ∧ d.nodes = 1 ∧
        d.readRequests = df.colMean (d.id ++ "_read") ∧
        d.writeRequests = df.colMean (d.id ++ "_write")) ∧
    ∀ df' : PredFrame, df'.mean.Perm df.mean → df'.empty = df.empty →
      buildDomainsFromPredMean self df' = buildDomainsFromPredMean self df := by
  refine ⟨fun he => by simp [buildDomainsFromPredMean, he], fun he =>
    ⟨_, buildDomainsFromPredMean_of_nodup self hcols he, ?_, fun n => ?_, fun d hd => ?_⟩, ?_⟩
  · rw [map_id_filterMap_projectedDomain]
    exact (sorted_nodeIds df).sublist (List.filter_sublist _)
  · rw [map_id_filterMap_projectedDomain, List.mem_filter, mem_nodeIds,
      isSome_projectedDomain self hself]
  · obtain ⟨n, -, hn⟩ := List.mem_filterMap.1 hd
    obtain ⟨rfl, hrest⟩ := projectedDomain_eq_some hn
    exact hrest
  · intro df' hp hempty
    have hkeys : df'.columns.Perm df.columns := by
      simpa only [PredFrame.map_fst_mean] using hp.map Prod.fst
    -- the same columns have the same means, so every iteration appends the same domain
    have hmean : ∀ c, df'.colMean c = df.colMean c := fun c => by
      rw [PredFrame.colMean, PredFrame.colMean,
        lookup_eq_of_perm (by rwa [PredFrame.map_fst_mean, hkeys.nodup_iff]) hp]
    have hproj : projectedDomain self df' = projectedDomain self df :=
      funext fun n => by simp only [projectedDomain, hmean]
    cases he : df.empty
    · rw [buildDomainsFromPredMean_of_nodup self (hkeys.nodup_iff.2 hcols) (hempty.trans he),
        buildDomainsFromPredMean_of_nodup self hcols he, nodeIds_eq_of_perm hkeys, hproj]
    · simp [buildDomainsFromPredMean, he, hempty]

/-- The shipped table, over a two-column frame of one row. -/
theorem buildDomainsFromPredMean_spec_on_shipped_table :
    let df : PredFrame := ⟨["b92b49a4de72942d_read", "933ca51d2bb602b8_write"], [[1, 2]], by decide⟩
    (∀ n, OptimalLeaderCalculator.init.nodeIdToIp.lookup n ≠ some "unknown") ∧ df.columns.Nodup ∧
    ((df.empty = true → buildDomainsFromPredMean .init df = .ok []) ∧
    (df.empty = false → ∃ domains, buildDomainsFromPredMean .init df = .ok domains ∧
      (domains.map Domain.id).Sorted (fun a b => a.data < b.data) ∧
      (∀ n, n ∈ domains.map Domain.id ↔
        ((n ++ "_write") ∈ df.columns ∨ (n ++ "_read") ∈ df.columns) ∧
          (OptimalLeaderCalculator.init.nodeIdToIp.lookup n).isSome ∧
          ¬ (df.colMean (n ++ "_write") = 0 ∧ df.colMean (n ++ "_read") = 0)) ∧
      ∀ d ∈ domains, OptimalLeaderCalculator.init.nodeIdToIp.lookup d.id = some d.address ∧
        d.nodes = 1 ∧ d.readRequests = df.colMean (d.id ++ "_read") ∧
        d.writeRequests = df.colMean (d.id ++ "_write")) ∧
    ∀ df' : PredFrame, df'.mean.Perm df.mean → df'.empty = df.empty →
      buildDomainsFromPredMean .init df' = buildDomainsFromPredMean .init df) :=
  have hself := lookup_ne_of_not_mem (l := OptimalLeaderCalculator.init.nodeIdToIp) (by decide)
  ⟨hself, by decide, buildDomainsFromPredMean_spec .init hself _ (by decide)⟩

end PRaft.PredictLeader
