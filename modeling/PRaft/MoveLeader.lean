import PRaft.Cluster
import PRaft.RunningMin

/-!
The quorum cost model of `moveleader.py`: `calculate_commit_latency`,
`calculate_total_latency` and `find_optimal_leader`. The loads have any type `α` of a
linearly ordered commutative ring, which covers the integers `read_raft_stats` produces
and rational loads alike.

`find_optimal_leader` ends with

    return optimal_leader, min_total_latency if optimal_leader else (None, None)

which Python reads as a pair whose *second* component is the conditional, and its empty-list
branch returns a bare `None`; `findOptimalLeader_spec` says exactly what comes back.
-/

namespace PRaft.MoveLeader

open OptimalLeaderCalculator

variable {α : Type} [LinearOrderedCommRing α]

/-- `quorum_size = math.floor(total_nodes / 2) + 1`. -/
def quorumSize (domains : List (Domain α)) : Nat :=
  (domains.map Domain.nodes).sum / 2 + 1

/-- The latencies from `leader` to every domain with another id, after
`latencies.sort()`. -/
def followerLatencies (self : OptimalLeaderCalculator) (leader : Domain α)
    (domains : List (Domain α)) : List Nat :=
  ((domains.filter (fun d => d.id != leader.id)).map
    (fun d => self.getLatency leader.address d.address)).insertionSort (· ≤ ·)

/-- `calculate_commit_latency`, for any integer `quorum_size`. `none` is the `math.inf`
returned when the quorum cannot be reached; otherwise the latency of the
`quorum_size - 1`-th fastest follower. -/
def calculateCommitLatency (self : OptimalLeaderCalculator) (leader : Domain α)
    (domains : List (Domain α)) (quorumSize : ℤ) : Option Nat :=
  let latencies := followerLatencies self leader domains
  let followersNeeded := quorumSize - 1
  if followersNeeded > latencies.length then none
  else if followersNeeded ≤ 0 then some 0
  else some (latencies.getD (followersNeeded - 1).toNat 0)

/-- `calculate_total_latency`: the loop accumulating `total_latency` and
`total_write_requests`, then `commit_latency * total_write_requests` added. -/
def calculateTotalLatency (self : OptimalLeaderCalculator) (leader : Domain α)
    (domains : List (Domain α)) (commitLatency : Nat) : α :=
  let acc := domains.foldl (fun (acc : α × α) d =>
    (acc.1 + d.readRequests * (self.domainLatency leader d : α), acc.2 + d.writeRequests)) (0, 0)
  acc.1 + (commitLatency : α) * acc.2

/-- The cost the loop of `find_optimal_leader` gives a candidate; `none` when its commit
latency is infinite and the loop `continue`s. -/
def candidateCost (self : OptimalLeaderCalculator) (domains : List (Domain α))
    (quorum : Nat) (cand : Domain α) : Option α :=
  (calculateCommitLatency self cand domains quorum).map (calculateTotalLatency self cand domains)

/-- `find_optimal_leader`. -/
def findOptimalLeader (self : OptimalLeaderCalculator) (domains : List (Domain α)) :
    PyValue (Domain α) α :=
  match domains with
  | [] => .none
  | _ :: _ =>
    let r := runningMin (candidateCost self domains (quorumSize domains)) domains
    .pair (.ofOption r.1) (if r.1.isSome then .num r.2 else .pair .none .none)

/-! ### The cost terms in closed form -/

private theorem foldl_total (self : OptimalLeaderCalculator) (leader : Domain α)
    (domains : List (Domain α)) (a b : α) :
    domains.foldl (fun (acc : α × α) d =>
      (acc.1 + d.readRequests * (self.domainLatency leader d : α), acc.2 + d.writeRequests))
      (a, b) =
    (a + (domains.map fun d => d.readRequests * (self.domainLatency leader d : α)).sum,
      b + (domains.map Domain.writeRequests).sum) := by
  induction domains generalizing a b with
  | nil => simp
  | cons d rest ih => simp [ih, add_assoc]

/-- `T(L) = Σ R_i · d(L,i) + W(L) · Σ W_i`. -/
theorem calculateTotalLatency_eq (self : OptimalLeaderCalculator) (leader : Domain α)
    (domains : List (Domain α)) (w : Nat) :
    calculateTotalLatency self leader domains w =
      (domains.map fun d => d.readRequests * (self.domainLatency leader d : α)).sum +
        (w : α) * (domains.map Domain.writeRequests).sum := by
  simp only [calculateTotalLatency, foldl_total, zero_add]

omit [LinearOrderedCommRing α] in
theorem length_followerLatencies (self : OptimalLeaderCalculator) (leader : Domain α)
    (domains : List (Domain α)) :
    (followerLatencies self leader domains).length =
      (domains.filter (fun d => d.id != leader.id)).length := by
  simp [followerLatencies, List.length_insertionSort]

omit [LinearOrderedCommRing α] in
theorem calculateCommitLatency_eq_none_iff (self : OptimalLeaderCalculator)
    (leader : Domain α) (domains : List (Domain α)) (q : ℤ) :
    calculateCommitLatency self leader domains q = none ↔
      ((domains.filter (fun d => d.id != leader.id)).length : ℤ) < q - 1 := by
  simp only [calculateCommitLatency, length_followerLatencies]
  split_ifs <;> simp_all

/-! ### The commit latency is an order statistic -/

/-- `w` is the least of the values `ls` such that at least `k` of them are at most `w`: the
`k`-th order statistic of `ls`, by counting. -/
def IsOrderStat (ls : List ℕ) (k w : ℕ) : Prop :=
  w ∈ ls ∧ k ≤ ls.countP (· ≤ w) ∧ ∀ v ∈ ls, k ≤ ls.countP (· ≤ v) → w ≤ v

theorem isOrderStat_getElem {s : List ℕ} (hs : s.Sorted (· ≤ ·)) {k : ℕ} (hk : k < s.length) :
    IsOrderStat s (k + 1) s[k] := by
  have hsplit : s = s.take k ++ s[k] :: s.drop (k + 1) := by
    rw [← List.drop_eq_getElem_cons hk, List.take_append_drop]
  have hp : (s.take k ++ s[k] :: s.drop (k + 1)).Pairwise (· ≤ ·) := hsplit ▸ hs
  simp only [List.pairwise_append, List.pairwise_cons, List.mem_cons] at hp
  obtain ⟨-, ⟨hafter, -⟩, hbefore⟩ := hp
  generalize s[k] = w at hbefore hafter hsplit ⊢
  have htake : (s.take k).countP (· ≤ w) = k := by
    rw [List.countP_eq_length.mpr fun a ha => by simpa using hbefore a ha _ (.inl rfl),
      List.length_take_of_le hk.le]
  refine ⟨hsplit ▸ by simp, ?_, fun v _ hv => ?_⟩
  · rw [hsplit, List.countP_append, htake, List.countP_cons_of_pos _ _ (by simp)]
    omega
  · by_contra hlt
    push_neg at hlt
    have hzero : (w :: s.drop (k + 1)).countP (· ≤ v) = 0 := by
      refine List.countP_eq_zero.mpr fun b hb => ?_
      rcases List.mem_cons.mp hb with rfl | hb
      · simpa using hlt
      · simpa using lt_of_lt_of_le hlt (hafter b hb)
    have hle : (s.take k).countP (· ≤ v) ≤ k :=
      (List.countP_le_length _).trans (List.length_take_le k s)
    rw [hsplit, List.countP_append, hzero] at hv
    omega

theorem IsOrderStat.perm {ls ls' : List ℕ} (hp : ls.Perm ls') {k w : ℕ} (h : IsOrderStat ls k w) :
    IsOrderStat ls' k w := by
  obtain ⟨hw, hc, hleast⟩ := h
  refine ⟨hp.mem_iff.mp hw, hp.countP_eq _ ▸ hc, fun v hv hkv => hleast v (hp.mem_iff.mpr hv) ?_⟩
  rwa [hp.countP_eq]

/-- The latencies `get_latency(L.address, D.address)` from `leader` to the domains of another
id, in the order of the list. -/
def latenciesFrom (self : OptimalLeaderCalculator) (leader : Domain α)
    (domains : List (Domain α)) : List Nat :=
  (domains.filter (fun d => d.id != leader.id)).map fun d => self.getLatency leader.address d.address

omit [LinearOrderedCommRing α] in
theorem followerLatencies_eq (self : OptimalLeaderCalculator) (leader : Domain α)
    (domains : List (Domain α)) :
    followerLatencies self leader domains = (latenciesFrom self leader domains).insertionSort (· ≤ ·) :=
  rfl

omit [LinearOrderedCommRing α] in
/-- What `calculate_commit_latency` computes. With `l₁ … lₘ` the latencies from
`leader` to the domains of another id, the result is infinite exactly when
`quorum_size - 1 > m`; otherwise it is `0` for `quorum_size ≤ 1`, and else the least `w` among
the `lᵢ` that at least `quorum_size - 1` of them do not exceed: the time the
`quorum_size - 1`-th follower acknowledgement arrives. -/
theorem calculateCommitLatency_spec (self : OptimalLeaderCalculator) (leader : Domain α)
    (domains : List (Domain α)) (q : ℤ) :
    (calculateCommitLatency self leader domains q = none ↔
        ((latenciesFrom self leader domains).length : ℤ) < q - 1) ∧
      (q ≤ 1 → calculateCommitLatency self leader domains q = some 0) ∧
      (1 < q → q - 1 ≤ (latenciesFrom self leader domains).length →
        ∃ w, calculateCommitLatency self leader domains q = some w ∧
          IsOrderStat (latenciesFrom self leader domains) (q - 1).toNat w) := by
  have hlen : (followerLatencies self leader domains).length =
      (latenciesFrom self leader domains).length :=
    List.length_insertionSort _ _
  refine ⟨by simpa [latenciesFrom] using calculateCommitLatency_eq_none_iff self leader domains q,
    fun hq => ?_, fun hq hm => ?_⟩
  · simp only [calculateCommitLatency, hlen]
    rw [if_neg (by omega), if_pos (by omega)]
  · have hk : (q - 2).toNat < (followerLatencies self leader domains).length := by omega
    have hstat := isOrderStat_getElem (List.sorted_insertionSort _ _) hk
    refine ⟨_, ?_, (show (q - 2).toNat + 1 = (q - 1).toNat by omega) ▸
      hstat.perm (List.perm_insertionSort _ _)⟩
    simp only [calculateCommitLatency, hlen]
    rw [if_neg (by omega), if_neg (by omega), List.getD_eq_getElem?_getD,
      show (q - 1 - 1).toNat = (q - 2).toNat by omega, List.getElem?_eq_getElem hk,
      Option.getD_some]
    rfl

/-! ### What `find_optimal_leader` returns -/

/-- The whole behaviour of `find_optimal_leader`: a bare `None` for the empty list,
`(None, (None, None))` when no candidate reaches its quorum, and otherwise
`(L, T(L))` for the first candidate `L` of least cost among those that do. -/
theorem findOptimalLeader_spec (self : OptimalLeaderCalculator) (domains : List (Domain α)) :
    (domains = [] ∧ findOptimalLeader self domains = .none) ∨
    (domains ≠ [] ∧ (∀ L ∈ domains, candidateCost self domains (quorumSize domains) L = none) ∧
      findOptimalLeader self domains = .pair .none (.pair .none .none)) ∨
    ∃ L, ∃ c : α, FirstMinimal (candidateCost self domains (quorumSize domains)) domains L c ∧
      findOptimalLeader self domains = .pair (.obj L) (.num c) := by
  match domains with
  | [] => exact .inl ⟨rfl, rfl⟩
  | d :: ds =>
    rcases runningMin_spec (candidateCost self (d :: ds) (quorumSize (d :: ds))) (d :: ds) with
      ⟨hr, hnone⟩ | ⟨L, c, hr, hfirst⟩
    · exact .inr (.inl ⟨List.cons_ne_nil d ds, hnone, by simp [findOptimalLeader, hr]⟩)
    · exact .inr (.inr ⟨L, c, hfirst, by simp [findOptimalLeader, hr]⟩)

/-- `find_optimal_leader` on the empty list, and on a list whose only domain, of two nodes,
needs one follower and has none. -/
theorem findOptimalLeader_without_candidate :
    findOptimalLeader OptimalLeaderCalculator.init ([] : List (Domain ℤ)) = .none ∧
    findOptimalLeader OptimalLeaderCalculator.init
      [{ id := "933ca51d2bb602b8", address := "192.168.0.38", nodes := 2,
         readRequests := (0 : ℤ), writeRequests := 0 }] =
      .pair .none (.pair .none .none) := by
  decide

/-! ### Independence of the input order -/

section Perm

variable {l l' : List (Domain α)}

omit [LinearOrderedCommRing α] in
theorem quorumSize_perm (hp : l.Perm l') : quorumSize l = quorumSize l' := by
  simp only [quorumSize, (hp.map Domain.nodes).sum_eq]

omit [LinearOrderedCommRing α] in
theorem followerLatencies_perm (self : OptimalLeaderCalculator) (leader : Domain α)
    (hp : l.Perm l') : followerLatencies self leader l = followerLatencies self leader l' :=
  List.eq_of_perm_of_sorted
    (((List.perm_insertionSort _ _).trans ((hp.filter _).map _)).trans
      (List.perm_insertionSort _ _).symm)
    (List.sorted_insertionSort _ _) (List.sorted_insertionSort _ _)

theorem calculateTotalLatency_perm (self : OptimalLeaderCalculator) (leader : Domain α)
    (hp : l.Perm l') : calculateTotalLatency self leader l = calculateTotalLatency self leader l' := by
  funext w
  simp only [calculateTotalLatency_eq, (hp.map Domain.writeRequests).sum_eq,
    (hp.map fun d => d.readRequests * (self.domainLatency leader d : α)).sum_eq]

theorem candidateCost_perm (self : OptimalLeaderCalculator) (hp : l.Perm l') :
    candidateCost self l (quorumSize l) = candidateCost self l' (quorumSize l') := by
  funext cand
  simp only [candidateCost, calculateCommitLatency, quorumSize_perm hp,
    followerLatencies_perm self cand hp, calculateTotalLatency_perm self cand hp]

/-- Permuting the domains changes neither the least total latency nor, when the least-cost
candidates are all one value, the returned pair. -/
theorem findOptimalLeader_perm (self : OptimalLeaderCalculator) (hp : l.Perm l') :
    (findOptimalLeader self l').snd = (findOptimalLeader self l).snd ∧
    ((∀ a ∈ l, ∀ b ∈ l, Minimal (candidateCost self l (quorumSize l)) l a →
        Minimal (candidateCost self l (quorumSize l)) l b → a = b) →
      findOptimalLeader self l' = findOptimalLeader self l) := by
  rcases l with _ | ⟨d, ds⟩
  · obtain rfl := hp.nil_eq
    exact ⟨rfl, fun _ => rfl⟩
  obtain ⟨d', ds', rfl⟩ : ∃ d' ds', l' = d' :: ds' :=
    List.exists_cons_of_ne_nil fun h => by simp [h] at hp
  have hc := candidateCost_perm self hp
  have hsnd : (runningMin (candidateCost self (d :: ds) (quorumSize (d :: ds))) (d :: ds)).2 =
      (runningMin (candidateCost self (d :: ds) (quorumSize (d :: ds))) (d' :: ds')).2 :=
    runningMin_snd_perm hp
  have hsome := isSome_fst_runningMin (candidateCost self (d :: ds) (quorumSize (d :: ds))) (d :: ds)
  have hsome' := isSome_fst_runningMin (candidateCost self (d :: ds) (quorumSize (d :: ds))) (d' :: ds')
  simp only [findOptimalLeader, PyValue.snd_pair, ← hc]
  refine ⟨?_, fun hu => by rw [runningMin_perm_of_unique hp hu]⟩
  by_cases h : (runningMin (candidateCost self (d :: ds) (quorumSize (d :: ds))) (d :: ds)).1.isSome
  · have h' := hsome'.mpr (hsnd ▸ hsome.mp h)
    simp [h, h', hsnd]
  · have h' : ¬ (runningMin (candidateCost self (d :: ds) (quorumSize (d :: ds))) (d' :: ds')).1.isSome :=
      fun h' => h (hsome.mpr (hsnd ▸ hsome'.mp h'))
    simp only [h, h', if_false, Bool.false_eq_true]

end Perm

end PRaft.MoveLeader
