import PRaft.Rounding

/-!
The data shared by the two leader calculators of the repository, the quorum model of
`moveleader.py` and the point-to-point model of `predict_leader.py`: the `Domain` record,
the calculator's hard-coded tables and `get_latency`, and the Python values their
`find_optimal_leader` methods return.

The tables are fields of `OptimalLeaderCalculator`, so every result below holds for any
table contents; `OptimalLeaderCalculator.init` is what both `__init__` methods build.
A Python `dict` is an association list searched from the front.
-/

namespace PRaft

/-- A Python exception, by class name. The control loop catches every `Exception` alike,
so the class is all the model keeps. -/
structure PyException where
  name : String
deriving DecidableEq, Repr

/-- A replica group as both `Domain` classes store it. The loads have type `α`: Python
integers in `moveleader.py`, float means (modelled exactly, as `ℚ`) in
`predict_leader.py`. -/
structure Domain (α : Type) where
  id : String
  address : String
  nodes : Nat
  readRequests : α
  writeRequests : α
deriving DecidableEq, Repr

/-- The tables of `OptimalLeaderCalculator.__init__` that the modelled methods read. The
last field is the well-formedness the shipped tables have: every index `ip_to_index`
hands out selects an entry of `latency_matrix`, so `get_latency` never raises
`IndexError`. -/
structure OptimalLeaderCalculator where
  ipToIndex : List (String × Nat)
  latencyMatrix : List (List Nat)
  ipToId : List (String × String)
  nodeIdToIp : List (String × String)
  matrix_covers : ∀ i ∈ ipToIndex.map Prod.snd, ∀ j ∈ ipToIndex.map Prod.snd,
    j < (latencyMatrix.getD i []).length

namespace OptimalLeaderCalculator

/-- The tables both source files hard-code. -/
def init : OptimalLeaderCalculator where
  ipToIndex := [("192.168.0.38", 0), ("192.168.0.82", 1), ("192.168.0.223", 2)]
  latencyMatrix := [[0, 30, 40], [30, 0, 50], [40, 50, 0]]
  ipToId :=
    [("192.168.0.38:2379", "933ca51d2bb602b8"), ("192.168.0.38:3379", "6181f76d6668aeb0"),
     ("192.168.0.38:4379", "69948e3d245f62b7"), ("192.168.0.82:2379", "b92b49a4de72942d"),
     ("192.168.0.82:3379", "3cdaf029c87a002"), ("192.168.0.82:4379", "5b3ba363fb10d52f"),
     ("192.168.0.223:2379", "69f554c3f7f50a72"), ("192.168.0.223:3379", "8861d1f6a0217629"),
     ("192.168.0.223:4379", "512e070e8eb32959")]
  nodeIdToIp :=
    [("933ca51d2bb602b8", "192.168.0.38"), ("6181f76d6668aeb0", "192.168.0.38"),
     ("69948e3d245f62b7", "192.168.0.38"), ("b92b49a4de72942d", "192.168.0.82"),
     ("3cdaf029c87a002", "192.168.0.82"), ("5b3ba363fb10d52f", "192.168.0.82"),
     ("69f554c3f7f50a72", "192.168.0.223"), ("8861d1f6a0217629", "192.168.0.223"),
     ("512e070e8eb32959", "192.168.0.223")]
  matrix_covers := by decide

/-- `get_latency`: the matrix entry of two known addresses, and the sentinel 999 when
either address is unknown. The `getD` defaults are never taken, by `matrix_covers`. -/
def getLatency (self : OptimalLeaderCalculator) (fromIp toIp : String) : Nat :=
  match self.ipToIndex.lookup fromIp, self.ipToIndex.lookup toIp with
  | some i, some j => (self.latencyMatrix.getD i []).getD j 0
  | _, _ => 999

/-- The latency both `calculate_total_latency` methods charge to the requests of `d`
when `leader` leads: `0 if domain.id == leader_domain.id else get_latency(...)`. -/
def domainLatency {α : Type} (self : OptimalLeaderCalculator) (leader d : Domain α) : Nat :=
  if d.id = leader.id then 0 else self.getLatency leader.address d.address

private theorem lookup_mem_snd {l : List (String × Nat)} {ip : String} {k : Nat}
    (h : l.lookup ip = some k) : k ∈ l.map Prod.snd := by
  induction l with
  | nil => simp [List.lookup] at h
  | cons p rest ih =>
      by_cases hp : ip = p.1
      · simp only [List.lookup, hp, beq_self_eq_true, Option.some.injEq] at h
        simp [h]
      · have hne : (ip == p.1) = false := by simpa using hp
        simp only [List.lookup, hne] at h
        exact List.mem_cons_of_mem _ (ih h)

theorem getLatency_of_known (self : OptimalLeaderCalculator) {fromIp toIp : String}
    {i j : Nat} (hi : self.ipToIndex.lookup fromIp = some i)
    (hj : self.ipToIndex.lookup toIp = some j) :
    ∃ row, self.latencyMatrix[i]? = some row ∧ row[j]? = some (self.getLatency fromIp toIp) := by
  have hlt := self.matrix_covers i (lookup_mem_snd hi) j (lookup_mem_snd hj)
  have hrow : i < self.latencyMatrix.length := by
    by_contra hge
    simp [List.getElem?_eq_none (Nat.le_of_not_lt hge)] at hlt
  simp only [List.getD_eq_getElem?_getD, List.getElem?_eq_getElem hrow, Option.getD_some] at hlt
  exact ⟨_, List.getElem?_eq_getElem hrow, by simp [getLatency, hi, hj, hrow, hlt]⟩

end OptimalLeaderCalculator

/-- The Python values the two `find_optimal_leader` methods return: `None`, a number
(`float("inf")` is `⊤`), a `Domain` object, and pairs. -/
inductive PyValue (δ ν : Type) where
  | none
  | num (x : WithTop ν)
  | obj (d : δ)
  | pair (a b : PyValue δ ν)
deriving DecidableEq

namespace PyValue

variable {δ ν : Type}

/-- A Python variable holding either `None` or an object. -/
def ofOption : Option δ → PyValue δ ν
  | some d => obj d
  | Option.none => none

/-- The second component of a returned pair; `None` for anything that is not a pair. -/
def snd : PyValue δ ν → PyValue δ ν
  | pair _ b => b
  | _ => none

@[simp] theorem ofOption_some (d : δ) : (ofOption (some d) : PyValue δ ν) = obj d := rfl
@[simp] theorem ofOption_none : (ofOption Option.none : PyValue δ ν) = none := rfl
@[simp] theorem snd_pair (a b : PyValue δ ν) : (pair a b).snd = b := rfl

end PyValue

end PRaft
