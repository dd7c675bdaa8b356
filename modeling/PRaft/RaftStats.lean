import PRaft.Projector

/-!
`read_raft_stats` of `moveleader.py`: the last row of `raft_stats.csv` read as per-node write
and read counts. The header names the nodes, by its columns ending in `_write`, but the counts
are read by position, two cells per node from column 1 on, which is the layout the docstring
gives (`timestamp, node1_write, node1_read, ...`). Every exception is caught, and the domains
appended before it are returned.

The file is given as the rows `csv.reader` yields, or `none` when it does not exist; the CSV
tokeniser is not modelled. `int()` and `str.strip()` take Python's Unicode digits and whitespace.
-/

namespace PRaft.MoveLeader

/-! ### The string builtins the reader calls -/

/-- The characters `str.isspace()` accepts, which `str.strip()`, `str.split()`, `int()` and the
`\s` of a `str` pattern all take for whitespace (Python 3.11, Unicode 14.0). -/
def isPySpace (c : Char) : Bool :=
  ('\t' ≤ c && c ≤ '\r') || ('\x1c' ≤ c && c ≤ ' ') || c = '\x85' || c = '\xa0' ||
    c = '\u1680' || ('\u2000' ≤ c && c ≤ '\u200a') || c = '\u2028' || c = '\u2029' ||
    c = '\u202f' || c = '\u205f' || c = '\u3000'

/-- The zero of every run of ten decimal digits of Unicode category `Nd`, the digits `int()`,
`float()` and the `\d` of a `str` pattern accept (Python 3.11, Unicode 14.0). -/
def decimalZeros : List ℕ :=
  [0x30, 0x660, 0x6F0, 0x7C0, 0x966, 0x9E6, 0xA66, 0xAE6, 0xB66, 0xBE6, 0xC66, 0xCE6, 0xD66,
    0xDE6, 0xE50, 0xED0, 0xF20, 0x1040, 0x1090, 0x17E0, 0x1810, 0x1946, 0x19D0, 0x1A80, 0x1A90,
    0x1B50, 0x1BB0, 0x1C40, 0x1C50, 0xA620, 0xA8D0, 0xA900, 0xA9D0, 0xA9F0, 0xAA50, 0xABF0,
    0xFF10, 0x104A0, 0x10D30, 0x11066, 0x110F0, 0x11136, 0x111D0, 0x112F0, 0x11450, 0x114D0,
    0x11650, 0x116C0, 0x11730, 0x118E0, 0x11950, 0x11C50, 0x11D50, 0x11DA0, 0x16A60, 0x16AC0,
    0x16B50, 0x1D7CE, 0x1D7D8, 0x1D7E2, 0x1D7EC, 0x1D7F6, 0x1E140, 0x1E2F0, 0x1E950, 0x1FBF0]

/-- The value of a decimal digit; `none` for any other character. -/
def pyDigitValue (c : Char) : Option ℕ :=
  (decimalZeros.find? fun z => z ≤ c.toNat && c.toNat < z + 10).map (c.toNat - ·)

/-- A decimal digit. -/
def isPyDigit (c : Char) : Bool := (pyDigitValue c).isSome

/-- The value of decimal digits with single underscores between them, as `int()` reads what
follows the sign. -/
def digitsValue (cs : List Char) : Option ℕ :=
  if !cs.isEmpty && cs.head?.all isPyDigit && cs.getLast?.all isPyDigit &&
      cs.all (fun c => isPyDigit c || c = '_') && !(cs.zip cs.tail).contains ('_', '_') then
    some ((cs.filterMap pyDigitValue).foldl (fun n d => 10 * n + d) 0)
  else none

/-- `int(s)` for a string `s`: `none` where Python raises `ValueError`. -/
def pyIntOfStr (s : String) : Option ℤ :=
  match ((s.data.dropWhile isPySpace).reverse.dropWhile isPySpace).reverse with
  | '-' :: ds => (digitsValue ds).map fun n => -(n : ℤ)
  | '+' :: ds => (digitsValue ds).map fun n => (n : ℤ)
  | ds => (digitsValue ds).map fun n => (n : ℤ)

/-- `s.replace(old, new)` on the characters, for a non-empty `old` (the code passes
`'_write'`): occurrences are found left to right and each is replaced and passed over, so
they do not overlap. `skip` counts the characters of the last occurrence still to pass. -/
def replaceFrom (old new : List Char) : ℕ → List Char → List Char
  | _, [] => []
  | 0, c :: cs =>
    if old.isPrefixOf (c :: cs) then new ++ replaceFrom old new (old.length - 1) cs
    else c :: replaceFrom old new 0 cs
  | skip + 1, _ :: cs => replaceFrom old new skip cs

/-- `s.replace(old, new)`. -/
def pyReplace (s old new : String) : String := ⟨replaceFrom old.data new.data 0 s.data⟩

/-! ### `replace` strips a suffix that occurs nowhere else -/

theorem replaceFrom_of_length_le (old new : List Char) :
    ∀ {k : ℕ} {xs : List Char}, xs.length ≤ k → replaceFrom old new k xs = []
  | _, [], _ => by cases ‹ℕ› <;> rfl
  | k + 1, _ :: xs, h => @replaceFrom_of_length_le old new k xs (by simpa using h)

/-- Where `old` occurs in `n ++ old` only at the end, `replace` turns that end into `new`. For
that it suffices that `old` does not occur in `n` and that no proper suffix of `old` is a
prefix of it. -/
theorem replaceFrom_append_self {old : List Char} (new : List Char) (hold : old ≠ [])
    (hborder : ∀ k < old.length, 0 < k → ¬ old.drop k <+: old) :
    ∀ {n : List Char}, ¬ old <:+: n → replaceFrom old new 0 (n ++ old) = n ++ new
  | [], _ => by
    obtain ⟨o, os, rfl⟩ := List.exists_cons_of_ne_nil hold
    simp [replaceFrom, replaceFrom_of_length_le]
  | c :: n, hn => by
    have hpre : ¬ old <+: c :: n ++ old := by
      intro hp
      rcases le_or_lt old.length (c :: n).length with hle | hlt
      · exact hn (List.prefix_of_prefix_length_le hp (List.prefix_append _ _) hle).isInfix
      · -- an occurrence running past `n` makes a proper suffix of `old` a prefix of it
        obtain ⟨t, rfl⟩ := List.prefix_of_prefix_length_le (List.prefix_append _ _) hp hlt.le
        refine hborder _ hlt (by simp) ?_
        rw [List.drop_left]
        exact (List.prefix_append_right_inj _).1 hp
    have ih := @replaceFrom_append_self old new hold hborder n fun h => hn (List.infix_cons h)
    simp only [List.cons_append, replaceFrom]
    rw [if_neg (by rwa [List.isPrefixOf_iff_prefix])]
    exact congrArg (c :: ·) ih

theorem pyReplace_append_write {n : String} (hn : ¬ "_write".data <:+: n.data) :
    pyReplace (n ++ "_write") "_write" "" = n := by
  have h := replaceFrom_append_self [] (by decide) (by decide) hn
  simp only [pyReplace, String.data_append, h, List.append_nil]

/-! ### The reader -/

/-- `int(last_row[i])`: `IndexError` past the end of the row, `ValueError` for a cell that is
not an integer. -/
def intAt (row : List String) (i : ℕ) : Except PyException ℤ :=
  match row[i]? with
  | none => .error ⟨"IndexError"⟩
  | some s =>
    match pyIntOfStr s with
    | none => .error ⟨"ValueError"⟩
    | some v => .ok v

/-- One iteration of the loop over the node ids, with `col_index` at `colIndex`: the domain it
appends, if any. -/
def domainAt (self : OptimalLeaderCalculator) (lastRow : List String) (colIndex : ℕ)
    (nodeId : String) : Except PyException (Option (Domain ℤ)) := do
  let writeRequests ← intAt lastRow colIndex
  let readRequests ← intAt lastRow (colIndex + 1)
  if writeRequests = 0 ∧ readRequests = 0 then return none
  let ipAddress := (self.nodeIdToIp.lookup nodeId).getD "unknown"
  if ipAddress = "unknown" then return none
  return some ⟨nodeId, ipAddress, 1, readRequests, writeRequests⟩

/-- The loop over the node ids from column `colIndex` on: the domains it appends, and the
exception that ends it early, if one does. -/
def parseNodes (self : OptimalLeaderCalculator) (lastRow : List String) :
    ℕ → List String → List (Domain ℤ) × Option PyException
  | _, [] => ([], none)
  | colIndex, nodeId :: nodeIds =>
    match domainAt self lastRow colIndex nodeId with
    | .error e => ([], some e)
    | .ok d =>
      let rest := parseNodes self lastRow (colIndex + 2) nodeIds
      (d.toList ++ rest.1, rest.2)

/-- `node_ids`: the header's columns after the first that end in `_write`, with `_write`
removed. -/
def nodeIdsOf (header : List String) : List String :=
  ((header.drop 1).filter (PredictLeader.endsWith · "_write")).map (pyReplace · "_write" "")

/-- `read_raft_stats` on the rows of the file, `none` when it does not exist. An empty last
row raises `IndexError` at `last_row[0]`, before the loop. -/
def readRaftStats (self : OptimalLeaderCalculator) (file : Option (List (List String))) :
    List (Domain ℤ) :=
  match file with
  | none => []
  | some rows =>
    if rows.length < 2 then []
    else
      let lastRow := rows.getLastD []
      if lastRow.isEmpty then [] else (parseNodes self lastRow 1 (nodeIdsOf (rows.headD []))).1

/-! ### What the loop appends -/

section Loop

variable {self : OptimalLeaderCalculator} {lastRow : List String}

theorem domainAt_eq_some {colIndex : ℕ} {nodeId : String} {d : Domain ℤ}
    (h : domainAt self lastRow colIndex nodeId = .ok (some d)) :
    d.id = nodeId ∧ intAt lastRow colIndex = .ok d.writeRequests ∧
      intAt lastRow (colIndex + 1) = .ok d.readRequests ∧
      self.nodeIdToIp.lookup nodeId = some d.address ∧ d.address ≠ "unknown" ∧ d.nodes = 1 ∧
      ¬ (d.writeRequests = 0 ∧ d.readRequests = 0) := by
  unfold domainAt at h
  rcases hw : intAt lastRow colIndex with _ | w
  · simp [hw, bind, Except.bind] at h
  rcases hr : intAt lastRow (colIndex + 1) with _ | r
  · simp [hw, hr, bind, Except.bind] at h
  rcases hip : self.nodeIdToIp.lookup nodeId with _ | ip <;>
    simp only [hw, hr, hip, bind, Except.bind, pure, Except.pure, Option.getD_none,
      Option.getD_some] at h
  · split_ifs at h <;> simp at h
  · split_ifs at h with hz hu
    · simp at h
    · simp at h
    · simp only [Except.ok.injEq, Option.some.injEq] at h
      subst h
      exact ⟨rfl, rfl, rfl, rfl, hu, rfl, hz⟩

/-- Every domain the loop appends, whether it then raises or not, belongs to a node id
`nodeIds[i]` and holds the cells at columns `colIndex + 2 * i` and `colIndex + 2 * i + 1`: the
counts are taken by position. -/
theorem mem_parseNodes :
    ∀ {colIndex : ℕ} {nodeIds : List String} {d : Domain ℤ},
      d ∈ (parseNodes self lastRow colIndex nodeIds).1 → ∃ i, nodeIds[i]? = some d.id ∧
        intAt lastRow (colIndex + 2 * i) = .ok d.writeRequests ∧
        intAt lastRow (colIndex + 2 * i + 1) = .ok d.readRequests
  | _, [], _, h => by simp [parseNodes] at h
  | colIndex, nodeId :: nodeIds, d, h => by
    rcases hd : domainAt self lastRow colIndex nodeId with e | o
    · simp [parseNodes, hd] at h
    simp only [parseNodes, hd, List.mem_append, Option.mem_toList] at h
    rcases h with rfl | h
    · obtain ⟨hid, hw, hr, -⟩ := domainAt_eq_some hd
      exact ⟨0, by simp [hid], hw, hr⟩
    · obtain ⟨i, hi, hw, hr⟩ := mem_parseNodes h
      have hcol : colIndex + 2 * (i + 1) = colIndex + 2 + 2 * i := by omega
      exact ⟨i + 1, by simpa using hi, hcol ▸ hw, hcol ▸ hr⟩

theorem parseNodes_of_error :
    ∀ {colIndex : ℕ} {nodeIds : List String} {e : PyException},
      (parseNodes self lastRow colIndex nodeIds).2 = some e →
      ∃ pre nodeId post, nodeIds = pre ++ nodeId :: post ∧
        domainAt self lastRow (colIndex + 2 * pre.length) nodeId = .error e ∧
        (parseNodes self lastRow colIndex pre).2 = none ∧
        (parseNodes self lastRow colIndex nodeIds).1 = (parseNodes self lastRow colIndex pre).1
  | _, [], _, h => by simp [parseNodes] at h
  | colIndex, nodeId :: nodeIds, e, h => by
    rcases hd : domainAt self lastRow colIndex nodeId with e' | o
    · simp only [parseNodes, hd, Option.some.injEq] at h
      subst h
      exact ⟨[], nodeId, nodeIds, rfl, hd, rfl, by simp [parseNodes, hd]⟩
    · simp only [parseNodes, hd] at h
      obtain ⟨pre, x, post, rfl, hx, hpre, hres⟩ := parseNodes_of_error h
      refine ⟨nodeId :: pre, x, post, rfl, ?_, by simpa [parseNodes, hd] using hpre, ?_⟩
      · rwa [List.length_cons, show colIndex + 2 * (pre.length + 1) = colIndex + 2 + 2 * pre.length by omega]
      · simp [parseNodes, hd, hres]

end Loop

/-! ### The layout of the docstring -/

/-- The node ids of a header in the documented layout, `timestamp, n1_write, n1_read, ...`,
are its ids, when none contains `_write`. -/
theorem nodeIdsOf_interleaved {ids : List String} (hids : ∀ n ∈ ids, ¬ "_write".data <:+: n.data)
    (timestamp : String) :
    nodeIdsOf (timestamp :: ids.flatMap fun n => [n ++ "_write", n ++ "_read"]) = ids := by
  induction ids with
  | nil => rfl
  | cons n ids ih =>
    simp only [List.mem_cons, forall_eq_or_imp] at hids
    simp only [nodeIdsOf, List.drop_one, List.tail_cons] at ih ⊢
    simp [List.filter_append, PredictLeader.endsWith_append_self, PredictLeader.endsWith_read_write, ih hids.2,
      pyReplace_append_write hids.1]

theorem getElem?_flatMap_pair {β γ : Type} (f g : β → γ) :
    ∀ (xs : List β) (i : ℕ), (xs.flatMap fun x => [f x, g x])[2 * i]? = xs[i]?.map f ∧
      (xs.flatMap fun x => [f x, g x])[2 * i + 1]? = xs[i]?.map g
  | [], _ => by simp
  | x :: xs, 0 => by simp
  | x :: xs, i + 1 => by
    rw [show 2 * (i + 1) = 2 * i + 1 + 1 by omega]
    simpa using getElem?_flatMap_pair f g xs i

/-! ### Counts by position -/

/-- A loop that raises leaves what it appended: a last row that ends early, or that holds a
cell that is not an integer, makes `read_raft_stats` return the domains of the nodes before it,
not `[]`. -/
theorem readRaftStats_partial :
    let header := ["timestamp", "933ca51d2bb602b8_write", "933ca51d2bb602b8_read",
      "b92b49a4de72942d_write", "b92b49a4de72942d_read"]
    let kept : Domain ℤ := ⟨"933ca51d2bb602b8", "192.168.0.38", 1, 3, 5⟩
    (parseNodes .init ["1700000000", "5", "3", "7"] 1 (nodeIdsOf header)).2 =
        some ⟨"IndexError"⟩ ∧
      readRaftStats .init (some [header, ["1700000000", "5", "3", "7"]]) = [kept] ∧
      (parseNodes .init ["1700000000", "5", "3", "7", "n/a"] 1 (nodeIdsOf header)).2 =
        some ⟨"ValueError"⟩ ∧
      readRaftStats .init (some [header, ["1700000000", "5", "3", "7", "n/a"]]) = [kept] := by
  decide

/-- In a header that lists a node's `_read` column before its `_write` column, the domain gets
the read count as its write count and the other way round. -/
theorem readRaftStats_by_position :
    let header := ["timestamp", "933ca51d2bb602b8_read", "933ca51d2bb602b8_write"]
    let lastRow := ["1700000000", "1", "2"]
    readRaftStats .init (some [header, lastRow]) = [⟨"933ca51d2bb602b8", "192.168.0.38", 1, 2, 1⟩] ∧
      header[2]? = some ("933ca51d2bb602b8" ++ "_write") ∧ intAt lastRow 2 = .ok 2 :=
  ⟨by decide, rfl, rfl⟩

/-- In the layout of the docstring, `timestamp, n1_write, n1_read, ...` with ids that do not
contain `_write`, every domain `read_raft_stats` returns holds the last row's cells in the
columns named after its id: by position is then by name. -/
theorem readRaftStats_by_name (self : OptimalLeaderCalculator) {ids : List String}
    (hids : ∀ n ∈ ids, ¬ "_write".data <:+: n.data) (timestamp : String)
    (rows : List (List String)) :
    let header := timestamp :: ids.flatMap fun n => [n ++ "_write", n ++ "_read"]
    ∀ d ∈ readRaftStats self (some (header :: rows)), ∃ j,
      header[j]? = some (d.id ++ "_write") ∧
        intAt ((header :: rows).getLastD []) j = .ok d.writeRequests ∧
        header[j + 1]? = some (d.id ++ "_read") ∧
        intAt ((header :: rows).getLastD []) (j + 1) = .ok d.readRequests := by
  intro header d hd
  simp only [readRaftStats, List.headD_cons, nodeIdsOf_interleaved hids] at hd
  split_ifs at hd
  · simp at hd
  · simp at hd
  obtain ⟨i, hi, hw, hr⟩ := mem_parseNodes hd
  obtain ⟨hwrite, hread⟩ := getElem?_flatMap_pair (· ++ "_write") (· ++ "_read") ids i
  refine ⟨2 * i + 1, ?_, by rwa [Nat.add_comm], ?_, by rwa [Nat.add_comm]⟩
  · simp [header, hwrite, hi]
  · simp [header, hread, hi]

theorem readRaftStats_by_name_in_layout :
    (∀ n ∈ ["933ca51d2bb602b8"], ¬ "_write".data <:+: n.data) ∧
    let header := "timestamp" :: ["933ca51d2bb602b8"].flatMap fun n => [n ++ "_write", n ++ "_read"]
    ∀ d ∈ readRaftStats .init (some (header :: [["1700000000", "2", "1"]])), ∃ j,
      header[j]? = some (d.id ++ "_write") ∧
        intAt ((header :: [["1700000000", "2", "1"]]).getLastD []) j = .ok d.writeRequests ∧
        header[j + 1]? = some (d.id ++ "_read") ∧
        intAt ((header :: [["1700000000", "2", "1"]]).getLastD []) (j + 1) = .ok d.readRequests :=
  ⟨by decide, readRaftStats_by_name .init (by decide) "timestamp" [["1700000000", "2", "1"]]⟩

end PRaft.MoveLeader
