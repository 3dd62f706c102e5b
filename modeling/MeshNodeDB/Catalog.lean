import MeshNodeDB.Types

/-! # Lookup and upsert in the peer catalog

`getNode` and `getOrCreateNode` over `node_db[0 .. node_db_count)`. Every catalog update
is built from them: find or append the record keyed `n`, then rewrite it through the
pointer `getOrCreateNode` returned. A `Rewrite` never changes a record's key, so the key
column alone decides every later lookup; `upsert` is that pattern, and its lemmas say what
it does to the table as a list and as a finite map from keys to records. -/

namespace MeshNodeDB
namespace NodeDB

def keys (nodes : List NodeInfo) : List NodeNum := nodes.map (·.num)

/-- `NodeDB::getNode`: the index of the first record keyed `n`, or `NULL`. -/
def getNode (nodes : List NodeInfo) (n : NodeNum) : Option Nat :=
  nodes.findIdx? (·.num == n)

/-- `NodeDB::getOrCreateNode`: the index of the record keyed `n`; when there is none, after
`assert(*numNodes < MAX_NUM_NODES)`, a zeroed record keyed `n` is appended at `*numNodes`. -/
def getOrCreateNode (P : Platform) (nodes : List NodeInfo) (n : NodeNum) :
    Except Halt (Nat × List NodeInfo) :=
  match getNode nodes n with
  | some i => .ok (i, nodes)
  | none =>
    if nodes.length < P.maxNumNodes then .ok (nodes.length, nodes ++ [{ num := n }])
    else .error .assertFailed

/-- The record `getNode` finds for `k`: the catalog read as a finite map. -/
def lookup (nodes : List NodeInfo) (k : NodeNum) : Option NodeInfo :=
  (getNode nodes k).bind (nodes[·]?)

@[simp] theorem keys_append (a b : List NodeInfo) : keys (a ++ b) = keys a ++ keys b :=
  List.map_append _ _ _

@[simp] theorem keys_singleton (x : NodeInfo) : keys [x] = [x.num] := rfl

@[simp] theorem length_keys (nodes : List NodeInfo) : (keys nodes).length = nodes.length :=
  List.length_map _ _

theorem getNode_eq_findIdx_keys (nodes : List NodeInfo) (n : NodeNum) :
    getNode nodes n = (keys nodes).findIdx? (· == n) := by
  simp only [getNode, keys, List.findIdx?_map]; rfl

theorem getNode_congr {a b : List NodeInfo} (h : keys a = keys b) (n : NodeNum) :
    getNode a n = getNode b n := by
  rw [getNode_eq_findIdx_keys, getNode_eq_findIdx_keys, h]

theorem getNode_eq_none {nodes : List NodeInfo} {n : NodeNum} :
    getNode nodes n = none ↔ n ∉ keys nodes := by
  simp [getNode, keys, List.findIdx?_eq_none_iff]

theorem getNode_eq_some {nodes : List NodeInfo} {n : NodeNum} {i : Nat} :
    getNode nodes n = some i ↔
      ∃ h : i < nodes.length, nodes[i].num = n ∧ ∀ j (hj : j < i), nodes[j].num ≠ n := by
  simp [getNode, List.findIdx?_eq_some_iff_getElem]

theorem getNode_lt {nodes : List NodeInfo} {n : NodeNum} {i : Nat}
    (h : getNode nodes n = some i) : i < nodes.length :=
  (getNode_eq_some.1 h).1

theorem getNode_append_of_none {nodes : List NodeInfo} {n : NodeNum} (x : NodeInfo)
    (h : getNode nodes n = none) (hx : x.num = n) :
    getNode (nodes ++ [x]) n = some nodes.length := by
  have h' : nodes.findIdx? (·.num == n) = none := h
  simp [getNode, List.findIdx?_append, h', hx]

theorem getNode_append_of_ne {nodes : List NodeInfo} {k : NodeNum} (x : NodeInfo)
    (hx : x.num ≠ k) : getNode (nodes ++ [x]) k = getNode nodes k := by
  simp [getNode, List.findIdx?_append, hx]

theorem lookup_eq_none {nodes : List NodeInfo} {k : NodeNum} :
    lookup nodes k = none ↔ k ∉ keys nodes := by
  rw [← getNode_eq_none]
  cases h : getNode nodes k with
  | none => simp [lookup, h]
  | some i => simp [lookup, h, getNode_lt h]

/-! ## `getOrCreateNode` -/

section getOrCreateNode

variable {P : Platform} {nodes nodes' : List NodeInfo} {n : NodeNum} {i : Nat}

/-- Everything `getOrCreateNode` can do: return the slot it found, or append one. -/
theorem getOrCreateNode_eq_ok :
    getOrCreateNode P nodes n = .ok (i, nodes') ↔
      (getNode nodes n = some i ∧ nodes' = nodes) ∨
      (getNode nodes n = none ∧ nodes.length < P.maxNumNodes ∧ i = nodes.length ∧
        nodes' = nodes ++ [{ num := n }]) := by
  cases hj : getNode nodes n with
  | some j => simp [getOrCreateNode, hj, eq_comm, and_comm]
  | none =>
    by_cases hlt : nodes.length < P.maxNumNodes <;> simp [getOrCreateNode, hj, hlt, eq_comm]

theorem getOrCreateNode_eq_error {e : Halt} :
    getOrCreateNode P nodes n = .error e ↔
      e = .assertFailed ∧ n ∉ keys nodes ∧ P.maxNumNodes ≤ nodes.length := by
  cases hj : getNode nodes n with
  | some j => simp [getOrCreateNode, hj, ← getNode_eq_none]
  | none =>
    by_cases hlt : nodes.length < P.maxNumNodes <;>
      simp [getOrCreateNode, hj, hlt, ← getNode_eq_none, eq_comm]
    exact fun _ => Nat.le_of_not_lt hlt

theorem getOrCreateNode_getNode (h : getOrCreateNode P nodes n = .ok (i, nodes')) :
    getNode nodes' n = some i := by
  rcases getOrCreateNode_eq_ok.1 h with ⟨hi, rfl⟩ | ⟨hn, -, rfl, rfl⟩
  · exact hi
  · exact getNode_append_of_none _ hn rfl

theorem getOrCreateNode_lt (h : getOrCreateNode P nodes n = .ok (i, nodes')) :
    i < nodes'.length :=
  getNode_lt (getOrCreateNode_getNode h)

theorem getOrCreateNode_keys (h : getOrCreateNode P nodes n = .ok (i, nodes')) :
    keys nodes' = keys nodes ∨ (keys nodes' = keys nodes ++ [n] ∧ n ∉ keys nodes) := by
  rcases getOrCreateNode_eq_ok.1 h with ⟨-, rfl⟩ | ⟨hn, -, -, rfl⟩
  · exact .inl rfl
  · exact .inr ⟨by simp, getNode_eq_none.1 hn⟩

theorem getOrCreateNode_length (h : getOrCreateNode P nodes n = .ok (i, nodes')) :
    nodes'.length ≤ max nodes.length P.maxNumNodes := by
  rcases getOrCreateNode_eq_ok.1 h with ⟨-, rfl⟩ | ⟨-, hlt, -, rfl⟩
  · exact le_max_left _ _
  · simp only [List.length_append, List.length_singleton]; omega

theorem getOrCreateNode_of_getNode (h : getNode nodes n = some i) :
    getOrCreateNode P nodes n = .ok (i, nodes) := by
  simp [getOrCreateNode, h]

end getOrCreateNode

/-- `getNode n` is the least index keyed `n`, and `NULL` exactly when no record is keyed
`n`; `getOrCreateNode n` returns that index and leaves the table alone, and otherwise,
below capacity, writes a zeroed record keyed `n` at index `*numNodes`, one more record,
every record below it unchanged; at capacity its assertion fails. -/
theorem getOrCreateNode_spec (P : Platform) (nodes : List NodeInfo) (n : NodeNum) :
    (∀ i, getNode nodes n = some i ↔
      ∃ h : i < nodes.length, nodes[i].num = n ∧ ∀ j (hj : j < i), nodes[j].num ≠ n) ∧
    (getNode nodes n = none ↔ ∀ i (h : i < nodes.length), nodes[i].num ≠ n) ∧
    (∀ i, getNode nodes n = some i → getOrCreateNode P nodes n = .ok (i, nodes)) ∧
    (getNode nodes n = none → nodes.length < P.maxNumNodes →
      ∃ nodes', getOrCreateNode P nodes n = .ok (nodes.length, nodes') ∧
        nodes'.length = nodes.length + 1 ∧ nodes'[nodes.length]? = some { num := n } ∧
        ∀ j < nodes.length, nodes'[j]? = nodes[j]?) ∧
    (getNode nodes n = none → P.maxNumNodes ≤ nodes.length →
      getOrCreateNode P nodes n = .error .assertFailed) := by
  refine ⟨fun i => getNode_eq_some, ?_, fun i => getOrCreateNode_of_getNode, fun h hlt => ?_,
    fun h hfull => getOrCreateNode_eq_error.2 ⟨rfl, getNode_eq_none.1 h, hfull⟩⟩
  · simp [getNode_eq_none, keys, List.mem_iff_getElem]
  · refine ⟨_, getOrCreateNode_eq_ok.2 (.inr ⟨h, hlt, rfl, rfl⟩), by simp, by simp, ?_⟩
    exact fun j hj => List.getElem?_append_left hj

theorem getOrCreateNode_spec_append :
    ∃ nodes', getOrCreateNode Platform.demo [{ num := 7 }] 5 = .ok (1, nodes') ∧
      nodes'.length = 2 ∧ nodes'[1]? = some { num := 5 } ∧
      ∀ j < 1, nodes'[j]? = [({ num := 7 } : NodeInfo)][j]? :=
  (getOrCreateNode_spec Platform.demo [{ num := 7 }] 5).2.2.2.1 rfl (by decide)

/-! ## Rewrites through the returned pointer -/

/-- A write of this file through the pointer `getOrCreateNode` returned: it keeps the
record's key and never clears its presence flags. -/
structure Rewrite where
  apply : NodeInfo → NodeInfo
  num_apply : ∀ x, (apply x).num = x.num
  hasUser_apply : ∀ x, x.hasUser → (apply x).hasUser
  hasPosition_apply : ∀ x, x.hasPosition → (apply x).hasPosition

def Rewrite.keep : Rewrite := ⟨id, fun _ => rfl, fun _ h => h, fun _ h => h⟩

def Rewrite.andThen (r s : Rewrite) : Rewrite :=
  ⟨s.apply ∘ r.apply, fun x => by simp [r.num_apply, s.num_apply],
    fun x h => s.hasUser_apply _ (r.hasUser_apply x h),
    fun x h => s.hasPosition_apply _ (r.hasPosition_apply x h)⟩

@[simp] theorem Rewrite.andThen_apply (r s : Rewrite) (x : NodeInfo) :
    (r.andThen s).apply x = s.apply (r.apply x) := rfl

@[simp] theorem keys_modify (w : Rewrite) (nodes : List NodeInfo) (i : Nat) :
    keys (nodes.modify w.apply i) = keys nodes := by
  apply List.ext_getElem (by simp)
  intro j h1 h2
  simp only [keys, List.getElem_map, List.getElem_modify]
  split <;> simp [w.num_apply]

theorem getNode_modify (w : Rewrite) (nodes : List NodeInfo) (i : Nat) (n : NodeNum) :
    getNode (nodes.modify w.apply i) n = getNode nodes n :=
  getNode_congr (keys_modify w nodes i) n

theorem getOrCreateNode_modify {P : Platform} {nodes nodes' : List NodeInfo} {n : NodeNum}
    {i : Nat} (w : Rewrite) (h : getOrCreateNode P nodes n = .ok (i, nodes')) :
    getOrCreateNode P (nodes'.modify w.apply i) n = .ok (i, nodes'.modify w.apply i) :=
  getOrCreateNode_of_getNode (by rw [getNode_modify]; exact getOrCreateNode_getNode h)

theorem modify_append_of_lt {α : Type} {f : α → α} {l r : List α} {i : Nat}
    (h : i < l.length) : (l ++ r).modify f i = l.modify f i ++ r := by
  induction l generalizing i with
  | nil => cases h
  | cons a l ih =>
    cases i with
    | zero => rfl
    | succ i => simp [ih (Nat.lt_of_succ_lt_succ h)]

theorem modify_append_length {α : Type} (f : α → α) (l : List α) (x : α) :
    (l ++ [x]).modify f l.length = l ++ [f x] := by
  induction l with
  | nil => rfl
  | cons a l ih => simp [ih]

theorem modify_of_fixed {α : Type} {f : α → α} {l : List α} {i : Nat}
    (h : ∀ x, l[i]? = some x → f x = x) : l.modify f i = l := by
  apply List.ext_getElem?
  intro j
  rw [List.getElem?_modify]
  split
  · rename_i hij
    subst hij
    cases hl : l[i]? with
    | none => rfl
    | some x => simp [h x hl]
  · simp

/-! ## `upsert`: find or append, then rewrite -/

/-- Find or append the record keyed `n`, then rewrite it by `w`: what each catalog update
does to the table. -/
def upsert (P : Platform) (n : NodeNum) (w : Rewrite) (nodes : List NodeInfo) :
    Except Halt (Nat × List NodeInfo) :=
  (getOrCreateNode P nodes n).map fun (i, base) => (i, base.modify w.apply i)

section upsert

variable {P : Platform} {nodes nodes' : List NodeInfo} {n : NodeNum} {w : Rewrite} {i : Nat}

theorem upsert_eq_ok :
    upsert P n w nodes = .ok (i, nodes') ↔
      ∃ base, getOrCreateNode P nodes n = .ok (i, base) ∧ nodes' = base.modify w.apply i := by
  unfold upsert
  cases getOrCreateNode P nodes n with
  | error e => simp [Except.map]
  | ok r =>
    obtain ⟨j, base⟩ := r
    simp only [Except.map, Except.ok.injEq, Prod.mk.injEq]
    constructor
    · rintro ⟨rfl, rfl⟩; exact ⟨base, ⟨rfl, rfl⟩, rfl⟩
    · rintro ⟨b, ⟨rfl, rfl⟩, rfl⟩; exact ⟨rfl, rfl⟩

theorem upsert_eq_error {e : Halt} :
    upsert P n w nodes = .error e ↔ getOrCreateNode P nodes n = .error e := by
  unfold upsert
  cases getOrCreateNode P nodes n <;> simp [Except.map]

theorem upsert_getNode (h : upsert P n w nodes = .ok (i, nodes')) :
    getNode nodes' n = some i := by
  obtain ⟨base, hb, rfl⟩ := upsert_eq_ok.1 h
  rw [getNode_modify]; exact getOrCreateNode_getNode hb

theorem upsert_keys (h : upsert P n w nodes = .ok (i, nodes')) :
    keys nodes' = keys nodes ∨ (keys nodes' = keys nodes ++ [n] ∧ n ∉ keys nodes) := by
  obtain ⟨base, hb, rfl⟩ := upsert_eq_ok.1 h
  rw [keys_modify]; exact getOrCreateNode_keys hb

theorem upsert_mem_keys (h : upsert P n w nodes = .ok (i, nodes')) {k : NodeNum}
    (hk : k ∈ keys nodes') : k ∈ keys nodes ∨ k = n := by
  rcases upsert_keys h with e | ⟨e, -⟩ <;> rw [e] at hk
  · exact .inl hk
  · simpa using hk

theorem upsert_mem_self (h : upsert P n w nodes = .ok (i, nodes')) : n ∈ keys nodes' := by
  by_contra hn
  rw [← getNode_eq_none, upsert_getNode h] at hn
  cases hn

theorem upsert_keep (h : getOrCreateNode P nodes n = .ok (i, nodes')) :
    upsert P n Rewrite.keep nodes = .ok (i, nodes') :=
  upsert_eq_ok.2 ⟨nodes', h, (List.modify_id i nodes').symm⟩

theorem upsert_upsert (v : Rewrite) (h : upsert P n w nodes = .ok (i, nodes')) :
    upsert P n v nodes' = .ok (i, nodes'.modify v.apply i) := by
  obtain ⟨base, hb, rfl⟩ := upsert_eq_ok.1 h
  exact upsert_eq_ok.2 ⟨_, getOrCreateNode_modify w hb, rfl⟩

theorem upsert_idem (hw : ∀ x, w.apply (w.apply x) = w.apply x)
    (h : upsert P n w nodes = .ok (i, nodes')) : upsert P n w nodes' = .ok (i, nodes') := by
  obtain ⟨base, hb, rfl⟩ := upsert_eq_ok.1 h
  refine (upsert_upsert w h).trans ?_
  rw [List.modify_modify_eq]
  congr
  funext x
  exact hw x

theorem upsert_getElem (h : upsert P n w nodes = .ok (i, nodes')) (j : Nat)
    (hj : j < nodes.length) :
    ∃ hj' : j < nodes'.length,
      nodes'[j] = if i = j then w.apply nodes[j] else nodes[j] := by
  obtain ⟨base, hb, rfl⟩ := upsert_eq_ok.1 h
  have hbase : ∃ hb' : j < base.length, base[j] = nodes[j] := by
    rcases getOrCreateNode_eq_ok.1 hb with ⟨-, rfl⟩ | ⟨-, -, -, rfl⟩
    · exact ⟨hj, rfl⟩
    · exact ⟨by simp; omega, List.getElem_append_left hj⟩
  obtain ⟨hb', hbj⟩ := hbase
  exact ⟨by simpa using hb', by rw [List.getElem_modify, hbj]⟩

def fresh (nodes : List NodeInfo) (n : NodeNum) : Nat := if n ∈ keys nodes then 0 else 1

theorem upsert_length (h : upsert P n w nodes = .ok (i, nodes')) :
    nodes'.length = nodes.length + fresh nodes n := by
  have hmem := upsert_mem_self h
  rw [← length_keys, ← length_keys nodes, fresh]
  rcases upsert_keys h with h' | ⟨h', hn⟩
  · rw [h'] at hmem ⊢; simp [hmem]
  · simp [h', hn]

theorem upsert_of_getNode (h : getNode nodes n = some i) :
    upsert P n w nodes = .ok (i, nodes.modify w.apply i) :=
  upsert_eq_ok.2 ⟨nodes, getOrCreateNode_of_getNode h, rfl⟩

theorem upsert_of_none (h : getNode nodes n = none) (hlt : nodes.length < P.maxNumNodes) :
    upsert P n w nodes = .ok (nodes.length, nodes ++ [w.apply { num := n }]) := by
  refine upsert_eq_ok.2 ⟨_, getOrCreateNode_eq_ok.2 (.inr ⟨h, hlt, rfl, rfl⟩), ?_⟩
  rw [modify_append_length]

/-- The table `upsert n w` leaves when it succeeds: the record keyed `n` rewritten in
place, or a new one appended. -/
def upserted (n : NodeNum) (w : Rewrite) (nodes : List NodeInfo) : List NodeInfo :=
  match getNode nodes n with
  | some i => nodes.modify w.apply i
  | none => nodes ++ [w.apply { num := n }]

theorem upsert_table (h : upsert P n w nodes = .ok (i, nodes')) :
    nodes' = upserted n w nodes := by
  cases hg : getNode nodes n with
  | some j =>
    rw [upsert_of_getNode hg] at h
    cases h
    simp [upserted, hg]
  | none =>
    obtain ⟨base, hb, rfl⟩ := upsert_eq_ok.1 h
    rcases getOrCreateNode_eq_ok.1 hb with ⟨h', -⟩ | ⟨-, -, rfl, rfl⟩
    · rw [hg] at h'; cases h'
    · simp [upserted, hg, modify_append_length]

theorem upserted_of_getNode (h : getNode nodes n = some i) :
    upserted n w nodes = nodes.modify w.apply i := by
  simp [upserted, h]

theorem upserted_of_none (h : getNode nodes n = none) :
    upserted n w nodes = nodes ++ [w.apply { num := n }] := by
  simp [upserted, h]

theorem length_upserted : (upserted n w nodes).length = nodes.length + fresh nodes n := by
  cases hg : getNode nodes n with
  | some i => simp [upserted_of_getNode hg, fresh, ← getNode_eq_none, hg]
  | none => simp [upserted_of_none hg, fresh, getNode_eq_none.1 hg]

theorem getNode_upserted_ne {k : NodeNum} (hne : n ≠ k) :
    getNode (upserted n w nodes) k = getNode nodes k := by
  cases hg : getNode nodes n with
  | some i => rw [upserted_of_getNode hg, getNode_modify]
  | none => rw [upserted_of_none hg, getNode_append_of_ne _ (by rwa [w.num_apply])]

theorem fresh_upserted_ne {k : NodeNum} (hne : n ≠ k) :
    fresh (upserted n w nodes) k = fresh nodes k := by
  have hk : k ∈ keys (upserted n w nodes) ↔ k ∈ keys nodes := by
    rw [← not_iff_not, ← getNode_eq_none, ← getNode_eq_none, getNode_upserted_ne hne]
  simp only [fresh, hk]

theorem getElem?_upserted_of_num_ne {j : Nat} (hj : j < nodes.length) (hne : nodes[j].num ≠ n) :
    (upserted n w nodes)[j]? = nodes[j]? := by
  cases hg : getNode nodes n with
  | some i =>
    have hij : i ≠ j := by
      rintro rfl
      exact hne (getNode_eq_some.1 hg).2.1
    rw [upserted_of_getNode hg, List.getElem?_modify_ne _ _ hij]
  | none => rw [upserted_of_none hg, List.getElem?_append_left hj]

/-- As a finite map, `upserted n w` writes `w` of the record `getOrCreateNode n` hands out at
`n`, and nothing else. -/
theorem lookup_upserted (k : NodeNum) :
    lookup (upserted n w nodes) k =
      if k = n then some (w.apply ((lookup nodes n).getD { num := n })) else lookup nodes k := by
  split_ifs with hk
  · subst hk
    cases hg : getNode nodes k with
    | some i =>
      have hi := getNode_lt hg
      simp [lookup, upserted_of_getNode hg, getNode_modify, hg, hi]
    | none =>
      rw [lookup, upserted_of_none hg,
        getNode_append_of_none (w.apply { num := k }) hg (w.num_apply _)]
      simp [lookup, hg]
  · have hne : n ≠ k := Ne.symm hk
    cases hg : getNode nodes k with
    | none => simp [lookup, getNode_upserted_ne hne, hg]
    | some j =>
      obtain ⟨hj, hnum, -⟩ := getNode_eq_some.1 hg
      simp only [lookup, getNode_upserted_ne hne, hg, Option.some_bind]
      exact getElem?_upserted_of_num_ne hj (hnum ▸ hk)

theorem upsert_ok_of_room (hroom : nodes.length + fresh nodes n ≤ P.maxNumNodes) :
    ∃ i, upsert P n w nodes = .ok (i, upserted n w nodes) := by
  cases hg : getNode nodes n with
  | some i => exact ⟨i, by simp [upsert_of_getNode hg, upserted, hg]⟩
  | none =>
    have hf : fresh nodes n = 1 := if_neg (getNode_eq_none.1 hg)
    have hlt : nodes.length < P.maxNumNodes := by omega
    exact ⟨nodes.length, by rw [upsert_of_none hg hlt]; simp [upserted, hg]⟩

end upsert

end NodeDB
end MeshNodeDB
