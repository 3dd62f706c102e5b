import Mathlib.Data.List.Nodup
import Mathlib.Logic.Relation
import MeshNodeDB.Boot

/-! # The peer table over runs

The steps of the firmware that read or write the catalog without resetting it, as one
relation, and the two things every such step keeps: keys pairwise distinct within the
array's capacity (`TableOk`), and a table that only grows at its end, whose records never
move, change key or lose a presence flag (`Grows`). Both follow from one fact: a step
leaves the table alone or `upsert`s one key. -/

namespace MeshNodeDB
namespace NodeDB

variable (P : Platform) (hw : Hardware)

/-- One step on the catalog short of a reset: `getOrCreateNode`, the three updates,
`pickNewNodeNum`, `init`'s own-entry insertion, and all of `init` after `loadFromDisk`
when the loaded record asks for no factory reset. -/
inductive CatalogStep : NodeDB → NodeDB → Prop
  | getOrCreateNode {db : NodeDB} {n : NodeNum} {i : Nat} {nodes : List NodeInfo} :
      getOrCreateNode P db.devicestate.nodeDb n = .ok (i, nodes) →
      CatalogStep db (db.setNodes nodes)
  | updatePosition {db db' : NodeDB} {n : NodeNum} {p : Position} :
      updatePosition P db n p = .ok db' → CatalogStep db db'
  | updateUser {db db' : NodeDB} {n : NodeNum} {u : User} :
      updateUser P db n u = .ok db' → CatalogStep db db'
  | updateFrom {db db' : NodeDB} {mp : MeshPacket} :
      updateFrom P db mp = .ok db' → CatalogStep db db'
  | pickNewNodeNum {db db' : NodeDB} {fuel : Nat} :
      pickNewNodeNum P hw fuel db = .ok db' → CatalogStep db db'
  | insertOwner {db db' : NodeDB} : insertOwner P db = .ok db' → CatalogStep db db'
  | initFromLoaded {db db' : NodeDB} {fuel : Nat} :
      db.devicestate.radio.preferences.factoryReset = false →
      initFromLoaded P hw fuel db = .ok db' → CatalogStep db db'

variable {P hw}

theorem CatalogStep.table {db db' : NodeDB} (h : CatalogStep P hw db db') :
    db'.devicestate.nodeDb = db.devicestate.nodeDb ∨
      ∃ n w i, upsert P n w db.devicestate.nodeDb = .ok (i, db'.devicestate.nodeDb) := by
  cases h with
  | getOrCreateNode h => exact .inr ⟨_, _, _, upsert_keep h⟩
  | updatePosition h =>
    obtain ⟨⟨i, hu⟩, -⟩ := updatePosition_ok h
    exact .inr ⟨_, _, _, hu⟩
  | updateUser h =>
    obtain ⟨⟨i, hu⟩, -⟩ := updateUser_ok h
    exact .inr ⟨_, _, _, hu⟩
  | updateFrom h =>
    rcases (updateFrom_ok h).1 with h' | ⟨p, i, -, hu⟩
    · exact .inl h'
    · exact .inr ⟨_, _, _, hu⟩
  | pickNewNodeNum h => exact .inl (by rw [pickNewNodeNum_devicestate h])
  | insertOwner h =>
    obtain ⟨i, hu, -⟩ := insertOwner_ok P h
    exact .inr ⟨_, _, _, hu⟩
  | initFromLoaded hf h => exact .inr (initFromLoaded_upsert P hw hf h)

/-! ## Distinct keys within capacity -/

/-- The representation invariant of the table: pairwise distinct keys, and no more records
than the `node_db` array holds. -/
structure TableOk (P : Platform) (nodes : List NodeInfo) : Prop where
  nodup : (keys nodes).Nodup
  length_le : nodes.length ≤ P.maxNumNodes

section tableOk

variable {nodes nodes' : List NodeInfo} {n : NodeNum} {w : Rewrite} {i : Nat}

theorem TableOk.nil : TableOk P [] := ⟨List.nodup_nil, Nat.zero_le _⟩

theorem TableOk.upsert (hok : TableOk P nodes) (h : upsert P n w nodes = .ok (i, nodes')) :
    TableOk P nodes' where
  nodup := by
    rcases upsert_keys h with h' | ⟨h', hn⟩ <;> rw [h']
    · exact hok.nodup
    · exact hok.nodup.append (List.nodup_singleton n) (List.disjoint_singleton.2 hn)
  length_le := by
    obtain ⟨base, hb, rfl⟩ := upsert_eq_ok.1 h
    rw [List.length_modify]
    exact (getOrCreateNode_length hb).trans (max_le hok.length_le le_rfl)

theorem TableOk.getNode_num (hok : TableOk P nodes) {j : Nat} (hj : j < nodes.length) :
    getNode nodes nodes[j].num = some j := by
  refine getNode_eq_some.2 ⟨hj, rfl, fun k hk e => absurd ?_ (Nat.ne_of_lt hk)⟩
  have hk' : k < (keys nodes).length := by simp only [length_keys]; omega
  have hj' : j < (keys nodes).length := by simpa using hj
  have e' : (keys nodes).get ⟨k, hk'⟩ = (keys nodes).get ⟨j, hj'⟩ := by simpa [keys] using e
  exact congrArg Fin.val (List.nodup_iff_injective_get.1 hok.nodup e')

theorem TableOk.getOrCreateNode_error (hok : TableOk P nodes) {e : Halt}
    (h : getOrCreateNode P nodes n = .error e) :
    n ∉ keys nodes ∧ nodes.length = P.maxNumNodes := by
  obtain ⟨-, hn, hle⟩ := getOrCreateNode_eq_error.1 h
  exact ⟨hn, Nat.le_antisymm hok.length_le hle⟩

end tableOk

theorem CatalogStep.tableOk {db db' : NodeDB} (h : CatalogStep P hw db db')
    (hok : TableOk P db.devicestate.nodeDb) : TableOk P db'.devicestate.nodeDb := by
  rcases h.table with e | ⟨n, w, i, hu⟩
  · rwa [e]
  · exact hok.upsert hu

theorem CatalogStep.run_tableOk {db db' : NodeDB}
    (hrun : Relation.ReflTransGen (CatalogStep P hw) db db')
    (hok : TableOk P db.devicestate.nodeDb) : TableOk P db'.devicestate.nodeDb := by
  induction hrun with
  | refl => exact hok
  | tail _ step ih => exact step.tableOk ih

/-- Peer-table representation invariant: from a freshly installed default record, or from
a loaded table with distinct keys (`node_db` is an array of `MAX_NUM_NODES` records, so a
loaded table never holds more), every run of catalog steps keeps the keys distinct and the
count within `MAX_NUM_NODES`; so `getNode` finds each record under its own key, and
`getOrCreateNode` fails only on an absent key when the table is full. -/
theorem catalog_run_keys_distinct {db₀ db : NodeDB}
    (h₀ : (∃ fuel dbOld, installDefaultDeviceState P hw fuel dbOld = .ok db₀) ∨
      ((keys db₀.devicestate.nodeDb).Nodup ∧ db₀.devicestate.nodeDb.length ≤ P.maxNumNodes))
    (hrun : Relation.ReflTransGen (CatalogStep P hw) db₀ db) :
    (keys db.devicestate.nodeDb).Nodup ∧ db.devicestate.nodeDb.length ≤ P.maxNumNodes ∧
      (∀ j (hj : j < db.devicestate.nodeDb.length),
        getNode db.devicestate.nodeDb db.devicestate.nodeDb[j].num = some j) ∧
      (∀ n e, getOrCreateNode P db.devicestate.nodeDb n = .error e →
        n ∉ keys db.devicestate.nodeDb ∧ db.devicestate.nodeDb.length = P.maxNumNodes) := by
  have hok₀ : TableOk P db₀.devicestate.nodeDb := by
    rcases h₀ with ⟨fuel, dbOld, h⟩ | ⟨hnd, hle⟩
    · rw [installDefaultDeviceState_nodeDb P hw h]; exact TableOk.nil
    · exact ⟨hnd, hle⟩
  have hok := CatalogStep.run_tableOk hrun hok₀
  exact ⟨hok.nodup, hok.length_le, fun j hj => hok.getNode_num hj,
    fun n e h => hok.getOrCreateNode_error h⟩

/-- The default record, then a first sender appended by `getOrCreateNode(5)`. -/
theorem catalog_run_keys_distinct_install :
    let nodes : List NodeInfo := [{ num := 5 }]
    (keys nodes).Nodup ∧ nodes.length ≤ Platform.demo.maxNumNodes ∧
      (∀ j (hj : j < nodes.length), getNode nodes nodes[j].num = some j) ∧
      (∀ n e, getOrCreateNode Platform.demo nodes n = .error e →
        n ∉ keys nodes ∧ nodes.length = Platform.demo.maxNumNodes) :=
  @catalog_run_keys_distinct Platform.demo Hardware.demo _ _
    (.inl ⟨0, {}, installDefaultDeviceState_record Platform.demo Hardware.demo 0 {}⟩)
    (.single (.getOrCreateNode (n := 5) (i := 0) rfl))

/-! ## The table only grows between resets -/

/-- `y` is the record `x` after writes that kept its key and cleared no presence flag. -/
structure Extends (x y : NodeInfo) : Prop where
  num_eq : y.num = x.num
  hasUser : x.hasUser → y.hasUser
  hasPosition : x.hasPosition → y.hasPosition

theorem Extends.refl (x : NodeInfo) : Extends x x := ⟨rfl, id, id⟩

theorem Rewrite.extends (w : Rewrite) (x : NodeInfo) : Extends x (w.apply x) :=
  ⟨w.num_apply x, w.hasUser_apply x, w.hasPosition_apply x⟩

/-- `b` only appends to `a`: no fewer records, and each old record at its index, extended. -/
structure Grows (a b : List NodeInfo) : Prop where
  length_le : a.length ≤ b.length
  keeps : ∀ (j : Nat) x, a[j]? = some x → ∃ y, b[j]? = some y ∧ Extends x y

theorem Grows.refl (a : List NodeInfo) : Grows a a :=
  ⟨le_rfl, fun _ x hx => ⟨x, hx, Extends.refl x⟩⟩

theorem upsert_grows {nodes nodes' : List NodeInfo} {n : NodeNum} {w : Rewrite} {i : Nat}
    (h : upsert P n w nodes = .ok (i, nodes')) : Grows nodes nodes' where
  length_le := by rw [upsert_length h]; omega
  keeps j x hx := by
    obtain ⟨hj, rfl⟩ := List.getElem?_eq_some_iff.1 hx
    obtain ⟨hj', he⟩ := upsert_getElem h j hj
    refine ⟨_, List.getElem?_eq_getElem hj', ?_⟩
    rw [he]
    split
    · exact w.extends _
    · exact Extends.refl _

/-- Between whole-catalog resets every step only appends: the count never drops, and each
record present before the step keeps its index and key and clears no presence flag. -/
theorem catalogStep_only_appends {db db' : NodeDB} (h : CatalogStep P hw db db') :
    Grows db.devicestate.nodeDb db'.devicestate.nodeDb := by
  rcases h.table with e | ⟨n, w, i, hu⟩
  · rw [e]; exact Grows.refl _
  · exact upsert_grows hu

theorem catalogStep_only_appends_create : Grows [] [{ num := 5 }] :=
  @catalogStep_only_appends Platform.demo ⟨Mathlib.Vector.replicate 6 0, fun _ => 0⟩ {} _
    (.getOrCreateNode (n := 5) (i := 0) rfl)

end NodeDB
end MeshNodeDB
