import Mathlib.Data.Finset.Card
import MeshNodeDB.Invariants
import MeshNodeDB.Order

/-! # The catalog as a finite map

What the peer catalog is for: a finite map from node numbers to records, on which an update
rewrites the record of the node it names, or a zeroed one keyed by it, and no other. The
array with its count and its first-match `getNode` refines that map: after any sequence of
updates that runs to the end, `getNode` finds under every key the record the map holds. A
sequence runs to the end exactly when the keys already present and the nodes it writes to
fit in `MAX_NUM_NODES`; otherwise the assertion in `getOrCreateNode` stops it. -/

namespace MeshNodeDB
namespace NodeDB

/-- What an update means on the map: the record of its node, or a zeroed one keyed by it,
rewritten; an update without a write leaves the map as it is. -/
def Update.absRun (u : Update) (m : NodeNum → Option NodeInfo) : NodeNum → Option NodeInfo :=
  match u.rewrite with
  | none => m
  | some w =>
    Function.update m u.nodeId (some (w.apply ((m u.nodeId).getD { num := u.nodeId })))

def Update.absRunAll (m : NodeNum → Option NodeInfo) (us : List Update) :
    NodeNum → Option NodeInfo :=
  us.foldl (fun m u => u.absRun m) m

def Update.written (us : List Update) : List NodeNum :=
  us.filterMap fun u => u.rewrite.map fun _ => u.nodeId

theorem Update.written_cons (u : Update) (us : List Update) :
    Update.written (u :: us) = Update.written [u] ++ Update.written us := by
  simp only [Update.written, List.filterMap_cons, List.filterMap_nil]
  cases u.rewrite <;> rfl

variable {P : Platform}

theorem Update.runAll_cons_eq_ok {u : Update} {us : List Update} {db db' : NodeDB} :
    Update.runAll P db (u :: us) = .ok db' ↔
      ∃ d, u.run P db = .ok d ∧ Update.runAll P d us = .ok db' := by
  cases h : u.run P db <;> simp [Update.runAll, h, bind, Except.bind]

theorem Update.run_table {u : Update} {db db' : NodeDB} (h : u.run P db = .ok db') :
    (u.rewrite = none ∧ db'.devicestate.nodeDb = db.devicestate.nodeDb) ∨
      ∃ w i, u.rewrite = some w ∧
        upsert P u.nodeId w db.devicestate.nodeDb = .ok (i, db'.devicestate.nodeDb) := by
  cases u with
  | updateFrom mp =>
    cases hp : mp.payload with
    | encrypted b =>
      rw [Update.run, updateFrom_encrypted hp] at h
      cases h
      exact .inl ⟨by simp [Update.rewrite, hp], rfl⟩
    | decoded p =>
      rw [Update.run, updateFrom_decoded hp, except_map_eq_ok] at h
      obtain ⟨⟨i, nodes⟩, hu, rfl⟩ := h
      exact .inr ⟨packetRewrite mp p, i, by simp [Update.rewrite, hp], by simpa using hu⟩
  | updatePosition n p =>
    obtain ⟨⟨i, hu⟩, -⟩ := updatePosition_ok h
    exact .inr ⟨_, i, rfl, hu⟩
  | updateUser n p =>
    obtain ⟨⟨i, hu⟩, -⟩ := updateUser_ok h
    exact .inr ⟨_, i, rfl, hu⟩

theorem Update.run_of_rewrite_none {u : Update} (hw : u.rewrite = none) (db : NodeDB) :
    u.run P db = .ok db := by
  cases u with
  | updateFrom mp =>
    cases hp : mp.payload with
    | encrypted b => exact updateFrom_encrypted hp
    | decoded p => simp [Update.rewrite, hp] at hw
  | updatePosition n p => cases hw
  | updateUser n p => cases hw

/-! ## Refinement -/

/-- One update refines its meaning on the map. -/
theorem Update.run_lookup {u : Update} {db db' : NodeDB} (h : u.run P db = .ok db') :
    lookup db'.devicestate.nodeDb = u.absRun (lookup db.devicestate.nodeDb) := by
  funext k
  rcases Update.run_table h with ⟨hn, e⟩ | ⟨w, i, hw, hu⟩
  · simp only [Update.absRun, hn, e]
  · rw [upsert_table hu, lookup_upserted]
    simp only [Update.absRun, hw, Function.update_apply]

/-- The table refines the finite map: after any sequence of updates that runs to the end,
`getNode` finds under every key the record the map semantics gives, whatever order the
records were appended in. -/
theorem Update.runAll_lookup {us : List Update} {db db' : NodeDB}
    (h : Update.runAll P db us = .ok db') :
    lookup db'.devicestate.nodeDb = Update.absRunAll (lookup db.devicestate.nodeDb) us := by
  induction us generalizing db with
  | nil => cases h; rfl
  | cons u us ih =>
    obtain ⟨d, hd, h'⟩ := Update.runAll_cons_eq_ok.1 h
    rw [ih h', Update.run_lookup hd]
    rfl

theorem Update.runAll_lookup_position :
    ∃ db', Update.runAll Platform.demo {} [.updatePosition 5 {}] = .ok db' ∧
      lookup db'.devicestate.nodeDb =
        Update.absRunAll (lookup ({} : NodeDB).devicestate.nodeDb) [.updatePosition 5 {}] :=
  ⟨_, rfl, Update.runAll_lookup (P := Platform.demo) rfl⟩

/-! ## Capacity -/

theorem Update.run_keys_toFinset {u : Update} {db db' : NodeDB} (h : u.run P db = .ok db') :
    (keys db'.devicestate.nodeDb).toFinset =
      (keys db.devicestate.nodeDb ++ Update.written [u]).toFinset := by
  rcases Update.run_table h with ⟨hn, e⟩ | ⟨w, i, hw, hu⟩
  · simp [e, Update.written, hn]
  · have hmem := upsert_mem_self hu
    rcases upsert_keys hu with e | ⟨e, -⟩
    · rw [e] at hmem ⊢
      ext k
      simp only [List.mem_toFinset, List.mem_append, Update.written, List.filterMap_cons, hw,
        Option.map_some', List.filterMap_nil, List.mem_singleton]
      exact ⟨.inl, fun h => h.elim id fun hk => hk ▸ hmem⟩
    · simp [e, Update.written, hw]

theorem Update.runAll_keys_toFinset {us : List Update} {db db' : NodeDB}
    (h : Update.runAll P db us = .ok db') :
    (keys db'.devicestate.nodeDb).toFinset =
      (keys db.devicestate.nodeDb ++ Update.written us).toFinset := by
  induction us generalizing db with
  | nil => cases h; simp [Update.written]
  | cons u us ih =>
    obtain ⟨d, hd, h'⟩ := Update.runAll_cons_eq_ok.1 h
    rw [ih h', List.toFinset_append, Update.run_keys_toFinset hd, ← List.toFinset_append,
      List.append_assoc, ← Update.written_cons]

theorem Update.run_tableOk {u : Update} {db db' : NodeDB} (h : u.run P db = .ok db')
    (hok : TableOk P db.devicestate.nodeDb) : TableOk P db'.devicestate.nodeDb := by
  rcases Update.run_table h with ⟨-, e⟩ | ⟨w, i, -, hu⟩
  · rwa [e]
  · exact hok.upsert hu

theorem Update.runAll_tableOk {us : List Update} {db db' : NodeDB}
    (h : Update.runAll P db us = .ok db') (hok : TableOk P db.devicestate.nodeDb) :
    TableOk P db'.devicestate.nodeDb := by
  induction us generalizing db with
  | nil => cases h; exact hok
  | cons u us ih =>
    obtain ⟨d, hd, h'⟩ := Update.runAll_cons_eq_ok.1 h
    exact ih h' (Update.run_tableOk hd hok)

theorem TableOk.length_add_fresh {nodes : List NodeInfo} (hok : TableOk P nodes) (n : NodeNum) :
    nodes.length + fresh nodes n = (keys nodes ++ [n]).toFinset.card := by
  have hc : (keys nodes).toFinset.card = nodes.length := by
    rw [List.toFinset_card_of_nodup hok.nodup, length_keys]
  have he : (keys nodes ++ [n]).toFinset = insert n (keys nodes).toFinset := by
    ext k
    simp [or_comm]
  rw [he, fresh]
  split_ifs with hn
  · rw [Finset.insert_eq_of_mem (List.mem_toFinset.2 hn), hc, Nat.add_zero]
  · rw [Finset.card_insert_of_not_mem (mt List.mem_toFinset.1 hn), hc]

theorem Update.run_of_written_room {u : Update} {db : NodeDB}
    (hok : TableOk P db.devicestate.nodeDb)
    (hroom : (keys db.devicestate.nodeDb ++ Update.written [u]).toFinset.card ≤ P.maxNumNodes) :
    ∃ d, u.run P db = .ok d := by
  cases hw : u.rewrite with
  | none => exact ⟨db, Update.run_of_rewrite_none hw db⟩
  | some w =>
    have e : Update.written [u] = [u.nodeId] := by simp [Update.written, hw]
    rw [e, ← hok.length_add_fresh] at hroom
    obtain ⟨-, d, -, hd, -⟩ := Update.run_of_room (by rw [hw]; rfl) db hroom
    exact ⟨d, hd⟩

/-- A sequence of updates on a table with distinct keys within capacity runs to the end
exactly when the keys already present and the nodes it writes to number at most
`MAX_NUM_NODES`. -/
theorem Update.runAll_ok_iff {us : List Update} {db : NodeDB}
    (hok : TableOk P db.devicestate.nodeDb) :
    (∃ db', Update.runAll P db us = .ok db') ↔
      (keys db.devicestate.nodeDb ++ Update.written us).toFinset.card ≤ P.maxNumNodes := by
  constructor
  · rintro ⟨db', h⟩
    have hok' := Update.runAll_tableOk h hok
    rw [← Update.runAll_keys_toFinset h, List.toFinset_card_of_nodup hok'.nodup, length_keys]
    exact hok'.length_le
  · induction us generalizing db with
    | nil => exact fun _ => ⟨db, rfl⟩
    | cons u us ih =>
      intro hroom
      rw [Update.written_cons, ← List.append_assoc] at hroom
      have hroom₁ : (keys db.devicestate.nodeDb ++ Update.written [u]).toFinset.card ≤
          P.maxNumNodes := (Finset.card_le_card fun k hk => List.mem_toFinset.2
            (List.mem_append_left _ (List.mem_toFinset.1 hk))).trans hroom
      obtain ⟨d, hd⟩ := Update.run_of_written_room hok hroom₁
      have hroomd : (keys d.devicestate.nodeDb ++ Update.written us).toFinset.card ≤
          P.maxNumNodes := by
        rwa [List.toFinset_append, Update.run_keys_toFinset hd, ← List.toFinset_append]
      obtain ⟨db', h'⟩ := ih (Update.run_tableOk hd hok) hroomd
      exact ⟨db', Update.runAll_cons_eq_ok.2 ⟨d, hd, h'⟩⟩

theorem Update.runAll_ok_iff_empty :
    (∃ db', Update.runAll Platform.demo {} [.updatePosition 5 {}, .updateUser 7 {}] = .ok db') ↔
      (keys ({} : NodeDB).devicestate.nodeDb ++
        Update.written [.updatePosition 5 {}, .updateUser 7 {}]).toFinset.card ≤
          Platform.demo.maxNumNodes :=
  Update.runAll_ok_iff TableOk.nil

end NodeDB
end MeshNodeDB
