import MeshNodeDB.Update

/-! # Arrival order and duplicate packets

The table an update leaves depends only on the table before it: each update is one
`upsert` of the node it names, by a rewrite fixed by its arguments. So two updates of
distinct nodes commute, up to the order of the records they append, and since the rewrite
of `updateFrom` is idempotent, a duplicate packet leaves the table as it was and finds the
user it carries already in place. -/

namespace MeshNodeDB
namespace NodeDB

/-- A catalog update as a call: `updateFrom(mp)`, `updatePosition(nodeId, p)` or
`updateUser(nodeId, p)`. -/
inductive Update where
  | updateFrom (mp : MeshPacket)
  | updatePosition (nodeId : NodeNum) (p : Position)
  | updateUser (nodeId : NodeNum) (p : User)

def Update.run (u : Update) (P : Platform) (db : NodeDB) : Except Halt NodeDB :=
  match u with
  | .updateFrom mp => NodeDB.updateFrom P db mp
  | .updatePosition n p => NodeDB.updatePosition P db n p
  | .updateUser n p => NodeDB.updateUser P db n p

def Update.nodeId : Update → NodeNum
  | .updateFrom mp => mp.«from»
  | .updatePosition n _ => n
  | .updateUser n _ => n

/-- The write the call makes into that record; `none` for an encrypted packet, which
`updateFrom` does not look at. -/
def Update.rewrite : Update → Option Rewrite
  | .updateFrom mp =>
    match mp.payload with
    | .decoded p => some (packetRewrite mp p)
    | .encrypted _ => none
  | .updatePosition _ p => some (setPosition p)
  | .updateUser _ p => some (setUser p)

variable {P : Platform}

theorem Update.run_ok {u : Update} {w : Rewrite} (hw : u.rewrite = some w) {db : NodeDB}
    {i : Nat} {nodes : List NodeInfo}
    (h : upsert P u.nodeId w db.devicestate.nodeDb = .ok (i, nodes)) :
    ∃ db', u.run P db = .ok db' ∧ db'.devicestate.nodeDb = nodes := by
  cases u with
  | updateFrom mp =>
    cases hp : mp.payload with
    | encrypted b => simp [Update.rewrite, hp] at hw
    | decoded p =>
      simp only [Update.rewrite, hp, Option.some.injEq] at hw
      subst hw
      change upsert P mp.«from» _ _ = _ at h
      exact ⟨_, by rw [Update.run, updateFrom_decoded hp, h]; rfl, by simp⟩
  | updatePosition n p =>
    cases hw
    change upsert P n _ _ = _ at h
    exact ⟨_, by rw [Update.run, updatePosition_eq, h]; rfl, rfl⟩
  | updateUser n p =>
    cases hw
    change upsert P n _ _ = _ at h
    exact ⟨_, by rw [Update.run, updateUser_eq, h]; rfl, by simp⟩

theorem Update.run_frame {u : Update} {db db' : NodeDB} (h : u.run P db = .ok db') :
    (db'.devicestate.nodeDb = db.devicestate.nodeDb ∨
      ∃ w i, upsert P u.nodeId w db.devicestate.nodeDb = .ok (i, db'.devicestate.nodeDb)) ∧
      db'.devicestate = { db.devicestate with nodeDb := db'.devicestate.nodeDb } := by
  cases u with
  | updateFrom mp =>
    obtain ⟨h₁ | ⟨p, i, -, hu⟩, h₂⟩ := updateFrom_ok h
    · exact ⟨.inl h₁, h₂⟩
    · exact ⟨.inr ⟨_, i, hu⟩, h₂⟩
  | updatePosition n p =>
    obtain ⟨⟨i, hu⟩, h₂⟩ := updatePosition_ok h
    exact ⟨.inr ⟨_, i, hu⟩, h₂⟩
  | updateUser n p =>
    obtain ⟨⟨i, hu⟩, h₂⟩ := updateUser_ok h
    exact ⟨.inr ⟨_, i, hu⟩, h₂⟩

/-- Everything a call writes besides the table: `updateGUIforNode`, left alone or pointed at
its node's record, and the calls it appends, none of them a `setKey`. -/
theorem Update.run_eq {u : Update} {db db' : NodeDB} (h : u.run P db = .ok db') :
    ∃ g cs, db' = { db.setNodes db'.devicestate.nodeDb with
        updateGUIforNode := g, calls := db.calls ++ cs } ∧
      (g = db.updateGUIforNode ∨
        ∃ i, g = some i ∧ getNode db'.devicestate.nodeDb u.nodeId = some i) ∧
      ∀ n key, Call.setKey n key ∉ cs := by
  cases u with
  | updateFrom mp =>
    cases hp : mp.payload with
    | encrypted b =>
      rw [Update.run, updateFrom_encrypted hp] at h
      cases h
      exact ⟨_, [], by simp [setNodes], .inl rfl, by simp⟩
    | decoded p =>
      rw [Update.run, updateFrom_decoded hp, except_map_eq_ok] at h
      obtain ⟨⟨i, nodes⟩, hu, rfl⟩ := h
      obtain ⟨g, cs, e, hg, hcs⟩ := fromEffect_eq P (db.setNodes nodes) mp p
        (current db.devicestate.nodeDb mp.«from»).user i
      refine ⟨g, cs, by rw [e]; rfl, hg.imp_right fun hg => ⟨i, hg, ?_⟩, hcs⟩
      simpa using upsert_getNode hu
  | updatePosition n p =>
    rw [Update.run, updatePosition_eq, except_map_eq_ok] at h
    obtain ⟨⟨i, nodes⟩, hu, rfl⟩ := h
    exact ⟨some i, [.notifyObservers true], rfl, .inr ⟨i, rfl, upsert_getNode hu⟩, by simp⟩
  | updateUser n p =>
    rw [Update.run, updateUser_eq, except_map_eq_ok] at h
    obtain ⟨⟨i, nodes⟩, hu, rfl⟩ := h
    obtain ⟨g, cs, e, hg, hcs⟩ := userEffect_eq (db.setNodes nodes)
      (current db.devicestate.nodeDb n).user p i
    refine ⟨g, cs, by rw [e]; rfl, hg.imp_right fun hg => ⟨i, hg, ?_⟩, hcs⟩
    simpa using upsert_getNode hu

theorem Update.run_keys {u : Update} {db db' : NodeDB} (h : u.run P db = .ok db') {k : NodeNum}
    (hk : k ∈ keys db'.devicestate.nodeDb) : k ∈ keys db.devicestate.nodeDb ∨ k = u.nodeId := by
  rcases (Update.run_frame h).1 with e | ⟨w, i, hu⟩
  · exact .inl (e ▸ hk)
  · exact upsert_mem_keys hu hk

def Update.runAll (P : Platform) : NodeDB → List Update → Except Halt NodeDB
  | db, [] => .ok db
  | db, u :: us => u.run P db >>= fun db' => Update.runAll P db' us

theorem Update.runAll_keys {us : List Update} {db db' : NodeDB}
    (h : Update.runAll P db us = .ok db') {k : NodeNum} (hk : k ∈ keys db'.devicestate.nodeDb) :
    k ∈ keys db.devicestate.nodeDb ∨ ∃ u ∈ us, u.nodeId = k := by
  induction us generalizing db with
  | nil => cases h; exact .inl hk
  | cons u us ih =>
    cases h₁ : u.run P db with
    | error e => simp [Update.runAll, h₁, bind, Except.bind] at h
    | ok d =>
      simp only [Update.runAll, h₁, bind, Except.bind] at h
      rcases ih h with hd | ⟨v, hv, rfl⟩
      · rcases Update.run_keys h₁ hd with hk' | rfl
        · exact .inl hk'
        · exact .inr ⟨u, List.mem_cons_self _ _, rfl⟩
      · exact .inr ⟨v, List.mem_cons_of_mem _ hv, rfl⟩

theorem Update.run_of_room {u : Update} (hu : u.rewrite.isSome) (db : NodeDB)
    (hroom : db.devicestate.nodeDb.length + fresh db.devicestate.nodeDb u.nodeId ≤
      P.maxNumNodes) :
    ∃ w db', u.rewrite = some w ∧ u.run P db = .ok db' ∧
      db'.devicestate.nodeDb = upserted u.nodeId w db.devicestate.nodeDb := by
  obtain ⟨w, hw⟩ := Option.isSome_iff_exists.1 hu
  obtain ⟨i, hi⟩ := upsert_ok_of_room (w := w) hroom
  obtain ⟨db', h, hn⟩ := Update.run_ok hw hi
  exact ⟨w, db', hw, h, hn⟩

/-! ## Two updates of distinct nodes -/

section pair

variable {nodes : List NodeInfo} {n₁ n₂ : NodeNum} {w₁ w₂ : Rewrite}

theorem upserted_comm_of_some_of_none {i₁ : Nat} (hne : n₁ ≠ n₂)
    (h₁ : getNode nodes n₁ = some i₁) (h₂ : getNode nodes n₂ = none) :
    upserted n₂ w₂ (upserted n₁ w₁ nodes) = upserted n₁ w₁ (upserted n₂ w₂ nodes) := by
  rw [upserted_of_none ((getNode_upserted_ne hne).trans h₂),
    upserted_of_getNode ((getNode_upserted_ne hne.symm).trans h₁), upserted_of_getNode h₁,
    upserted_of_none h₂, modify_append_of_lt (getNode_lt h₁)]

/-- Upserts of two distinct keys commute, except that two new records are appended in the
order of their upserts. -/
theorem upserted_comm (hne : n₁ ≠ n₂) :
    upserted n₂ w₂ (upserted n₁ w₁ nodes) = upserted n₁ w₁ (upserted n₂ w₂ nodes) ∨
      (upserted n₂ w₂ (upserted n₁ w₁ nodes) =
          nodes ++ [w₁.apply { num := n₁ }, w₂.apply { num := n₂ }] ∧
        upserted n₁ w₁ (upserted n₂ w₂ nodes) =
          nodes ++ [w₂.apply { num := n₂ }, w₁.apply { num := n₁ }]) := by
  have e₁₂ : getNode (upserted n₁ w₁ nodes) n₂ = getNode nodes n₂ := getNode_upserted_ne hne
  have e₂₁ : getNode (upserted n₂ w₂ nodes) n₁ = getNode nodes n₁ :=
    getNode_upserted_ne hne.symm
  cases h₁ : getNode nodes n₁ with
  | some i₁ =>
    cases h₂ : getNode nodes n₂ with
    | some i₂ =>
      have hi : i₁ ≠ i₂ := by
        rintro rfl
        exact hne ((getNode_eq_some.1 h₁).2.1.symm.trans (getNode_eq_some.1 h₂).2.1)
      left
      rw [upserted_of_getNode (e₁₂.trans h₂), upserted_of_getNode (e₂₁.trans h₁),
        upserted_of_getNode h₁, upserted_of_getNode h₂, List.modify_modify_ne _ _ _ hi]
    | none => exact .inl (upserted_comm_of_some_of_none hne h₁ h₂)
  | none =>
    cases h₂ : getNode nodes n₂ with
    | some i₂ => exact .inl (upserted_comm_of_some_of_none hne.symm h₂ h₁).symm
    | none =>
      right
      rw [upserted_of_none (e₁₂.trans h₂), upserted_of_none (e₂₁.trans h₁),
        upserted_of_none h₁, upserted_of_none h₂]
      simp

theorem lookup_upserted_comm (hne : n₁ ≠ n₂) (k : NodeNum) :
    lookup (upserted n₂ w₂ (upserted n₁ w₁ nodes)) k =
      lookup (upserted n₁ w₁ (upserted n₂ w₂ nodes)) k := by
  simp only [lookup_upserted]
  by_cases h₁ : k = n₁ <;> by_cases h₂ : k = n₂
  · exact absurd (h₁.symm.trans h₂) hne
  all_goals simp [h₁, h₂, hne, Ne.symm hne]

end pair

/-- Arrival-order independence: two updates of distinct nodes, each with a rewrite, in a
table with room for the records they may append, succeed in either order with tables of
the same size and the same record under every key, which differ at most in the order of
the two records appended at the end. -/
theorem update_arrival_order {db : NodeDB} {u₁ u₂ : Update} (hu₁ : u₁.rewrite.isSome)
    (hu₂ : u₂.rewrite.isSome) (hne : u₁.nodeId ≠ u₂.nodeId)
    (hroom : db.devicestate.nodeDb.length + fresh db.devicestate.nodeDb u₁.nodeId +
      fresh db.devicestate.nodeDb u₂.nodeId ≤ P.maxNumNodes) :
    ∃ db₁₂ db₂₁, (u₁.run P db >>= u₂.run P) = .ok db₁₂ ∧
      (u₂.run P db >>= u₁.run P) = .ok db₂₁ ∧
      db₁₂.devicestate.nodeDb.length = db₂₁.devicestate.nodeDb.length ∧
      (∀ k, lookup db₁₂.devicestate.nodeDb k = lookup db₂₁.devicestate.nodeDb k) ∧
      (db₁₂.devicestate.nodeDb = db₂₁.devicestate.nodeDb ∨
        ∃ x y, db₁₂.devicestate.nodeDb = db.devicestate.nodeDb ++ [x, y] ∧
          db₂₁.devicestate.nodeDb = db.devicestate.nodeDb ++ [y, x]) := by
  obtain ⟨w₁, db₁, hw₁, h₁, e₁⟩ := Update.run_of_room (P := P) hu₁ db (by omega)
  obtain ⟨w₂, db₂, hw₂, h₂, e₂⟩ := Update.run_of_room (P := P) hu₂ db (by omega)
  obtain ⟨w₂', db₁₂, hw₂', h₁₂, e₁₂⟩ := Update.run_of_room (P := P) hu₂ db₁ (by
    rw [e₁, length_upserted, fresh_upserted_ne hne]; omega)
  obtain ⟨w₁', db₂₁, hw₁', h₂₁, e₂₁⟩ := Update.run_of_room (P := P) hu₁ db₂ (by
    rw [e₂, length_upserted, fresh_upserted_ne hne.symm]; omega)
  obtain rfl := Option.some.inj (hw₁'.symm.trans hw₁)
  obtain rfl := Option.some.inj (hw₂'.symm.trans hw₂)
  rw [e₁] at e₁₂
  rw [e₂] at e₂₁
  refine ⟨db₁₂, db₂₁, by rw [h₁]; exact h₁₂, by rw [h₂]; exact h₂₁, ?_, ?_, ?_⟩
  · rw [e₁₂, e₂₁, length_upserted, length_upserted, length_upserted, length_upserted,
      fresh_upserted_ne hne, fresh_upserted_ne hne.symm]
    omega
  · intro k
    rw [e₁₂, e₂₁]
    exact lookup_upserted_comm hne k
  · rw [e₁₂, e₂₁]
    exact (upserted_comm hne).imp id fun ⟨ha, hb⟩ => ⟨_, _, ha, hb⟩

theorem update_arrival_order_two_new :
    ∃ db₁₂ db₂₁,
      ((Update.updatePosition 5 {}).run Platform.demo {} >>=
        (Update.updateUser 7 {}).run Platform.demo) = .ok db₁₂ ∧
      ((Update.updateUser 7 {}).run Platform.demo {} >>=
        (Update.updatePosition 5 {}).run Platform.demo) = .ok db₂₁ ∧
      db₁₂.devicestate.nodeDb.length = db₂₁.devicestate.nodeDb.length ∧
      (∀ k, lookup db₁₂.devicestate.nodeDb k = lookup db₂₁.devicestate.nodeDb k) ∧
      (db₁₂.devicestate.nodeDb = db₂₁.devicestate.nodeDb ∨
        ∃ x y, db₁₂.devicestate.nodeDb = [x, y] ∧ db₂₁.devicestate.nodeDb = [y, x]) :=
  @update_arrival_order Platform.demo {} (.updatePosition 5 {}) (.updateUser 7 {}) rfl rfl
    (by decide) (by decide)

/-! ## A duplicate packet -/

theorem packetRewrite_idem (mp : MeshPacket) (p : SubPacket) (x : NodeInfo) :
    (packetRewrite mp p).apply ((packetRewrite mp p).apply x) = (packetRewrite mp p).apply x := by
  by_cases ht : mp.rxTime = 0 <;>
    cases p <;> simp [packetRewrite, payloadRewrite, stampTime, setSnr, setPosition, setUser,
      Rewrite.keep, ht]

theorem fromEffect_calls (db : NodeDB) (mp : MeshPacket) (p : SubPacket) (old : User)
    (i : Nat) : ∃ new, (fromEffect P db mp p old i).calls = db.calls ++ new ∧
      (Call.nodeDbUpdated ∈ new → ∃ u, p = .user u ∧ old ≠ u) := by
  cases p with
  | position pos => exact ⟨_, rfl, by simp⟩
  | data d =>
    simp only [fromEffect]
    split
    · exact ⟨_, rfl, by simp⟩
    · exact ⟨[], by simp, by simp⟩
  | user u =>
    simp only [fromEffect, userEffect]
    split
    · exact ⟨[.nodeDbUpdated, .notifyObservers true], by simp, fun _ => ⟨u, rfl, ‹_›⟩⟩
    · exact ⟨[], by simp, by simp⟩
  | other t => exact ⟨_, rfl, by simp⟩

/-- Duplicate packets are harmless: with room for the sender, a decoded packet applied
twice leaves the table exactly as applying it once, and the second application only
appends calls, none of them `EVENT_NODEDB_UPDATED`. -/
theorem updateFrom_duplicate {db : NodeDB} {mp : MeshPacket} {p : SubPacket}
    (hp : mp.payload = .decoded p)
    (hroom : db.devicestate.nodeDb.length + fresh db.devicestate.nodeDb mp.«from» ≤
      P.maxNumNodes) :
    ∃ db₁ db₂, updateFrom P db mp = .ok db₁ ∧ updateFrom P db₁ mp = .ok db₂ ∧
      db₂.devicestate.nodeDb = db₁.devicestate.nodeDb ∧
      ∃ new, db₂.calls = db₁.calls ++ new ∧ Call.nodeDbUpdated ∉ new := by
  obtain ⟨i, hu⟩ := upsert_ok_of_room (w := packetRewrite mp p) hroom
  set nodes₁ := upserted mp.«from» (packetRewrite mp p) db.devicestate.nodeDb
  have hu₂ := upsert_idem (packetRewrite_idem mp p) hu
  set db₁ := fromEffect P (db.setNodes nodes₁) mp p
    (current db.devicestate.nodeDb mp.«from»).user i
  have h₁ : updateFrom P db mp = .ok db₁ := by rw [updateFrom_decoded hp, hu]; rfl
  have hn₁ : db₁.devicestate.nodeDb = nodes₁ := by simp [db₁]
  obtain ⟨new, hcalls, hnew⟩ := fromEffect_calls (P := P) (db₁.setNodes nodes₁) mp p
    (current nodes₁ mp.«from»).user i
  refine ⟨db₁, _, h₁, by rw [updateFrom_decoded hp, hn₁, hu₂]; rfl, by simp [hn₁], new,
    by simpa using hcalls, fun hin => ?_⟩
  obtain ⟨u, rfl, hne⟩ := hnew hin
  apply hne
  rw [current_upsert hu]
  simp [packetRewrite, payloadRewrite, setUser]

theorem updateFrom_duplicate_user :
    ∃ db₁ db₂,
      updateFrom Platform.demo {}
          ⟨5, 0xffffffff, 0, 0, .decoded (.user { longName := "Unknown 0005" })⟩ = .ok db₁ ∧
      updateFrom Platform.demo db₁
          ⟨5, 0xffffffff, 0, 0, .decoded (.user { longName := "Unknown 0005" })⟩ = .ok db₂ ∧
      db₂.devicestate.nodeDb = db₁.devicestate.nodeDb ∧
      ∃ new, db₂.calls = db₁.calls ++ new ∧ Call.nodeDbUpdated ∉ new :=
  @updateFrom_duplicate Platform.demo {}
    ⟨5, 0xffffffff, 0, 0, .decoded (.user { longName := "Unknown 0005" })⟩ _ rfl (by decide)

end NodeDB
end MeshNodeDB
