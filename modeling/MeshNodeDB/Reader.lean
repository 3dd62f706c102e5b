import MeshNodeDB.Init
import MeshNodeDB.Invariants

/-! # The phone reading the catalog

`readNextInfo` hands out `nodes[readPointer]` and moves the pointer on, and compares it with
`*numNodes` at every call, so records appended while the phone reads are handed out too.
Between two calls the firmware may take any later step: a catalog update, which appends a
record or rewrites one in place, or a `resetRadioConfig`, which leaves the table alone. So
what has been handed out since the pointer stood at `p` is, key for key, the current table
from `p` up to the pointer: no key twice, and none skipped. -/

namespace MeshNodeDB
namespace NodeDB

variable {P : Platform} {hw : Hardware}

/-! ## Later steps on the table -/

theorem Update.run_readPointer {u : Update} {db db' : NodeDB} (h : u.run P db = .ok db') :
    db'.readPointer = db.readPointer := by
  obtain ⟨g, cs, e, -⟩ := Update.run_eq h
  rw [e]
  rfl

theorem LaterStep.table {db db' : NodeDB} (h : LaterStep P hw db db') :
    db'.devicestate.nodeDb = db.devicestate.nodeDb ∨
      ∃ n w i, upsert P n w db.devicestate.nodeDb = .ok (i, db'.devicestate.nodeDb) := by
  cases h with
  | update u h =>
    rcases (Update.run_frame h).1 with e | ⟨w, i, hu⟩
    · exact .inl e
    · exact .inr ⟨_, w, i, hu⟩
  | resetRadioConfig hf h =>
    rw [resetRadioConfig_unflagged P hw hf] at h
    cases h
    exact .inl (by rw [(resetRadioConfigUnflagged_devicestate P db).1])

theorem LaterStep.grows {db db' : NodeDB} (h : LaterStep P hw db db') :
    Grows db.devicestate.nodeDb db'.devicestate.nodeDb := by
  rcases h.table with e | ⟨n, w, i, hu⟩
  · rw [e]; exact Grows.refl _
  · exact upsert_grows hu

theorem LaterStep.readPointer {db db' : NodeDB} (h : LaterStep P hw db db') :
    db'.readPointer = db.readPointer := by
  cases h with
  | update u h => exact Update.run_readPointer h
  | resetRadioConfig hf h =>
    rw [resetRadioConfig_unflagged P hw hf] at h
    cases h
    exact (resetRadioConfigUnflagged_frame P _).1

theorem Grows.take_keys {a b : List NodeInfo} (h : Grows a b) {r : Nat} (hr : r ≤ a.length) :
    (keys b).take r = (keys a).take r := by
  apply List.ext_getElem?
  intro j
  simp only [List.getElem?_take, keys, List.getElem?_map]
  split
  · obtain ⟨y, hy, hxy⟩ := h.keeps j _ (List.getElem?_eq_getElem (by omega))
    rw [hy, List.getElem?_eq_getElem (by omega), Option.map_some', Option.map_some',
      hxy.num_eq]
  · rfl

/-! ## Reading -/

theorem readNextInfo_of_lt {db : NodeDB} (h : db.readPointer < db.devicestate.nodeDb.length) :
    readNextInfo db = (some db.devicestate.nodeDb[db.readPointer],
      { db with readPointer := db.readPointer + 1 }) := by
  simp [readNextInfo, h]

theorem readNextInfo_of_le {db : NodeDB} (h : db.devicestate.nodeDb.length ≤ db.readPointer) :
    readNextInfo db = (none, db) := by
  simp [readNextInfo, Nat.not_lt.2 h]

/-- A step while the phone reads: a later step of the firmware, or a call of `readNextInfo`,
whose record joins those handed out so far. -/
inductive ReadStep (P : Platform) (hw : Hardware) :
    NodeDB × List NodeInfo → NodeDB × List NodeInfo → Prop
  | later {db db' : NodeDB} {read : List NodeInfo} :
      LaterStep P hw db db' → ReadStep P hw (db, read) (db', read)
  | read {db : NodeDB} {read : List NodeInfo} :
      ReadStep P hw (db, read) ((readNextInfo db).2, read ++ (readNextInfo db).1.toList)

/-- The records handed out since the pointer stood at `p`, over a table with distinct keys:
the pointer has not passed the end, and their keys are the table's from `p` up to the
pointer. -/
structure Reading (P : Platform) (p : Nat) (a : NodeDB × List NodeInfo) : Prop where
  table : TableOk P a.1.devicestate.nodeDb
  pointer_le : a.1.readPointer ≤ a.1.devicestate.nodeDb.length
  start_le : p ≤ a.1.readPointer
  keys_read : keys a.2 = ((keys a.1.devicestate.nodeDb).take a.1.readPointer).drop p

theorem Reading.read {p : Nat} {db : NodeDB} {read : List NodeInfo} (hr : Reading P p (db, read)) :
    Reading P p ((readNextInfo db).2, read ++ (readNextInfo db).1.toList) := by
  by_cases h : db.readPointer < db.devicestate.nodeDb.length
  · rw [readNextInfo_of_lt h]
    refine ⟨hr.table, h, Nat.le_succ_of_le hr.start_le, ?_⟩
    have hk : db.readPointer < (keys db.devicestate.nodeDb).length := by simpa using h
    have hp : p ≤ ((keys db.devicestate.nodeDb).take db.readPointer).length := by
      simpa [h.le] using hr.start_le
    rw [Option.toList_some, keys_append, hr.keys_read, List.take_succ,
      List.drop_append_of_le_length hp, List.getElem?_eq_getElem hk]
    simp [keys]
  · rw [readNextInfo_of_le (Nat.le_of_not_lt h)]
    simpa using hr

theorem Reading.later {p : Nat} {db db' : NodeDB} {read : List NodeInfo}
    (h : LaterStep P hw db db') (hr : Reading P p (db, read)) : Reading P p (db', read) := by
  have hg := h.grows
  have hp := h.readPointer
  refine ⟨?_, hp ▸ hr.pointer_le.trans hg.length_le, hp ▸ hr.start_le, ?_⟩
  · rcases h.table with e | ⟨n, w, i, hu⟩
    · rw [e]; exact hr.table
    · exact hr.table.upsert hu
  · rw [hp, hg.take_keys hr.pointer_le]
    exact hr.keys_read

theorem Reading.run {p : Nat} {a b : NodeDB × List NodeInfo}
    (hrun : Relation.ReflTransGen (ReadStep P hw) a b) (ha : Reading P p a) : Reading P p b := by
  induction hrun with
  | refl => exact ha
  | tail _ step ih =>
    cases step with
    | later h => exact ih.later h
    | read => exact ih.read

/-- Reading the catalog while the firmware runs: the records `readNextInfo` has handed out
since the pointer stood at `p` are, key for key, those of the current table from `p` up to
the pointer, so no key is handed out twice; and once it returns `NULL`, every record from
`p` to the end of the current table, appended ones included, has been handed out. -/
theorem readNextInfo_interleaved {db₀ db : NodeDB} {read : List NodeInfo}
    (h₀ : db₀.readPointer ≤ db₀.devicestate.nodeDb.length)
    (hok : TableOk P db₀.devicestate.nodeDb)
    (hrun : Relation.ReflTransGen (ReadStep P hw) (db₀, []) (db, read)) :
    keys read = ((keys db.devicestate.nodeDb).take db.readPointer).drop db₀.readPointer ∧
      (keys read).Nodup ∧
      ((readNextInfo db).1 = none →
        keys read = (keys db.devicestate.nodeDb).drop db₀.readPointer) := by
  have hr : Reading P db₀.readPointer (db, read) :=
    Reading.run hrun ⟨hok, h₀, le_rfl, by simp [keys, h₀]⟩
  refine ⟨hr.keys_read, ?_, fun hn => ?_⟩
  · rw [hr.keys_read]
    exact hr.table.nodup.sublist ((List.drop_sublist _ _).trans (List.take_sublist _ _))
  · have he : db.readPointer = db.devicestate.nodeDb.length := by
      refine le_antisymm hr.pointer_le (Nat.le_of_not_lt fun hlt => ?_)
      rw [readNextInfo_of_lt hlt] at hn
      cases hn
    rw [hr.keys_read, he, ← length_keys, List.take_length]

/-- Record `5` is read, a position from node `7` appends a record, and the next read hands
that one out. -/
theorem readNextInfo_interleaved_append :
    ∃ (db : NodeDB) (read : List NodeInfo),
      Relation.ReflTransGen (ReadStep Platform.demo Hardware.demo)
        ({ devicestate := { nodeDb := [{ num := 5 }] } }, []) (db, read) ∧
      keys read = [5, 7] ∧
      keys read = ((keys db.devicestate.nodeDb).take db.readPointer).drop 0 ∧ (keys read).Nodup ∧
      ((readNextInfo db).1 = none → keys read = (keys db.devicestate.nodeDb).drop 0) := by
  have hrun : Relation.ReflTransGen (ReadStep Platform.demo Hardware.demo)
      ({ devicestate := { nodeDb := [{ num := 5 }] } }, []) _ :=
    .head .read (.head (.later (.update (.updatePosition 7 {}) rfl)) (.single .read))
  exact ⟨_, _, hrun, rfl, readNextInfo_interleaved (by decide) ⟨by decide, by decide⟩ hrun⟩

/-! ## The record the display is told to redraw

`updatePosition`, and `updateUser` when the user changed, point `updateGUIforNode` at the
record they wrote; nothing else of this file writes it, and a later step never shrinks the
table, so the pointer stays on a record. A factory reset does empty the table and keeps
the pointer (`installDefaultDeviceState` clears `devicestate` only), which is why the
invariant is over later steps only. -/

/-- `updateGUIforNode` is unset or the index of a record of the table. -/
def GuiInTable (db : NodeDB) : Prop :=
  ∀ i, db.updateGUIforNode = some i → i < db.devicestate.nodeDb.length

theorem GuiInTable.later {db db' : NodeDB} (h : LaterStep P hw db db') (hg : GuiInTable db) :
    GuiInTable db' := by
  have hlen := h.grows.length_le
  cases h with
  | update u hu =>
    obtain ⟨g, cs, e, rfl | ⟨j, rfl, hj⟩, -⟩ := Update.run_eq hu
    · intro i hi
      rw [e] at hi
      exact (hg i hi).trans_le hlen
    · intro i hi
      rw [e, Option.some.injEq] at hi
      exact hi ▸ getNode_lt hj
  | resetRadioConfig hf hr =>
    rw [resetRadioConfig_unflagged P hw hf] at hr
    cases hr
    intro i hi
    rw [(resetRadioConfigUnflagged_frame P db).2.1] at hi
    exact (hg i hi).trans_le hlen

theorem updatePosition_updateGUIforNode {db db' : NodeDB} {n : NodeNum} {p : Position}
    (h : updatePosition P db n p = .ok db') :
    ∃ i, getNode db'.devicestate.nodeDb n = some i ∧ db'.updateGUIforNode = some i := by
  rw [updatePosition_eq, except_map_eq_ok] at h
  obtain ⟨⟨i, nodes⟩, hu, rfl⟩ := h
  exact ⟨i, upsert_getNode hu, rfl⟩

theorem updateUser_updateGUIforNode {db db' : NodeDB} {n : NodeNum} {p : User}
    (h : updateUser P db n p = .ok db') :
    ∃ i, getNode db'.devicestate.nodeDb n = some i ∧ db'.updateGUIforNode =
      if (current db.devicestate.nodeDb n).user ≠ p then some i else db.updateGUIforNode := by
  rw [updateUser_eq, except_map_eq_ok] at h
  obtain ⟨⟨i, nodes⟩, hu, rfl⟩ := h
  refine ⟨i, by simpa using upsert_getNode hu, ?_⟩
  unfold userEffect
  split_ifs <;> rfl

/-- The display is told to redraw the record just written, and its pointer stays on a
record: `updatePosition` points `updateGUIforNode` at the record it wrote, and `updateUser`
does so when the user changed and leaves it otherwise; along any run of later steps
(catalog updates, and `resetRadioConfig` without a factory reset) from a state whose pointer
is unset or on a record, it is unset or on a record. -/
theorem updateGUIforNode_in_table {db₀ db : NodeDB} (h₀ : GuiInTable db₀)
    (hrun : Relation.ReflTransGen (LaterStep P hw) db₀ db) :
    (∀ i, db.updateGUIforNode = some i → i < db.devicestate.nodeDb.length) ∧
    (∀ n p db', updatePosition P db n p = .ok db' →
      ∃ i, getNode db'.devicestate.nodeDb n = some i ∧ db'.updateGUIforNode = some i) ∧
    ∀ n p db', updateUser P db n p = .ok db' →
      ∃ i, getNode db'.devicestate.nodeDb n = some i ∧ db'.updateGUIforNode =
        if (current db.devicestate.nodeDb n).user ≠ p then some i else db.updateGUIforNode := by
  refine ⟨?_, fun _ _ _ => updatePosition_updateGUIforNode,
    fun _ _ _ => updateUser_updateGUIforNode⟩
  induction hrun with
  | refl => exact h₀
  | tail _ step ih => exact GuiInTable.later step ih

/-- A new sender's position, from the empty catalog: the pointer is on its record. -/
theorem updateGUIforNode_in_table_position :
    ∃ db, (Update.updatePosition 5 {}).run Platform.demo {} = .ok db ∧
      (∀ i, db.updateGUIforNode = some i → i < db.devicestate.nodeDb.length) ∧
      (∀ n p db', updatePosition Platform.demo db n p = .ok db' →
        ∃ i, getNode db'.devicestate.nodeDb n = some i ∧ db'.updateGUIforNode = some i) ∧
      ∀ n p db', updateUser Platform.demo db n p = .ok db' →
        ∃ i, getNode db'.devicestate.nodeDb n = some i ∧ db'.updateGUIforNode =
          if (current db.devicestate.nodeDb n).user ≠ p then some i else db.updateGUIforNode :=
  ⟨_, rfl, @updateGUIforNode_in_table Platform.demo Hardware.demo {} _
    (fun _ h => by cases h) (.single (.update (.updatePosition 5 {}) rfl))⟩

end NodeDB
end MeshNodeDB
