import MeshNodeDB.Catalog

/-! # Catalog updates from the mesh

`updatePosition`, `updateUser` and `updateFrom`. For each, one lemma says everything it
does: its table is an `upsert` of the node it names, by a rewrite that depends only on its
arguments, and besides the table it writes `updateGUIforNode` and appends its calls into
collaborators, as `fromEffect` spells out for `updateFrom`. -/

namespace MeshNodeDB
namespace NodeDB

def setNodes (db : NodeDB) (nodes : List NodeInfo) : NodeDB :=
  { db with devicestate := { db.devicestate with nodeDb := nodes } }

@[simp] theorem setNodes_nodeDb (db : NodeDB) (nodes : List NodeInfo) :
    (db.setNodes nodes).devicestate.nodeDb = nodes := rfl

@[simp] theorem setNodes_myNode (db : NodeDB) (nodes : List NodeInfo) :
    (db.setNodes nodes).devicestate.myNode = db.devicestate.myNode := rfl

@[simp] theorem setNodes_calls (db : NodeDB) (nodes : List NodeInfo) :
    (db.setNodes nodes).calls = db.calls := rfl

@[simp] theorem setNodes_readPointer (db : NodeDB) (nodes : List NodeInfo) :
    (db.setNodes nodes).readPointer = db.readPointer := rfl

def setPosition (p : Position) : Rewrite :=
  ⟨fun info => { info with position := p, hasPosition := true }, fun _ => rfl, fun _ h => h,
    fun _ _ => rfl⟩

def setUser (p : User) : Rewrite :=
  ⟨fun info => { info with user := p, hasUser := true }, fun _ => rfl, fun _ _ => rfl,
    fun _ h => h⟩

def stampTime (rxTime : UInt32) : Rewrite :=
  ⟨fun info => if rxTime ≠ 0 then
      { info with hasPosition := true, position := { info.position with time := rxTime } }
    else info, fun info => by split <;> rfl, fun info h => by split <;> exact h,
    fun info h => by split <;> simp [h]⟩

def setSnr (rxSnr : UInt32) : Rewrite :=
  ⟨fun info => { info with snr := rxSnr }, fun _ => rfl, fun _ h => h, fun _ h => h⟩

variable (P : Platform)

def updatePosition (db : NodeDB) (nodeId : NodeNum) (p : Position) : Except Halt NodeDB := do
  let (i, nodes) ← getOrCreateNode P db.devicestate.nodeDb nodeId
  let db := db.setNodes (nodes.modify (setPosition p).apply i)
  pure (({ db with updateGUIforNode := some i }).call (.notifyObservers true))

/-- `NodeDB::updateUser`; `changed` is `memcmp(&info->user, &p, sizeof(User))`. -/
def updateUser (db : NodeDB) (nodeId : NodeNum) (p : User) : Except Halt NodeDB := do
  let (i, nodes) ← getOrCreateNode P db.devicestate.nodeDb nodeId
  let changed := (nodes.getD i {}).user ≠ p
  let db := db.setNodes (nodes.modify (setUser p).apply i)
  if changed then
    pure ((({ db with updateGUIforNode := some i }).call .nodeDbUpdated).call
      (.notifyObservers true))
  else pure db

/-- `NodeDB::updateFrom`: only decoded packets are looked at. -/
def updateFrom (db : NodeDB) (mp : MeshPacket) : Except Halt NodeDB :=
  match mp.payload with
  | .encrypted _ => pure db
  | .decoded p => do
    let (i, nodes) ← getOrCreateNode P db.devicestate.nodeDb mp.«from»
    let nodes := nodes.modify (stampTime mp.rxTime).apply i
    let db := db.setNodes (nodes.modify (setSnr mp.rxSnr).apply i)
    match p with
    | .position pos => db.updatePosition P mp.«from» pos
    | .data _ =>
      pure (if mp.«to» = P.nodenumBroadcast ∨ mp.«to» = db.devicestate.myNode.myNodeNum
        then db.call (.callPlugins mp) else db)
    | .user u => db.updateUser P mp.«from» u
    | .other _ => pure (db.call (.notifyObservers false))

/-! ## What each update does -/

def payloadRewrite : SubPacket → Rewrite
  | .position pos => setPosition pos
  | .user u => setUser u
  | _ => Rewrite.keep

/-- Everything `updateFrom` writes into the sender's record. -/
def packetRewrite (mp : MeshPacket) (p : SubPacket) : Rewrite :=
  ((stampTime mp.rxTime).andThen (setSnr mp.rxSnr)).andThen (payloadRewrite p)

/-- The record `getOrCreateNode n` hands out before it is rewritten. -/
def current (nodes : List NodeInfo) (n : NodeNum) : NodeInfo :=
  (lookup nodes n).getD { num := n }

def userEffect (db : NodeDB) (old p : User) (i : Nat) : NodeDB :=
  if old ≠ p then
    (({ db with updateGUIforNode := some i }).call .nodeDbUpdated).call (.notifyObservers true)
  else db

def fromEffect (db : NodeDB) (mp : MeshPacket) (p : SubPacket) (old : User) (i : Nat) :
    NodeDB :=
  match p with
  | .position _ => ({ db with updateGUIforNode := some i }).call (.notifyObservers true)
  | .data _ =>
    if mp.«to» = P.nodenumBroadcast ∨ mp.«to» = db.devicestate.myNode.myNodeNum
    then db.call (.callPlugins mp) else db
  | .user u => userEffect db old u i
  | .other _ => db.call (.notifyObservers false)

@[simp] theorem userEffect_devicestate (db : NodeDB) (old p : User) (i : Nat) :
    (userEffect db old p i).devicestate = db.devicestate := by
  unfold userEffect; split <;> rfl

@[simp] theorem fromEffect_devicestate (db : NodeDB) (mp : MeshPacket) (p : SubPacket)
    (old : User) (i : Nat) : (fromEffect P db mp p old i).devicestate = db.devicestate := by
  cases p <;> simp only [fromEffect, userEffect_devicestate] <;> (try split) <;> rfl

theorem userEffect_eq (db : NodeDB) (old p : User) (i : Nat) :
    ∃ g cs, userEffect db old p i = { db with updateGUIforNode := g, calls := db.calls ++ cs } ∧
      (g = db.updateGUIforNode ∨ g = some i) ∧ ∀ n key, Call.setKey n key ∉ cs := by
  unfold userEffect
  split
  · exact ⟨some i, [.nodeDbUpdated, .notifyObservers true], by simp [call], .inr rfl, by simp⟩
  · exact ⟨_, [], by simp, .inl rfl, by simp⟩

theorem fromEffect_eq (db : NodeDB) (mp : MeshPacket) (p : SubPacket) (old : User) (i : Nat) :
    ∃ g cs, fromEffect P db mp p old i =
        { db with updateGUIforNode := g, calls := db.calls ++ cs } ∧
      (g = db.updateGUIforNode ∨ g = some i) ∧ ∀ n key, Call.setKey n key ∉ cs := by
  cases p with
  | position _ => exact ⟨some i, [.notifyObservers true], rfl, .inr rfl, by simp⟩
  | data _ =>
    simp only [fromEffect]
    split
    · exact ⟨_, [.callPlugins mp], rfl, .inl rfl, by simp⟩
    · exact ⟨_, [], by simp, .inl rfl, by simp⟩
  | user u => exact userEffect_eq db old u i
  | other _ => exact ⟨_, [.notifyObservers false], rfl, .inl rfl, by simp⟩

section spec

variable {P} {db db' : NodeDB} {nodes : List NodeInfo} {n : NodeNum} {i : Nat}

theorem getD_getOrCreateNode (h : getOrCreateNode P nodes n = .ok (i, nodes')) :
    nodes'.getD i {} = current nodes n := by
  rcases getOrCreateNode_eq_ok.1 h with ⟨hi, rfl⟩ | ⟨hn, -, rfl, rfl⟩
  · simp [current, lookup, hi, List.getD_eq_getElem?_getD, getNode_lt hi]
  · simp [current, lookup, hn, List.getD_eq_getElem?_getD]

theorem updatePosition_eq (p : Position) :
    updatePosition P db n p =
      (upsert P n (setPosition p) db.devicestate.nodeDb).map fun r =>
        ({ db.setNodes r.2 with updateGUIforNode := some r.1 }).call (.notifyObservers true) := by
  unfold updatePosition upsert
  cases getOrCreateNode P db.devicestate.nodeDb n <;> rfl

theorem updateUser_eq (p : User) :
    updateUser P db n p =
      (upsert P n (setUser p) db.devicestate.nodeDb).map fun r =>
        userEffect (db.setNodes r.2) (current db.devicestate.nodeDb n).user p r.1 := by
  unfold updateUser upsert
  cases h : getOrCreateNode P db.devicestate.nodeDb n with
  | error e => rfl
  | ok r =>
    obtain ⟨j, base⟩ := r
    simp only [Except.map, bind, Except.bind, userEffect, ← getD_getOrCreateNode h]
    split <;> rfl

theorem current_of_getNode (h : getNode nodes n = some i) : current nodes n = nodes.getD i {} := by
  simp [current, lookup, h, List.getD_eq_getElem?_getD, getNode_lt h]

theorem lookup_eq_some_current (hn : n ∈ keys nodes) : lookup nodes n = some (current nodes n) := by
  cases h : lookup nodes n with
  | none => exact absurd (lookup_eq_none.1 h) (not_not.2 hn)
  | some x => simp [current, h]

theorem current_upsert {w : Rewrite} (h : upsert P n w nodes = .ok (i, nodes')) :
    current nodes' n = w.apply (current nodes n) := by
  obtain ⟨base, hb, rfl⟩ := upsert_eq_ok.1 h
  have hlt := getOrCreateNode_lt hb
  rw [current_of_getNode (upsert_getNode h), ← getD_getOrCreateNode hb]
  simp [List.getD_eq_getElem?_getD, List.getElem?_modify, hlt]

theorem updateFrom_decoded {mp : MeshPacket} {p : SubPacket} (hp : mp.payload = .decoded p) :
    updateFrom P db mp =
      (upsert P mp.«from» (packetRewrite mp p) db.devicestate.nodeDb).map fun r =>
        fromEffect P (db.setNodes r.2) mp p (current db.devicestate.nodeDb mp.«from»).user r.1 := by
  unfold updateFrom
  rw [hp]
  cases h : getOrCreateNode P db.devicestate.nodeDb mp.«from» with
  | error e => simp [bind, Except.bind, upsert, h, Except.map]
  | ok r =>
    obtain ⟨j, base⟩ := r
    set nodes1 := (base.modify (stampTime mp.rxTime).apply j).modify (setSnr mp.rxSnr).apply j
      with hn1
    have hj : getNode nodes1 mp.«from» = some j := by
      rw [hn1, getNode_modify, getNode_modify]; exact getOrCreateNode_getNode h
    have hg : getOrCreateNode P nodes1 mp.«from» = .ok (j, nodes1) := getOrCreateNode_of_getNode hj
    have hup : upsert P mp.«from» (packetRewrite mp p) db.devicestate.nodeDb =
        .ok (j, nodes1.modify (payloadRewrite p).apply j) := by
      refine upsert_eq_ok.2 ⟨base, h, ?_⟩
      simp only [hn1, List.modify_modify_eq]; rfl
    have hcur : (current db.devicestate.nodeDb mp.«from»).user = (nodes1.getD j {}).user := by
      rw [← getD_getOrCreateNode h, hn1]
      simp [List.getD_eq_getElem?_getD, List.getElem?_modify,
        getNode_lt (getOrCreateNode_getNode h), setSnr, stampTime]
      split <;> rfl
    rw [hup, hcur]
    cases p with
    | position pos =>
      simp only [bind, Except.bind]
      rw [updatePosition_eq, setNodes_nodeDb, upsert_eq_ok.2 ⟨_, hg, rfl⟩]
      rfl
    | data d =>
      rw [show (payloadRewrite (.data d)).apply = id from rfl, List.modify_id]; rfl
    | user u =>
      simp only [bind, Except.bind]
      rw [updateUser_eq, setNodes_nodeDb, upsert_eq_ok.2 ⟨_, hg, rfl⟩, current_of_getNode hj]
      rfl
    | other t =>
      rw [show (payloadRewrite (.other t)).apply = id from rfl, List.modify_id]; rfl

theorem updateFrom_encrypted {mp : MeshPacket} {bytes : List UInt8}
    (hp : mp.payload = .encrypted bytes) : updateFrom P db mp = .ok db := by
  simp [updateFrom, hp, pure, Except.pure]

theorem updatePosition_ok {p : Position} (h : updatePosition P db n p = .ok db') :
    (∃ i, upsert P n (setPosition p) db.devicestate.nodeDb = .ok (i, db'.devicestate.nodeDb)) ∧
      db'.devicestate = { db.devicestate with nodeDb := db'.devicestate.nodeDb } := by
  rw [updatePosition_eq, except_map_eq_ok] at h
  obtain ⟨⟨i, nodes⟩, hu, rfl⟩ := h
  exact ⟨⟨i, hu⟩, rfl⟩

theorem updateUser_ok {p : User} (h : updateUser P db n p = .ok db') :
    (∃ i, upsert P n (setUser p) db.devicestate.nodeDb = .ok (i, db'.devicestate.nodeDb)) ∧
      db'.devicestate = { db.devicestate with nodeDb := db'.devicestate.nodeDb } := by
  rw [updateUser_eq, except_map_eq_ok] at h
  obtain ⟨⟨i, nodes⟩, hu, rfl⟩ := h
  exact ⟨⟨i, by simpa using hu⟩, by simp [setNodes]⟩

theorem updateFrom_ok {mp : MeshPacket} (h : updateFrom P db mp = .ok db') :
    (db'.devicestate.nodeDb = db.devicestate.nodeDb ∨
      ∃ p i, mp.payload = .decoded p ∧
        upsert P mp.«from» (packetRewrite mp p) db.devicestate.nodeDb =
          .ok (i, db'.devicestate.nodeDb)) ∧
      db'.devicestate = { db.devicestate with nodeDb := db'.devicestate.nodeDb } := by
  cases hp : mp.payload with
  | encrypted b =>
    rw [updateFrom_encrypted hp] at h
    cases h
    exact ⟨.inl rfl, rfl⟩
  | decoded p =>
    rw [updateFrom_decoded hp, except_map_eq_ok] at h
    obtain ⟨⟨i, nodes⟩, hu, rfl⟩ := h
    exact ⟨.inr ⟨p, i, rfl, by simpa using hu⟩, by simp [setNodes]⟩

end spec

/-! ## Reads of the table, and the error record -/

/-- `sinceLastSeen(n)` with `getTime()` returning `now`: `(int)(now - last_seen)`, a
difference modulo `2^32` that reads as negative, and then counts as `0`, from `2^31` on. -/
def sinceLastSeen (now : UInt32) (n : NodeInfo) : UInt32 :=
  let delta := now - n.position.time
  if delta.toNat < 2 ^ 31 then delta else 0

def numOnlineSecs : UInt32 := 60 * 2

def getNumOnlineNodes (now : UInt32) (nodes : List NodeInfo) : Nat :=
  nodes.countP fun n => sinceLastSeen now n < numOnlineSecs

/-- `NodeDB::readNextInfo`: the record at `readPointer`, which then moves on, or `NULL` past
the end. -/
def readNextInfo (db : NodeDB) : Option NodeInfo × NodeDB :=
  if db.readPointer < db.devicestate.nodeDb.length then
    (db.devicestate.nodeDb[db.readPointer]?, { db with readPointer := db.readPointer + 1 })
  else (none, db)

def recordCriticalError (code : Nat) (address : UInt32) (db : NodeDB) : NodeDB :=
  { db with devicestate.myNode := { db.devicestate.myNode with
    errorCode := code
    errorAddress := address
    errorCount := db.devicestate.myNode.errorCount + 1 } }

end NodeDB
end MeshNodeDB
