import MeshNodeDB.Update

/-! # The sender's record, online counts, and announcements

A decoded packet rewrites its sender's record by `packetRewrite` of the record
`getOrCreateNode` hands out. A receive time marks the record as having a position and
stamps that time, which a legacy position payload then overwrites with the sender's own.
`sinceLastSeen` reads the `uint32` difference `now - last_seen` as an `int`: it is the
clamped integer difference while that difference lies in `[-2^31, 2^31)`, and not beyond,
so from `now = 2^31` on a record never stamped counts as online. A packet from a sender
without a record appends one, and only some payload kinds tell the observers. -/

namespace MeshNodeDB
namespace NodeDB

variable {P : Platform}

theorem updateFrom_sender {db db' : NodeDB} {mp : MeshPacket} {p : SubPacket}
    (hp : mp.payload = .decoded p) (h : updateFrom P db mp = .ok db') :
    lookup db'.devicestate.nodeDb mp.«from» =
      some ((packetRewrite mp p).apply (current db.devicestate.nodeDb mp.«from»)) := by
  rw [updateFrom_decoded hp, except_map_eq_ok] at h
  obtain ⟨⟨i, nodes⟩, hu, rfl⟩ := h
  rw [fromEffect_devicestate, setNodes_nodeDb, upsert_table hu, lookup_upserted, if_pos rfl]
  rfl

/-! ## The receive time -/

theorem sinceLastSeen_toNat (now : UInt32) (x : NodeInfo) :
    (sinceLastSeen now x).toNat =
      if (now.toNat + (2 ^ 32 - x.position.time.toNat)) % 2 ^ 32 < 2 ^ 31 then
        (now.toNat + (2 ^ 32 - x.position.time.toNat)) % 2 ^ 32 else 0 := by
  have h1 : (now - x.position.time).toNat =
      (now.toNat + (2 ^ 32 - x.position.time.toNat)) % 2 ^ 32 := by
    simp [UInt32.toNat, UInt32.sub_def, BitVec.toNat_sub]
    omega
  unfold sinceLastSeen
  dsimp only
  rw [h1]
  split_ifs <;> simp_all

theorem sinceLastSeen_self {now : UInt32} {x : NodeInfo} (h : x.position.time = now) :
    sinceLastSeen now x = 0 := by
  have hlt : now.toNat < 2 ^ 32 := now.toNat_lt_size
  have h0 : (now.toNat + (2 ^ 32 - now.toNat)) % 2 ^ 32 = 0 := by omega
  apply UInt32.toNat.inj
  rw [sinceLastSeen_toNat, h, h0]
  rfl

/-- A timestamped packet marks its sender as having a position; unless its payload is a
legacy position, the sender's record holds the receive time, so the sender counts as online
at that time; a legacy position payload leaves the sender's own position, time included. -/
theorem updateFrom_stamps_sender {db db' : NodeDB} {mp : MeshPacket} {p : SubPacket}
    (hp : mp.payload = .decoded p) (ht : mp.rxTime ≠ 0) (h : updateFrom P db mp = .ok db') :
    ∃ x, lookup db'.devicestate.nodeDb mp.«from» = some x ∧ x.hasPosition = true ∧
      (∀ pos, p = .position pos → x.position = pos) ∧
      ((∀ pos, p ≠ .position pos) →
        x.position.time = mp.rxTime ∧ sinceLastSeen mp.rxTime x < numOnlineSecs) := by
  set x := (packetRewrite mp p).apply (current db.devicestate.nodeDb mp.«from»)
  have hx : x.hasPosition = true ∧ (x.position.time = mp.rxTime ∨ ∃ pos, p = .position pos) := by
    cases p <;> simp [x, packetRewrite, payloadRewrite, stampTime, setSnr, setPosition, setUser,
      Rewrite.keep, ht]
  refine ⟨x, updateFrom_sender hp h, hx.1, fun pos hpos => ?_, fun hno => ?_⟩
  · subst hpos; simp [x, packetRewrite, payloadRewrite, setPosition]
  · have htime := hx.2.resolve_right fun ⟨pos, hpos⟩ => hno pos hpos
    rw [sinceLastSeen_self htime]
    exact ⟨htime, by decide⟩

theorem updateFrom_stamps_sender_user :
    ∃ db', updateFrom Platform.demo {} ⟨5, 0xffffffff, 1000, 0, .decoded (.user {})⟩ = .ok db' ∧
      ∃ x, lookup db'.devicestate.nodeDb 5 = some x ∧ x.hasPosition = true ∧
        (∀ pos, SubPacket.user {} = .position pos → x.position = pos) ∧
        ((∀ pos, SubPacket.user {} ≠ .position pos) →
          x.position.time = 1000 ∧ sinceLastSeen 1000 x < numOnlineSecs) :=
  ⟨_, rfl, @updateFrom_stamps_sender Platform.demo {} _
    ⟨5, 0xffffffff, 1000, 0, .decoded (.user {})⟩ _ rfl (by decide) rfl⟩

/-- A legacy position payload carrying the sender's time `0`, received at `1000`: the
sender's record is `1000` seconds old at its own receive time. -/
theorem updateFrom_position_keeps_sender_time :
    ∃ db' x, updateFrom Platform.demo {}
        ⟨5, 0xffffffff, 1000, 0, .decoded (.position {})⟩ = .ok db' ∧
      lookup db'.devicestate.nodeDb 5 = some x ∧ x.hasPosition = true ∧
      numOnlineSecs ≤ sinceLastSeen 1000 x :=
  ⟨_, _, rfl, rfl, rfl, by decide⟩

/-! ## Online nodes -/

/-- `getNumOnlineNodes` as the specification counts: the records whose `now - position.time`,
taken over the integers and clamped at `0`, is below `NUM_ONLINE_SECS`. -/
def numOnlineBySpec (now : UInt32) (nodes : List NodeInfo) : Nat :=
  nodes.countP fun n => max 0 ((now.toNat : Int) - n.position.time.toNat) < numOnlineSecs.toNat

theorem sinceLastSeen_of_close (now : UInt32) (x : NodeInfo)
    (h : -2 ^ 31 ≤ (now.toNat : Int) - x.position.time.toNat ∧
      (now.toNat : Int) - x.position.time.toNat < 2 ^ 31) :
    ((sinceLastSeen now x).toNat : Int) = max 0 ((now.toNat : Int) - x.position.time.toNat) := by
  have := now.toNat_lt_size
  have := x.position.time.toNat_lt_size
  rw [sinceLastSeen_toNat]
  simp only [UInt32.size] at *
  split_ifs <;> omega

/-- While every record was stamped less than `2^31` seconds from `now`, on either side,
`getNumOnlineNodes` counts what the specification counts. -/
theorem getNumOnlineNodes_of_close {now : UInt32} {nodes : List NodeInfo}
    (h : ∀ x ∈ nodes, -2 ^ 31 ≤ (now.toNat : Int) - x.position.time.toNat ∧
      (now.toNat : Int) - x.position.time.toNat < 2 ^ 31) :
    getNumOnlineNodes now nodes = numOnlineBySpec now nodes := by
  unfold getNumOnlineNodes numOnlineBySpec
  apply List.countP_congr
  intro x hx
  have e := sinceLastSeen_of_close now x (h x hx)
  simp only [decide_eq_true_eq, uint32_lt_iff]
  omega

/-- At `now = 2^31` a record never stamped is `2^31` seconds old over the integers, but
`(int)(now - 0)` is negative and counts as `0`: `getNumOnlineNodes` counts it as online. -/
theorem getNumOnlineNodes_counts_unstamped :
    getNumOnlineNodes 0x80000000 [{}] = 1 ∧ numOnlineBySpec 0x80000000 [{}] = 0 := by
  decide

/-! ## Announcing a new sender -/

end NodeDB
end MeshNodeDB
