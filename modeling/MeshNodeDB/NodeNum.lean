import MeshNodeDB.Catalog

/-! # Picking this node's number

`pickNewNodeNum`: start from the stored number or the last four MAC bytes, step over the
reserved numbers, then retry with `random(NUM_RESERVED, NODENUM_BROADCAST)` while another
device's record holds the candidate. Both arguments of that call are `long`s, 32 bits wide
on the targets, and Arduino's `random(howsmall, howbig)` returns `howsmall` when
`howsmall >= howbig`. The loop has no bound in the source; the model runs it for at most
`fuel` retries and reports `outOfFuel` after that. -/

namespace MeshNodeDB
namespace NodeDB

/-- `NUM_RESERVED`: node numbers below it are never picked. -/
def numReserved : NodeNum := 4

/-- `(long)x` on a target whose `long` has 32 bits. -/
def toLong (x : UInt32) : Int := if x.toNat < 2 ^ 31 then x.toNat else x.toNat - 2 ^ 32

def ofLong (v : Int) : NodeNum := UInt32.ofNat (v % 2 ^ 32).toNat

/-- Arduino's `random(long howbig)` as the `k`-th use of the platform's `random()`; it
returns the value and the index of the next use. -/
def randomBelow (hw : Hardware) (k : Nat) (howbig : Int) : Int × Nat :=
  if howbig = 0 then (0, k) else ((hw.random k : Int) % howbig, k + 1)

/-- Arduino's `random(long howsmall, long howbig)`. -/
def random (hw : Hardware) (k : Nat) (howsmall howbig : Int) : Int × Nat :=
  if howsmall ≥ howbig then (howsmall, k)
  else
    let (v, k') := randomBelow hw k (howbig - howsmall)
    (v + howsmall, k')

def macNodeNum (mac : MacAddr) : NodeNum :=
  (mac.get 2).toUInt32 <<< 24 ||| (mac.get 3).toUInt32 <<< 16 |||
    (mac.get 4).toUInt32 <<< 8 ||| (mac.get 5).toUInt32

/-- The loop test `(found = getNode(r)) && memcmp(found->user.macaddr, owner.macaddr, …)`:
a record keyed `r` belongs to a device with another MAC. -/
def takenByOther (nodes : List NodeInfo) (owner : MacAddr) (r : NodeNum) : Bool :=
  match getNode nodes r with
  | some i => (nodes.getD i {}).user.macaddr ≠ owner
  | none => false

variable (P : Platform) (hw : Hardware)

/-- The retry loop of `pickNewNodeNum` from candidate `r` and the `k`-th use of `random()`,
for at most `fuel` retries: the accepted candidate and the next use. -/
def pickLoop (nodes : List NodeInfo) (owner : MacAddr) :
    Nat → NodeNum → Nat → Except Halt (NodeNum × Nat)
  | 0, r, k => if takenByOther nodes owner r then .error .outOfFuel else .ok (r, k)
  | fuel + 1, r, k =>
    if takenByOther nodes owner r then
      let (n, k') := random hw k (toLong numReserved) (toLong P.nodenumBroadcast)
      pickLoop nodes owner fuel (ofLong n) k'
    else .ok (r, k)

/-- The first candidate: the stored number, or the MAC's when there is none, moved to
`NUM_RESERVED` when it is reserved or the broadcast address. -/
def firstCandidate (myNodeNum : NodeNum) (mac : MacAddr) : NodeNum :=
  let r := if myNodeNum = 0 then macNodeNum mac else myNodeNum
  if r = P.nodenumBroadcast ∨ r < numReserved then numReserved else r

def pickNewNodeNum (fuel : Nat) (db : NodeDB) : Except Halt NodeDB := do
  let r := firstCandidate P db.devicestate.myNode.myNodeNum db.ourMacAddr
  let (r, k) ← pickLoop P hw db.devicestate.nodeDb db.devicestate.owner.macaddr fuel r
    db.randomCalls
  pure { db with devicestate.myNode.myNodeNum := r, randomCalls := k }

/-! ## What the loop returns -/

section loop

variable {P hw} {nodes : List NodeInfo} {owner : MacAddr}

theorem random_retry (k : Nat) :
    numReserved ≤ ofLong (random hw k (toLong numReserved) (toLong P.nodenumBroadcast)).1 ∧
      ofLong (random hw k (toLong numReserved) (toLong P.nodenumBroadcast)).1 ≠
        P.nodenumBroadcast := by
  have hb := P.reserved_lt_broadcast
  have hb' : P.nodenumBroadcast.toNat < 2 ^ 32 := P.nodenumBroadcast.toNat_lt_size
  have h4 : toLong numReserved = 4 := rfl
  rw [h4]
  unfold random
  split_ifs with hge
  · refine ⟨show numReserved ≤ ofLong 4 by decide, fun h => ?_⟩
    have h' : P.nodenumBroadcast.toNat = 4 := by rw [← h]; rfl
    omega
  · have hlong : toLong P.nodenumBroadcast = P.nodenumBroadcast.toNat := by
      unfold toLong at hge ⊢; split_ifs at hge ⊢ <;> omega
    have hlt : P.nodenumBroadcast.toNat < 2 ^ 31 := by
      unfold toLong at hlong; split_ifs at hlong <;> omega
    rw [hlong] at hge ⊢
    have hpos : (0 : Int) < P.nodenumBroadcast.toNat - 4 := by omega
    simp only [randomBelow, hpos.ne', if_false]
    have hm := Int.emod_nonneg (hw.random k : Int) hpos.ne'
    have hm' := Int.emod_lt_of_pos (hw.random k : Int) hpos
    simp only [uint32_le_iff, ne_eq, uint32_eq_iff, ofLong, uint32_toNat_ofNat]
    have hr : numReserved.toNat = 4 := rfl
    omega

theorem pickLoop_accepts {fuel : Nat} {r r' : NodeNum} {k k' : Nat}
    (h : pickLoop P hw nodes owner fuel r k = .ok (r', k')) :
    takenByOther nodes owner r' = false := by
  induction fuel generalizing r k with
  | zero =>
    simp only [pickLoop] at h
    split_ifs at h with hr
    cases h; simpa using hr
  | succ fuel ih =>
    simp only [pickLoop] at h
    split_ifs at h with hr
    · exact ih h
    · cases h; simpa using hr

theorem pickLoop_result {fuel : Nat} {r r' : NodeNum} {k k' : Nat}
    (h : pickLoop P hw nodes owner fuel r k = .ok (r', k')) :
    r' = r ∨ ∃ j, r' = ofLong (random hw j (toLong numReserved) (toLong P.nodenumBroadcast)).1 := by
  induction fuel generalizing r k with
  | zero =>
    simp only [pickLoop] at h
    split_ifs at h
    cases h; exact .inl rfl
  | succ fuel ih =>
    simp only [pickLoop] at h
    split_ifs at h
    · rcases ih h with rfl | h'
      · exact .inr ⟨k, rfl⟩
      · exact .inr h'
    · cases h; exact .inl rfl

theorem takenByOther_nil (owner : MacAddr) (r : NodeNum) : takenByOther [] owner r = false :=
  rfl

theorem pickLoop_free {fuel : Nat} {r : NodeNum} {k : Nat}
    (h : takenByOther nodes owner r = false) : pickLoop P hw nodes owner fuel r k = .ok (r, k) := by
  cases fuel <;> simp [pickLoop, h]

theorem firstCandidate_valid (myNodeNum : NodeNum) (mac : MacAddr) :
    numReserved ≤ firstCandidate P myNodeNum mac ∧
      firstCandidate P myNodeNum mac ≠ P.nodenumBroadcast := by
  have hb := P.reserved_lt_broadcast
  have clamp : ∀ r : NodeNum,
      numReserved ≤ (if r = P.nodenumBroadcast ∨ r < numReserved then numReserved else r) ∧
        (if r = P.nodenumBroadcast ∨ r < numReserved then numReserved else r) ≠
          P.nodenumBroadcast := by
    intro r
    split_ifs with h
    · refine ⟨uint32_le_iff.2 (Nat.le_refl _), fun e => ?_⟩
      have : P.nodenumBroadcast.toNat = 4 := by rw [← e]; rfl
      omega
    · push_neg at h; exact ⟨uint32_le_iff.2 (Nat.le_of_not_lt h.2), h.1⟩
  exact clamp _

/-- When `NODENUM_BROADCAST` is at least `2^31`, its `(long)` conversion is negative, so
`random(NUM_RESERVED, NODENUM_BROADCAST)` returns `NUM_RESERVED` without using the source. -/
theorem random_retry_of_high_broadcast (hb : 2 ^ 31 ≤ P.nodenumBroadcast.toNat) (k : Nat) :
    random hw k (toLong numReserved) (toLong P.nodenumBroadcast) = (toLong numReserved, k) := by
  have hneg : toLong P.nodenumBroadcast < 0 := by
    have : P.nodenumBroadcast.toNat < 2 ^ 32 := P.nodenumBroadcast.toNat_lt_size
    unfold toLong
    split_ifs <;> omega
  have h4 : toLong numReserved = 4 := rfl
  simp only [random, h4] at hneg ⊢
  rw [if_pos (by omega)]

/-- So once the first candidate and `NUM_RESERVED` are both held by other devices, every
retry is `NUM_RESERVED` again, whatever the random source returns: the loop never ends. -/
theorem pickLoop_spins (hb : 2 ^ 31 ≤ P.nodenumBroadcast.toNat) {r : NodeNum}
    (hr : takenByOther nodes owner r = true)
    (h4 : takenByOther nodes owner numReserved = true) (fuel k : Nat) :
    pickLoop P hw nodes owner fuel r k = .error .outOfFuel := by
  induction fuel generalizing r with
  | zero => simp [pickLoop, hr]
  | succ fuel ih =>
    simp only [pickLoop, hr, if_true, random_retry_of_high_broadcast hb]
    exact ih h4

theorem firstCandidate_of_valid {r : NodeNum} (mac : MacAddr) (h₁ : numReserved ≤ r)
    (h₂ : r ≠ P.nodenumBroadcast) : firstCandidate P r mac = r := by
  have h0 : r ≠ 0 := by rintro rfl; exact absurd h₁ (by decide)
  have hlt : ¬ r < numReserved := by
    rw [uint32_le_iff] at h₁
    rw [uint32_lt_iff]
    omega
  simp [firstCandidate, h0, h₂, hlt]

theorem takenByOther_eq_false {r : NodeNum} :
    takenByOther nodes owner r = false ↔
      lookup nodes r = none ∨ ∃ x, lookup nodes r = some x ∧ x.user.macaddr = owner := by
  cases hg : getNode nodes r with
  | none => simp [takenByOther, lookup, hg]
  | some i => simp [takenByOther, lookup, hg, List.getD_eq_getElem?_getD, getNode_lt hg]

end loop

section pick

variable {P hw} {fuel : Nat} {db db' : NodeDB}

theorem pickNewNodeNum_eq :
    pickNewNodeNum P hw fuel db =
      (pickLoop P hw db.devicestate.nodeDb db.devicestate.owner.macaddr fuel
        (firstCandidate P db.devicestate.myNode.myNodeNum db.ourMacAddr) db.randomCalls).map
        fun r => { db with devicestate.myNode.myNodeNum := r.1, randomCalls := r.2 } := by
  unfold pickNewNodeNum
  dsimp only
  cases pickLoop P hw _ _ fuel _ _ <;> rfl

theorem pickNewNodeNum_devicestate (h : pickNewNodeNum P hw fuel db = .ok db') :
    db'.devicestate = { db.devicestate with myNode := { db.devicestate.myNode with
      myNodeNum := db'.devicestate.myNode.myNodeNum } } := by
  rw [pickNewNodeNum_eq, except_map_eq_ok] at h
  obtain ⟨r, -, rfl⟩ := h
  rfl

/-- The number picked is not reserved, not the broadcast address, and not held by
another device's record. -/
theorem pickNewNodeNum_spec (h : pickNewNodeNum P hw fuel db = .ok db') :
    numReserved ≤ db'.devicestate.myNode.myNodeNum ∧
      db'.devicestate.myNode.myNodeNum ≠ P.nodenumBroadcast ∧
      takenByOther db.devicestate.nodeDb db.devicestate.owner.macaddr
        db'.devicestate.myNode.myNodeNum = false := by
  rw [pickNewNodeNum_eq, except_map_eq_ok] at h
  obtain ⟨⟨r, k⟩, hl, rfl⟩ := h
  refine ⟨?_, ?_, pickLoop_accepts hl⟩ <;>
  · rcases pickLoop_result hl with rfl | ⟨j, rfl⟩
    · first | exact (firstCandidate_valid _ _).1 | exact (firstCandidate_valid _ _).2
    · first | exact (random_retry j).1 | exact (random_retry j).2

/-- What this node's number has to be: not reserved, not the broadcast address, and held by
no record, or by the record of a device with the owner's MAC. -/
def Acceptable (P : Platform) (nodes : List NodeInfo) (owner : MacAddr) (r : NodeNum) : Prop :=
  numReserved ≤ r ∧ r ≠ P.nodenumBroadcast ∧
    (lookup nodes r = none ∨ ∃ x, lookup nodes r = some x ∧ x.user.macaddr = owner)

theorem pickNewNodeNum_acceptable (h : pickNewNodeNum P hw fuel db = .ok db') :
    Acceptable P db.devicestate.nodeDb db.devicestate.owner.macaddr
      db'.devicestate.myNode.myNodeNum :=
  have hs := pickNewNodeNum_spec h
  ⟨hs.1, hs.2.1, takenByOther_eq_false.1 hs.2.2⟩

theorem pickNewNodeNum_of_acceptable
    (h : Acceptable P db.devicestate.nodeDb db.devicestate.owner.macaddr
      db.devicestate.myNode.myNodeNum) :
    pickNewNodeNum P hw fuel db = .ok db := by
  rw [pickNewNodeNum_eq, firstCandidate_of_valid _ h.1 h.2.1,
    pickLoop_free (takenByOther_eq_false.2 h.2.2)]
  rfl

end pick

/-- Whenever `pickNewNodeNum` returns, whatever the catalog, the owner's MAC, the stored
number and the random source, the number it leaves is acceptable; and a stored number that
is acceptable already is kept. -/
theorem pickNewNodeNum_valid_result (P : Platform) (hw : Hardware) (fuel : Nat) :
    (∀ db db', pickNewNodeNum P hw fuel db = .ok db' →
      Acceptable P db.devicestate.nodeDb db.devicestate.owner.macaddr
        db'.devicestate.myNode.myNodeNum) ∧
    ∀ db, Acceptable P db.devicestate.nodeDb db.devicestate.owner.macaddr
        db.devicestate.myNode.myNodeNum →
      pickNewNodeNum P hw fuel db = .ok db :=
  ⟨fun _ _ => pickNewNodeNum_acceptable, fun _ => pickNewNodeNum_of_acceptable⟩

theorem pickNewNodeNum_valid_result_kept :
    Acceptable Platform.demo [] (Mathlib.Vector.replicate 6 0) 5 ∧
      pickNewNodeNum Platform.demo Hardware.demo 0
          { devicestate := { myNode := { myNodeNum := 5 } } } =
        .ok { devicestate := { myNode := { myNodeNum := 5 } } } :=
  ⟨(pickNewNodeNum_valid_result Platform.demo Hardware.demo 0).1
      { devicestate := { myNode := { myNodeNum := 5 } } } _ rfl,
    (pickNewNodeNum_valid_result Platform.demo Hardware.demo 0).2 _
      ⟨by decide, by decide, .inl rfl⟩⟩

/-- The retry loop at a catalog where this device's stored number 5 and `NUM_RESERVED` are
held by two other devices, with `NODENUM_BROADCAST = UINT32_MAX`: for every random source
and every bound on the retries, no number is ever accepted. -/
theorem pickNewNodeNum_spins_on_collision (hw : Hardware) (fuel : Nat) :
    pickNewNodeNum Platform.demo hw fuel
      { devicestate :=
          { myNode := { myNodeNum := 5 }
            owner := { macaddr := Mathlib.Vector.replicate 6 3 }
            nodeDb :=
              [{ num := 5, hasUser := true,
                  user := { macaddr := Mathlib.Vector.replicate 6 1 } },
                { num := 4, hasUser := true,
                  user := { macaddr := Mathlib.Vector.replicate 6 2 } }] } } =
      .error .outOfFuel := by
  rw [pickNewNodeNum_eq, pickLoop_spins (by decide) (by decide) (by decide)]
  rfl

end NodeDB
end MeshNodeDB
