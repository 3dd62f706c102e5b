import MeshNodeDB.Boot
import MeshNodeDB.Order

/-! # What `init` leaves

`init` installs a default record, loads the saved one over it, then takes the build's
fields, picks the node number, enters this node in the catalog and runs
`resetRadioConfig` once more. Unless the loaded record asks for a factory reset, that last
call changes only the radio settings, and the node's own record and the build's fields
stay in place under every later update. The keys `init` adds are this node's number and
what the file held; the updates add the nodes they name, whatever those are. -/

namespace MeshNodeDB
namespace NodeDB

variable (P : Platform) (hw : Hardware) {Blob : Type}

theorem init_ok {fuel : Nat} {codec : Codec Blob} {fs : FileSystem Blob} {db db₀ : NodeDB}
    (h : init P hw fuel codec fs db = .ok db₀) :
    ∃ dbI dbL, installDefaultDeviceState P hw fuel db = .ok dbI ∧
      loadFromDisk P hw fuel codec fs dbI = .ok dbL ∧ initFromLoaded P hw fuel dbL = .ok db₀ := by
  unfold init at h
  cases hI : installDefaultDeviceState P hw fuel db with
  | error e => simp [hI, bind, Except.bind] at h
  | ok dbI =>
    cases hL : loadFromDisk P hw fuel codec fs dbI with
    | error e => simp [hI, hL, bind, Except.bind] at h
    | ok dbL =>
      simp only [hI, hL, bind, Except.bind] at h
      exact ⟨dbI, dbL, rfl, hL, h⟩

variable {P hw}

theorem initFromLoaded_keys {fuel : Nat} {db db' : NodeDB}
    (h : initFromLoaded P hw fuel db = .ok db') {k : NodeNum}
    (hk : k ∈ keys db'.devicestate.nodeDb) :
    k ∈ keys db.devicestate.nodeDb ∨ (numReserved ≤ k ∧ k ≠ P.nodenumBroadcast) := by
  obtain ⟨db₁, db₂, b, h₁, h₂, h₃⟩ := initFromLoaded_ok P hw h
  obtain ⟨i, hu, -⟩ := insertOwner_ok P h₂
  have e₁ : db₁.devicestate.nodeDb = db.devicestate.nodeDb := by
    rw [pickNewNodeNum_devicestate h₁]; rfl
  have hk₂ : k ∈ keys db₂.devicestate.nodeDb := by
    rcases resetRadioConfig_nodeDb P hw h₃ with e | e <;> rw [e] at hk
    · rwa [setBuildStrings_devicestate] at hk
    · cases hk
  rcases upsert_mem_keys hu hk₂ with hk₁ | rfl
  · exact .inl (e₁ ▸ hk₁)
  · exact .inr ⟨(pickNewNodeNum_spec h₁).1, (pickNewNodeNum_spec h₁).2.1⟩

/-- A record keyed `0` or `NODENUM_BROADCAST`, in a state reached from `init` by catalog
updates, was in the table the saved file held, or an update named that node. -/
theorem reserved_key_from_file_or_update {fuel : Nat} {codec : Codec Blob}
    {fs : FileSystem Blob} {dbOld db₀ db : NodeDB} {us : List Update}
    (hinit : init P hw fuel codec fs dbOld = .ok db₀) (hrun : Update.runAll P db₀ us = .ok db)
    {k : NodeNum} (hk : k ∈ keys db.devicestate.nodeDb) (hres : k = 0 ∨ k = P.nodenumBroadcast) :
    (∃ b s, fs.preffile = some b ∧ codec.decode b = .ok s ∧ k ∈ keys s.nodeDb) ∨
      ∃ u ∈ us, u.nodeId = k := by
  rcases Update.runAll_keys hrun hk with hk₀ | hu
  · left
    obtain ⟨dbI, dbL, hI, hL, hF⟩ := init_ok P hw hinit
    have hkL : k ∈ keys dbL.devicestate.nodeDb := by
      rcases initFromLoaded_keys hF hk₀ with h | ⟨h4, hb⟩
      · exact h
      · rcases hres with rfl | rfl
        · exact absurd h4 (by decide)
        · exact absurd rfl hb
    rcases loadFromDisk_devicestate P hw hL with rfl | ⟨rc, r, he⟩ | ⟨b, s, hb, hs, he⟩
    · rw [installDefaultDeviceState_nodeDb P hw hI] at hkL; cases hkL
    · rw [he] at hkL; cases hkL
    · exact ⟨b, s, hb, hs, he ▸ hkL⟩
  · exact .inr hu

theorem reserved_key_from_file_or_update_zero :
    (∃ b s, (⟨none, none⟩ : FileSystem Unit).preffile = some b ∧
        (⟨fun _ => (), fun _ => .failed {}⟩ : Codec Unit).decode b = .ok s ∧
        (0 : NodeNum) ∈ keys s.nodeDb) ∨
      ∃ u ∈ [Update.updateFrom ⟨0, 0xffffffff, 0, 0, .decoded (.other 0)⟩], u.nodeId = 0 :=
  @reserved_key_from_file_or_update Platform.demo Hardware.demo Unit 0
    ⟨fun _ => (), fun _ => .failed {}⟩ ⟨none, none⟩ {} _ _
    [.updateFrom ⟨0, 0xffffffff, 0, 0, .decoded (.other 0)⟩] rfl rfl 0 (by decide) (.inl rfl)

/-- With no saved file, `init` then one packet from node `0` stores a record keyed `0`. -/
theorem init_then_packet_from_zero :
    ∃ db₀ db, init Platform.demo Hardware.demo 0
        (⟨fun _ => (), fun _ => .failed {}⟩ : Codec Unit) ⟨none, none⟩ {} = .ok db₀ ∧
      Update.runAll Platform.demo db₀ [.updateFrom ⟨0, 0xffffffff, 0, 0, .decoded (.other 0)⟩] =
        .ok db ∧
      (0 : NodeNum) ∈ keys db.devicestate.nodeDb :=
  ⟨_, _, rfl, rfl, by decide⟩

/-! ## This node's record and the build's fields -/

/-- What `init` sets up for this node: its record in the catalog under its number, and the
fields taken from the running build. -/
structure Booted (P : Platform) (db : NodeDB) : Prop where
  own : db.devicestate.myNode.myNodeNum ∈ keys db.devicestate.nodeDb
  nodeNumBits : db.devicestate.myNode.nodeNumBits = 32
  packetIdBits : db.devicestate.myNode.packetIdBits = UInt32.ofNat (P.sizeofPacketId * 8)
  errorCode : db.devicestate.myNode.errorCode = criticalErrorCodeNone
  errorAddress : db.devicestate.myNode.errorAddress = 0
  minAppVersion : db.devicestate.myNode.minAppVersion = 20120
  firmwareVersion : db.devicestate.myNode.firmwareVersion = P.appVersion
  hwModel : db.devicestate.myNode.hwModel = P.hwVendor

/-- A step after `init`: a catalog update, or `resetRadioConfig` on settings that ask for no
factory reset. -/
inductive LaterStep (P : Platform) (hw : Hardware) : NodeDB → NodeDB → Prop
  | update {db db' : NodeDB} (u : Update) : u.run P db = .ok db' → LaterStep P hw db db'
  | resetRadioConfig {db db' : NodeDB} {fuel : Nat} {b : Bool} :
      db.devicestate.radio.preferences.factoryReset = false →
      resetRadioConfig P hw fuel db = .ok (db', b) → LaterStep P hw db db'

theorem LaterStep.frame {db db' : NodeDB} (h : LaterStep P hw db db') :
    (∀ k ∈ keys db.devicestate.nodeDb, k ∈ keys db'.devicestate.nodeDb) ∧
      db'.devicestate.myNode = db.devicestate.myNode := by
  cases h with
  | update u h =>
    refine ⟨fun k hk => ?_, by rw [(Update.run_frame h).2]⟩
    rcases (Update.run_frame h).1 with e | ⟨w, i, hu⟩
    · exact e ▸ hk
    · rcases upsert_keys hu with e | ⟨e, -⟩ <;> rw [e]
      · exact hk
      · exact List.mem_append_left _ hk
  | resetRadioConfig hf h =>
    rw [resetRadioConfig_unflagged P hw hf] at h
    cases h
    have e := (resetRadioConfigUnflagged_devicestate P db).1
    exact ⟨fun k hk => by rwa [e], by rw [e]⟩

theorem LaterStep.noSave {db db' : NodeDB} (h : LaterStep P hw db db') :
    db'.devicestate.noSave = db.devicestate.noSave := by
  cases h with
  | update u h => rw [(Update.run_frame h).2]
  | resetRadioConfig hf h =>
    rw [resetRadioConfig_unflagged P hw hf] at h
    cases h
    rw [(resetRadioConfigUnflagged_devicestate P db).1]

theorem LaterStep.booted {db db' : NodeDB} (h : LaterStep P hw db db') (hb : Booted P db) :
    Booted P db' := by
  obtain ⟨hk, hm⟩ := h.frame
  exact ⟨hm ▸ hk _ hb.own, hm ▸ hb.nodeNumBits, hm ▸ hb.packetIdBits, hm ▸ hb.errorCode,
    hm ▸ hb.errorAddress, hm ▸ hb.minAppVersion, hm ▸ hb.firmwareVersion, hm ▸ hb.hwModel⟩

theorem initFromLoaded_booted {fuel : Nat} {db db₀ : NodeDB}
    (hf : db.devicestate.radio.preferences.factoryReset = false)
    (h : initFromLoaded P hw fuel db = .ok db₀) :
    Booted P db₀ ∧ ∃ x, lookup db₀.devicestate.nodeDb db₀.devicestate.myNode.myNodeNum = some x ∧
      x.hasUser = true ∧ x.user = db₀.devicestate.owner := by
  obtain ⟨db₁, db₂, h₁, h₂, rfl⟩ := initFromLoaded_unflagged P hw hf h
  obtain ⟨i, hu, he⟩ := insertOwner_ok P h₂
  have e₀ := (resetRadioConfigUnflagged_devicestate P (setBuildStrings P db₂)).1
  have hs := setBuildStrings_devicestate P db₂
  have e₂ : db₂.devicestate = { db₁.devicestate with nodeDb := db₂.devicestate.nodeDb } := by
    rw [he]; rfl
  have e₁ := pickNewNodeNum_devicestate h₁
  have hnodes : (resetRadioConfigUnflagged P (setBuildStrings P db₂)).devicestate.nodeDb =
      db₂.devicestate.nodeDb := by rw [e₀, hs]
  have hmy : (resetRadioConfigUnflagged P (setBuildStrings P db₂)).devicestate.myNode =
      { db₁.devicestate.myNode with
        region := (setBuildStrings P db₂).devicestate.myNode.region
        firmwareVersion := P.appVersion
        hwModel := P.hwVendor } := by rw [e₀, hs, e₂]
  have howner : (resetRadioConfigUnflagged P (setBuildStrings P db₂)).devicestate.owner =
      db₁.devicestate.owner := by rw [e₀, hs, e₂]
  have hmem := upsert_mem_self hu
  refine ⟨⟨?_, ?_, ?_, ?_, ?_, ?_, ?_, ?_⟩, ?_⟩ <;> rw [hmy]
  · rwa [hnodes]
  all_goals try (rw [e₁]; rfl)
  rw [hnodes, howner, lookup_eq_some_current hmem, current_upsert hu]
  exact ⟨_, rfl, rfl, rfl⟩

theorem init_unflagged {fuel : Nat} {codec : Codec Blob} {fs : FileSystem Blob}
    {dbOld db₀ : NodeDB} (hinit : init P hw fuel codec fs dbOld = .ok db₀)
    (hflag : ∀ b s, fs.preffile = some b → codec.decode b = .ok s →
      s.radio.preferences.factoryReset = false) :
    ∃ dbL, dbL.devicestate.radio.preferences.factoryReset = false ∧
      initFromLoaded P hw fuel dbL = .ok db₀ := by
  obtain ⟨dbI, dbL, hI, hL, hF⟩ := init_ok P hw hinit
  refine ⟨dbL, ?_, hF⟩
  rcases loadFromDisk_devicestate P hw hL with rfl | ⟨rc, r, he⟩ | ⟨b, s, hb, hs, he⟩
  · obtain ⟨d, hd, he⟩ := installDefaultDeviceState_eq P hw fuel dbOld
    rw [hI] at hd
    cases hd
    rw [he]; rfl
  · rw [he]; rfl
  · rw [he]; exact hflag b s hb hs

/-- `init` aborts, for every device and every bound on `pickNewNodeNum`'s retries, when the
saved record is taken as decoded, its node number is valid and held by no record, and its
table is full: entering this node in the catalog needs one more record. -/
theorem init_aborts_of_full_table {fuel : Nat} {codec : Codec Blob} {fs : FileSystem Blob}
    {b : Blob} {s : DeviceState} (hb : fs.preffile = some b) (hs : codec.decode b = .ok s)
    (hv : ¬ s.version < devicestateMinVer)
    (hnum : numReserved ≤ s.myNode.myNodeNum ∧ s.myNode.myNodeNum ≠ P.nodenumBroadcast)
    (hfree : s.myNode.myNodeNum ∉ keys s.nodeDb) (hfull : P.maxNumNodes ≤ s.nodeDb.length)
    (db : NodeDB) : init P hw fuel codec fs db = .error .assertFailed := by
  obtain ⟨dbI, hI, -⟩ := installDefaultDeviceState_eq P hw fuel db
  set dbL := setBuildFields P { dbI with devicestate := s }
  have h₁ : pickNewNodeNum P hw fuel dbL = .ok dbL :=
    pickNewNodeNum_of_acceptable ⟨hnum.1, hnum.2, .inl (lookup_eq_none.2 hfree)⟩
  have h₂ : insertOwner P dbL = .error .assertFailed := by
    rw [insertOwner_eq, except_map_eq_error, upsert_eq_error]
    exact getOrCreateNode_eq_error.2 ⟨rfl, hfree, hfull⟩
  simp [init, hI, loadFromDisk_decoded P hw hb hs hv, initFromLoaded, h₁, h₂, bind, Except.bind]

/-- A saved record of the current version whose table holds 32 peers, numbered `100` to
`131`, none of them this node's number `5`: on every device, every boot aborts. -/
theorem init_aborts_on_full_saved_table (hw : Hardware) (fuel : Nat) :
    init Platform.demo hw fuel
      (⟨fun _ => (), fun _ => .ok
        { version := 11
          myNode := { myNodeNum := 5 }
          nodeDb := (List.range 32).map fun i => { num := UInt32.ofNat (100 + i) } }⟩ :
        Codec Unit)
      ⟨some (), none⟩ {} = .error .assertFailed :=
  init_aborts_of_full_table rfl rfl (by decide) ⟨by decide, by decide⟩ (by decide) (by decide) {}

/-! ## No saved record -/

theorem loadFromDisk_of_no_saved_record (fuel : Nat) {codec : Codec Blob}
    {fs : FileSystem Blob} (hfile : ∀ b s, fs.preffile = some b → codec.decode b = .ok s →
      s.version < devicestateMinVer)
    {db : NodeDB} {rc : RegionCode} {r : String}
    (hd : db.devicestate = defaultDeviceState P hw.macAddr rc r) :
    ∃ dbL rc' r', loadFromDisk P hw fuel codec fs db = .ok dbL ∧
      dbL.devicestate = defaultDeviceState P hw.macAddr rc' r' := by
  have hdef : ∀ d, ∃ dbL rc' r', installDefaultDeviceState P hw fuel d = .ok dbL ∧
      dbL.devicestate = defaultDeviceState P hw.macAddr rc' r' := fun d => by
    obtain ⟨d', hd', he⟩ := installDefaultDeviceState_eq P hw fuel d
    exact ⟨d', _, _, hd', he⟩
  unfold loadFromDisk
  split
  · exact ⟨db, rc, r, rfl, hd⟩
  · rename_i b hb
    split
    · exact hdef _
    · rename_i s hs
      rw [if_pos (hfile b s hb hs)]
      exact hdef _

theorem initFromLoaded_of_default (fuel : Nat) (hroom : 0 < P.maxNumNodes) {db : NodeDB}
    {rc : RegionCode} {r : String} (hd : db.devicestate = defaultDeviceState P hw.macAddr rc r) :
    ∃ db₀, initFromLoaded P hw fuel db = .ok db₀ ∧
      keys db₀.devicestate.nodeDb = [db₀.devicestate.myNode.myNodeNum] := by
  have hn : (setBuildFields P db).devicestate.nodeDb = [] := by
    simp only [setBuildFields, hd]; rfl
  obtain ⟨d₁, h₁⟩ : ∃ d₁, pickNewNodeNum P hw fuel (setBuildFields P db) = .ok d₁ :=
    ⟨_, by rw [pickNewNodeNum_eq, hn, pickLoop_free (takenByOther_nil _ _)]; rfl⟩
  have hn₁ : d₁.devicestate.nodeDb = [] := by rw [pickNewNodeNum_devicestate h₁]; exact hn
  have h₂ : insertOwner P d₁ = .ok (d₁.setNodes
      [(setUser d₁.devicestate.owner).apply { num := d₁.devicestate.myNode.myNodeNum }]) := by
    rw [insertOwner_eq, hn₁, upsert_of_none (show getNode [] _ = none from rfl) hroom]
    rfl
  have hf := (initFromLoaded_radio P hw h₁ h₂).trans (by rw [hd])
  refine ⟨_, initFromLoaded_of_steps P hw h₁ h₂ (resetRadioConfig_unflagged P hw hf), ?_⟩
  rw [(resetRadioConfigUnflagged_devicestate P _).1, setBuildStrings_devicestate]
  rfl

/-- First boot never halts: when the flash holds no record `init` takes (no file, one
`pb_decode` fails on, or one of an older version) and the table has a slot, `init` returns
on every device and for every bound on `pickNewNodeNum`'s retries, and its catalog holds
this node's own record and nothing else. Its aborts, the full table and the endless retry
loop, need a saved record. -/
theorem init_of_no_saved_record {fuel : Nat} {codec : Codec Blob} {fs : FileSystem Blob}
    (hroom : 0 < P.maxNumNodes)
    (hfile : ∀ b s, fs.preffile = some b → codec.decode b = .ok s →
      s.version < devicestateMinVer)
    (db : NodeDB) :
    ∃ db₀, init P hw fuel codec fs db = .ok db₀ ∧
      keys db₀.devicestate.nodeDb = [db₀.devicestate.myNode.myNodeNum] := by
  obtain ⟨dbI, hI, hdI⟩ := installDefaultDeviceState_eq P hw fuel db
  obtain ⟨dbL, rc, r, hL, hdL⟩ := loadFromDisk_of_no_saved_record fuel hfile hdI
  obtain ⟨db₀, hF, hk⟩ := initFromLoaded_of_default fuel hroom hdL
  exact ⟨db₀, by simp only [init, hI, hL, bind, Except.bind, hF], hk⟩

/-- An empty flash, on the demo build. -/
theorem init_of_no_saved_record_empty_flash :
    ∃ db₀, init Platform.demo Hardware.demo 0 (⟨fun _ => (), fun _ => .failed {}⟩ : Codec Unit)
        ⟨none, none⟩ {} = .ok db₀ ∧
      keys db₀.devicestate.nodeDb = [db₀.devicestate.myNode.myNodeNum] :=
  init_of_no_saved_record (by decide) (fun _ _ h => by cases h) {}

end NodeDB
end MeshNodeDB
