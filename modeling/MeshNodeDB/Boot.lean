import MeshNodeDB.Channel
import MeshNodeDB.NodeNum
import MeshNodeDB.Update

/-! # Default state, persistence and boot

`installDefaultDeviceState`, `resetRadioConfig` with its factory-reset branch,
`loadFromDisk`, `saveToDisk` and `init`. `pb_encode`/`pb_decode` are a `Codec` over
some blob type; a failed decode hands back whatever it had written into the zeroed
`devicestate`. The flash holds `/db.proto` and `/db.proto.tmp`, and the outcome of each
file-system call `saveToDisk` makes is an input. -/

namespace MeshNodeDB
namespace NodeDB

def devicestateCurVer : UInt32 := 11

def devicestateMinVer : UInt32 := devicestateCurVer

def hexDigit (upper : Bool) (d : Nat) : Char :=
  if d < 10 then Char.ofNat ('0'.toNat + d)
  else Char.ofNat ((if upper then 'A' else 'a').toNat + d - 10)

def hexByte (upper : Bool) (b : UInt8) : String :=
  String.mk [hexDigit upper (b.toNat / 16), hexDigit upper (b.toNat % 16)]

/-- `"!%02x%02x%02x%02x%02x%02x"` of the MAC: the id of a user nobody has configured. -/
def macId (mac : MacAddr) : String :=
  "!" ++ String.join (mac.toList.map (hexByte false))

theorem hexDigit_injective : ∀ a b : Fin 16, hexDigit false a = hexDigit false b → a = b := by
  decide

theorem hexByte_injective : Function.Injective fun b : UInt8 => (hexByte false b).data := by
  intro a b h
  have ha := a.toNat_lt_size
  have hb := b.toNat_lt_size
  simp only [UInt8.size] at ha hb
  simp only [hexByte, List.cons.injEq, and_true] at h
  have e₁ := hexDigit_injective ⟨a.toNat / 16, by omega⟩ ⟨b.toNat / 16, by omega⟩ h.1
  have e₂ := hexDigit_injective ⟨a.toNat % 16, by omega⟩ ⟨b.toNat % 16, by omega⟩ h.2
  simp only [Fin.mk.injEq] at e₁ e₂
  apply UInt8.toNat.inj
  omega

theorem data_foldl_append (l : List String) (acc : String) :
    (l.foldl (· ++ ·) acc).data = acc.data ++ (l.map String.data).flatten := by
  induction l generalizing acc with
  | nil => simp
  | cons s l ih => simp [ih, show (acc ++ s).data = acc.data ++ s.data from rfl]

theorem macId_data (mac : MacAddr) :
    (macId mac).data = '!' :: (mac.toList.map fun b => (hexByte false b).data).flatten := by
  simp only [macId, String.join, show ∀ s t : String, (s ++ t).data = s.data ++ t.data from
    fun _ _ => rfl, data_foldl_append, List.map_map]
  rfl

theorem flatten_hexByte_inj : ∀ {l₁ l₂ : List UInt8}, l₁.length = l₂.length →
    (l₁.map fun b => (hexByte false b).data).flatten =
      (l₂.map fun b => (hexByte false b).data).flatten → l₁ = l₂
  | [], [], _, _ => rfl
  | a :: l₁, b :: l₂, hl, h => by
    simp only [List.map_cons, List.flatten_cons] at h
    obtain ⟨h₁, h₂⟩ := List.append_inj h rfl
    rw [hexByte_injective h₁, flatten_hexByte_inj (Nat.succ.inj hl) h₂]

/-- Two devices get the same default owner id `!xxxxxxxxxxxx` only if their MACs are the
same: the id spells out all six bytes, two digits each. -/
theorem macId_injective : Function.Injective macId := by
  intro m₁ m₂ h
  have hd := congrArg String.data h
  rw [macId_data, macId_data, List.cons.injEq] at hd
  exact Mathlib.Vector.toList_injective (flatten_hexByte_inj (by simp) hd.2)

/-- `devicestate` after the `memset` and the `has_*` flags of `installDefaultDeviceState`. -/
def blankDeviceState : DeviceState :=
  { hasMyNode := true, hasRadio := true, hasOwner := true,
    radio := { hasChannelSettings := true, hasPreferences := true } }

variable (P : Platform) (hw : Hardware)

/-- `installDefaultDeviceState` up to its `pickNewNodeNum`: the cleared record, then
`resetRadioConfig()` on it (whose `factory_reset` the `memset` cleared, so it is
`resetRadioConfigUnflagged`), no GPS, the flood timeout, a packet id, and the owner's id
and MAC from `getMacAddr`. -/
def clearDeviceState (db : NodeDB) : NodeDB :=
  let db := resetRadioConfigUnflagged P { db with devicestate := blankDeviceState }
  let db := { db with devicestate.myNode :=
    { db.devicestate.myNode with hasGps := false, messageTimeoutMsec := P.floodExpireTime } }
  let db := db.call .generatePacketId
  let mac := hw.macAddr
  { db with
    ourMacAddr := mac
    devicestate.owner := { db.devicestate.owner with id := macId mac, macaddr := mac } }

/-- The end of `installDefaultDeviceState`: the owner's default names, and the region
code and string kept from before the wipe. -/
def nameOwnerRestoreRegion (oldRegionCode : RegionCode) (oldRegion : String) (db : NodeDB) :
    NodeDB :=
  let mac := hw.macAddr
  let db := { db with devicestate.owner := { db.devicestate.owner with
    longName := "Unknown " ++ hexByte false (mac.get 4) ++ hexByte false (mac.get 5)
    shortName := "?" ++ hexByte true (db.devicestate.myNode.myNodeNum &&& 0xff).toUInt8 } }
  let db := if oldRegionCode ≠ RegionCode.unset then
      { db with devicestate.radio.preferences.region := oldRegionCode }
    else db
  if oldRegion ≠ "" then { db with devicestate.myNode.region := oldRegion } else db

def installDefaultDeviceState (fuel : Nat) (db : NodeDB) : Except Halt NodeDB := do
  let oldRegion := db.devicestate.myNode.region
  let oldRegionCode := db.devicestate.radio.preferences.region
  let db ← pickNewNodeNum P hw fuel (clearDeviceState P hw db)
  pure (nameOwnerRestoreRegion hw oldRegionCode oldRegion db)

/-- The record `installDefaultDeviceState` synthesizes: every field at its default, the
default channel, the owner named after the MAC, the node number picked from it, and the
region code and string carried over from before the wipe. -/
def defaultDeviceState (mac : MacAddr) (regionCode : RegionCode) (region : String) : DeviceState :=
  let num := firstCandidate P 0 mac
  { hasRadio := true
    radio :=
      { hasPreferences := true
        preferences := { region := regionCode }
        hasChannelSettings := true
        channelSettings := { modemConfig := .bw125Cr48Sf4096, psk := defaultPskIndex } }
    hasMyNode := true
    myNode := { myNodeNum := num, messageTimeoutMsec := P.floodExpireTime, region := region }
    hasOwner := true
    owner :=
      { id := macId mac
        macaddr := mac
        longName := "Unknown " ++ hexByte false (mac.get 4) ++ hexByte false (mac.get 5)
        shortName := "?" ++ hexByte true (num &&& 0xff).toUInt8 } }

theorem clearDeviceState_devicestate (db : NodeDB) :
    (clearDeviceState P hw db).devicestate =
      { defaultDeviceState P hw.macAddr RegionCode.unset "" with
        myNode := { messageTimeoutMsec := P.floodExpireTime }
        owner := { id := macId hw.macAddr, macaddr := hw.macAddr } } := by
  simp [clearDeviceState, resetRadioConfigUnflagged, applyChannelSettings, setDefaultChannel,
    migrateChannelSettings, blankDeviceState, defaultDeviceState, setChannelSettings, Psk.size,
    defaultPskIndex, defaultpsk]

theorem clearDeviceState_ourMacAddr (db : NodeDB) :
    (clearDeviceState P hw db).ourMacAddr = hw.macAddr := by
  simp [clearDeviceState, resetRadioConfigUnflagged, applyChannelSettings]

theorem clearDeviceState_eq (db : NodeDB) :
    clearDeviceState P hw db = { db with
      devicestate := (clearDeviceState P hw db).devicestate
      ourMacAddr := hw.macAddr
      radioGeneration := db.radioGeneration + 1
      channelName := .literal "LongSlow"
      activePSK := defaultpsk ++ db.activePSK.drop 16
      activePSKSize := 16
      calls := db.calls ++ [.setKey 16 defaultpsk, .initRegion, .generatePacketId] } := by
  have h := applyChannelSettings_default P (d := setDefaultChannel
    { db with devicestate := blankDeviceState, radioGeneration := db.radioGeneration + 1 }) rfl rfl
  unfold clearDeviceState resetRadioConfigUnflagged
  dsimp only
  rw [if_pos (show blankDeviceState.radio.channelSettings.psk.size = 0 from rfl), h]
  simp only [call, List.append_assoc, List.singleton_append]
  rfl

theorem pickNewNodeNum_clearDeviceState (fuel : Nat) (db : NodeDB) :
    pickNewNodeNum P hw fuel (clearDeviceState P hw db) =
      .ok { clearDeviceState P hw db with
        devicestate.myNode.myNodeNum := firstCandidate P 0 hw.macAddr } := by
  have hc := clearDeviceState_devicestate P hw db
  have hn : (clearDeviceState P hw db).devicestate.nodeDb = [] := by rw [hc]; rfl
  have hm : (clearDeviceState P hw db).devicestate.myNode.myNodeNum = 0 := by rw [hc]
  rw [pickNewNodeNum_eq, hn, hm, clearDeviceState_ourMacAddr,
    pickLoop_free (takenByOther_nil _ _)]
  rfl

theorem installDefaultDeviceState_eq (fuel : Nat) (db : NodeDB) :
    ∃ db', installDefaultDeviceState P hw fuel db = .ok db' ∧
      db'.devicestate = defaultDeviceState P hw.macAddr db.devicestate.radio.preferences.region
        db.devicestate.myNode.region := by
  refine ⟨_, by simp only [installDefaultDeviceState, pickNewNodeNum_clearDeviceState]; rfl, ?_⟩
  unfold nameOwnerRestoreRegion
  dsimp only
  rw [clearDeviceState_devicestate P hw db]
  split_ifs <;> simp_all [defaultDeviceState, RegionCode.unset]

theorem nameOwnerRestoreRegion_eq (rc : RegionCode) (r : String) (db : NodeDB) :
    nameOwnerRestoreRegion hw rc r db =
      { db with devicestate := (nameOwnerRestoreRegion hw rc r db).devicestate } := by
  unfold nameOwnerRestoreRegion
  dsimp only
  split_ifs <;> rfl

theorem installDefaultDeviceState_record (fuel : Nat) (db : NodeDB) :
    installDefaultDeviceState P hw fuel db = .ok { clearDeviceState P hw db with
      devicestate := defaultDeviceState P hw.macAddr db.devicestate.radio.preferences.region
        db.devicestate.myNode.region } := by
  obtain ⟨db', h, hd⟩ := installDefaultDeviceState_eq P hw fuel db
  rw [h, ← hd]
  simp only [installDefaultDeviceState, pickNewNodeNum_clearDeviceState, bind, Except.bind,
    pure, Except.pure, Except.ok.injEq] at h
  rw [← h, nameOwnerRestoreRegion_eq]

theorem installDefaultDeviceState_nodeDb {fuel : Nat} {db db' : NodeDB}
    (h : installDefaultDeviceState P hw fuel db = .ok db') : db'.devicestate.nodeDb = [] := by
  obtain ⟨db'', h', hd⟩ := installDefaultDeviceState_eq P hw fuel db
  rw [h] at h'; cases h'
  rw [hd]; rfl

/-- `NodeDB::resetRadioConfig`: the new state, and whether it performed a factory reset. -/
def resetRadioConfig (fuel : Nat) (db : NodeDB) : Except Halt (NodeDB × Bool) :=
  if db.devicestate.radio.preferences.factoryReset then do
    let db ← installDefaultDeviceState P hw fuel
      { db with radioGeneration := db.radioGeneration + 1 }
    pure (applyChannelSettings P db, true)
  else pure (resetRadioConfigUnflagged P db, false)

/-- What `pb_decode` leaves in the zeroed `devicestate`: the decoded record, or on failure
whatever it had written so far. -/
inductive Decoded where
  | ok (s : DeviceState)
  | failed (written : DeviceState)

/-- `pb_encode` and `pb_decode` on `DeviceState`. -/
structure Codec (Blob : Type) where
  encode : DeviceState → Blob
  decode : Blob → Decoded

/-- The two files of the flash: `preffile` is `/db.proto`, `preftmp` is `/db.proto.tmp`. -/
structure FileSystem (Blob : Type) where
  preffile : Option Blob
  preftmp : Option Blob

/-- The outcomes of the calls `saveToDisk` makes: `FS.open`, `pb_encode` (and what a
failed one left in the file), `FS.remove` and `FS.rename`. -/
structure SaveIO (Blob : Type) where
  opened : Bool
  encoded : Bool
  written : Blob
  removed : Bool
  renamed : Bool

variable {Blob : Type}

def loadFromDisk (fuel : Nat) (codec : Codec Blob) (fs : FileSystem Blob) (db : NodeDB) :
    Except Halt NodeDB :=
  match fs.preffile with
  | none => pure db
  | some blob =>
    match codec.decode blob with
    | .failed s => installDefaultDeviceState P hw fuel { db with devicestate := s }
    | .ok s =>
      if s.version < devicestateMinVer then
        installDefaultDeviceState P hw fuel { db with devicestate := s }
      else pure { db with devicestate := s }

theorem loadFromDisk_decoded {fuel : Nat} {codec : Codec Blob} {fs : FileSystem Blob}
    {b : Blob} {s : DeviceState} (hb : fs.preffile = some b) (hs : codec.decode b = .ok s)
    (hv : ¬ s.version < devicestateMinVer) (db : NodeDB) :
    loadFromDisk P hw fuel codec fs db = .ok { db with devicestate := s } := by
  simp [loadFromDisk, hb, hs, hv, pure, Except.pure]

/-- `NodeDB::saveToDisk`: write `/db.proto.tmp`, and only when that worked replace
`/db.proto` by it. -/
def saveToDisk (codec : Codec Blob) (io : SaveIO Blob) (fs : FileSystem Blob) (db : NodeDB) :
    NodeDB × FileSystem Blob :=
  if db.devicestate.noSave then (db, fs)
  else if io.opened then
    let db := { db with devicestate.version := devicestateCurVer }
    if io.encoded then
      let fs := { fs with preftmp := some (codec.encode db.devicestate) }
      let fs := if io.removed then { fs with preffile := none } else fs
      (db, if io.renamed then { preffile := fs.preftmp, preftmp := none } else fs)
    else (db, { fs with preftmp := some io.written })
  else (db, fs)

/-- The fields `init` takes from the running build, whatever was loaded:
`sizeof(NodeNum) * 8`, `sizeof(PacketId) * 8`, no error, and the app version it needs. -/
def setBuildFields (db : NodeDB) : NodeDB :=
  { db with devicestate.myNode := { db.devicestate.myNode with
    nodeNumBits := 32
    packetIdBits := UInt32.ofNat (P.sizeofPacketId * 8)
    errorCode := criticalErrorCodeNone
    errorAddress := 0
    minAppVersion := 20120 } }

/-- `NodeInfo *info = getOrCreateNode(getNodeNum()); info->user = owner; info->has_user = true;` -/
def insertOwner (db : NodeDB) : Except Halt NodeDB := do
  let (i, nodes) ← getOrCreateNode P db.devicestate.nodeDb db.devicestate.myNode.myNodeNum
  pure (db.setNodes (nodes.modify (setUser db.devicestate.owner).apply i))

/-- The old region strings `"1.0-<name>"` become the code of the region of that name. -/
def migrateLegacyRegion (db : NodeDB) : NodeDB :=
  let region := db.devicestate.myNode.region
  if db.devicestate.radio.preferences.region = RegionCode.unset ∧ "1.0-".isPrefixOf region then
    match P.regions.find? (·.name = region.drop 4) with
    | some r => { db with devicestate.radio.preferences.region := r.code }
    | none => db
  else db

/-- The strings `init` takes from the build: the hardware region when there is one, the
legacy region it names, the firmware version and the hardware model. -/
def setBuildStrings (db : NodeDB) : NodeDB :=
  let db := if P.hwVersion ≠ "" then { db with devicestate.myNode.region := P.hwVersion }
    else db
  let db := migrateLegacyRegion P db
  { db with devicestate.myNode := { db.devicestate.myNode with
    firmwareVersion := P.appVersion, hwModel := P.hwVendor } }

/-- `init` after `loadFromDisk`: the build's fields, the node number, our own entry, the
build's strings, and a last `resetRadioConfig` to repair bogus saved settings. -/
def initFromLoaded (fuel : Nat) (db : NodeDB) : Except Halt NodeDB := do
  let db := setBuildFields P db
  let db ← pickNewNodeNum P hw fuel db
  let db ← insertOwner P db
  let db := setBuildStrings P db
  let (db, _) ← resetRadioConfig P hw fuel db
  pure db

def init (fuel : Nat) (codec : Codec Blob) (fs : FileSystem Blob) (db : NodeDB) :
    Except Halt NodeDB := do
  let db ← installDefaultDeviceState P hw fuel db
  let db ← loadFromDisk P hw fuel codec fs db
  initFromLoaded P hw fuel db

theorem resetRadioConfig_unflagged {fuel : Nat} {db : NodeDB}
    (h : db.devicestate.radio.preferences.factoryReset = false) :
    resetRadioConfig P hw fuel db = .ok (resetRadioConfigUnflagged P db, false) := by
  simp [resetRadioConfig, h, pure, Except.pure]

theorem insertOwner_eq (db : NodeDB) :
    insertOwner P db =
      (upsert P db.devicestate.myNode.myNodeNum (setUser db.devicestate.owner)
        db.devicestate.nodeDb).map fun r => db.setNodes r.2 := by
  unfold insertOwner upsert
  cases getOrCreateNode P _ _ <;> rfl

theorem migrateLegacyRegion_devicestate (db : NodeDB) :
    (migrateLegacyRegion P db).devicestate = { db.devicestate with radio := { db.devicestate.radio
      with preferences := { db.devicestate.radio.preferences with
        region := (migrateLegacyRegion P db).devicestate.radio.preferences.region } } } := by
  unfold migrateLegacyRegion
  dsimp only
  split
  · split <;> rfl
  · rfl

theorem migrateLegacyRegion_region_congr {db db' : NodeDB}
    (h₁ : db'.devicestate.radio.preferences.region = db.devicestate.radio.preferences.region)
    (h₂ : db'.devicestate.myNode.region = db.devicestate.myNode.region) :
    (migrateLegacyRegion P db').devicestate.radio.preferences.region =
      (migrateLegacyRegion P db).devicestate.radio.preferences.region := by
  simp only [migrateLegacyRegion, h₁, h₂]
  split
  · split <;> first | rfl | exact h₁
  · exact h₁

theorem migrateLegacyRegion_idem (db : NodeDB) :
    (migrateLegacyRegion P (migrateLegacyRegion P db)).devicestate.radio.preferences.region =
      (migrateLegacyRegion P db).devicestate.radio.preferences.region := by
  by_cases h : db.devicestate.radio.preferences.region = RegionCode.unset ∧
    "1.0-".isPrefixOf db.devicestate.myNode.region
  · cases hf : P.regions.find? (·.name = db.devicestate.myNode.region.drop 4) with
    | none =>
      have e : migrateLegacyRegion P db = db := by simp [migrateLegacyRegion, h, hf]
      rw [e, e]
    | some r =>
      have e : migrateLegacyRegion P db =
          { db with devicestate.radio.preferences.region := r.code } := by
        simp [migrateLegacyRegion, h, hf]
      rw [e]
      simp only [migrateLegacyRegion, hf]
      split_ifs <;> rfl
  · have e : migrateLegacyRegion P db = db := by simp [migrateLegacyRegion, h]
    rw [e, e]

theorem setBuildStrings_devicestate (db : NodeDB) :
    (setBuildStrings P db).devicestate = { db.devicestate with
      myNode := { db.devicestate.myNode with
        region := (setBuildStrings P db).devicestate.myNode.region
        firmwareVersion := P.appVersion
        hwModel := P.hwVendor }
      radio := { db.devicestate.radio with preferences := { db.devicestate.radio.preferences with
        region := (setBuildStrings P db).devicestate.radio.preferences.region } } } := by
  unfold setBuildStrings
  dsimp only
  split <;> rw [migrateLegacyRegion_devicestate]

theorem setBuildStrings_eq (db : NodeDB) :
    setBuildStrings P db = { db with devicestate := (setBuildStrings P db).devicestate } := by
  unfold setBuildStrings migrateLegacyRegion
  dsimp only
  split_ifs <;> (try split) <;> rfl

theorem setBuildStrings_region (db : NodeDB) (h : P.hwVersion ≠ "") :
    (setBuildStrings P db).devicestate.myNode.region = P.hwVersion := by
  simp only [setBuildStrings, if_pos h]
  rw [migrateLegacyRegion_devicestate]

theorem setBuildStrings_legacyDone (db : NodeDB) :
    (migrateLegacyRegion P (setBuildStrings P db)).devicestate.radio.preferences.region =
      (setBuildStrings P db).devicestate.radio.preferences.region := by
  let X := if P.hwVersion ≠ "" then { db with devicestate.myNode.region := P.hwVersion } else db
  have e₁ : (setBuildStrings P db).devicestate.radio.preferences.region =
      (migrateLegacyRegion P X).devicestate.radio.preferences.region := rfl
  have e₂ : (setBuildStrings P db).devicestate.myNode.region =
      (migrateLegacyRegion P X).devicestate.myNode.region := rfl
  rw [migrateLegacyRegion_region_congr P e₁ e₂, migrateLegacyRegion_idem, e₁]

theorem insertOwner_ok {db db' : NodeDB} (h : insertOwner P db = .ok db') :
    ∃ i, upsert P db.devicestate.myNode.myNodeNum (setUser db.devicestate.owner)
      db.devicestate.nodeDb = .ok (i, db'.devicestate.nodeDb) ∧
      db' = db.setNodes db'.devicestate.nodeDb := by
  rw [insertOwner_eq, except_map_eq_ok] at h
  obtain ⟨⟨i, nodes⟩, hu, rfl⟩ := h
  exact ⟨i, hu, rfl⟩

/-- Everything `resetRadioConfig` can do: without the flag, `resetRadioConfigUnflagged`;
with it, a freshly installed default record with its channel settings applied. -/
theorem resetRadioConfig_ok {fuel : Nat} {db db' : NodeDB} {b : Bool}
    (h : resetRadioConfig P hw fuel db = .ok (db', b)) :
    (db.devicestate.radio.preferences.factoryReset = false ∧ b = false ∧
      db' = resetRadioConfigUnflagged P db) ∨
    (db.devicestate.radio.preferences.factoryReset = true ∧ b = true ∧
      ∃ dbI, installDefaultDeviceState P hw fuel
        { db with radioGeneration := db.radioGeneration + 1 } = .ok dbI ∧
        db' = applyChannelSettings P dbI) := by
  cases hf : db.devicestate.radio.preferences.factoryReset
  · rw [resetRadioConfig_unflagged P hw hf] at h
    cases h
    exact .inl ⟨rfl, rfl, rfl⟩
  · unfold resetRadioConfig at h
    rw [hf, if_pos rfl] at h
    cases hI : installDefaultDeviceState P hw fuel
        { db with radioGeneration := db.radioGeneration + 1 } with
    | error e => simp [hI, bind, Except.bind] at h
    | ok dbI =>
      simp only [hI, bind, Except.bind, pure, Except.pure, Except.ok.injEq, Prod.mk.injEq] at h
      exact .inr ⟨rfl, h.2.symm, dbI, rfl, h.1.symm⟩

theorem resetRadioConfig_nodeDb {fuel : Nat} {db db' : NodeDB} {b : Bool}
    (h : resetRadioConfig P hw fuel db = .ok (db', b)) :
    db'.devicestate.nodeDb = db.devicestate.nodeDb ∨ db'.devicestate.nodeDb = [] := by
  rcases resetRadioConfig_ok P hw h with ⟨-, -, rfl⟩ | ⟨-, -, dbI, hI, rfl⟩
  · exact .inl (by rw [(resetRadioConfigUnflagged_devicestate P db).1])
  · exact .inr (by rw [(applyChannelSettings_devicestate P dbI).1]; exact
      installDefaultDeviceState_nodeDb P hw hI)

/-- Everything `initFromLoaded` can do. -/
theorem initFromLoaded_ok {fuel : Nat} {db db' : NodeDB}
    (h : initFromLoaded P hw fuel db = .ok db') :
    ∃ db₁ db₂ b, pickNewNodeNum P hw fuel (setBuildFields P db) = .ok db₁ ∧
      insertOwner P db₁ = .ok db₂ ∧
      resetRadioConfig P hw fuel (setBuildStrings P db₂) = .ok (db', b) := by
  unfold initFromLoaded at h
  cases h₁ : pickNewNodeNum P hw fuel (setBuildFields P db) with
  | error e => simp [h₁, bind, Except.bind] at h
  | ok db₁ =>
    cases h₂ : insertOwner P db₁ with
    | error e => simp [h₁, h₂, bind, Except.bind] at h
    | ok db₂ =>
      cases h₃ : resetRadioConfig P hw fuel (setBuildStrings P db₂) with
      | error e => simp [h₁, h₂, h₃, bind, Except.bind] at h
      | ok r =>
        simp only [h₁, h₂, h₃, bind, Except.bind, pure, Except.pure, Except.ok.injEq] at h
        exact ⟨db₁, db₂, r.2, rfl, h₂, by rw [← h, h₃]⟩

theorem initFromLoaded_of_steps {fuel : Nat} {db db₁ db₂ db' : NodeDB} {b : Bool}
    (h₁ : pickNewNodeNum P hw fuel (setBuildFields P db) = .ok db₁)
    (h₂ : insertOwner P db₁ = .ok db₂)
    (h₃ : resetRadioConfig P hw fuel (setBuildStrings P db₂) = .ok (db', b)) :
    initFromLoaded P hw fuel db = .ok db' := by
  simp [initFromLoaded, h₁, h₂, h₃, bind, Except.bind, pure, Except.pure]

theorem initFromLoaded_radio {fuel : Nat} {db db₁ db₂ : NodeDB}
    (h₁ : pickNewNodeNum P hw fuel (setBuildFields P db) = .ok db₁)
    (h₂ : insertOwner P db₁ = .ok db₂) :
    (setBuildStrings P db₂).devicestate.radio.preferences.factoryReset =
      db.devicestate.radio.preferences.factoryReset := by
  obtain ⟨i, -, he⟩ := insertOwner_ok P h₂
  have h₂r : db₂.devicestate.radio = db₁.devicestate.radio := by rw [he]; rfl
  have h₁r : db₁.devicestate.radio = db.devicestate.radio := by
    rw [pickNewNodeNum_devicestate h₁]; rfl
  rw [setBuildStrings_devicestate]
  exact congrArg (·.preferences.factoryReset) (h₂r.trans h₁r)

theorem initFromLoaded_unflagged {fuel : Nat} {db db' : NodeDB}
    (hf : db.devicestate.radio.preferences.factoryReset = false)
    (h : initFromLoaded P hw fuel db = .ok db') :
    ∃ db₁ db₂, pickNewNodeNum P hw fuel (setBuildFields P db) = .ok db₁ ∧
      insertOwner P db₁ = .ok db₂ ∧
      db' = resetRadioConfigUnflagged P (setBuildStrings P db₂) := by
  obtain ⟨db₁, db₂, b, h₁, h₂, h₃⟩ := initFromLoaded_ok P hw h
  rw [resetRadioConfig_unflagged P hw ((initFromLoaded_radio P hw h₁ h₂).trans hf)] at h₃
  cases h₃
  exact ⟨db₁, db₂, h₁, h₂, rfl⟩

theorem initFromLoaded_upsert {fuel : Nat} {db db' : NodeDB}
    (hf : db.devicestate.radio.preferences.factoryReset = false)
    (h : initFromLoaded P hw fuel db = .ok db') :
    ∃ n w i, upsert P n w db.devicestate.nodeDb = .ok (i, db'.devicestate.nodeDb) := by
  obtain ⟨db₁, db₂, h₁, h₂, rfl⟩ := initFromLoaded_unflagged P hw hf h
  obtain ⟨i, hu, -⟩ := insertOwner_ok P h₂
  have e₁ : db₁.devicestate.nodeDb = db.devicestate.nodeDb := by
    rw [pickNewNodeNum_devicestate h₁]; rfl
  rw [(resetRadioConfigUnflagged_devicestate P _).1, setBuildStrings_devicestate, ← e₁]
  exact ⟨_, _, i, hu⟩

/-- `loadFromDisk` keeps the state, installs a default record, or takes the whole decoded
record. -/
theorem loadFromDisk_devicestate {fuel : Nat} {codec : Codec Blob} {fs : FileSystem Blob}
    {db db' : NodeDB} (h : loadFromDisk P hw fuel codec fs db = .ok db') :
    db' = db ∨ (∃ rc r, db'.devicestate = defaultDeviceState P hw.macAddr rc r) ∨
      ∃ b s, fs.preffile = some b ∧ codec.decode b = .ok s ∧ db'.devicestate = s := by
  have hdef : ∀ d, installDefaultDeviceState P hw fuel d = .ok db' →
      ∃ rc r, db'.devicestate = defaultDeviceState P hw.macAddr rc r := fun d hd => by
    obtain ⟨d', hd', he⟩ := installDefaultDeviceState_eq P hw fuel d
    rw [hd] at hd'
    cases hd'
    exact ⟨_, _, he⟩
  unfold loadFromDisk at h
  split at h
  · cases h; exact .inl rfl
  · rename_i b hb
    split at h
    · exact .inr (.inl (hdef _ h))
    · rename_i s hs
      split at h
      · exact .inr (.inl (hdef _ h))
      · cases h; exact .inr (.inr ⟨b, s, hb, hs, rfl⟩)

end NodeDB
end MeshNodeDB
