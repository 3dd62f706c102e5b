import MeshNodeDB.Types

/-! # Channel settings and the live key

The part of `resetRadioConfig` that does not depend on a factory reset: the default
channel for a record without a key, the legacy renames, the display name, the expansion
of a one-byte key index into the live `activePSK`, and the calls that follow it. The
factory-reset branch needs `installDefaultDeviceState` and is put together in `Boot`.
`getChannelName` builds the `#name-X` string from the result. -/

namespace MeshNodeDB
namespace NodeDB

/-- `defaultpsk`: 16 bytes of random PSK for the public default channel (AES128). -/
def defaultpsk : List UInt8 :=
  [0xd4, 0xf1, 0xbb, 0x3a, 0x20, 0x29, 0x07, 0x59, 0xf0, 0xbc, 0xff, 0xab, 0xcf, 0x4e, 0x69, 0xbf]

def defaultPskIndex : Psk := ⟨[1], by decide⟩

def memcpy (dst src : List UInt8) : List UInt8 := src ++ dst.drop src.length

def setChannelSettings (db : NodeDB) (cs : ChannelSettings) : NodeDB :=
  { db with devicestate.radio.channelSettings := cs }

/-- The `else if (!channelSettings.psk.size)` branch: a record without key material gets
the slow long-range preset, the default transmit power, key index 1 and an empty name. -/
def setDefaultChannel (db : NodeDB) : NodeDB :=
  { db with devicestate.radio := { db.devicestate.radio with
      hasChannelSettings := true, hasPreferences := true,
      channelSettings := { db.devicestate.radio.channelSettings with
        modemConfig := .bw125Cr48Sf4096, txPower := 0, psk := defaultPskIndex, name := "" } } }

/-- What `channelName` points at once `channelSettings` is settled. -/
def resolveChannelName (cs : ChannelSettings) : ChannelNamePtr :=
  if cs.name ≠ "" then .settingsName
  else if cs.bandwidth ≠ 0 then .literal "Unset"
  else match cs.modemConfig with
    | .bw125Cr45Sf128 => .literal "Medium"
    | .bw500Cr45Sf128 => .literal "ShortFast"
    | .bw31_25Cr48Sf512 => .literal "LongAlt"
    | .bw125Cr48Sf4096 => .literal "LongSlow"
    | .other _ => .literal "Invalid"

/-- The old name `"Default"` becomes `""`; a stored 16-byte default key becomes `[1]`. -/
def migrateChannelSettings (cs : ChannelSettings) : ChannelSettings :=
  let cs := if cs.name = "Default" then { cs with name := "" } else cs
  if cs.psk.size = defaultpsk.length ∧ cs.psk.bytes = defaultpsk then
    { cs with psk := defaultPskIndex }
  else cs

/-- The live key `activePSK[0 .. activePSKSize)` made from the stored one over the old
buffer: index 0 turns encryption off, index `N ≥ 1` is the default key with its last
byte moved by `N - 1`, any other size is used as it is. -/
def expandPsk (buf : List UInt8) (psk : Psk) : List UInt8 × Nat :=
  let buf := memcpy buf psk.bytes
  if psk.size = 1 then
    let pskIndex := buf.headD 0
    if pskIndex = 0 then (buf, 0)
    else ((memcpy buf defaultpsk).modify (· + pskIndex - 1) (defaultpsk.length - 1),
      defaultpsk.length)
  else (buf, psk.size)

theorem memcpy_take (buf src : List UInt8) : (memcpy buf src).take src.length = src :=
  List.take_left _ _

theorem memcpy_drop (buf src : List UInt8) :
    (memcpy buf src).drop src.length = buf.drop src.length :=
  List.drop_left _ _

theorem memcpy_memcpy (buf src : List UInt8) : memcpy (memcpy buf src) src = memcpy buf src := by
  rw [memcpy, memcpy_drop]; rfl

theorem drop_modify_of_lt {α : Type} (f : α → α) (l : List α) {i n : Nat} (h : i < n) :
    (l.modify f i).drop n = l.drop n := by
  apply List.ext_getElem?
  intro j
  rw [List.getElem?_drop, List.getElem?_drop, List.getElem?_modify_ne _ _ (by omega)]

theorem expandPsk_defaultPskIndex (buf : List UInt8) :
    expandPsk buf defaultPskIndex = (defaultpsk ++ buf.drop 16, 16) := by
  have hid : (fun b : UInt8 => b + 1 - 1) = id := by
    funext b
    apply UInt8.eq_of_toBitVec_eq
    simp only [UInt8.add_def, UInt8.sub_def]
    exact BitVec.add_sub_cancel _ _
  have hcopy : memcpy (memcpy buf [1]) defaultpsk = defaultpsk ++ buf.drop 16 := by
    have hl : defaultpsk.length = 16 := rfl
    simp [memcpy, hl, List.drop_append_eq_append_drop, List.drop_drop]
  have hhead : (memcpy buf [1]).headD 0 = 1 := rfl
  simp only [expandPsk, defaultPskIndex, Psk.size, List.length_singleton, if_true, hhead]
  rw [if_neg (by decide), hcopy, hid, List.modify_id]
  rfl

theorem expandPsk_idem (buf : List UInt8) (psk : Psk) :
    expandPsk (expandPsk buf psk).1 psk = expandPsk buf psk := by
  unfold expandPsk
  by_cases h1 : psk.size = 1
  · obtain ⟨x, hx⟩ : ∃ x, psk.bytes = [x] := List.length_eq_one.1 h1
    have hhead : ∀ l : List UInt8, (memcpy l psk.bytes).headD 0 = x := by simp [memcpy, hx]
    simp only [if_pos h1, hhead]
    by_cases hx0 : x = 0
    · simp only [if_pos hx0, memcpy_memcpy]
    · simp only [if_neg hx0]
      have hdrop : ∀ l : List UInt8,
          (memcpy l psk.bytes).drop defaultpsk.length = l.drop defaultpsk.length := by
        simp [memcpy, hx, defaultpsk, List.drop_drop]
      set B := memcpy buf psk.bytes
      have hd : memcpy (memcpy ((memcpy B defaultpsk).modify (· + x - 1)
          (defaultpsk.length - 1)) psk.bytes) defaultpsk = memcpy B defaultpsk := by
        rw [memcpy, hdrop, drop_modify_of_lt _ _ (by decide), memcpy_drop]; rfl
      rw [hd]
  · simp only [if_neg h1, memcpy_memcpy]

/-- Write the preferences `devicestate.no_save` overrides for stress tests. -/
def developmentPreferences (P : Platform) (prefs : UserPreferences) : UserPreferences :=
  { prefs with
    screenOnSecs := 10
    waitBluetoothSecs := 10
    positionBroadcastSecs := 6 * 60
    lsSecs := 60
    region := P.regionTW }

/-- `resetRadioConfig` from its `"Default"` rename on: the settled channel settings, the
display name, the live key handed to `crypto->setKey`, the `no_save` preferences, then
`initRegion()`. -/
def applyChannelSettings (P : Platform) (db : NodeDB) : NodeDB :=
  let cs := migrateChannelSettings db.devicestate.radio.channelSettings
  let live := expandPsk db.activePSK cs.psk
  let db := db.setChannelSettings cs
  let db := { db with
    channelName := resolveChannelName cs, activePSK := live.1, activePSKSize := live.2 }
  let db := db.call (.setKey live.2 (live.1.take live.2))
  let db := if db.devicestate.noSave then
      { db with devicestate.radio.preferences :=
          developmentPreferences P db.devicestate.radio.preferences }
    else db
  db.call .initRegion

def liveKey (db : NodeDB) : List UInt8 := db.activePSK.take db.activePSKSize

theorem applyChannelSettings_calls (P : Platform) (db : NodeDB) :
    (applyChannelSettings P db).calls = db.calls ++
      [.setKey (applyChannelSettings P db).activePSKSize (liveKey (applyChannelSettings P db)),
        .initRegion] := by
  cases hns : db.devicestate.noSave <;>
    simp [applyChannelSettings, hns, call, liveKey, setChannelSettings]

theorem applyChannelSettings_activePSK (P : Platform) (db : NodeDB) :
    (applyChannelSettings P db).activePSK =
        (expandPsk db.activePSK
          (migrateChannelSettings db.devicestate.radio.channelSettings).psk).1 ∧
      (applyChannelSettings P db).activePSKSize =
        (expandPsk db.activePSK
          (migrateChannelSettings db.devicestate.radio.channelSettings).psk).2 := by
  unfold applyChannelSettings; dsimp only; split <;> exact ⟨rfl, rfl⟩

/-- On the default channel settings, without `no_save`: the name `"LongSlow"` and the default
key, and nothing else of the record changes. -/
theorem applyChannelSettings_default (P : Platform) {d : NodeDB}
    (hcs : d.devicestate.radio.channelSettings =
      { modemConfig := .bw125Cr48Sf4096, psk := defaultPskIndex })
    (hns : d.devicestate.noSave = false) :
    applyChannelSettings P d = { d with
      channelName := .literal "LongSlow"
      activePSK := defaultpsk ++ d.activePSK.drop 16
      activePSKSize := 16
      calls := d.calls ++ [.setKey 16 defaultpsk, .initRegion] } := by
  have hm : migrateChannelSettings d.devicestate.radio.channelSettings =
      d.devicestate.radio.channelSettings := by rw [hcs]; decide
  have hr : resolveChannelName d.devicestate.radio.channelSettings = .literal "LongSlow" := by
    rw [hcs]; decide
  have he : expandPsk d.activePSK d.devicestate.radio.channelSettings.psk =
      (defaultpsk ++ d.activePSK.drop 16, 16) := by
    rw [hcs]; exact expandPsk_defaultPskIndex _
  unfold applyChannelSettings
  rw [hm]
  dsimp only [setChannelSettings, call]
  rw [hr, he, hns]
  simp [defaultpsk]
  rw [← hns]

theorem applyChannelSettings_frame (P : Platform) (db : NodeDB) :
    (applyChannelSettings P db).readPointer = db.readPointer ∧
      (applyChannelSettings P db).updateGUIforNode = db.updateGUIforNode ∧
      (applyChannelSettings P db).radioGeneration = db.radioGeneration := by
  unfold applyChannelSettings
  dsimp only [call, setChannelSettings]
  split <;> exact ⟨rfl, rfl, rfl⟩

/-- `NodeDB::resetRadioConfig` on a record whose `factory_reset` flag is clear. -/
def resetRadioConfigUnflagged (P : Platform) (db : NodeDB) : NodeDB :=
  let db := { db with radioGeneration := db.radioGeneration + 1 }
  let db := if db.devicestate.radio.channelSettings.psk.size = 0 then setDefaultChannel db
    else db
  applyChannelSettings P db

theorem applyChannelSettings_devicestate (P : Platform) (db : NodeDB) :
    (applyChannelSettings P db).devicestate =
      { db.devicestate with radio := (applyChannelSettings P db).devicestate.radio } ∧
    (applyChannelSettings P db).devicestate.radio.preferences.factoryReset =
      db.devicestate.radio.preferences.factoryReset := by
  unfold applyChannelSettings
  dsimp only
  split <;> exact ⟨rfl, rfl⟩

theorem resetRadioConfigUnflagged_devicestate (P : Platform) (db : NodeDB) :
    (resetRadioConfigUnflagged P db).devicestate =
      { db.devicestate with radio := (resetRadioConfigUnflagged P db).devicestate.radio } ∧
    (resetRadioConfigUnflagged P db).devicestate.radio.preferences.factoryReset =
      db.devicestate.radio.preferences.factoryReset := by
  unfold resetRadioConfigUnflagged
  dsimp only
  obtain ⟨h1, h2⟩ := applyChannelSettings_devicestate P
    (if db.devicestate.radio.channelSettings.psk.size = 0 then
      setDefaultChannel { db with radioGeneration := db.radioGeneration + 1 }
    else { db with radioGeneration := db.radioGeneration + 1 })
  refine ⟨h1.trans ?_, h2.trans ?_⟩ <;> split <;> rfl

theorem resetRadioConfigUnflagged_frame (P : Platform) (db : NodeDB) :
    (resetRadioConfigUnflagged P db).readPointer = db.readPointer ∧
      (resetRadioConfigUnflagged P db).updateGUIforNode = db.updateGUIforNode ∧
      (resetRadioConfigUnflagged P db).radioGeneration = db.radioGeneration + 1 := by
  unfold resetRadioConfigUnflagged; dsimp only
  obtain ⟨h₁, h₂, h₃⟩ := applyChannelSettings_frame P
    (if db.devicestate.radio.channelSettings.psk.size = 0 then
      setDefaultChannel { db with radioGeneration := db.radioGeneration + 1 }
    else { db with radioGeneration := db.radioGeneration + 1 })
  rw [h₁, h₂, h₃]
  split <;> exact ⟨rfl, rfl, rfl⟩

theorem migrateChannelSettings_idem (cs : ChannelSettings) :
    migrateChannelSettings (migrateChannelSettings cs) = migrateChannelSettings cs := by
  simp only [migrateChannelSettings]
  split_ifs <;> simp_all [defaultPskIndex, Psk.size, defaultpsk]

theorem migrateChannelSettings_size (cs : ChannelSettings) (h : cs.psk.size ≠ 0) :
    (migrateChannelSettings cs).psk.size ≠ 0 := by
  simp only [migrateChannelSettings]
  split_ifs <;> simp_all [defaultPskIndex, Psk.size]

theorem applyChannelSettings_twice (P : Platform) (db : NodeDB) :
    applyChannelSettings P (applyChannelSettings P db) =
      ((applyChannelSettings P db).call (.setKey (applyChannelSettings P db).activePSKSize
        (liveKey (applyChannelSettings P db)))).call .initRegion := by
  cases hns : db.devicestate.noSave <;>
    simp [applyChannelSettings, hns, setChannelSettings, call, migrateChannelSettings_idem,
      expandPsk_idem, liveKey, developmentPreferences]

/-- Channel settings `resetRadioConfig` leaves as they are: key material present, and the
legacy name and the stored default key already rewritten. -/
def ChannelSettled (cs : ChannelSettings) : Prop :=
  cs.psk.size ≠ 0 ∧ migrateChannelSettings cs = cs

theorem applyChannelSettings_channelSettings (P : Platform) (db : NodeDB) :
    (applyChannelSettings P db).devicestate.radio.channelSettings =
      migrateChannelSettings db.devicestate.radio.channelSettings := by
  unfold applyChannelSettings
  dsimp only
  split <;> rfl

theorem resetRadioConfigUnflagged_settled (P : Platform) (db : NodeDB) :
    ChannelSettled (resetRadioConfigUnflagged P db).devicestate.radio.channelSettings := by
  unfold resetRadioConfigUnflagged
  dsimp only
  rw [applyChannelSettings_channelSettings]
  refine ⟨migrateChannelSettings_size _ ?_, migrateChannelSettings_idem _⟩
  split
  · simp [setDefaultChannel, defaultPskIndex, Psk.size]
  · assumption

theorem resetRadioConfigUnflagged_fixed (P : Platform) {db : NodeDB}
    (hcs : ChannelSettled db.devicestate.radio.channelSettings)
    (hns : db.devicestate.noSave = false) :
    (resetRadioConfigUnflagged P db).devicestate = db.devicestate := by
  simp [resetRadioConfigUnflagged, applyChannelSettings, hcs.1, hcs.2, hns, setChannelSettings]
  rw [← hns]

theorem resetRadioConfigUnflagged_preferences (P : Platform) {db : NodeDB}
    (hns : db.devicestate.noSave = false) :
    (resetRadioConfigUnflagged P db).devicestate.radio.preferences =
      db.devicestate.radio.preferences := by
  simp only [resetRadioConfigUnflagged, applyChannelSettings]
  split <;> simp [setDefaultChannel, setChannelSettings, hns]

def channelNameText (db : NodeDB) : String :=
  match db.channelName with
  | .null => ""
  | .settingsName => db.devicestate.radio.channelSettings.name
  | .literal s => s

/-- `getChannelName`: `"#<channelName>-<X>"` in a 32-byte buffer, where `X` is a letter
from the XOR of the live key when the stored key is not a one-byte index, and the
index's digit when it is. -/
def getChannelName (db : NodeDB) : String :=
  let psk := db.devicestate.radio.channelSettings.psk
  let suffix :=
    if psk.size ≠ 1 then
      let code := (db.activePSK.take db.activePSKSize).foldl (· ^^^ ·) (0 : UInt8)
      Char.ofNat ('A'.toNat + (code % 26).toNat)
    else Char.ofNat (('0'.toNat + (psk.bytes.headD 0).toNat) % 256)
  ("#" ++ channelNameText db ++ "-" ++ suffix.toString).take 31

end NodeDB
end MeshNodeDB
