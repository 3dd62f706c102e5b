import MeshNodeDB.Boot

/-! # The live key, a second `resetRadioConfig`, and the channel's display name

`resetRadioConfig` hands `crypto->setKey` the key the stored one stands for, whatever the
buffer held before: the default key for none, no key for index `0`, the default key with its
last byte raised for a larger one-byte index, and any other key byte for byte. The old
16-byte form of the default key is first rewritten to index `1`, which stands for the same
key. What `resetRadioConfig` leaves is settled, so a second call changes nothing but
`radioGeneration`, and repeats the calls of the first with the same key. `getChannelName`
reads the stored key as well as the live one: two settings with the same name and live key
show the same string when both or neither store a one-byte index, and not in general. -/

namespace MeshNodeDB
namespace NodeDB

/-- The live key the specification gives a stored key: the default key when there is none,
no key for index `0`, the default key with its last byte raised by `N - 1` modulo 256 for an
index `N ≥ 1`, and any other key byte for byte. -/
def specifiedKey : List UInt8 → List UInt8
  | [] => defaultpsk
  | [n] => if n = 0 then [] else
      defaultpsk.modify (fun last => UInt8.ofNat (last.toNat + (n.toNat - 1)))
        (defaultpsk.length - 1)
  | psk => psk

theorem raise_last_byte {n : UInt8} (h : n ≠ 0) :
    (fun b : UInt8 => b + n - 1) = fun b => UInt8.ofNat (b.toNat + (n.toNat - 1)) := by
  funext b
  have hn : n.toBitVec ≠ 0 := fun e => h (UInt8.eq_of_toBitVec_eq e)
  have h1 : (UInt8.toBitVec 1).toNat = 1 := rfl
  apply UInt8.eq_of_toBitVec_eq
  simp only [UInt8.add_def, UInt8.sub_def, UInt8.toNat, UInt8.ofNat]
  bv_omega

theorem expandPsk_key (buf : List UInt8) {psk : Psk} (h : psk.bytes ≠ []) :
    (expandPsk buf psk).2 = (specifiedKey psk.bytes).length ∧
      (expandPsk buf psk).1.take (expandPsk buf psk).2 = specifiedKey psk.bytes := by
  rcases psk with ⟨_ | ⟨x, _ | ⟨y, t⟩⟩, hle⟩
  · exact absurd rfl h
  · have hhead : (memcpy buf [x]).headD 0 = x := rfl
    by_cases hx : x = 0
    · simp only [expandPsk, Psk.size, List.length_singleton, if_true, hhead, if_pos hx]
      simp [specifiedKey, hx]
    · simp only [expandPsk, Psk.size, List.length_singleton, if_true, hhead, if_neg hx,
        List.take_modify, memcpy_take, specifiedKey, raise_last_byte hx]
      simp
  · have h1 : (⟨x :: y :: t, hle⟩ : Psk).size ≠ 1 := by simp [Psk.size]
    simp only [expandPsk, if_neg h1]
    exact ⟨rfl, memcpy_take _ _⟩

theorem specifiedKey_singleton_inj {a c : UInt8} (h : specifiedKey [a] = specifiedKey [c]) :
    a = c := by
  have hl := congrArg (·[defaultpsk.length - 1]?) h
  by_cases ha : a = 0 <;> by_cases hc : c = 0
  · rw [ha, hc]
  · simp [specifiedKey, ha, hc, defaultpsk] at h
  · simp [specifiedKey, ha, hc, defaultpsk] at h
  · simp [specifiedKey, ha, hc, defaultpsk, UInt8.ofNat] at hl
    have e := congrArg (fun u : UInt8 => u.toBitVec.toNat) hl
    have ha' : a.toNat ≠ 0 := fun e => ha (UInt8.toNat.inj e)
    have hc' : c.toNat ≠ 0 := fun e => hc (UInt8.toNat.inj e)
    have := a.toNat_lt_size
    have := c.toNat_lt_size
    simp only [UInt8.toBitVec_ofNat, BitVec.toNat_ofNat] at e
    apply UInt8.toNat.inj
    simp only [UInt8.size] at *
    omega

theorem migrateChannelSettings_psk (cs : ChannelSettings) :
    (migrateChannelSettings cs).psk =
      if cs.psk.bytes = defaultpsk then defaultPskIndex else cs.psk := by
  unfold migrateChannelSettings
  split_ifs <;> simp_all [Psk.size]

/-- The legacy rewrite keeps the key a stored key stands for: the old 16-byte form of the
default key and index `1` both stand for the default key. -/
theorem specifiedKey_migrate (cs : ChannelSettings) :
    specifiedKey (migrateChannelSettings cs).psk.bytes = specifiedKey cs.psk.bytes := by
  rw [migrateChannelSettings_psk]
  split_ifs with h
  · rw [h]; decide
  · rfl

/-! ## The key `resetRadioConfig` hands `crypto->setKey` -/

variable (P : Platform) (hw : Hardware)

theorem applyChannelSettings_key (d : NodeDB)
    (h : d.devicestate.radio.channelSettings.psk.bytes ≠ []) :
    (applyChannelSettings P d).activePSKSize =
        (specifiedKey d.devicestate.radio.channelSettings.psk.bytes).length ∧
      liveKey (applyChannelSettings P d) =
        specifiedKey d.devicestate.radio.channelSettings.psk.bytes := by
  have hne : (migrateChannelSettings d.devicestate.radio.channelSettings).psk.bytes ≠ [] := by
    have := migrateChannelSettings_size _ (mt List.length_eq_zero.1 h)
    exact mt List.length_eq_zero.2 this
  have e := applyChannelSettings_activePSK P d
  rw [liveKey, e.1, e.2, ← specifiedKey_migrate]
  exact expandPsk_key _ hne

theorem resetRadioConfigUnflagged_key (db : NodeDB) :
    (resetRadioConfigUnflagged P db).activePSKSize =
        (specifiedKey db.devicestate.radio.channelSettings.psk.bytes).length ∧
      liveKey (resetRadioConfigUnflagged P db) =
        specifiedKey db.devicestate.radio.channelSettings.psk.bytes ∧
      (resetRadioConfigUnflagged P db).calls = db.calls ++
        [.setKey (resetRadioConfigUnflagged P db).activePSKSize
          (liveKey (resetRadioConfigUnflagged P db)), .initRegion] := by
  unfold resetRadioConfigUnflagged
  dsimp only
  rw [applyChannelSettings_calls]
  split
  · rename_i h0
    have h := applyChannelSettings_key P
      (setDefaultChannel { db with radioGeneration := db.radioGeneration + 1 })
      (by simp [setDefaultChannel, defaultPskIndex])
    have hd : specifiedKey [1] = specifiedKey [] := by decide
    rw [List.length_eq_zero.1 h0, ← hd]
    exact ⟨h.1, h.2, rfl⟩
  · rename_i h0
    have h := applyChannelSettings_key P { db with radioGeneration := db.radioGeneration + 1 }
      (mt List.length_eq_zero.2 h0)
    exact ⟨h.1, h.2, rfl⟩

/-- PSK expansion: on settings that ask for no factory reset, `resetRadioConfig` hands
`crypto->setKey` the size and bytes of the live key, and the live key is the one the stored
key stands for by `specifiedKey`; a stored 16-byte default key is rewritten to index `1`,
and the live key is then the stored bytes. -/
theorem resetRadioConfig_live_key (fuel : Nat) (db : NodeDB)
    (hf : db.devicestate.radio.preferences.factoryReset = false) :
    ∃ db', resetRadioConfig P hw fuel db = .ok (db', false) ∧
      db'.activePSKSize = (specifiedKey db.devicestate.radio.channelSettings.psk.bytes).length ∧
      liveKey db' = specifiedKey db.devicestate.radio.channelSettings.psk.bytes ∧
      db'.calls = db.calls ++ [.setKey db'.activePSKSize (liveKey db'), .initRegion] ∧
      (db.devicestate.radio.channelSettings.psk.bytes = defaultpsk →
        db'.devicestate.radio.channelSettings.psk = defaultPskIndex) := by
  obtain ⟨h₁, h₂, h₃⟩ := resetRadioConfigUnflagged_key P db
  refine ⟨_, resetRadioConfig_unflagged P hw hf, h₁, h₂, h₃, fun hd => ?_⟩
  have h0 : db.devicestate.radio.channelSettings.psk.size ≠ 0 := by
    simp [Psk.size, hd, defaultpsk]
  simp only [resetRadioConfigUnflagged, if_neg h0, applyChannelSettings_channelSettings,
    migrateChannelSettings_psk, hd, if_true]

theorem resetRadioConfig_live_key_default :
    ∃ db', resetRadioConfig Platform.demo Hardware.demo 0
        { devicestate := { radio := { channelSettings := { psk := { bytes := defaultpsk } } } } } =
          .ok (db', false) ∧
      db'.activePSKSize = 16 ∧ liveKey db' = defaultpsk ∧
      db'.calls = [.setKey db'.activePSKSize (liveKey db'), .initRegion] ∧
      (defaultpsk = defaultpsk → db'.devicestate.radio.channelSettings.psk = defaultPskIndex) :=
  resetRadioConfig_live_key Platform.demo Hardware.demo 0
    { devicestate := { radio := { channelSettings := { psk := { bytes := defaultpsk } } } } } rfl

/-! ## A second `resetRadioConfig` -/

theorem resetRadioConfig_applied (fuel : Nat) (db : NodeDB) :
    ∃ d b, resetRadioConfig P hw fuel db = .ok (applyChannelSettings P d, b) ∧
      d.devicestate.radio.preferences.factoryReset = false ∧
      d.devicestate.radio.channelSettings.psk.size ≠ 0 := by
  cases hf : db.devicestate.radio.preferences.factoryReset
  · refine ⟨_, false, resetRadioConfig_unflagged P hw hf, ?_⟩
    split
    · exact ⟨hf, by simp [setDefaultChannel, defaultPskIndex, Psk.size]⟩
    · exact ⟨hf, ‹_›⟩
  · obtain ⟨dbI, hI, he⟩ :=
      installDefaultDeviceState_eq P hw fuel { db with radioGeneration := db.radioGeneration + 1 }
    refine ⟨dbI, true, by simp [resetRadioConfig, hf, hI, bind, Except.bind, pure, Except.pure],
      by rw [he]; rfl, by rw [he]; exact (by decide : defaultPskIndex.size ≠ 0)⟩

theorem applyChannelSettings_radioGeneration (d : NodeDB) (g : UInt32) :
    applyChannelSettings P { d with radioGeneration := g } =
      { applyChannelSettings P d with radioGeneration := g } := by
  cases hns : d.devicestate.noSave <;> simp [applyChannelSettings, hns, setChannelSettings, call]

/-- `resetRadioConfig` is idempotent: it always returns, and a second call returns no factory
reset and leaves everything as the first left it (`devicestate`, the live key, `channelName`)
but `radioGeneration`, which it raises once more; it repeats the calls of the first, handing
`crypto->setKey` the same key. -/
theorem resetRadioConfig_twice (fuel fuel' : Nat) (db : NodeDB) :
    ∃ db₁ b, resetRadioConfig P hw fuel db = .ok (db₁, b) ∧
      resetRadioConfig P hw fuel' db₁ =
        .ok ({ (db₁.call (.setKey db₁.activePSKSize (liveKey db₁))).call .initRegion with
          radioGeneration := db₁.radioGeneration + 1 }, false) := by
  obtain ⟨d, b, h, hf, hs⟩ := resetRadioConfig_applied P hw fuel db
  refine ⟨_, b, h, ?_⟩
  have hf₁ := (applyChannelSettings_devicestate P d).2.trans hf
  have hs₁ : (applyChannelSettings P d).devicestate.radio.channelSettings.psk.size ≠ 0 := by
    rw [applyChannelSettings_channelSettings]; exact migrateChannelSettings_size _ hs
  rw [resetRadioConfig_unflagged P hw hf₁, resetRadioConfigUnflagged]
  dsimp only
  rw [if_neg hs₁, applyChannelSettings_radioGeneration, applyChannelSettings_twice]

/-! ## The display name -/

theorem resetRadioConfig_liveKey {fuel : Nat} {db r : NodeDB} {b : Bool}
    (h : resetRadioConfig P hw fuel db = .ok (r, b)) :
    liveKey r = specifiedKey r.devicestate.radio.channelSettings.psk.bytes := by
  obtain ⟨d, b', h', -, hs⟩ := resetRadioConfig_applied P hw fuel db
  rw [h] at h'
  cases h'
  rw [(applyChannelSettings_key P d (mt List.length_eq_zero.2 hs)).2,
    applyChannelSettings_channelSettings, specifiedKey_migrate]

/-- The channel display string after `resetRadioConfig` is the same for two settings with the
same resolved name and the same live key when both or neither store a one-byte index. -/
theorem getChannelName_of_same_key {fuel₁ fuel₂ : Nat} {db₁ db₂ r₁ r₂ : NodeDB} {b₁ b₂ : Bool}
    (h₁ : resetRadioConfig P hw fuel₁ db₁ = .ok (r₁, b₁))
    (h₂ : resetRadioConfig P hw fuel₂ db₂ = .ok (r₂, b₂))
    (hname : channelNameText r₁ = channelNameText r₂) (hkey : liveKey r₁ = liveKey r₂)
    (hidx : r₁.devicestate.radio.channelSettings.psk.size = 1 ↔
      r₂.devicestate.radio.channelSettings.psk.size = 1) :
    getChannelName r₁ = getChannelName r₂ := by
  have hk : liveKey r₁ = r₁.activePSK.take r₁.activePSKSize := rfl
  have hk' : liveKey r₂ = r₂.activePSK.take r₂.activePSKSize := rfl
  by_cases hs : r₁.devicestate.radio.channelSettings.psk.size = 1
  · obtain ⟨a, ha⟩ := List.length_eq_one.1 hs
    obtain ⟨c, hc⟩ := List.length_eq_one.1 (hidx.1 hs)
    have hac : a = c := by
      apply specifiedKey_singleton_inj
      rw [← ha, ← hc, ← resetRadioConfig_liveKey P hw h₁, ← resetRadioConfig_liveKey P hw h₂,
        hkey]
    simp only [getChannelName, hname, if_neg (not_not.2 hs), if_neg (not_not.2 (hidx.1 hs)),
      ha, hc, hac]
  · simp only [getChannelName, hname, if_pos hs, if_pos (mt hidx.2 hs), ← hk, ← hk', hkey]

theorem getChannelName_of_same_key_default :
    getChannelName (resetRadioConfigUnflagged Platform.demo
        { devicestate := { radio := { channelSettings := { psk := { bytes := [1] } } } } }) =
      getChannelName (resetRadioConfigUnflagged Platform.demo
        { devicestate := { radio := { channelSettings := { psk := { bytes := defaultpsk } } } } }) :=
  getChannelName_of_same_key Platform.demo Hardware.demo
    (resetRadioConfig_unflagged Platform.demo Hardware.demo rfl :
      resetRadioConfig Platform.demo Hardware.demo 0
          { devicestate := { radio := { channelSettings := { psk := { bytes := [1] } } } } } =
        .ok (resetRadioConfigUnflagged Platform.demo
          { devicestate := { radio := { channelSettings := { psk := { bytes := [1] } } } } }, false))
    (resetRadioConfig_unflagged Platform.demo Hardware.demo rfl :
      resetRadioConfig Platform.demo Hardware.demo 0
          { devicestate := { radio := { channelSettings := { psk := { bytes := defaultpsk } } } } } =
        .ok (resetRadioConfigUnflagged Platform.demo
          { devicestate := { radio := { channelSettings := { psk := { bytes := defaultpsk } } } } },
          false))
    rfl
    (by
      rw [(resetRadioConfigUnflagged_key _ _).2.1, (resetRadioConfigUnflagged_key _ _).2.1]
      decide)
    ⟨fun _ => rfl, fun _ => rfl⟩

set_option maxRecDepth 1000 in
/-- Index `2` and the 16 bytes it stands for: the same name and live key, but the index shows
the digit `2` and the full key a letter. -/
theorem getChannelName_index_or_full_key :
    ∃ r₁ r₂, resetRadioConfig Platform.demo Hardware.demo 0
        { devicestate := { radio := { channelSettings := { psk := { bytes := [2] } } } } } =
          .ok (r₁, false) ∧
      resetRadioConfig Platform.demo Hardware.demo 0
        { devicestate := { radio := { channelSettings := { psk := { bytes :=
          [0xd4, 0xf1, 0xbb, 0x3a, 0x20, 0x29, 0x07, 0x59, 0xf0, 0xbc, 0xff, 0xab, 0xcf, 0x4e,
            0x69, 0xc0] } } } } } = .ok (r₂, false) ∧
      channelNameText r₁ = channelNameText r₂ ∧ liveKey r₁ = liveKey r₂ ∧
      getChannelName r₁ ≠ getChannelName r₂ := by
  refine ⟨_, _, resetRadioConfig_unflagged _ _ rfl, resetRadioConfig_unflagged _ _ rfl, rfl,
    ?_, ?_⟩
  · rw [(resetRadioConfigUnflagged_key _ _).2.1, (resetRadioConfigUnflagged_key _ _).2.1]
    decide
  · decide

/-! ## The factory-reset branch -/

/-- A factory reset, whatever the state: `installDefaultDeviceState` and then the channel
settings applied again. Of the old `devicestate` only the region code and region string are
kept; `radioGeneration` goes up by two, the first 16 bytes of the key buffer hold the default
key, and `crypto->setKey` gets it twice. The table empties, but `readPointer` is left where
it was. -/
theorem resetRadioConfig_factory_reset (fuel : Nat) (db : NodeDB)
    (hf : db.devicestate.radio.preferences.factoryReset = true) :
    resetRadioConfig P hw fuel db = .ok ({ db with
      devicestate := defaultDeviceState P hw.macAddr db.devicestate.radio.preferences.region
        db.devicestate.myNode.region
      ourMacAddr := hw.macAddr
      radioGeneration := db.radioGeneration + 2
      channelName := .literal "LongSlow"
      activePSK := defaultpsk ++ db.activePSK.drop 16
      activePSKSize := 16
      calls := db.calls ++ [.setKey 16 defaultpsk, .initRegion, .generatePacketId,
        .setKey 16 defaultpsk, .initRegion] }, true) := by
  have h2 : db.radioGeneration + 1 + 1 = db.radioGeneration + 2 := by
    apply UInt32.toNat.inj
    simp [UInt32.toNat, UInt32.add_def]
  simp only [resetRadioConfig, hf, if_true, installDefaultDeviceState_record, bind, Except.bind,
    pure, Except.pure]
  rw [applyChannelSettings_default P rfl rfl, clearDeviceState_eq]
  simp [h2, defaultpsk]

theorem resetRadioConfig_factory_reset_flagged :
    ∃ db', resetRadioConfig Platform.demo Hardware.demo 0
        { devicestate := { radio := { preferences := { factoryReset := true } } } } =
          .ok (db', true) ∧
      db'.radioGeneration = 2 ∧ db'.calls.length = 5 :=
  ⟨_, resetRadioConfig_factory_reset Platform.demo Hardware.demo 0 _ rfl, rfl, rfl⟩

end NodeDB
end MeshNodeDB
