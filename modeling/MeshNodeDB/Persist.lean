import MeshNodeDB.Init

/-! # Saving and loading the device state

`loadFromDisk` decodes straight into the zeroed `devicestate`, to spare a 15KB buffer; when
the decoding fails it installs the default record over what was written so far, keeping
the region code and region string found there. `saveToDisk` writes a temporary file and
renames it over the old one. A state this firmware saved after booting, and reloaded by the
next `init` on the same device and build, comes back unchanged. -/

namespace MeshNodeDB
namespace NodeDB

variable {P : Platform} {hw : Hardware} {Blob : Type}

/-- A failed decode: `devicestate` becomes the default record, with the region code and
region string of what the decoder had written, and nothing of the state before. -/
theorem loadFromDisk_decode_failed {fuel : Nat} {codec : Codec Blob} {fs : FileSystem Blob}
    {b : Blob} {s : DeviceState} (hb : fs.preffile = some b) (hs : codec.decode b = .failed s)
    (db : NodeDB) :
    ∃ db', loadFromDisk P hw fuel codec fs db = .ok db' ∧
      db'.devicestate =
        defaultDeviceState P hw.macAddr s.radio.preferences.region s.myNode.region := by
  obtain ⟨db', h, he⟩ := installDefaultDeviceState_eq P hw fuel { db with devicestate := s }
  exact ⟨db', by rw [loadFromDisk, hb]; simp only [hs, h], he⟩

theorem loadFromDisk_decode_failed_region :
    ∃ db', loadFromDisk Platform.demo Hardware.demo 0
        (⟨fun _ => (), fun _ => .failed { radio := { preferences := { region := 3 } } }⟩ :
          Codec Unit) ⟨some (), none⟩ {} = .ok db' ∧
      db'.devicestate = defaultDeviceState Platform.demo Hardware.demo.macAddr 3 "" :=
  loadFromDisk_decode_failed (s := { radio := { preferences := { region := 3 } } }) rfl rfl {}

/-- A decode that fails after writing a region code: the code survives, though the state
before `loadFromDisk` had none, and `installDefaultDeviceState` on that state leaves none. -/
theorem loadFromDisk_keeps_partial_region :
    ∃ db' dbD, loadFromDisk Platform.demo Hardware.demo 0
        (⟨fun _ => (), fun _ => .failed { radio := { preferences := { region := 3 } } }⟩ :
          Codec Unit) ⟨some (), none⟩ {} = .ok db' ∧
      installDefaultDeviceState Platform.demo Hardware.demo 0 {} = .ok dbD ∧
      db'.devicestate.radio.preferences.region = 3 ∧
      dbD.devicestate.radio.preferences.region = RegionCode.unset :=
  ⟨_, _, rfl, rfl, rfl, rfl⟩

/-! ## A saved state survives a reboot -/

/-- What a booted state keeps that makes the next boot change nothing: `Booted`, this node's
record marked as holding a user, a valid node number, the build's region string, no
legacy region left to migrate, settled channel settings, and no factory reset pending. -/
structure Settled (P : Platform) (db : NodeDB) : Prop where
  booted : Booted P db
  own : ∃ x, lookup db.devicestate.nodeDb db.devicestate.myNode.myNodeNum = some x ∧
    x.hasUser = true
  numValid : numReserved ≤ db.devicestate.myNode.myNodeNum ∧
    db.devicestate.myNode.myNodeNum ≠ P.nodenumBroadcast
  hwRegion : P.hwVersion ≠ "" → db.devicestate.myNode.region = P.hwVersion
  legacyDone : (migrateLegacyRegion P db).devicestate.radio.preferences.region =
    db.devicestate.radio.preferences.region
  channel : ChannelSettled db.devicestate.radio.channelSettings
  noReset : db.devicestate.radio.preferences.factoryReset = false

theorem Settled.congr {db db' : NodeDB}
    (h : db'.devicestate = { db.devicestate with version := db'.devicestate.version })
    (hs : Settled P db) : Settled P db' := by
  have hr : db'.devicestate.radio.preferences.region = db.devicestate.radio.preferences.region :=
    by rw [h]
  have hm : db'.devicestate.myNode.region = db.devicestate.myNode.region := by rw [h]
  obtain ⟨⟨h1, h2, h3, h4, h5, h6, h7, h8⟩, h9, h10, h11, h12, h13, h14⟩ := hs
  refine ⟨⟨?_, ?_, ?_, ?_, ?_, ?_, ?_, ?_⟩, ?_, ?_, ?_, ?_, ?_, ?_⟩ <;> rw [h] <;>
    first
    | assumption
    | exact (migrateLegacyRegion_region_congr P hr hm).trans h12

theorem Settled.congr_eq {db db' : NodeDB} (h : db'.devicestate = db.devicestate)
    (hs : Settled P db) : Settled P db' :=
  hs.congr (by rw [h])

theorem initFromLoaded_settled {fuel : Nat} {db db₀ : NodeDB}
    (hf : db.devicestate.radio.preferences.factoryReset = false)
    (h : initFromLoaded P hw fuel db = .ok db₀) (hns : db₀.devicestate.noSave = false) :
    Settled P db₀ := by
  obtain ⟨hb, x, hx, hxu, -⟩ := initFromLoaded_booted hf h
  obtain ⟨db₁, db₂, h₁, h₂, rfl⟩ := initFromLoaded_unflagged P hw hf h
  obtain ⟨i, -, he⟩ := insertOwner_ok P h₂
  obtain ⟨e₀, hf₀⟩ := resetRadioConfigUnflagged_devicestate P (setBuildStrings P db₂)
  have hmy : (resetRadioConfigUnflagged P (setBuildStrings P db₂)).devicestate.myNode =
      (setBuildStrings P db₂).devicestate.myNode := by rw [e₀]
  have hns' : (setBuildStrings P db₂).devicestate.noSave = false := by rw [← hns, e₀]
  have hpr := resetRadioConfigUnflagged_preferences P hns'
  have hnum : db₂.devicestate.myNode.myNodeNum = db₁.devicestate.myNode.myNodeNum := by
    rw [he]; rfl
  refine ⟨hb, ⟨x, hx, hxu⟩, ?_, fun hv => ?_, ?_, resetRadioConfigUnflagged_settled P _, ?_⟩
  · rw [hmy, setBuildStrings_devicestate]
    exact hnum ▸ ⟨(pickNewNodeNum_spec h₁).1, (pickNewNodeNum_spec h₁).2.1⟩
  · rw [hmy, setBuildStrings_region P db₂ hv]
  · rw [migrateLegacyRegion_region_congr P (congrArg (·.region) hpr) (congrArg (·.region) hmy),
      setBuildStrings_legacyDone, hpr]
  · rw [hf₀, initFromLoaded_radio P hw h₁ h₂, hf]

theorem Settled.of_nodeDb {db db' : NodeDB} (hs : Settled P db)
    (h : db'.devicestate = { db.devicestate with nodeDb := db'.devicestate.nodeDb })
    (hown : ∃ x, lookup db'.devicestate.nodeDb db.devicestate.myNode.myNodeNum = some x ∧
      x.hasUser = true) : Settled P db' := by
  obtain ⟨x, hx, hxu⟩ := hown
  have hmem : db.devicestate.myNode.myNodeNum ∈ keys db'.devicestate.nodeDb := by
    rw [← not_not (a := _ ∈ _), ← lookup_eq_none, hx]
    simp
  have hmy : db'.devicestate.myNode = db.devicestate.myNode := by rw [h]
  have hradio : db'.devicestate.radio = db.devicestate.radio := by rw [h]
  obtain ⟨⟨-, h2, h3, h4, h5, h6, h7, h8⟩, -, h10, h11, h12, h13, h14⟩ := hs
  refine ⟨⟨hmy ▸ hmem, hmy ▸ h2, hmy ▸ h3, hmy ▸ h4, hmy ▸ h5, hmy ▸ h6, hmy ▸ h7, hmy ▸ h8⟩,
    ⟨x, hmy ▸ hx, hxu⟩, hmy ▸ h10, hmy ▸ h11, ?_, hradio ▸ h13, hradio ▸ h14⟩
  rw [migrateLegacyRegion_region_congr P (congrArg (·.preferences.region) hradio)
    (congrArg (·.region) hmy), h12, hradio]

theorem LaterStep.settled {db db' : NodeDB} (h : LaterStep P hw db db') (hs : Settled P db)
    (hns : db.devicestate.noSave = false) :
    Settled P db' ∧ db'.devicestate.noSave = db.devicestate.noSave := by
  cases h with
  | update u h =>
    have e := (Update.run_frame h).2
    refine ⟨hs.of_nodeDb e ?_, by rw [e]⟩
    obtain ⟨x, hx, hxu⟩ := hs.own
    rcases (Update.run_frame h).1 with e' | ⟨w, i, hu⟩
    · exact ⟨x, e' ▸ hx, hxu⟩
    · rw [upsert_table hu, lookup_upserted]
      split
      · rename_i hn
        rw [← hn, hx]
        exact ⟨_, rfl, w.hasUser_apply _ hxu⟩
      · exact ⟨x, hx, hxu⟩
  | resetRadioConfig hf h =>
    rw [resetRadioConfig_unflagged P hw hf] at h
    cases h
    have e := resetRadioConfigUnflagged_fixed P hs.channel hns
    exact ⟨hs.congr_eq e, by rw [e]⟩

/-! ### The next boot changes nothing -/

theorem setBuildFields_of_booted {db : NodeDB} (hb : Booted P db) :
    (setBuildFields P db).devicestate = db.devicestate := by
  unfold setBuildFields
  rw [← hb.nodeNumBits, ← hb.packetIdBits, ← hb.errorCode, ← hb.errorAddress,
    ← hb.minAppVersion]

theorem insertOwner_of_owner {db : NodeDB} {x : NodeInfo}
    (hx : lookup db.devicestate.nodeDb db.devicestate.myNode.myNodeNum = some x)
    (hxu : x.hasUser = true) (hxo : x.user = db.devicestate.owner) : insertOwner P db = .ok db := by
  cases hg : getNode db.devicestate.nodeDb db.devicestate.myNode.myNodeNum with
  | none => simp [lookup, hg] at hx
  | some i =>
    have hxi : db.devicestate.nodeDb[i]? = some x := by simpa [lookup, hg] using hx
    rw [insertOwner_eq, upsert_of_getNode hg, modify_of_fixed]
    · rfl
    · intro y hy
      rw [hxi] at hy
      cases hy
      simp [setUser, ← hxu, ← hxo]

theorem setBuildStrings_of_settled {db : NodeDB} (hs : Settled P db) :
    (setBuildStrings P db).devicestate = db.devicestate := by
  have hX : (if P.hwVersion ≠ "" then { db with devicestate.myNode.region := P.hwVersion }
      else db).devicestate = db.devicestate := by
    split
    · rename_i hv
      rw [← hs.hwRegion hv]
    · rfl
  have hR : (setBuildStrings P db).devicestate.myNode.region = db.devicestate.myNode.region := by
    by_cases hv : P.hwVersion ≠ ""
    · rw [setBuildStrings_region P db hv, hs.hwRegion hv]
    · simp only [setBuildStrings, if_neg hv]
      rw [migrateLegacyRegion_devicestate]
  have hPR : (setBuildStrings P db).devicestate.radio.preferences.region =
      db.devicestate.radio.preferences.region :=
    (migrateLegacyRegion_region_congr P (congrArg (·.radio.preferences.region) hX)
      (congrArg (·.myNode.region) hX)).trans hs.legacyDone
  rw [setBuildStrings_devicestate, hR, hPR, ← hs.booted.firmwareVersion, ← hs.booted.hwModel]

/-- `initFromLoaded` on a `Settled` state whose own record holds the owner changes nothing
of `devicestate`. -/
theorem initFromLoaded_fixed {fuel : Nat} {db : NodeDB} (hs : Settled P db)
    (hns : db.devicestate.noSave = false) {x : NodeInfo}
    (hx : lookup db.devicestate.nodeDb db.devicestate.myNode.myNodeNum = some x)
    (hxo : x.user = db.devicestate.owner) :
    ∃ db', initFromLoaded P hw fuel db = .ok db' ∧ db'.devicestate = db.devicestate := by
  have e₁ := setBuildFields_of_booted hs.booted
  have hs₁ : Settled P (setBuildFields P db) := hs.congr_eq e₁
  have hx₁ : lookup (setBuildFields P db).devicestate.nodeDb
      (setBuildFields P db).devicestate.myNode.myNodeNum = some x := by rw [e₁]; exact hx
  have hxo₁ : x.user = (setBuildFields P db).devicestate.owner := by rw [e₁]; exact hxo
  have hxu : x.hasUser = true := by
    obtain ⟨y, hy, hyu⟩ := hs.own
    rw [hx] at hy
    cases hy
    exact hyu
  have e₃ := setBuildStrings_of_settled hs₁
  have hf₃ : (setBuildStrings P (setBuildFields P db)).devicestate.radio.preferences.factoryReset =
      false := by rw [e₃, e₁]; exact hs.noReset
  have e₄ := resetRadioConfigUnflagged_fixed P (e₃ ▸ e₁ ▸ hs.channel) (by rw [e₃, e₁]; exact hns)
  exact ⟨_, initFromLoaded_of_steps P hw
    (pickNewNodeNum_of_acceptable ⟨hs₁.numValid.1, hs₁.numValid.2, .inr ⟨x, hx₁, by rw [hxo₁]⟩⟩)
    (insertOwner_of_owner hx₁ hxu hxo₁) (resetRadioConfig_unflagged P hw hf₃),
    e₄.trans (e₃.trans e₁)⟩

theorem saveToDisk_ok {codec : Codec Blob} {io : SaveIO Blob} {fs : FileSystem Blob}
    {db : NodeDB} (hns : db.devicestate.noSave = false)
    (hio : io.opened ∧ io.encoded ∧ io.renamed) :
    saveToDisk codec io fs db =
      ({ db with devicestate.version := devicestateCurVer },
        { preffile := some (codec.encode { db.devicestate with version := devicestateCurVer }),
          preftmp := none }) := by
  obtain ⟨ho, he, hr⟩ := hio
  simp only [saveToDisk, hns, ho, he, hr, if_true, Bool.false_eq_true, if_false]
  split <;> rfl

/-- Every state reached from `init` by later steps without `no_save` is `Settled`. -/
theorem init_run_settled {fuel : Nat} {codec : Codec Blob} {fs : FileSystem Blob}
    {dbOld db₀ s : NodeDB} (hinit : init P hw fuel codec fs dbOld = .ok db₀)
    (hflag : ∀ b d, fs.preffile = some b → codec.decode b = .ok d →
      d.radio.preferences.factoryReset = false)
    (hrun : Relation.ReflTransGen (LaterStep P hw) db₀ s) (hns : s.devicestate.noSave = false) :
    Settled P s := by
  have hns₀ : ∀ {d}, Relation.ReflTransGen (LaterStep P hw) db₀ d →
      d.devicestate.noSave = db₀.devicestate.noSave := fun hr => by
    induction hr with
    | refl => rfl
    | tail _ step ih => exact step.noSave.trans ih
  have h₀ : db₀.devicestate.noSave = false := (hns₀ hrun).symm.trans hns
  obtain ⟨dbL, hfL, hF⟩ := init_unflagged hinit hflag
  induction hrun with
  | refl => exact initFromLoaded_settled hfL hF h₀
  | tail hr step ih => exact (step.settled (ih (hns₀ hr ▸ h₀)) (hns₀ hr ▸ h₀)).1

/-- Reboot preserves state: from a saved record asking for no factory reset, through
catalog updates and `resetRadioConfig` calls without a factory reset, to a state without
`no_save` whose own record holds the owner: when `saveToDisk` succeeds and `pb_decode`
inverts `pb_encode`, the next `init` returns exactly the `devicestate` saved. -/
theorem reboot_restores_saved_state {fuel fuel' : Nat} {codec : Codec Blob}
    {fs : FileSystem Blob} {io : SaveIO Blob} {dbOld db₀ s dbX : NodeDB}
    (hcodec : ∀ d, codec.decode (codec.encode d) = .ok d)
    (hinit : init P hw fuel codec fs dbOld = .ok db₀)
    (hflag : ∀ b d, fs.preffile = some b → codec.decode b = .ok d →
      d.radio.preferences.factoryReset = false)
    (hrun : Relation.ReflTransGen (LaterStep P hw) db₀ s) (hns : s.devicestate.noSave = false)
    (hown : ∃ x, lookup s.devicestate.nodeDb s.devicestate.myNode.myNodeNum = some x ∧
      x.user = s.devicestate.owner)
    (hio : io.opened ∧ io.encoded ∧ io.renamed) :
    ∃ db', init P hw fuel' codec (saveToDisk codec io fs s).2 dbX = .ok db' ∧
      db'.devicestate = (saveToDisk codec io fs s).1.devicestate := by
  have hs := init_run_settled hinit hflag hrun hns
  obtain ⟨x, hx, hxo⟩ := hown
  rw [saveToDisk_ok hns hio]
  obtain ⟨dbI, hI, -⟩ := installDefaultDeviceState_eq P hw fuel' dbX
  set saved := { s.devicestate with version := devicestateCurVer }
  have hL : loadFromDisk P hw fuel' codec ⟨some (codec.encode saved), none⟩ dbI =
      .ok { dbI with devicestate := saved } :=
    loadFromDisk_decoded P hw rfl (hcodec saved)
      (by simp [saved, devicestateCurVer, devicestateMinVer]) dbI
  have hF : ∃ db', initFromLoaded P hw fuel' { dbI with devicestate := saved } = .ok db' ∧
      db'.devicestate = saved := initFromLoaded_fixed (hs.congr rfl) hns hx hxo
  obtain ⟨db', hF, he⟩ := hF
  refine ⟨db', ?_, he⟩
  simp [init, hI, hL, hF, bind, Except.bind]

/-- A first boot without a file, a position from node `9`, a save: the next boot returns
the record saved. -/
theorem reboot_restores_saved_state_fresh :
    ∃ db₀ s, init Platform.demo Hardware.demo 0 (⟨id, .ok⟩ : Codec DeviceState) ⟨none, none⟩ {} =
        .ok db₀ ∧ (Update.updatePosition 9 {}).run Platform.demo db₀ = .ok s ∧
      ∃ db', init Platform.demo Hardware.demo 0 ⟨id, .ok⟩
          (saveToDisk ⟨id, .ok⟩ ⟨true, true, {}, true, true⟩ ⟨none, none⟩ s).2 {} = .ok db' ∧
        db'.devicestate =
          (saveToDisk ⟨id, .ok⟩ ⟨true, true, {}, true, true⟩ ⟨none, none⟩ s).1.devicestate :=
  ⟨_, _, rfl, rfl, @reboot_restores_saved_state Platform.demo Hardware.demo DeviceState 0 0
    ⟨id, .ok⟩ ⟨none, none⟩ ⟨true, true, {}, true, true⟩ {} _ _ {} (fun _ => rfl) rfl
    (fun _ _ h => by cases h) (.single (.update (.updatePosition 9 {}) rfl)) rfl ⟨_, rfl, rfl⟩
    ⟨rfl, rfl, rfl⟩⟩

/-- A first boot on a saved record asking for a factory reset leaves `node_num_bits` at
`0`; a packet carrying this node's own user restores its entry, and after a save the next
boot sets `node_num_bits` to `32`. -/
theorem reboot_after_stored_factory_reset :
    ∃ s₀ s db', init Platform.demo Hardware.demo 0 (⟨id, .ok⟩ : Codec DeviceState)
        ⟨some { version := 11, radio := { preferences := { factoryReset := true } } }, none⟩ {} =
        .ok s₀ ∧
      updateFrom Platform.demo s₀ ⟨s₀.devicestate.myNode.myNodeNum, 0xffffffff, 0, 0,
        .decoded (.user s₀.devicestate.owner)⟩ = .ok s ∧
      s.devicestate.noSave = false ∧
      (∃ x, lookup s.devicestate.nodeDb s.devicestate.myNode.myNodeNum = some x ∧
        x.user = s.devicestate.owner) ∧
      init Platform.demo Hardware.demo 0 ⟨id, .ok⟩
        (saveToDisk ⟨id, .ok⟩ ⟨true, true, {}, true, true⟩
          ⟨some { version := 11, radio := { preferences := { factoryReset := true } } }, none⟩ s).2
        {} = .ok db' ∧
      db'.devicestate.myNode.nodeNumBits ≠
        (saveToDisk ⟨id, .ok⟩ ⟨true, true, {}, true, true⟩
          ⟨some { version := 11, radio := { preferences := { factoryReset := true } } }, none⟩
          s).1.devicestate.myNode.nodeNumBits :=
  ⟨_, _, _, rfl, rfl, rfl, ⟨_, rfl, rfl⟩, rfl, by decide⟩

end NodeDB
end MeshNodeDB
