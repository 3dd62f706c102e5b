import MeshNodeDB.Init

/-! # Every entry point: the key buffer and the radio generation

The entry points of `NodeDB.cpp` as one step relation: `init`, `resetRadioConfig` on either
branch, `installDefaultDeviceState`, `loadFromDisk`, `saveToDisk`, `pickNewNodeNum`,
`getOrCreateNode`, the three updates, `readNextInfo` and `recordCriticalError`, with any
arguments and any outcome of the file system. Along any run of them from power-on, the
32-byte `activePSK` keeps its size and every `crypto->setKey(size, key)` is handed `size`
bytes of it, never more than 32: the `memcpy`s into the buffer stay in bounds because nanopb
caps `psk` at 32 bytes, and the expanded default key is 16. And `radioGeneration` counts the
keys handed to `setKey`, so no call changes the key or the channel name without a new
generation, `loadFromDisk` apart, which takes a saved name and is only called by `init`. -/

namespace MeshNodeDB
namespace NodeDB

variable (P : Platform) (hw : Hardware) (Blob : Type)

/-- One call of an entry point of `NodeDB.cpp` that returns. -/
inductive FirmwareStep : NodeDB → NodeDB → Prop
  | init {fuel : Nat} {codec : Codec Blob} {fs : FileSystem Blob} {db db' : NodeDB} :
      init P hw fuel codec fs db = .ok db' → FirmwareStep db db'
  | resetRadioConfig {fuel : Nat} {db db' : NodeDB} {b : Bool} :
      resetRadioConfig P hw fuel db = .ok (db', b) → FirmwareStep db db'
  | installDefaultDeviceState {fuel : Nat} {db db' : NodeDB} :
      installDefaultDeviceState P hw fuel db = .ok db' → FirmwareStep db db'
  | loadFromDisk {fuel : Nat} {codec : Codec Blob} {fs : FileSystem Blob} {db db' : NodeDB} :
      loadFromDisk P hw fuel codec fs db = .ok db' → FirmwareStep db db'
  | saveToDisk {codec : Codec Blob} {io : SaveIO Blob} {fs : FileSystem Blob} {db : NodeDB} :
      FirmwareStep db (saveToDisk codec io fs db).1
  | pickNewNodeNum {fuel : Nat} {db db' : NodeDB} :
      pickNewNodeNum P hw fuel db = .ok db' → FirmwareStep db db'
  | getOrCreateNode {db : NodeDB} {n : NodeNum} {i : Nat} {nodes : List NodeInfo} :
      getOrCreateNode P db.devicestate.nodeDb n = .ok (i, nodes) →
      FirmwareStep db (db.setNodes nodes)
  | update {u : Update} {db db' : NodeDB} : u.run P db = .ok db' → FirmwareStep db db'
  | readNextInfo {db : NodeDB} : FirmwareStep db (readNextInfo db).2
  | recordCriticalError {code : Nat} {address : UInt32} {db : NodeDB} :
      FirmwareStep db (recordCriticalError code address db)

/-- The key buffer keeps its 32 bytes, and every `setKey(size, key)` made so far was handed
`size` bytes, at most 32. -/
structure KeyBounded (db : NodeDB) : Prop where
  buffer : db.activePSK.length = 32
  calls : ∀ n key, Call.setKey n key ∈ db.calls → key.length = n ∧ n ≤ 32

/-! ## Steps that leave the buffer and make no `setKey` -/

variable {P hw Blob}

theorem KeyBounded.frame {db db' : NodeDB} (h : KeyBounded db)
    (hb : db'.activePSK = db.activePSK)
    (hc : ∀ n key, Call.setKey n key ∈ db'.calls → Call.setKey n key ∈ db.calls) :
    KeyBounded db' :=
  ⟨hb ▸ h.buffer, fun n key hk => h.calls n key (hc n key hk)⟩

theorem KeyBounded.of_eq {db db' : NodeDB} (h : KeyBounded db)
    (hb : db'.activePSK = db.activePSK) (hc : db'.calls = db.calls) : KeyBounded db' :=
  h.frame hb fun _ _ hk => hc ▸ hk

theorem KeyBounded.setBuildStrings {db : NodeDB} (h : KeyBounded db) :
    KeyBounded (NodeDB.setBuildStrings P db) := by
  rw [setBuildStrings_eq]
  exact h.of_eq rfl rfl

theorem KeyBounded.pickNewNodeNum {fuel : Nat} {db db' : NodeDB} (h : KeyBounded db)
    (hp : NodeDB.pickNewNodeNum P hw fuel db = .ok db') : KeyBounded db' := by
  rw [pickNewNodeNum_eq, except_map_eq_ok] at hp
  obtain ⟨r, -, rfl⟩ := hp
  exact h.of_eq rfl rfl

theorem KeyBounded.insertOwner {db db' : NodeDB} (h : KeyBounded db)
    (hi : NodeDB.insertOwner P db = .ok db') : KeyBounded db' := by
  obtain ⟨i, -, e⟩ := insertOwner_ok P hi
  exact h.of_eq (by rw [e]; rfl) (by rw [e]; rfl)

theorem KeyBounded.update {u : Update} {db db' : NodeDB} (h : KeyBounded db)
    (hu : u.run P db = .ok db') : KeyBounded db' := by
  obtain ⟨g, cs, e, -, hcs⟩ := Update.run_eq hu
  refine h.frame (by rw [e]; rfl) fun n key hk => ?_
  rw [e, List.mem_append] at hk
  exact hk.resolve_right (hcs n key)

/-! ## Steps that write the buffer -/

theorem memcpy_length {buf src : List UInt8} (h : src.length ≤ buf.length) :
    (memcpy buf src).length = buf.length := by
  simp only [memcpy, List.length_append, List.length_drop]
  omega

theorem expandPsk_bounded {buf : List UInt8} (hb : buf.length = 32) (psk : Psk) :
    (expandPsk buf psk).1.length = 32 ∧ (expandPsk buf psk).2 ≤ 32 := by
  have h₁ : (memcpy buf psk.bytes).length = 32 := by
    rw [memcpy_length (hb ▸ psk.size_le), hb]
  unfold expandPsk
  dsimp only
  split_ifs
  · exact ⟨h₁, Nat.zero_le _⟩
  · exact ⟨by rw [List.length_modify, memcpy_length (by rw [h₁]; decide), h₁],
      (by decide : defaultpsk.length ≤ 32)⟩
  · exact ⟨h₁, psk.size_le⟩

theorem KeyBounded.applyChannelSettings {d : NodeDB} (h : KeyBounded d) :
    KeyBounded (NodeDB.applyChannelSettings P d) := by
  have e := applyChannelSettings_activePSK P d
  obtain ⟨hbuf, hsize⟩ :=
    expandPsk_bounded h.buffer (migrateChannelSettings d.devicestate.radio.channelSettings).psk
  rw [← e.1, ← e.2] at *
  refine ⟨hbuf, fun n key hk => ?_⟩
  rw [applyChannelSettings_calls] at hk
  simp only [List.mem_append, List.mem_cons, Call.setKey.injEq, List.not_mem_nil, or_false,
    reduceCtorEq] at hk
  rcases hk with hk | ⟨rfl, rfl⟩
  · exact h.calls n key hk
  · exact ⟨by simp [liveKey, hbuf, hsize], hsize⟩

theorem KeyBounded.resetRadioConfigUnflagged {db : NodeDB} (h : KeyBounded db) :
    KeyBounded (NodeDB.resetRadioConfigUnflagged P db) := by
  unfold NodeDB.resetRadioConfigUnflagged
  dsimp only
  apply KeyBounded.applyChannelSettings
  split <;> exact h.of_eq rfl rfl

theorem KeyBounded.clearDeviceState {db : NodeDB} (h : KeyBounded db) :
    KeyBounded (NodeDB.clearDeviceState P hw db) := by
  rw [clearDeviceState_eq]
  refine ⟨by simp [h.buffer, defaultpsk], fun n key hk => ?_⟩
  simp only [List.mem_append, List.mem_cons, Call.setKey.injEq, List.not_mem_nil, or_false,
    reduceCtorEq] at hk
  rcases hk with hk | ⟨rfl, rfl⟩
  · exact h.calls n key hk
  · decide

theorem KeyBounded.installDefaultDeviceState {fuel : Nat} {db db' : NodeDB} (h : KeyBounded db)
    (hI : NodeDB.installDefaultDeviceState P hw fuel db = .ok db') : KeyBounded db' := by
  rw [installDefaultDeviceState_record] at hI
  cases hI
  exact (@KeyBounded.clearDeviceState P hw db h).of_eq rfl rfl

theorem KeyBounded.resetRadioConfig {fuel : Nat} {db db' : NodeDB} {b : Bool}
    (h : KeyBounded db) (hr : NodeDB.resetRadioConfig P hw fuel db = .ok (db', b)) : KeyBounded db' := by
  rcases resetRadioConfig_ok P hw hr with ⟨-, -, rfl⟩ | ⟨-, -, dbI, hI, rfl⟩
  · exact h.resetRadioConfigUnflagged
  · refine (KeyBounded.installDefaultDeviceState ?_ hI).applyChannelSettings
    exact h.of_eq rfl rfl

theorem KeyBounded.loadFromDisk {fuel : Nat} {codec : Codec Blob} {fs : FileSystem Blob}
    {db db' : NodeDB} (h : KeyBounded db) (hl : NodeDB.loadFromDisk P hw fuel codec fs db = .ok db') :
    KeyBounded db' := by
  unfold NodeDB.loadFromDisk at hl
  split at hl
  · cases hl; exact h
  · split at hl
    · refine KeyBounded.installDefaultDeviceState ?_ hl
      exact h.of_eq rfl rfl
    · split at hl
      · refine KeyBounded.installDefaultDeviceState ?_ hl
        exact h.of_eq rfl rfl
      · cases hl; exact h.of_eq rfl rfl

theorem KeyBounded.initFromLoaded {fuel : Nat} {db db' : NodeDB} (h : KeyBounded db)
    (hi : NodeDB.initFromLoaded P hw fuel db = .ok db') : KeyBounded db' := by
  obtain ⟨db₁, db₂, b, h₁, h₂, h₃⟩ := initFromLoaded_ok P hw hi
  have hF : KeyBounded (setBuildFields P db) := h.of_eq rfl rfl
  exact (((hF.pickNewNodeNum h₁).insertOwner h₂).setBuildStrings).resetRadioConfig h₃

theorem KeyBounded.init {fuel : Nat} {codec : Codec Blob} {fs : FileSystem Blob}
    {db db' : NodeDB} (h : KeyBounded db) (hi : NodeDB.init P hw fuel codec fs db = .ok db') :
    KeyBounded db' := by
  obtain ⟨dbI, hI, -⟩ := installDefaultDeviceState_eq P hw fuel db
  simp only [NodeDB.init, hI, bind, Except.bind] at hi
  cases hL : NodeDB.loadFromDisk P hw fuel codec fs dbI with
  | error e => simp [hL] at hi
  | ok dbL =>
    rw [hL] at hi
    exact ((h.installDefaultDeviceState hI).loadFromDisk hL).initFromLoaded hi

/-- How `saveToDisk` can change the RAM and `/db.proto`: not at all, or the RAM stamped with
the current version and `/db.proto` left, removed and not replaced, or replaced by the
whole encoding of the stamped record. -/
theorem saveToDisk_cases (codec : Codec Blob) (io : SaveIO Blob) (fs : FileSystem Blob)
    (db : NodeDB) :
    saveToDisk codec io fs db = (db, fs) ∨
      (saveToDisk codec io fs db).1 = { db with devicestate.version := devicestateCurVer } ∧
        ((saveToDisk codec io fs db).2.preffile = fs.preffile ∨
          (saveToDisk codec io fs db).2.preffile = none ∨
          (saveToDisk codec io fs db).2.preffile =
            some (codec.encode { db.devicestate with version := devicestateCurVer })) := by
  unfold saveToDisk
  split
  · exact .inl rfl
  · split
    · refine .inr ⟨by split <;> rfl, ?_⟩
      split
      · dsimp only
        split
        · exact .inr (.inr (by split <;> rfl))
        · split
          · exact .inr (.inl rfl)
          · exact .inl rfl
      · exact .inl rfl
    · exact .inl rfl

theorem KeyBounded.step {db db' : NodeDB} (h : KeyBounded db)
    (hs : FirmwareStep P hw Blob db db') : KeyBounded db' := by
  cases hs with
  | init hi => exact h.init hi
  | resetRadioConfig hr => exact h.resetRadioConfig hr
  | installDefaultDeviceState hI => exact h.installDefaultDeviceState hI
  | loadFromDisk hl => exact h.loadFromDisk hl
  | @saveToDisk codec io fs =>
    rcases saveToDisk_cases codec io fs db with e | ⟨e, -⟩ <;> rw [e] <;> exact h.of_eq rfl rfl
  | pickNewNodeNum hp => exact h.pickNewNodeNum hp
  | getOrCreateNode _ => exact h.of_eq rfl rfl
  | update hu => exact h.update hu
  | readNextInfo =>
    simp only [NodeDB.readNextInfo]
    split <;> exact h.of_eq rfl rfl
  | recordCriticalError => exact h.of_eq rfl rfl

/-- The key handed to `crypto->setKey` is always in bounds: along any run of the entry points
of `NodeDB.cpp` from power-on, `activePSK` keeps its 32 bytes and every
`crypto->setKey(size, key)` made was handed `size` bytes of it, `size ≤ 32`. -/
theorem setKey_in_bounds {db : NodeDB}
    (hrun : Relation.ReflTransGen (FirmwareStep P hw Blob) {} db) :
    db.activePSK.length = 32 ∧ ∀ n key, Call.setKey n key ∈ db.calls → key.length = n ∧ n ≤ 32 := by
  have h : KeyBounded db := by
    induction hrun with
    | refl => exact ⟨rfl, fun _ _ hk => absurd hk (List.not_mem_nil _)⟩
    | tail _ step ih => exact ih.step step
  exact ⟨h.buffer, h.calls⟩

theorem setKey_in_bounds_reset :
    (resetRadioConfigUnflagged Platform.demo {}).activePSK.length = 32 ∧
      ∀ n key, Call.setKey n key ∈ (resetRadioConfigUnflagged Platform.demo {}).calls →
        key.length = n ∧ n ≤ 32 :=
  @setKey_in_bounds Platform.demo Hardware.demo Unit _
    (.single (.resetRadioConfig (@resetRadioConfig_unflagged Platform.demo Hardware.demo 0 {} rfl)))

/-! ## The radio generation

`radioGeneration` is "the current change # for radio settings", raised "any time the radio
settings might have changed" so that others can "detect they might now be on a new
channel". Every `crypto->setKey` comes with exactly one new generation, so along any run
from power-on the generation counts the keys handed to `setKey`, modulo `2^32`; and a call
that hands over no key leaves the key and the channel name alone, except that
`loadFromDisk` replaces the stored settings, name included, with a saved record's. -/

def Call.isSetKey : Call → Bool
  | .setKey _ _ => true
  | _ => false

/-- From `db` to `db'`: `n` more keys handed to `setKey` and `n` more generations, and,
when `n = 0`, the same channel name and key. -/
structure Keyed (db db' : NodeDB) (n : Nat) : Prop where
  calls : ∃ cs, db'.calls = db.calls ++ cs ∧ cs.countP Call.isSetKey = n
  generation : db'.radioGeneration.toNat = (db.radioGeneration.toNat + n) % 2 ^ 32
  channel : n = 0 → db'.channelName = db.channelName ∧ db'.activePSK = db.activePSK ∧
    db'.activePSKSize = db.activePSKSize

theorem uint32_toNat_lt (g : UInt32) : g.toNat < 2 ^ 32 := g.val.isLt

theorem Keyed.quiet {db db' : NodeDB} {cs : List Call} (hc : db'.calls = db.calls ++ cs)
    (hk : ∀ n key, Call.setKey n key ∉ cs) (hg : db'.radioGeneration = db.radioGeneration)
    (hl : db'.channelName = db.channelName ∧ db'.activePSK = db.activePSK ∧
      db'.activePSKSize = db.activePSKSize) : Keyed db db' 0 := by
  refine ⟨⟨cs, hc, List.countP_eq_zero.2 fun c hc => ?_⟩, ?_, fun _ => hl⟩
  · cases c with
    | setKey n key => exact absurd hc (hk n key)
    | _ => simp [Call.isSetKey]
  · rw [hg, Nat.add_zero, Nat.mod_eq_of_lt (uint32_toNat_lt _)]

theorem Keyed.of_eq {db db' : NodeDB} (hc : db'.calls = db.calls)
    (hg : db'.radioGeneration = db.radioGeneration)
    (hl : db'.channelName = db.channelName ∧ db'.activePSK = db.activePSK ∧
      db'.activePSKSize = db.activePSKSize) : Keyed db db' 0 :=
  Keyed.quiet (by rw [hc, List.append_nil]) (fun _ _ => List.not_mem_nil _) hg hl

theorem Keyed.of_frame {a b c : NodeDB} {n : Nat} (h : Keyed b c n) (hc : b.calls = a.calls)
    (hg : b.radioGeneration = a.radioGeneration)
    (hl : b.channelName = a.channelName ∧ b.activePSK = a.activePSK ∧
      b.activePSKSize = a.activePSKSize) : Keyed a c n := by
  obtain ⟨⟨cs, e, k⟩, hgen, hch⟩ := h
  exact ⟨⟨cs, e.trans (by rw [hc]), k⟩, hg ▸ hgen, fun h0 => by
    obtain ⟨n₁, p₁, s₁⟩ := hch h0
    exact ⟨n₁.trans hl.1, p₁.trans hl.2.1, s₁.trans hl.2.2⟩⟩

theorem Keyed.trans {a b c : NodeDB} {m n : Nat} (h₁ : Keyed a b m) (h₂ : Keyed b c n) :
    Keyed a c (m + n) := by
  obtain ⟨cs₁, e₁, k₁⟩ := h₁.calls
  obtain ⟨cs₂, e₂, k₂⟩ := h₂.calls
  refine ⟨⟨cs₁ ++ cs₂, by rw [e₂, e₁, List.append_assoc], by rw [List.countP_append, k₁, k₂]⟩,
    ?_, fun h => ?_⟩
  · rw [h₂.generation, h₁.generation]
    omega
  · obtain ⟨n₁, p₁, s₁⟩ := h₁.channel (by omega)
    obtain ⟨n₂, p₂, s₂⟩ := h₂.channel (by omega)
    exact ⟨n₂.trans n₁, p₂.trans p₁, s₂.trans s₁⟩

/-- `radioGeneration++`, then, after steps that hand `n` keys to `setKey`, the settings
applied: one more key, and the generation caught up. -/
theorem Keyed.bump_applyChannelSettings {a b : NodeDB} {n : Nat}
    (h : Keyed { a with radioGeneration := a.radioGeneration + 1 } b n) :
    Keyed a (NodeDB.applyChannelSettings P b) (n + 1) := by
  obtain ⟨cs, e, k⟩ := h.calls
  refine ⟨⟨cs ++ [.setKey (applyChannelSettings P b).activePSKSize
      (liveKey (applyChannelSettings P b)), .initRegion],
    by rw [applyChannelSettings_calls, e, List.append_assoc],
    by simp [k, Call.isSetKey]⟩, ?_, fun h => absurd h (Nat.succ_ne_zero n)⟩
  have h₁ : (1 : UInt32).toNat = 1 := rfl
  rw [(applyChannelSettings_frame P b).2.2, h.generation]
  simp only [UInt32.toNat, UInt32.add_def, BitVec.toNat_add] at h₁ ⊢
  omega

theorem Keyed.resetRadioConfigUnflagged (db : NodeDB) :
    Keyed db (NodeDB.resetRadioConfigUnflagged P db) 1 := by
  unfold NodeDB.resetRadioConfigUnflagged
  dsimp only
  apply Keyed.bump_applyChannelSettings
  split <;> exact Keyed.of_eq rfl rfl ⟨rfl, rfl, rfl⟩

theorem Keyed.installDefaultDeviceState {fuel : Nat} {db db' : NodeDB}
    (hI : NodeDB.installDefaultDeviceState P hw fuel db = .ok db') : Keyed db db' 1 := by
  rw [installDefaultDeviceState_record] at hI
  cases hI
  rw [clearDeviceState_eq]
  refine ⟨⟨[.setKey 16 defaultpsk, .initRegion, .generatePacketId], rfl, rfl⟩, ?_,
    fun h => absurd h one_ne_zero⟩
  simp only [UInt32.toNat, UInt32.add_def, BitVec.toNat_add]
  rfl

theorem Keyed.resetRadioConfig {fuel : Nat} {db db' : NodeDB} {b : Bool}
    (hr : NodeDB.resetRadioConfig P hw fuel db = .ok (db', b)) :
    ∃ n, 1 ≤ n ∧ n ≤ 2 ∧ Keyed db db' n := by
  rcases resetRadioConfig_ok P hw hr with ⟨-, -, rfl⟩ | ⟨-, -, dbI, hI, rfl⟩
  · exact ⟨1, le_rfl, by omega, Keyed.resetRadioConfigUnflagged db⟩
  · exact ⟨2, by omega, le_rfl, Keyed.bump_applyChannelSettings (Keyed.installDefaultDeviceState hI)⟩

theorem Keyed.loadFromDisk {fuel : Nat} {codec : Codec Blob} {fs : FileSystem Blob}
    {db db' : NodeDB} (hl : NodeDB.loadFromDisk P hw fuel codec fs db = .ok db') :
    Keyed db db' 0 ∨ Keyed db db' 1 := by
  unfold NodeDB.loadFromDisk at hl
  split at hl
  · cases hl; exact .inl (Keyed.of_eq rfl rfl ⟨rfl, rfl, rfl⟩)
  · split at hl
    · exact .inr ((Keyed.installDefaultDeviceState hl).of_frame rfl rfl ⟨rfl, rfl, rfl⟩)
    · split at hl
      · exact .inr ((Keyed.installDefaultDeviceState hl).of_frame rfl rfl ⟨rfl, rfl, rfl⟩)
      · cases hl; exact .inl (Keyed.of_eq rfl rfl ⟨rfl, rfl, rfl⟩)

theorem Keyed.pickNewNodeNum {fuel : Nat} {db db' : NodeDB}
    (hp : NodeDB.pickNewNodeNum P hw fuel db = .ok db') : Keyed db db' 0 := by
  rw [pickNewNodeNum_eq, except_map_eq_ok] at hp
  obtain ⟨r, -, rfl⟩ := hp
  exact Keyed.of_eq rfl rfl ⟨rfl, rfl, rfl⟩

theorem Keyed.initFromLoaded {fuel : Nat} {db db' : NodeDB}
    (hi : NodeDB.initFromLoaded P hw fuel db = .ok db') : ∃ n, 1 ≤ n ∧ n ≤ 2 ∧ Keyed db db' n := by
  obtain ⟨db₁, db₂, b, h₁, h₂, h₃⟩ := initFromLoaded_ok P hw hi
  obtain ⟨i, -, e⟩ := insertOwner_ok P h₂
  obtain ⟨n, hn₁, hn₂, h⟩ := Keyed.resetRadioConfig h₃
  have hF : Keyed db (setBuildFields P db) 0 := Keyed.of_eq rfl rfl ⟨rfl, rfl, rfl⟩
  have hO : Keyed db₁ db₂ 0 := by rw [e]; exact Keyed.of_eq rfl rfl ⟨rfl, rfl, rfl⟩
  have hS : Keyed db₂ (NodeDB.setBuildStrings P db₂) 0 := by
    rw [setBuildStrings_eq]; exact Keyed.of_eq rfl rfl ⟨rfl, rfl, rfl⟩
  exact ⟨_, by omega, by omega, (((hF.trans (Keyed.pickNewNodeNum h₁)).trans hO).trans hS).trans h⟩

theorem Keyed.init {fuel : Nat} {codec : Codec Blob} {fs : FileSystem Blob} {db db' : NodeDB}
    (hi : NodeDB.init P hw fuel codec fs db = .ok db') : ∃ n, 2 ≤ n ∧ n ≤ 4 ∧ Keyed db db' n := by
  obtain ⟨dbI, dbL, hI, hL, hF⟩ := init_ok P hw hi
  obtain ⟨n, hn₁, hn₂, h⟩ := Keyed.initFromLoaded hF
  rcases Keyed.loadFromDisk hL with hl | hl
  · exact ⟨_, by omega, by omega, ((Keyed.installDefaultDeviceState hI).trans hl).trans h⟩
  · exact ⟨_, by omega, by omega, ((Keyed.installDefaultDeviceState hI).trans hl).trans h⟩

/-- Each entry point hands at most four keys to `setKey`, with as many new generations; one
that hands over none keeps the stored radio settings, unless it is `loadFromDisk`. -/
theorem FirmwareStep.keyed {db db' : NodeDB} (h : FirmwareStep P hw Blob db db') :
    ∃ n, n ≤ 4 ∧ Keyed db db' n ∧
      (n = 0 → db'.devicestate.radio = db.devicestate.radio ∨
        ∃ (fuel : Nat) (codec : Codec Blob) (fs : FileSystem Blob),
          NodeDB.loadFromDisk P hw fuel codec fs db = .ok db') := by
  cases h with
  | init hi =>
    obtain ⟨n, h2, hn, h⟩ := Keyed.init hi
    exact ⟨n, hn, h, fun h0 => absurd h0 (by omega)⟩
  | resetRadioConfig hr =>
    obtain ⟨n, h1, hn, h⟩ := Keyed.resetRadioConfig hr
    exact ⟨n, by omega, h, fun h0 => absurd h0 (by omega)⟩
  | installDefaultDeviceState hI =>
    exact ⟨1, by omega, Keyed.installDefaultDeviceState hI, fun h0 => absurd h0 one_ne_zero⟩
  | loadFromDisk hl =>
    rcases Keyed.loadFromDisk hl with h | h <;>
      exact ⟨_, by omega, h, fun _ => .inr ⟨_, _, _, hl⟩⟩
  | @saveToDisk codec io fs =>
    refine ⟨0, Nat.zero_le _, ?_⟩
    rcases saveToDisk_cases codec io fs db with e | ⟨e, -⟩ <;> rw [e] <;>
      exact ⟨Keyed.of_eq rfl rfl ⟨rfl, rfl, rfl⟩, fun _ => .inl rfl⟩
  | pickNewNodeNum hp =>
    rw [pickNewNodeNum_eq, except_map_eq_ok] at hp
    obtain ⟨r, -, rfl⟩ := hp
    exact ⟨0, Nat.zero_le _, Keyed.of_eq rfl rfl ⟨rfl, rfl, rfl⟩, fun _ => .inl rfl⟩
  | getOrCreateNode _ =>
    exact ⟨0, Nat.zero_le _, Keyed.of_eq rfl rfl ⟨rfl, rfl, rfl⟩, fun _ => .inl rfl⟩
  | update hu =>
    obtain ⟨g, cs, e, -, hcs⟩ := Update.run_eq hu
    rw [e]
    exact ⟨0, Nat.zero_le _, Keyed.quiet rfl hcs rfl ⟨rfl, rfl, rfl⟩, fun _ => .inl rfl⟩
  | readNextInfo =>
    refine ⟨0, Nat.zero_le _, ?_⟩
    simp only [NodeDB.readNextInfo]
    split <;> exact ⟨Keyed.of_eq rfl rfl ⟨rfl, rfl, rfl⟩, fun _ => .inl rfl⟩
  | recordCriticalError =>
    exact ⟨0, Nat.zero_le _, Keyed.of_eq rfl rfl ⟨rfl, rfl, rfl⟩, fun _ => .inl rfl⟩

/-- The generation counts the keys: along any run of the entry points of `NodeDB.cpp` from
power-on, `radioGeneration` is the number of calls of `crypto->setKey` made so far, modulo
`2^32`. -/
theorem radioGeneration_counts_setKey {db : NodeDB}
    (hrun : Relation.ReflTransGen (FirmwareStep P hw Blob) {} db) :
    db.radioGeneration = UInt32.ofNat (db.calls.countP Call.isSetKey) := by
  have key : db.radioGeneration.toNat = db.calls.countP Call.isSetKey % 2 ^ 32 := by
    induction hrun with
    | refl => rfl
    | tail _ step ih =>
      obtain ⟨n, -, h, -⟩ := step.keyed
      obtain ⟨cs, e, k⟩ := h.calls
      rw [h.generation, ih, e, List.countP_append, k]
      omega
  exact UInt32.toNat.inj (key.trans (uint32_toNat_ofNat _).symm)

theorem radioGeneration_counts_setKey_reset :
    (resetRadioConfigUnflagged Platform.demo {}).radioGeneration =
      UInt32.ofNat ((resetRadioConfigUnflagged Platform.demo {}).calls.countP Call.isSetKey) :=
  @radioGeneration_counts_setKey Platform.demo Hardware.demo Unit _
    (.single (.resetRadioConfig (@resetRadioConfig_unflagged Platform.demo Hardware.demo 0 {} rfl)))

end NodeDB
end MeshNodeDB
