import MeshNodeDB.Firmware

/-! # What the flash can hold

`saveToDisk` writes `/db.proto.tmp` and moves it over `/db.proto` only once `pb_encode`
has succeeded; a failed write stays in the temporary file. A power loss inside
`saveToDisk` leaves the flash as one of the outcomes of its file-system calls does (after
the open, after the write, between `FS.remove` and `FS.rename`). So along any run of the
device, whatever those calls return and wherever the power goes off, `/db.proto` is the
file the device started with, no file (the "brief window of risk" between a successful
remove and a failed rename), or the whole encoding of a record of the current version. On
a device that started without the file, no boot meets a file it cannot decode or must
discard as outdated. -/

namespace MeshNodeDB
namespace NodeDB

variable {P : Platform} {hw : Hardware} {Blob : Type}

/-- A step of the device with its flash: a call of an entry point on the RAM, a power loss,
or a `saveToDisk` of the RAM with any outcomes of the file-system calls. -/
inductive FlashStep (P : Platform) (hw : Hardware) (codec : Codec Blob) :
    NodeDB × FileSystem Blob → NodeDB × FileSystem Blob → Prop
  | ram {db db' : NodeDB} {fs : FileSystem Blob} :
      FirmwareStep P hw Blob db db' → FlashStep P hw codec (db, fs) (db', fs)
  | powerLoss {db : NodeDB} {fs : FileSystem Blob} : FlashStep P hw codec (db, fs) ({}, fs)
  | save {db : NodeDB} {fs : FileSystem Blob} (io : SaveIO Blob) :
      FlashStep P hw codec (db, fs) (saveToDisk codec io fs db)

/-- `/db.proto` is the file `first` the device started with, no file, or the whole encoding
of a record of the current version. -/
def PrefFileOk (codec : Codec Blob) (first : Option Blob) (fs : FileSystem Blob) : Prop :=
  fs.preffile = first ∨ fs.preffile = none ∨
    ∃ s : DeviceState, s.version = devicestateCurVer ∧ fs.preffile = some (codec.encode s)

theorem PrefFileOk.save {codec : Codec Blob} {first : Option Blob} {fs : FileSystem Blob}
    (h : PrefFileOk codec first fs) (io : SaveIO Blob) (db : NodeDB) :
    PrefFileOk codec first (saveToDisk codec io fs db).2 := by
  rcases saveToDisk_cases codec io fs db with e | ⟨-, e | e | e⟩ <;> unfold PrefFileOk <;> rw [e]
  · exact h
  · exact h
  · exact .inr (.inl rfl)
  · exact .inr (.inr ⟨_, rfl, rfl⟩)

theorem FlashStep.run_prefFileOk {codec : Codec Blob} {first : Option Blob}
    {a b : NodeDB × FileSystem Blob} (hrun : Relation.ReflTransGen (FlashStep P hw codec) a b)
    (ha : PrefFileOk codec first a.2) : PrefFileOk codec first b.2 := by
  induction hrun with
  | refl => exact ha
  | tail _ step ih =>
    cases step with
    | ram => exact ih
    | powerLoss => exact ih
    | save io => exact ih.save io _

/-- No boot discards what was saved: on a device that started without `/db.proto`, when
`pb_decode` inverts `pb_encode`, after any run of the device (calls, power losses, saves with
any outcomes of `FS.open`, `pb_encode`, `FS.remove` and `FS.rename`) the flash holds no
`/db.proto`, or one that `loadFromDisk` takes as decoded, a record of the current version:
never a fragment of a failed write. -/
theorem boot_never_discards_saved_file {codec : Codec Blob}
    (hcodec : ∀ d, codec.decode (codec.encode d) = .ok d) {a b : NodeDB × FileSystem Blob}
    (h₀ : a.2.preffile = none) (hrun : Relation.ReflTransGen (FlashStep P hw codec) a b) :
    b.2.preffile = none ∨ ∃ s : DeviceState, s.version = devicestateCurVer ∧
      ∀ fuel d, loadFromDisk P hw fuel codec b.2 d = .ok { d with devicestate := s } := by
  rcases FlashStep.run_prefFileOk hrun (.inl h₀) with e | e | ⟨s, hv, e⟩
  · exact .inl e
  · exact .inl e
  · refine .inr ⟨s, hv, fun fuel d => loadFromDisk_decoded P hw e (hcodec s) ?_ d⟩
    rw [hv]
    decide

/-- A successful save on a fresh flash, on the demo build: the next boot loads it. -/
theorem boot_never_discards_saved_file_after_save :
    (saveToDisk (⟨id, .ok⟩ : Codec DeviceState) ⟨true, true, {}, true, true⟩ ⟨none, none⟩
        ({} : NodeDB)).2.preffile = none ∨
      ∃ s : DeviceState, s.version = devicestateCurVer ∧ ∀ fuel d,
        loadFromDisk Platform.demo Hardware.demo fuel ⟨id, .ok⟩
          (saveToDisk (⟨id, .ok⟩ : Codec DeviceState) ⟨true, true, {}, true, true⟩ ⟨none, none⟩
            ({} : NodeDB)).2 d = .ok { d with devicestate := s } :=
  @boot_never_discards_saved_file Platform.demo Hardware.demo DeviceState ⟨id, .ok⟩
    (fun _ => rfl) ({}, ⟨none, none⟩) _ rfl (.single (.save ⟨true, true, {}, true, true⟩))

end NodeDB
end MeshNodeDB
