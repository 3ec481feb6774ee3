import K11CHaos.Engine.Crates
import K11CHaos.Lib.Zstd

/-!
# Reading records

Readers of the stored records, field by field as a deserializer goes through an object, each with the
lemma that it gives back what was written. With them and the stored Zstandard frames there is an instance
of everything that the model takes from third-party crates (`Crates.reference`): its JSON reader accepts
compact texts, its decoders know raw blocks, and it has no FAT volumes and no vendor tool.
-/

namespace K11CHaos

namespace Json

/-- A field of an object. -/
def field? (k : String) : Json → Option Json
  | obj fs => (fs.find? fun f => f.1 == k).map Prod.snd
  | _ => none

/-- A string value. -/
def str? : Json → Option String
  | str s => some s
  | _ => none

/-- A number. -/
def nat? : Json → Option Nat
  | num n => some n
  | _ => none

/-- A number of 32 bits. -/
def u32? : Json → Option UInt32
  | num n => if n < 2 ^ 32 then some (UInt32.ofNat n) else none
  | _ => none

/-- A number of 8 bits. -/
def u8? : Json → Option UInt8
  | num n => if n < 2 ^ 8 then some (UInt8.ofNat n) else none
  | _ => none

/-- A truth value. -/
def bool? : Json → Option Bool
  | bool b => some b
  | _ => none

/-- An array, item by item. -/
def items? {α : Type} (read : Json → Option α) : Json → Option (List α)
  | arr xs => xs.mapM read
  | _ => none

/-- A 32-bit number is read as itself. -/
@[simp] lemma u32?_num {n : UInt32} : u32? (num n.toNat) = some n := by
  rw [u32?, if_pos n.toNat_lt, UInt32.ofNat_toNat]

/-- A byte is read as itself. -/
@[simp] lemma u8?_num {n : UInt8} : u8? (num n.toNat) = some n := by
  rw [u8?, if_pos n.toNat_lt, UInt8.ofNat_toNat]

/-- An array of written items. -/
lemma items?_map {α : Type} {read : Json → Option α} {write : α → Json}
    (h : ∀ a, read (write a) = some a) (l : List α) :
    items? read (arr (l.map write)) = some l := by
  induction l with
  | nil => rfl
  | cons a l ih =>
    have rest : (l.map write).mapM read = some l := ih
    simp only [items?, List.map_cons, List.mapM_cons, h, rest]
    rfl

open Classical in
/-- Read a compact text. -/
noncomputable def read (b : Bytes) : Option Json :=
  if h : ∃ v, bytes v = b then some h.choose else none

/-- Every compact text is read as the value it was made from. -/
lemma read_bytes (v : Json) : read (bytes v) = some v := by
  have h : ∃ w, bytes w = bytes v := ⟨v, rfl⟩
  rw [read, dif_pos h, bytes_inj h.choose_spec]

end Json

namespace Engine

open Json

/-- `Deserialize` of `Identity`. -/
def Identity.ofJson (j : Json) : Option Identity := do
  let sectors ← (← j.field? "sectors").u32?
  let storage ← (← j.field? "storage").str?
  let chipHex ← (← j.field? "chip_hex").str?
  let flashId ← (← j.field? "flash_id").str?
  return ⟨sectors, storage, chipHex, flashId⟩

/-- `Deserialize` of `Device`. -/
def Device.ofJson (j : Json) : Option Device := do
  let instanceId ← (← j.field? "instance_id").str?
  let vid ← (← j.field? "vid").nat?
  let pid ← (← j.field? "pid").nat?
  let mode ← (← j.field? "mode").str?
  let binding ← (← j.field? "binding").bool?
  let location ← (← j.field? "location").str?
  return ⟨instanceId, vid, pid, mode, binding, location⟩

/-- `Deserialize` of `Range`. -/
def Range.ofJson (j : Json) : Option Range := do
  let label ← (← j.field? "label").str?
  let lba ← (← j.field? "lba").u32?
  let bytes ← (← j.field? "bytes").nat?
  let sha256 ← (← j.field? "sha256").str?
  return ⟨label, lba, bytes, sha256⟩

/-- A string or `null`. -/
def optionString : Json → Option (Option String)
  | .null => some none
  | .str s => some (some s)
  | _ => none

/-- `Deserialize` of `Plan`; an attempt may be absent. -/
def Plan.ofJson (j : Json) : Option Plan := do
  let format ← (← j.field? "format").nat?
  let operation ← (← j.field? "operation").str?
  let source ← (← j.field? "source").str?
  let device ← Device.ofJson (← j.field? "device")
  let identity ← Identity.ofJson (← j.field? "identity")
  let backup ← (← j.field? "backup").str?
  let ranges ← items? Range.ofJson (← j.field? "ranges")
  let target ← optionString (← j.field? "target_boot_sha256")
  return ⟨format, operation, source, device, identity, backup, ranges, target,
    (j.field? "attempt").bind nat?⟩

/-- `Deserialize` of `factory::Plan`. -/
def FactoryPlan.ofJson (j : Json) : Option FactoryPlan := do
  let format ← (← j.field? "format").nat?
  let operation ← (← j.field? "operation").str?
  let source ← (← j.field? "source").str?
  let device ← Device.ofJson (← j.field? "device")
  let identity ← Identity.ofJson (← j.field? "identity")
  let sourceReport ← j.field? "source_report"
  let targetHeaders ← (← j.field? "target_headers").str?
  return ⟨format, operation, source, device, identity, sourceReport, targetHeaders⟩

/-- `Deserialize` of `Meta`. -/
def Meta.ofJson (j : Json) : Option Meta := do
  let format ← (← j.field? "format").nat?
  let kind ← (← j.field? "kind").str?
  let identity ← Identity.ofJson (← j.field? "identity")
  let ranges ← items? Range.ofJson (← j.field? "ranges")
  let primary ← items? u8? (← j.field? "primary")
  let tail ← items? u8? (← j.field? "tail")
  let os ← (← j.field? "os").str?
  let created ← (← j.field? "created").str?
  let caps ← (← j.field? "read_capability_hex").str?
  let usb ← (← j.field? "usb_reread_verified").bool?
  return ⟨format, kind, identity, ranges, primary, tail, os, created, caps, usb⟩

/-- `Deserialize` of `Part`. -/
def Part.ofJson (j : Json) : Option Part := do
  let file ← (← j.field? "file").str?
  let lba ← (← j.field? "lba").u32?
  let sectors ← (← j.field? "sectors").u32?
  let bytes ← (← j.field? "bytes").nat?
  let sha256 ← (← j.field? "sha256").str?
  return ⟨file, lba, sectors, bytes, sha256⟩

/-- A record that a reader has not found. -/
def orMissing {α : Type} (what : String) : Option α → Except String α
  | some a => .ok a
  | none => .error s!"invalid {what}"

/-- The manifest of a boot backup, as `snapshot` looks at its fields. -/
def Manifest.ofJson (j : Json) : Manifest where
  format := (j.field? "format").bind nat?
  complete := (j.field? "complete").bind bool? == some true
  kind := (j.field? "kind").bind str?
  usbRereadVerified := (j.field? "usb_reread_verified").bind bool? == some true
  readCapabilityHex := ((j.field? "read_capability_hex").bind str?).getD ""
  identity := orMissing "identity" ((j.field? "identity").bind Identity.ofJson)
  files := orMissing "files" ((j.field? "files").bind (items? Part.ofJson))

/-- `Serialize` of `Entry`. -/
def Entry.json (e : Entry) : Json :=
  .obj [("name", .str e.name), ("offset", .num e.offset), ("bytes", .num e.bytes),
    ("sparse", .bool e.sparse)]

/-- `Serialize` of `Partition`. -/
def Partition.json (p : Partition) : Json :=
  .obj [("name", .str p.name), ("lba", .num p.lba.toNat),
    ("sectors", (p.sectors.map fun n => Json.num n.toNat).getD .null)]

/-- `Serialize` of `Image`. -/
def Image.json (i : Image) : Json :=
  .obj [("sha256", .str i.sha256), ("path", .str i.path), ("bytes", .num i.bytes),
    ("format", .str i.format), ("os", .str i.os), ("entries", .arr (i.entries.map Entry.json)),
    ("partitions", .arr (i.partitions.map Partition.json))]

/-- `Deserialize` of `Entry`. -/
def Entry.ofJson (j : Json) : Option Entry := do
  let name ← (← j.field? "name").str?
  let offset ← (← j.field? "offset").nat?
  let bytes ← (← j.field? "bytes").nat?
  let sparse ← (← j.field? "sparse").bool?
  return ⟨name, offset, bytes, sparse⟩

/-- A number of 32 bits or `null`. -/
def optionU32 : Json → Option (Option UInt32)
  | .null => some none
  | j => (u32? j).map some

/-- `Deserialize` of `Partition`. -/
def Partition.ofJson (j : Json) : Option Partition := do
  let name ← (← j.field? "name").str?
  let lba ← (← j.field? "lba").u32?
  let sectors ← optionU32 (← j.field? "sectors")
  return ⟨name, lba, sectors⟩

/-- `Deserialize` of `Image`. -/
def Image.ofJson (j : Json) : Option Image := do
  let sha256 ← (← j.field? "sha256").str?
  let path ← (← j.field? "path").str?
  let bytes ← (← j.field? "bytes").nat?
  let format ← (← j.field? "format").str?
  let os ← (← j.field? "os").str?
  let entries ← items? Entry.ofJson (← j.field? "entries")
  let partitions ← items? Partition.ofJson (← j.field? "partitions")
  return ⟨sha256, path, bytes, format, os, entries, partitions⟩

/-- `Deserialize` of `Asset`. -/
def Asset.ofJson (j : Json) : Option Asset := do
  let url ← (← j.field? "url").str?
  let sha256 ← (← j.field? "sha256").str?
  let bytes ← (← j.field? "bytes").nat?
  return ⟨url, sha256, bytes⟩

/-- `Deserialize` of `Boot`. -/
def Boot.ofJson (j : Json) : Option Boot := do
  let revision ← (← j.field? "revision").str?
  let haos ← items? str? (← j.field? "haos")
  let asset ← Asset.ofJson (← j.field? "asset")
  return ⟨revision, haos, asset⟩

/-- `Deserialize` of `Seed`. -/
def Seed.ofJson (j : Json) : Option Seed := do
  let haos ← (← j.field? "haos").str?
  let kernel ← (← j.field? "kernel").str?
  let officialRawSha256 ← (← j.field? "official_raw_sha256").str?
  let appVersion ← (← j.field? "app_version").str?
  let imageDigest ← (← j.field? "image_digest").str?
  let imageId ← (← j.field? "image_id").str?
  let catalogCommit ← (← j.field? "catalog_commit").str?
  let configSha256 ← (← j.field? "config_sha256").str?
  let state ← j.field? "state"
  let stateSha256 ← (← j.field? "state_sha256").str?
  let containerd ← (← j.field? "containerd").str?
  let locallyVerified ← (← j.field? "locally_verified").bool?
  let supervisor ← (← j.field? "supervisor").str?
  let docker ← (← j.field? "docker").str?
  let ubootSha256 ← (← j.field? "uboot_sha256").str?
  -- the two fields of the composed data partition have defaults
  return ⟨haos, kernel, officialRawSha256, appVersion, imageDigest, imageId, catalogCommit,
    configSha256, state, stateSha256, containerd, locallyVerified,
    ((j.field? "data_sha256").bind str?).getD "", ((j.field? "data_bytes").bind nat?).getD 0,
    supervisor, docker, ubootSha256⟩

/-- `Deserialize` of `Selection`. -/
def Selection.ofJson (j : Json) : Option Selection := do
  let schema ← (← j.field? "schema").nat?
  let image ← (← j.field? "image").str?
  let seed ← Seed.ofJson (← j.field? "seed")
  let boot ← Boot.ofJson (← j.field? "boot")
  return ⟨schema, image, seed, boot⟩

/-- An eMMC identity. -/
lemma Identity.ofJson_json (i : Identity) : Identity.ofJson i.json = some i := by
  simp [Identity.ofJson, Identity.json, field?, str?]

/-- A selected device. -/
lemma Device.ofJson_json (d : Device) : Device.ofJson d.json = some d := by
  simp [Device.ofJson, Device.json, field?, str?, nat?, bool?]

/-- A range of a plan. -/
lemma Range.ofJson_json (r : Range) : Range.ofJson r.json = some r := by
  simp [Range.ofJson, Range.json, field?, str?, nat?]

/-- A field that may be absent: its text, or `null`. -/
lemma optionString_json (s : Option String) :
    optionString ((s.map Json.str).getD .null) = some s := by
  cases s <;> rfl

/-- A plan of `flash`. -/
lemma Plan.ofJson_json (p : Plan) : Plan.ofJson p.json = some p := by
  cases h : p.attempt <;>
  simp [Plan.ofJson, Plan.json, field?, str?, nat?, h, Device.ofJson_json, Identity.ofJson_json,
    items?_map Range.ofJson_json, optionString_json]
  · rw [← h]
  · rw [← h]

/-- A plan of `factory`. -/
lemma FactoryPlan.ofJson_json (p : FactoryPlan) : FactoryPlan.ofJson p.json = some p := by
  simp [FactoryPlan.ofJson, FactoryPlan.json, field?, str?, nat?, Device.ofJson_json,
    Identity.ofJson_json]

/-- The metadata of an archive. -/
lemma Meta.ofJson_json (m : Meta) : Meta.ofJson m.json = some m := by
  simp [Meta.ofJson, Meta.json, byteArray, field?, str?, nat?, bool?, Identity.ofJson_json,
    items?_map Range.ofJson_json, items?_map (fun n : UInt8 => u8?_num (n := n))]

/-- A part of a backup directory. -/
lemma Part.ofJson_json (p : Part) : Part.ofJson p.json = some p := by
  simp [Part.ofJson, Part.json, field?, str?, nat?]

/-- A manifest gives back what `backup` put into it. -/
lemma Manifest.ofJson_json {identity device caps files gpt} :
    Manifest.ofJson (manifestJson identity device caps files gpt) =
      ⟨some 2, true, some "k11c-boot-and-gpt", true, caps, .ok identity, .ok files⟩ := by
  simp [Manifest.ofJson, manifestJson, field?, str?, nat?, bool?, orMissing, Identity.ofJson_json,
    items?_map Part.ofJson_json]

/-- An entry of a firmware package. -/
lemma Entry.ofJson_json (e : Entry) : Entry.ofJson e.json = some e := by
  simp [Entry.ofJson, Entry.json, field?, str?, nat?, bool?]

/-- A partition of a firmware package. -/
lemma Partition.ofJson_json (p : Partition) : Partition.ofJson p.json = some p := by
  cases h : p.sectors <;>
  simp [Partition.ofJson, Partition.json, field?, str?, h, optionU32]
  · rw [← h]
  · rw [← h]

/-- The receipt of a manufacturer image. -/
lemma Image.ofJson_json (i : Image) : Image.ofJson i.json = some i := by
  simp [Image.ofJson, Image.json, field?, str?, nat?, items?_map Entry.ofJson_json,
    items?_map Partition.ofJson_json]

/-- A record reader over compact texts. -/
noncomputable def reader {α : Type} (what : String) (ofJson : Json → Option α) (b : Bytes) :
    Except String α :=
  orMissing what ((Json.read b).bind ofJson)

/-- The reference readers accept every text that the program writes. -/
lemma reader_bytes {α : Type} {what : String} {ofJson : Json → Option α} {a : α} {v : Json}
    (h : ofJson v = some a) : reader what ofJson v.bytes = .ok a := by
  rw [reader, Json.read_bytes, Option.bind_some, h, orMissing]

/-- Scheme, host and path of a plain URL. -/
def plainUrl (s : String) : Except String Url :=
  match s.splitOn "://" with
  | [scheme, rest] =>
    match rest.splitOn "/" with
    | host :: path =>
      .ok ⟨scheme, some host, "/" ++ "/".intercalate path, "", none, none, none, none⟩
    | [] => .error "empty host"
  | _ => .error "relative URL without a base"

/-- The stored frames of the reference decoder. -/
def decodeStored : Format → Bytes → Decoded
  | .xz, _ => ⟨[], false, 0⟩
  | .zstd, b =>
    match Zstd.decodeFrame b with
    | some (out, rest) => ⟨out, true, b.length - rest.length⟩
    | none => ⟨[], false, 0⟩

/-- An instance of the crates. -/
noncomputable def Crates.reference : Crates where
  parsePlan := reader "plan" Plan.ofJson
  parseFactoryPlan := reader "plan" FactoryPlan.ofJson
  parseMeta := reader "metadata" Meta.ofJson
  parseManifest := reader "manifest" (some ∘ Manifest.ofJson)
  parseImage := reader "image" Image.ofJson
  parseReceipt := reader "receipt" (fun j => some ((j.field? "path").bind str?))
  parseBoot := reader "boot" Boot.ofJson
  parseSelection := reader "selection" Selection.ofJson
  pretty := Json.bytes
  encode := Zstd.encode
  decode := decodeStored
  parseUrl := plainUrl
  fatFile := fun _ _ _ _ => .error "no FAT volume"
  canonicalize := .ok
  rkfw := fun _ => .error ⟨"FACTORY_IMAGE", "no vendor tool"⟩
  parsePlan_bytes p := reader_bytes p.ofJson_json
  parseFactoryPlan_bytes p := reader_bytes p.ofJson_json
  parseMeta_bytes m := reader_bytes m.ofJson_json
  parseManifest_pretty _ _ _ _ _ := reader_bytes (congrArg some Manifest.ofJson_json)
  decode_encode b := by
    have h := Zstd.decodeFrame_encode b []
    rw [List.append_nil] at h
    simp [decodeStored, h]

end Engine

end K11CHaos
