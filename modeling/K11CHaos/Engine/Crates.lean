import K11CHaos.Engine.Io
import K11CHaos.Lib.Json

/-!
# Stored records and the crates that read them

The records that the engine keeps as JSON, with the text that `serde_json` writes for the ones it
writes itself, and `Crates`, what the model takes from third-party crates: the readers of the records,
the two decoders and the encoder of backup payloads, the FAT reader and the URL parser. A reader is an
arbitrary function; of it is only known that it gives back what the engine has written, and of a
decoder that it inverts the encoder. `Crates.reference` is an instance, so nothing impossible is
asked.
-/

namespace K11CHaos.Engine

/-- `components::Asset`. -/
structure Asset where
  url : String
  sha256 : String
  bytes : Nat

/-- `components::Boot`. -/
structure Boot where
  revision : String
  haos : List String
  asset : Asset

/-- `components::Seed`. -/
structure Seed where
  haos : String
  kernel : String
  officialRawSha256 : String
  appVersion : String
  imageDigest : String
  imageId : String
  catalogCommit : String
  configSha256 : String
  state : Json
  stateSha256 : String
  containerd : String
  locallyVerified : Bool
  dataSha256 : String
  dataBytes : Nat
  supervisor : String
  docker : String
  ubootSha256 : String

/-- `components::Catalog`. -/
structure Catalog where
  schema : Nat
  board : String
  arch : String
  boot : Boot
  seeds : List Seed

/-- `components::Selection`. -/
structure Selection where
  schema : Nat
  image : String
  seed : Seed
  boot : Boot

/-- `reqwest::Url`, the parts that are looked at. -/
structure Url where
  scheme : String
  host : Option String
  path : String
  username : String
  password : Option String
  port : Option Nat
  query : Option String
  fragment : Option String

/-- `archive::Meta`. -/
structure Meta where
  format : Nat
  kind : String
  identity : Identity
  ranges : List Range
  primary : Bytes
  tail : Bytes
  os : String
  created : String
  readCapabilityHex : String
  usbRereadVerified : Bool
deriving DecidableEq

/-- `workflow::Part`. -/
structure Part where
  file : String
  lba : UInt32
  sectors : UInt32
  bytes : Nat
  sha256 : String
deriving DecidableEq

/-- The manifest of a boot backup, field by field as `snapshot` reads it. -/
structure Manifest where
  format : Option Nat
  complete : Bool
  kind : Option String
  usbRereadVerified : Bool
  readCapabilityHex : String
  identity : Except String Identity
  files : Except String (List Part)

/-- `factory::Entry`. -/
structure Entry where
  name : String
  offset : Nat
  bytes : Nat
  sparse : Bool
deriving DecidableEq

/-- `factory::Partition`. -/
structure Partition where
  name : String
  lba : UInt32
  sectors : Option UInt32
deriving DecidableEq

/-- `factory::Image`. -/
structure Image where
  sha256 : String
  path : String
  bytes : Nat
  format : String
  os : String
  entries : List Entry
  partitions : List Partition
deriving DecidableEq

/-- `flash::Plan`. -/
structure Plan where
  format : Nat
  operation : String
  source : String
  device : Device
  identity : Identity
  backup : String
  ranges : List Range
  targetBootSha256 : Option String
  attempt : Option Nat
deriving DecidableEq

/-- `factory::Plan`. -/
structure FactoryPlan where
  format : Nat
  operation : String
  source : String
  device : Device
  identity : Identity
  sourceReport : Json
  targetHeaders : String

/-- `Serialize` of `Identity`. -/
def Identity.json (i : Identity) : Json :=
  .obj [("sectors", .num i.sectors.toNat), ("storage", .str i.storage),
    ("chip_hex", .str i.chipHex), ("flash_id", .str i.flashId)]

/-- `Serialize` of `Device`. -/
def Device.json (d : Device) : Json :=
  .obj [("instance_id", .str d.instanceId), ("vid", .num d.vid), ("pid", .num d.pid),
    ("mode", .str d.mode), ("binding", .bool d.binding), ("location", .str d.location)]

/-- `Serialize` of `Range`. -/
def Range.json (r : Range) : Json :=
  .obj [("label", .str r.label), ("lba", .num r.lba.toNat), ("bytes", .num r.bytes),
    ("sha256", .str r.sha256)]

/-- `Serialize` of `Plan`; an absent attempt is skipped. -/
def Plan.json (p : Plan) : Json :=
  .obj ([("format", .num p.format), ("operation", .str p.operation), ("source", .str p.source),
    ("device", p.device.json), ("identity", p.identity.json), ("backup", .str p.backup),
    ("ranges", .arr (p.ranges.map Range.json)),
    ("target_boot_sha256", (p.targetBootSha256.map Json.str).getD .null)] ++
    (p.attempt.map fun n => ("attempt", Json.num n)).toList)

/-- `Serialize` of `factory::Plan`. -/
def FactoryPlan.json (p : FactoryPlan) : Json :=
  .obj [("format", .num p.format), ("operation", .str p.operation), ("source", .str p.source),
    ("device", p.device.json), ("identity", p.identity.json),
    ("source_report", p.sourceReport), ("target_headers", .str p.targetHeaders)]

/-- `Serialize` of `Part`. -/
def Part.json (p : Part) : Json :=
  .obj [("file", .str p.file), ("lba", .num p.lba.toNat), ("sectors", .num p.sectors.toNat),
    ("bytes", .num p.bytes), ("sha256", .str p.sha256)]

/-- The manifest that `workflow::backup` writes, with its keys in the order of a sorted map. -/
def manifestJson (identity : Identity) (device : Device) (caps : String) (files : List Part)
    (gpt : Json) : Json :=
  .obj [("complete", .bool true), ("device", device.json),
    ("files", .arr (files.map Part.json)), ("format", .num 2), ("gpt", gpt),
    ("identity", identity.json), ("kind", .str "k11c-boot-and-gpt"),
    ("read_capability_hex", .str caps), ("usb_reread_verified", .bool true),
    ("user_data_included", .bool false)]

/-- A byte array as serde writes it, number by number. -/
def byteArray (b : Bytes) : Json :=
  .arr (b.map fun x => .num x.toNat)

/-- `Serialize` of `Meta`. -/
def Meta.json (m : Meta) : Json :=
  .obj [("format", .num m.format), ("kind", .str m.kind), ("identity", m.identity.json),
    ("ranges", .arr (m.ranges.map Range.json)), ("primary", byteArray m.primary),
    ("tail", byteArray m.tail), ("os", .str m.os), ("created", .str m.created),
    ("read_capability_hex", .str m.readCapabilityHex),
    ("usb_reread_verified", .bool m.usbRereadVerified)]

/-- The payload formats of an archive: `K11CBK03` and `K11CBK04`. -/
inductive Format where
  | xz
  | zstd
deriving DecidableEq, Repr

/-- A decoder at the end of its input: the bytes it delivers, whether its stream ends there without
    an error, and how much of the input it has taken. -/
structure Decoded where
  out : Bytes
  ended : Bool
  consumed : Nat
deriving DecidableEq

/-- What the engine takes from third-party crates. -/
structure Crates where
  parsePlan : Bytes → Except String Plan
  parseFactoryPlan : Bytes → Except String FactoryPlan
  parseMeta : Bytes → Except String Meta
  parseManifest : Bytes → Except String Manifest
  parseImage : Bytes → Except String Image
  parseReceipt : Bytes → Except String (Option String)
  parseBoot : Bytes → Except String Boot
  parseSelection : Bytes → Except String Selection
  /-- `serde_json::to_vec_pretty`. -/
  pretty : Json → Bytes
  encode : Bytes → Bytes
  decode : Format → Bytes → Decoded
  parseUrl : String → Except String Url
  /-- A file of the FAT volume in a window of an image. -/
  fatFile : Bytes → Nat → Nat → String → Except String Bytes
  canonicalize : String → Except String String
  /-- System, entries and partitions of an RKFW image, from the vendor tool. -/
  rkfw : Bytes → Result (String × List Entry × List Partition)
  parsePlan_bytes : ∀ p : Plan, parsePlan p.json.bytes = .ok p
  parseFactoryPlan_bytes : ∀ p : FactoryPlan, parseFactoryPlan p.json.bytes = .ok p
  parseMeta_bytes : ∀ m : Meta, parseMeta m.json.bytes = .ok m
  parseManifest_pretty : ∀ identity device caps files gpt,
    parseManifest (pretty (manifestJson identity device caps files gpt)) =
      .ok ⟨some 2, true, some "k11c-boot-and-gpt", true, caps, .ok identity, .ok files⟩
  decode_encode : ∀ b, decode .zstd (encode b) = ⟨b, true, (encode b).length⟩

end K11CHaos.Engine
