import K11CHaos.Engine.Crates
import K11CHaos.Engine.Gpt

/-!
# Components and prepared images

The reading half of `components.rs` (the checks of a catalog, the recorded boot asset and the
selection of an installation), `flash::firmware`, and `images::inspect`, the structure check of a HAOS
image. All are functions of the files they open.
-/

namespace K11CHaos.Engine

/-- Open and read a file; the error of opening gets the code of the caller. -/
def Store.file (st : Store) (code : String) (p : Path) : Result Bytes :=
  (st p).mapError fun e => fail code e

/-- `flash::read_bounded`. -/
def Store.bounded (st : Store) (p : Path) (max : Nat) : Result Bytes := do
  let b ← st.file "TRANSACTION_IO" p
  deny (b.length > max) "SOURCE_FILE" "File exceeds expected size"
  return b

/-- Parse a record; the error of the reader gets the code of the caller. -/
def parsed {α : Type} (code : String) (r : Except String α) : Result α :=
  r.mapError fun e => fail code e

/-- `hash_id`, `flash::valid_id` and `factory::valid_id`: 64 lower-case hexadecimal digits. -/
def hashId (s : String) : Bool :=
  decide (IsHex64 s)

namespace Components

/-- The key of the app in the state of a profile. -/
def slug : String := "157e89e9_k11c_connectivity"

/-- `LIMIT`. -/
def limit : Nat := 16 * 1024 * 1024 * 1024

/-- `asset`. -/
def asset (X : Crates) (a : Asset) : Result Unit := do
  let url ← parsed "COMPONENT_IO" (X.parseUrl a.url)
  let allowed :=
    (url.host == some "github.com" &&
      url.path.startsWith "/David2766/K11C-HAOS/releases/download/") ||
    (url.host == some "raw.githubusercontent.com" &&
      url.path.startsWith "/David2766/K11C-HAOS/")
  deny (!hashId a.sha256 || a.bytes == 0 || a.bytes > limit || url.scheme != "https" ||
      !allowed || !url.username.isEmpty || url.password.isSome || url.port.isSome ||
      url.query.isSome || url.fragment.isSome || (url.path.splitOn "..").length > 1)
    "COMPONENT_CATALOG" "Invalid component asset"

/-- `validate_boot`. -/
def validateBoot (X : Crates) (b : Boot) : Result Unit := do
  asset X b.asset
  deny (b.revision.isEmpty || b.asset.bytes % 512 != 0 ||
      b.asset.bytes > (34816 - 64) * 512 || b.haos.isEmpty)
    "COMPONENT_CATALOG" "Invalid K11C firmware layout"

/-- `images::valid_version`. -/
def validVersion (v : String) : Bool :=
  let parts := v.splitOn "."
  decide (v.utf8ByteSize ≤ 32) && decide (2 ≤ parts.length ∧ parts.length ≤ 3) &&
    parts.all fun p => !p.isEmpty && p.toList.all Char.isDigit

/-- A field of an object, `null` where there is none. -/
def field (v : Json) (k : String) : Json :=
  match v with
  | .obj fs => ((fs.find? fun f => f.1 == k).map Prod.snd).getD .null
  | _ => .null

/-- The number of fields of an object. -/
def fieldCount (v : Json) : Option Nat :=
  match v with
  | .obj fs => some fs.length
  | _ => none

/-- The user options that a profile must carry, with its keys in the order of a sorted map. -/
def userOptions (version : String) : Json :=
  .obj [("boot", .str "auto"), ("image", .str "ghcr.io/david2766/k11c-haos-connectivity"),
    ("options", .obj [("enabled", .bool true)]), ("protected", .bool false),
    ("version", .str version)]

/-- Equality of values, by their texts. -/
def same (v w : Json) : Bool :=
  v.print == w.print

/-- Equal texts are those of equal values. -/
lemma same_iff {v w : Json} : same v w = true ↔ v = w := by
  refine ⟨fun h => ?_, ?_⟩
  · have e : v.print = w.print := beq_iff_eq.mp h
    exact Json.bytes_inj (congrArg Json.utf8 e)
  · rintro rfl
    exact beq_self_eq_true _

/-- `trim_start_matches("sha256:")`. -/
def trimDigest (s : String) : String :=
  let rec go (fuel : Nat) (cs : List Char) : List Char :=
    match fuel with
    | 0 => cs
    | fuel + 1 => if "sha256:".toList.isPrefixOf cs then go fuel (cs.drop 7) else cs
  String.ofList (go s.length s.toList)

/-- The checks of one seed in `Catalog::validate`. -/
def seedSound (boot : Boot) (s : Seed) : Bool :=
  let user := field (field s.state "user") slug
  let system := field (field s.state "system") slug
  s.locallyVerified && s.containerd == "2.3.4" && hashId s.configSha256 &&
    s.catalogCommit.utf8ByteSize == 40 && s.catalogCommit.toList.all (· ∈ hexDigits) &&
    s.imageId.startsWith "sha256:" && hashId (trimDigest s.imageId) &&
    hashBytes s.state.bytes == s.stateSha256 &&
    fieldCount (field s.state "system") == some 1 && fieldCount (field s.state "user") == some 1 &&
    same (field system "version") (.str s.appVersion) &&
    same (field system "slug") (.str "k11c_connectivity") &&
    same (field system "repository") (.str "157e89e9") &&
    same (field system "startup") (.str "system") &&
    same (field system "arch") (.arr [.str "aarch64"]) &&
    same (field system "image") (.str "ghcr.io/david2766/k11c-haos-connectivity") &&
    same user (userOptions s.appVersion) && validVersion s.haos && validVersion s.appVersion &&
    hashId s.officialRawSha256 && s.kernel.endsWith "-haos" && boot.haos.contains s.haos &&
    s.ubootSha256 == boot.asset.sha256 &&
    s.imageDigest.startsWith "ghcr.io/david2766/k11c-haos-connectivity@sha256:" &&
    hashId ((s.imageDigest.splitOn ":").getLastD "") && !s.supervisor.isEmpty && !s.docker.isEmpty

/-- The loop of `Catalog::validate`: every seed is sound and its HAOS version is new. -/
def seedsSound (boot : Boot) : List String → List Seed → Bool
  | _, [] => true
  | seen, s :: ss => seedSound boot s && !seen.contains s.haos && seedsSound boot (s.haos :: seen) ss

/-- `Catalog::validate`. -/
def validate (X : Crates) (c : Catalog) : Result Unit := do
  deny (c.schema ≠ 2 ∨ c.board ≠ "kickpi,k11c" ∨ c.arch ≠ "aarch64") "COMPONENT_CATALOG"
    "Wrong board, architecture or catalog schema"
  validateBoot X c.boot
  deny (!seedsSound c.boot [] c.seeds) "COMPONENT_CATALOG"
    "Incomplete or contradictory compatibility profile"

/-- `read_json`, up to the reader of the record. -/
def readJson (st : Store) (p : Path) : Result Bytes := do
  let b ← st.file "COMPONENT_IO" p
  deny (b.length > 1024 * 1024) "COMPONENT_CATALOG" "Metadata too large"
  return b

/-- `boot_bytes`. -/
def bootBytes (X : Crates) (st : Store) (id : String) : Result Bytes := do
  deny (!hashId id) "COMPONENT_SELECTION" "Select a verified U-Boot release"
  let text ← readJson st (.boot id)
  let b ← parsed "COMPONENT_IO" (X.parseBoot text)
  validateBoot X b
  deny (b.asset.sha256 ≠ id) "COMPONENT_HASH" "Boot selection changed"
  let file ← st.file "COMPONENT_IO" (.asset id)
  let data := file.take (b.asset.bytes + 1)
  deny (data.length ≠ b.asset.bytes ∨ hashBytes data ≠ id) "COMPONENT_HASH" "U-Boot changed"
  return data

/-- `selection`. -/
def selection (X : Crates) (st : Store) (id : String) : Result Selection := do
  deny (!hashId id) "COMPONENT_SELECTION" "Invalid installation image"
  let text ← readJson st (.installation id)
  let s ← (X.parseSelection text).mapError fun _ =>
    fail "COMPONENT_SELECTION" "Prepare HAOS with Connectivity before installation"
  validate X ⟨2, "kickpi,k11c", "aarch64", s.boot, [s.seed]⟩
  deny (s.schema ≠ 2 ∨ s.image ≠ id ∨ !hashId s.seed.dataSha256 ∨ s.seed.dataBytes < 2048 ∨
      s.seed.dataBytes % 512 ≠ 0 ∨ s.seed.dataBytes > limit)
    "COMPONENT_SELECTION" "Installation selection changed"
  return s

/-- What `boot_bytes` gives back is a whole number of sectors that fit the U-Boot area. -/
lemma bootBytes_fits {X st id b} (h : bootBytes X st id = .ok b) :
    b ≠ [] ∧ b.length % 512 = 0 ∧ b.length ≤ (34816 - 64) * 512 := by
  simp only [bootBytes, bind_ok, deny_ok] at h
  obtain ⟨_, _, _, _, r, _, _, hv, _, _, _, _, _, hd, h⟩ := h
  simp only [validateBoot, asset, bind_ok, deny_ok] at hv
  obtain ⟨_, ⟨_, _, ha⟩, hv⟩ := hv
  cases h
  simp only [Bool.or_eq_true, beq_iff_eq, bne_iff_ne, decide_eq_true_eq, not_or, not_not] at ha hv hd
  obtain ⟨len, _⟩ := hd
  refine ⟨?_, ?_, ?_⟩
  · intro e
    rw [e, List.length_nil] at len
    exact ha.1.1.1.1.1.1.1.1.1.2 len.symm
  · rw [len]
    exact hv.1.1.2
  · rw [len]
    exact Nat.le_of_not_lt hv.1.2

end Components

/-- `FIRMWARE_SHA256`. -/
def firmwareSha256 : String :=
  "8a98fbc73fa93eb106a1202cece0bcb3d05355c4f21cab5c151f5b3d900f6260"

/-- `RESERVE`. -/
def reserve : Nat := 34816 * 512

/-- `firmware`: the U-Boot that comes with the program. -/
def firmware (st : Store) : Result Bytes := do
  let b ← st.bounded .firmware (reserve - 64 * 512)
  deny (b = [] ∨ b.length % 512 ≠ 0 ∨ hashBytes b ≠ firmwareSha256) "FIRMWARE_HASH"
    "Bundled K11C r24 firmware is missing or changed"
  return b

/-- The bundled U-Boot is a whole number of sectors that fit the U-Boot area. -/
lemma firmware_fits {st b} (h : firmware st = .ok b) :
    b ≠ [] ∧ b.length % 512 = 0 ∧ b.length ≤ (34816 - 64) * 512 := by
  simp only [firmware, Store.bounded, bind_ok, deny_ok] at h
  obtain ⟨_, ⟨_, _, _, hm, e⟩, _, hd, h⟩ := h
  cases e
  cases h
  simp only [not_or, not_not] at hd
  exact ⟨hd.1, hd.2.1, by simp only [reserve] at hm; omega⟩

namespace Images

/-- `MAX_IMAGE`. -/
def maxImage : Nat := 32 * 1024 * 1024 * 1024

/-- The type GUID of an EFI system partition, as it stands on disk. -/
def efiSystem : Bytes :=
  [0x28, 0x73, 0x2a, 0xc1, 0x1f, 0xf8, 0xd2, 0x11, 0xba, 0x4b, 0, 0xa0, 0xc9, 0x3e, 0xc9, 0x3b]

/-- The loop of `inspect` over the eight partitions. -/
def inspectEntries : List (String × Bytes) → Result Unit
  | [] => .ok ()
  | (label, e) :: es => do
    deny (Gpt.fromUtf16 (Gpt.nameUnits e) ≠ some label ∨ ¬ Gpt.inUse e ∨
        (slice e 16 16).all (· == 0))
      "IMAGE_PLATFORM" "Not the expected HAOS partition layout"
    inspectEntries es

/-- The EFI executable of the boot partition: a PE image for ARM64. -/
def inspectBoot (X : Crates) (image : Bytes) (start length : Nat) : Result Unit := do
  let boot ← parsed "IMAGE_PLATFORM" (X.fatFile image start length "EFI/BOOT/BOOTAA64.EFI")
  deny (boot.length < 64) "IMAGE_BOOT" "failed to fill whole buffer"
  let pe := Gpt.u32at boot 60
  deny (slice boot 0 2 ≠ [0x4d, 0x5a] ∨ pe > 1024 * 1024) "IMAGE_BOOT" "Invalid EFI executable"
  deny (boot.length < pe + 6) "IMAGE_BOOT" "failed to fill whole buffer"
  deny (slice boot pe 4 ≠ [0x50, 0x45, 0, 0] ∨ slice boot (pe + 4) 2 ≠ [0x64, 0xaa])
    "IMAGE_PLATFORM" "EFI executable is not ARM64"

/-- `inspect`. -/
def inspect (X : Crates) (image : Bytes) : Result Unit := do
  deny (image = [] ∨ image.length > maxImage) "IMAGE_FILE"
    "Expected a nonempty regular image file, at most 32 GiB"
  deny (image.length % 512 ≠ 0 ∨ image.length / 512 ≤ 34849) "IMAGE_FORMAT"
    "Invalid raw image size"
  let primary := slice image 0 (34 * 512)
  let tail := slice image (image.length - 33 * 512) (33 * 512)
  let gpt := Gpt.check primary tail (UInt32.ofNat (image.length / 512))
  deny (¬ gpt.healthy ∨ gpt.partitions ≠ 8) "IMAGE_GPT" (", ".intercalate gpt.issues)
  inspectEntries (Gpt.labels.zip (Gpt.entries (primary.drop 1024)))
  deny (slice primary 1024 16 ≠ efiSystem) "IMAGE_PLATFORM" "Missing EFI system partition"
  let start := Gpt.u64at primary (1024 + 32) * 512
  inspectBoot X image start ((Gpt.u64at primary (1024 + 40) + 1) * 512 - start)

end Images

end K11CHaos.Engine
