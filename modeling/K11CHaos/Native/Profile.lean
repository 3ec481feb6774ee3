import K11CHaos.Engine.Components
import K11CHaos.Native.GoJson

/-!
# The profile check of the native helper

`hexID` and `validateProfile` of `main.go`, the helper that prepares the data partition, on the profile
that the engine hands over: the record of the catalog, its state in the compact text that
`serde_json` writes. The helper reads the state twice, once into two maps of apps, where a key of the
text goes into a field whatever its letters' case, and once as it is, to write it again for the hash.
-/

namespace K11CHaos.Native

/-- `Profile`: what the helper reads of a record; the state is the text of a value. -/
structure Profile where
  haos : String
  kernel : String
  officialHash : String
  version : String
  digest : String
  imageId : String
  commit : String
  configHash : String
  stateHash : String
  state : Json
  containerd : String
  verified : Bool

/-- The profile in a request for a seed. -/
def profile (s : Engine.Seed) : Profile where
  haos := s.haos
  kernel := s.kernel
  officialHash := s.officialRawSha256
  version := s.appVersion
  digest := s.imageDigest
  imageId := s.imageId
  commit := s.catalogCommit
  configHash := s.configSha256
  stateHash := s.stateSha256
  state := s.state
  containerd := s.containerd
  verified := s.locallyVerified

/-- What the helper ends with: a failed check and its text, or an error of the JSON reader. -/
inductive GoError where
  | check (text : String)
  | unmarshal
deriving DecidableEq, Repr

/-- `imageName`. -/
def imageName : String :=
  "ghcr.io/david2766/k11c-haos-connectivity"

/-- `slug`. -/
def slug : String :=
  "157e89e9_k11c_connectivity"

/-- `hexID`. -/
def hexID (s : String) (n : Nat) : Bool :=
  s.utf8ByteSize == n && s.toList.all (· ∈ hexDigits)

/-- `strings.TrimPrefix`. -/
def trimPrefix (s p : String) : String :=
  if s.startsWith p then String.ofList (s.toList.drop p.toList.length) else s

/-- The checks of the identity of a profile. -/
def identified (p : Profile) : Bool :=
  p.verified && p.containerd == "2.3.4" && hexID p.officialHash 64 && hexID p.commit 40 &&
    hexID p.configHash 64 && hexID p.stateHash 64 && p.kernel.endsWith "-haos" &&
    hexID (trimPrefix p.imageId "sha256:") 64 && p.imageId.startsWith "sha256:" &&
    p.digest.startsWith (imageName ++ "@sha256:") &&
    hexID (trimPrefix p.digest (imageName ++ "@sha256:")) 64

/-- The check of a version. -/
def versionSound (v : String) : Bool :=
  decide (v.utf8ByteSize ≤ 32) && decide (2 ≤ (v.splitOn ".").length) &&
    v.toList.all fun c => c == '.' || c.isDigit

/-! ## The apps in the state -/

/-- `map[string]any`. -/
abbrev Record := List (String × Json)

/-- `map[string]map[string]any`. -/
abbrev Apps := List (String × Record)

/-- The letter that a character folds to when the reader looks for a field. -/
def foldRune (c : Char) : Char :=
  if c.toNat = 0x17f then 's' else if c.toNat = 0x212a then 'k' else c.toLower

/-- A key of the text is that of a field. -/
def sameKey (key name : String) : Bool :=
  key.toList.map foldRune == name.toList.map foldRune

/-- Reading the entries of an object into a map of apps. -/
def readEntries : Record → Apps → Option Apps
  | [], m => some m
  | (k, .obj fs) :: r, m => readEntries r (KeyMap.insert k (KeyMap.ofPairs fs) m)
  | (k, .null) :: r, m => readEntries r (KeyMap.insert k [] m)
  | _ :: _, _ => none

/-- Reading a value into a map of apps: entries are added to it, `null` empties it. -/
def readApps (m : Apps) : Json → Option Apps
  | .null => some []
  | .obj fs => readEntries fs m
  | _ => none

/-- Reading the fields of the state. -/
def readState : Record → Apps × Apps → Option (Apps × Apps)
  | [], m => some m
  | (k, v) :: r, (system, user) =>
    if sameKey k "system" then do
      let system ← readApps system v
      readState r (system, user)
    else if sameKey k "user" then do
      let user ← readApps user v
      readState r (system, user)
    else readState r (system, user)

/-- `json.Unmarshal` into the structure of the two maps. -/
def unmarshalState : Json → Option (Apps × Apps)
  | .null => some ([], [])
  | .obj fs => readState fs ([], [])
  | _ => none

/-- Equality of an `any` with a string. -/
def isText (v : Option Json) (s : String) : Bool :=
  match v with
  | some (.str t) => t == s
  | _ => false

/-- Equality of an `any` with a boolean. -/
def isBool (v : Option Json) (b : Bool) : Bool :=
  match v with
  | some (.bool c) => c == b
  | _ => false

/-- `v.([]any)`, empty for anything else. -/
def items : Option Json → List Json
  | some (.arr xs) => xs
  | _ => []

/-- `v.(map[string]any)`, empty for anything else. -/
def record : Option Json → Record
  | some (.obj fs) => KeyMap.ofPairs fs
  | _ => []

/-- The checks of the app as the repository has it. -/
def systemSound (version : String) (s : Record) : Bool :=
  isText (KeyMap.find s "version") version && isText (KeyMap.find s "image") imageName &&
    isText (KeyMap.find s "slug") "k11c_connectivity" &&
    isText (KeyMap.find s "repository") "157e89e9" && isText (KeyMap.find s "startup") "system" &&
    (items (KeyMap.find s "arch")).length == 1 &&
    isText (items (KeyMap.find s "arch")).head? "aarch64"

/-- The checks of the app as it is installed. -/
def userSound (version : String) (u : Record) : Bool :=
  u.length == 5 && isText (KeyMap.find u "version") version &&
    isText (KeyMap.find u "image") imageName && isText (KeyMap.find u "boot") "auto" &&
    isBool (KeyMap.find u "protected") false &&
    (record (KeyMap.find u "options")).length == 1 &&
    isBool (KeyMap.find (record (KeyMap.find u "options")) "enabled") true

/-- The checks of the two maps. -/
def appsSound (version : String) (system user : Apps) : Bool :=
  system.length == 1 && user.length == 1 &&
    systemSound version ((KeyMap.find system slug).getD []) &&
    userSound version ((KeyMap.find user slug).getD [])

/-! ## The check -/

/-- `failCheck`. -/
def failCheck (ok : Bool) (why : String) : Except GoError Unit :=
  if ok then .ok () else .error (.check why)

/-- The result of the JSON reader. -/
def unmarshal {α : Type} : Option α → Except GoError α
  | some a => .ok a
  | none => .error .unmarshal

/-- `validateProfile`. -/
def validateProfile (p : Profile) : Except GoError Unit := do
  failCheck (identified p) "Unverified or unsupported compatibility profile"
  failCheck (versionSound p.haos && versionSound p.version) "Invalid version"
  let (system, user) ← unmarshal (unmarshalState p.state)
  let canonical ← unmarshal (goPrint p.state)
  failCheck (hashBytes (Json.utf8 canonical) == p.stateHash) "Supervisor state hash mismatch"
  failCheck (appsSound p.version system user) "Invalid installed app/autostart state"

end K11CHaos.Native
