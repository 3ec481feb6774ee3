import K11CHaos.Engine.FactoryInstall
import K11CHaos.Engine.FixturePackage
import K11CHaos.Engine.Layout
import K11CHaos.Lib.Hoare

/-!
# Installations from end to end

What every run of an installation has done (`installation_order`) and what it leaves on the disk
(`execute_certified`). They are not empty: where the checks before the claim hold (`Ready`) and the vendor
tool leaves the package on the disk (`Holds`), an installation succeeds (`execute_leads`), and the smallest
package that the vendor's listing can describe is such a case.
-/

namespace K11CHaos.Engine.Factory

open Prog

/-! ## Installations that succeed -/

section
variable {who : Identity} {caps : Vector UInt8 8} {d d' : Disk}

/-- A question to a faithful device. -/
lemma leads_ask {β : Type} {o : Op} {k : o.Out → Eng β} {a : o.Out} {b : β}
    (st : Faithful who caps d ⟨o, .ok a⟩ d)
    (rest : Leads (Faithful who caps) (k a) d b d') : Leads (Faithful who caps) (ask o >>= k) d b d' :=
  Leads.bind (leads_call st) rest

/-- A question whose error would get the code of the caller. -/
lemma leads_askAs {β : Type} {code : String} {o : Op} {k : o.Out → Eng β} {a : o.Out} {b : β}
    (st : Faithful who caps d ⟨o, .ok a⟩ d)
    (rest : Leads (Faithful who caps) (k a) d b d') :
    Leads (Faithful who caps) (askAs code o >>= k) d b d' :=
  Leads.bind ⟨_, runs_askAs_ok.mpr rfl, .cons st .nil⟩ rest

/-- A last question that leaves the device alone. -/
lemma leads_askAs_last {code : String} {o : Op} {a : o.Out}
    (st : Faithful who caps d ⟨o, .ok a⟩ d) : Leads (Faithful who caps) (askAs code o) d a d :=
  ⟨_, runs_askAs_ok.mpr rfl, .cons st .nil⟩

/-- A check that passes. -/
lemma leads_check {α β : Type} {x : Result α} {k : α → Eng β} {a : α} {b : β}
    (h : x = .ok a)
    (rest : Leads (Faithful who caps) (k a) d b d') :
    Leads (Faithful who caps) (check x >>= k) d b d' :=
  Leads.bind (leads_ofExcept h) rest

/-- A refusal that does not apply. -/
lemma leads_deny {β : Type} {p : Prop} [Decidable p] {code detail : String} {k : Unit → Eng β} {b : β}
    (h : ¬ p)
    (rest : Leads (Faithful who caps) (k ()) d b d') :
    Leads (Faithful who caps) (check (deny p code detail) >>= k) d b d' :=
  leads_check (deny_ok.mpr h) rest

/-- A read in full. -/
lemma leads_readExact {lba : UInt32} {len : Nat} (small : len < 2 ^ 32) :
    Leads (Faithful who caps) (readExact lba len) d (readAt d (512 * lba.toNat) len) d := by
  have count : (UInt32.ofNat len).toNat = len := by
    rw [UInt32.toNat_ofNat']
    exact Nat.mod_eq_of_lt small
  refine leads_ask (o := .read lba len)
    (a := (UInt32.ofNat len, ⟨readAt d (512 * lba.toNat) len, length_readAt⟩)) ⟨rfl, fun _ => rfl⟩ ?_
  exact leads_deny (not_not.mpr count) leads_pure

/-- A loader that reads everything is asked. -/
lemma leads_requireFullRead (full : Flash.fullRead caps) :
    ∃ s, Leads (Faithful who caps) requireFullRead d s d :=
  ⟨_, leads_ask (o := .capability) (a := caps) ⟨rfl, rfl⟩ (leads_deny full leads_pure)⟩

/-- The headers that a disk has for a device of some sectors. -/
def headersOf (d : Disk) (sectors : UInt32) : Bytes × Bytes :=
  (readAt d 0 (34 * 512), readAt d (512 * (sectors - 33).toNat) (33 * 512))

/-- Neither header is the vendor's read denial. -/
structure Readable (d : Disk) (sectors : UInt32) : Prop where
  big : 34849 < sectors
  primary : requireGptBytes ((headersOf d sectors).1.drop 512) = .ok ()
  tail : requireGptBytes (headersOf d sectors).2 = .ok ()

/-- Both copies of a readable GPT are read. -/
lemma leads_headers {identity : Identity} (h : Readable d identity.sectors) :
    Leads (Faithful who caps) (Archive.headers identity) d (headersOf d identity.sectors) d := by
  refine leads_deny (UInt32.not_le.mpr h.big) ?_
  refine Leads.bind (leads_readExact (by decide)) ?_
  refine Leads.bind (leads_readExact (by decide)) ?_
  exact leads_check h.primary (leads_check h.tail leads_pure)

/-- Blocks that are on the disk compare equal. -/
lemma leads_compareBlocks {file : Bytes} {c : Check} {bs : List (Nat × Nat)}
    (small : ∀ x ∈ bs, x.2 < 2 ^ 32)
    (equal : ∀ x ∈ bs, readAt d (512 * (c.lba + UInt32.ofNat (x.1 / 512)).toNat) x.2 =
      expectedBlock file c x.1 x.2) :
    Leads (Faithful who caps) (compareBlocks file c bs) d () d := by
  induction bs with
  | nil => exact leads_pure
  | cons x bs ih =>
    have here := equal x List.mem_cons_self
    refine leads_deny (not_not.mpr (by rw [← here, length_readAt])) ?_
    refine Leads.bind (leads_readExact (small x List.mem_cons_self)) ?_
    refine leads_deny (not_not.mpr here.symm) ?_
    exact ih (fun y hy => small y (List.mem_cons_of_mem x hy))
      fun y hy => equal y (List.mem_cons_of_mem x hy)

/-- A disk on which a read-back finds an image. -/
structure Holds (c : Clearance) (d : Disk) : Prop where
  equal : ∀ k ∈ c.checks, ∀ x ∈ blocks chunk k.bytes 0,
    readAt d (512 * (k.lba + UInt32.ofNat (x.1 / 512)).toNat) x.2 = expectedBlock c.file k x.1 x.2
  layout : verifyLayout (headersOf d c.plan.identity.sectors).1 (headersOf d c.plan.identity.sectors).2
    c.plan.identity.sectors c.image c.file = .ok ()

/-- A disk with a partition table is not the read denial. -/
lemma Holds.readable {c : Clearance} (h : Holds c d) : Readable d c.plan.identity.sectors := by
  obtain ⟨healthy, -⟩ := verifyLayout_ok h.layout
  have sound := Gpt.healthy_sound (Gpt.healthy_iff.mpr healthy)
  exact ⟨sound.big, sound.undenied.1, sound.undenied.2⟩

/-- All checks find their blocks on the disk. -/
lemma leads_compareChecks {file : Bytes} {checks : List Check}
    (equal : ∀ k ∈ checks, ∀ x ∈ blocks chunk k.bytes 0,
      readAt d (512 * (k.lba + UInt32.ofNat (x.1 / 512)).toNat) x.2 = expectedBlock file k x.1 x.2) :
    Leads (Faithful who caps) (compareChecks file checks) d () d := by
  induction checks with
  | nil => exact leads_pure
  | cons k checks ih =>
    have tiles : Engine.Tiles chunk 0 k.bytes (blocks chunk k.bytes 0) := chunk_tiles
    refine Leads.bind (leads_compareBlocks (fun x hx => ?_) (equal k List.mem_cons_self)) ?_
    · exact Nat.lt_of_le_of_lt (tiles.size_le x hx) (by decide)
    · exact ih fun j hj => equal j (List.mem_cons_of_mem k hj)

/-- The read-back passes on a disk that holds the package. -/
lemma leads_readback {c : Clearance} (full : Flash.fullRead caps) (h : Holds c d) :
    Leads (Faithful c.plan.identity caps) (readback c.plan.identity c.image c.file c.checks) d () d := by
  obtain ⟨_, read⟩ : ∃ s, Leads (Faithful c.plan.identity caps) requireFullRead d s d :=
    leads_requireFullRead full
  refine Leads.bind read (leads_ask (o := .identity) (a := c.plan.identity) ⟨rfl, rfl⟩ ?_)
  refine leads_deny (not_not.mpr rfl) ?_
  refine Leads.bind (leads_compareChecks h.equal) ?_
  exact Leads.bind (leads_headers h.readable) (leads_ofExcept h.layout)

end

/-- The checks before the claim hold of a plan, an opened image and the disk of its device. -/
structure Ready (X : Crates) (text : Bytes) (st : Store) (c : Clearance) (caps : Vector UInt8 8)
    (d : Disk) : Prop where
  small : text.length ≤ 256 * 1024
  parse : X.parseFactoryPlan text = .ok c.plan
  kind : c.plan.format = 1 ∧ c.plan.operation = "factory"
  opened : openImage X st c.plan.source = .ok (c.image, c.file)
  same : report c.image = c.plan.sourceReport
  fits : validateCapacity c.image c.plan.identity.sectors = .ok ()
  planned : verification c.image c.file c.plan.identity.sectors = .ok c.checks
  device : guard c.plan.device = .ok ()
  full : Flash.fullRead caps
  readable : Readable d c.plan.identity.sectors
  digest : hashBytes ((headersOf d c.plan.identity.sectors).1 ++
    (headersOf d c.plan.identity.sectors).2) = c.plan.targetHeaders

section
variable {pins : Pins} {X : Crates} {text : Bytes} {st : Store} {c : Clearance}
  {caps : Vector UInt8 8} {d d' : Disk}

/-- An engine function in an installation. -/
lemma leads_engine {α : Type} {who : Identity} {m : Eng α} {a : α}
    (h : Leads (Faithful who caps) m d a d') : Leads (OnDevice who caps) (engine m) d a d' :=
  Leads.lift h

/-- The device of a plan, alone on the bus. -/
lemma leads_opened {who : Identity} {device : Device} {reconnected : Bool}
    (sound : guard device = .ok ()) :
    Leads (OnDevice who caps) (opened device reconnected) d () d := by
  refine Leads.bind (leads_call (b := [device]) rfl) ?_
  have found : factoryDevice [device] device reconnected = .ok device := by
    unfold factoryDevice
    refine bind_ok.mpr ⟨(), sound, bind_ok.mpr ⟨(), deny_ok.mpr ?_, rfl⟩⟩
    rintro (h | ⟨-, h⟩)
    · exact h rfl
    · exact h rfl
  have first : ([device].find? fun d => d.instanceId == device.instanceId) = some device :=
    List.find?_cons_of_pos (beq_self_eq_true _)
  have picked : Leads (OnDevice who caps) (selected device.instanceId) d device d := by
    refine Leads.bind (leads_call (b := [device]) rfl) ?_
    rw [first]
    exact Leads.bind (leads_ofExcept sound) (Leads.bind (leads_call (b := ()) rfl) leads_pure)
  exact Leads.bind (leads_ofExcept found) (Leads.bind picked leads_pure)

/-- The plan is loaded. -/
lemma Ready.loadPlan {who : Identity} (h : Ready X text st c caps d) :
    Leads (Faithful who caps) (loadPlan X (hashBytes text)) d c.plan d := by
  have hex : hashId (hashBytes text) = true := decide_eq_true (hashBytes_hex _)
  have source : hashId c.plan.source = true := by
    obtain ⟨_, named, -⟩ := bind_ok.mp h.opened
    simpa using named
  refine leads_deny (by simp [hex]) (leads_askAs (o := .load _) (a := text) rfl ?_)
  refine leads_deny (Nat.not_lt.mpr h.small) (leads_deny (not_not.mpr rfl) ?_)
  refine leads_check (a := c.plan) ?_ (leads_deny ?_ leads_pure)
  · rw [h.parse]
    rfl
  · simp [h.kind, source]

/-- The image of the plan is opened and checked. -/
lemma Ready.prepare {who : Identity} (h : Ready X text st c caps d) :
    Leads (Faithful who caps) (prepare X (hashBytes text)) d c d := by
  refine Leads.bind h.loadPlan (leads_ask (o := .sources) (a := st) rfl (leads_check h.opened ?_))
  exact leads_deny (not_not.mpr h.same) (leads_check h.fits (leads_check h.planned leads_pure))

/-- The device has the headers of the plan. -/
lemma Ready.sameTarget (h : Ready X text st c caps d) :
    Leads (Faithful c.plan.identity caps) (sameTarget c.plan.identity c.plan.targetHeaders) d () d := by
  have digest : Leads (Faithful c.plan.identity caps) (headersDigest c.plan.identity) d
      c.plan.targetHeaders d := by
    refine Leads.bind (leads_headers h.readable) ?_
    refine leads_check h.readable.primary (leads_check h.readable.tail ?_)
    rw [h.digest]
    exact leads_pure
  obtain ⟨_, read⟩ : ∃ s, Leads (Faithful c.plan.identity caps) requireFullRead d s d :=
    leads_requireFullRead h.full
  refine leads_ask (o := .identity) (a := c.plan.identity) ⟨rfl, rfl⟩ ?_
  refine leads_deny (not_not.mpr rfl) (Leads.bind read (Leads.bind digest ?_))
  exact leads_ofExcept (deny_ok.mpr (not_not.mpr rfl))

/-- What a plan is checked for is in order. -/
lemma Ready.clear (h : Ready X text st c caps d) :
    Leads (OnDevice c.plan.identity caps) (clear X (hashBytes text) true) d c d := by
  have target : Leads (OnDevice c.plan.identity caps)
      (factoryIdentity c.plan.device c.plan.identity c.plan.targetHeaders) d () d :=
    Leads.bind (leads_opened h.device) (leads_engine h.sameTarget)
  refine Leads.bind (a := ()) (leads_ofExcept (deny_ok.mpr Bool.false_ne_true)) ?_
  exact Leads.bind (leads_engine h.prepare) (Leads.bind target leads_pure)

/-- The files of the vendor tool are the pinned ones. -/
lemma leads_toolBundle {who : Identity} {exe config : Bytes}
    (tool : hashBytes exe = pins.tool)
    (conf : hashBytes config = pins.config) :
    Leads (Faithful who caps) (toolBundle pins) d () d := by
  have file {path : String} {b : Bytes} {expected : String} (h : hashBytes b = expected) :
      Leads (Faithful who caps) (verifyFile path expected) d () d :=
    leads_askAs (o := .load _) (a := b) rfl (leads_ofExcept (deny_ok.mpr (not_not.mpr h)))
  exact Leads.bind (file tool) (file conf)

/-- The claim of a plan, and its journal. -/
lemma leads_claim {who : Identity} {id : String} {p : FactoryPlan} :
    Leads (Faithful who caps) (claim id p) d () d := by
  refine leads_askAs (o := .rename _ _) (a := ()) rfl ?_
  refine Leads.bind (a := ()) ?_ (leads_askAs_last (o := .note _ _) (a := ()) rfl)
  exact leads_askAs (o := .create _) (a := true) rfl (leads_ofExcept rfl)

/-- The tool may leave anything behind. -/
lemma leads_write {who : Identity} {exe config : Bytes} {id image said : String}
    (tool : hashBytes exe = pins.tool)
    (conf : hashBytes config = pins.config)
    (success : toolSuccess .install true said = true) :
    Leads (Faithful who caps) (write pins id image) d () d' := by
  have tool : Leads (Faithful who caps) (runTool pins image) d said d' := by
    have run : Leads (Faithful who caps) (ask (.tool image)) d said d' := leads_call trivial
    refine Leads.bind (leads_toolBundle tool conf) (Leads.bind run ?_)
    exact leads_deny (by simp [success]) leads_pure
  exact Leads.bind tool (leads_askAs_last (o := .note _ _) rfl)

/-- An installation whose plan is in order succeeds when the vendor tool says that it has and leaves the
    image on the disk. -/
theorem execute_leads {exe config : Bytes} {said : String} (h : Ready X text st c caps d)
    (tool : hashBytes exe = pins.tool)
    (conf : hashBytes config = pins.config)
    (success : toolSuccess .install true said = true)
    (holds : Holds c d') :
    Leads (OnDevice c.plan.identity caps) (execute pins X (hashBytes text) true) d (report c.image) d' := by
  have read : Leads (OnDevice c.plan.identity caps)
      (factoryReadback c.plan.device c.plan.identity c.image c.file c.checks) d' () d' :=
    Leads.bind (leads_opened h.device) (leads_engine (leads_readback h.full holds))
  have last : Leads (OnDevice c.plan.identity caps) (engine (journal (hashBytes text) .complete)) d' () d' :=
    leads_engine (leads_askAs_last (o := .note _ _) rfl)
  have run : Leads (OnDevice c.plan.identity caps) (install pins (hashBytes text) c) d
      (report c.image) d' :=
    Leads.bind (leads_engine (leads_write tool conf success)) (Leads.bind read leads_pure)
  refine Leads.bind h.clear (Leads.bind (leads_engine leads_claim) ?_)
  exact Leads.bind run.attempt (Leads.bind last leads_pure)

end

/-! ## A package that is installed -/

/-- The board on the USB port. -/
def sampleDevice : Device :=
  ⟨"USB-1", 0x2207, 0x350a, "Loader", true, "1-1"⟩

/-- Its eMMC. -/
def sampleIdentity : Identity :=
  ⟨40000, "emmc", "45", "00"⟩

/-- A loader that reads everything. -/
def sampleCaps : Vector UInt8 8 :=
  (Vector.replicate 8 0).setIfInBounds 0 8

/-- The pins of a tool and of its configuration. -/
def samplePins : Pins :=
  ⟨hashBytes [0x4d, 0x5a], hashBytes []⟩

/-- A plan for the package and an empty eMMC. -/
def samplePlan (x y z : UInt8) : FactoryPlan :=
  ⟨1, "factory", hashBytes (package x y z), sampleDevice, sampleIdentity, report (packageImage x y z),
    hashBytes (zeros (34 * 512) ++ zeros (33 * 512))⟩

/-- What is known before the claim. -/
def sampleClearance (x y z : UInt8) : Clearance :=
  ⟨samplePlan x y z, packageImage x y z, package x y z, packageChecks⟩

section
variable {x y z : UInt8}

/-- An empty eMMC is not the read denial. -/
lemma empty_readable {sectors : UInt32} (big : 34849 < sectors) : Readable (fun _ => 0) sectors := by
  have zero {n : Nat} (pos : 0 < n) : requireGptBytes (zeros n) = .ok () :=
    deny_ok.mpr fun denied => absurd (denied.2 0 (zeros_mem.mpr pos)) (by decide)
  refine ⟨big, ?_, ?_⟩
  · show requireGptBytes ((readAt _ 0 (34 * 512)).drop 512) = .ok ()
    rw [readAt_empty, zeros, List.drop_replicate, ← zeros]
    exact zero (by decide)
  · show requireGptBytes (readAt _ _ (33 * 512)) = .ok ()
    rw [readAt_empty]
    exact zero (by decide)

/-- The text of a plan is as long as its hashes and its report make it. -/
lemma size_plan (p : FactoryPlan) (source headers : String) (sourceReport : Json) :
    { p with source, targetHeaders := headers, sourceReport }.json.size + 2 * Json.quoteSize "" +
        Json.null.size =
      { p with source := "", targetHeaders := "", sourceReport := .null }.json.size +
        Json.quoteSize source + Json.quoteSize headers + sourceReport.size := by
  simp only [FactoryPlan.json, Json.size, Json.sizeFields]
  omega

/-- A report is as long as the hash in it makes it. -/
lemma size_report (image : Image) (hash : String) :
    (report { image with sha256 := hash }).size + 2 * Json.quoteSize "" =
      (report { image with sha256 := "" }).size + 2 * Json.quoteSize hash := by
  simp only [report, Json.size, Json.sizeFields]
  omega

/-- The text of the plan is short, whatever the hashes in it are. -/
lemma samplePlan_short : (samplePlan x y z).json.bytes.length ≤ 256 * 1024 := by
  have source := (Json.quoteSize_bounds (hashBytes (package x y z))).2
  have headers := (Json.quoteSize_bounds (hashBytes (zeros (34 * 512) ++ zeros (33 * 512)))).2
  rw [(hashBytes_hex _).1] at source headers
  have plan : Json.size (FactoryPlan.json ⟨1, "factory", "", sampleDevice, sampleIdentity, .null, ""⟩) ≤
      1024 := by
    decide +kernel
  have image : (report ⟨"", "system.img", 2560, "RKFW", "Linux", packageEntries, packageParts⟩).size ≤
      1024 := by
    decide +kernel
  have whole := size_plan ⟨1, "factory", "", sampleDevice, sampleIdentity, .null, ""⟩
    (hashBytes (package x y z)) (hashBytes (zeros (34 * 512) ++ zeros (33 * 512)))
    (report (packageImage x y z))
  have part := size_report ⟨"", "system.img", 2560, "RKFW", "Linux", packageEntries, packageParts⟩
    (hashBytes (package x y z))
  rw [Json.length_bytes]
  dsimp only at whole part
  rw [samplePlan]
  rw [packageImage] at whole ⊢
  omega

/-- The plan of the package is in order. -/
lemma sample_ready :
    Ready packageCrates (samplePlan x y z).json.bytes (packageStore x y z) (sampleClearance x y z)
      sampleCaps (fun _ => 0) := by
  have device : guard sampleDevice = .ok () := by decide
  have full : (8 : UInt8) &&& 8 ≠ 0 := by decide
  have big : 34849 < sampleIdentity.sectors := by decide
  refine
    { small := samplePlan_short
      parse := packageCrates.parseFactoryPlan_bytes _
      kind := ⟨rfl, rfl⟩
      opened := package_opened
      same := rfl
      fits := package_fits
      planned := package_planned
      device := device
      full := full
      readable := empty_readable big
      digest := ?_ }
  rw [headersOf, readAt_empty, readAt_empty]
  rfl

/-- The disk with the package holds it. -/
lemma sample_holds : Holds (sampleClearance x y z) (packageDisk x y z) := by
  obtain ⟨primary, tail⟩ := @packageDisk_headers x y z
  refine ⟨fun k hk => packageDisk_stored hk, ?_⟩
  have pair : headersOf (packageDisk x y z) (sampleClearance x y z).plan.identity.sectors =
      (Gpt.primaryWith 40000 packageArray, Gpt.tailWith 40000 packageArray) :=
    Prod.ext primary tail
  rw [pair]
  exact packageDisk_laid

/-- The package is installed. -/
lemma sample_installed : ∃ t,
    Runs (execute samplePins packageCrates (hashBytes (samplePlan x y z).json.bytes) true) t
      (.ok (report (packageImage x y z))) ∧
    Lts.Path (OnDevice sampleIdentity sampleCaps) (fun _ => 0) t (packageDisk x y z) := by
  have tool : hashBytes [0x4d, 0x5a] = samplePins.tool := rfl
  have config : hashBytes [] = samplePins.config := rfl
  have success : toolSuccess .install true "Upgrade firmware ok." = true := by decide +kernel
  exact execute_leads sample_ready tool config success sample_holds

end

/-! ## What runs have done -/

section
variable {pins : Pins} {X : Crates} {id : String} {confirmed : Bool}

/-- The order of an installation, whatever the devices, the store, the gate and the tool answer; a run
    that was cut off is the start of one. A success has started the tool, seen it succeed, opened the
    device of the plan again and read the image back from it. -/
theorem installation_order {t : List Event'} {r : Result Json} (h : Runs (execute pins X id confirmed) t r) :
    Ordered pins X id confirmed t ∧ ∀ v, r = .ok v → ∃ c, v = report c.image ∧ Installed pins X id t c := by
  refine ⟨?_, ?_⟩
  · obtain looks | ⟨tp, c, a, tx, sure, pre, looks, rfl, order⟩ := begins_execute h.whole
    · exact ⟨.inl looks, fun b e u eq loud => absurd
        (looks e (eq ▸ List.mem_append_right b List.mem_cons_self)).quiet loud⟩
    · refine ⟨.inr ⟨tp, c, a, tx, sure, pre, looks, rfl⟩, fun b e u eq loud => ?_⟩
      -- the question stands behind the claim
      obtain ⟨x, rfl, e2⟩ | ⟨x, rfl, e2⟩ := List.append_eq_append_iff.mp eq
      · cases x with
        | nil =>
          obtain ⟨rfl, -⟩ := List.cons.inj e2
          exact absurd trivial loud
        | cons y x =>
          obtain ⟨rfl, rfl⟩ := List.cons.inj e2
          obtain ⟨tool, ⟨tb, bundle, e3⟩, rest⟩ := order x e u rfl loud
          exact ⟨tp, c, tb, pre, tool, bundle, by rw [← e3], rest⟩
      · cases x with
        | nil =>
          obtain ⟨rfl, -⟩ := List.cons.inj e2
          exact absurd trivial loud
        | cons y x =>
          obtain ⟨rfl, -⟩ := List.cons.inj e2
          exact absurd (looks e (List.mem_append_right b List.mem_cons_self)).quiet loud
  · rintro v rfl
    exact runs_execute_ok h

/-- The package of three sectors is installed. -/
theorem installation_order_sample : ∃ t,
    Ordered samplePins packageCrates (hashBytes (samplePlan 1 2 3).json.bytes) true t ∧
      ∃ c, report (packageImage 1 2 3) = report c.image ∧
        Installed samplePins packageCrates (hashBytes (samplePlan 1 2 3).json.bytes) t c := by
  obtain ⟨t, runs, -⟩ := @sample_installed 1 2 3
  obtain ⟨ordered, installed⟩ := installation_order runs
  exact ⟨t, ordered, installed _ rfl⟩

end

section
variable {pins : Pins} {X : Crates} {who : Identity} {caps : Vector UInt8 8} {d d' : Disk}

/-- An installation and the disk. A success leaves the certified package of the plan on the device that
    the plan names; a failure leaves the disk alone unless the plan was claimed and its journal begun. -/
theorem execute_certified {id : String} {confirmed : Bool} {t : List Event'} {r : Result Json}
    {tool : Bytes → Result String}
    (reads : X.rkfw = rkfw tool)
    (h : Runs (execute pins X id confirmed) t r)
    (p : Lts.Path (OnDevice who caps) d t d') :
    match r with
    | .ok v =>
      ∃ c tp tu,
        t = tp ++ tu ∧
        Preflight X id tp c ∧
        v = report c.image ∧
        c.plan.identity = who ∧
        Certified c.image c.file who.sectors d'
    | .error _ =>
      (d' = d ∧ ∀ e ∈ t, e.1.Quiet) ∨
        ∃ c tp tu,
          t = tp ++ tu ∧
          Preflight X id tp c ∧
          ∀ e ∈ engineTrace (claimed id c.plan), e ∈ tu := by
  cases r with
  | ok v =>
    obtain ⟨c, rfl, tp, tb, text, tu, tr, pre, bundle, success, opened, back, rfl⟩ :=
      runs_execute_ok h
    obtain ⟨d1, -, p1⟩ := p.append_inv
    obtain ⟨d2, -, p2⟩ := p1.append_inv
    obtain ⟨d3, -, p3⟩ := p2.append_inv
    obtain ⟨d4, -, p4⟩ := p3.append_inv
    obtain ⟨d5, p5, p6⟩ := p4.append_inv
    obtain ⟨rfl, rfl, certified⟩ := pre.certifies reads back (onDevice_engine p5)
    have still : d' = d5 := by
      refine onDevice_quiet p6 fun e he => ?_
      obtain rfl := List.mem_singleton.mp he
      trivial
    exact ⟨c, tp, _, rfl, pre, rfl, rfl, still ▸ certified⟩
  | error e =>
    by_cases quiet : ∀ e ∈ t, e.1.Quiet
    · exact .inl ⟨onDevice_quiet p quiet, quiet⟩
    · obtain looks | ⟨tp, c, a, tx, -, pre, looks, rfl, order⟩ := begins_execute h.whole
      · exact absurd (fun e he => (looks e he).quiet) quiet
      · -- the question that is not quiet is the start of the tool, behind the claim
        push Not at quiet
        obtain ⟨x, hx, loud⟩ := quiet
        refine .inr ⟨c, tp, _, rfl, pre, fun e he => ?_⟩
        obtain hx | hx := List.mem_append.mp hx
        · exact absurd (looks x hx).quiet loud
        obtain rfl | hx := List.mem_cons.mp hx
        · exact absurd trivial loud
        obtain ⟨b, u, rfl⟩ := List.append_of_mem hx
        obtain ⟨-, ⟨tb, -, eq⟩, -⟩ := order b x u rfl loud
        have front : e ∈ engineTrace (claimed id c.plan ++ tb) := by
          obtain ⟨y, hy, rfl⟩ := List.mem_map.mp he
          exact List.mem_map_of_mem (List.mem_append_left tb hy)
        rw [← eq] at front
        rw [← List.cons_append]
        exact List.mem_append_left _ front

/-- The disk after it is certified. -/
theorem execute_certified_sample : ∃ c t tp tu,
    t = tp ++ tu ∧
    Preflight packageCrates (hashBytes (samplePlan 1 2 3).json.bytes) tp c ∧
    report (packageImage 1 2 3) = report c.image ∧
    c.plan.identity = sampleIdentity ∧
    Certified c.image c.file 40000 (packageDisk 1 2 3) := by
  obtain ⟨t, runs, path⟩ := @sample_installed 1 2 3
  obtain ⟨c, tp, tu, eq, pre, same, who, certified⟩ := execute_certified rfl runs path
  exact ⟨c, t, tp, tu, eq, pre, same, who, certified⟩

end

end K11CHaos.Engine.Factory
