import K11CHaos.Engine.Manufacturer

/-!
# Direct restorations in a world without faults

`plan_inner` for a restoration without a recovery backup, when nothing outside fails
(`run_planInner_direct`): it leaves the plan of the work that `build` has found. With it a manufacturer
image without GPT (`plainImage`) is planned and executed: filled with zeros it is written to the end;
filled with the byte that a denied read shows, its plan is accepted and its execution fails.
-/

namespace K11CHaos.Engine

open Prog World

namespace Flash

section Direct

variable {host : Host} {w : World}

/-- A new file is saved. -/
lemma run_saveNew {code} {p : Path} {b : Bytes} (h : w.files p = none) :
    run (exact host) (Workflow.saveNew code p b) w = (.ok (), ⟨w.disk, w.files.set p b⟩) := by
  refine (run_bind_ok (run_createNew h)).trans ?_
  have there : (⟨w.disk, w.files.set p []⟩ : World).files p = some [] := Files.set_same
  refine (run_askAs (exact_append there)).trans ?_
  have twice : (w.files.set p []).set p b = w.files.set p b := by
    funext q
    by_cases eq : q = p
    · rw [eq, Files.set_same, Files.set_same]
    · rw [Files.set_other eq, Files.set_other eq, Files.set_other eq]
  rw [List.nil_append, twice]
  rfl

/-- The files after a plan has been saved in a new directory. -/
def withPlan (f : Files) (p : Plan) : Files :=
  (f.set (.plan .flash "") []).set (.plan .flash (planId p)) p.json.bytes

/-- No plan has an empty name. -/
lemma planId_ne {p : Plan} : planId p ≠ "" := by
  intro empty
  have hex := (hashBytes_hex p.json.bytes).1
  rw [show hashBytes p.json.bytes = "" from empty] at hex
  exact absurd hex (by decide)

/-- A plan whose name is new is saved under it. -/
lemma run_savePlan {p : Plan} (dir : w.files (.plan .flash "") = none)
    (unused : w.files (.used .flash (planId p)) = none)
    (new : w.files (.plan .flash (planId p)) = none) :
    run (exact host) (savePlan p) w = (.ok (planId p, p), ⟨w.disk, withPlan w.files p⟩) := by
  refine (run_askAs_bind (exact_makeDir dir)).trans ?_
  let w1 : World := ⟨w.disk, w.files.set (.plan .flash "") []⟩
  have other : Path.used .flash (planId p) ≠ .plan .flash "" := nofun
  have other' : Path.plan .flash (planId p) ≠ .plan .flash "" := by simp [planId_ne]
  have files : w1.files = w.files.set (.plan .flash "") [] := rfl
  have unused1 : w1.files (.used .flash (planId p)) = none := by
    rw [files, Files.set_other other, unused]
  have new1 : w1.files (.plan .flash (planId p)) = none := by
    rw [files, Files.set_other other', new]
  have asked : w1.exact host (.present (.used .flash (planId p))) = (.ok false, w1) := by
    simp only [exact, unused1, Option.isSome_none]
  have asked' : w1.exact host (.present (.plan .flash (planId p))) = (.ok false, w1) := by
    simp only [exact, new1, Option.isSome_none]
  change run (exact host) (savePlanFrom p) w1 = _
  rw [savePlanFrom]
  refine (run_ask_bind asked).trans ?_
  rw [if_neg Bool.false_ne_true]
  refine (run_ask_bind asked').trans ?_
  rw [if_neg Bool.false_ne_true]
  exact (run_bind_ok (run_saveNew new1)).trans run_pure

/-- The plan of a direct restoration. -/
def directPlan (operation source : String) (device : Device) (identity : Identity) (work : Work)
    (current : Snapshot) : Plan :=
  ⟨1, operation, source, device, identity, "", work.ranges, some current.digest, none⟩

/-- A direct restoration that has something to write ends with its plan. -/
lemma run_planInner_direct {X : Crates} {device : Device} {operation source : String} {o : Operation}
    {work : Work}
    (named : Operation.ofName operation = some o)
    (direct : o = .restore ∨ o = .restoreArchive ∨ o = .factoryRaw)
    (guarded : guard device = .ok ())
    (emmc : host.who.storage = "emmc")
    (full : fullRead host.caps)
    (big : 34849 < host.who.sectors)
    (undenied : Undenied (bootArea w.disk host.who.sectors))
    (built : build X w.files.store operation source host.who (bootArea w.disk host.who.sectors) false =
      .ok work)
    (some' : work.segments ≠ [])
    (dir : w.files (.plan .flash "") = none)
    (unused : w.files (.used .flash (planId (directPlan operation source device host.who work
      (bootArea w.disk host.who.sectors)))) = none)
    (new : w.files (.plan .flash (planId (directPlan operation source device host.who work
      (bootArea w.disk host.who.sectors)))) = none) :
    ∃ erases, run (exact host) (planInner X device operation source .directRestore) w =
      (.ok (.plan (planId (directPlan operation source device host.who work
          (bootArea w.disk host.who.sectors)))
        (directPlan operation source device host.who work (bootArea w.disk host.who.sectors))
        none erases),
      ⟨w.disk, withPlan w.files (directPlan operation source device host.who work
        (bootArea w.disk host.who.sectors))⟩) := by
  have revision (w1 : World) :
      run (exact host) (revisionOf X (some o) source) w1 = (.ok none, w1) := by
    obtain rfl | rfl | rfl := direct <;> rfl
  have allowed : ¬ (Recovery.directRestore = .directRestore ∧ some o ≠ some .restore ∧
      some o ≠ some .restoreArchive ∧ some o ≠ some .factoryRaw) := by
    obtain rfl | rfl | rfl := direct <;> simp
  refine ⟨some o = some .install || some o = some .factoryRaw ||
    work.archive.any fun a => a.metadata.kind == "FULL", ?_⟩
  unfold planInner
  rw [named]
  refine (run_deny_bind allowed).trans ?_
  refine (run_check_bind guarded).trans ?_
  refine (run_ask_bind (o := .identity) rfl).trans ?_
  refine (run_deny_bind (not_not.mpr emmc)).trans ?_
  obtain ⟨caps, read⟩ := run_requireFullRead (w := w) full
  refine (run_bind_ok read).trans ((run_deny_bind (UInt32.not_le.mpr big)).trans ?_)
  refine (run_bind_ok (run_capture big undenied)).trans ?_
  refine (run_ask_bind (o := .sources) rfl).trans ((run_check_bind built).trans ?_)
  refine (run_deny_bind (by simp)).trans ?_
  rw [if_neg some']
  unfold planWork
  rw [named]
  refine (run_bind_ok run_pure).trans ?_
  refine (run_bind_ok (run_savePlan dir unused new)).trans ?_
  exact (run_bind_ok (revision _)).trans run_pure

end Direct

/-- Stamps are those of the clock. -/
lemma answers_stamp {host : Host} {w w' : World} {t : List Ev} {stamp : String}
    (path : Lts.Path (Answers (exact host)) w t w')
    (mem : (⟨.stamp, .ok stamp⟩ : Ev) ∈ t) : stamp = host.stamp := by
  induction path with
  | nil => cases mem
  | cons st _ ih =>
    obtain _ | ⟨_, mem⟩ := mem
    · have said : (.ok host.stamp : Except Failure String) = .ok stamp := congrArg Prod.fst st
      exact (Except.ok.inj said).symm
    · exact ih mem

/-! ## An image without GPT -/

section Sample

/-- A board with an eMMC of 34850 sectors. -/
def sampleHost : Host :=
  ⟨⟨34850, "emmc", "45", "00"⟩, ⟨#[8, 0, 0, 0, 0, 0, 0, 0], rfl⟩, "260101-000000"⟩

/-- The board on the USB port. -/
def sampleDevice : Device :=
  ⟨"USB-1", 0x2207, 0x350a, "Loader", true, "1-1"⟩

variable {x : UInt8}

/-- The id of the image. -/
abbrev sampleSource (x : UInt8) : String :=
  hashBytes (plainImage 34850 x)

/-- An empty eMMC, and the image. -/
def sampleWorld (x : UInt8) : World :=
  ⟨fun _ => 0, plainFiles 34850 x⟩

/-- The plan of the image. -/
def samplePlan (x : UInt8) : Plan :=
  directPlan "factory-raw" (sampleSource x) sampleDevice sampleHost.who (plainWork 34850 x)
    (bootArea (fun _ => 0) 34850)

/-- The world after planning. -/
def plannedWorld (x : UInt8) : World :=
  ⟨fun _ => 0, withPlan (plainFiles 34850 x) (samplePlan x)⟩

/-- Bytes that are all the same are a read denial only if they are the byte of one. -/
lemma requireGptBytes_replicate {n : Nat} (pos : 0 < n) :
    requireGptBytes (List.replicate n x) = .ok () ↔ x ≠ 0xcc := by
  unfold requireGptBytes
  rw [deny_ok]
  constructor
  · rintro h rfl
    refine h ⟨?_, fun y mem => List.eq_of_mem_replicate mem⟩
    rw [ne_eq, List.replicate_eq_nil_iff]
    omega
  · rintro ne ⟨_, all⟩
    exact ne (all x (List.mem_replicate.mpr ⟨by omega, rfl⟩))

/-- An empty eMMC carries no denial of the vendor. -/
lemma empty_undenied {sectors : UInt32} : Undenied (bootArea (fun _ => 0) sectors) := by
  refine ⟨?_, ?_⟩
  · rw [bootArea_primary, readAt_empty, zeros, List.drop_replicate]
    exact (requireGptBytes_replicate (by decide)).mpr (by decide)
  · rw [bootArea_tail, readAt_empty, zeros]
    exact (requireGptBytes_replicate (by decide)).mpr (by decide)

/-- The plan of the sample is returned. -/
lemma sample_planned : ∃ erases,
    run (exact sampleHost) (planInner .reference sampleDevice "factory-raw" (sampleSource x)
      .directRestore) (sampleWorld x) =
      (.ok (.plan (planId (samplePlan x)) (samplePlan x) none erases), plannedWorld x) := by
  refine run_planInner_direct (o := .factoryRaw) rfl (.inr (.inr rfl)) rfl rfl ?_ ?_ empty_undenied ?_ ?_
    ?_ ?_ ?_
  · show (8 : UInt8) &&& 8 ≠ 0
    decide
  · show (34849 : UInt32) < 34850
    decide
  · exact plain_build (by decide) (by decide) rfl
  · nofun
  · rfl
  · rfl
  · rfl

/-- The text of such a plan is short, whatever the three hashes in it are. -/
lemma directPlan_short {source hash target : String}
    (h1 : source.toList.length = 64)
    (h2 : hash.toList.length = 64)
    (h3 : target.toList.length = 64) :
    (Plan.json ⟨1, "factory-raw", source, sampleDevice, sampleHost.who, "",
      [⟨"Manufacturer system", 0, 17843200, hash⟩], some target, none⟩).bytes.length ≤ maxPlan := by
  have b1 := (Json.quoteSize_bounds source).2
  have b2 := (Json.quoteSize_bounds hash).2
  have b3 := (Json.quoteSize_bounds target).2
  -- numerals are kept as lengths: unfolding them while comparing atoms is what `omega` must not do
  have digits {n : Nat} (small : n < 10 ^ 12) : (Nat.toDigits 10 n).length ≤ 12 :=
    (Nat.length_toDigits_le_iff (by decide) (by decide)).mpr small
  have d1 := @digits 1 (by decide)
  have d2 := @digits 8711 (by decide)
  have d3 := @digits 13578 (by decide)
  have d4 := @digits (UInt32.toNat 34850) (by decide)
  have d5 := @digits (UInt32.toNat 0) (by decide)
  have d6 := @digits 17843200 (by decide)
  rw [Json.length_bytes, maxPlan]
  simp (disch := (apply forall_of_all; decide)) only [Plan.json, Device.json, Identity.json, Range.json,
    sampleDevice, sampleHost, Json.size, Json.sizeItems, Json.sizeFields, List.map_cons, List.map_nil,
    List.append_nil, Option.map_some, Option.map_none, Option.getD_some, Option.toList_none,
    Json.quoteSize_plain]
  simp only [String.reduceToList, List.length_cons, List.length_nil]
  generalize (Nat.toDigits 10 _).length = n1 at d1 ⊢
  generalize (Nat.toDigits 10 _).length = n2 at d2 ⊢
  generalize (Nat.toDigits 10 _).length = n3 at d3 ⊢
  generalize (Nat.toDigits 10 _).length = n4 at d4 ⊢
  generalize (Nat.toDigits 10 _).length = n5 at d5 ⊢
  generalize (Nat.toDigits 10 _).length = n6 at d6 ⊢
  omega

/-- The text of the plan is short. -/
lemma samplePlan_short : (samplePlan x).json.bytes.length ≤ maxPlan :=
  directPlan_short (hashBytes_hex _).1 (hashBytes_hex _).1 (hashBytes_hex _).1

/-- The files that the plan names are intact. -/
lemma sample_intact : Intact .reference (plainFiles 34850 x).store "factory-raw" (sampleSource x) :=
  fun restore => absurd restore (by decide)

/-- The image is fit for the eMMC unless it carries the read denial where its GPT would be. -/
lemma sample_fit :
    Fit .reference (plainFiles 34850 x).store "factory-raw" (sampleSource x) sampleHost.who
      (fun _ => 0) ↔ x ≠ 0xcc := by
  have opened := plain_openImage (n := 34850) (x := x) (by decide) (by decide)
  have len : (plainImage 34850 x).length = 34850 * 512 := length_plainImage (by decide)
  have fill {o l : Nat} (h : 512 ≤ o) (h' : o + l ≤ 34850 * 512) :
      slice (plainImage 34850 x) o l = List.replicate l x := slice_fill h h'
  constructor
  · intro fit
    have other : slice (plainImage 34850 x) 512 8 ≠ Gpt.efiPart := by
      rw [fill (by decide) (by decide)]
      exact fill_plain
    obtain ⟨head, _⟩ := fit.image rfl _ _ opened other
    rw [fill (by decide) (by decide)] at head
    exact (requireGptBytes_replicate (by decide)).mp head
  · intro ne
    refine ⟨fun restore => absurd restore (by decide), fun _ image file found _ => ?_⟩
    obtain ⟨rfl, rfl⟩ := Prod.mk.inj (Except.ok.inj (opened.symm.trans found))
    rw [len, fill (by decide) (by decide), fill (by decide) (by decide)]
    exact ⟨(requireGptBytes_replicate (by decide)).mpr ne,
      fun _ => (requireGptBytes_replicate (by decide)).mpr ne⟩

/-- The run that plans the image. -/
lemma sample_runs : ∃ t erases,
    Runs (planInner .reference sampleDevice "factory-raw" (sampleSource x) .directRestore) t
      (.ok (.plan (planId (samplePlan x)) (samplePlan x) none erases)) ∧
    Lts.Path (World.Step sampleHost.who sampleHost.caps) (sampleWorld x) t (plannedWorld x) ∧
    ∀ s, (⟨.stamp, .ok s⟩ : Ev) ∈ t → Archive.Clock s := by
  obtain ⟨erases, run⟩ := sample_planned (x := x)
  obtain ⟨t, runs, path⟩ : ∃ t, Runs (planInner .reference sampleDevice "factory-raw" (sampleSource x)
      .directRestore) t (.ok (.plan (planId (samplePlan x)) (samplePlan x) none erases)) ∧
      Lts.Path (Answers (exact sampleHost)) (sampleWorld x) t (plannedWorld x) := by
    have h := @run_runs _ _ _ _ _ (exact sampleHost)
      (planInner .reference sampleDevice "factory-raw" (sampleSource x) .directRestore) (sampleWorld x)
    rwa [run] at h
  refine ⟨t, erases, runs, exact_path path, ?_⟩
  intro s mem
  rw [answers_stamp path mem]
  exact ⟨by decide, forall_of_all (by decide)⟩

/-- Nothing has been planned before. -/
lemma sample_kept : (sampleWorld x).files.Kept (plannedWorld x).files := by
  have dir : plainFiles 34850 x (.plan .flash "") = none := rfl
  have new : (plainFiles 34850 x).set (.plan .flash "") [] (.plan .flash (planId (samplePlan x))) =
      none := by
    rw [Files.set_other (by simp [planId_ne])]
    rfl
  exact (Files.kept_set dir).trans (Files.kept_set new)

/-- With zeros in them, the image is written to the end. -/
theorem planned_execution_of_zeros :
    ∃ v w, run (exact sampleHost)
      (executeWithGate .reference sampleDevice (planId (samplePlan 0)) true) (plannedWorld 0) =
        (.ok v, w) := by
  obtain ⟨t, erases, runs, path, clock⟩ := sample_runs (x := 0)
  exact (planned_execution_ok_iff runs path clock rfl sample_kept .refl rfl).mpr
    ⟨samplePlan_short, sample_intact, sample_fit.mpr (by decide)⟩

/-- Its successful execution, as a run against the disk. -/
lemma sample_written : ∃ t v d,
    Runs (executeWithGate .reference sampleDevice (planId (samplePlan 0)) true) t (.ok v) ∧
    Lts.Path (Faithful sampleHost.who sampleHost.caps) (fun _ => 0) t d := by
  obtain ⟨_, _, runs, path, clock⟩ := sample_runs (x := 0)
  obtain ⟨still, work, planning⟩ := runs_planInner_plan runs path clock
  obtain ⟨v, w, done⟩ := (planning.execution_iff still sample_kept .refl rfl).mpr
    ⟨samplePlan_short, sample_intact, sample_fit.mpr (by decide)⟩
  obtain ⟨t, written, steps⟩ := exact_runs done
  exact ⟨t, v, w.disk, written, path_disk steps⟩

/-- The disk after the sample holds the image of zeros. -/
theorem execute_final_disk_of_zeros :
    ∃ t d plan st saved work,
      Loaded .reference (planId (samplePlan 0)) t plan ∧
      (⟨.sources, .ok st⟩ : Ev) ∈ t ∧
      saved.head = (bootArea (fun _ => 0) sampleHost.who.sectors).head ∧
      saved.tail = (bootArea (fun _ => 0) sampleHost.who.sectors).tail ∧
      build .reference st plan.operation plan.source sampleHost.who saved true = .ok work ∧
      Written .reference plan work sampleHost.who.sectors d ∧
      Framed plan t (fun _ => 0) d := by
  obtain ⟨t, v, d, runs, path⟩ := sample_written
  exact ⟨t, d, execute_final_disk runs path⟩

/-- Not every plan that planning accepts is executed to the end: an image without GPT may carry the
    bytes of a read denial where its GPT would be. -/
theorem planned_execution_denied :
    ¬ ∀ (X : Crates) (host : Host) (device : Device) (op source id : String) (recovery : Recovery)
        (p : Plan) (firmware : Option String) (erases : Bool) (t : List Ev) (w w' w'' : World),
      Runs (planInner X device op source recovery) t (.ok (.plan id p firmware erases)) →
      Lts.Path (World.Step host.who host.caps) w t w' →
      (∀ s, (⟨.stamp, .ok s⟩ : Ev) ∈ t → Archive.Clock s) →
      w''.disk = w'.disk →
      w.files.Kept w''.files →
      w'.files.Kept w''.files →
      w''.files (.journal .flash id) = none →
      ∃ v w3, run (exact host) (executeWithGate X device id true) w'' = (.ok v, w3) := by
  intro all
  obtain ⟨t, erases, runs, path, clock⟩ := sample_runs (x := 0xcc)
  obtain ⟨still, work, planning⟩ := runs_planInner_plan runs path clock
  have done := all .reference sampleHost sampleDevice "factory-raw" (sampleSource 0xcc) _ _ _ _ erases t
    (sampleWorld 0xcc) (plannedWorld 0xcc) (plannedWorld 0xcc) runs path clock rfl sample_kept .refl rfl
  obtain ⟨_, _, fit⟩ := (planning.execution_iff still sample_kept .refl rfl).mp done
  exact sample_fit.mp fit rfl

end Sample

end Flash

end K11CHaos.Engine
