import K11CHaos.Engine.Build

/-!
# Results that more files do not change

A result that was computed from some files stays the same when other files are there as well
(`Stable`): what `build` and `snapshot` have accepted, they accept again as long as the files that they
have read are unchanged. One lemma for each function that opens files, along its own steps.
-/

namespace K11CHaos.Engine

/-- What can be read in one store can be read in the other, with the same bytes. -/
def Store.Kept (st st' : Store) : Prop :=
  ∀ ⦃p b⦄, st p = .ok b → st' p = .ok b

/-- A result that more files do not change. -/
def Stable {α : Type} (f : Store → Result α) : Prop :=
  ∀ ⦃st st' a⦄, st.Kept st' → f st = .ok a → f st' = .ok a

namespace Stable

variable {α β : Type}

/-- A result that looks at no file. -/
lemma const {r : Result α} : Stable fun _ => r :=
  fun _ _ _ _ h => h

/-- Two stable steps, one after the other. -/
lemma bind {f : Store → Result α} {g : α → Store → Result β} (hf : Stable f)
    (hg : ∀ a, Stable (g a)) : Stable fun st => f st >>= fun a => g a st := by
  intro st st' b k h
  obtain ⟨a, ha, hb⟩ := bind_ok.mp h
  exact bind_ok.mpr ⟨a, hf k ha, hg a k hb⟩

/-- What was read once is read again. -/
lemma file {code p} : Stable fun st => st.file code p := by
  intro st st' b k h
  have e := k (Flash.file_ok h)
  simp only [Store.file, e, Except.mapError]

/-- Both arms of a test on something else than the files. -/
lemma ite {c : Prop} [Decidable c] {f g : Store → Result α} (hf : Stable f) (hg : Stable g) :
    Stable fun st => if c then f st else g st := by
  split_ifs
  · exact hf
  · exact hg

end Stable

/-- A read with a limit. -/
lemma stable_bounded {p max} : Stable fun st => st.bounded p max :=
  .bind .file fun _ => .const

namespace Components

/-- A receipt that parses, parses again. -/
lemma stable_readJson {p} : Stable fun st => readJson st p :=
  .bind .file fun _ => .const

/-- The boot bytes of a prepared image. -/
lemma stable_bootBytes {X id} : Stable fun st => bootBytes X st id :=
  .bind .const fun _ => .bind stable_readJson fun _ => .bind .const fun _ => .bind .const fun _ =>
    .bind .const fun _ => .bind .file fun _ => .const

/-- The components that a receipt names. -/
lemma stable_selection {X id} : Stable fun st => selection X st id :=
  .bind .const fun _ => .bind stable_readJson fun _ => .const

end Components

/-- The bundled U-Boot firmware. -/
lemma stable_firmware : Stable firmware :=
  .bind stable_bounded fun _ => .const

namespace Archive

/-- The metadata of an archive. -/
lemma stable_openMetadata {X id} : Stable fun st => openMetadata X st id :=
  .bind .const fun _ => .ite
    (.bind (.bind .file fun _ => .const) fun _ => .bind .file fun _ => .const)
    (.bind .file fun _ => .const)

/-- An archive whose digest was verified. -/
lemma stable_openVerified {X id} : Stable fun st => openVerified X st id :=
  .bind stable_openMetadata fun _ => .const

end Archive

namespace Workflow

/-- The parts of an old backup directory. -/
lemma stable_readParts {id ps} : Stable fun st => readParts st id ps := by
  induction ps with
  | nil => exact .const
  | cons p ps ih =>
    exact .bind .const fun _ => .bind stable_bounded fun _ => .bind .const fun _ =>
      .bind ih fun _ => .const

/-- The boot area that a backup directory holds. -/
lemma stable_snapshotBackup {X id identity} : Stable fun st => snapshotBackup X st id identity :=
  .bind .const fun _ => .bind stable_bounded fun _ => .bind .const fun _ => .bind .const fun _ =>
    .bind .const fun _ => .bind .const fun _ => .bind .const fun _ => .bind .const fun _ =>
    .bind stable_readParts fun _ => .const

end Workflow

/-- The boot area of a backup, whichever kind it is. -/
lemma stable_snapshot {X id identity} : Stable fun st => snapshot X st id identity :=
  .ite (.bind Archive.stable_openVerified fun _ => .const) Workflow.stable_snapshotBackup

/-- A manufacturer image and its receipt. -/
lemma Factory.stable_openImage {X id} : Stable fun st => openImage X st id :=
  .bind .const fun _ => .bind .file fun _ => .bind .const fun _ => .bind .const fun _ =>
    .bind .file fun _ => .const

namespace Flash

/-- The arm of `install`. -/
lemma stable_buildInstall {X source identity} : Stable fun st => buildInstall X st source identity :=
  .bind .const fun _ => .bind .file fun _ => .bind .const fun _ => .bind .const fun _ =>
    .bind .const fun _ => .bind .const fun _ => .bind .const fun _ =>
    .bind Components.stable_selection fun _ => .bind Components.stable_bootBytes fun _ => .const

/-- The arm of `uboot`. -/
lemma stable_buildUboot {X source identity current} :
    Stable fun st => buildUboot X st source identity current :=
  .bind .const fun _ => .bind (.ite stable_firmware Components.stable_bootBytes) fun _ => .const

/-- The arm of `restore` for an archive. -/
lemma stable_buildRestoreArchive {X source identity current verifySource} :
    Stable fun st => buildRestoreArchive X st source identity current verifySource :=
  .bind (.ite Archive.stable_openVerified Archive.stable_openMetadata) fun _ => .const

/-- The arm of `restore`, whichever kind of backup it is given. -/
lemma stable_buildRestore {X source identity current} :
    Stable fun st => buildRestore X st source identity current :=
  .bind stable_snapshot fun _ => .const

/-- The arm of `factory-raw`. -/
lemma stable_buildFactoryRaw {X source identity} :
    Stable fun st => buildFactoryRaw X st source identity :=
  .bind Factory.stable_openImage fun _ => .const

/-- Planned works are planned again, whatever files were added. -/
lemma stable_build {X op source identity current verifySource} :
    Stable fun st => build X st op source identity current verifySource := by
  refine .bind (?_ : Stable fun st => buildArm X st op source identity current verifySource)
    fun _ => .const
  unfold buildArm
  cases Operation.ofName op with
  | none => exact .const
  | some o =>
    cases o with
    | install => exact stable_buildInstall
    | uboot => exact stable_buildUboot
    | gptRepair => exact .const
    | restore => exact stable_buildRestore
    | restoreArchive => exact stable_buildRestoreArchive
    | factoryRaw => exact stable_buildFactoryRaw

end Flash

end K11CHaos.Engine
