import K11CHaos.Engine.Repair
import K11CHaos.Engine.Transfer

/-!
# Planning a repair

`plan_inner` for `gpt-repair` on a capture that is healthy already. The plan is "no changes" exactly
when the backup of the capture is the one the primary makes, and then planning asks for nothing after
the capture but the sources.
-/

namespace K11CHaos.Engine.Flash
open Prog
open Gpt (samplePair samplePair_layout samplePair_headers)

/-- What planning asks before it looks for work. -/
def planHead (device : Device) (operation : String) (recovery : Recovery) :
    Eng (Identity × Snapshot) := do
  let op := Operation.ofName operation
  check (deny (recovery = .directRestore ∧ op ≠ some .restore ∧ op ≠ some .restoreArchive ∧
      op ≠ some .factoryRaw)
    "COMMAND_NOT_ALLOWED" "Direct restore is only available for restoration")
  check (guard device)
  let identity : Identity ← ask .identity
  check (requireEmmc identity.storage)
  let _ ← requireFullRead
  check (deny (identity.sectors ≤ 34849) "INVALID_CAPACITY" (toString identity.sectors))
  let current ← capture identity
  return (identity, current)

/-- Planning from the capture on. -/
def planRest (X : Crates) (device : Device) (operation source : String) (recovery : Recovery)
    (identity : Identity) (current : Snapshot) : Eng Planned := do
  let st : Store ← ask .sources
  let work ← check (build X st operation source identity current false)
  check (deny (recovery = .skipBackup ∧ work.archive.any fun a => a.metadata.kind != "FULL")
    "BACKUP_KIND" "Wizard restore requires FULL")
  if work.segments = [] then
    return .noChanges (Gpt.check work.primary work.tail identity.sectors)
  else
    planWork X device operation source identity current work recovery

/-- Planning captures first and goes on with what it captured. -/
lemma planInner_split {X device operation source recovery} :
    planInner X device operation source recovery =
      planHead device operation recovery >>= fun seen =>
        planRest X device operation source recovery seen.1 seen.2 := by
  symm
  iterate 7 refine Prog.bind_assoc.trans (congrArg _ (funext fun _ => ?_))
  rfl

/-- Before it looks for work, planning only looks at the device. -/
lemma planHead_observes {device operation recovery} :
    (planHead device operation recovery).Only Op.Observes :=
  .bind only_check fun _ => .bind only_check fun _ => .bind (only_ask.mpr trivial) fun _ =>
    .bind only_check fun _ => .bind requireFullRead_observes fun _ => .bind only_check fun _ =>
    .bind capture_observes fun _ => only_pure

/-- The repair of a pair is no work: `repaired` returns the pair, `build` has no segments, and every
run of planning that captured the pair only looks at the device and reports no changes. -/
structure NoWork (primary tail : Bytes) (sectors : UInt32) : Prop where
  repaired : Gpt.repaired primary tail sectors = .ok (primary, tail)
  build : ∀ X st (identity : Identity) reserved verifySource, identity.sectors = sectors →
    build X st "gpt-repair" "" identity ⟨primary, reserved, tail⟩ verifySource =
      .ok ⟨[], primary, tail, none⟩
  plan : ∀ X device recovery (identity : Identity) reserved t u r, identity.sectors = sectors →
    Runs (planHead device "gpt-repair" recovery) t (.ok (identity, ⟨primary, reserved, tail⟩)) →
    Runs (planInner X device "gpt-repair" "" recovery) (t ++ u) r →
    (∀ e ∈ t ++ u, e.1.Observes) ∧
      ((∃ st, u = [⟨.sources, .ok st⟩] ∧
          r = .ok (.noChanges (Gpt.check primary tail sectors))) ∨
        ∃ e, u = [⟨.sources, .error e⟩] ∧ r = .error e)

section
variable {X : Crates} {st : Store} {identity : Identity} {primary reserved tail : Bytes}

/-- Nothing to write is valid. -/
lemma validateRanges_nil {sectors : UInt32} : validateRanges [] sectors = .ok () := by
  have none : Gpt.sortSpans (([] : List Range).map extent) = [] := Gpt.sortSpans_perm.eq_nil
  unfold validateRanges
  rw [none]
  rfl

/-- No work is built for a pair that is its own repair. -/
lemma build_noWork {verifySource : Bool}
    (same : Gpt.repaired primary tail identity.sectors = .ok (primary, tail)) :
    build X st "gpt-repair" "" identity ⟨primary, reserved, tail⟩ verifySource =
      .ok ⟨[], primary, tail, none⟩ := by
  have op : Operation.ofName "gpt-repair" = some .gptRepair := by decide
  have arm : buildGptRepair "" identity ⟨primary, reserved, tail⟩ =
      .ok ⟨[], primary, tail, none⟩ := by
    unfold buildGptRepair
    refine bind_ok.mpr ⟨(), deny_ok.mpr (not_not.mpr rfl), ?_⟩
    refine bind_ok.mpr ⟨_, same, ?_⟩
    rw [if_neg (not_not.mpr rfl), if_neg (not_not.mpr rfl)]
    rfl
  unfold build buildArm
  rw [op]
  exact bind_ok.mpr ⟨_, arm, bind_ok.mpr ⟨(), validateRanges_nil, rfl⟩⟩

/-- After the capture of such a pair planning asks for the sources and ends. -/
lemma planRest_noWork {device : Device} {recovery : Recovery} {u r}
    (same : Gpt.repaired primary tail identity.sectors = .ok (primary, tail))
    (h : Runs (planRest X device "gpt-repair" "" recovery identity ⟨primary, reserved, tail⟩) u r) :
    (∃ st, u = [⟨.sources, .ok st⟩] ∧
        r = .ok (.noChanges (Gpt.check primary tail identity.sectors))) ∨
      ∃ e, u = [⟨.sources, .error e⟩] ∧ r = .error e := by
  obtain ⟨e, h1, rfl⟩ | ⟨t1, st, t2, h1, h2, rfl⟩ := runs_bind.mp h
  · exact .inr ⟨e, runs_ask.mp h1, rfl⟩
  · obtain rfl := runs_ask.mp h1
    have built := @build_noWork X st identity primary reserved tail false same
    rw [built] at h2
    obtain ⟨e, denied, -⟩ | ⟨t3, _, t4, allowed, ended, rfl⟩ :=
      runs_bind.mp (runs_check_pass.mp h2)
    · -- without an archive there is no kind to refuse
      obtain ⟨-, denied⟩ := runs_check.mp denied
      obtain ⟨⟨-, kind⟩, -⟩ := deny_error.mp denied.symm
      cases kind
    · obtain ⟨rfl, -⟩ := runs_check.mp allowed
      obtain ⟨rfl, rfl⟩ := runs_pure.mp ended
      exact .inl ⟨st, rfl, rfl⟩

end

/-- On a healthy K11C pair the repair is no work exactly when the headers agree in what `check`
leaves open. -/
theorem repair_noWork_iff {primary tail : Bytes} {sectors : UInt32}
    (healthy : (Gpt.check primary tail sectors).healthy = true)
    (layout : Gpt.requireK11c primary tail sectors = .ok ()) :
    NoWork primary tail sectors ↔ Gpt.SameRest primary tail := by
  have k := Gpt.requireK11c_layout.mp layout
  have same : Gpt.repaired primary tail sectors = .ok (primary, tail) ↔
      Gpt.SameRest primary tail := by
    rw [Gpt.repaired_layout k, ← Gpt.backupOf_same k.healthy (UInt32.toNat_lt sectors)]
    simp only [Except.ok.injEq, Prod.mk.injEq, true_and]
  refine ⟨fun h => same.mp h.repaired, fun rest => ?_⟩
  have kept := same.mpr rest
  refine ⟨kept, fun X st identity reserved verifySource e => ?_, ?_⟩
  · subst e
    exact build_noWork kept
  · intro X device recovery identity reserved t u r e seen h
    subst e
    rw [planInner_split] at h
    have ended := planRest_noWork kept (seen.resume h)
    refine ⟨fun ev hev => ?_, ended⟩
    obtain first | last := List.mem_append.mp hev
    · exact planHead_observes.runs seen ev first
    · obtain ⟨st, rfl, -⟩ | ⟨e, rfl, -⟩ := ended
      · obtain rfl := List.mem_singleton.mp last
        trivial
      · obtain rfl := List.mem_singleton.mp last
        trivial

/-- A capture whose backup header has a byte behind its size set. -/
def markedTail : Bytes :=
  samplePair.2.take 16384 ++ put (samplePair.2.drop 16384) 100 [1]

/-- The headers of the sample have one size and the same bytes behind it. -/
lemma samplePair_rest : Gpt.SameRest samplePair.1 samplePair.2 := by
  obtain ⟨front, back⟩ := samplePair_headers
  rw [Gpt.SameRest, front, back, Gpt.sealed_rest.1, Gpt.sealed_rest.1, Gpt.sealed_rest.2,
    Gpt.sealed_rest.2]
  exact ⟨rfl, rfl⟩

/-- The marked tail keeps the layout. -/
lemma markedTail_layout : Gpt.K11c samplePair.1 markedTail 34900 := by
  refine samplePair_layout.beyond ?_ (by decide)
  rw [samplePair_headers.2, Gpt.u32at, Gpt.sealed_rest.1, fromLe_toLe_of_lt (by decide)]
  decide

/-- The sample pair is no work for the repair. -/
theorem samplePair_noWork : NoWork samplePair.1 samplePair.2 34900 :=
  (repair_noWork_iff (Gpt.healthy_iff.mpr samplePair_layout.healthy)
    (Gpt.requireK11c_layout.mpr samplePair_layout)).mpr samplePair_rest

/-- A healthy K11C pair whose backup the repair rewrites. -/
theorem markedTail_rewritten :
    (Gpt.check samplePair.1 markedTail 34900).healthy = true ∧
      Gpt.requireK11c samplePair.1 markedTail 34900 = .ok () ∧
      Gpt.repaired samplePair.1 markedTail 34900 = .ok samplePair ∧ samplePair.2 ≠ markedTail ∧
      ¬ NoWork samplePair.1 markedTail 34900 := by
  have backup : Gpt.backupOf samplePair.1 34899 = samplePair.2 :=
    (Gpt.backupOf_same samplePair_layout.healthy (by decide)).mpr samplePair_rest
  have rebuilt : Gpt.repaired samplePair.1 markedTail 34900 = .ok samplePair := by
    have done := @Gpt.repaired_layout samplePair.1 markedTail 34900 markedTail_layout
    have last : UInt32.toNat 34900 - 1 = 34899 := rfl
    rwa [last, backup] at done
  have differ : samplePair.2 ≠ markedTail := by
    intro same
    have len : (samplePair.2.take 16384).length = 16384 := by
      rw [List.length_take, samplePair_layout.healthy.sizeTail]
      rfl
    have len' : (samplePair.2.drop 16384).length = 512 := by
      rw [List.length_drop, samplePair_layout.healthy.sizeTail]
    have marked : slice (markedTail.drop 16384) 100 1 = [1] := by
      rw [markedTail, List.drop_left' len]
      exact slice_put_same (x := [1]) (by rw [len']; decide)
    have plain : slice (samplePair.2.drop 16384) 100 1 = zeros 1 := by
      rw [samplePair_headers.2, ← @slice_slice _ 92 420 8 _ (by decide),
        Gpt.sealed_rest.2, slice_zeros (by decide)]
    rw [← same, plain, zeros] at marked
    exact absurd marked (by decide)
  refine ⟨Gpt.healthy_iff.mpr markedTail_layout.healthy,
    Gpt.requireK11c_layout.mpr markedTail_layout, rebuilt, differ, fun none => ?_⟩
  have kept := none.repaired
  rw [rebuilt] at kept
  exact differ (congrArg Prod.snd (Except.ok.inj kept))

end K11CHaos.Engine.Flash
