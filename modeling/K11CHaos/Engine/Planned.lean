import K11CHaos.Engine.Quiet
import K11CHaos.Engine.SavePlan

/-!
# What planning has established

`Planning` lists what a plan was made from: the checks of the device, the boot area, the work that `build`
computed, the recovery backup, and the text that lies under the name of the plan. Every run of
`plan_inner` on a faithful device that ends with a plan is one (`runs_planInner_plan`).
-/

namespace K11CHaos.Engine

open Prog

namespace Archive

/-- A time of the local clock, as file names have it. -/
def Clock (stamp : String) : Prop :=
  stamp.toList.length ≤ 64 ∧ ∀ c ∈ stamp.toList, c.isDigit ∨ c = '-'

/-- What `reserve` calls a backup is a valid name. -/
lemma reservedId_valid {kind stamp : String} {n : Nat} (hk : kind = "FULL" ∨ kind = "BOOT" ∨
    kind = "HAOS") (clock : Clock stamp) (hn : n < 10000) :
    validId (reservedId kind stamp n) = true := by
  obtain ⟨suffix, hs, len, digits⟩ : ∃ suffix : List Char,
      (if n = 0 then "" else "-" ++ toString n).toList = suffix ∧ suffix.length ≤ 5 ∧
        ∀ c ∈ suffix, c.isDigit ∨ c = '-' := by
    refine ⟨_, rfl, ?_⟩
    split_ifs
    · exact ⟨by decide, nofun⟩
    · rw [String.toList_append, Nat.toString_eq_repr, Nat.toList_repr]
      refine ⟨?_, fun c hc => ?_⟩
      · have : (Nat.toDigits 10 n).length ≤ 4 :=
          (Nat.length_toDigits_le_iff (by decide) (by decide)).mpr hn
        rw [List.length_append]
        exact Nat.add_le_add (Nat.le_refl 1) this
      · obtain h | h := List.mem_append.mp hc
        · exact .inr (List.mem_singleton.mp h)
        · exact .inl (Nat.isDigit_of_mem_toDigits (by decide) (by decide) h)
  have parts : (reservedId kind stamp n).toList =
      (kind.toList ++ '-' :: (stamp.toList ++ suffix)) ++ ".k11cbackup".toList := by
    simp only [reservedId, String.toList_append, hs, List.append_assoc, List.cons_append]
    rfl
  have mid : ∀ c ∈ '-' :: (stamp.toList ++ suffix), c.isDigit ∨ c = '-' := by
    intro c hc
    obtain rfl | hc := List.mem_cons.mp hc
    · exact .inr rfl
    · obtain hc | hc := List.mem_append.mp hc
      · exact clock.2 c hc
      · exact digits c hc
  have kinds : kind.toList.length = 4 ∧ (∀ c ∈ kind.toList, c.isAlphanum = true) ∧
      kind.toList.count '.' = 0 := by
    obtain rfl | rfl | rfl := hk
    all_goals exact ⟨by decide, forall_of_all (by decide), by decide⟩
  have dots : (reservedId kind stamp n).toList.count '.' = 1 := by
    rw [parts, List.count_append, List.count_append, kinds.2.2,
      List.count_eq_zero.mpr fun h => ?_]
    · rfl
    · obtain h | h := mid '.' h
      · exact absurd h (by decide)
      · exact absurd h (by decide)
  -- the only dot is that of the extension
  have single : ¬ ['.', '.'] <:+: (reservedId kind stamp n).toList := by
    intro h
    have := h.sublist.count_le '.'
    rw [dots] at this
    exact absurd this (by decide)
  have short : (reservedId kind stamp n).toList.length < 120 := by
    have e : ".k11cbackup".toList.length = 11 := by decide
    have := clock.1
    rw [parts, List.length_append, List.length_append, List.length_cons, List.length_append,
      kinds.1, e]
    omega
  have chars : ((reservedId kind stamp n).toList.all fun c =>
      c.isAlphanum || c == '-' || c == '.' || c == '_') = true := by
    rw [List.all_eq_true, parts]
    intro c hc
    obtain hc | hc := List.mem_append.mp hc
    · obtain hc | hc := List.mem_append.mp hc
      · simp [kinds.2.1 c hc]
      · obtain h | rfl := mid c hc
        · simp [Char.isAlphanum, h]
        · decide
    · have all : ∀ c ∈ ".k11cbackup".toList,
          (c.isAlphanum || c == '-' || c == '.' || c == '_') = true :=
        forall_of_all (by decide)
      exact all c hc
  have first : (["FULL-", "BOOT-", "HAOS-"].any fun p =>
      p.toList.isPrefixOf (reservedId kind stamp n).toList) = true := by
    rw [parts, List.any_eq_true]
    refine ⟨kind ++ "-", by obtain rfl | rfl | rfl := hk <;> decide, ?_⟩
    rw [List.isPrefixOf_iff_prefix]
    refine ⟨(stamp.toList ++ suffix) ++ ".k11cbackup".toList, ?_⟩
    rw [String.toList_append]
    simp
  have last : ".k11cbackup".toList.isSuffixOf (reservedId kind stamp n).toList = true := by
    rw [List.isSuffixOf_iff_suffix, parts]
    exact ⟨_, rfl⟩
  unfold validId
  dsimp only
  rw [decide_eq_true short, decide_eq_true single, chars, first, last]
  rfl

/-- The name that `reserve` finds. -/
lemma runs_reserve_ok {kind t id} (h : Runs (reserve kind) t (.ok id)) :
    ∃ stamp n, (⟨.stamp, .ok stamp⟩ : Ev) ∈ t ∧ n < 10000 ∧ id = reservedId kind stamp n := by
  obtain ⟨_, t1, rfl, h1⟩ := runs_askAs_bind_ok.mp h
  obtain ⟨stamp, t2, rfl, h2⟩ := runs_ask_bind_ok.mp h1
  refine ⟨stamp, ?_⟩
  have found : ∀ (ns : List Nat) {t}, Runs (reserveFrom kind stamp ns) t (.ok id) →
      ∃ n ∈ ns, id = reservedId kind stamp n := by
    intro ns
    induction ns with
    | nil =>
      intro t h
      obtain ⟨_, e⟩ := runs_reject.mp h
      cases e
    | cons n ns ih =>
      intro t h
      obtain ⟨there, t3, rfl, h3⟩ := runs_ask_bind_ok.mp h
      cases there with
      | true =>
        obtain ⟨m, hm, e⟩ := ih h3
        exact ⟨m, .tail _ hm, e⟩
      | false =>
        obtain ⟨made, t4, rfl, h4⟩ := runs_askAs_bind_ok.mp h3
        cases made with
        | true =>
          obtain ⟨_, e⟩ := runs_pure.mp h4
          cases e
          exact ⟨n, .head _, rfl⟩
        | false =>
          obtain ⟨m, hm, e⟩ := ih h4
          exact ⟨m, .tail _ hm, e⟩
  obtain ⟨n, hn, e⟩ := found _ h2
  exact ⟨n, .tail _ (.head _), List.mem_range.mp hn, e⟩

end Archive

/-- The parts of a boot backup have the sizes that their places ask for. -/
lemma readParts_sizes {st : Store} {id : String} {ps bs}
    (h : Workflow.readParts st id ps = .ok bs) :
    bs.map List.length = ps.map fun p => p.2.2.2.toNat * 512 := by
  induction ps generalizing bs with
  | nil =>
    cases h
    rfl
  | cons p ps ih =>
    obtain ⟨_, place, h1⟩ := bind_ok.mp h
    obtain ⟨b, _, h2⟩ := bind_ok.mp h1
    obtain ⟨_, size, h3⟩ := bind_ok.mp h2
    obtain ⟨rest, hr, h4⟩ := bind_ok.mp h3
    cases h4
    simp only [deny_ok, not_or, not_not] at place size
    rw [List.map_cons, List.map_cons, ih hr, size.1, place.2.2.2]

/-- The saved primary has 34 sectors. -/
lemma snapshot_size {X st id identity s} (h : snapshot X st id identity = .ok s) :
    s.primary.length = 34 * 512 := by
  unfold snapshot at h
  split_ifs at h
  · obtain ⟨a, _, h1⟩ := bind_ok.mp h
    obtain ⟨_, _, h2⟩ := bind_ok.mp h1
    obtain ⟨pair, hp, h3⟩ := bind_ok.mp h2
    cases h3
    obtain ⟨_, _, h4⟩ := bind_ok.mp hp
    obtain ⟨_, long, h5⟩ := bind_ok.mp h4
    cases h5
    have long := deny_ok.mp long
    rw [List.length_take, List.length_take]
    omega
  · obtain ⟨_, _, h1⟩ := bind_ok.mp h
    obtain ⟨_, _, h2⟩ := bind_ok.mp h1
    obtain ⟨_, _, h3⟩ := bind_ok.mp h2
    obtain ⟨_, _, h4⟩ := bind_ok.mp h3
    obtain ⟨_, _, h5⟩ := bind_ok.mp h4
    obtain ⟨_, _, h6⟩ := bind_ok.mp h5
    obtain ⟨parts, _, h7⟩ := bind_ok.mp h6
    obtain ⟨_, four, h8⟩ := bind_ok.mp h7
    obtain ⟨bs, hb, h9⟩ := bind_ok.mp h8
    have sizes := readParts_sizes hb
    have four : parts.length = 4 := by simpa using deny_ok.mp four
    match parts, four with
    | [p1, p2, p3, p4], _ =>
      match bs, h9 with
      | [b1, b2, b3, b4], h9 =>
        obtain ⟨_, _, h10⟩ := bind_ok.mp h9
        obtain ⟨_, _, h11⟩ := bind_ok.mp h10
        obtain ⟨_, _, h12⟩ := bind_ok.mp h11
        cases h12
        exact (List.cons.inj sizes).1

/-- No backup has an empty name. -/
lemma snapshot_named {X st id identity s} (h : snapshot X st id identity = .ok s) : id ≠ "" := by
  rintro rfl
  unfold snapshot at h
  rw [if_neg (by decide)] at h
  obtain ⟨_, named, _⟩ := bind_ok.mp h
  exact deny_ok.mp named (by decide)

/-- A saved boot area that has the same bytes is the same. -/
lemma snapshot_eq {s s' : Snapshot} (size : s.primary.length = s'.primary.length)
    (head : s.head = s'.head) (tail : s.tail = s'.tail) : s = s' := by
  obtain ⟨e1, e2⟩ := List.append_inj head size
  cases s
  cases s'
  dsimp only at e1 e2 tail
  rw [e1, e2, tail]

/-- A question that only looks leaves the files alone. -/
lemma Files.Step.observes {f f' : Files} {e : Ev} (h : f.Step e f') (q : e.1.Observes) : f' = f := by
  obtain ⟨o, a⟩ := e
  cases o <;> cases a <;> first | exact h | exact h.1 | exact q.elim

/-- A path of observations changes no file. -/
lemma Files.path_observes {f f' : Files} {t : List Ev} (p : Lts.Path Files.Step f t f')
    (q : ∀ e ∈ t, e.1.Observes) : f' = f := by
  induction p with
  | nil => rfl
  | cons st _ ih =>
    rw [ih fun e he => q e (List.mem_cons_of_mem _ he), st.observes (q _ List.mem_cons_self)]

namespace Flash

/-- The recovery backup of a plan: none or a valid name next to a fingerprint, or a boot backup that
    holds the boot area. -/
inductive Recovered (X : Crates) (f : Files) (who : Identity) (area : Snapshot) :
    String → Option String → Prop where
  | fingerprint {name} :
    name = "" ∨ Archive.validId name = true →
    Recovered X f who area name (some area.digest)
  | legacy {name} :
    snapshot X f.store name who = .ok area →
    Recovered X f who area name none

/-- What a plan was made from. -/
structure Planning (X : Crates) (device : Device) (op source : String) (who : Identity)
    (caps : Vector UInt8 8) (d : Disk) (f f' : Files) (id : String) (p : Plan) (work : Work) :
    Prop where
  guarded : guard device = .ok ()
  emmc : who.storage = "emmc"
  full : fullRead caps
  big : 34849 < who.sectors
  undenied : Undenied (bootArea d who.sectors)
  built : build X f.store op source who (bootArea d who.sectors) false = .ok work
  format : p.format = 1
  operation : p.operation = op
  source : p.source = source
  device : p.device = device
  identity : p.identity = who
  ranges : p.ranges = work.ranges
  recovered : Recovered X f' who (bootArea d who.sectors) p.backup p.targetBootSha256
  named : id = planId p
  stored : f' (.plan .flash id) = some p.json.bytes

/-- The recovery backup that planning settles on, for every environment that tells the time. -/
lemma runs_recoveryBackup_ok {X device op who area recovery t name target} {f f' : Files}
    (h : Runs (recoveryBackup X device op who area recovery) t (.ok (name, target)))
    (path : Lts.Path Files.Step f t f') (size : area.primary.length = 34 * 512)
    (clock : ∀ s, (⟨.stamp, .ok s⟩ : Ev) ∈ t → Archive.Clock s) :
    Recovered X f' who area name target := by
  cases recovery with
  | directRestore =>
    obtain ⟨_, e⟩ := runs_pure.mp h
    cases e
    exact .fingerprint (.inl rfl)
  | skipBackup =>
    obtain ⟨_, e⟩ := runs_pure.mp h
    cases e
    exact .fingerprint (.inl rfl)
  | legacy =>
    obtain ⟨t1, backup, t2, _, h1, rfl⟩ := runs_bind_ok.mp h
    obtain ⟨st, t3, rfl, h2⟩ := runs_ask_bind_ok.mp h1
    obtain ⟨checked, hs, h3⟩ := runs_check_bind_ok.mp h2
    obtain ⟨_, same, h4⟩ := runs_check_bind_ok.mp h3
    obtain ⟨rfl, e⟩ := runs_pure.mp h4
    cases e
    obtain ⟨f1, _, _ | ⟨⟨rfl, sub⟩, _ | _⟩⟩ := path.append_inv
    simp only [deny_ok, not_or, not_not] at same
    have hs' := stable_snapshot (Files.store_kept sub) hs
    have e := snapshot_eq ((snapshot_size hs).trans size.symm) same.1 same.2
    exact .legacy (e ▸ hs')
  | backed id =>
    unfold recoveryBackup at h
    dsimp only at h
    -- a new archive has its name from `reserve`, an old one was opened under its name
    by_cases new : id = ""
    · rw [if_pos new] at h
      obtain ⟨t1, made, t2, hc, h1, rfl⟩ := runs_bind_ok.mp h
      obtain ⟨rfl, e⟩ := runs_pure.mp h1
      cases e
      rw [List.append_nil] at clock
      obtain ⟨_, s1, rfl, g1⟩ := runs_ask_bind_ok.mp hc
      obtain ⟨_, _, g2⟩ := runs_check_bind_ok.mp g1
      obtain ⟨s2, _, s3, _, g3, rfl⟩ := runs_bind_ok.mp g2
      obtain ⟨s4, _, s5, _, g4, rfl⟩ := runs_bind_ok.mp g3
      obtain ⟨_, _, g5⟩ := runs_check_bind_ok.mp g4
      obtain ⟨s6, name, s7, hr, g6, rfl⟩ := runs_bind_ok.mp g5
      obtain ⟨_, s8, rfl, g7⟩ := runs_askAs_bind_ok.mp g6
      obtain ⟨s9, run, s10, _, g8, rfl⟩ := runs_bind_ok.mp g7
      obtain ⟨_, _, g9⟩ := runs_check_bind_ok.mp g8
      obtain ⟨_, e⟩ := runs_pure.mp g9
      cases e
      obtain ⟨stamp, n, hm, hn, e⟩ := Archive.runs_reserve_ok hr
      have told := clock stamp (.tail _ (List.mem_append_right _ (List.mem_append_right _
        (List.mem_append_left _ hm))))
      refine .fingerprint (.inr ?_)
      dsimp only
      rw [e]
      refine Archive.reservedId_valid ?_ told hn
      split_ifs
      · exact .inr (.inl rfl)
      · exact .inl rfl
    · rw [if_neg new] at h
      obtain ⟨_, _, h1⟩ := runs_check_bind_ok.mp h
      obtain ⟨st, t3, rfl, h2⟩ := runs_ask_bind_ok.mp h1
      obtain ⟨a, ha, h3⟩ := runs_check_bind_ok.mp h2
      obtain ⟨_, _, h4⟩ := runs_check_bind_ok.mp h3
      obtain ⟨_, e⟩ := runs_pure.mp h4
      cases e
      obtain ⟨_, valid, _⟩ := bind_ok.mp ha
      exact .fingerprint (.inr (by simpa using deny_ok.mp valid))

/-- A run of planning that ends with a plan. -/
lemma runs_planInner_plan {X device op source recovery t id p firmware erases who caps}
    {w w' : World}
    (h : Runs (planInner X device op source recovery) t (.ok (.plan id p firmware erases)))
    (path : Lts.Path (World.Step who caps) w t w')
    (clock : ∀ s, (⟨.stamp, .ok s⟩ : Ev) ∈ t → Archive.Clock s) :
    w'.disk = w.disk ∧
      ∃ work, Planning X device op source who caps w.disk w.files w'.files id p work := by
  have still := path_quiet (World.path_disk path) (planInner_quiet.runs h)
  refine ⟨still, ?_⟩
  obtain ⟨_, _, h1⟩ := runs_check_bind_ok.mp h
  obtain ⟨_, guarded, h2⟩ := runs_check_bind_ok.mp h1
  obtain ⟨identity, t1, rfl, h3⟩ := runs_ask_bind_ok.mp h2
  obtain ⟨_, emmc, h4⟩ := runs_check_bind_ok.mp h3
  obtain ⟨_, _, t2, hf, h5, rfl⟩ := runs_bind_ok.mp h4
  obtain ⟨caps', rfl, full⟩ := runs_requireFullRead_ok hf
  obtain ⟨_, size, h6⟩ := runs_check_bind_ok.mp h5
  obtain ⟨tc, current, t3, hc, h7, rfl⟩ := runs_bind_ok.mp h6
  obtain ⟨st, t4, rfl, h8⟩ := runs_ask_bind_ok.mp h7
  obtain ⟨work, hb, h9⟩ := runs_check_bind_ok.mp h8
  obtain ⟨_, _, h10⟩ := runs_check_bind_ok.mp h9
  rw [List.singleton_append] at path
  -- the world along the questions: identity, capability, capture, sources
  obtain _ | ⟨st1, path⟩ := path
  obtain ⟨⟨hd, rfl⟩, hfiles⟩ := st1
  obtain _ | ⟨st2, path⟩ := path
  obtain ⟨⟨hd2, rfl⟩, hfiles2⟩ := st2
  obtain ⟨w3, p3, path⟩ := path.append_inv
  have looks : ∀ e ∈ tc, e.1.Observes := capture_observes.runs hc
  have cap := runs_capture_ok hc
  obtain ⟨hd3, harea⟩ := cap.faithful (World.path_disk p3)
  have hfiles3 := Files.path_observes (World.path_files p3) looks
  rw [hd2, hd] at harea
  rw [hfiles2, hfiles] at hfiles3
  obtain _ | ⟨st4, path⟩ := path
  obtain ⟨_, hfiles4, sub⟩ := st4
  rw [hfiles3] at sub hfiles4
  have built := stable_build (Files.store_kept sub) hb
  split_ifs at h10 with none
  · obtain ⟨_, e⟩ := runs_pure.mp h10
    cases e
  have undenied := cap.undenied
  subst harea
  obtain ⟨t5, backup, t6, hr, h11, rfl⟩ := runs_bind_ok.mp h10
  obtain ⟨t7, saved, t8, hs, h12, rfl⟩ := runs_bind_ok.mp h11
  obtain ⟨t9, revision, t10, hv, h13, rfl⟩ := runs_bind_ok.mp h12
  obtain ⟨rfl, e⟩ := runs_pure.mp h13
  cases e
  rw [List.append_nil] at path
  obtain ⟨w5, p5, path⟩ := path.append_inv
  obtain ⟨w6, p6, path⟩ := path.append_inv
  have told : ∀ s, (⟨.stamp, .ok s⟩ : Ev) ∈ t5 → Archive.Clock s := fun s hs => clock s
    (.tail _ (.tail _ (List.mem_append_right tc (.tail _ (List.mem_append_left _ hs)))))
  have recovered := runs_recoveryBackup_ok hr (World.path_files p5) length_readAt told
  obtain ⟨n, attempt, named, _, _, stored, kept, _⟩ := runs_savePlan_ok hs (World.path_files p6)
  -- the revision is only read
  have last : w'.files = w6.files := by
    refine Files.path_observes (World.path_files path) (Only.runs ?_ hv)
    unfold revisionOf
    split
    · exact .bind (only_ask.mpr trivial) fun _ => .bind only_check fun _ => only_pure
    · exact only_pure
    · exact only_pure
  rw [← last] at stored kept
  have big := UInt32.not_le.mp (deny_ok.mp size)
  refine ⟨work, guarded, not_not.mp (deny_ok.mp emmc), full, big, undenied, built, ?_, ?_, ?_, ?_,
    ?_, ?_, ?_, named, stored⟩
  all_goals rw [attempt, retried]
  · split_ifs <;> rfl
  · split_ifs <;> rfl
  · split_ifs <;> rfl
  · split_ifs <;> rfl
  · split_ifs <;> rfl
  · split_ifs <;> rfl
  · have same : ∀ {name target}, Recovered X w5.files identity (bootArea w.disk identity.sectors)
        name target → Recovered X w'.files identity (bootArea w.disk identity.sectors) name target := by
      intro name target hr
      cases hr with
      | fingerprint h => exact .fingerprint h
      | legacy h => exact .legacy (stable_snapshot kept.store h)
    split_ifs <;> exact same recovered

end Flash

end K11CHaos.Engine
