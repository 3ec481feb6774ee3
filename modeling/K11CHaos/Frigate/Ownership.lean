import K11CHaos.Lib.Hoare
import K11CHaos.Frigate.Preparation

/-!
# Files of others

A pass writes into its target only after a collision check that every file of the payload passes, and
writes only what that check has found to be missing, to be its own or to lack its execute bits
(`preparation_owned`). The container is a flat file system (`Flat`): regular files by their names in an
archive. It is not part of the state. What a check guarantees holds of every file system that its
readings show (`Shows`), so of the one that is there from the check to the copy.
-/

namespace K11CHaos.Frigate
open Prog

/-- A regular file of a container. -/
structure File where
  data : Bytes
  mode : Nat
deriving DecidableEq

/-- The regular files of a container. -/
abbrev Flat :=
  String → Option File

/-- The name of a path in an archive. -/
def nameOf (path : String) : String :=
  String.ofList (path.toList.dropWhile (· == '/'))

/-- The mode of a file in an archive of `put`. -/
def modeOf (path : String) : Nat :=
  if executable path then 0o755 else 0o644

/-- What a reading of a container says of its files, if Docker's answer can be decoded. -/
def Shows (c : Decoders) (cid : String) (fs : Flat) : Event → Prop
  | ⟨.archiveGet id path, .ok r⟩ =>
    id = cid → ∀ x, fileOf c r = .ok x → x = (fs (nameOf path)).map File.data
  | ⟨.archiveHead id path, .ok r⟩ =>
    id = cid → ∀ f, fs (nameOf path) = some f → ∀ x, statOf c r = .ok x →
      ∃ stat, x = some stat ∧ stat.item "mode" = .ok (.int f.mode)
  | _ => True

/-- A file system is what all readings of a trace say. -/
def Shown (c : Decoders) (cid : String) (fs : Flat) (t : List Event) : Prop :=
  ∀ e ∈ t, Shows c cid fs e

/-- The digest of a file is the one that the installed manifest records for its path. -/
def Recorded (c : Decoders) (fs : Flat) (path : String) (data : Bytes) : Prop :=
  ∃ previous hash, previousOf c ((fs (nameOf manifest)).map File.data) = .ok previous ∧
    previous.get path .null = .ok hash ∧ hash.isStr (digest data) = true

/-- A path may be written: what is there is the file to write or one of an earlier payload. -/
def Writable (c : Decoders) (fs : Flat) (path : String) (data : Bytes) : Prop :=
  ∀ f, fs (nameOf path) = some f → f.data = data ∨ Recorded c fs path f.data

/-- Why a file is copied. -/
inductive Owned (c : Decoders) (fs : Flat) (path : String) (data : Bytes) : Prop where
  | absent (none : fs (nameOf path) = none)
  | execute {f : File} (some : fs (nameOf path) = some f) (same : f.data = data)
    (program : executable path = true) (mode : (Value.int f.mode).executes = .ok false)
  | recorded {f : File} (some : fs (nameOf path) = some f) (recorded : Recorded c fs path f.data)

/-! ## The archive of a copy -/

/-- The file of an entry. -/
def Entry.file? : Entry → Option (String × File)
  | .directory _ _ => none
  | .file name mode data => some (name, ⟨data, mode⟩)

/-- The last file of an archive with a name. -/
def lastFile (es : List Entry) (name : String) : Option File :=
  (es.filterMap Entry.file?).reverse.lookup name

/-- What the extraction of an archive may make of the files of a container. A directory of the archive
    is no file, and neither replaces the other. An extraction that fails may have stopped anywhere. -/
structure Extracts (fs : Flat) (es : List Entry) (answer : Except Raised Response) (fs' : Flat) :
    Prop where
  others : ∀ name, lastFile es name = none → fs' name = fs name
  done : ∀ r, answer = .ok r → r.status = 200 →
    ∀ name f, lastFile es name = some f → fs' name = some f

/-- What is found is in the list. -/
lemma mem_of_lookup {β : Type} {xs : List (String × β)} {k : String} {b : β}
    (h : xs.lookup k = some b) : (k, b) ∈ xs := by
  obtain ⟨l, r, rfl, _⟩ := List.lookup_eq_some_iff.mp h
  exact List.mem_append_right l (.head r)

/-- The files of the archive of `put`. -/
lemma entriesFrom_files {seen : List String} {files : Files} :
    (entriesFrom seen files).filterMap Entry.file? =
      files.map fun f => (nameOf f.1, ⟨f.2, modeOf f.1⟩) := by
  induction files generalizing seen with
  | nil => rfl
  | cons f files ih =>
    obtain ⟨path, data⟩ := f
    have dirs : ∀ names : List String,
        (names.map fun name => Entry.directory name 0o755).filterMap Entry.file? = [] := by
      intro names
      induction names with
      | nil => rfl
      | cons name names ih => exact ih
    rw [entriesFrom, List.filterMap_append, dirs, List.nil_append, List.filterMap_cons, ih]
    rfl

/-- The files of an archive are the files under their names. -/
lemma entries_files {files : Files} {x : String × File} :
    x ∈ (entries files).filterMap Entry.file? ↔
      ∃ f ∈ files, (nameOf f.1, (⟨f.2, modeOf f.1⟩ : File)) = x := by
  rw [entries, entriesFrom_files, List.mem_map]
  simp only [List.mem_mergeSort]

/-- A name in the archive is one of a file to copy. -/
lemma lastFile_some {files : Files} {name : String} {f : File}
    (h : lastFile (entries files) name = some f) :
    ∃ g ∈ files, nameOf g.1 = name ∧ f = ⟨g.2, modeOf g.1⟩ := by
  have mem : (name, f) ∈ (entries files).filterMap Entry.file? :=
    List.mem_reverse.mp (mem_of_lookup h)
  obtain ⟨g, hg, eq⟩ := entries_files.mp mem
  obtain ⟨rfl, rfl⟩ := Prod.mk.inj eq
  exact ⟨g, hg, rfl, rfl⟩

/-- Every file to copy is in the archive. -/
lemma lastFile_none {files : Files} {name : String} (h : lastFile (entries files) name = none) :
    ∀ f ∈ files, nameOf f.1 ≠ name := by
  intro f hf eq
  have mem := entries_files.mpr ⟨f, hf, rfl⟩
  have none := List.lookup_eq_none_iff.mp h _ (List.mem_reverse.mpr mem)
  simp [eq] at none

/-! ## What a collision check guarantees -/

/-- What holds of a container that a collision check has seen. -/
structure Respects (c : Decoders) (fs : Flat) (files pending : Files) : Prop where
  writable : ∀ f ∈ files, f.1 ≠ manifest → Writable c fs f.1 f.2
  owned : ∀ f ∈ pending, f.1 ≠ manifest → f ∈ files ∧ Owned c fs f.1 f.2
  /-- A copy leaves every other name alone. -/
  frame : ∀ answer fs', Extracts fs (entries pending) answer fs' →
    ∀ name, (∀ f ∈ pending, nameOf f.1 ≠ name) → fs' name = fs name
  /-- A copy that succeeds has written files of the payload. -/
  copied : ∀ r fs', Extracts fs (entries pending) (.ok r) fs' → r.status = 200 →
    ∀ f ∈ pending, ∃ g ∈ pending, nameOf g.1 = nameOf f.1 ∧
      fs' (nameOf f.1) = some ⟨g.2, modeOf g.1⟩

/-- The frame of a copy. -/
lemma extracts_frame {fs fs' : Flat} {files : Files} {answer}
    (h : Extracts fs (entries files) answer fs') {name : String}
    (other : ∀ f ∈ files, nameOf f.1 ≠ name) : fs' name = fs name := by
  apply h.others
  cases last : lastFile (entries files) name with
  | none => rfl
  | some f =>
    obtain ⟨g, hg, eq, _⟩ := lastFile_some last
    exact absurd eq (other g hg)

/-- The files of a copy. -/
lemma extracts_copied {fs fs' : Flat} {files : Files} {r : Response}
    (h : Extracts fs (entries files) (.ok r) fs')
    (ok : r.status = 200) {f : String × Bytes}
    (hf : f ∈ files) : ∃ g ∈ files, nameOf g.1 = nameOf f.1 ∧
      fs' (nameOf f.1) = some ⟨g.2, modeOf g.1⟩ := by
  cases last : lastFile (entries files) (nameOf f.1) with
  | none => exact absurd rfl (lastFile_none last f hf)
  | some x =>
    obtain ⟨g, hg, eq, rfl⟩ := lastFile_some last
    exact ⟨g, hg, eq, h.done r rfl ok _ _ last⟩

section Check

variable {c : Decoders} {cid : String} {fs : Flat} {files pending : Files} {previous : Value}
variable {t u : List Event}

/-- What a whole trace shows, its beginning shows. -/
lemma Shown.left (h : Shown c cid fs (t ++ u)) : Shown c cid fs t :=
  fun e he => h e (List.mem_append_left u he)

/-- What a whole trace shows, its end shows. -/
lemma Shown.right (h : Shown c cid fs (t ++ u)) : Shown c cid fs u :=
  fun e he => h e (List.mem_append_right t he)

/-- What `read_file` returns is the file. -/
lemma readFile_shown {path : String} {x : Option Bytes}
    (h : Runs (readFile c cid path) t (.ok x))
    (shown : Shown c cid fs t) : x = (fs (nameOf path)).map File.data := by
  obtain ⟨r, rfl, eq⟩ := runs_decoded h
  exact shown _ (List.mem_singleton_self _) rfl x eq

/-- What `path_stat` returns describes the file. -/
lemma pathStat_shown {path : String} {x : Option Value} {f : File}
    (h : Runs (pathStat c cid path) t (.ok x))
    (shown : Shown c cid fs t)
    (hf : fs (nameOf path) = some f) :
    ∃ stat, x = some stat ∧ stat.item "mode" = .ok (.int f.mode) := by
  obtain ⟨r, rfl, eq⟩ := runs_decoded h
  exact shown _ (List.mem_singleton_self _) rfl f hf x eq

/-- The mode of a file that is there is looked at when it is a program. -/
lemma checkMode_shown {path : String} {f : File}
    (h : Runs (checkMode c cid path (some f.data)) t (.ok false))
    (shown : Shown c cid fs t)
    (hf : fs (nameOf path) = some f) :
    executable path = true ∧ (Value.int f.mode).executes = .ok false := by
  unfold checkMode at h
  split_ifs at h with program
  · obtain ⟨t1, x, t2, stat, ok, rfl⟩ := runs_bind_ok.mp h
    obtain ⟨_, eq⟩ := runs_ofExcept.mp ok
    obtain ⟨v, rfl, mode⟩ := pathStat_shown stat shown.left hf
    refine ⟨by simpa using program, ?_⟩
    rw [modeOk, mode] at eq
    exact eq.symm
  · obtain ⟨_, eq⟩ := runs_pure.mp h
    cases eq

/-- A file that may be replaced may be written. -/
lemma replaceable_writable {path : String} {data : Bytes}
    (manifested : previousOf c ((fs (nameOf manifest)).map File.data) = .ok previous)
    (h : replaceable previous path data ((fs (nameOf path)).map File.data) = .ok true) :
    Writable c fs path data := by
  intro f hf
  rw [hf] at h
  simp only [Option.map_some, replaceable] at h
  split_ifs at h with same
  · exact .inl same
  · cases get : previous.get path .null with
    | error e =>
      rw [get] at h
      cases h
    | ok hash =>
      rw [get] at h
      exact .inr ⟨previous, hash, manifested, get, Except.ok.inj h⟩

/-- What the loop over the files guarantees. -/
lemma pendingFiles_owned (h : Runs (pendingFiles c cid previous files) t (.ok pending))
    (shown : Shown c cid fs t)
    (manifested : previousOf c ((fs (nameOf manifest)).map File.data) = .ok previous) :
    (∀ f ∈ files, f.1 ≠ manifest → Writable c fs f.1 f.2) ∧
      ∀ f ∈ pending, f ∈ files ∧ f.1 ≠ manifest ∧ Owned c fs f.1 f.2 := by
  induction files generalizing t pending with
  | nil =>
    obtain ⟨_, eq⟩ := runs_pure.mp h
    cases eq
    exact ⟨nofun, nofun⟩
  | cons f files ih =>
    obtain ⟨path, data⟩ := f
    unfold pendingFiles at h
    split_ifs at h with isManifest
    · obtain ⟨writable, owned⟩ := ih h shown
      refine ⟨?_, ?_⟩
      · rintro f (_ | ⟨_, hf⟩) ne
        · exact absurd isManifest ne
        · exact writable f hf ne
      · intro f hf
        obtain ⟨mem, rest⟩ := owned f hf
        exact ⟨.tail _ mem, rest⟩
    · obtain ⟨t1, existing, t2, read, h1, rfl⟩ := runs_bind_ok.mp h
      obtain ⟨t3, ok, t4, replaced, h2, rfl⟩ := runs_bind_ok.mp h1
      obtain ⟨t5, _, t6, required, h3, rfl⟩ := runs_bind_ok.mp h2
      obtain ⟨t7, mode, t8, checked, h4, rfl⟩ := runs_bind_ok.mp h3
      obtain ⟨t9, rest, t10, looped, h5, rfl⟩ := runs_bind_ok.mp h4
      obtain ⟨_, eq⟩ := runs_pure.mp h5
      obtain rfl := readFile_shown read shown.left
      obtain ⟨_, replaced⟩ := runs_ofExcept.mp replaced
      have modes := shown.right.right.right.left
      obtain ⟨writable, owned⟩ := ih looped shown.right.right.right.right.left
      have passes : ok = true := by
        cases ok with
        | false => cases required
        | true => rfl
      subst passes
      have mine := replaceable_writable manifested replaced.symm
      have copied : ∀ f ∈ rest, f ∈ (path, data) :: files ∧ f.1 ≠ manifest ∧ Owned c fs f.1 f.2 := by
        intro f hf
        obtain ⟨mem, rest⟩ := owned f hf
        exact ⟨.tail _ mem, rest⟩
      refine ⟨?_, ?_⟩
      · rintro f (_ | ⟨_, hf⟩) ne
        · exact mine
        · exact writable f hf ne
      · obtain rfl := Except.ok.inj eq
        split_ifs with differs
        · rintro f (_ | ⟨_, hf⟩)
          · refine ⟨.head _, isManifest, ?_⟩
            -- the file is absent, has the bytes but not the mode, or is of an earlier payload
            cases there : fs (nameOf path) with
            | none => exact .absent there
            | some g =>
              rw [there] at differs checked
              obtain same | recorded := mine g there
              · obtain other | rfl := differs
                · exact absurd (congrArg some same) other
                · obtain ⟨program, bits⟩ := checkMode_shown checked modes there
                  exact .execute there same program bits
              · exact .recorded there recorded
          · exact copied f hf
        · exact copied

/-- What `check_collisions` guarantees. -/
theorem checkCollisions_respects (h : Runs (checkCollisions c cid files) t (.ok pending))
    (shown : Shown c cid fs t) : Respects c fs files pending := by
  obtain ⟨t1, _, t2, _, h1, rfl⟩ := runs_bind_ok.mp h
  obtain ⟨t3, previousBytes, t4, read, h2, rfl⟩ := runs_bind_ok.mp h1
  obtain ⟨t5, previous, t6, loaded, h3, rfl⟩ := runs_bind_ok.mp h2
  obtain ⟨t7, rest, t8, looped, h4, rfl⟩ := runs_bind_ok.mp h3
  obtain ⟨t9, data, t10, _, h5, rfl⟩ := runs_bind_ok.mp h4
  obtain ⟨_, eq⟩ := runs_pure.mp h5
  obtain rfl := readFile_shown read shown.right.left
  obtain ⟨_, loaded⟩ := runs_ofExcept.mp loaded
  obtain ⟨writable, owned⟩ := pendingFiles_owned looped shown.right.right.right.left loaded.symm
  refine ⟨writable, ?_, ?_, ?_⟩
  · intro f hf ne
    have mem : f ∈ rest := by
      obtain rfl := Except.ok.inj eq
      split_ifs at hf
      · obtain hf | hf := List.mem_append.mp hf
        · exact hf
        · obtain rfl := List.mem_singleton.mp hf
          exact absurd rfl ne
      · exact hf
    obtain ⟨inFiles, _, why⟩ := owned f mem
    exact ⟨inFiles, why⟩
  · intro answer fs' copy name other
    exact extracts_frame copy other
  · intro r fs' copy ok f hf
    exact extracts_copied copy ok hf

end Check

/-! ## Copies of a pass -/

/-- The requests that stop a container or copy files into it. -/
def Touches (cid : String) : Op → Prop
  | .stop id => id = cid
  | .archivePut id _ _ => id = cid
  | _ => False

/-- A collision check of a container: it has passed, so what its readings show may be written. -/
def Checks (c : Decoders) (cid : String) (files : Files) (t : List Event) (pending : Files) : Prop :=
  Runs (checkCollisions c cid files) t (.ok pending) ∧
    ∀ fs, Shown c cid fs t → Respects c fs files pending

/-- What precedes a request that touches the target of a pass. The first check of the pass has passed.
The last one is followed by the stop alone, and a copy is the archive of what it has found. -/
structure Vetted (c : Decoders) (cid : String) (files : Files) (t : List Event) (o : Op) : Prop where
  first : ∃ key q b pending, t = ⟨.has key, .ok false⟩ :: (q ++ b) ∧ Checks c cid files q pending
  last : ∃ p q s pending, t = p ++ (q ++ s) ∧ Checks c cid files q pending ∧
    (∀ e ∈ s, e.1 = .stop cid) ∧ (o = .stop cid ∨ o = .archivePut cid pending (entries pending))

/-- Docker creates no container with the id of the target. -/
def Distinct (c : Decoders) (cid : String) : Unit → Event → Unit → Prop
  | _, ⟨.create _ _, .ok r⟩, _ => ∀ created id, accept c r "POST /containers/create" = .ok created →
      created.item "Id" = .ok id → c.show id ≠ cid
  | _, _, _ => True

/-- A fresh container is another one each time. -/
lemma Fresh.distinct {c : Decoders} {cid : String} {t : List Event} (h : Fresh c cid t) :
    Lts.Path (Distinct c cid) () t () := by
  induction t with
  | nil => exact .nil
  | cons e t ih =>
    refine @Lts.Path.cons _ _ _ _ _ () _ _ ?_ (ih fun name config r created id mem => ?_)
    · unfold Distinct
      split
      · exact fun created id => h _ _ _ created id (.head t)
      · trivial
    · exact h name config r created id (.tail e mem)

section Guards

variable {c : Decoders} {info : Value} {slug cid key : String} {files pending : Files}
variable {past : List Event}

/-- The guard of a request that touches the target. -/
def Guard (c : Decoders) (cid : String) (files : Files) (t : List Event) (_ : Unit) (o : Op) : Prop :=
  Touches cid o → Vetted c cid files t o

/-- What does not touch the target needs no guard. -/
lemma unguarded {α : Type} {p : Op → Prop} {m : Ctl α} (only : m.Only p)
    (h : ∀ o, p o → ¬ Touches cid o) : m.Only fun o => ∀ t s, Guard c cid files t s o :=
  only.mono fun o ho _ _ touches => absurd touches (h o ho)

/-- Reading touches nothing. -/
lemma Reads.touches_not : ∀ o, Reads o → ¬ Touches cid o := by
  intro o h
  cases o with
  | archiveGet | archiveHead => exact id
  | _ => cases h

/-- A probe touches another container only. -/
lemma Probes.touches_not {id : String} (ne : id ≠ cid) : ∀ o, Probes id o → ¬ Touches cid o := by
  intro o ho touches
  cases o with
  | archivePut i _ _ => exact ne (Eq.trans (Eq.symm ho) touches)
  | stop => exact ho
  | _ => exact touches

/-- The first check of the pass is in the trace. -/
def Begun (c : Decoders) (cid : String) (files : Files) (t : List Event) : Prop :=
  ∃ key q b pending, t = ⟨.has key, .ok false⟩ :: (q ++ b) ∧ Checks c cid files q pending

/-- What has begun has begun in a longer trace. -/
lemma Begun.append {t u : List Event} (h : Begun c cid files t) : Begun c cid files (t ++ u) := by
  obtain ⟨key, q, b, pending, rfl, checks⟩ := h
  exact ⟨key, q, b ++ u, pending, by simp, checks⟩

/-- The collisions were checked against what was read. -/
lemma checks_of {t : List Event} (h : Runs (checkCollisions c cid files) t (.ok pending)) :
    Checks c cid files t pending :=
  ⟨h, fun _ shown => checkCollisions_respects h shown⟩

/-- A copy of what the last check has found. -/
lemma guards_putFiles {q s : List Event} (begun : Begun c cid files (past ++ (q ++ s)))
    (checks : Checks c cid files q pending)
    (stops : ∀ e ∈ s, e.1 = .stop cid) :
    Guards (Distinct c cid) (Guard c cid files) (putFiles cid pending) (past ++ (q ++ s)) () := by
  apply Guards.bind
  · exact ⟨fun _ => ⟨begun, past, q, s, pending, rfl, checks, stops, .inr rfl⟩,
      fun a _ _ => by cases a <;> trivial⟩
  · exact yields_runs
  · intro t r _ _
    exact (unguarded (p := fun _ => False) only_require fun _ h => h.elim).guards

/-- A preflight touches the container that it creates. -/
lemma guards_preflight {image : Value} :
    Guards (Distinct c cid) (Guard c cid files) (preflight c image files) past () := by
  have free : ∀ {o}, ¬ Touches cid o → ∀ t s, Guard c cid files t s o :=
    fun h _ _ touches => absurd touches h
  apply Only.guards_bind (only_ask.mpr (free id))
  intro t hex _ _
  apply Guards.bind
  · exact (Only.bind (only_ask.mpr (free id)) fun _ => only_ofExcept).guards
  · show Yields _ (create c _ _) _ fun t created _ => ∀ id, created.item "Id" = .ok id → c.show id ≠ cid
    apply ensures_iff.mpr
    rintro t1 _ _ run path created rfl id item
    obtain ⟨r, rfl, accepted⟩ := runs_decoded run
    cases path with
    | cons distinct _ => exact distinct created id accepted item
  · intro t1 created _ distinct
    apply Only.guards_bind only_ofExcept
    intro t2 id _ run
    obtain ⟨_, item⟩ := runs_ofExcept.mp run
    have ne := distinct id item.symm
    apply Only.guards_bind (unguarded probe_only (Probes.touches_not ne)).attempt
    intro t3 r _ _
    apply Only.guards
    refine Only.bind (Only.bind (only_ask.mpr (free fun h => h)) fun _ => only_ofExcept) fun _ => ?_
    exact only_ofExcept

/-- A restart stops and copies after its check. -/
lemma guards_restart {fresh : Value} (begun : Begun c cid files past) :
    Guards (Distinct c cid) (Guard c cid files) (restart c slug files cid key fresh) past () := by
  have free : ∀ {o}, ¬ Touches cid o → ∀ t s, Guard c cid files t s o :=
    fun h _ _ touches => absurd touches h
  apply Only.guards_bind (unguarded checkCollisions_only Reads.touches_not)
  intro q pending _ run
  have checks := checks_of run
  apply Only.guards_bind only_ofExcept
  intro t1 running _ run
  obtain ⟨rfl, _⟩ := runs_ofExcept.mp run
  apply Guards.bind (Q := fun s _ _ => ∀ e ∈ s, e.1 = .stop cid)
  · cases running with
    | true =>
      apply Guards.bind
      · refine ⟨fun _ => ⟨?_, past, q, [], pending, by simp, checks, nofun, .inl rfl⟩, ?_⟩
        · exact begun.append.append
        · intro a _ _
          cases a with
          | ok r => exact only_ofExcept.guards
          | error e => trivial
      · exact yields_runs
      · intro _ _ _ _
        trivial
    | false => trivial
  · exact (stopRunning_only (p := (· = .stop cid)) rfl).yields
  · intro s _ _ stops
    rw [List.append_nil, List.append_assoc]
    apply Guards.bind
    · exact guards_putFiles begun.append checks stops
    · exact yields_runs
    · intro t2 _ _ _
      apply Only.guards
      refine Only.bind (unguarded readback_only Reads.touches_not) fun _ => ?_
      refine Only.bind (start_only (free id)) fun _ => Only.bind (only_ask.mpr (free id)) fun _ => ?_
      refine Only.bind (only_ask.mpr (free id)) fun _ => ?_
      refine Only.bind (reportFfmpeg_only fun _ => free id) fun _ => ?_
      exact Only.bind (only_ask.mpr (free id)) fun _ => only_pure

/-- An attempt touches the target in its restart. -/
lemma guards_prepare (begun : Begun c cid files past) :
    Guards (Distinct c cid) (Guard c cid files) (prepare c info slug files cid key) past () := by
  have free : ∀ {o}, ¬ Touches cid o → ∀ t s, Guard c cid files t s o :=
    fun h _ _ touches => absurd touches h
  apply Only.guards_bind (only_ask.mpr (free id))
  intro t1 _ _ _
  apply Only.guards_bind (only_ask.mpr (free id))
  intro t2 _ _ _
  apply Guards.bind
  · apply Guards.attempt
    apply Only.guards_bind only_ofExcept
    intro t3 image _ _
    apply Guards.bind guards_preflight yields_runs
    intro t4 _ _ _
    apply Only.guards_bind (inspect_only (free id))
    intro t5 fresh _ _
    apply Only.guards_bind only_ofExcept
    intro t6 _ _ _
    apply Only.guards_bind only_ofExcept
    intro t7 stopped _ _
    cases stopped with
    | true =>
      apply Only.guards
      exact Only.bind (only_ask.mpr (free id)) fun _ =>
        Only.bind (only_ask.mpr (free id)) fun _ => only_pure
    | false =>
      apply guards_restart
      exact begun.append.append.append.append.append.append.append
  · exact yields_runs
  · intro t3 r _ _
    refine (unguarded caught_only ?_).guards
    rintro o (rfl | rfl) <;> exact id

/-- A pass touches its target after its checks. -/
lemma guards_decideTarget {k : String} :
    Guards (Distinct c cid) (Guard c cid files) (decideTarget c info slug files cid key)
      [⟨.has k, .ok false⟩] () := by
  have free : ∀ {o}, ¬ Touches cid o → ∀ t s, Guard c cid files t s o :=
    fun h _ _ touches => absurd touches h
  apply Only.guards_bind (unguarded checkCollisions_only Reads.touches_not)
  intro q pending _ run
  have checks := checks_of run
  have begun : Begun c cid files ([⟨.has k, .ok false⟩] ++ (q ++ [])) :=
    ⟨k, q, [], pending, rfl, checks⟩
  split
  · apply Guards.bind
    · unfold putManifest
      split
      · trivial
      · apply Guards.bind
        · have put := guards_putFiles begun checks nofun
          rwa [List.append_nil] at put
        · exact yields_runs
        · intro t1 _ _ _
          apply Only.guards
          refine Only.bind (unguarded readFile_only Reads.touches_not) fun _ => ?_
          exact Only.bind only_ofExcept fun _ => only_require
    · exact yields_runs
    · intro t1 _ _ _
      apply Only.guards
      refine Only.bind (only_ask.mpr (free id)) fun _ => Only.bind (only_ask.mpr (free id)) fun _ => ?_
      exact Only.bind (reportFfmpeg_only fun _ => free id) fun _ => only_pure
  · rw [List.append_nil] at begun
    exact guards_prepare begun

end Guards

/-- A pass stops its target and copies files into it, wherever it is cut off, only after a collision
check that every file of the payload but the manifest passes: what is there is nothing, the same bytes
or a file whose digest the installed manifest records. It copies what that check has found to be
missing, to be recorded or to lack its execute bits, and the manifest. If the target is a flat file
system that does not change from the check to the copy, every other file keeps its contents. -/
theorem preparation_owned {c : Decoders} {info : Value} {slug cid : String} {files : Files}
    {t u : List Event} {e : Event}
    (run : Begins (reconcile c info slug files) (t ++ e :: u))
    (target : info.item "Id" >>= Value.asStr = .ok cid)
    (fresh : Fresh c cid (t ++ e :: u))
    (touches : Touches cid e.1) : Vetted c cid files t e.1 := by
  have guards : Guards (Distinct c cid) (Guard c cid files) (reconcile c info slug files) [] () := by
    apply Only.guards_bind only_ofExcept
    intro t1 _ _ run
    obtain ⟨rfl, _⟩ := runs_ofExcept.mp run
    apply Only.guards_bind only_ofExcept
    intro t2 id _ run
    obtain ⟨rfl, item⟩ := runs_ofExcept.mp run
    obtain rfl := Except.ok.inj (item.trans target)
    apply Only.guards_bind only_ofExcept
    intro t3 data _ run
    obtain ⟨rfl, _⟩ := runs_ofExcept.mp run
    apply Only.guards_bind (only_ask.mpr fun _ _ touches => touches.elim)
    intro t4 known _ run
    obtain rfl := runs_ask_ok run
    cases known with
    | true => trivial
    | false =>
      apply Only.guards_bind only_ofExcept
      intro t5 wanted _ run
      obtain ⟨rfl, _⟩ := runs_ofExcept.mp run
      cases wanted with
      | true => exact guards_decideTarget
      | false => trivial
  obtain ⟨_, before, _⟩ := fresh.distinct.append_inv
  exact guards.at run before touches

/-- A reading of the target that finds nothing. -/
def showsNothing (cid : String) : Event → Bool
  | ⟨.archiveGet id _, .ok r⟩ => id != cid || (r : Response).status == 404
  | _ => true

/-- A trace that shows no state of the container. -/
lemma shown_nothing {c : Decoders} {cid : String} {t : List Event}
    (h : t.all (showsNothing cid) = true) : Shown c cid (fun _ => none) t := by
  intro e he
  have one := List.all_eq_true.mp h e he
  obtain ⟨o, r⟩ := e
  cases o with
  | archiveGet id path =>
    cases r with
    | ok r =>
      rintro rfl x eq
      have absent : Response.status r = 404 := by simpa [showsNothing] using one
      have none : fileOf c r = .ok none := if_pos absent
      exact (Except.ok.inj (none.symm.trans eq)).symm
    | error => trivial
  | archiveHead id path =>
    cases r with
    | ok r => rintro _ f ⟨⟩
    | error => trivial
  | _ => trivial

/-- An event is a copy into a container. -/
def isCopy (cid : String) : Op → Bool
  | .archivePut id _ _ => id == cid
  | _ => false

/-- The copy into an empty target. -/
theorem preparation_owned_sample :
    ∃ t e u, (samplePass sampleDocker).trace = t ++ e :: u ∧ isCopy "f1" e.1 = true ∧
      Vetted sampleDecoders "f1" sampleFiles t e.1 ∧ Shown sampleDecoders "f1" (fun _ => none) t := by
  obtain ⟨⟨_, fresh, _⟩, _⟩ := passes_show
  have all : (∃ h : 19 < (samplePass sampleDocker).trace.length,
        isCopy "f1" ((samplePass sampleDocker).trace.get ⟨19, h⟩).1 = true) ∧
      ((samplePass sampleDocker).trace.take 19).all (showsNothing "f1") = true := by
    simp only [samplePass, sampleDocker, sampleDecoders, sampleTexts, statText, targetText_pieces,
      text_append]
    decide +kernel
  obtain ⟨⟨h, copies⟩, nothing⟩ := all
  have split : (samplePass sampleDocker).trace = (samplePass sampleDocker).trace.take 19 ++
      (samplePass sampleDocker).trace.get ⟨19, h⟩ :: (samplePass sampleDocker).trace.drop 20 := by
    rw [List.get_eq_getElem, ← List.drop_eq_getElem_cons, List.take_append_drop]
  refine ⟨_, _, _, split, copies, ?_, shown_nothing nothing⟩
  have run := (sample_runs sampleDocker).whole
  rw [split] at run
  refine preparation_owned run rfl ?_ ?_
  · rw [← split]
    exact fresh_of fresh
  · generalize (samplePass sampleDocker).trace.get ⟨19, h⟩ = e at copies
    obtain ⟨o, r⟩ := e
    cases o with
    | archivePut id => exact beq_iff_eq.mp copies
    | _ => cases copies

end K11CHaos.Frigate
