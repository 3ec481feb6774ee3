import K11CHaos.Engine.Reading
import K11CHaos.Lib.Text
import K11CHaos.Native.Profile

/-!
# Catalog and helper

A seed that `Catalog::validate` accepts goes to the helper as it is, and `validateProfile` looks at the
same fields again. The two differ in four places: the engine strips `sha256:` from the image id as often
as it stands there, and looks at the last part of the image digest only; the helper writes the state in
its own way before it hashes it; and it reads the state's keys without regard to case.
`helper_agrees_iff` says when all the same both accept.
-/

namespace K11CHaos.Native
open Engine Engine.Components

/-- What the engine has checked of a seed, as far as the helper looks at it again. -/
structure Checked (s : Seed) : Prop where
  verified : s.locallyVerified = true
  containerd : s.containerd = "2.3.4"
  config : IsHex64 s.configSha256
  raw : IsHex64 s.officialRawSha256
  commit : hexID s.catalogCommit 40 = true
  kernel : s.kernel.endsWith "-haos" = true
  haos : validVersion s.haos = true
  version : validVersion s.appVersion = true
  idPrefix : "sha256:".toList <+: s.imageId.toList
  id : IsHex64 (trimDigest s.imageId)
  digestPrefix : (imageName ++ "@sha256:").toList <+: s.imageDigest.toList
  digest : IsHex64 ((s.imageDigest.splitOn ":").getLastD "")
  hash : hashBytes s.state.bytes = s.stateSha256

/-- What the engine has checked of the apps in the state. -/
structure Installed (s : Seed) : Prop where
  systemCount : fieldCount (field s.state "system") = some 1
  userCount : fieldCount (field s.state "user") = some 1
  version : field (field (field s.state "system") slug) "version" = .str s.appVersion
  slug : field (field (field s.state "system") slug) "slug" = .str "k11c_connectivity"
  repository : field (field (field s.state "system") Native.slug) "repository" = .str "157e89e9"
  startup : field (field (field s.state "system") Native.slug) "startup" = .str "system"
  arch : field (field (field s.state "system") Native.slug) "arch" = .arr [.str "aarch64"]
  image : field (field (field s.state "system") Native.slug) "image" = .str imageName
  user : field (field s.state "user") Native.slug = userOptions s.appVersion

/-- The two implementations compare values alike. -/
lemma same_eq {v w : Json} (h : same v w = true) : v = w := by
  have e := beq_iff_eq.mp h
  exact (Json.print_inj v w (r := []) (s := []) nofun nofun (by rw [e])).1

/-- Every seed of a sound list is sound. -/
lemma seedSound_mem {boot : Boot} {seen : List String} {ss : List Seed} {s : Seed}
    (h : seedsSound boot seen ss = true) (m : s ∈ ss) : seedSound boot s = true := by
  induction ss generalizing seen with
  | nil => cases m
  | cons r ss ih =>
    rw [seedsSound, Bool.and_eq_true, Bool.and_eq_true] at h
    obtain rfl | m := List.mem_cons.mp m
    · exact h.1.1
    · exact ih h.2 m

/-- What acceptance by the engine says of a seed. -/
lemma checked_of_validate {X : Crates} {c : Catalog} {s : Seed} (h : validate X c = .ok ())
    (m : s ∈ c.seeds) : Checked s ∧ Installed s := by
  simp only [validate, bind_ok, deny_ok] at h
  obtain ⟨_, _, _, _, h⟩ := h
  have sound := seedSound_mem (by simpa using h) m
  simp only [seedSound, Bool.and_eq_true, beq_iff_eq, hashId, decide_eq_true_eq,
    String.startsWith_string_iff] at sound
  obtain ⟨⟨⟨⟨⟨⟨⟨⟨⟨⟨⟨⟨⟨⟨⟨⟨⟨⟨⟨⟨⟨⟨⟨⟨⟨⟨verified, containerd⟩, config⟩, commitSize⟩, commit⟩, idPrefix⟩,
    id⟩, hash⟩, systemCount⟩, userCount⟩, version⟩, slug⟩, repository⟩, startup⟩, arch⟩, image⟩,
    user⟩, haosVersion⟩, appVersion⟩, raw⟩, kernel⟩, _⟩, _⟩, digestPrefix⟩, digest⟩, _⟩, _⟩ := sound
  refine ⟨⟨verified, containerd, config, raw, ?_, kernel, haosVersion, appVersion, idPrefix, id,
    digestPrefix, digest, hash⟩, ⟨systemCount, userCount, same_eq version, same_eq slug,
    same_eq repository, same_eq startup, same_eq arch, same_eq image, same_eq user⟩⟩
  rw [hexID, Bool.and_eq_true, beq_iff_eq]
  exact ⟨commitSize, commit⟩

/-! ## The texts -/

/-- Hexadecimal digits are one byte each. -/
lemma utf8Len_hex {cs : List Char} (h : ∀ c ∈ cs, c ∈ hexDigits) : String.utf8Len cs = cs.length := by
  induction cs with
  | nil => rfl
  | cons c cs ih =>
    have ascii : ∀ c ∈ hexDigits, c.utf8Size = 1 := forall_of_all (by decide)
    have one := ascii c (h c List.mem_cons_self)
    rw [String.utf8Len_cons, ih fun d hd => h d (List.mem_cons_of_mem _ hd), one, List.length_cons]

/-- `hexID` with 64 digits is the check of the engine. -/
lemma hexID_iff {s : String} : hexID s 64 = true ↔ IsHex64 s := by
  have size (h : ∀ c ∈ s.toList, c ∈ hexDigits) : s.utf8ByteSize = s.toList.length := by
    rw [← utf8Len_hex h, ← String.utf8ByteSize_ofList, String.ofList_toList]
  simp only [hexID, IsHex64, Bool.and_eq_true, beq_iff_eq, List.all_eq_true, decide_eq_true_eq]
  constructor
  · rintro ⟨len, hex⟩
    exact ⟨by rw [← size hex, len], hex⟩
  · rintro ⟨len, hex⟩
    exact ⟨by rw [size hex, len], hex⟩

/-- A text holds one colon only. -/
def OneColon (s : String) : Prop :=
  s.toList.count ':' = 1

instance (s : String) : Decidable (OneColon s) :=
  inferInstanceAs (Decidable (_ = _))

/-- A digest has no colon. -/
lemma colon_not_hex {s : String} (h : IsHex64 s) : ':' ∉ s.toList := by
  intro m
  exact absurd (h.2 _ m) (by decide)

/-- A prefix that is there is cut off. -/
lemma trimPrefix_start {s p : String} {rest : List Char} (h : p.toList ++ rest = s.toList) :
    trimPrefix s p = String.ofList rest := by
  have start : s.startsWith p = true := String.startsWith_string_iff.mpr ⟨rest, h⟩
  rw [trimPrefix, if_pos start, ← h, List.drop_left]

/-- What follows a prefix with one colon has none if the whole text has one. -/
lemma oneColon_iff {s p : String} {rest : List Char} (h : p.toList ++ rest = s.toList)
    (one : p.toList.count ':' = 1) : OneColon s ↔ ':' ∉ rest := by
  rw [OneColon, ← h, List.count_append, one, ← List.count_eq_zero]
  omega

/-- The image id that the engine accepts is one for the helper when its prefix stands there once. -/
lemma imageId_iff {s : Seed} (h : Checked s) :
    hexID (trimPrefix s.imageId "sha256:") 64 = true ↔ OneColon s.imageId := by
  obtain ⟨rest, e⟩ := h.idPrefix
  rw [trimPrefix_start e, hexID_iff, oneColon_iff e (by decide)]
  constructor
  · intro hex m
    exact colon_not_hex hex (by rwa [String.toList_ofList])
  · intro none
    -- after one round nothing is left to strip
    have stop (fuel : Nat) : trimDigest.go fuel rest = rest := by
      cases fuel with
      | zero => rfl
      | succ fuel =>
        rw [trimDigest.go, if_neg]
        intro start
        have mem : ':' ∈ "sha256:".toList := by decide
        exact none ((List.isPrefixOf_iff_prefix.mp start).subset mem)
    have trimmed : trimDigest s.imageId = String.ofList rest := by
      have len : s.imageId.length = rest.length + 7 := by
        rw [← String.length_toList, ← e, List.length_append]
        exact Nat.add_comm _ _
      rw [trimDigest, ← e, len, trimDigest.go,
        if_pos (List.isPrefixOf_iff_prefix.mpr (List.prefix_append _ _)),
        show ("sha256:".toList ++ rest).drop 7 = rest from List.drop_left' rfl, stop]
    rw [← trimmed]
    exact h.id

/-- So is the image digest, as the engine looks at its last part. -/
lemma imageDigest_iff {s : Seed} (h : Checked s) :
    hexID (trimPrefix s.imageDigest (imageName ++ "@sha256:")) 64 = true ↔ OneColon s.imageDigest := by
  obtain ⟨rest, e⟩ := h.digestPrefix
  rw [trimPrefix_start e, hexID_iff, oneColon_iff e (by decide)]
  constructor
  · intro hex m
    exact colon_not_hex hex (by rwa [String.toList_ofList])
  · intro none
    have cut : (imageName ++ "@sha256:").toList = (imageName ++ "@sha256").toList ++ [':'] := by decide
    have parts : s.imageDigest.splitOn ":" =
        ((imageName ++ "@sha256").toList.splitOn ':').map String.ofList ++ [String.ofList rest] := by
      rw [show ":" = String.ofList [':'] from rfl, splitOn_char, ← e, cut, List.append_assoc,
        List.singleton_append, List.splitOn_append_cons_self, List.splitOn_eq_singleton none,
        List.map_append]
      rfl
    have last := h.digest
    rwa [parts, List.getLastD_concat] at last

/-- A version of the engine is one of the helper. -/
lemma versionSound_of_valid {v : String} (h : validVersion v = true) : versionSound v = true := by
  simp only [validVersion, Bool.and_eq_true, decide_eq_true_eq, List.all_eq_true] at h
  obtain ⟨⟨size, two, _⟩, digits⟩ := h
  rw [show "." = String.ofList ['.'] from rfl, splitOn_char] at two digits
  simp only [versionSound, Bool.and_eq_true, decide_eq_true_eq, List.all_eq_true]
  refine ⟨⟨size, ?_⟩, ?_⟩
  · rwa [show "." = String.ofList ['.'] from rfl, splitOn_char]
  · intro c hc
    have join : ['.'].intercalate (v.toList.splitOn '.') = v.toList := List.intercalate_splitOn '.'
    rw [← join] at hc
    rw [Bool.or_eq_true, beq_iff_eq]
    obtain rfl | ⟨part, hp, hc⟩ := mem_intercalate hc
    · exact .inl rfl
    · right
      have := (digits _ (List.mem_map_of_mem hp)).2
      rw [String.toList_ofList] at this
      exact this c hc

/-! ## The apps -/

/-- The values of all fields that the helper takes for one name. -/
def named (name : String) (fs : Record) : List Json :=
  fs.filterMap fun f => if sameKey f.1 name then some f.2 else none

/-- What the fields of one name in an object leave, read one after the other. -/
def merged (name : String) : Json → Option Apps
  | .obj fs => (named name fs).foldlM readApps []
  | _ => some []

/-- The helper finds the one app under either name, and its records pass. -/
def Undisturbed (s : Seed) : Prop :=
  ∃ system user, merged "system" s.state = some [(slug, system)] ∧
    merged "user" s.state = some [(slug, user)] ∧
    systemSound s.appVersion system = true ∧ userSound s.appVersion user = true

/-- No key is taken for both names. -/
lemma sameKey_system {key : String} (h : sameKey key "system" = true) :
    sameKey key "user" = false := by
  rw [sameKey, beq_iff_eq] at h
  rw [sameKey, h]
  decide

/-- A field under a key that is taken for the name. -/
lemma named_pos {name k : String} {v : Json} {fs : Record} (h : sameKey k name = true) :
    named name ((k, v) :: fs) = v :: named name fs :=
  List.filterMap_cons_some (if_pos h)

/-- A field under another key. -/
lemma named_neg {name k : String} {v : Json} {fs : Record} (h : ¬ sameKey k name = true) :
    named name ((k, v) :: fs) = named name fs :=
  List.filterMap_cons_none (if_neg h)

/-- The fields are read into the two maps independently. -/
lemma readState_eq (fs : Record) (m n : Apps) :
    readState fs (m, n) = ((named "system" fs).foldlM readApps m).bind fun system =>
      ((named "user" fs).foldlM readApps n).map fun user => (system, user) := by
  induction fs generalizing m n with
  | nil => rfl
  | cons f fs ih =>
    obtain ⟨k, v⟩ := f
    rw [readState]
    split_ifs with here there
    · have other : ¬ sameKey k "user" = true := by
        rw [sameKey_system here]
        decide
      rw [named_pos here, named_neg other, List.foldlM_cons]
      cases readApps m v with
      | none => rfl
      | some m => exact ih m n
    · rw [named_neg here, named_pos there, List.foldlM_cons]
      cases readApps n v with
      | none => cases (named "system" fs).foldlM readApps m <;> rfl
      | some n => exact ih m n
    · rw [named_neg here, named_neg there, ih]

/-- The state is read when the fields of both names are. -/
lemma unmarshalState_iff {v : Json} {system user : Apps} (obj : ∃ fs, v = .obj fs) :
    unmarshalState v = some (system, user) ↔
      merged "system" v = some system ∧ merged "user" v = some user := by
  obtain ⟨fs, rfl⟩ := obj
  rw [unmarshalState, readState_eq, Option.bind_eq_some_iff]
  simp only [merged, Option.map_eq_some_iff, Prod.mk.injEq]
  constructor
  · rintro ⟨_, hs, _, hu, rfl, rfl⟩
    exact ⟨hs, hu⟩
  · rintro ⟨hs, hu⟩
    exact ⟨_, hs, _, hu, rfl, rfl⟩

/-- An empty record of the system is not sound. -/
lemma systemSound_nil {version : String} : systemSound version [] = false :=
  rfl

/-- An empty record of the user is not sound. -/
lemma userSound_nil {version : String} : userSound version [] = false :=
  rfl

/-- A map with one app whose record passes has it under the slug. -/
lemma one_app {m : Apps} {sound : Record → Bool} (nil : sound [] = false) (one : m.length = 1)
    (h : sound ((KeyMap.find m slug).getD []) = true) :
    ∃ r, m = [(slug, r)] ∧ sound r = true := by
  obtain ⟨⟨k, r⟩, rfl⟩ := List.length_eq_one_iff.mp one
  by_cases e : k = slug
  · subst e
    exact ⟨r, rfl, by simpa [KeyMap.find] using h⟩
  · rw [KeyMap.find, List.find?_cons_of_neg (by simpa using e)] at h
    exact absurd h (by simp [nil])

/-- The helper accepts the apps exactly when they are undisturbed. -/
lemma apps_iff {s : Seed} (obj : ∃ fs, s.state = .obj fs) :
    (∃ system user, unmarshalState s.state = some (system, user) ∧
      appsSound s.appVersion system user = true) ↔ Undisturbed s := by
  simp only [unmarshalState_iff obj, appsSound, Bool.and_eq_true, beq_iff_eq]
  constructor
  · rintro ⟨m, n, ⟨hm, hn⟩, ⟨⟨one, one'⟩, hs⟩, hu⟩
    obtain ⟨system, rfl, hs⟩ := one_app systemSound_nil one hs
    obtain ⟨user, rfl, hu⟩ := one_app userSound_nil one' hu
    exact ⟨system, user, hm, hn, hs, hu⟩
  · rintro ⟨system, user, hm, hn, hs, hu⟩
    refine ⟨_, _, ⟨hm, hn⟩, ⟨⟨rfl, rfl⟩, ?_⟩, ?_⟩
    · simpa [KeyMap.find] using hs
    · simpa [KeyMap.find] using hu

/-! ## Records without a second name -/

/-- A field that is there. -/
lemma field_mem {v w : Json} {k : String} (h : field v k = w) (some' : w ≠ .null) :
    ∃ fs, v = .obj fs ∧ (k, w) ∈ fs := by
  cases v with
  | obj fs =>
    rw [field] at h
    cases e : fs.find? fun f => f.1 == k with
    | none =>
      rw [e] at h
      exact absurd h.symm some'
    | some f =>
      rw [e] at h
      have key : f.1 = k := by simpa using List.find?_some e
      refine ⟨fs, rfl, ?_⟩
      rw [← h, ← key]
      exact List.mem_of_find?_eq_some e
  | _ => exact absurd h.symm some'

/-- What `validate` finds under a key is what the helper finds there. -/
lemma find_of_field {fs : Record} {k : String} {w : Json} (h : field (.obj fs) k = w)
    (some' : w ≠ .null) : KeyMap.find fs k = some w := by
  rw [field] at h
  have e : KeyMap.find fs k = (fs.find? fun f => f.1 == k).map Prod.snd := by
    rw [KeyMap.find]
  rw [e]
  cases found : (fs.find? fun f => f.1 == k).map Prod.snd with
  | none =>
    rw [found] at h
    exact absurd h.symm some'
  | some x =>
    rw [found] at h
    exact congrArg some h

/-- No other field is taken for one of the two. -/
def OwnNames : Json → Prop
  | .obj fs => ∀ f ∈ fs, (sameKey f.1 "system" = true → f.1 = "system") ∧
      (sameKey f.1 "user" = true → f.1 = "user")
  | _ => True

/-- With sorted fields, one own key is one field. -/
lemma named_own {name : String} {fs : Record} {w : Json} (sorted : KeyMap.Sorted fs)
    (m : (name, w) ∈ fs) (own : ∀ f ∈ fs, sameKey f.1 name = true → f.1 = name) :
    named name fs = [w] := by
  induction fs with
  | nil => cases m
  | cons f fs ih =>
    obtain ⟨k, v⟩ := f
    obtain ⟨above, sorted⟩ := List.pairwise_cons.mp sorted
    by_cases here : sameKey k name = true
    · obtain rfl : k = name := own (k, v) List.mem_cons_self here
      have alone : named k fs = [] := by
        rw [named, List.filterMap_eq_nil_iff]
        intro g hg
        refine if_neg fun same => ?_
        have e := own g (List.mem_cons_of_mem _ hg) same
        exact absurd e (above g hg).ne'
      rw [named_pos here, alone]
      obtain e | m := List.mem_cons.mp m
      · rw [(Prod.mk.inj e).2]
      · exact absurd rfl (above _ m).ne
    · rw [named_neg here]
      obtain e | m := List.mem_cons.mp m
      · refine absurd ?_ here
        rw [← (Prod.mk.inj e).1, sameKey, beq_self_eq_true]
      · exact ih sorted m fun g hg => own g (List.mem_cons_of_mem _ hg)

/-- An object with one field that holds a record. -/
lemma single_field {v w : Json} {k : String} (one : fieldCount v = some 1) (h : field v k = w)
    (some' : w ≠ .null) : v = .obj [(k, w)] := by
  obtain ⟨fs, rfl, m⟩ := field_mem h some'
  obtain ⟨f, rfl⟩ := List.length_eq_one_iff.mp (Option.some.inj one)
  rw [List.mem_singleton.mp m]

/-- Every value of a sorted record is sorted. -/
lemma sorted_mem {fs : Record} {f : String × Json} (h : sortedFields fs) (m : f ∈ fs) :
    f.2.Sorted := by
  induction fs with
  | nil => cases m
  | cons g fs ih =>
    obtain rfl | m := List.mem_cons.mp m
    · exact h.1
    · exact ih h.2 m

/-- The record of the installed app. -/
def userRecord (version : String) : Record :=
  [("boot", .str "auto"), ("image", .str imageName), ("options", .obj [("enabled", .bool true)]),
    ("protected", .bool false), ("version", .str version)]

/-- The record that the program writes is sound. -/
lemma userSound_userRecord {version : String} : userSound version (userRecord version) = true := by
  simp [userSound, userRecord, KeyMap.find, isText, isBool, record, KeyMap.ofPairs, KeyMap.insert]

/-- Where no other field is taken for one of the two, the apps are undisturbed. -/
theorem undisturbed_of_ownNames {s : Seed} (installed : Installed s) (sorted : s.state.Sorted)
    (own : OwnNames s.state) : Undisturbed s := by
  -- the record of the repository is an object
  obtain ⟨r, hr, _⟩ := field_mem installed.version nofun
  have system := single_field installed.systemCount hr nofun
  have user := single_field installed.userCount installed.user nofun
  obtain ⟨fs, state, hs⟩ := field_mem system nofun
  obtain ⟨fs', state', hu⟩ := field_mem user nofun
  rw [state] at state' sorted own
  cases state'
  have records := sorted_mem sorted.2 hs
  have inner : KeyMap.ofPairs r = r := KeyMap.ofPairs_sorted records.2.1.1
  have options : KeyMap.ofPairs (userRecord s.appVersion) = userRecord s.appVersion :=
    KeyMap.ofPairs_sorted (sorted_mem sorted.2 hu).2.1.1
  refine ⟨r, userRecord s.appVersion, ?_, ?_, ?_, userSound_userRecord⟩
  · rw [state, merged, named_own sorted.1 hs fun f hf => (own f hf).1]
    simp only [List.foldlM_cons, List.foldlM_nil, readApps, readEntries, inner]
    rfl
  · rw [state, merged, named_own sorted.1 hu fun f hf => (own f hf).2]
    rw [show userOptions s.appVersion = .obj (userRecord s.appVersion) from rfl]
    simp only [List.foldlM_cons, List.foldlM_nil, readApps, readEntries, options]
    rfl
  · have at' {k : String} {w : Json} (h : field (field (field s.state "system") slug) k = w)
        (some' : w ≠ .null) : KeyMap.find r k = some w := by
      rw [hr] at h
      exact find_of_field h some'
    simp [systemSound, at' installed.version nofun, at' installed.image nofun,
      at' installed.slug nofun, at' installed.repository nofun, at' installed.startup nofun,
      at' installed.arch nofun, isText, items]

/-! ## Agreement -/

/-- A check passes when its condition holds. -/
lemma failCheck_ok {ok : Bool} {why : String} {u : Unit} :
    failCheck ok why = .ok u ↔ ok = true := by
  rw [failCheck]
  split_ifs with h <;> simp [h]

/-- Decoding succeeds when there is a value. -/
lemma unmarshal_ok {α : Type} {o : Option α} {a : α} : unmarshal o = .ok a ↔ o = some a := by
  cases o <;> simp [unmarshal]

/-- What the helper accepts. -/
lemma validateProfile_ok {p : Profile} :
    validateProfile p = .ok () ↔ identified p = true ∧
      (versionSound p.haos = true ∧ versionSound p.version = true) ∧
      (∃ system user, unmarshalState p.state = some (system, user) ∧
        appsSound p.version system user = true) ∧
      ∃ t, goPrint p.state = some t ∧ hashBytes (Json.utf8 t) = p.stateHash := by
  simp only [validateProfile, bind_ok, failCheck_ok, unmarshal_ok, Bool.and_eq_true, beq_iff_eq]
  constructor
  · rintro ⟨_, id, _, versions, ⟨system, user⟩, state, t, ht, _, hash, apps⟩
    exact ⟨id, versions, ⟨system, user, state, apps⟩, t, ht, hash⟩
  · rintro ⟨id, versions, ⟨system, user, state, apps⟩, t, ht, hash⟩
    exact ⟨(), id, (), versions, (system, user), state, t, ht, (), hash, apps⟩

/-- What is promised for a seed that the engine accepts: the helper accepts it too, its image digest
and image id are exactly a prefix and 64 digits, and the hash of the state is that of either text. -/
structure Accepted (s : Seed) : Prop where
  helper : validateProfile (profile s) = .ok ()
  digest : ∃ h, IsHex64 h ∧ s.imageDigest = imageName ++ "@sha256:" ++ h
  id : ∃ h, IsHex64 h ∧ s.imageId = "sha256:" ++ h
  engineHash : hashBytes s.state.bytes = s.stateSha256
  helperHash : ∃ t, goPrint s.state = some t ∧ hashBytes (Json.utf8 t) = s.stateSha256

/-- The helper writes another text than the engine, and both have one digest. -/
def Collision (v : Json) : Prop :=
  ∃ t, goPrint v = some t ∧ t ≠ v.print ∧ hashBytes (Json.utf8 t) = hashBytes v.bytes

/-- When engine and helper agree on a seed. -/
structure Agrees (s : Seed) : Prop where
  id : OneColon s.imageId
  digest : OneColon s.imageDigest
  state : Shared s.state ∨ Collision s.state
  apps : Undisturbed s

/-- The helper finds the hash of the engine exactly when it writes the same text, or else two texts
collide. -/
lemma hash_iff {v : Json} (sorted : v.Sorted) :
    (∃ t, goPrint v = some t ∧ hashBytes (Json.utf8 t) = hashBytes v.bytes) ↔
      Shared v ∨ Collision v := by
  constructor
  · rintro ⟨t, ht, hash⟩
    by_cases e : t = v.print
    · subst e
      exact .inl ((goPrint_eq_iff sorted).mp ht)
    · exact .inr ⟨t, ht, e, hash⟩
  · rintro (shared | ⟨t, ht, _, hash⟩)
    · exact ⟨_, (goPrint_eq_iff sorted).mpr shared, rfl⟩
    · exact ⟨t, ht, hash⟩

/-- A prefix and 64 digits. -/
lemma exact_of_trim {s p : String} (start : p.toList <+: s.toList)
    (h : hexID (trimPrefix s p) 64 = true) : ∃ h, IsHex64 h ∧ s = p ++ h := by
  obtain ⟨rest, e⟩ := start
  rw [trimPrefix_start e, hexID_iff] at h
  refine ⟨_, h, String.toList_injective ?_⟩
  rw [String.toList_append, String.toList_ofList, e]

/-- The identity of a checked seed is one for the helper when each prefix stands there once. -/
lemma identified_iff {s : Seed} (h : Checked s) :
    identified (profile s) = true ↔ OneColon s.imageId ∧ OneColon s.imageDigest := by
  have stateHash : IsHex64 s.stateSha256 := h.hash ▸ hashBytes_hex _
  simp only [identified, profile, h.verified, h.containerd, hexID_iff.mpr h.raw, h.commit,
    hexID_iff.mpr h.config, hexID_iff.mpr stateHash, h.kernel,
    String.startsWith_string_iff.mpr h.idPrefix, String.startsWith_string_iff.mpr h.digestPrefix,
    beq_self_eq_true, Bool.and_true, Bool.true_and, Bool.and_eq_true, imageId_iff h, imageDigest_iff h]

/-! ## A sample -/

/-- The address of the sample boot asset, and its parts. -/
def sampleUrl : Url :=
  ⟨"https", some "raw.githubusercontent.com", "/David2766/K11C-HAOS/main/uboot", "", none, none, none,
    none⟩

/-- Crates whose URL parser knows the sample address. -/
noncomputable def sampleCrates : Crates :=
  { Crates.reference with
    parseUrl := fun s =>
      if s = "https://raw.githubusercontent.com/David2766/K11C-HAOS/main/uboot" then .ok sampleUrl
      else .error "unknown" }

/-- 64 digits. -/
def sampleHash (c : Char) : String :=
  String.ofList (List.replicate 64 c)

def sampleBoot : Boot :=
  ⟨"r24", ["18.3"],
    ⟨"https://raw.githubusercontent.com/David2766/K11C-HAOS/main/uboot", sampleHash 'f', 1024⟩⟩

def sampleState : Json :=
  .obj [("system", .obj [(slug, .obj [("arch", .arr [.str "aarch64"]), ("image", .str imageName),
      ("repository", .str "157e89e9"), ("slug", .str "k11c_connectivity"),
      ("startup", .str "system"), ("version", .str "0.5.6")])]),
    ("user", .obj [(slug, .obj (userRecord "0.5.6"))])]

/-- A seed with the given image id. -/
def sampleSeed (imageId : String) : Seed where
  haos := "18.3"
  kernel := "6.18.52-haos"
  officialRawSha256 := sampleHash 'a'
  appVersion := "0.5.6"
  imageDigest := imageName ++ "@sha256:" ++ sampleHash 'b'
  imageId := imageId
  catalogCommit := String.ofList (List.replicate 40 'd')
  configSha256 := sampleHash 'e'
  state := sampleState
  stateSha256 := hashBytes sampleState.bytes
  containerd := "2.3.4"
  locallyVerified := true
  dataSha256 := ""
  dataBytes := 0
  supervisor := "2026.09.1"
  docker := "29.1.3"
  ubootSha256 := sampleHash 'f'

def sampleCatalog (imageId : String) : Catalog :=
  ⟨2, "kickpi,k11c", "aarch64", sampleBoot, [sampleSeed imageId]⟩

/-- The state of the sample is sorted. -/
lemma sampleState_sorted : sampleState.Sorted := by
  simp only [sampleState, Json.Sorted, sortedFields, sortedItems, userRecord, and_true]
  refine ⟨?_, ⟨?_, ?_⟩, ?_, ?_, ?_⟩ <;> decide

/-- The state of the sample uses the names as they are. -/
lemma sampleState_own : OwnNames sampleState := by
  simp only [OwnNames, sampleState]
  decide

/-- The sample boot asset is sound. -/
lemma sampleBoot_valid : validateBoot sampleCrates sampleBoot = .ok () := by
  simp only [validateBoot, asset, bind_ok, deny_ok]
  refine ⟨(), ⟨sampleUrl, rfl, ?_⟩, by decide⟩
  have parts : sampleUrl.path.splitOn ".." = [sampleUrl.path] := by
    rw [show ".." = String.ofList ['.', '.'] from rfl]
    exact splitOn_absent (by decide)
  rw [parts]
  decide +kernel

/-- The engine accepts the sample, whatever prefixes stand before its image id. -/
lemma sampleCatalog_valid (imageId : String) (start : "sha256:".toList <+: imageId.toList)
    (hex : hashId (trimDigest imageId) = true) :
    validate sampleCrates (sampleCatalog imageId) = .ok () := by
  simp only [validate, bind_ok, deny_ok]
  refine ⟨(), by simp [sampleCatalog], (), sampleBoot_valid, ?_⟩
  have haos : validVersion "18.3" = true := by
    rw [validVersion, show "." = String.ofList ['.'] from rfl, splitOn_char]
    decide
  have version : validVersion "0.5.6" = true := by
    rw [validVersion, show "." = String.ofList ['.'] from rfl, splitOn_char]
    decide
  have digest : hashId (((sampleSeed imageId).imageDigest.splitOn ":").getLastD "") = true := by
    rw [show ":" = String.ofList [':'] from rfl, splitOn_char]
    exact (by decide +kernel : hashId ((((imageName ++ "@sha256:" ++ sampleHash 'b').toList.splitOn
      ':').map String.ofList).getLastD "") = true)
  have sound : seedSound sampleBoot (sampleSeed imageId) = true := by
    have id : imageId.startsWith "sha256:" = true := String.startsWith_string_iff.mpr start
    rw [seedSound, digest]
    simp only [sampleSeed, haos, version, id, hex, beq_self_eq_true, Bool.and_true, Bool.true_and]
    decide +kernel
  simp [sampleCatalog, seedsSound, sound]

/-! ## The two checks -/

/-- A seed that the engine accepts is accepted by the helper, with an exact digest and id and one hash
under both encoders, exactly when engine and helper agree on it. -/
theorem helper_agrees_iff {X : Crates} {c : Catalog} {s : Seed}
    (accepted : validate X c = .ok ()) (m : s ∈ c.seeds)
    (sorted : s.state.Sorted) :
    Accepted s ↔ Agrees s := by
  obtain ⟨checked, installed⟩ := checked_of_validate accepted m
  have obj : ∃ fs, s.state = .obj fs := by
    obtain ⟨r, hr, _⟩ := field_mem installed.version nofun
    obtain ⟨fs, e, _⟩ := field_mem (single_field installed.systemCount hr nofun) nofun
    exact ⟨fs, e⟩
  have hash := hash_iff sorted
  rw [checked.hash] at hash
  constructor
  · intro h
    obtain ⟨id, _, apps, canonical⟩ := validateProfile_ok.mp h.helper
    obtain ⟨idOne, digestOne⟩ := (identified_iff checked).mp id
    exact ⟨idOne, digestOne, hash.mp canonical, (apps_iff obj).mp apps⟩
  · intro h
    have canonical := hash.mpr h.state
    refine ⟨validateProfile_ok.mpr ⟨(identified_iff checked).mpr ⟨h.id, h.digest⟩,
      ⟨versionSound_of_valid checked.haos, versionSound_of_valid checked.version⟩,
      (apps_iff obj).mpr h.apps, canonical⟩, ?_, ?_, checked.hash, canonical⟩
    · exact exact_of_trim checked.digestPrefix ((imageDigest_iff checked).mpr h.digest)
    · exact exact_of_trim checked.idPrefix ((imageId_iff checked).mpr h.id)

/-- Both accept the sample. -/
theorem helper_agrees_iff_sample : Accepted (sampleSeed ("sha256:" ++ sampleHash 'c')) := by
  have valid := sampleCatalog_valid ("sha256:" ++ sampleHash 'c') (by decide)
    (by decide)
  have installed := (checked_of_validate valid List.mem_cons_self).2
  refine (helper_agrees_iff valid List.mem_cons_self sampleState_sorted).mpr ⟨?_, ?_, ?_, ?_⟩
  · decide
  · decide
  · left
    simp only [sampleSeed, sampleState, Shared, sharedFields, sharedItems, userRecord, and_true]
    decide
  · exact undisturbed_of_ownNames installed sampleState_sorted sampleState_own

/-- With the prefix of the image id twice the engine accepts the sample and the helper does not. -/
theorem repeated_prefix :
    validate sampleCrates (sampleCatalog ("sha256:sha256:" ++ sampleHash 'c')) = .ok () ∧
      sampleSeed ("sha256:sha256:" ++ sampleHash 'c') ∈
        (sampleCatalog ("sha256:sha256:" ++ sampleHash 'c')).seeds ∧
      validateProfile (profile (sampleSeed ("sha256:sha256:" ++ sampleHash 'c'))) =
        .error (.check "Unverified or unsupported compatibility profile") ∧
      ¬ Accepted (sampleSeed ("sha256:sha256:" ++ sampleHash 'c')) := by
  have refused : validateProfile (profile (sampleSeed ("sha256:sha256:" ++ sampleHash 'c'))) =
      .error (.check "Unverified or unsupported compatibility profile") := by
    have id : hexID (trimPrefix ("sha256:sha256:" ++ sampleHash 'c') "sha256:") 64 = false := by
      decide +kernel
    have not : identified (profile (sampleSeed ("sha256:sha256:" ++ sampleHash 'c'))) = false := by
      simp only [identified, profile, sampleSeed, id, Bool.and_false, Bool.false_and]
    rw [validateProfile, not]
    rfl
  refine ⟨sampleCatalog_valid _ (by decide) (by decide), List.mem_cons_self, refused, ?_⟩
  intro accepted
  have h := accepted.helper
  rw [refused] at h
  cases h

end K11CHaos.Native
