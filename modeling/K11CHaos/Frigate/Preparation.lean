import K11CHaos.Frigate.History

/-!
# Preparation happens once

The two laws of the preparation over whole histories: what precedes a request that disturbs the
target, how often such requests are sent (`prepared_once`), and what becomes of a target that the
controller has stopped (`stopped_then_started`). The sample is a target with one library missing.
-/

namespace K11CHaos.Frigate
open Prog

section Order

variable {c : Decoders} {info : Value} {slug cid x : String} {files : Files}

/-- What precedes a request that disturbs the target of a pass. -/
structure Prepared (c : Decoders) (cid : String) (p : Pass) (t : List Event) : Prop where
  target : p.info.item "Id" >>= Value.asStr = .ok cid
  wanted : shouldStart p.info = .ok true
  preflight : ∃ image a q b, p.info.item "Image" = .ok image ∧ t = a ++ (q ++ b) ∧
    Runs (preflight c image p.files) q (.ok ())
  latest : ∃ a resp b fresh, t = a ++ ⟨.inspect cid, .ok resp⟩ :: b ∧
    (∀ y ∈ b, y.1 ≠ .inspect cid) ∧
    accept c resp ("GET /containers/" ++ cid ++ "/json") = .ok fresh ∧
    cleanlyStopped fresh = .ok false

/-- A request that disturbs a container comes after all that. -/
lemma Restart.prepared {t r t1 t2} {e : Event} (s : Restart c info slug files cid t r)
    (ht : info.item "Id" >>= Value.asStr = .ok cid) (split : t = t1 ++ e :: t2)
    (ha : Acts x e.1) (apart : Apart c files t e) : Prepared c cid ⟨info, slug, files, t⟩ t1 := by
  have he : e ∈ t := by simp [split]
  obtain ⟨u, rfl, tail⟩ : ∃ u, t1 = s.before ++ u ∧ s.work ++ s.rest = u ++ e :: t2 := by
    obtain ⟨u, eq, tail⟩ | ⟨u, eq, tail⟩ :=
      List.append_eq_append_iff.mp (s.trace_eq.symm.trans split)
    · exact ⟨u, eq, tail⟩
    · cases u with
      | nil => exact ⟨[], by simpa using eq.symm, by simpa using tail.symm⟩
      | cons y u =>
        obtain ⟨rfl, _⟩ := List.cons.inj tail
        have mem : e ∈ s.before := by simp [eq]
        exact absurd ha (s.before_quiet mem (s.probing_apart apart))
  refine ⟨ht, s.wanted, ?_, ?_⟩
  · refine ⟨s.image, ⟨.has (keyOf cid s.data), .ok false⟩ :: (s.checks ++
      [⟨.set (keyOf cid s.data) .preparing, .ok ()⟩, ⟨.save, .ok ()⟩]), s.probing,
      ⟨.inspect cid, .ok s.resp⟩ :: u, s.imaged, ?_, s.probed⟩
    simp [before]
  · refine ⟨⟨.has (keyOf cid s.data), .ok false⟩ :: (s.checks ++
      ⟨.set (keyOf cid s.data) .preparing, .ok ()⟩ :: ⟨.save, .ok ()⟩ :: s.probing), s.resp, u,
      s.fresh, ?_, fun y hy eq => ?_, s.inspected, s.running⟩
    · simp [before]
    · have mem : y ∈ s.work ++ s.rest := by simp [tail, hy]
      obtain mem | mem := List.mem_append.mp mem
      · have works := s.work_only y mem
        rw [eq] at works
        exact works
      · obtain eq' | eq' := s.rest_only y mem <;> rw [eq] at eq' <;> cases eq'

end Order

/-! ## A sample target -/

/-- ASCII text. -/
def text (s : String) : Bytes :=
  s.toList.map fun c => UInt8.ofNat c.toNat

/-- A payload of one library. -/
def sampleFiles : Files :=
  [("/usr/lib/librknnrt.so", [0x7f]), (manifest, text "\x7b\x7d")]

/-- A tar archive of one member. -/
def tar (name size checksum : String) (data : Bytes) : Bytes :=
  text name ++ zeros (100 - name.toList.length) ++ text "0000644" ++ [0] ++ text "0000000" ++ [0] ++
    text "0000000" ++ [0] ++ text size ++ [0] ++ text "00000000000" ++ [0] ++ text checksum ++ [0, 0x20] ++
    text "0" ++ zeros 100 ++ text "ustar" ++ [0] ++ text "00" ++ zeros 247 ++
    data ++ zeros (512 - data.length) ++ zeros 1024

/-- The state of an inspection. -/
def stateOf (running : Bool) (code : Int) (startedAt : String) : Value :=
  .dict [("Running", .bool running), ("ExitCode", .int code), ("StartedAt", .str startedAt)]

/-- An inspection of the target. -/
def targetOf (state : Value) : Value :=
  .dict [("Id", .str "f1"), ("Name", .str "/app_ab_frigate-fa"), ("Image", .str "sha256:1"),
    ("Config", .dict [("Image", .str "ghcr.io/blakeblackshear/frigate:1")]),
    ("HostConfig", .dict [("Privileged", .bool true)]), ("State", state)]

/-- The text of an inspection of the target, with the text of its state. -/
def targetText (state : String) : Bytes :=
  text ("\x7b\"Id\":\"f1\",\"Name\":\"/app_ab_frigate-fa\",\"Image\":\"sha256:1\"," ++
    "\"Config\":\x7b\"Image\":\"ghcr.io/blakeblackshear/frigate:1\"\x7d," ++
    "\"HostConfig\":\x7b\"Privileged\":true\x7d,\"State\":" ++ state ++ "\x7d")

/-- A running target. -/
def runningText : String :=
  "\x7b\"Running\":true,\"ExitCode\":0,\"StartedAt\":\"2026-01-01T00:00:00Z\"\x7d"

/-- A target that failed to start and never ran. -/
def neverText : String :=
  "\x7b\"Running\":false,\"ExitCode\":128,\"StartedAt\":\"0001-01-01T00:00:00Z\"\x7d"

/-- A probe that succeeded. -/
def probeText : Bytes :=
  text "\x7b\"State\":\x7b\"Running\":false,\"ExitCode\":0\x7d\x7d"

/-- The description of the library. -/
def statText (name size : String) : Bytes :=
  text ("\x7b\"name\":\"" ++ name ++ "\",\"size\":" ++ size ++
    ",\"mode\":420,\"mtime\":\"2026-01-01T00:00:00Z\",\"linkTarget\":\"\"\x7d")

/-- The JSON texts of the sample. -/
def sampleTexts : List (Bytes × Value) :=
  [(text "\x7b\x7d", .dict []),
   (text "\x7b\"Id\":\"p1\"\x7d", .dict [("Id", .str "p1")]),
   (text "\x7b\"Id\":\"f1\"\x7d", .dict [("Id", .str "f1")]),
   (probeText, .dict [("State", .dict [("Running", .bool false), ("ExitCode", .int 0)])]),
   (targetText runningText, targetOf (stateOf true 0 "2026-01-01T00:00:00Z")),
   (targetText neverText, targetOf (stateOf false 128 "0001-01-01T00:00:00Z")),
   (statText "librknnrt.so" "1", .dict [("name", .str "librknnrt.so"), ("size", .int 1),
     ("mode", .int 420), ("mtime", .str "2026-01-01T00:00:00Z"), ("linkTarget", .str "")]),
   (statText "manifest.json" "2", .dict [("name", .str "manifest.json"), ("size", .int 2),
     ("mode", .int 420), ("mtime", .str "2026-01-01T00:00:00Z"), ("linkTarget", .str "")])]

/-- The description headers of the sample. -/
def libraryStat : String :=
  "eyJuYW1lIjoibGlicmtubnJ0LnNvIiwic2l6ZSI6MSwibW9kZSI6NDIwLCJtdGltZSI6IjIwMjYtMDEtMDFUMDA6" ++
    "MDA6MDBaIiwibGlua1RhcmdldCI6IiJ9"

def manifestStat : String :=
  "eyJuYW1lIjoibWFuaWZlc3QuanNvbiIsInNpemUiOjIsIm1vZGUiOjQyMCwibXRpbWUiOiIyMDI2LTAxLTAxVDAw" ++
    "OjAwOjAwWiIsImxpbmtUYXJnZXQiOiIifQ=="

/-- The archives of the sample. -/
def libraryTar : Bytes :=
  tar "librknnrt.so" "00000000001" "010304" [0x7f]

def manifestTar : Bytes :=
  tar "manifest.json" "00000000002" "010436" (text "\x7b\x7d")

/-- The entry of a table, or the error of the decoder that it stands for. -/
def entry {α β : Type} [BEq α] (table : List (α × β)) (error : String) (a : α) : Except Raised β :=
  match table.lookup a with
  | some b => .ok b
  | none => .error (.exception error)

/-- The decoders on the texts of the sample. -/
def sampleDecoders : Decoders where
  loads := entry sampleTexts "JSONDecodeError"
  b64decode := entry [(libraryStat, statText "librknnrt.so" "1"),
    (manifestStat, statText "manifest.json" "2")] "binascii.Error"
  getmembers
    -- the archives of the sample start with the names of their members
    | 0x6c :: _ => .ok [⟨true, [0x7f]⟩]
    | 0x6d :: _ => .ok [⟨true, text "\x7b\x7d"⟩]
    | _ => .error (.exception "tarfile.ReadError")
  decode _ := ""
  format _ := ""

/-- A Docker with one target: the inspections it will answer, the container it creates for a probe,
    the status of a copy into the target, and whether that copy was made. -/
structure Docker where
  inspections : List Bytes
  created : Bytes
  copy : Nat
  copied : Bool

/-- A file of the target after the copy. -/
def copiedFile (path : String) : Response :=
  if path == manifest then ⟨200, [("X-Docker-Container-Path-Stat", manifestStat)], manifestTar⟩
  else ⟨200, [("X-Docker-Container-Path-Stat", libraryStat)], libraryTar⟩

/-- The answers of that Docker to a controller with an empty state. -/
def Docker.answer (d : Docker) : (o : Op) → Except Raised (Reply o) × Docker
  | .create _ _ => (.ok ⟨201, [], d.created⟩, d)
  | .start _ | .stop _ | .delete _ => (.ok ⟨204, [], []⟩, d)
  | .inspect _ =>
    match d.inspections with
    | b :: bs => (.ok ⟨200, [], b⟩, { d with inspections := bs })
    | [] => (.error (.exception "ConnectionError"), d)
  | .logs _ => (.ok ⟨200, [], []⟩, d)
  | .archiveGet cid path =>
    (.ok (if d.copied && cid == "f1" then copiedFile path else ⟨404, [], []⟩), d)
  | .archiveHead _ _ => (.ok ⟨404, [], []⟩, d)
  | .archivePut cid _ _ =>
    if cid == "f1" then (.ok ⟨d.copy, [], []⟩, { d with copied := true })
    else (.ok ⟨200, [], []⟩, d)
  | .uuid => (.ok "0123456789ab", d)
  | .monotonic => (.ok (0 : Nat), d)
  | .has _ => (.ok false, d)
  | .sleep | .print _ | .set _ _ | .pop _ | .save => (.ok (), d)

/-- The pass over a target that was inspected as running, under a Docker. -/
def samplePass (d : Docker) : Pass where
  info := targetOf (stateOf true 0 "2026-01-01T00:00:00Z")
  slug := "ab_frigate-fa"
  files := sampleFiles
  trace := (reconcile sampleDecoders (targetOf (stateOf true 0 "2026-01-01T00:00:00Z"))
    "ab_frigate-fa" sampleFiles).trace Docker.answer d

/-- Nothing in memory and no file. -/
def emptyWorld : World :=
  ⟨fun _ => none, fun _ => none⟩

/-- The trace of the sample is one of `reconcile`. -/
lemma sample_runs (d : Docker) :
    Runs (reconcile sampleDecoders (samplePass d).info (samplePass d).slug (samplePass d).files)
      (samplePass d).trace ((reconcile sampleDecoders (samplePass d).info (samplePass d).slug
        (samplePass d).files).run Docker.answer d).1 :=
  runs_trace _ _

/-- The sample pass is a history. -/
lemma sample_history {d : Docker} (h : (emptyWorld.follow (samplePass d).trace).isSome = true) :
    ∃ w, Lts.Path (Step sampleDecoders) emptyWorld [samplePass d] w := by
  obtain ⟨w, eq⟩ := Option.isSome_iff_exists.mp h
  exact ⟨w, .cons (.pass (sample_runs d) (World.follow_path eq)) .nil⟩

/-- A container is created with another id than the target's. -/
def createsFresh (c : Decoders) (cid : String) : Event → Bool
  | ⟨.create _ _, .ok r⟩ =>
    match accept c r "POST /containers/create" with
    | .ok created =>
      match created.item "Id" with
      | .ok id => c.show id != cid
      | .error _ => true
    | .error _ => true
  | _ => true

/-- A trace whose creations are all of another name is fresh. -/
lemma fresh_of {c : Decoders} {cid : String} {t : List Event}
    (h : t.all (createsFresh c cid) = true) : Fresh c cid t := by
  intro name config r created id hm hr hid
  have one := List.all_eq_true.mp h _ hm
  simp only [createsFresh, hr, hid] at one
  exact bne_iff_ne.mp one

/-- A Docker that does all it is asked, with a target that is still running after the preflight. -/
def sampleDocker : Docker :=
  ⟨[probeText, targetText runningText], text "\x7b\"Id\":\"p1\"\x7d", 200, false⟩

/-- A Docker whose second inspection shows a target that never started, after one that showed it
    running. -/
def neverDocker : Docker :=
  ⟨[probeText, targetText neverText], text "\x7b\"Id\":\"p1\"\x7d", 200, false⟩

/-- A Docker that gives the id of the target to the container of the probe. -/
def sameDocker : Docker :=
  ⟨[probeText, targetText runningText], text "\x7b\"Id\":\"f1\"\x7d", 200, false⟩

/-- The inspection of a container with that body. -/
def inspection (cid : String) (body : Bytes) : Event :=
  ⟨.inspect cid, .ok ⟨200, [], body⟩⟩

/-- The response of an inspection. -/
def isBody (body : Bytes) (r : Response) : Bool :=
  r == ⟨200, [], body⟩

/-- An event is that inspection. -/
def isInspection (cid : String) (body : Bytes) : Event → Bool
  | ⟨.inspect id, .ok r⟩ => id == cid && isBody body r
  | _ => false

/-- An event is an inspection of the container. -/
def inspects (cid : String) : Op → Bool
  | .inspect id => id == cid
  | _ => false

/-- The inspection that was looked for. -/
lemma eq_of_isInspection {cid : String} {body : Bytes} {e : Event}
    (h : isInspection cid body e = true) : e = inspection cid body := by
  obtain ⟨o, r⟩ := e
  cases o with
  | inspect id =>
    cases r with
    | ok r =>
      obtain ⟨h1, h2⟩ := Bool.and_eq_true_iff.mp h
      obtain rfl := beq_iff_eq.mp h1
      have body : (r : Response) = ⟨200, [], body⟩ := beq_iff_eq (α := Response).mp h2
      exact congrArg (fun r => (⟨.inspect id, .ok r⟩ : Event)) body
    | error => cases h
  | _ => cases h

/-- A container that never ran. -/
def neverRan (info : Value) : Except Raised Bool := do
  let state ← info.item "State"
  let startedAt ← state.get "StartedAt" (.str "")
  startedAt.startsWith "0001-"

/-- Texts one after another. -/
lemma text_append {s t : String} : text (s ++ t) = text s ++ text t := by
  simp [text]

/-- The text of an inspection in short pieces. -/
lemma targetText_pieces {state : String} : targetText state =
    text "\x7b\"Id\":\"f1\",\"Name\":\"/app_ab_frigate-fa\",\"Image\":\"sha256:1\"," ++
      text "\"Config\":\x7b\"Image\":\"ghcr.io/blakeblackshear/frigate:1\"\x7d," ++
      text "\"HostConfig\":\x7b\"Privileged\":true\x7d,\"State\":" ++ text state ++ text "\x7d" := by
  simp only [targetText, text_append]

/-- What the passes under the three Dockers show, in one evaluation. -/
lemma passes_show :
    ((emptyWorld.follow (samplePass sampleDocker).trace).isSome = true ∧
      (samplePass sampleDocker).trace.all (createsFresh sampleDecoders "f1") = true ∧
      (samplePass sampleDocker).trace.any (starts "f1" ·.1) = true) ∧
    ((emptyWorld.follow (samplePass neverDocker).trace).isSome = true ∧
      (∃ h : 15 < (samplePass neverDocker).trace.length,
        isInspection "f1" (targetText neverText) ((samplePass neverDocker).trace.get ⟨15, h⟩) = true) ∧
      ((samplePass neverDocker).trace.drop 16).all (!inspects "f1" ·.1) = true ∧
      ((samplePass neverDocker).trace.drop 16).any (starts "f1" ·.1) = true ∧
      (sampleDecoders.loads (targetText neverText) >>= neverRan).toOption = some true) ∧
    (emptyWorld.follow (samplePass sameDocker).trace).isSome = true ∧
      (samplePass sameDocker).trace.countP (starts "f1" ·.1) = 2 ∧
      ((samplePass sameDocker).trace.take 11).any (starts "f1" ·.1) = true ∧
      ((samplePass sameDocker).trace.take 11).all (!inspects "f1" ·.1) = true := by
  simp only [samplePass, sampleDocker, neverDocker, sameDocker, sampleDecoders, sampleTexts, statText,
    targetText_pieces, text_append]
  decide +kernel

/-- Over every history with crashes, whatever Docker answers, a container is stopped at most once for
    a manifest digest. If no container that Docker creates has its id, it is also started at most
    once for it, and a pass that stops it, starts it or copies more than the manifest into it has it
    as its target, found it running or failed, completed a preflight of its image and inspected it
    last as running or failed. -/
theorem prepared_once {c w ls w'} (h : Lts.Path (Step c) w ls w') (cid d : String) :
    requests d (stops cid) ls ≤ 1 ∧
    ((∀ p ∈ ls, Fresh c cid p.trace) →
      requests d (starts cid) ls ≤ 1 ∧
      ∀ p ∈ ls, ∀ t1 e t2, p.trace = t1 ++ e :: t2 → Acts cid e.1 → Prepared c cid p t1) := by
  refine ⟨?_, fun fresh => ⟨?_, ?_⟩⟩
  · refine (requests_once h (fun p _ e he => ⟨stops_acts he, ?_⟩) fun _ _ _ _ _ => restart_stops).1
    exact apart_stop (stops_iff.mp he)
  · refine (requests_once h (fun p hp e he => ⟨starts_acts he, ?_⟩) fun _ _ _ _ _ => restart_starts).1
    exact (fresh p hp).apart (starts_acts he)
  · intro p hp t1 e t2 split ha
    obtain ⟨w1, w2, st⟩ := h.step_of_mem hp
    obtain ⟨r, w3, traces, _, _⟩ := st.traces
    have he : e ∈ p.trace := by simp [split]
    have apart : Apart c p.files p.trace e := (fresh p hp).apart ha
    obtain ⟨id, ht, ⟨s⟩⟩ := reached traces he ha apart
    obtain ⟨_, rfl⟩ := s.acts he ha apart
    exact s.prepared ht split ha apart

/-- A target that is prepared, stopped once and started once. -/
theorem prepared_once_sample :
    requests (digest (text "\x7b\x7d")) (stops "f1") [samplePass sampleDocker] ≤ 1 ∧
      requests (digest (text "\x7b\x7d")) (starts "f1") [samplePass sampleDocker] ≤ 1 ∧
      (samplePass sampleDocker).trace.any (starts "f1" ·.1) = true := by
  obtain ⟨⟨follows, fresh, started⟩, _⟩ := passes_show
  obtain ⟨w, path⟩ := sample_history follows
  obtain ⟨stopped, rest⟩ := prepared_once path "f1" (digest (text "\x7b\x7d"))
  refine ⟨stopped, (rest fun p hp => ?_).1, started⟩
  obtain rfl := List.mem_singleton.mp hp
  exact fresh_of fresh

/-- With arbitrary answers a target is started whose last inspection showed that it never ran, and a
    container is started twice, the first time before any preflight succeeded. -/
theorem arbitrary_answers :
    (∃ w a b, Lts.Path (Step sampleDecoders) emptyWorld [samplePass neverDocker] w ∧
      (samplePass neverDocker).trace = a ++ inspection "f1" (targetText neverText) :: b ∧
      b.all (!inspects "f1" ·.1) = true ∧ b.any (starts "f1" ·.1) = true ∧
      (sampleDecoders.loads (targetText neverText) >>= neverRan).toOption = some true) ∧
    (∃ w, Lts.Path (Step sampleDecoders) emptyWorld [samplePass sameDocker] w ∧
      (samplePass sameDocker).trace.countP (starts "f1" ·.1) = 2 ∧
      ((samplePass sameDocker).trace.take 11).any (starts "f1" ·.1) = true ∧
      ((samplePass sameDocker).trace.take 11).all (!inspects "f1" ·.1) = true) := by
  obtain ⟨_, ⟨follows, ⟨h, inspected⟩, last, started, never⟩, followsSame, same⟩ := passes_show
  refine ⟨?_, ?_⟩
  · obtain ⟨w, path⟩ := sample_history follows
    refine ⟨w, (samplePass neverDocker).trace.take 15, (samplePass neverDocker).trace.drop 16, path,
      ?_, last, started, never⟩
    rw [← eq_of_isInspection inspected, List.get_eq_getElem, ← List.drop_eq_getElem_cons,
      List.take_append_drop]
  · obtain ⟨w, path⟩ := sample_history followsSame
    exact ⟨w, path, same⟩

end K11CHaos.Frigate
