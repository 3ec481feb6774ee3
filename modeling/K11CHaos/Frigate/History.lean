import K11CHaos.Frigate.Attempts

/-!
# Histories of the controller

Passes over the two dictionaries of the controller: the one in memory and the one in the state file
(`World`). A history is a list of passes, each a run of `reconcile` that ends, or one that is cut off
anywhere and followed by a new controller that loads the file (`Step`).

From the saved intent on, the entry of a key stays in memory and in the file (`Held`), also over a
failure and a crash, and a pass that finds the entry does nothing. So a container and payload have
one pass that disturbs the container, and a container that such a pass leaves stopped stays so.
-/

namespace K11CHaos.Frigate
open Prog

/-- The dictionary in memory and the one in the state file. -/
structure World where
  mem : String → Option Mark
  file : String → Option Mark

/-- The dictionary with one entry changed. -/
def World.put (w : World) (key : String) (mark : Option Mark) : World :=
  { w with mem := fun k => if k = key then mark else w.mem k }

/-- The answer to a question about the state, or any answer to another one. A save that fails may
    have replaced the file. Only a signal raises inside a dictionary operation. -/
def Answered (w : World) : Event → World → Prop
  | ⟨.has key, r⟩, w' => w' = w ∧ (r = .ok (w.mem key).isSome ∨ r = .error .exit)
  | ⟨.set key mark, r⟩, w' =>
    (r = .ok () ∧ w' = w.put key (some mark)) ∨ (r = .error .exit ∧ w' = w)
  | ⟨.pop key, r⟩, w' =>
    (r = .ok () ∧ w.mem key ≠ none ∧ w' = w.put key none) ∨ (r = .error .exit ∧ w' = w) ∨
      (r = .error (.exception ("KeyError " ++ key)) ∧ w.mem key = none ∧ w' = w)
  | ⟨.save, .ok _⟩, w' => w' = { w with file := w.mem }
  | ⟨.save, .error _⟩, w' => w' = w ∨ w' = { w with file := w.mem }
  | _, w' => w' = w

/-- One pass: what `reconcile` was called with, and what it asked. -/
structure Pass where
  info : Value
  slug : String
  files : Files
  trace : List Event

/-- Steps of a history. -/
inductive Step (c : Decoders) : World → Pass → World → Prop where
  | pass {w info slug files t r w'} :
    Runs (reconcile c info slug files) t r →
    Lts.Path Answered w t w' →
    Step c w ⟨info, slug, files, t⟩ w'
  | crash {w info slug files t w'} :
    Begins (reconcile c info slug files) t →
    Lts.Path Answered w t w' →
    Step c w ⟨info, slug, files, t⟩ ⟨w'.file, w'.file⟩

/-- The world, if the dictionary gives that answer. -/
def World.agrees (w : World) (present answer : Bool) : Option World :=
  if present = answer then some w else none

/-- The world after an event that raises nothing. -/
def World.after (w : World) : Event → Option World
  | ⟨.has key, .ok known⟩ => w.agrees (w.mem key).isSome known
  | ⟨.set key mark, .ok _⟩ => some (w.put key (some mark))
  | ⟨.save, .ok _⟩ => some { w with file := w.mem }
  | ⟨.has _, .error _⟩ | ⟨.set _ _, .error _⟩ | ⟨.save, .error _⟩ | ⟨.pop _, _⟩ => none
  | _ => some w

/-- What a world answers is one of the answers it may give. -/
lemma World.answered {w w' : World} {e : Event} (h : w.after e = some w') : Answered w e w' := by
  obtain ⟨o, r⟩ := e
  cases o with
  | has key =>
    cases r with
    | ok known =>
      dsimp only [World.after, World.agrees] at h
      split_ifs at h with eq
      exact ⟨(Option.some.inj h).symm, .inl (congrArg Except.ok eq.symm)⟩
    | error => cases h
  | set key mark =>
    cases r with
    | ok u => exact .inl ⟨rfl, (Option.some.inj h).symm⟩
    | error => cases h
  | save =>
    cases r with
    | ok u => exact (Option.some.inj h).symm
    | error => cases h
  | pop => cases h
  | _ => exact (Option.some.inj h).symm

/-- The world after a trace that raises nothing. -/
def World.follow (w : World) : List Event → Option World
  | [] => some w
  | e :: t =>
    match w.after e with
    | some w' => w'.follow t
    | none => none

/-- A history that is followed is a path. -/
lemma World.follow_path {w w' : World} {t : List Event} (h : w.follow t = some w') :
    Lts.Path Answered w t w' := by
  induction t generalizing w with
  | nil =>
    cases h
    exact .nil
  | cons e t ih =>
    unfold World.follow at h
    split at h
    · rename_i w1 eq
      exact .cons (World.answered eq) (ih h)
    · cases h

/-! ## The entry of a key -/

/-- The entry of a key is in memory and in the file. -/
def Held (key : String) (w : World) : Prop :=
  w.mem key ≠ none ∧ w.file key ≠ none

/-- Only `pop` loses an entry. -/
lemma Held.step {key : String} {w w' : World} {e : Event} (h : Held key w) (st : Answered w e w')
    (hp : e.1 ≠ .pop key) : Held key w' := by
  obtain ⟨o, r⟩ := e
  cases o with
  | has k =>
    obtain ⟨rfl, _⟩ := st
    exact h
  | set k mark =>
    obtain ⟨_, rfl⟩ | ⟨_, rfl⟩ := st
    · refine ⟨?_, h.2⟩
      dsimp only [World.put]
      split_ifs
      · exact Option.some_ne_none mark
      · exact h.1
    · exact h
  | pop k =>
    have ne : key ≠ k := fun eq => hp (by rw [eq])
    obtain ⟨_, _, rfl⟩ | ⟨_, rfl⟩ | ⟨_, _, rfl⟩ := st
    · refine ⟨?_, h.2⟩
      dsimp only [World.put]
      rw [if_neg ne]
      exact h.1
    · exact h
    · exact h
  -- a save that fails may have stored the record all the same
  | save =>
    cases r with
    | ok _ =>
      obtain rfl := st
      exact ⟨h.1, h.1⟩
    | error _ =>
      obtain rfl | rfl := st
      · exact h
      · exact ⟨h.1, h.1⟩
  | _ =>
    obtain rfl := st
    exact h

/-- A record that is held stays unless its key is removed. -/
lemma Held.path {key : String} {w w' : World} {t : List Event} (h : Held key w)
    (p : Lts.Path Answered w t w') (hp : ∀ e ∈ t, e.1 ≠ .pop key) : Held key w' := by
  induction p with
  | nil => exact h
  | cons st _ ih =>
    refine ih (h.step st (hp _ List.mem_cons_self)) fun e he => hp e (List.mem_cons_of_mem _ he)

section Pass

variable {c : Decoders} {info : Value} {slug cid key x : String} {files : Files}

/-- The parts of a pass up to its decision ask nothing of the dictionary but whether it has the key. -/
lemma reconcile_known {p : Op → Prop} (hp : ∀ k, p (.has k)) {t r}
    (h : Traces (reconcile c info slug files) t r) {e : Event} (he : e ∈ t) (ne : ¬ p e.1) :
    ∃ id data t', info.item "Id" >>= Value.asStr = .ok id ∧ fileAt files manifest = .ok data ∧
      t = ⟨.has (keyOf id data), .ok false⟩ :: t' ∧ e ∈ t' ∧
      Traces (decideTarget c info slug files id (keyOf id data)) t' r := by
  obtain ⟨t1, _, t2, h1, g1, rfl, e1⟩ := h.reached (m := .ofExcept _) (p := p) only_ofExcept he ne
  obtain ⟨rfl, _⟩ := runs_ofExcept.mp h1
  obtain ⟨t3, id, t4, h3, g2, rfl, e2⟩ :=
    g1.reached (m := .ofExcept _) (p := p) only_ofExcept e1 ne
  obtain ⟨rfl, hid⟩ := runs_ofExcept.mp h3
  obtain ⟨t5, data, t6, h5, g3, rfl, e3⟩ :=
    g2.reached (m := .ofExcept _) (p := p) only_ofExcept e2 ne
  obtain ⟨rfl, hdata⟩ := runs_ofExcept.mp h5
  obtain ⟨t7, known, t8, h7, g4, rfl, e4⟩ :=
    g3.reached (m := ask _) (p := p) (only_ask.mpr (hp _)) e3 ne
  obtain rfl := runs_ask_ok h7
  cases known with
  | true => exact absurd (Only.begins (p := p) only_pure g4.begins e e4) ne
  | false =>
    obtain ⟨t9, wanted, t10, h9, g5, rfl, e5⟩ :=
      Traces.reached (m := .ofExcept _) (p := p) g4 only_ofExcept e4 ne
    obtain ⟨rfl, _⟩ := runs_ofExcept.mp h9
    cases wanted with
    | false => exact absurd (Only.begins (p := p) only_pure g5.begins e e5) ne
    | true => exact ⟨id, data, t10, hid.symm, hdata.symm, by simp, e5, g5⟩

/-- The questions after the decision name one key. -/
def Keyed (key : String) : Op → Prop
  | .has k | .set k _ | .pop k => k = key
  | _ => True

/-- The decision asks about its own key only. -/
lemma decideTarget_only : (decideTarget c info slug files cid key).Only (Keyed key) := by
  have reads : ∀ o, Reads o → Keyed key o := by
    intro o h
    cases o with
    | archiveGet | archiveHead => trivial
    | _ => cases h
  have outside : ∀ o, Outside o → Keyed key o := by
    intro o h
    cases o with
    | has | set | pop => exact h.elim
    | _ => trivial
  have copies {pending : Files} : (putManifest c cid files pending).Only (Keyed key) := by
    unfold putManifest
    split
    · exact only_pure
    · refine Only.bind (putFiles_only trivial) fun _ => Only.bind (readFile_only.mono reads) fun _ => ?_
      exact Only.bind only_ofExcept fun _ => only_require
  have adopts {pending : Files} : (adopt c files cid key pending).Only (Keyed key) := by
    refine Only.bind copies fun _ => Only.bind (only_ask.mpr rfl) fun _ => ?_
    refine Only.bind (only_ask.mpr trivial) fun _ => ?_
    exact Only.bind (reportFfmpeg_only fun _ => trivial) fun _ => only_pure
  have works {fresh : Value} : (restart c slug files cid key fresh).Only (Keyed key) := by
    refine Only.bind (checkCollisions_only.mono reads) fun _ => Only.bind only_ofExcept fun _ => ?_
    refine Only.bind (stopRunning_only trivial) fun _ => ?_
    exact copyAndStart_only trivial reads trivial rfl trivial fun _ => trivial
  have installs : (install c info slug files cid key).Only (Keyed key) := by
    refine Only.bind only_ofExcept fun _ => Only.bind (preflight_only.mono outside) fun _ => ?_
    refine Only.bind (inspect_only trivial) fun _ => Only.bind only_ofExcept fun _ => ?_
    refine Only.bind only_ofExcept fun stopped => ?_
    cases stopped with
    | true => exact Only.bind (only_ask.mpr rfl) fun _ => Only.bind (only_ask.mpr trivial) fun _ => only_pure
    | false => exact works
  have caughts {y : Except Raised Bool} : (caught key y).Only (Keyed key) := by
    refine caught_only.mono fun o h => ?_
    obtain rfl | rfl := h
    · exact rfl
    · trivial
  refine Only.bind (checkCollisions_only.mono reads) fun pending => ?_
  split
  · exact adopts
  · refine Only.bind (only_ask.mpr rfl) fun _ => Only.bind (only_ask.mpr trivial) fun _ => ?_
    exact Only.bind installs.attempt fun _ => caughts

/-- An entry is popped only by a pass that did not find it first. -/
lemma pop_unknown {t r} (h : Traces (reconcile c info slug files) t r) {e : Event} (he : e ∈ t)
    (hp : e.1 = .pop key) : ∃ t', t = ⟨.has key, .ok false⟩ :: t' := by
  obtain ⟨id, data, t', _, _, rfl, he', h'⟩ :=
    reconcile_known (p := (· ≠ .pop key)) nofun h he (not_not.mpr hp)
  have keyed : Keyed (keyOf id data) e.1 := decideTarget_only.begins h'.begins e he'
  rw [hp] at keyed
  obtain rfl : key = keyOf id data := keyed
  exact ⟨t', rfl⟩

/-- The answer of a dictionary that has the key. -/
lemma Held.known {t w w'} (hk : Held key w) (p : Lts.Path Answered w (⟨.has key, .ok false⟩ :: t) w') :
    False := by
  cases p with
  | cons st _ =>
    obtain ⟨_, eq | eq⟩ := st
    · rw [Option.isSome_iff_ne_none.mpr hk.1] at eq
      cases eq
    · cases eq

/-- A pass keeps an entry. -/
lemma Held.pass {t r w w'} (hk : Held key w) (h : Traces (reconcile c info slug files) t r)
    (p : Lts.Path Answered w t w') : Held key w' := by
  refine hk.path p fun e he hp => ?_
  obtain ⟨t', rfl⟩ := pop_unknown h he hp
  exact hk.known p

/-- A pass that restarts its target did not find the entry of its key. -/
lemma Restart.unknown {t r w w'} (s : Restart c info slug files cid t r)
    (p : Lts.Path Answered w t w') : ¬ Held (keyOf cid s.data) w := by
  intro hk
  rw [s.trace] at p
  exact hk.known p

/-- A pass that restarts its target leaves the entry of its key. -/
lemma Restart.held {t r w w'} (s : Restart c info slug files cid t r)
    (p : Lts.Path Answered w t w') : Held (keyOf cid s.data) w' := by
  rw [s.trace, ← List.cons_append] at p
  obtain ⟨w1, _, p⟩ := p.append_inv
  cases p with
  | cons st1 p =>
    cases p with
    | cons st2 p =>
      obtain ⟨_, rfl⟩ | ⟨eq, _⟩ := st1
      · obtain rfl := st2
        refine Held.path (w := { w1.put (keyOf cid s.data) (some .preparing) with
          file := (w1.put (keyOf cid s.data) (some .preparing)).mem }) ?_ p fun e he hp => ?_
        · have entry : (w1.put (keyOf cid s.data) (some .preparing)).mem (keyOf cid s.data) ≠ none := by
            simp [World.put]
          exact ⟨entry, entry⟩
        · simp only [List.mem_append, List.mem_cons] at he
          obtain he | rfl | he | he := he
          · have := preflight_only.runs s.probed e he
            rw [hp] at this
            exact this
          · cases hp
          · have := s.work_only e he
            rw [hp] at this
            exact this
          · obtain eq | eq := s.rest_only e he <;> rw [hp] at eq <;> cases eq
      · cases eq

end Pass

/-! ## Histories -/

section History

variable {c : Decoders} {cid d : String}

/-- The manifest digest of a pass. -/
def Pass.carries (d : String) (p : Pass) : Prop :=
  ∃ data, fileAt p.files manifest = .ok data ∧ digest data = d

instance (d : String) (p : Pass) : Decidable (p.carries d) :=
  match h : fileAt p.files manifest with
  | .ok data => decidable_of_iff (digest data = d) (by simp [Pass.carries, h])
  | .error e => isFalse (by simp [Pass.carries, h])

/-- The requests of a kind that the passes with a manifest digest send. -/
def requests (d : String) (q : Op → Bool) (ls : List Pass) : Nat :=
  ((ls.filter fun p => p.carries d).map fun p => p.trace.countP fun e => q e.1).sum

/-- A step is a trace of a pass over the dictionaries, and the file survives it. -/
lemma Step.traces {w p w'} (h : Step c w p w') :
    ∃ r w1, Traces (reconcile c p.info p.slug p.files) p.trace r ∧
      Lts.Path Answered w p.trace w1 ∧ ∀ key, Held key w1 → Held key w' := by
  cases h with
  | pass h path => exact ⟨some _, _, h, path, fun _ => id⟩
  | crash h path => exact ⟨none, _, h, path, fun _ hk => ⟨hk.2, hk.2⟩⟩

/-- The key of a record carries the digest of the data. -/
lemma keyOf_digest {data : Bytes} (h : digest data = d) : keyOf cid data = cid ++ ":" ++ d := by
  rw [keyOf, h]

/-- Requests that a pass sends to its target at most once are sent once in a history, and never where
    the key has its entry. -/
lemma requests_once {q : Op → Bool} {w ls w'} (h : Lts.Path (Step c) w ls w')
    (hq : ∀ p ∈ ls, ∀ e : Event, q e.1 = true → Acts cid e.1 ∧ Apart c p.files p.trace e)
    (once : ∀ slug files id key fresh, (restart c slug files id key fresh).AtMost q 1) :
    requests d q ls ≤ 1 ∧ (Held (cid ++ ":" ++ d) w → requests d q ls = 0) := by
  induction h with
  | nil => exact ⟨Nat.zero_le 1, fun _ => rfl⟩
  | @cons w p w1 ls w2 st _ ih =>
    obtain ⟨le, zero⟩ := ih fun p' hp' => hq p' (List.mem_cons_of_mem _ hp')
    obtain ⟨r, w1', traces, path, kept⟩ := st.traces
    have keep : Held (cid ++ ":" ++ d) w → Held (cid ++ ":" ++ d) w1 :=
      fun hk => kept _ (hk.pass traces path)
    by_cases carries : p.carries d
    · have split : requests d q (p :: ls) =
          p.trace.countP (fun e => q e.1) + requests d q ls := by
        rw [requests, List.filter_cons_of_pos (by simpa using carries), List.map_cons,
          List.sum_cons, requests]
      rw [split]
      by_cases quiet : p.trace.countP (fun e => q e.1) = 0
      · rw [quiet, Nat.zero_add]
        exact ⟨le, fun hk => zero (keep hk)⟩
      · obtain ⟨e, he, hqe⟩ := List.countP_pos_iff.mp (Nat.pos_of_ne_zero quiet)
        obtain ⟨ha, apart⟩ := hq p List.mem_cons_self e hqe
        obtain ⟨id, _, ⟨s⟩⟩ := reached traces he ha apart
        obtain ⟨_, rfl⟩ := s.acts he ha apart
        obtain ⟨data, hdata, hd⟩ := carries
        have same : s.data = data := Except.ok.inj (s.payload.symm.trans hdata)
        have key : keyOf cid s.data = cid ++ ":" ++ d := keyOf_digest (same ▸ hd)
        -- the pass that asks leaves a record, and the later ones find it
        have after : Held (cid ++ ":" ++ d) w1 := key ▸ kept _ (s.held path)
        have pass := counts traces (hq p List.mem_cons_self) fun _ _ _ => once _ _ _ _ _
        rw [zero after]
        exact ⟨pass, fun hk => absurd (key ▸ hk) (s.unknown path)⟩
    · have skip : requests d q (p :: ls) = requests d q ls := by
        rw [requests, List.filter_cons_of_neg (by simpa using carries), requests]
      rw [skip]
      exact ⟨le, fun hk => zero (keep hk)⟩

end History

end K11CHaos.Frigate
