import K11CHaos.Engine.Workflow
import K11CHaos.Lib.Loop

/-!
# Preparing the loader

`prepare_with` of `usb.rs`: the selected board is found again, asked whether it is ready, and only when
it does not answer in its BootROM mode the RAM loader is uploaded; then the port is polled until a ready
device answers there or the time is over. The trait `Preparation` is the environment (`Query`), each of
its answers is arbitrary, and the loop has no bound on its rounds (`PrepareWith`).

One round either ends the preparation or leads to a round after the upload (`Phase`). The upload stands
in the first round behind all its checks, and no later round asks for one.
-/

namespace K11CHaos.Engine.Usb

open Prog

/-- `readiness::State`. -/
inductive State where
  | ready
  | unavailable
  | busy
deriving DecidableEq, Repr

/-- The trait `Preparation`, and `start.elapsed() >= limit`. -/
inductive Query where
  | scan
  | probe (d : Device)
  | observe (d : Device)
  | upload (d : Device)
  | wait
  | expired

/-- What the host answers. -/
def Query.Ans : Query → Type
  | scan => Result (List Device)
  | probe _ => Result State
  | observe _ => Result Json
  | upload _ => Result Unit
  | wait => Unit
  | expired => Bool

/-- Preparation steps. -/
abbrev Prep := Prog Query Query.Ans Failure

/-- A question with its answer. -/
abbrev Ev := Prog.Ev Query Query.Ans

def scan : Prep (List Device) :=
  asked .scan id

def probe (d : Device) : Prep State :=
  asked (.probe d) id

def observe (d : Device) : Prep Json :=
  asked (.observe d) id

def upload (d : Device) : Prep Unit :=
  asked (.upload d) id

def wait : Prep Unit :=
  asked .wait Except.ok

def expired : Prep Bool :=
  asked .expired Except.ok

/-- `prepare_guard`. -/
def prepareGuard (d : Device) (location : String) (confirmed : Bool) : Result Unit := do
  deny (!confirmed) "CONFIRM_BOARD" "Confirm the connected board is a K11C"
  deny (d.location ≠ location) "DEVICE_CHANGED" "USB port changed; select the device again"
  deny (d.vid ≠ 0x2207 ∨ d.pid ∉ [0x350a, 0x300a]) "UNSUPPORTED_DEVICE" "Not an RK356x USB ID"
  deny (!d.binding) "DRIVER_BINDING" "Rockusb binding required"
  deny (d.mode ∉ ["Maskrom", "Loader"]) "USB_MODE" "Unknown device mode"

/-- The devices of a scan at one port. -/
def atPort (all : List Device) (location : String) : List Device :=
  all.filter fun d => d.location == location

/-- `same_port_device`. -/
def samePortDevice (all : List Device) (location : String) : Result (Option Device) := do
  deny ((atPort all location).length > 1) "AMBIGUOUS_DEVICE"
    "Multiple devices at the selected USB location"
  match (atPort all location).head? with
  | some d =>
    guard d
    return some d
  | none => return none

/-- The observation is one of this device at this port, and ready. -/
def matchesDevice (d : Device) (observation : Json) : Bool :=
  Components.same (Components.field observation "ready") (.bool true) &&
    Components.same (Components.field observation "instance_id") (.str d.instanceId) &&
    Components.same (Components.field observation "location") (.str d.location)

/-- The object that `prepared` returns. -/
structure Prepared where
  device : Device
  observation : Json
  uploaded : Bool

/-- `prepared`. -/
def prepared (d : Device) (observation : Json) (uploaded : Bool) : Result Prepared := do
  deny (!matchesDevice d observation) "DEVICE_CHANGED"
    "Readiness observation does not match the selected USB device and port"
  return ⟨d, observation, uploaded⟩

/-- Where `prepare_with` stands: before its upload, or in its loop with the value of `visible`. -/
inductive Phase where
  | select
  | reconnect (visible : Bool)
deriving DecidableEq, Repr

/-- The device of a scan that was selected. -/
def selected (all : List Device) (id : String) : Result Device :=
  match all.find? fun d => d.instanceId == id with
  | some d => .ok d
  | none => .error (fail "DEVICE_GONE" "Selected device disconnected")

/-- `prepare_with` up to its loop. -/
def select (id location : String) (confirmed : Bool) : Prep (Phase ⊕ Prepared) := do
  let all ← scan
  let d ← Prog.ofExcept (selected all id)
  Prog.ofExcept (prepareGuard d location confirmed)
  let state ← probe d
  if state = .ready then
    let observation ← observe d
    let p ← Prog.ofExcept (prepared d observation false)
    return .inr p
  else if state = .unavailable ∧ d.mode = "Maskrom" then
    upload d
    return .inl (.reconnect false)
  else
    throw (fail "USB_NOT_READY" "Device is present but not ready; RAM Loader was not sent")

/-- The end of a round of the loop: another one, unless the time is over. -/
def elapse (visible : Bool) : Prep (Phase ⊕ Prepared) := do
  let late ← expired
  if !late then
    return .inl (.reconnect visible)
  else if visible then
    throw (fail "USB_NOT_READY"
      "Device reappeared on the selected port but did not answer the Rockusb readiness query")
  else
    throw (fail "LOADER_RECONNECT" "Device did not reappear on the same USB port")

/-- A round of the loop. -/
def poll (location : String) (visible : Bool) : Prep (Phase ⊕ Prepared) := do
  wait
  let all ← scan
  let next ← Prog.ofExcept (samePortDevice all location)
  match next with
  | none => elapse visible
  | some next =>
    let state ← (probe next).attempt
    match state with
    | .ok .ready =>
      let observation ← observe next
      let p ← Prog.ofExcept (prepared next observation true)
      return .inr p
    | .ok _ => elapse true
    | .error e => if e.code = "USB_OPEN" ∨ e.code = "DEVICE_GONE" then elapse true else throw e

/-- `prepare_with`, one round after the other. -/
def prepareRound (id location : String) (confirmed : Bool) : Phase → Prep (Phase ⊕ Prepared)
  | .select => select id location confirmed
  | .reconnect visible => poll location visible

/-- The traces of `prepare_with` with their outcomes; `none` when the trace is cut off. -/
def PrepareWith (id location : String) (confirmed : Bool) :
    List Ev → Option (Result Prepared) → Prop :=
  Rounds (prepareRound id location confirmed) .select

/-- An upload of the loader. -/
def Query.isUpload : Query → Bool
  | upload _ => true
  | _ => false

/-- Why the loader may be sent to a device after the given trace. -/
structure Permitted (id location : String) (confirmed : Bool) (before : List Ev) (d : Device) :
    Prop where
  confirmed : confirmed = true
  selected : d.instanceId = id
  port : d.location = location
  bootrom : d.mode = "Maskrom"
  present : ∃ all : List Device, d ∈ all ∧ ⟨.scan, .ok all⟩ ∈ before
  unavailable : before.getLast? = some ⟨.probe d, .ok .unavailable⟩

/-- A trace ends with a ready device of its last scan, and an observation of it. -/
structure Answered (location : String) (t : List Ev) (p : Prepared) (all : List Device) : Prop where
  port : p.device.location = location
  present : p.device ∈ all
  last : ∃ t', t = t' ++ [⟨.scan, .ok all⟩, ⟨.probe p.device, .ok .ready⟩,
    ⟨.observe p.device, .ok p.observation⟩]
  ready : Components.field p.observation "ready" = .bool true
  instance_id : Components.field p.observation "instance_id" = .str p.device.instanceId
  location : Components.field p.observation "location" = .str location

/-- `prepared` accepts exactly the observations of the device itself. -/
lemma prepared_ok {d : Device} {observation uploaded p}
    (h : prepared d observation uploaded = .ok p) :
    p = ⟨d, observation, uploaded⟩ ∧ Components.field observation "ready" = .bool true ∧
      Components.field observation "instance_id" = .str d.instanceId ∧
      Components.field observation "location" = .str d.location := by
  simp only [prepared, bind_ok, deny_ok] at h
  obtain ⟨_, hm, h⟩ := h
  cases h
  simp only [matchesDevice, Bool.not_eq_true', Bool.not_eq_false, Bool.and_eq_true, Components.same_iff] at hm
  exact ⟨rfl, hm.1.1, hm.1.2, hm.2⟩

/-- `prepare_guard` lets only a confirmed device at the selected port through. -/
lemma prepareGuard_ok {d : Device} {location confirmed u}
    (h : prepareGuard d location confirmed = .ok u) :
    confirmed = true ∧ d.location = location := by
  simp only [prepareGuard, bind_ok, deny_ok] at h
  obtain ⟨_, c, _, l, _⟩ := h
  exact ⟨by simpa using c, not_not.mp l⟩

/-- The device that the loop goes on with is the only one at its port. -/
lemma samePortDevice_some {all : List Device} {location d}
    (h : samePortDevice all location = .ok (some d)) :
    atPort all location = [d] ∧ d ∈ all ∧ d.location = location := by
  simp only [samePortDevice, bind_ok, deny_ok] at h
  obtain ⟨_, one, h⟩ := h
  cases e : atPort all location with
  | nil =>
    rw [e] at h
    cases h
  | cons x xs =>
    rw [e] at h one
    obtain ⟨_, _, h⟩ := bind_ok.mp h
    cases h
    have none : xs = [] := by
      cases xs with
      | nil => rfl
      | cons y ys => simp at one
    subst none
    have hd : d ∈ atPort all location := by
      rw [e]
      exact List.mem_singleton_self d
    obtain ⟨ha, hl⟩ := List.mem_filter.mp hd
    exact ⟨rfl, ha, beq_iff_eq.mp hl⟩

/-- `find` gives a device of the scan. -/
lemma selected_ok {all : List Device} {id d} (h : selected all id = .ok d) :
    d ∈ all ∧ d.instanceId = id := by
  cases hd : all.find? fun d => d.instanceId == id with
  | none =>
    rw [selected, hd] at h
    cases h
  | some d' =>
    rw [selected, hd] at h
    cases h
    exact ⟨List.mem_of_find?_eq_some hd, beq_iff_eq.mp (List.find?_some hd :)⟩

/-- How often a trace asks for an upload. -/
def uploads (t : List Ev) : Nat :=
  t.countP fun e => e.1.isUpload

section Select

variable {id location : String} {confirmed : Bool}

/-- A trace that ends with its only upload, which is permitted. -/
def Sent (id location : String) (confirmed : Bool) (t : List Ev) : Prop :=
  ∃ before d a, t = before ++ [⟨.upload d, a⟩] ∧ uploads before = 0 ∧
    Permitted id location confirmed before d

/-- The questions of the first round up to its upload. -/
lemma sent {all : List Device} {d : Device} {a : Result Unit}
    (hd : selected all id = .ok d) {u} (hg : prepareGuard d location confirmed = .ok u)
    (bootrom : d.mode = "Maskrom") :
    Sent id location confirmed
      [⟨.scan, .ok all⟩, ⟨.probe d, .ok .unavailable⟩, ⟨.upload d, a⟩] := by
  obtain ⟨found, same⟩ := selected_ok hd
  obtain ⟨conf, port⟩ := prepareGuard_ok hg
  exact ⟨[⟨.scan, .ok all⟩, ⟨.probe d, .ok .unavailable⟩], d, a, rfl, rfl, conf, same, port, bootrom,
    ⟨all, found, List.mem_cons_self⟩, rfl⟩

/-- The first round asks for no upload, or its trace ends with one that is permitted. -/
lemma select_begins {t} (h : Begins (select id location confirmed) t) :
    uploads t = 0 ∨ Sent id location confirmed t := by
  obtain rfl | ⟨_, t1, rfl, ⟨_, _, rfl⟩ | ⟨all, rfl, h1⟩⟩ := Begins.asked h
  · exact .inl rfl
  · exact .inl rfl
  obtain rfl | ⟨d, hd, h2⟩ := h1.checked
  · exact .inl rfl
  obtain rfl | ⟨u, hg, h3⟩ := h2.checked
  · exact .inl rfl
  obtain rfl | ⟨_, t2, rfl, ⟨_, _, rfl⟩ | ⟨state, rfl, h4⟩⟩ := Begins.asked h3
  · exact .inl rfl
  · exact .inl rfl
  split_ifs at h4 with ready bootrom
  · obtain rfl | ⟨_, t3, rfl, ⟨_, _, rfl⟩ | ⟨observation, rfl, h5⟩⟩ := Begins.asked h4
    · exact .inl rfl
    · exact .inl rfl
    obtain rfl | ⟨p, _, h6⟩ := h5.checked
    · exact .inl rfl
    · cases h6
      exact .inl rfl
  · obtain ⟨rfl, mode⟩ := bootrom
    obtain rfl | ⟨a, t3, rfl, ⟨_, _, rfl⟩ | ⟨u, _, h5⟩⟩ := Begins.asked h4
    · exact .inl rfl
    · exact .inr (sent hd hg mode)
    · cases h5
      exact .inr (sent hd hg mode)
  · cases h4
    exact .inl rfl

/-- The first round ends well with a ready device, or with an upload. -/
lemma select_ok {t x} (h : Runs (select id location confirmed) t (.ok x)) :
    (∃ p all, x = .inr p ∧ Answered location t p all ∧ p.uploaded = false ∧ uploads t = 0) ∨
      x = .inl (.reconnect false) ∧ Sent id location confirmed t := by
  obtain ⟨_, all, t1, rfl, rfl, h1⟩ := runs_asked_bind_ok.mp h
  obtain ⟨d, hd, h2⟩ := runs_ofExcept_bind_ok.mp h1
  obtain ⟨u, hg, h3⟩ := runs_ofExcept_bind_ok.mp h2
  obtain ⟨_, state, t2, rfl, rfl, h4⟩ := runs_asked_bind_ok.mp h3
  split_ifs at h4 with ready bootrom
  · subst ready
    obtain ⟨_, observation, t3, rfl, rfl, h5⟩ := runs_asked_bind_ok.mp h4
    obtain ⟨p, hp, h6⟩ := runs_ofExcept_bind_ok.mp h5
    obtain ⟨rfl, hx⟩ := runs_pure.mp h6
    cases hx
    obtain ⟨rfl, r, i, l⟩ := prepared_ok hp
    obtain ⟨found, -⟩ := selected_ok hd
    obtain ⟨-, port⟩ := prepareGuard_ok hg
    exact .inl ⟨_, all, rfl, ⟨port, found, ⟨[], rfl⟩, r, i, port ▸ l⟩, rfl, rfl⟩
  · obtain ⟨rfl, mode⟩ := bootrom
    obtain ⟨a, u, t3, _, rfl, h5⟩ := runs_asked_bind_ok.mp h4
    obtain ⟨rfl, hx⟩ := runs_pure.mp h5
    cases hx
    exact .inr ⟨rfl, sent hd hg mode⟩
  · cases h4

end Select

/-- The loop never asks for an upload. -/
lemma poll_only {location visible} :
    (poll location visible).Only (·.isUpload = false) := by
  have end_only : ∀ v, (elapse v).Only (·.isUpload = false) := by
    intro v
    refine .bind (only_asked.mpr rfl) fun late => ?_
    split_ifs <;> trivial
  refine .bind (only_asked.mpr rfl) fun _ => .bind (only_asked.mpr rfl) fun all =>
    .bind only_ofExcept fun next => ?_
  cases next with
  | none => exact end_only _
  | some d =>
    refine .bind (Only.attempt (only_asked.mpr rfl)) fun state => ?_
    cases state with
    | ok state =>
      cases state with
      | ready =>
        exact .bind (only_asked.mpr rfl) fun o => .bind only_ofExcept fun p => only_pure
      | unavailable => exact end_only _
      | busy => exact end_only _
    | error e =>
      dsimp only
      split_ifs
      · exact end_only _
      · trivial

/-- A round of the loop that is not over does not end the preparation. -/
lemma elapse_ok {visible t x} (h : Runs (elapse visible) t (.ok x)) :
    x = .inl (.reconnect visible) := by
  obtain ⟨_, late, t1, _, rfl, h1⟩ := runs_asked_bind_ok.mp h
  split_ifs at h1
  · obtain ⟨rfl, hx⟩ := runs_pure.mp h1
    cases hx
    rfl
  · cases h1
  · cases h1

/-- A round of the loop leads to another one, or it ends well with a ready device that is alone at
    the port. -/
lemma poll_ok {location visible t x} (h : Runs (poll location visible) t (.ok x)) :
    (∃ visible, x = .inl (.reconnect visible)) ∨
      ∃ p all, x = .inr p ∧ Answered location t p all ∧ p.uploaded = true ∧
        atPort all location = [p.device] := by
  obtain ⟨w, _, t1, _, rfl, h1⟩ := runs_asked_bind_ok.mp h
  obtain ⟨_, all, t2, rfl, rfl, h2⟩ := runs_asked_bind_ok.mp h1
  obtain ⟨next, hn, h3⟩ := runs_ofExcept_bind_ok.mp h2
  cases next with
  | none => exact .inl ⟨_, elapse_ok h3⟩
  | some d =>
    obtain ⟨alone, found, port⟩ := samePortDevice_some hn
    obtain ⟨t3, state, t4, h4, h5, rfl⟩ := runs_bind_ok.mp h3
    obtain ⟨r, h6, hr⟩ := runs_attempt.mp h4
    cases hr
    obtain ⟨_, rfl, rfl⟩ := runs_asked.mp h6
    cases state with
    | error e =>
      dsimp only at h5
      split_ifs at h5
      · exact .inl ⟨_, elapse_ok h5⟩
      · cases h5
    | ok state =>
      cases state with
      | unavailable => exact .inl ⟨_, elapse_ok h5⟩
      | busy => exact .inl ⟨_, elapse_ok h5⟩
      | ready =>
        obtain ⟨_, observation, t5, rfl, rfl, h7⟩ := runs_asked_bind_ok.mp h5
        obtain ⟨p, hp, h8⟩ := runs_ofExcept_bind_ok.mp h7
        obtain ⟨rfl, hx⟩ := runs_pure.mp h8
        cases hx
        obtain ⟨rfl, r, i, l⟩ := prepared_ok hp
        exact .inr ⟨_, all, rfl, ⟨port, found, ⟨[⟨.wait, w⟩], rfl⟩, r, i, port ▸ l⟩, rfl, alone⟩

/-- Uploads of one stretch after another. -/
lemma uploads_append {t u : List Ev} : uploads (t ++ u) = uploads t + uploads u :=
  List.countP_append

/-- A trace without uploads before its only one, and none after it. -/
def SentOnce (id location : String) (confirmed : Bool) (t : List Ev) : Prop :=
  ∃ before d a after, t = before ++ ⟨.upload d, a⟩ :: after ∧ uploads before = 0 ∧
    uploads after = 0 ∧ Permitted id location confirmed before d

/-- What holds before a round. -/
def Before (id location : String) (confirmed : Bool) : Phase → List Ev → Prop
  | .select, t => t = []
  | .reconnect _, t => SentOnce id location confirmed t

section Prepare

variable {id location : String} {confirmed : Bool}

/-- A single upload in its order. -/
lemma Sent.once {t} (h : Sent id location confirmed t) : SentOnce id location confirmed t := by
  obtain ⟨before, d, a, rfl, hb, hp⟩ := h
  exact ⟨before, d, a, [], rfl, hb, rfl, hp⟩

/-- Nothing that the loop asks is an upload. -/
lemma SentOnce.append {t u} (h : SentOnce id location confirmed t) (hu : uploads u = 0) :
    SentOnce id location confirmed (t ++ u) := by
  obtain ⟨before, d, a, after, rfl, hb, ha, hp⟩ := h
  refine ⟨before, d, a, after ++ u, ?_, hb, ?_, hp⟩
  · rw [List.append_assoc, List.cons_append]
  · rw [uploads_append, ha, hu]

/-- An upload in its order is one upload. -/
lemma SentOnce.count {t} (h : SentOnce id location confirmed t) : uploads t = 1 := by
  obtain ⟨before, d, a, after, rfl, hb, ha, -⟩ := h
  have one : uploads (⟨.upload d, a⟩ :: after) = uploads after + 1 :=
    List.countP_cons_of_pos rfl
  rw [uploads_append, one, hb, ha]

/-- The upload of such a trace is the one that is permitted. -/
lemma SentOnce.permitted {t before d a after} (h : SentOnce id location confirmed t)
    (ht : t = before ++ ⟨.upload d, a⟩ :: after) : Permitted id location confirmed before d := by
  obtain ⟨before', d', a', after', rfl, hb, ha, hp⟩ := h
  have quiet : ∀ {u : List Ev} {x y : List Ev} {d : Device} {a : Result Unit},
      uploads u = 0 → u ≠ x ++ ⟨.upload d, a⟩ :: y := by
    intro u x y d a hu e
    have one : uploads (⟨.upload d, a⟩ :: y) = uploads y + 1 := List.countP_cons_of_pos rfl
    rw [e, uploads_append, one] at hu
    omega
  obtain ⟨x, rfl, e⟩ | ⟨x, rfl, e⟩ := List.append_eq_append_iff.mp ht
  · cases x with
    | nil =>
      cases e
      rwa [List.append_nil]
    | cons y x =>
      cases e
      exact absurd rfl (quiet ha)
  · cases x with
    | nil =>
      cases e
      rwa [List.append_nil] at hp
    | cons y x =>
      cases e
      exact absurd rfl (quiet hb)

/-- Polling uploads nothing. -/
lemma poll_quiet {visible t} (h : Begins (poll location visible) t) : uploads t = 0 := by
  refine List.countP_eq_zero.mpr fun e he => ?_
  rw [poll_only.begins h e he]
  exact Bool.false_ne_true

/-- A round that is followed by another one keeps what holds before a round. -/
lemma before_next (p : Phase) (t : List Ev) (p' : Phase) (u : List Ev)
    (inv : Before id location confirmed p t)
    (h : Runs (prepareRound id location confirmed p) u (.ok (.inl p'))) :
    Before id location confirmed p' (t ++ u) := by
  cases p with
  | select =>
    obtain rfl : t = [] := inv
    obtain ⟨_, _, hx, -⟩ | ⟨hx, sent⟩ := select_ok h
    · cases hx
    · cases hx
      exact sent.once
  | reconnect visible =>
    obtain ⟨_, hx⟩ | ⟨_, _, hx, -⟩ := poll_ok h
    · cases hx
      exact SentOnce.append inv (poll_quiet h.whole)
    · cases hx

/-- A trace of `prepare_with` has no upload, or a single one that is permitted. -/
lemma prepare_sent {t r} (h : PrepareWith id location confirmed t r) :
    uploads t = 0 ∨ SentOnce id location confirmed t := by
  obtain ⟨p, t1, t2, rfl, inv, last⟩ := h.from_start before_next rfl
  cases p with
  | select =>
    obtain rfl : t1 = [] := inv
    obtain quiet | sent := select_begins last.begins
    · exact .inl quiet
    · exact .inr sent.once
  | reconnect visible => exact .inr (SentOnce.append inv (poll_quiet last.begins))

/-- An answer counts in a longer trace. -/
lemma Answered.append {t u p all} (h : Answered location u p all) :
    Answered location (t ++ u) p all := by
  obtain ⟨t', rfl⟩ := h.last
  exact { h with last := ⟨t ++ t', (List.append_assoc t t' _).symm⟩ }

/-- A preparation that succeeds ends with a ready device; after an upload it is alone at its port. -/
lemma prepare_answered {t p} (h : PrepareWith id location confirmed t (some (.ok p))) :
    ∃ all, Answered location t p all ∧
      (p.uploaded = false ∧ uploads t = 0 ∨
        p.uploaded = true ∧ SentOnce id location confirmed t ∧
          atPort all location = [p.device]) := by
  obtain ⟨phase, t1, t2, rfl, inv, last⟩ := h.from_start before_next rfl
  cases phase with
  | select =>
    obtain rfl : t1 = [] := inv
    obtain ⟨p', all, hx, ans, up, quiet⟩ | ⟨hx, -⟩ := select_ok last
    · cases hx
      exact ⟨all, ans, .inl ⟨up, quiet⟩⟩
    · cases hx
  | reconnect visible =>
    obtain ⟨_, hx⟩ | ⟨p', all, hx, ans, up, alone⟩ := poll_ok last
    · cases hx
    · cases hx
      exact ⟨all, ans.append, .inr ⟨up, SentOnce.append inv (poll_quiet last.begins), alone⟩⟩

/-- Whatever the host answers: `prepare_with` uploads at most once, only where it is permitted, and it
    succeeds only with a ready and observed device at the selected port, which is the only one there
    after an upload. -/
theorem prepare_safe {t r} (h : PrepareWith id location confirmed t r) :
    uploads t ≤ 1 ∧
      (∀ before d a after, t = before ++ ⟨.upload d, a⟩ :: after →
        Permitted id location confirmed before d) ∧
      ∀ p, r = some (.ok p) → ∃ all, Answered location t p all ∧
        (p.uploaded = true ↔ uploads t = 1) ∧
        (uploads t = 1 → atPort all location = [p.device]) := by
  refine ⟨?_, ?_, ?_⟩
  · obtain quiet | sent := prepare_sent h
    · rw [quiet]
      exact Nat.zero_le 1
    · exact sent.count.le
  · intro before d a after e
    obtain quiet | sent := prepare_sent h
    · have one : uploads (⟨.upload d, a⟩ :: after) = uploads after + 1 :=
        List.countP_cons_of_pos rfl
      rw [e, uploads_append, one] at quiet
      omega
    · exact sent.permitted e
  · rintro p rfl
    obtain ⟨all, ans, ⟨up, quiet⟩ | ⟨up, sent, alone⟩⟩ := prepare_answered h
    · refine ⟨all, ans, ?_, ?_⟩
      · rw [up, quiet]
        exact iff_of_false Bool.false_ne_true Nat.zero_ne_one
      · rw [quiet]
        exact fun e => absurd e Nat.zero_ne_one
    · exact ⟨all, ans, iff_of_true up sent.count, fun _ => alone⟩

end Prepare

section Sample

/-- A board in its BootROM mode, and the same board after the upload. -/
def bootromBoard : Device := ⟨"USB\\BOOTROM", 0x2207, 0x350a, "Maskrom", true, "1-1"⟩

def loaderBoard : Device := ⟨"USB\\LOADER", 0x2207, 0x350a, "Loader", true, "1-1"⟩

def loaderObservation : Json :=
  .obj [("ready", .bool true), ("instance_id", .str "USB\\LOADER"), ("location", .str "1-1")]

/-- A board that needs the upload and comes back ready. -/
def sampleTrace : List Ev :=
  [⟨.scan, .ok [bootromBoard]⟩, ⟨.probe bootromBoard, .ok .unavailable⟩,
    ⟨.upload bootromBoard, .ok ()⟩, ⟨.wait, ()⟩, ⟨.scan, .ok [loaderBoard]⟩,
    ⟨.probe loaderBoard, .ok .ready⟩, ⟨.observe loaderBoard, .ok loaderObservation⟩]

def sampleOutcome : Result Prepared :=
  .ok ⟨loaderBoard, loaderObservation, true⟩

/-- A device that reconnects after one upload. -/
lemma sample_prepare : PrepareWith "USB\\BOOTROM" "1-1" true sampleTrace (some sampleOutcome) := by
  have first : Runs (prepareRound "USB\\BOOTROM" "1-1" true .select) (sampleTrace.take 3)
      (.ok (.inl (.reconnect false))) :=
    .ask (.ask (.ask .ret))
  have second : Runs (prepareRound "USB\\BOOTROM" "1-1" true (.reconnect false))
      (sampleTrace.drop 3) (.ok (.inr ⟨loaderBoard, loaderObservation, true⟩)) :=
    .ask (.ask (.ask (.ask .ret)))
  exact .next first (.done second)

/-- `prepare_safe` at this trace. -/
theorem prepare_safe_sample :
    uploads sampleTrace ≤ 1 ∧
      (∀ before d a after, sampleTrace = before ++ ⟨.upload d, a⟩ :: after →
        Permitted "USB\\BOOTROM" "1-1" true before d) ∧
      ∀ p, some sampleOutcome = some (.ok p) →
        ∃ all, Answered "1-1" sampleTrace p all ∧ (p.uploaded = true ↔ uploads sampleTrace = 1) ∧
          (uploads sampleTrace = 1 → atPort all "1-1" = [p.device]) :=
  prepare_safe sample_prepare

end Sample

end K11CHaos.Engine.Usb
