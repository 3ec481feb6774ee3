import K11CHaos.Engine.Failure
import K11CHaos.Lib.Prog
import K11CHaos.Lib.Json
import K11CHaos.Lib.Sha256

/-!
# Device, files and gate

What the engine asks of the outside (`Op`): the traits `UsbIo` and `FlashIo`, the file operations on
its base directory, the blocks of a source it has opened and the permission gate. An engine function
is a program over these questions (`Eng`); every answer may be an error.

Files are named by the typed paths of the base directory (`Path`). A source is opened once, under a
handle that denies writing, so the files that one call of `build` or `snapshot` reads are one answer,
a `Store`; the blocks that are later streamed from such a handle are asked for one by one, each
with the bytes that the handle holds there. Progress notes and timings have no effect and are left out.
-/

namespace K11CHaos.Engine

/-- `struct Identity`. -/
structure Identity where
  sectors : UInt32
  storage : String
  chipHex : String
  flashId : String
deriving DecidableEq, Repr

/-- `struct Device`; the interface path is never stored. -/
structure Device where
  instanceId : String
  vid : Nat
  pid : Nat
  mode : String
  binding : Bool
  location : String
deriving DecidableEq, Repr

/-- `struct Range`. -/
structure Range where
  label : String
  lba : UInt32
  bytes : Nat
  sha256 : String
deriving DecidableEq, Repr

/-- The two directories of one-use plans: `data/plans` and `data/factory-plans`. -/
inductive PlanDir where
  | flash
  | factory
deriving DecidableEq, Repr

/-- Files of the engine; `outside` is a path that a receipt names. -/
inductive Path where
  | plan (dir : PlanDir) (id : String)
  | used (dir : PlanDir) (id : String)
  | journal (dir : PlanDir) (id : String)
  | firmware
  | prepared (id : String)
  | boot (id : String)
  | asset (sha256 : String)
  | installation (id : String)
  | factoryImage (id : String)
  | archive (id : String)
  | archivePartial (id : String)
  | rawReceipt (id : String)
  | backup (id file : String)
  | backupPartial (id file : String)
  | outside (path : String)
deriving DecidableEq, Repr

/-- The readable files, each with its bytes or the error of opening it. -/
abbrev Store := Path → Except String Bytes

/-- The lines of a journal. -/
inductive Event where
  | started (plan : Json) (backup : Option String)
  | writing (range : Range)
  | verified (range : Range)
  | timings
  | vendorComplete (output : String)
  | complete
  | failed (error : Failure)

/-- Questions to the device, the file system and the gate. -/
inductive Op where
  | identity
  | capability
  | read (lba : UInt32) (len : Nat)
  | write (lba : UInt32) (bytes : Bytes)
  | gate
  | sources
  | reader
  | stream (block : Bytes)
  | stamp
  | present (path : Path)
  | load (path : Path)
  | makeDir (path : Path)
  | create (path : Path)
  | append (path : Path) (bytes : Bytes)
  | rename (path target : Path)
  | renameBackup (id : String)
  | remove (path : Path)
  | note (journal : Path) (event : Event)
  | attach (device : Device)
  | tool (image : String)

/-- What a successful answer holds. The buffer of a read has the length that was asked for, whatever
    the count says; creating a file or a directory tells whether there was none. -/
def Op.Out : Op → Type
  | identity => Identity
  | capability => Vector UInt8 8
  | read _ len => UInt32 × { b : Bytes // b.length = len }
  | write _ _ => UInt32
  | sources => Store
  | stream block => { b : Bytes // b.length = block.length }
  | stamp => String
  | present _ => Bool
  | create _ => Bool
  | makeDir _ => Bool
  | load _ => Bytes
  | tool _ => String
  | _ => Unit

/-- Answers: an error of the outside, or what was asked for. -/
abbrev Op.Ans (o : Op) : Type := Except Failure o.Out

/-- Engine functions. -/
abbrev Eng := Prog Op Op.Ans Failure

/-- A question with its answer. -/
abbrev Ev := Prog.Ev Op Op.Ans

instance (o : Op) : Inhabited o.Ans := ⟨.error ⟨"", ""⟩⟩

/-- Ask; an error of the outside is passed on. -/
def ask (o : Op) : Eng o.Out :=
  Prog.call o

/-- Ask; an error of the outside gets the code of the caller, as `map_err` does. -/
def askAs (code : String) (o : Op) : Eng o.Out :=
  .ask o fun a => Prog.ofExcept (a.mapError fun e => fail code e.detail)

/-- Return early with an error. -/
def reject {α : Type} (code detail : String) : Eng α :=
  throw (fail code detail)

/-- A pure check in an engine function. -/
def check {α : Type} (r : Result α) : Eng α :=
  Prog.ofExcept r

/-- `create_new`, where a file that is there already is an error like any other. -/
def createNew (code : String) (p : Path) : Eng Unit := do
  let made : Bool ← askAs code (.create p)
  check (deny (!made) code "The file exists")

open Prog

/-- One question and its answer. -/
@[simp] lemma runs_ask {o : Op} {t} {r : Except Failure o.Out} :
    Runs (ask o) t r ↔ t = [⟨o, r⟩] :=
  runs_call

/-- One question whose error gets a code. -/
lemma runs_askAs {code} {o : Op} {t} {r : Except Failure o.Out} :
    Runs (askAs code o) t r ↔
      ∃ a : o.Ans, t = [⟨o, a⟩] ∧ r = a.mapError fun e => fail code e.detail := by
  refine ⟨fun h => ?_, ?_⟩
  · cases h with
    | @ask _ _ a _ _ h =>
      obtain ⟨rfl, rfl⟩ := runs_ofExcept.mp h
      exact ⟨a, rfl, rfl⟩
  · rintro ⟨a, rfl, rfl⟩
    exact .ask (runs_ofExcept.mpr ⟨rfl, rfl⟩)

/-- A successful answer reaches the caller as it is. -/
@[simp] lemma runs_askAs_ok {code} {o : Op} {t} {b : o.Out} :
    Runs (askAs code o) t (.ok b) ↔ t = [⟨o, .ok b⟩] := by
  rw [runs_askAs]
  refine ⟨?_, ?_⟩
  · rintro ⟨a, rfl, h⟩
    cases a with
    | error e => cases h
    | ok c =>
      cases h
      rfl
  · rintro rfl
    exact ⟨.ok b, rfl, rfl⟩

/-- An error answer keeps its detail. -/
@[simp] lemma runs_askAs_error {code} {o : Op} {t} {e : Failure} :
    Runs (askAs code o) t (.error e) ↔
      ∃ e', t = [⟨o, .error e'⟩] ∧ e = fail code e'.detail := by
  rw [runs_askAs]
  refine ⟨?_, ?_⟩
  · rintro ⟨a, rfl, h⟩
    cases a with
    | error e' =>
      cases h
      exact ⟨e', rfl, rfl⟩
    | ok c => cases h
  · rintro ⟨e', rfl, rfl⟩
    exact ⟨.error e', rfl, rfl⟩

/-- A test asks nothing. -/
@[simp] lemma runs_check {α : Type} {x : Result α} {t r} :
    Runs (check x) t r ↔ t = [] ∧ r = x :=
  runs_ofExcept

/-- A refusal asks nothing. -/
@[simp] lemma runs_reject {α : Type} {code detail : String} {t} {r : Result α} :
    Runs (reject code detail) t r ↔ t = [] ∧ r = .error (fail code detail) :=
  runs_throw

/-- A run that asks first and succeeds. -/
lemma runs_ask_bind_ok {β : Type} {o : Op} {k : o.Out → Eng β} {t} {b : β} :
    Runs (ask o >>= k) t (.ok b) ↔ ∃ a t', t = ⟨o, .ok a⟩ :: t' ∧ Runs (k a) t' (.ok b) := by
  refine ⟨fun h => ?_, ?_⟩
  · obtain ⟨t1, a, t2, h1, h2, rfl⟩ := runs_bind_ok.mp h
    obtain rfl := runs_ask.mp h1
    exact ⟨a, t2, rfl, h2⟩
  · rintro ⟨a, t', rfl, h⟩
    exact runs_bind_ok.mpr ⟨_, a, t', runs_ask.mpr rfl, h, rfl⟩

/-- The same with the code of the caller. -/
lemma runs_askAs_bind_ok {β : Type} {code} {o : Op} {k : o.Out → Eng β} {t} {b : β} :
    Runs (askAs code o >>= k) t (.ok b) ↔
      ∃ a t', t = ⟨o, .ok a⟩ :: t' ∧ Runs (k a) t' (.ok b) := by
  refine ⟨fun h => ?_, ?_⟩
  · obtain ⟨t1, a, t2, h1, h2, rfl⟩ := runs_bind_ok.mp h
    obtain rfl := runs_askAs_ok.mp h1
    exact ⟨a, t2, rfl, h2⟩
  · rintro ⟨a, t', rfl, h⟩
    exact runs_bind_ok.mpr ⟨_, a, t', runs_askAs_ok.mpr rfl, h, rfl⟩

/-- A check that passes is no step of its own. -/
lemma runs_check_pass {α β : Type} {a : α} {k : α → Eng β} {t} {r : Result β} :
    Runs (check (.ok a) >>= k) t r ↔ Runs (k a) t r :=
  Iff.rfl

/-- A run that checks first and succeeds. -/
lemma runs_check_bind_ok {α β : Type} {x : Result α} {k : α → Eng β} {t} {b : β} :
    Runs (check x >>= k) t (.ok b) ↔ ∃ a, x = .ok a ∧ Runs (k a) t (.ok b) := by
  refine ⟨fun h => ?_, ?_⟩
  · obtain ⟨t1, a, t2, h1, h2, rfl⟩ := runs_bind_ok.mp h
    obtain ⟨rfl, e⟩ := runs_check.mp h1
    exact ⟨a, e.symm, h2⟩
  · rintro ⟨a, e, h⟩
    exact runs_bind_ok.mpr ⟨[], a, t, runs_check.mpr ⟨rfl, e.symm⟩, h, rfl⟩

/-- A new file is new. -/
lemma runs_createNew_ok {code} {p : Path} {t} {u : Unit} :
    Runs (createNew code p) t (.ok u) ↔ t = [⟨.create p, .ok true⟩] := by
  refine ⟨fun h => ?_, ?_⟩
  · obtain ⟨made, t1, rfl, h1⟩ := runs_askAs_bind_ok.mp h
    obtain ⟨rfl, e⟩ := runs_check.mp h1
    have new : (!made) = false := by simpa using deny_ok.mp e.symm
    obtain rfl : made = true := (Bool.not_eq_false' made).mp new
    rfl
  · rintro rfl
    exact runs_askAs_bind_ok.mpr ⟨true, [], rfl, runs_check.mpr ⟨rfl, rfl⟩⟩

/-- The only question of `ask`. -/
@[simp] lemma only_ask {p : Op → Prop} {o : Op} : Only p (ask o) ↔ p o :=
  only_call

/-- The only question of `askAs`. -/
@[simp] lemma only_askAs {p : Op → Prop} {code} {o : Op} : Only p (askAs code o) ↔ p o :=
  ⟨fun h => h.1, fun h => ⟨h, fun _ => only_ofExcept⟩⟩

/-- A test has no question. -/
@[simp] lemma only_check {α : Type} {p : Op → Prop} {x : Result α} : Only p (check x) :=
  only_ofExcept

/-- A refusal has no question. -/
@[simp] lemma only_reject {α : Type} {p : Op → Prop} {code detail : String} :
    Only p (reject (α := α) code detail) :=
  only_throw

end K11CHaos.Engine
