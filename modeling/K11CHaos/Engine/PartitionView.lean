import K11CHaos.Engine.Components
import K11CHaos.Engine.K11cLayout

/-!
# A bounded view of a partition

`images::Partition`, the read-only view of the boot partition that `inspect` hands to a FAT reader: a
window of a file with a position and a budget of operations. The reader may send any requests (`Request`),
the system may deliver fewer bytes than there are or fail, and the operation may be cancelled at any time
(`Host`). Every step keeps the position in the window (`step_sound`) and pays for a success from the budget
(`step_pays`), so a run of any requests is confined to the window and to the budget (`partition_confined`).
-/

namespace K11CHaos.Engine.Images

/-- Why an operation failed: by the view, or by the system under it. -/
inductive Kind where
  | other
  | permissionDenied
  | system
deriving DecidableEq

/-- `io::Error`. -/
structure IoError where
  kind : Kind
  message : String
deriving DecidableEq

/-- `io::Error::other`. -/
def other (message : String) : IoError :=
  ⟨.other, message⟩

/-- `struct Partition`. The file is open under a lock. -/
structure Partition where
  file : Bytes
  start : UInt64
  length : UInt64
  position : UInt64
  budget : UInt32
deriving DecidableEq

/-- What the system and the user do during an operation: the flag that cancels, the error of a seek, and
how many bytes a read delivers at most, or its error. -/
structure Host where
  cancelled : Bool
  seek : Option IoError
  read : Except IoError Nat

/-- `SeekFrom`. -/
inductive SeekFrom where
  | start (n : UInt64)
  | current (n : Int64)
  | fromEnd (n : Int64)
deriving DecidableEq

/-- The requests of a reader. Of the buffer of a read only the length matters. -/
inductive Request where
  | read (room : Nat)
  | seek (place : SeekFrom)
  | write (b : Bytes)
  | flush
deriving DecidableEq

/-- Their answers. -/
inductive Answer where
  | bytes (b : Bytes)
  | position (n : UInt64)
  | done
  | error (e : IoError)
deriving DecidableEq

namespace Partition

/-- `check`. -/
def check (p : Partition) (h : Host) : Partition × Option IoError :=
  if h.cancelled then (p, some (other "Cancelled"))
  else if p.budget = 0 then (p, some (other "FAT inspection budget exceeded"))
  else ({ p with budget := p.budget - 1 }, none)

/-- `read`. -/
def read (p : Partition) (h : Host) (room : Nat) : Partition × Answer :=
  match p.check h with
  | (p, some e) => (p, .error e)
  | (p, none) =>
    let len := min room (p.length - p.position).toNat
    match h.seek, h.read with
    | some e, _ => (p, .error e)
    | none, .error e => (p, .error e)
    | none, .ok n =>
      let b := slice p.file (p.start + p.position).toNat (min n len)
      ({ p with position := p.position + UInt64.ofNat b.length }, .bytes b)

/-- The place of a seek, in `i128`. -/
def place (p : Partition) : SeekFrom → Int
  | .start n => n.toNat
  | .current n => p.position.toNat + n.toInt
  | .fromEnd n => p.length.toNat + n.toInt

/-- `seek`. -/
def seek (p : Partition) (h : Host) (place : SeekFrom) : Partition × Answer :=
  match p.check h with
  | (p, some e) => (p, .error e)
  | (p, none) =>
    let n := p.place place
    if n < 0 ∨ n > p.length.toNat then (p, .error (other "Seek outside boot partition"))
    else ({ p with position := UInt64.ofNat n.toNat }, .position (UInt64.ofNat n.toNat))

/-- `write`. -/
def write (p : Partition) (_ : Bytes) : Partition × Answer :=
  (p, .error ⟨.permissionDenied, "Read-only image"⟩)

/-- `flush`. -/
def flush (p : Partition) : Partition × Answer :=
  (p, .done)

/-- The answer to a request. -/
def answer (p : Partition) (h : Host) : Request → Partition × Answer
  | .read room => p.read h room
  | .seek place => p.seek h place
  | .write b => p.write b
  | .flush => p.flush

/-- A request that is answered, whatever the host does. -/
def Step (p : Partition) (x : Request × Answer) (p' : Partition) : Prop :=
  ∃ h, p.answer h x.1 = (p', x.2)

/-- The position is in the window, whose end is an offset of 64 bits. -/
structure Sound (p : Partition) : Prop where
  position : p.position.toNat ≤ p.length.toNat
  window : p.start.toNat + p.length.toNat < 2 ^ 64

/-- The window of a view in its file. -/
structure Same (p p' : Partition) : Prop where
  file : p'.file = p.file
  start : p'.start = p.start
  length : p'.length = p.length

/-- Reads and seeks, which the budget counts. -/
def Request.counted : Request → Bool
  | .read _ => true
  | .seek _ => true
  | _ => false

/-- An answer that is no error. -/
def Answer.success : Answer → Bool
  | .error _ => false
  | _ => true

/-- A read or a seek that succeeded. -/
def paid (x : Request × Answer) : Bool :=
  Request.counted x.1 && Answer.success x.2

/-- What an answered request does. -/
def Lawful (p : Partition) (x : Request × Answer) (p' : Partition) : Prop :=
  match x with
  | (.read room, .bytes b) => b.length ≤ room ∧
      p.position.toNat + b.length ≤ p.length.toNat ∧
      (∀ i < b.length, b[i]? = p.file[p.start.toNat + p.position.toNat + i]?) ∧
      p'.position.toNat = p.position.toNat + b.length
  | (.seek s, .position n) => 0 ≤ p.place s ∧ p.place s ≤ p.length.toNat ∧
      (n.toNat : Int) = p.place s ∧ p'.position = n
  | (.flush, .done) => p' = p
  | (.write _, .error e) => e = ⟨.permissionDenied, "Read-only image"⟩ ∧ p' = p
  | (_, .error _) => p'.position = p.position
  | _ => False

section Step

variable {p p' : Partition} {h : Host} {x : Request × Answer}

/-- `check` changes nothing but the budget, which it takes one from when it passes. -/
lemma check_cases (p : Partition) (h : Host) :
    (∃ e, p.check h = (p, some e)) ∨
      (p.budget ≠ 0 ∧ p.check h = ({ p with budget := p.budget - 1 }, none)) := by
  unfold check
  split_ifs with cancelled empty
  · exact .inl ⟨_, rfl⟩
  · exact .inl ⟨_, rfl⟩
  · exact .inr ⟨empty, rfl⟩

/-- The bytes that a read delivers. -/
lemma read_bytes {room n : Nat} {b : Bytes} (s : p.Sound)
    (eq : b = slice p.file (p.start + p.position).toNat
      (min n (min room (p.length - p.position).toNat))) :
    b.length ≤ room ∧ p.position.toNat + b.length ≤ p.length.toNat ∧
      (∀ i < b.length, b[i]? = p.file[p.start.toNat + p.position.toNat + i]?) ∧
      (p.position + UInt64.ofNat b.length).toNat = p.position.toNat + b.length := by
  obtain ⟨inside, window⟩ := s
  have rest : (p.length - p.position).toNat = p.length.toNat - p.position.toNat :=
    UInt64.toNat_sub_of_le _ _ (UInt64.le_iff_toNat_le.mpr inside)
  have at' : (p.start + p.position).toNat = p.start.toNat + p.position.toNat := by
    rw [UInt64.toNat_add]
    exact Nat.mod_eq_of_lt (by omega)
  rw [rest, at'] at eq
  have short : b.length ≤ min n (min room (p.length.toNat - p.position.toNat)) := by
    rw [eq, slice]
    exact List.length_take_le _ _
  refine ⟨by omega, by omega, fun i hi => ?_, ?_⟩
  · rw [eq, getElem?_slice, if_pos (by omega)]
  · rw [UInt64.toNat_add, UInt64.toNat_ofNat']
    omega

/-- What one answered request does: the window stays, the position stays in it, and a success is paid for
from the budget. -/
lemma step_cases (s : p.Sound) (st : Step p x p') :
    Same p p' ∧ Lawful p x p' ∧
      (p'.budget = p.budget ∧ paid x = false ∨
        p.budget ≠ 0 ∧ p'.budget = p.budget - 1 ∧ Request.counted x.1 = true) := by
  obtain ⟨h, eq⟩ := st
  obtain ⟨r, a⟩ := x
  cases r with
  -- a check that fails costs nothing; behind it the budget is spent, whatever the request finds
  | read room =>
    simp only [answer, read] at eq
    obtain ⟨e, none⟩ | ⟨left, some⟩ := check_cases p h
    · rw [none] at eq
      cases eq
      exact ⟨⟨rfl, rfl, rfl⟩, rfl, .inl ⟨rfl, rfl⟩⟩
    · rw [some] at eq
      dsimp only at eq
      split at eq
      · cases eq
        exact ⟨⟨rfl, rfl, rfl⟩, rfl, .inr ⟨left, rfl, rfl⟩⟩
      · cases eq
        exact ⟨⟨rfl, rfl, rfl⟩, rfl, .inr ⟨left, rfl, rfl⟩⟩
      · cases eq
        exact ⟨⟨rfl, rfl, rfl⟩, read_bytes s rfl, .inr ⟨left, rfl, rfl⟩⟩
  | seek goal =>
    simp only [answer, seek] at eq
    obtain ⟨e, none⟩ | ⟨left, some⟩ := check_cases p h
    · rw [none] at eq
      cases eq
      exact ⟨⟨rfl, rfl, rfl⟩, rfl, .inl ⟨rfl, rfl⟩⟩
    · rw [some] at eq
      dsimp only at eq
      have place : ({ p with budget := p.budget - 1 } : Partition).place goal = p.place goal := by
        cases goal <;> rfl
      rw [place] at eq
      split_ifs at eq with outside
      · cases eq
        exact ⟨⟨rfl, rfl, rfl⟩, rfl, .inr ⟨left, rfl, rfl⟩⟩
      · cases eq
        have size := p.length.toNat_lt
        refine ⟨⟨rfl, rfl, rfl⟩, ⟨by omega, by omega, ?_, rfl⟩, .inr ⟨left, rfl, rfl⟩⟩
        rw [UInt64.toNat_ofNat', Nat.mod_eq_of_lt (by omega)]
        omega
  | write b =>
    cases eq
    exact ⟨⟨rfl, rfl, rfl⟩, ⟨rfl, rfl⟩, .inl ⟨rfl, rfl⟩⟩
  | flush =>
    cases eq
    exact ⟨⟨rfl, rfl, rfl⟩, rfl, .inl ⟨rfl, rfl⟩⟩

/-- A step keeps the position in the window. -/
lemma step_sound (s : p.Sound) (st : Step p x p') : p'.Sound := by
  obtain ⟨same, lawful, _⟩ := step_cases s st
  refine ⟨?_, by rw [same.start, same.length]; exact s.window⟩
  rw [same.length]
  obtain ⟨r, a⟩ := x
  have position := s.position
  cases r with
  | read room =>
    cases a with
    | bytes b =>
      obtain ⟨_, inside, _, moved⟩ := lawful
      rwa [moved]
    | error e => rwa [show p'.position = p.position from lawful]
    | _ => exact lawful.elim
  | seek goal =>
    cases a with
    | position n =>
      obtain ⟨_, inside, eq, rfl⟩ := lawful
      omega
    | error e => rwa [show p'.position = p.position from lawful]
    | _ => exact lawful.elim
  | write b =>
    cases a with
    | error e => rwa [show p' = p from lawful.2]
    | _ => exact lawful.elim
  | flush =>
    cases a with
    | done => rwa [show p' = p from lawful]
    | error e => rwa [show p'.position = p.position from lawful]
    | _ => exact lawful.elim

/-- A success is paid for. -/
lemma step_pays (s : p.Sound) (st : Step p x p') :
    p'.budget.toNat + (if paid x then 1 else 0) ≤ p.budget.toNat := by
  obtain ⟨_, _, ⟨same, free⟩ | ⟨left, less, _⟩⟩ := step_cases s st
  · rw [same, free]
    exact Nat.le_refl _
  · have pos : 0 < p.budget.toNat := Nat.pos_of_ne_zero fun z => left (UInt32.toNat_inj.mp z)
    have one : p'.budget.toNat = p.budget.toNat - 1 := by
      rw [less, UInt32.toNat_sub_of_le p.budget 1 (UInt32.le_iff_toNat_le.mpr pos)]
      rfl
    split_ifs <;> omega

end Step

/-- A run keeps the window and the position in it, and pays for its successes. -/
lemma run_sound {p p' : Partition} {ls} (s : p.Sound) (path : Lts.Path Step p ls p') :
    p'.Sound ∧ Same p p' ∧ p'.budget.toNat + ls.countP paid ≤ p.budget.toNat := by
  induction path with
  | nil => exact ⟨s, ⟨rfl, rfl, rfl⟩, Nat.le_refl _⟩
  | @cons p x p1 ls p' st _ ih =>
    obtain ⟨s', ⟨file, start, length⟩, pays⟩ := ih (step_sound s st)
    obtain ⟨⟨file1, start1, length1⟩, _, _⟩ := step_cases s st
    refine ⟨s', ⟨file.trans file1, start.trans start1, length.trans length1⟩, ?_⟩
    have one := step_pays s st
    rw [List.countP_cons]
    omega

/-- What a run of requests does. -/
structure Confined (p : Partition) (ls : List (Request × Answer)) (p' : Partition) : Prop where
  /-- The position is in the window. -/
  position : p'.position.toNat ≤ p'.length.toNat
  /-- Neither the file nor the window changes. -/
  same : Same p p'
  /-- Every request does what it may: reads deliver bytes of the window, seeks stay in it, nothing is
  written. -/
  lawful : ∀ l1 x l2, ls = l1 ++ x :: l2 → ∃ p1 p2, Lts.Path Step p l1 p1 ∧ Same p p1 ∧
    Lawful p1 x p2 ∧ Lts.Path Step p2 l2 p'
  /-- No more reads and seeks succeed than the budget allows. -/
  bounded : ls.countP paid ≤ p.budget.toNat
  /-- When as many have succeeded, every further one fails. -/
  exhausted : ∀ l1 x l2, ls = l1 ++ x :: l2 → l1.countP paid = p.budget.toNat →
    Request.counted x.1 = true → Answer.success x.2 = false
  /-- A reader that stops at its first error ends. -/
  ends : (∀ x ∈ ls.dropLast, Answer.success x.2 = true) →
    ls.countP (fun x => Request.counted x.1) ≤ p.budget.toNat + 1

/-- For every file, window, budget and run of requests, whatever the system delivers and whenever the
operation is cancelled, the view stays in its window and its budget. -/
theorem partition_confined {p p' : Partition} {ls : List (Request × Answer)} (s : p.Sound)
    (path : Lts.Path Step p ls p') : Confined p ls p' := by
  obtain ⟨s', same, pays⟩ := run_sound s path
  refine ⟨s'.position, same, ?_, by omega, ?_, fun good => ?_⟩
  · rintro l1 x l2 rfl
    obtain ⟨p1, p2, before, st, behind⟩ := path.split
    obtain ⟨s1, same1, _⟩ := run_sound s before
    obtain ⟨_, lawful, _⟩ := step_cases s1 st
    exact ⟨p1, p2, before, same1, lawful, behind⟩
  · rintro l1 ⟨r, a⟩ l2 rfl all counted
    obtain ⟨p1, p2, before, st, _⟩ := path.split
    obtain ⟨s1, _, left⟩ := run_sound s before
    have one := step_pays s1 st
    simp only [paid, counted, Bool.true_and] at one
    cases ok : Answer.success a with
    | false => rfl
    | true =>
      rw [ok, if_pos rfl] at one
      omega
  · obtain rfl | ⟨l, x, rfl⟩ := List.eq_nil_or_concat' ls
    · exact Nat.zero_le _
    · rw [List.dropLast_concat] at good
      have same : l.countP (fun x => Request.counted x.1) = l.countP paid := by
        apply List.countP_congr
        intro x hx
        rw [paid, good x hx, Bool.and_true]
      rw [List.countP_append] at pays ⊢
      have last : [x].countP (fun x => Request.counted x.1) ≤ 1 := List.countP_le_length
      omega

/-- A short read, a seek before the window, and a read that the budget no longer covers. -/
theorem partition_confined_short :
    Confined ⟨[0, 1, 2, 3, 4, 5, 6, 7], 2, 4, 0, 2⟩
      [(.read 9, .bytes [2, 3]),
        (.seek (.current (-3)), .error (other "Seek outside boot partition")),
        (.read 1, .error (other "FAT inspection budget exceeded"))]
      ⟨[0, 1, 2, 3, 4, 5, 6, 7], 2, 4, 2, 0⟩ := by
  have read : Step ⟨[0, 1, 2, 3, 4, 5, 6, 7], 2, 4, 0, 2⟩ (.read 9, .bytes [2, 3])
      ⟨[0, 1, 2, 3, 4, 5, 6, 7], 2, 4, 2, 1⟩ := ⟨⟨false, none, .ok 2⟩, by decide +kernel⟩
  have seek : Step ⟨[0, 1, 2, 3, 4, 5, 6, 7], 2, 4, 2, 1⟩
      (.seek (.current (-3)), .error (other "Seek outside boot partition"))
      ⟨[0, 1, 2, 3, 4, 5, 6, 7], 2, 4, 2, 0⟩ := ⟨⟨false, none, .ok 0⟩, by decide⟩
  have last : Step ⟨[0, 1, 2, 3, 4, 5, 6, 7], 2, 4, 2, 0⟩
      (.read 1, .error (other "FAT inspection budget exceeded"))
      ⟨[0, 1, 2, 3, 4, 5, 6, 7], 2, 4, 2, 0⟩ := ⟨⟨false, none, .ok 1⟩, by decide⟩
  exact partition_confined ⟨by decide, by decide⟩ (.cons read (.cons seek (.cons last .nil)))

end Partition

/-! ## The checks of `inspect` -/

section Inspect

variable {image : Bytes}

/-- What `inspect` has checked of an image when it opens the view. -/
structure Checked (image : Bytes) : Prop where
  aligned : image.length % 512 = 0
  small : image.length ≤ maxImage
  healthy : Gpt.Healthy (slice image 0 (34 * 512)) (slice image (image.length - 33 * 512) (33 * 512))
    (image.length / 512)
  entries : inspectEntries
    (Gpt.labels.zip (Gpt.entries ((slice image 0 (34 * 512)).drop 1024))) = .ok ()

/-- What the inspection of an image finds. -/
lemma inspect_checked {X : Crates} (h : inspect X image = .ok ()) : Checked image := by
  unfold inspect at h
  dsimp only at h
  simp only [bind_ok, deny_ok, not_or, not_not, Nat.not_lt, Nat.not_le] at h
  obtain ⟨_, ⟨_, small⟩, _, ⟨aligned, _⟩, _, ⟨healthy, _⟩, _, entries, _⟩ := h
  have count : (UInt32.ofNat (image.length / 512)).toNat = image.length / 512 := by
    rw [UInt32.toNat_ofNat']
    apply Nat.mod_eq_of_lt
    rw [maxImage] at small
    omega
  rw [Gpt.healthy_iff, count] at healthy
  exact ⟨aligned, small, healthy, entries⟩

/-- The entries that are inspected are in use. -/
lemma inspectEntries_used {l : List (String × Bytes)} (h : inspectEntries l = .ok ()) :
    ∀ e ∈ l, Gpt.inUse e.2 = true := by
  induction l with
  | nil => nofun
  | cons e l ih =>
    obtain ⟨_, first, rest⟩ := bind_ok.mp h
    rw [deny_ok, not_or, not_or] at first
    intro e' mem
    cases mem with
    | head => exact not_not.mp first.2.1
    | tail _ mem => exact ih rest e' mem

/-- The partitions that are inspected lie between the two copies of the GPT. -/
lemma Checked.span {i : Nat} (k : Checked image) (named : i < 8) :
    34 ≤ Gpt.u64at (Gpt.entryAt (slice image 0 (34 * 512)) i) 32 ∧
      Gpt.u64at (Gpt.entryAt (slice image 0 (34 * 512)) i) 32 ≤
        Gpt.u64at (Gpt.entryAt (slice image 0 (34 * 512)) i) 40 ∧
      Gpt.u64at (Gpt.entryAt (slice image 0 (34 * 512)) i) 40 + 33 < image.length / 512 := by
  have found := (Gpt.entries_getElem k.healthy.sizePrimary).mpr ⟨Nat.lt_trans named (by decide), rfl⟩
  have label : i < Gpt.labels.length := named
  have member : (Gpt.labels[i], Gpt.entryAt (slice image 0 (34 * 512)) i) ∈
      Gpt.labels.zip (Gpt.entries ((slice image 0 (34 * 512)).drop 1024)) := by
    apply List.mem_of_getElem? (i := i)
    rw [List.getElem?_zip_eq_some]
    exact ⟨List.getElem?_eq_getElem label, found⟩
  have used := inspectEntries_used k.entries _ member
  have span : (Gpt.u64at (Gpt.entryAt (slice image 0 (34 * 512)) i) 32,
      Gpt.u64at (Gpt.entryAt (slice image 0 (34 * 512)) i) 40) ∈
      Gpt.spans ((slice image 0 (34 * 512)).drop 1024) := by
    apply List.mem_map_of_mem (f := fun e => (Gpt.u64at e 32, Gpt.u64at e 40))
    exact List.mem_filter.mpr ⟨List.mem_of_getElem? found, used⟩
  have inside := k.healthy.inside _ span
  have bounds := k.healthy.bounds
  have big := k.healthy.big
  dsimp only at inside
  omega

end Inspect

end K11CHaos.Engine.Images
