import Mathlib.Logic.Function.Basic
import K11CHaos.Lib.Hoare

/-!
# Preparation of the Maxio PHY

`k11c_prepare_maxio_phy` of the U-Boot board file: it deasserts the GMAC reset, looks for the verified
PHY, changes its clock mode and removes the reset of the PHY from the device tree. From every failure it
jumps to a cleanup label; the labels are functions here, each one calling the next.

The world is the register file of the PHY behind its page register, the reset line and the node of the
PHY (`World`). Any call may fail, and then has no effect; a write may fail as long as nothing else has, so
the writes that restore succeed (`Step`). Every stage has one lemma: what holds when it is entered, and
that it ends `Prepared` or `Restored` (`Post`).
-/

namespace K11CHaos.Board

open Prog

/-- `K11C_MAXIO_PHY_ID`. -/
def maxioPhyId : Int :=
  0x7b744411

/-- `K11C_MAXIO_PAGE_REG`. -/
def maxioPageReg : Nat :=
  0x1f

/-- `K11C_MAXIO_CLOCK_PAGE`. -/
def maxioClockPage : UInt16 :=
  0x0d92

/-- `K11C_MAXIO_CLOCK_REG`. -/
def maxioClockReg : Nat :=
  0x02

/-- `K11C_MAXIO_CLOCK_MODE`. -/
def maxioClockMode : UInt16 :=
  0x200a

/-- `MII_PHYSID1`. -/
def miiPhysid1 : Nat :=
  0x02

/-- `MII_PHYSID2`. -/
def miiPhysid2 : Nat :=
  0x03

/-- `EIO`, `ENODEV` and `FDT_ERR_NOTFOUND`. -/
def eio : Int :=
  5

def enodev : Int :=
  19

def fdtErrNotfound : Int :=
  1

/-- The calls. Registers are those of the PHY at address 0. -/
inductive Op where
  | machineIsCompatible (name : String)
  | getDeviceByName (name : String)
  | resetGetByName (name : String)
  | resetDeassert
  | resetAssert
  | resetFree
  | udelay (us : Nat)
  | miiphyGetDev
  | read (reg : Nat)
  | write (reg : Nat) (value : UInt16)
  | fdtPathOffset (path : String)
  | fdtDelprop (node : Int) (name : String)
  | printf (line : String)
deriving DecidableEq

/-- What a call returns. -/
def Ans : Op → Type
  | .machineIsCompatible _ => Bool
  | .miiphyGetDev => Bool
  | .udelay _ => Unit
  | .printf _ => Unit
  | .resetFree => Unit
  | _ => Int

/-- Programs of the board file. They return, and raise nothing. -/
abbrev Phy := Prog Op Ans Empty

/-- A call with what it returned. -/
abbrev Call := Prog.Ev Op Ans

/-- A call. -/
def call (o : Op) : Phy (Ans o) :=
  .ask o .ret

/-- `%08x`. -/
def hex8 (n : Int) : String :=
  let digits := Nat.toDigits 16 n.toNat
  String.ofList (List.replicate (8 - digits.length) '0' ++ digits)

/-- `k11c_maxio_set_clock_mode`. -/
def setClockMode (mode : UInt16) : Phy Int := do
  let ret : Int ← call (.write maxioPageReg maxioClockPage)
  if ret ≠ 0 then return ret
  else do
    let ret : Int ← call (.write maxioClockReg mode)
    let _ : Int ← call (.write maxioPageReg 0)
    return ret

/-- `out_free`. -/
def outFree (ret : Int) : Phy Int := do
  call (.printf s!"K11C: Maxio PHY preparation failed ({ret})")
  call .resetFree
  return 0

/-- `out_restore_reset`. -/
def outRestoreReset (ret : Int) : Phy Int := do
  let _ : Int ← call .resetAssert
  outFree ret

/-- `out_restore_page`. -/
def outRestorePage (ret : Int) : Phy Int := do
  let _ : Int ← call (.write maxioPageReg 0)
  outRestoreReset ret

/-- `out_restore_mode`. -/
def outRestoreMode (oldMode ret : Int) : Phy Int :=
  if 0 ≤ oldMode then do
    let _ ← setClockMode (UInt16.ofNat oldMode.toNat)
    outRestoreReset ret
  else outRestorePage ret

/-- The change of the device tree, and the end of a preparation. -/
def removeReset (phyId oldMode : Int) : Phy Int := do
  let node : Int ← call (.fdtPathOffset "/ethernet@fe010000/mdio/ethernet-phy@0")
  if node < 0 then outRestoreMode oldMode node
  else do
    let ret : Int ← call (.fdtDelprop node "reset-gpios")
    if ret ≠ 0 ∧ ret ≠ -fdtErrNotfound then outRestoreMode oldMode ret
    else do
      call (.printf s!"K11C: Maxio PHY {hex8 phyId} prepared (D92:02=200a)")
      call .resetFree
      return 0

/-- The change of the clock mode, with the page selected. -/
def changeMode (phyId oldMode : Int) : Phy Int := do
  let ret : Int ← call (.write maxioClockReg maxioClockMode)
  if ret ≠ 0 then outRestoreMode oldMode ret
  else do
    let mode : Int ← call (.read maxioClockReg)
    if mode ≠ maxioClockMode.toNat then
      outRestoreMode oldMode (if mode < 0 then mode else -eio)
    else do
      let ret : Int ← call (.write maxioPageReg 0)
      if ret ≠ 0 then outRestoreMode oldMode ret else removeReset phyId oldMode

/-- The old mode is read from the clock page. -/
def readMode (phyId : Int) : Phy Int := do
  let ret : Int ← call (.write maxioPageReg maxioClockPage)
  if ret ≠ 0 then outRestoreReset ret
  else do
    let oldMode : Int ← call (.read maxioClockReg)
    if oldMode < 0 then outRestorePage (-eio) else changeMode phyId oldMode

/-- The PHY is identified. It exposes its valid ID only after an ID2 write. -/
def identify : Phy Int := do
  let bus : Bool ← call .miiphyGetDev
  if !bus then outRestoreReset (-enodev)
  else do
    let ret : Int ← call (.write miiPhysid2 0)
    if ret ≠ 0 then outRestoreReset ret
    else do
      let id1 : Int ← call (.read miiPhysid1)
      let id2 : Int ← call (.read miiPhysid2)
      if id1 < 0 ∨ id2 < 0 then outRestoreReset (-eio)
      else
        let phyId := id1 % 0x10000 * 0x10000 + id2 % 0x10000
        if phyId ≠ maxioPhyId then do
          call (.printf s!"K11C: unsupported PHY {hex8 phyId}; leaving DT unchanged")
          outRestoreReset (-enodev)
        else readMode phyId

/-- `k11c_prepare_maxio_phy`. -/
def prepareMaxioPhy : Phy Int := do
  let compatible : Bool ← call (.machineIsCompatible "kickpi,k11c")
  if !compatible then return 0
  else do
    let ret : Int ← call (.getDeviceByName "ethernet@fe010000")
    if ret ≠ 0 then do
      call (.printf s!"K11C: Ethernet device unavailable ({ret})")
      return 0
    else do
      let ret : Int ← call (.resetGetByName "stmmaceth")
      if ret ≠ 0 then do
        call (.printf s!"K11C: GMAC reset unavailable ({ret})")
        return 0
      else do
        let ret : Int ← call .resetDeassert
        if ret ≠ 0 then outFree ret
        else do
          call (.udelay 10)
          identify

/-! ## The world -/

/-- The properties of a node. -/
abbrev Props :=
  String → Option (List UInt8)

/-- The registers of the PHY by page and number, the selected page, the reset line, and the node of the
PHY with its offset, if there is one. `failed` notes that a call has failed. -/
structure World where
  regs : UInt16 → Nat → UInt16
  page : UInt16
  asserted : Bool
  phy : Option (Int × Props)
  failed : Bool

/-- The value of a register. -/
def World.reg (w : World) (reg : Nat) : UInt16 :=
  if reg = maxioPageReg then w.page else w.regs w.page reg

/-- The clock mode. -/
def World.clock (w : World) : UInt16 :=
  w.regs maxioClockPage maxioClockReg

/-- A call has failed, without effect. -/
def World.fail (w : World) : World :=
  { w with failed := true }

/-- A write of a register. The page register is the same on all pages, and the ID write on page 0 may
change what that page shows. -/
def Written (w : World) (reg : Nat) (value : UInt16) (w' : World) : Prop :=
  if reg = maxioPageReg then w' = { w with page := value }
  else if w.page = 0 ∧ reg = miiPhysid2 then
    ∃ regs, (∀ page reg, page ≠ 0 → regs page reg = w.regs page reg) ∧ w' = { w with regs := regs }
  else w' = { w with regs := Function.update w.regs w.page (Function.update (w.regs w.page) reg value) }

/-- A call that returns zero does something, and any other code is a failure. -/
def World.after (w : World) (code : Int) (done : World) : World :=
  if code = 0 then done else w.fail

/-- A read returns the register, or a negative code. -/
def Reads (w : World) (reg : Nat) (value : Int) (w' : World) : Prop :=
  (value < 0 ∧ w' = w.fail) ∨ (value = (w.reg reg).toNat ∧ w' = w)

/-- A write fails only while no call has failed. -/
def Writes (w : World) (reg : Nat) (value : UInt16) (code : Int) (w' : World) : Prop :=
  (code ≠ 0 ∧ w.failed = false ∧ w' = w.fail) ∨ (code = 0 ∧ Written w reg value w')

/-- The node of the PHY is found where it is, or not at all. -/
def Finds (w : World) (node : Int) (w' : World) : Prop :=
  (node < 0 ∧ w' = w.fail) ∨ (0 ≤ node ∧ (∃ props, w.phy = some (node, props)) ∧ w' = w)

/-- A property is deleted or was not there, or the call fails. -/
def Deletes (w : World) (node : Int) (name : String) (code : Int) (w' : World) : Prop :=
  (code ≠ 0 ∧ code ≠ -fdtErrNotfound ∧ w' = w.fail) ∨
    ∃ props, w.phy = some (node, props) ∧
      ((code = 0 ∧ props name ≠ none ∧
          w' = { w with phy := some (node, Function.update props name none) }) ∨
        (code = -fdtErrNotfound ∧ props name = none ∧ w' = w))

/-- What a call does. -/
def Step (w : World) (e : Call) (w' : World) : Prop :=
  match e with
  | ⟨.getDeviceByName _, code⟩ => w' = w.after code w
  | ⟨.resetGetByName _, code⟩ => w' = w.after code w
  | ⟨.resetDeassert, code⟩ => w' = w.after code { w with asserted := false }
  | ⟨.resetAssert, code⟩ => w' = w.after code { w with asserted := true }
  | ⟨.miiphyGetDev, bus⟩ => w' = bif bus then w else w.fail
  | ⟨.read reg, value⟩ => Reads w reg value w'
  | ⟨.write reg value, code⟩ => Writes w reg value code w'
  | ⟨.fdtPathOffset _, node⟩ => Finds w node w'
  | ⟨.fdtDelprop node name, code⟩ => Deletes w node name code w'
  | _ => w' = w

/-! ## How a preparation ends -/

/-- A register that is neither on page 0 nor the clock mode. -/
def Apart (page : UInt16) (reg : Nat) : Prop :=
  page ≠ 0 ∧ ¬ (page = maxioClockPage ∧ reg = maxioClockReg)

/-- The other registers are as they were. -/
def Kept (w w' : World) : Prop :=
  ∀ page reg, Apart page reg → w'.regs page reg = w.regs page reg

/-- The PHY is prepared. -/
structure Prepared (w w' : World) : Prop where
  clock : w'.clock = maxioClockMode
  page : w'.page = 0
  reset : w'.asserted = false
  removed : ∃ node props props', w.phy = some (node, props) ∧ w'.phy = some (node, props') ∧
    props' "reset-gpios" = none ∧ ∀ name, name ≠ "reset-gpios" → props' name = props name
  kept : Kept w w'

/-- The call that restores the reset fails. -/
def AssertFails (t : List Call) : Prop :=
  ∃ ret : Int, ret ≠ 0 ∧ (⟨.resetAssert, ret⟩ : Call) ∈ t

/-- The PHY and the device tree are as before. -/
structure Restored (w w' : World) : Prop where
  clock : w'.clock = w.clock
  page : w'.page = 0
  tree : w'.phy = w.phy
  kept : Kept w w'

/-- The call that frees the reset handle. -/
def frees : Call → Bool
  | ⟨.resetFree, _⟩ => true
  | _ => false

/-- How a stage ends after the reset has been deasserted. -/
structure Post (w : World) (t : List Call) (r : Except Empty Int) (w' : World) : Prop where
  result : r = .ok 0
  outcome : Prepared w w' ∨ Restored w w' ∧ (w'.asserted = true ∨ AssertFails t)
  freed : t.countP frees = 1

/-- Calls that do not free the handle. -/
def Plain (o : Op) : Prop :=
  o ≠ .resetFree

/-- A call that does not free the handle may come first. -/
lemma Post.cons {w w' : World} {t r} {e : Call} (h : Post w t r w') (plain : Plain e.1) :
    Post w (e :: t) r w' := by
  have quiet : frees e = false := by
    obtain ⟨o, a⟩ := e
    cases o with
    | resetFree => exact absurd rfl plain
    | _ => rfl
  refine ⟨h.result, ?_, ?_⟩
  · obtain prepared | ⟨restored, asserted | ⟨ret, ne, mem⟩⟩ := h.outcome
    · exact .inl prepared
    · exact .inr ⟨restored, .inl asserted⟩
    · exact .inr ⟨restored, .inr ⟨ret, ne, .tail _ mem⟩⟩
  · rw [List.countP_cons, h.freed, quiet]
    rfl

section Rules

variable {α : Type} {w w0 : World}

/-- A stage that begins with a call. -/
lemma ensures_call {o : Op} {f : Ans o → Phy α} {Q : List Call → Except Empty α → World → Prop}
    (h : ∀ a w1, Step w ⟨o, a⟩ w1 → Ensures Step (f a) w1 fun t => Q (⟨o, a⟩ :: t)) :
    Ensures Step (call o >>= f) w Q :=
  h

/-- A stage that begins with a call that does not free the handle. -/
lemma post_call {o : Op} {f : Ans o → Phy Int} (plain : Plain o)
    (h : ∀ a w1, Step w ⟨o, a⟩ w1 → Ensures Step (f a) w1 (Post w0)) :
    Ensures Step (call o >>= f) w (Post w0) :=
  ensures_call fun a w1 st => (h a w1 st).mono fun _ _ _ post => post.cons plain

/-- A write after a failure succeeds. -/
lemma written_of_failed {reg : Nat} {value : UInt16} {ret : Int} {w' : World}
    (st : Step w ⟨.write reg value, ret⟩ w')
    (failed : w.failed = true) : ret = 0 ∧ Written w reg value w' := by
  obtain ⟨_, intact, _⟩ | done := st
  · rw [failed] at intact
    cases intact
  · exact done

/-- A write of the page register. -/
lemma written_page {value : UInt16} {w' : World} (h : Written w maxioPageReg value w') :
    w' = { w with page := value } := by
  unfold Written at h
  rwa [if_pos rfl] at h

/-- A write of the clock mode with its page selected. -/
lemma written_clock {value : UInt16} {w' : World} (h : Written w maxioClockReg value w')
    (page : w.page = maxioClockPage) :
    w'.clock = value ∧ w'.page = w.page ∧ w'.asserted = w.asserted ∧ w'.phy = w.phy ∧
      w'.failed = w.failed ∧ Kept w w' := by
  unfold Written at h
  rw [if_neg (by decide), if_neg (by rw [page]; decide)] at h
  subst h
  refine ⟨?_, rfl, rfl, rfl, rfl, ?_⟩
  · simp only [World.clock, page, Function.update_self]
  · rintro p r ⟨_, apart⟩
    by_cases same : p = w.page
    · subst same
      have other : r ≠ maxioClockReg := fun eq => apart ⟨page, eq⟩
      simp only [Function.update_self, Function.update_of_ne other]
    · simp only [Function.update_of_ne same]

/-- The ID write on page 0. -/
lemma written_id {value : UInt16} {w' : World} (h : Written w miiPhysid2 value w')
    (page : w.page = 0) :
    ∃ regs, (∀ page reg, page ≠ 0 → regs page reg = w.regs page reg) ∧ w' = { w with regs := regs } := by
  unfold Written at h
  rwa [if_neg (by decide), if_pos ⟨page, rfl⟩] at h

/-- A read keeps a PHY that is as before. -/
lemma Reads.keeps {reg : Nat} {value : Int} {w' : World} (h : Reads w reg value w')
    (restored : Restored w0 w)
    (reset : w.asserted = false) : Restored w0 w' ∧ w'.asserted = false := by
  obtain ⟨_, rfl⟩ | ⟨_, rfl⟩ := h
  · exact ⟨⟨restored.clock, restored.page, restored.tree, restored.kept⟩, reset⟩
  · exact ⟨restored, reset⟩

/-- One stretch after another. -/
lemma Kept.trans {w1 w2 w3 : World} (h : Kept w1 w2) (k : Kept w2 w3) : Kept w1 w3 :=
  fun p r apart => (k p r apart).trans (h p r apart)

end Rules

section Cleanup

variable {w w0 : World} {ret oldMode phyId : Int}

/-- `out_free` frees the handle and changes nothing. -/
lemma outFree_ends : Ensures Step (outFree ret) w fun t r w' =>
    r = .ok 0 ∧ w' = w ∧ t.countP frees = 1 := by
  intro _ w1 st _ w2 st'
  obtain rfl : w1 = w := st
  obtain rfl : w2 = w1 := st'
  exact ⟨rfl, rfl, rfl⟩

/-- From `out_restore_reset` on only the reset is left to restore. -/
lemma outRestoreReset_post (restored : Restored w0 w) :
    Ensures Step (outRestoreReset ret) w (Post w0) := by
  apply ensures_call
  intro (a : Int) w1 st
  refine outFree_ends.mono ?_
  rintro t r w2 ⟨result, rfl, freed⟩
  have eq : w2 = if a = 0 then { w with asserted := true } else w.fail := st
  obtain ⟨clock, page, tree, kept⟩ := restored
  refine ⟨result, .inr ?_, by rw [List.countP_cons, freed]; rfl⟩
  split_ifs at eq with ok
  · subst eq
    exact ⟨⟨clock, page, tree, kept⟩, .inl rfl⟩
  · subst eq
    exact ⟨⟨clock, page, tree, kept⟩, .inr ⟨a, ok, .head _⟩⟩

/-- From `out_restore_page` on the page is left to restore as well. -/
lemma outRestorePage_post (failed : w.failed = true)
    (clock : w.clock = w0.clock)
    (tree : w.phy = w0.phy)
    (kept : Kept w0 w) : Ensures Step (outRestorePage ret) w (Post w0) := by
  refine post_call nofun fun a w1 st => ?_
  obtain ⟨_, written⟩ := written_of_failed st failed
  obtain rfl := written_page written
  exact outRestoreReset_post ⟨clock, rfl, tree, kept⟩

/-- From `out_restore_mode` on the clock mode is left to restore, whatever it and the page are. -/
lemma outRestoreMode_post (failed : w.failed = true)
    (old : oldMode = w0.clock.toNat)
    (tree : w.phy = w0.phy)
    (kept : Kept w0 w) : Ensures Step (outRestoreMode oldMode ret) w (Post w0) := by
  have same : UInt16.ofNat oldMode.toNat = w0.clock := by
    rw [old, Int.toNat_natCast, UInt16.ofNat_toNat]
  unfold outRestoreMode
  rw [if_pos (by omega), same]
  refine post_call nofun fun a w1 st => ?_
  obtain ⟨rfl, written⟩ := written_of_failed st failed
  obtain rfl := written_page written
  refine post_call nofun fun b w2 st => ?_
  obtain ⟨_, written⟩ := written_of_failed st failed
  obtain ⟨clock, _, _, phy, failed2, kept2⟩ := written_clock written rfl
  refine post_call nofun fun d w3 st => ?_
  obtain ⟨_, written⟩ := written_of_failed st (failed2.trans failed)
  obtain rfl := written_page written
  refine outRestoreReset_post ⟨clock, rfl, phy.trans tree, ?_⟩
  exact fun p r apart => (kept2 p r apart).trans (kept p r apart)

end Cleanup

section Stages

variable {w w0 : World} {oldMode phyId : Int}

/-- The device tree is changed last: the PHY is prepared if that succeeds. -/
lemma removeReset_post (page : w.page = 0)
    (clock : w.clock = maxioClockMode)
    (reset : w.asserted = false)
    (old : oldMode = w0.clock.toNat)
    (tree : w.phy = w0.phy)
    (kept : Kept w0 w) : Ensures Step (removeReset phyId oldMode) w (Post w0) := by
  refine post_call nofun ?_
  intro (node : Int) w1 st
  have found : Finds w node w1 := st
  obtain ⟨negative, rfl⟩ | ⟨_, _, rfl⟩ := found
  · rw [if_pos negative]
    exact outRestoreMode_post rfl old tree kept
  rw [if_neg (by omega)]
  refine post_call nofun ?_
  intro (code : Int) w2 st
  have deleted : Deletes w1 node "reset-gpios" code w2 := st
  obtain ⟨failed, other, rfl⟩ | ⟨props, here, deleted⟩ := deleted
  · rw [if_pos ⟨failed, other⟩]
    exact outRestoreMode_post rfl old tree kept
  have done : ¬ (code ≠ 0 ∧ code ≠ -fdtErrNotfound) := by
    obtain ⟨rfl, _⟩ | ⟨rfl, _⟩ := deleted <;> simp
  rw [if_neg done]
  -- the last two calls change nothing
  intro _ w3 st _ w4 st'
  obtain rfl : w3 = w2 := st
  obtain rfl : w4 = w3 := st'
  refine ⟨rfl, .inl ?_, rfl⟩
  obtain ⟨_, _, rfl⟩ | ⟨_, absent, rfl⟩ := deleted
  · refine ⟨clock, page, reset, ⟨node, props, _, tree ▸ here, rfl, ?_, ?_⟩, kept⟩
    · exact Function.update_self ..
    · exact fun name other => Function.update_of_ne other ..
  · exact ⟨clock, page, reset, ⟨node, props, props, tree ▸ here, here, absent, fun _ _ => rfl⟩, kept⟩

/-- The clock mode is changed with its page selected, and the old mode known. -/
lemma changeMode_post (page : w.page = maxioClockPage)
    (reset : w.asserted = false)
    (old : oldMode = w0.clock.toNat)
    (tree : w.phy = w0.phy)
    (kept : Kept w0 w) : Ensures Step (changeMode phyId oldMode) w (Post w0) := by
  refine post_call nofun ?_
  intro (code : Int) w1 st
  have wrote : Writes w maxioClockReg maxioClockMode code w1 := st
  obtain ⟨failed, _, rfl⟩ | ⟨rfl, written⟩ := wrote
  · rw [if_pos failed]
    exact outRestoreMode_post rfl old tree kept
  obtain ⟨clock, page1, reset1, tree1, _, kept1⟩ := written_clock written page
  replace kept1 := kept.trans kept1
  rw [if_neg (by simp)]
  refine post_call nofun ?_
  intro (mode : Int) w2 st
  have read : Reads w1 maxioClockReg mode w2 := st
  obtain ⟨negative, rfl⟩ | ⟨eq, rfl⟩ := read
  · rw [if_pos (by omega)]
    exact outRestoreMode_post rfl old (tree1.trans tree) kept1
  -- the mode is read back as it was written
  have same : mode = maxioClockMode.toNat := by
    rw [eq, World.reg, if_neg (by decide), page1, page, ← clock, World.clock]
  rw [if_neg (by simp [same])]
  refine post_call nofun ?_
  intro (code : Int) w3 st
  have wrote : Writes w2 maxioPageReg 0 code w3 := st
  obtain ⟨failed, _, rfl⟩ | ⟨rfl, written⟩ := wrote
  · rw [if_pos failed]
    exact outRestoreMode_post rfl old (tree1.trans tree) kept1
  obtain rfl := written_page written
  rw [if_neg (by simp)]
  exact removeReset_post rfl clock (reset1.trans reset) old (tree1.trans tree) kept1

/-- The old mode is read from a PHY that has not been changed. -/
lemma readMode_post (page : w.page = 0)
    (reset : w.asserted = false)
    (clock : w.clock = w0.clock)
    (tree : w.phy = w0.phy)
    (kept : Kept w0 w) : Ensures Step (readMode phyId) w (Post w0) := by
  refine post_call nofun ?_
  intro (code : Int) w1 st
  have wrote : Writes w maxioPageReg maxioClockPage code w1 := st
  obtain ⟨failed, _, rfl⟩ | ⟨rfl, written⟩ := wrote
  · rw [if_pos failed]
    exact outRestoreReset_post ⟨clock, page, tree, kept⟩
  obtain rfl := written_page written
  rw [if_neg (by simp)]
  refine post_call nofun ?_
  intro (oldMode : Int) w2 st
  have read : Reads _ maxioClockReg oldMode w2 := st
  obtain ⟨negative, rfl⟩ | ⟨rfl, rfl⟩ := read
  · rw [if_pos negative]
    exact outRestorePage_post rfl clock tree kept
  rw [if_neg (by omega)]
  refine changeMode_post rfl reset ?_ tree kept
  rw [World.reg, if_neg (by decide), ← clock]
  rfl

/-- The identification touches page 0 only. -/
lemma identify_post (page : w.page = 0)
    (reset : w.asserted = false)
    (clock : w.clock = w0.clock)
    (tree : w.phy = w0.phy)
    (kept : Kept w0 w) : Ensures Step identify w (Post w0) := by
  have restored : Restored w0 w := ⟨clock, page, tree, kept⟩
  refine post_call nofun ?_
  intro (bus : Bool) w1 st
  have bound : w1 = bif bus then w else w.fail := st
  cases bus with
  | false =>
    obtain rfl : w1 = w.fail := bound
    exact outRestoreReset_post ⟨clock, page, tree, kept⟩
  | true =>
    obtain rfl : w1 = w := bound
    refine post_call nofun ?_
    intro (code : Int) w2 st
    have wrote : Writes w1 miiPhysid2 0 code w2 := st
    -- on page 0 this write may change that page, and no other
    obtain ⟨failed, _, rfl⟩ | ⟨rfl, written⟩ := wrote
    · rw [if_pos failed]
      exact outRestoreReset_post ⟨clock, page, tree, kept⟩
    obtain ⟨regs, same, rfl⟩ := written_id written page
    rw [if_neg (by simp)]
    have clock2 : regs maxioClockPage maxioClockReg = w0.clock := by
      rw [same _ _ (by decide), ← clock, World.clock]
    have kept2 : Kept w0 { w1 with regs := regs } := by
      intro p r apart
      exact (same p r apart.1).trans (kept p r apart)
    refine post_call nofun ?_
    intro (id1 : Int) w3 st
    have read1 : Reads _ miiPhysid1 id1 w3 := st
    refine post_call nofun ?_
    intro (id2 : Int) w4 st
    have read2 : Reads _ miiPhysid2 id2 w4 := st
    obtain ⟨restored3, reset3⟩ := read1.keeps ⟨clock2, page, tree, kept2⟩ reset
    obtain ⟨restored4, reset4⟩ := read2.keeps restored3 reset3
    dsimp only
    split_ifs with negative known
    · exact outRestoreReset_post restored4
    · refine post_call nofun ?_
      intro _ w5 st
      obtain rfl : w5 = w4 := st
      exact outRestoreReset_post restored4
    · exact readMode_post restored4.page reset4 restored4.clock restored4.tree restored4.kept

end Stages

/-! ## The whole preparation -/

/-- A call has returned zero. -/
def done (code : Int) : Bool :=
  code == 0

/-- The call that obtains the reset handle. -/
def obtains : Call → Bool
  | ⟨.resetGetByName _, code⟩ => done code
  | _ => false

/-- The call that deasserts the reset. -/
def deasserts : Call → Bool
  | ⟨.resetDeassert, code⟩ => done code
  | _ => false

/-- How a preparation ends. -/
structure Ends (w : World) (t : List Call) (r : Except Empty Int) (w' : World) : Prop where
  /-- The boot goes on in any case. -/
  result : r = .ok 0
  outcome : Prepared w w' ∨ Restored w w' ∧
    if t.any deasserts then w'.asserted = true ∨ AssertFails t else w'.asserted = w.asserted
  /-- The handle is freed once if it has been obtained. -/
  freed : t.countP frees = if t.any obtains then 1 else 0

/-- A preparation that has not got to the reset changes nothing. -/
lemma ends_unchanged {w w' : World} {t r} (page : w.page = 0)
    (result : r = .ok 0)
    (same : w' = w ∨ w' = w.fail)
    (reset : t.any deasserts = false)
    (freed : t.countP frees = if t.any obtains then 1 else 0) : Ends w t r w' := by
  refine ⟨result, .inr ?_, freed⟩
  rw [reset]
  obtain rfl | rfl := same
  · exact ⟨⟨rfl, page, rfl, fun _ _ _ => rfl⟩, rfl⟩
  · exact ⟨⟨rfl, page, rfl, fun _ _ _ => rfl⟩, rfl⟩

/-- A code is no failure. -/
lemma done_of_ne {code : Int} (failed : code ≠ 0) : done code = false :=
  beq_false_of_ne failed

/-- From the identification on, the reset is deasserted and the handle obtained. -/
lemma Post.ends {w w' : World} {t r} {e1 e2 e3 e4 : Call}
    (h : Post w t r w')
    (obtained : obtains e3 = true)
    (deasserted : deasserts e4 = true)
    (quiet : [e1, e2, e3, e4].countP frees = 0) : Ends w (e1 :: e2 :: e3 :: e4 :: t) r w' := by
  have reset : (e1 :: e2 :: e3 :: e4 :: t).any deasserts = true := by
    simp [deasserted]
  have handle : (e1 :: e2 :: e3 :: e4 :: t).any obtains = true := by
    simp [obtained]
  refine ⟨h.result, ?_, ?_⟩
  · obtain prepared | ⟨restored, asserted | ⟨ret, failed, mem⟩⟩ := h.outcome
    · exact .inl prepared
    · rw [reset]
      exact .inr ⟨restored, .inl asserted⟩
    · rw [reset]
      exact .inr ⟨restored, .inr ⟨ret, failed, .tail _ (.tail _ (.tail _ (.tail _ mem)))⟩⟩
  · have split : (e1 :: e2 :: e3 :: e4 :: t).countP frees =
        [e1, e2, e3, e4].countP frees + t.countP frees :=
      @List.countP_append _ _ [e1, e2, e3, e4] t
    rw [handle, split, quiet, h.freed]
    rfl

/-- Whichever calls fail, a preparation ends with the PHY prepared, or with everything as it was and the
reset asserted, unless that very call fails. -/
theorem prepareMaxioPhy_rolls_back {w w' : World} {t r}
    (run : Runs prepareMaxioPhy t r)
    (path : Lts.Path Step w t w')
    (page : w.page = 0) : Ends w t r w' := by
  refine Ensures.run (Q := Ends w) ?_ run path
  refine ensures_call ?_
  intro (compatible : Bool) w1 st
  obtain rfl : w1 = w := st
  cases compatible with
  | false => exact ends_unchanged page rfl (.inl rfl) rfl rfl
  | true =>
    refine ensures_call ?_
    intro (code : Int) w2 st
    have eq : w2 = if code = 0 then w1 else w1.fail := st
    split_ifs at eq with ok
    case neg =>
      rw [if_pos ok]
      intro _ w3 st
      obtain rfl : w3 = w2 := st
      exact ends_unchanged page rfl (.inr eq) rfl rfl
    subst ok eq
    rw [if_neg (by simp)]
    refine ensures_call ?_
    intro (code : Int) w3 st
    have eq : w3 = if code = 0 then w2 else w2.fail := st
    split_ifs at eq with ok
    case neg =>
      rw [if_pos ok]
      intro _ w4 st
      obtain rfl : w4 = w3 := st
      refine ends_unchanged page rfl (.inr eq) rfl ?_
      have none : done code = false := done_of_ne ok
      simp [none, obtains, frees]
    subst ok eq
    rw [if_neg (by simp)]
    refine ensures_call ?_
    intro (code : Int) w4 st
    have eq : w4 = if code = 0 then { w3 with asserted := false } else w3.fail := st
    split_ifs at eq with ok
    case neg =>
      -- the reset has not been deasserted, and the handle is freed
      rw [if_pos ok]
      intro _ w5 st _ w6 st'
      obtain rfl : w5 = w4 := st
      obtain rfl : w6 = w5 := st'
      have none : done code = false := done_of_ne ok
      refine ends_unchanged page rfl (.inr eq) ?_ rfl
      simp [none, deasserts]
    subst ok eq
    rw [if_neg (by simp)]
    have rest : Ensures Step (call (.udelay 10) >>= fun _ => identify) { w3 with asserted := false }
        (Post w3) := by
      refine post_call nofun ?_
      intro _ w5 st
      obtain rfl : w5 = _ := st
      exact identify_post page rfl rfl rfl fun _ _ _ => rfl
    exact rest.mono fun u r w5 post => post.ends rfl rfl rfl

/-- A board with the PHY in its first clock mode, its ID shown on page 0, and a reset in the device
tree. -/
def sampleWorld : World where
  regs page reg := if page = 0 then (if reg = miiPhysid1 then 0x7b74 else 0x4411) else 0x1001
  page := 0
  asserted := true
  phy := some (64, fun name => if name = "reset-gpios" then some [1] else none)
  failed := false

/-- What a preparation begins with. -/
def samplePrefix : List Call :=
  [⟨.machineIsCompatible "kickpi,k11c", true⟩, ⟨.getDeviceByName "ethernet@fe010000", (0 : Int)⟩,
    ⟨.resetGetByName "stmmaceth", (0 : Int)⟩, ⟨.resetDeassert, (0 : Int)⟩, ⟨.udelay 10, ()⟩,
    ⟨.miiphyGetDev, true⟩]

/-- The change of the device tree fails after the clock mode has been changed. -/
def rollbackTrace : List Call :=
  samplePrefix ++ [⟨.write miiPhysid2 0, (0 : Int)⟩, ⟨.read miiPhysid1, (0x7b74 : Int)⟩,
    ⟨.read miiPhysid2, (0x4411 : Int)⟩, ⟨.write maxioPageReg maxioClockPage, (0 : Int)⟩,
    ⟨.read maxioClockReg, (0x1001 : Int)⟩, ⟨.write maxioClockReg maxioClockMode, (0 : Int)⟩,
    ⟨.read maxioClockReg, (0x200a : Int)⟩, ⟨.write maxioPageReg 0, (0 : Int)⟩,
    ⟨.fdtPathOffset "/ethernet@fe010000/mdio/ethernet-phy@0", (64 : Int)⟩,
    ⟨.fdtDelprop 64 "reset-gpios", (-5 : Int)⟩, ⟨.write maxioPageReg maxioClockPage, (0 : Int)⟩,
    ⟨.write maxioClockReg 0x1001, (0 : Int)⟩, ⟨.write maxioPageReg 0, (0 : Int)⟩,
    ⟨.resetAssert, (0 : Int)⟩,
    ⟨.printf s!"K11C: Maxio PHY preparation failed ({(-5 : Int)})", ()⟩, ⟨.resetFree, ()⟩]

/-- The calls of the run. -/
lemma rollback_runs : Runs prepareMaxioPhy rollbackTrace (.ok 0) :=
  .ask (.ask (.ask (.ask (.ask (.ask (.ask (.ask (.ask (.ask (.ask (.ask (.ask (.ask (.ask (.ask (.ask
    (.ask (.ask (.ask (.ask (.ask .ret)))))))))))))))))))))

/-- A write that does what it should. -/
def World.write (w : World) (reg : Nat) (value : UInt16) : World :=
  if reg = maxioPageReg then { w with page := value }
  else { w with regs := Function.update w.regs w.page (Function.update (w.regs w.page) reg value) }

/-- The board with its new clock mode. -/
def changedWorld : World :=
  ((({ sampleWorld with asserted := false }.write maxioPageReg maxioClockPage).write maxioClockReg
    maxioClockMode).write maxioPageReg 0)

/-- The board with its old clock mode again. -/
def rollbackWorld : World :=
  { (((changedWorld.fail.write maxioPageReg maxioClockPage).write maxioClockReg 0x1001).write
    maxioPageReg 0) with asserted := true }

/-- What the calls of the run do. -/
lemma rollback_path : Lts.Path Step sampleWorld rollbackTrace rollbackWorld := by
  let w1 : World := { sampleWorld with asserted := false }
  let w2 := w1.write maxioPageReg maxioClockPage
  have identified : Writes w1 miiPhysid2 0 0 w1 := .inr ⟨rfl, sampleWorld.regs, fun _ _ _ => rfl, rfl⟩
  have id1 : Reads w1 miiPhysid1 0x7b74 w1 := .inr ⟨rfl, rfl⟩
  have id2 : Reads w1 miiPhysid2 0x4411 w1 := .inr ⟨rfl, rfl⟩
  have selected : Writes w1 maxioPageReg maxioClockPage 0 w2 := .inr ⟨rfl, rfl⟩
  have old : Reads w2 maxioClockReg 0x1001 w2 := .inr ⟨rfl, rfl⟩
  let w3 := w2.write maxioClockReg maxioClockMode
  have written : Writes w2 maxioClockReg maxioClockMode 0 w3 := .inr ⟨rfl, rfl⟩
  have new : Reads w3 maxioClockReg 0x200a w3 := .inr ⟨rfl, rfl⟩
  have page : Writes w3 maxioPageReg 0 0 changedWorld := .inr ⟨rfl, rfl⟩
  have found : Finds changedWorld 64 changedWorld := .inr ⟨by decide, ⟨_, rfl⟩, rfl⟩
  have failed : Deletes changedWorld 64 "reset-gpios" (-5) changedWorld.fail :=
    .inl ⟨by decide, by decide, rfl⟩
  let w4 := changedWorld.fail.write maxioPageReg maxioClockPage
  have again : Writes changedWorld.fail maxioPageReg maxioClockPage 0 w4 := .inr ⟨rfl, rfl⟩
  let w5 := w4.write maxioClockReg 0x1001
  have restored : Writes w4 maxioClockReg 0x1001 0 w5 := .inr ⟨rfl, rfl⟩
  have back : Writes w5 maxioPageReg 0 0 (w5.write maxioPageReg 0) := .inr ⟨rfl, rfl⟩
  exact .cons rfl (.cons rfl (.cons rfl (.cons rfl (.cons rfl (.cons rfl (.cons identified (.cons id1
    (.cons id2 (.cons selected (.cons old (.cons written (.cons new (.cons page (.cons found
    (.cons failed (.cons again (.cons restored (.cons back (.cons rfl (.cons rfl (.cons rfl
    .nil)))))))))))))))))))))

/-- A failure of the last call that can fail is rolled back. -/
theorem prepareMaxioPhy_rolls_back_sample :
    sampleWorld.page = 0 ∧ Ends sampleWorld rollbackTrace (.ok 0) rollbackWorld :=
  ⟨rfl, prepareMaxioPhy_rolls_back rollback_runs rollback_path rfl⟩

/-- The ID write fails, and then so does the assertion of the reset. -/
def deassertedTrace : List Call :=
  samplePrefix ++ [⟨.write miiPhysid2 0, (-5 : Int)⟩, ⟨.resetAssert, (-5 : Int)⟩,
    ⟨.printf s!"K11C: Maxio PHY preparation failed ({(-5 : Int)})", ()⟩, ⟨.resetFree, ()⟩]

/-- The calls of the run. -/
lemma deasserted_runs : Runs prepareMaxioPhy deassertedTrace (.ok 0) :=
  .ask (.ask (.ask (.ask (.ask (.ask (.ask (.ask (.ask (.ask .ret)))))))))

/-- What the calls of the run do. -/
lemma deasserted_path :
    Lts.Path Step sampleWorld deassertedTrace
      { sampleWorld with asserted := false, failed := true } := by
  have failed : Writes { sampleWorld with asserted := false } miiPhysid2 0 (-5)
      { sampleWorld with asserted := false, failed := true } := .inl ⟨by decide, rfl, rfl⟩
  exact .cons rfl (.cons rfl (.cons rfl (.cons rfl (.cons rfl (.cons rfl (.cons failed
    (.cons rfl (.cons rfl (.cons rfl .nil)))))))))

/-- The code of the call that restores the reset is not looked at: if it fails, the reset stays
deasserted. -/
theorem prepareMaxioPhy_leaves_deasserted :
    ¬ ∀ w t r w', Runs prepareMaxioPhy t r → Lts.Path Step w t w' → w.page = 0 →
      Prepared w w' ∨ Restored w w' ∧
        if t.any deasserts then w'.asserted = true else w'.asserted = w.asserted := by
  intro h
  obtain prepared | ⟨_, asserted⟩ := h _ _ _ _ deasserted_runs deasserted_path rfl
  · have clock : (0x1001 : UInt16) = maxioClockMode := prepared.clock
    exact absurd clock (by decide)
  · have asserted : false = true := asserted
    cases asserted

end K11CHaos.Board
