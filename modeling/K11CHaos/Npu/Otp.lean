import K11CHaos.Lib.Bytes
import K11CHaos.Lib.Hoare

/-!
# OTP reads

`k11c_rk3568_otp.c`: the ECC-enabled read of the fuses (`rk3568OtpRead`) behind its bounds test
(`k11cOtpRead`), as a program that asks the kernel and the controller: allocations, clocks, the reset
line, register accesses and the copy into the caller's buffer. The labels of the source are the
functions `out`, `disableClks` and `readEnd`.

`Device` is what the program relies on: a word access latches the word of the address register, the
clocks and the buffers are counted, and the caller's buffer changes by the final copy only. Any call may
fail (`Fault`). `k11cOtpRead_reads` holds for every request and every such environment.
-/

namespace K11CHaos.Npu.Otp

open Prog

/-- The controller registers of the read sequence. -/
inductive Reg where
  | sbpiCtrl
  | sbpiCmdValidPre
  | sbpiCmd0
  | sbpiCmd1
  | userCtrl
  | userAddr
  | userEnable
  | userQp
  | userQ
  | intStatus
deriving DecidableEq, Repr

/-- What the read asks of the kernel and of the controller. `poll` is `readl_poll_timeout_atomic` on
    the interrupt status, `copyOut` the `memcpy` into the caller's buffer. -/
inductive Op where
  | lock
  | unlock
  | kzalloc (size : UInt64)
  | kfree
  | clkEnable
  | clkDisable
  | assert
  | deassert
  | udelay (us : Nat)
  | writel (value : UInt32) (reg : Reg)
  | readl (reg : Reg)
  | poll (flag : UInt32)
  | copyOut (data : Bytes)
deriving DecidableEq, Repr

/-- What is answered: an error number, a register value, or whether a call succeeded. -/
def Ans : Op → Type
  | .clkEnable => Int
  | .assert => Int
  | .deassert => Int
  | .kzalloc _ => Bool
  | .poll _ => Bool
  | .readl _ => UInt32
  | _ => Unit

/-- Programs of the driver, which return and never throw. -/
abbrev Drv := Prog Op Ans Empty

/-- A question on its own. -/
def op (o : Op) : Drv (Ans o) := .ask o .ret

def EINVAL : Int := 22
def ENOMEM : Int := 12
def EIO : Int := 5
def ETIMEDOUT : Int := 110

def NBYTES : UInt32 := 2
def OTP_SIZE : UInt32 := 0x80
def USER_ADDR_MASK : UInt32 := 0xffff0000
def USE_USER : UInt32 := 1
def USE_USER_MASK : UInt32 := 0x10000
def USER_FSM_ENABLE : UInt32 := 1
def USER_FSM_ENABLE_MASK : UInt32 := 0x10000
def SBPI_DONE : UInt32 := 2
def USER_DONE : UInt32 := 4
def SBPI_DAP_ADDR : UInt32 := 0x02
def SBPI_DAP_ADDR_MASK : UInt32 := 0xff000000
def SBPI_CMD_VALID_MASK : UInt32 := 0xffff0000
def SBPI_DAP_CMD_WRF : UInt32 := 0xc0
def SBPI_DAP_REG_ECC : UInt32 := 0x3a
def SBPI_ECC_ENABLE : UInt32 := 0x00
def SBPI_ECC_DISABLE : UInt32 := 0x09
def SBPI_ENABLE : UInt32 := 1
def SBPI_ENABLE_MASK : UInt32 := 0x10000

/-- `rockchip_otp_reset`. -/
def rockchipOtpReset : Drv Int := do
  let ret : Int ← op .assert
  if ret ≠ 0 then return ret
  op (.udelay 2)
  let ret : Int ← op .deassert
  if ret ≠ 0 then return ret
  return 0

/-- `px30_otp_wait_status`. -/
def otpWaitStatus (flag : UInt32) : Drv Int := do
  let met : Bool ← op (.poll flag)
  if !met then return -ETIMEDOUT
  op (.writel flag .intStatus)
  return 0

/-- `px30_otp_ecc_enable`. -/
def otpEccEnable (enable : Bool) : Drv Int := do
  op (.writel (SBPI_DAP_ADDR_MASK ||| (SBPI_DAP_ADDR <<< 8)) .sbpiCtrl)
  op (.writel (SBPI_CMD_VALID_MASK ||| 0x1) .sbpiCmdValidPre)
  op (.writel (SBPI_DAP_CMD_WRF ||| SBPI_DAP_REG_ECC) .sbpiCmd0)
  op (.writel (if enable then SBPI_ECC_ENABLE else SBPI_ECC_DISABLE) .sbpiCmd1)
  op (.writel (SBPI_ENABLE_MASK ||| SBPI_ENABLE) .sbpiCtrl)
  otpWaitStatus SBPI_DONE

/-- The status of a word access reports an ECC error. -/
def eccError (qp : UInt32) : Bool :=
  qp &&& 0xc0 == 0xc0 || qp &&& 0x20 != 0

/-- A round of the loop of `rk3568_otp_read` up to its `memcpy`: the data register, or the error with
    which it leaves for `read_end`. -/
def readWord (addr : UInt32) : Drv (Except Int UInt32) := do
  op (.writel (addr ||| USER_ADDR_MASK) .userAddr)
  op (.writel (USER_FSM_ENABLE ||| USER_FSM_ENABLE_MASK) .userEnable)
  let ret ← otpWaitStatus USER_DONE
  if ret < 0 then return .error ret
  let otpQp : UInt32 ← op (.readl .userQp)
  if eccError otpQp then return .error (- EIO)
  let outValue : UInt32 ← op (.readl .userQ)
  return .ok outValue

/-- The loop of `rk3568_otp_read` with `addr_len` words to go. -/
def readWords : Nat → UInt32 → Nat → Bytes → Drv (Except Int Bytes)
  | 0, _, _, buf => return .ok buf
  | addrLen + 1, addrStart, i, buf => do
    match ← readWord addrStart with
    | .error err => return .error err
    | .ok outValue =>
      readWords addrLen (addrStart + 1) (i + 2) (put buf i (toLe 2 outValue.toNat))

/-- The label `out`. -/
def out (ret : Int) : Drv Int := do
  op .kfree
  return ret

/-- The label `disable_clks`. -/
def disableClks (ret : Int) : Drv Int := do
  op .clkDisable
  out ret

/-- The label `read_end`. -/
def readEnd (ret : Int) : Drv Int := do
  op (.writel USE_USER_MASK .userCtrl)
  disableClks ret

/-- `rk3568_otp_read`. -/
def rk3568OtpRead (offset : UInt32) (bytes : UInt64) : Drv Int := do
  let addrStart := (offset - offset % NBYTES) / NBYTES
  let addrEnd := (((offset.toUInt64 + bytes + 1) / 2 * 2) / 2).toUInt32
  let addrOffset := offset % NBYTES
  let addrLen := addrEnd - addrStart
  let size := addrLen.toUInt64 * 2
  let got : Bool ← op (.kzalloc size)
  if !got then return -ENOMEM
  let ret : Int ← op .clkEnable
  if ret < 0 then out ret
  else
    let ret ← rockchipOtpReset
    if ret ≠ 0 then disableClks ret
    else
      let ret ← otpEccEnable true
      if ret < 0 then disableClks ret
      else
        op (.writel (USE_USER ||| USE_USER_MASK) .userCtrl)
        op (.udelay 5)
        let r ← readWords addrLen.toNat addrStart 0 (zeros size.toNat)
        match r with
        | .error err => readEnd err
        | .ok buf =>
          op (.copyOut (slice buf addrOffset.toNat bytes.toNat))
          readEnd 0

/-- `k11c_otp_read`. -/
def k11cOtpRead (offset : UInt32) (bytes : UInt64) : Drv Int := do
  if bytes = 0 ∨ offset ≥ OTP_SIZE ∨ bytes > (OTP_SIZE - offset).toUInt64 then
    return -EINVAL
  op .lock
  let ret ← rk3568OtpRead offset bytes
  op .unlock
  return ret

/-- A call of the driver with its answer. -/
abbrev Call := Ev Op Ans

/-- The call failed: no memory, an error of a clock or reset call, a timeout or an ECC error. -/
def Fault : Call → Prop
  | ⟨.kzalloc _, (got : Bool)⟩ => got = false
  | ⟨.clkEnable, (err : Int)⟩ => err < 0
  | ⟨.assert, (err : Int)⟩ => err ≠ 0
  | ⟨.deassert, (err : Int)⟩ => err ≠ 0
  | ⟨.poll _, met⟩ => met = false
  | ⟨.readl .userQp, qp⟩ => eccError qp = true
  | _ => False

/-- The call enters user mode. -/
def EntersUser : Call → Prop
  | ⟨.writel value .userCtrl, _⟩ => value &&& USE_USER ≠ 0
  | _ => False

/-- The controller and what the driver holds: the word that the last access latched, the counts of the
    enabled clocks and of the allocated buffers, the mutex, and the caller's buffer. -/
structure Device where
  addr : UInt32
  latched : UInt16
  user : Bool
  clocks : Nat
  buffers : Nat
  locked : Bool
  val : Bytes

/-- The device after a call, with the fuse words. -/
def Device.after (words : Nat → UInt16) (d : Device) : Call → Device
  | ⟨.lock, _⟩ => { d with locked := true }
  | ⟨.unlock, _⟩ => { d with locked := false }
  | ⟨.kzalloc _, (got : Bool)⟩ => if got then { d with buffers := d.buffers + 1 } else d
  | ⟨.kfree, _⟩ => { d with buffers := d.buffers - 1 }
  | ⟨.clkEnable, (err : Int)⟩ => if err < 0 then d else { d with clocks := d.clocks + 1 }
  | ⟨.clkDisable, _⟩ => { d with clocks := d.clocks - 1 }
  | ⟨.writel value .userAddr, _⟩ => { d with addr := value &&& 0xffff }
  | ⟨.writel _ .userEnable, _⟩ => { d with latched := words d.addr.toNat }
  | ⟨.writel value .userCtrl, _⟩ => { d with user := value &&& USE_USER != 0 }
  | ⟨.copyOut data, _⟩ => { d with val := put d.val 0 data }
  | _ => d

/-- What a call can be answered: the low half of the data register is the latched word. -/
def Device.Allows (d : Device) : Call → Prop
  | ⟨.readl .userQ, q⟩ => UInt32.toNat q % 65536 = d.latched.toNat
  | _ => True

/-- The environment of the driver. -/
def Step (words : Nat → UInt16) (d : Device) (c : Call) (d' : Device) : Prop :=
  d.Allows c ∧ d' = d.after words c

/-- No call of a trace failed. -/
def Clean (t : List Call) : Prop :=
  ∀ c ∈ t, ¬ Fault c

/-- A byte of the little-endian stream of the words. -/
def streamByte (words : Nat → UInt16) (k : Nat) : UInt8 :=
  .ofNat ((words (k / 2)).toNat / 256 ^ (k % 2))

/-- The bytes of the stream from an offset. -/
def stream (words : Nat → UInt16) (off n : Nat) : Bytes :=
  (List.range n).map fun k => streamByte words (off + k)

/-- What is asked of a read of `bytes` bytes at `offset`. -/
structure Reads (words : Nat → UInt16) (offset : UInt32) (bytes : UInt64) (d : Device)
    (t : List Call) (ret : Int) (d' : Device) : Prop where
  /-- It returns 0 exactly for a nonempty request inside the fuses without a failure. -/
  zero_iff : ret = 0 ↔
    (0 < bytes.toNat ∧ offset.toNat + bytes.toNat ≤ 128) ∧ Clean t
  /-- Then the caller's buffer begins with the requested bytes of the stream. -/
  data : ret = 0 → d'.val = put d.val 0 (stream words offset.toNat bytes.toNat)
  /-- Otherwise the caller's buffer is as it was. -/
  unmodified : ret ≠ 0 → d'.val = d.val
  /-- The clocks are as they were. -/
  clocks : d'.clocks = d.clocks
  /-- User mode is left if it was entered, and else as it was. -/
  left : (∃ c ∈ t, EntersUser c) → d'.user = false
  kept : (¬ ∃ c ∈ t, EntersUser c) → d'.user = d.user
  /-- The buffer of the read is freed, and the mutex is not held. -/
  freed : d'.buffers = d.buffers
  unlocked : d.locked = false → d'.locked = false

section Parts

variable {words : Nat → UInt16} {d : Device}

/-- Nothing has failed yet. -/
@[simp]
lemma clean_nil : Clean [] := nofun

/-- A clean trace starts with no fault. -/
@[simp]
lemma clean_cons {c t} : Clean (c :: t) ↔ ¬ Fault c ∧ Clean t :=
  List.forall_mem_cons

/-- Both parts of a clean trace are clean. -/
@[simp]
lemma clean_append {t u} : Clean (t ++ u) ↔ Clean t ∧ Clean u :=
  List.forall_mem_append

/-- No call of a trace enters user mode. -/
def Calm (t : List Call) : Prop :=
  ∀ c ∈ t, ¬ EntersUser c

/-- Nothing has entered user mode yet. -/
@[simp]
lemma calm_nil : Calm [] := nofun

/-- A calm trace starts outside user mode. -/
@[simp]
lemma calm_cons {c t} : Calm (c :: t) ↔ ¬ EntersUser c ∧ Calm t :=
  List.forall_mem_cons

/-- Both parts of a calm trace are calm. -/
@[simp]
lemma calm_append {t u} : Calm (t ++ u) ↔ Calm t ∧ Calm u :=
  List.forall_mem_append

/-- A question with its continuation. -/
lemma ensures_op {α : Type} {o : Op} {f : Ans o → Drv α} {Q} :
    Ensures (Step words) (op o >>= f) d Q ↔
      ∀ a, d.Allows ⟨o, a⟩ →
        Ensures (Step words) (f a) (d.after words ⟨o, a⟩) fun t => Q (⟨o, a⟩ :: t) := by
  constructor
  · intro h a allowed
    exact h a _ ⟨allowed, rfl⟩
  · rintro h a _ ⟨allowed, rfl⟩
    exact h a allowed

/-- A part that returns 0 exactly without a failure, else an error in `P`, and leaves the device as
    it is. -/
structure Passive (P : Int → Prop) (d : Device) (t : List Call) (r : Except Empty Int) (d' : Device) :
    Prop where
  same : d' = d
  calm : Calm t
  zero : ∃ err, r = .ok err ∧ (err = 0 ↔ Clean t) ∧ (err ≠ 0 → P err)

/-- A call that leaves the device as it is ends a passive part with an error, or continues it. -/
lemma passive_op {P : Int → Prop} {o : Op} {f : Ans o → Drv Int}
    (same : ∀ a, d.after words ⟨o, a⟩ = d)
    (calm : ∀ a, ¬ EntersUser ⟨o, a⟩)
    (bad : ∀ a, Fault ⟨o, a⟩ → ∃ err : Int, err ≠ 0 ∧ P err ∧ f a = pure err)
    (good : ∀ a, ¬ Fault ⟨o, a⟩ → Ensures (Step words) (f a) d (Passive P d)) :
    Ensures (Step words) (op o >>= f) d (Passive P d) := by
  rw [ensures_op]
  intro a _
  rw [same a]
  by_cases fault : Fault ⟨o, a⟩
  · obtain ⟨err, ne, err_in, eq⟩ := bad a fault
    rw [eq]
    refine ⟨rfl, ?_, err, rfl, ?_, fun _ => err_in⟩
    · exact List.forall_mem_cons.mpr ⟨calm a, nofun⟩
    · exact iff_of_false ne fun clean => (clean_cons.mp clean).1 fault
  · apply (good a fault).mono
    rintro t r d' ⟨rfl, calm', err, rfl, zero, err_in⟩
    refine ⟨rfl, List.forall_mem_cons.mpr ⟨calm a, calm'⟩, err, rfl, ?_, err_in⟩
    rw [clean_cons, zero]
    exact (and_iff_right fault).symm

/-- A call that leaves the device as it is and cannot fail. -/
lemma passive_step {P : Int → Prop} {o : Op} {f : Ans o → Drv Int}
    (same : ∀ a, d.after words ⟨o, a⟩ = d)
    (calm : ∀ a, ¬ EntersUser ⟨o, a⟩)
    (fine : ∀ a, ¬ Fault ⟨o, a⟩)
    (next : ∀ a, Ensures (Step words) (f a) d (Passive P d)) :
    Ensures (Step words) (op o >>= f) d (Passive P d) :=
  passive_op same calm (fun a fault => absurd fault (fine a)) fun a _ => next a

/-- The end of a passive part. -/
lemma passive_done {P : Int → Prop} : Ensures (Step words) (pure 0 : Drv Int) d (Passive P d) :=
  ⟨rfl, nofun, 0, rfl, iff_of_true rfl clean_nil, fun ne => absurd rfl ne⟩

/-- The reset pulse fails with the error of its call. -/
lemma rockchipOtpReset_passive :
    Ensures (Step words) rockchipOtpReset d (Passive (fun _ => True) d) := by
  unfold rockchipOtpReset
  apply passive_op (fun _ => rfl) (fun _ => id)
  · intro err fault
    exact ⟨err, fault, trivial, if_pos fault⟩
  · intro (err : Int) ok
    rw [if_neg (show ¬ err ≠ 0 from ok)]
    apply passive_step (fun _ => rfl) (fun _ => id) (fun _ => id)
    intro _
    apply passive_op (fun _ => rfl) (fun _ => id)
    · intro err fault
      exact ⟨err, fault, trivial, if_pos fault⟩
    · intro (err : Int) ok
      rw [if_neg (show ¬ err ≠ 0 from ok)]
      exact passive_done

/-- A wait for the status times out or clears it. -/
lemma otpWaitStatus_passive {flag} :
    Ensures (Step words) (otpWaitStatus flag) d (Passive (· < 0) d) := by
  unfold otpWaitStatus
  apply passive_op (fun _ => rfl) (fun _ => id)
  · rintro met rfl
    exact ⟨-ETIMEDOUT, by decide, by decide, rfl⟩
  · intro (met : Bool) ok
    cases met with
    | false => exact absurd rfl ok
    | true =>
      apply passive_step (fun _ => rfl) (fun _ => id) (fun _ => id)
      intro _
      exact passive_done

/-- The ECC switch fails with the timeout of its wait. -/
lemma otpEccEnable_passive {enable} :
    Ensures (Step words) (otpEccEnable enable) d (Passive (· < 0) d) := by
  unfold otpEccEnable
  iterate 5
    apply passive_step (fun _ => rfl) (fun _ => id) (fun _ => id)
    intro _
  exact otpWaitStatus_passive

/-- A shorter stream and what follows it. -/
lemma stream_append {off m n} :
    stream words off (m + n) = stream words off m ++ stream words (off + m) n := by
  unfold stream
  rw [List.range_add, List.map_append, List.map_map]
  simp only [Function.comp_def, Nat.add_assoc]

/-- A stream has as many bytes as asked for. -/
@[simp]
lemma length_stream {off n} : (stream words off n).length = n := by
  simp [stream]

/-- A window of the stream. -/
lemma slice_stream {off n k l : Nat}
    (le : k + l ≤ n) : slice (stream words off n) k l = stream words (off + k) l := by
  obtain ⟨m, rfl⟩ := Nat.exists_eq_add_of_le le
  rw [stream_append, stream_append]
  exact slice_middle length_stream length_stream

/-- The stream at a word boundary begins with the bytes of the word. -/
lemma stream_word {a : Nat} {w : Nat}
    (low : w % 65536 = (words a).toNat) : stream words (2 * a) 2 = toLe 2 w := by
  have first : (2 * a + 0) / 2 = a ∧ (2 * a + 0) % 2 = 0 := by omega
  have second : (2 * a + 1) / 2 = a ∧ (2 * a + 1) % 2 = 1 := by omega
  have bytes : stream words (2 * a) 2 =
      [streamByte words (2 * a + 0), streamByte words (2 * a + 1)] := rfl
  rw [bytes]
  simp only [streamByte, first, second, toLe, ← low]
  refine List.cons_eq_cons.mpr ⟨?_, List.cons_eq_cons.mpr ⟨?_, rfl⟩⟩
  · apply UInt8.toNat_inj.mp
    simp only [UInt8.toNat_ofNat']
    omega
  · apply UInt8.toNat_inj.mp
    simp only [UInt8.toNat_ofNat']
    omega

/-- The address register takes a word address below its mask. -/
lemma addr_of_write {a : UInt32}
    (lt : a.toNat < 65536) : ((a ||| USER_ADDR_MASK) &&& 0xffff).toNat = a.toNat := by
  have mask : (0xffff : UInt32).toNat = 2 ^ 16 - 1 := rfl
  have high : USER_ADDR_MASK.toNat % 2 ^ 16 = 0 := rfl
  rw [UInt32.toNat_and, mask, Nat.and_two_pow_sub_one_eq_mod, UInt32.toNat_or, Nat.or_mod_two_pow,
    high, Nat.or_zero, Nat.mod_eq_of_lt lt]

/-- The outcome of word accesses: only the address and the latch change, and they give a result
    exactly without a failure. -/
structure Accesses {α : Type} (d : Device) (result : α → Prop) (t : List Call)
    (r : Except Empty (Except Int α)) (d' : Device) : Prop where
  same : ∃ a w, d' = { d with addr := a, latched := w }
  calm : Calm t
  result :
    (Clean t ∧ ∃ v, r = .ok (.ok v) ∧ result v) ∨
    (¬ Clean t ∧ ∃ err, err ≠ 0 ∧ r = .ok (.error err))

/-- A word access gives the word in the low half of the data register. -/
lemma readWord_accesses {addr : UInt32}
    (small : addr.toNat < 65536) :
    Ensures (Step words) (readWord addr) d
      (Accesses d fun v => v.toNat % 65536 = (words addr.toNat).toNat) := by
  unfold readWord
  refine ensures_op.mpr fun _ _ => ensures_op.mpr fun _ _ => ?_
  apply otpWaitStatus_passive.bind
  · rintro t err d1 ⟨rfl, calm, _, ⟨⟩, zero, negative⟩
    by_cases timeout : err < 0
    · rw [if_pos timeout]
      refine ⟨⟨_, _, rfl⟩, ?_, .inr ⟨?_, err, Int.ne_of_lt timeout, rfl⟩⟩
      · simp [calm, EntersUser]
      · simp [← zero, Int.ne_of_lt timeout]
    · rw [if_neg timeout]
      have clean : Clean t := by
        by_contra bad
        exact timeout (negative fun eq => bad (zero.mp eq))
      refine ensures_op.mpr fun (qp : UInt32) _ => ?_
      by_cases ecc : eccError qp = true
      · rw [if_pos ecc]
        refine ⟨⟨_, _, rfl⟩, ?_, .inr ⟨?_, _, by decide, rfl⟩⟩
        · simp [calm, EntersUser]
        · simp [Fault, ecc]
      · rw [if_neg ecc]
        refine ensures_op.mpr fun (q : UInt32) latched => ?_
        refine ⟨⟨_, _, rfl⟩, ?_, .inl ⟨?_, q, rfl, ?_⟩⟩
        · simp [calm, EntersUser]
        · simp [clean, Fault, ecc]
        · rw [← addr_of_write small]
          exact latched
  · exact fun _ e => e.elim

/-- Replacing nothing. -/
lemma put_nil {b : Bytes} {off : Nat} : put b off [] = b := by
  simp [put]

/-- Replacing two windows one after the other. -/
lemma put_put {b x y : Bytes} {off : Nat}
    (room : off + (x.length + y.length) ≤ b.length) :
    put (put b off x) (off + x.length) y = put b off (x ++ y) := by
  have start : (b.take off ++ x).length = off + x.length := by
    rw [List.length_append, List.length_take]
    omega
  have rest : (b.take off ++ x ++ b.drop (off + x.length)).drop (off + x.length + y.length) =
      b.drop (off + (x ++ y).length) := by
    rw [List.drop_append, List.drop_eq_nil_of_le (by omega), start, List.nil_append, List.drop_drop,
      List.length_append]
    congr 1
    omega
  rw [put, put, rest, List.take_left' start, put, ← List.append_assoc (b.take off)]

/-- The loop fills the buffer with the stream from the address on. -/
lemma readWords_accesses {n : Nat} {start : UInt32} {i : Nat} {buf : Bytes}
    (small : start.toNat + n < 65536)
    (room : i + 2 * n ≤ buf.length) :
    Ensures (Step words) (readWords n start i buf) d
      (Accesses d fun buf' => buf' = put buf i (stream words (2 * start.toNat) (2 * n))) := by
  induction n generalizing start i buf d with
  | zero =>
    refine ⟨⟨d.addr, d.latched, rfl⟩, calm_nil, .inl ⟨clean_nil, buf, rfl, ?_⟩⟩
    exact put_nil.symm
  | succ n ih =>
    unfold readWords
    apply (readWord_accesses (by omega)).bind
    · rintro t res d1 ⟨⟨a, w, rfl⟩, calm, ⟨clean, q, eq, word⟩ | ⟨bad, err, ne, eq⟩⟩
      · cases eq
        have next : (start + 1).toNat = start.toNat + 1 := by
          rw [UInt32.toNat_add]
          exact Nat.mod_eq_of_lt (by
            have : (1 : UInt32).toNat = 1 := rfl
            omega)
        have len : (toLe 2 q.toNat).length = 2 := length_toLe
        have more : (put buf i (toLe 2 q.toNat)).length = buf.length := length_put (by omega)
        apply (ih (by omega) (by omega)).mono
        rintro u r d' ⟨⟨a', w', rfl⟩, calm', res⟩
        refine ⟨⟨a', w', rfl⟩, calm_append.mpr ⟨calm, calm'⟩, ?_⟩
        rw [clean_append, and_iff_right clean]
        have whole : put (put buf i (toLe 2 q.toNat)) (i + 2)
            (stream words (2 * (start.toNat + 1)) (2 * n)) =
            put buf i (stream words (2 * start.toNat) (2 * (n + 1))) := by
          have pair := @put_put buf (toLe 2 q.toNat)
            (stream words (2 * (start.toNat + 1)) (2 * n)) i (by rw [len, length_stream]; omega)
          rw [len] at pair
          rw [pair, ← stream_word word, Nat.add_comm n 1, Nat.mul_add 2 1 n, stream_append]
          rfl
        rwa [next, whole] at res
      · cases eq
        exact ⟨⟨a, w, rfl⟩, by simpa using calm, .inr ⟨by simpa using bad, err, ne, rfl⟩⟩
    · exact fun _ e => e.elim

/-- The label `out` frees the buffer. -/
lemma out_ensures {err : Int} {Q}
    (h : Q [⟨.kfree, ()⟩] (.ok err) { d with buffers := d.buffers - 1 }) :
    Ensures (Step words) (out err) d Q :=
  ensures_op.mpr fun _ _ => h

/-- The label `disable_clks` disables the clocks and goes on. -/
lemma disableClks_ensures {err : Int} {Q}
    (h : Q [⟨.clkDisable, ()⟩, ⟨.kfree, ()⟩] (.ok err)
      { d with clocks := d.clocks - 1, buffers := d.buffers - 1 }) :
    Ensures (Step words) (disableClks err) d Q :=
  ensures_op.mpr fun _ _ => out_ensures h

/-- The label `read_end` leaves user mode and goes on. -/
lemma readEnd_ensures {err : Int} {Q}
    (h : Q [⟨.writel USE_USER_MASK .userCtrl, ()⟩, ⟨.clkDisable, ()⟩, ⟨.kfree, ()⟩] (.ok err)
      { d with user := false, clocks := d.clocks - 1, buffers := d.buffers - 1 }) :
    Ensures (Step words) (readEnd err) d Q :=
  ensures_op.mpr fun _ _ => disableClks_ensures h

/-- What a read inside the fuses does, apart from the mutex. -/
structure Body (d : Device) (data : Bytes) (t : List Call) (r : Except Empty Int) (d' : Device) :
    Prop where
  zero : ∃ err, r = .ok err ∧ (err = 0 ↔ Clean t) ∧
    (err = 0 → d'.val = put d.val 0 data) ∧ (err ≠ 0 → d'.val = d.val)
  clocks : d'.clocks = d.clocks
  left : (∃ c ∈ t, EntersUser c) → d'.user = false
  kept : Calm t → d'.user = d.user
  freed : d'.buffers = d.buffers

/-- A failure before user mode. -/
lemma Body.early {data t err}
    (calm : Calm t)
    (bad : ¬ Clean t)
    (ne : err ≠ 0) : Body d data t (.ok err) d where
  zero := ⟨err, rfl, iff_of_false ne bad, fun eq => absurd eq ne, fun _ => rfl⟩
  clocks := rfl
  left := fun ⟨c, mem, enters⟩ => absurd enters (calm c mem)
  kept _ := rfl
  freed := rfl

/-- An end after user mode. -/
lemma Body.late {data t err a w v}
    (entered : ¬ Calm t)
    (zero : err = 0 ↔ Clean t)
    (written : err = 0 → v = put d.val 0 data)
    (unmodified : err ≠ 0 → v = d.val) :
    Body d data t (.ok err) { d with addr := a, latched := w, user := false, val := v } where
  zero := ⟨err, rfl, zero, written, unmodified⟩
  clocks := rfl
  left _ := rfl
  kept calm := absurd calm entered
  freed := rfl

/-- The word window of a request inside the fuses. -/
lemma window {offset : UInt32} {bytes : UInt64}
    (inside : offset.toNat + bytes.toNat ≤ 128) :
    ((offset - offset % NBYTES) / NBYTES).toNat = offset.toNat / 2 ∧
    ((((offset.toUInt64 + bytes + 1) / 2 * 2) / 2).toUInt32 -
      (offset - offset % NBYTES) / NBYTES).toNat =
      (offset.toNat + bytes.toNat + 1) / 2 - offset.toNat / 2 ∧
    (offset % NBYTES).toNat = offset.toNat % 2 := by
  have two : NBYTES.toNat = 2 := rfl
  have odd : (offset % NBYTES).toNat = offset.toNat % 2 := by
    rw [UInt32.toNat_mod, two]
  have le : offset % NBYTES ≤ offset := by
    rw [UInt32.le_iff_toNat_le, odd]
    exact Nat.mod_le _ _
  have first : ((offset - offset % NBYTES) / NBYTES).toNat = offset.toNat / 2 := by
    rw [UInt32.toNat_div, UInt32.toNat_sub_of_le _ _ le, odd, two]
    omega
  have last : (((offset.toUInt64 + bytes + 1) / 2 * 2) / 2).toUInt32.toNat =
      (offset.toNat + bytes.toNat + 1) / 2 := by
    simp only [UInt64.toNat_toUInt32, UInt64.toNat_div, UInt64.toNat_mul, UInt64.toNat_add,
      UInt32.toNat_toUInt64, UInt64.toNat_ofNat, Nat.reduceMod, Nat.reducePow]
    omega
  refine ⟨first, ?_, odd⟩
  rw [UInt32.toNat_sub_of_le, first, last]
  rw [UInt32.le_iff_toNat_le, first, last]
  omega

/-- A read inside the fuses fills the caller's buffer or fails, and cleans up. -/
lemma rk3568OtpRead_body {offset : UInt32} {bytes : UInt64}
    (inside : offset.toNat + bytes.toNat ≤ 128) :
    Ensures (Step words) (rk3568OtpRead offset bytes) d
      (Body d (stream words offset.toNat bytes.toNat)) := by
  obtain ⟨first, count, odd⟩ := window inside
  have enters (a) : EntersUser ⟨.writel (USE_USER ||| USE_USER_MASK) .userCtrl, a⟩ := by
    show (USE_USER ||| USE_USER_MASK) &&& USE_USER ≠ 0
    decide
  unfold rk3568OtpRead
  dsimp only
  generalize (offset - offset % NBYTES) / NBYTES = start at first count ⊢
  generalize (((offset.toUInt64 + bytes + 1) / 2 * 2) / 2).toUInt32 - start = len at count ⊢
  have size : (len.toUInt64 * 2).toNat = 2 * len.toNat := by
    have two : (2 : UInt64).toNat = 2 := rfl
    rw [UInt64.toNat_mul, UInt32.toNat_toUInt64, two]
    omega
  refine ensures_op.mpr fun (got : Bool) _ => ?_
  cases got with
  | false => exact .early (by simp [EntersUser]) (by simp [Fault]) (by decide)
  | true =>
    refine ensures_op.mpr fun (err : Int) _ => ?_
    by_cases clk : err < 0
    · rw [if_pos clk]
      apply out_ensures
      simp only [Device.after, if_pos clk, if_true, Nat.add_sub_cancel]
      exact .early (by simp [EntersUser]) (by simp [Fault, clk]) (Int.ne_of_lt clk)
    · rw [if_neg clk]
      simp only [Device.after, if_neg clk, if_true]
      apply rockchipOtpReset_passive.bind
      · rintro t err' d1 ⟨rfl, calm, _, ⟨⟩, zero, _⟩
        by_cases reset : err' ≠ 0
        · rw [if_pos reset]
          apply disableClks_ensures
          have bad : ¬ Clean t := zero.not.mp reset
          exact .early (by simp [EntersUser, calm]) (by simp [bad]) reset
        · rw [if_neg reset]
          have clean : Clean t := zero.mp (not_not.mp reset)
          apply otpEccEnable_passive.bind
          · rintro t2 err2 d1 ⟨rfl, calm2, _, ⟨⟩, zero2, negative2⟩
            by_cases ecc : err2 < 0
            · rw [if_pos ecc]
              apply disableClks_ensures
              have bad : ¬ Clean t2 := zero2.not.mp (Int.ne_of_lt ecc)
              exact .early (by simp [EntersUser, calm, calm2]) (by simp [bad]) (Int.ne_of_lt ecc)
            · rw [if_neg ecc]
              have clean2 : Clean t2 := by
                by_contra bad
                exact ecc (negative2 (zero2.not.mpr bad))
              refine ensures_op.mpr fun _ _ => ensures_op.mpr fun _ _ => ?_
              have room : 0 + 2 * len.toNat ≤ (zeros (len.toUInt64 * 2).toNat).length := by
                rw [length_zeros, size]
                exact Nat.le_of_eq (Nat.zero_add _)
              apply (readWords_accesses (by omega) room).bind
              · rintro t3 res d1
                  ⟨⟨a, w, rfl⟩, calm3, ⟨clean3, buf, eq, filled⟩ | ⟨bad, err3, ne, eq⟩⟩
                · cases eq
                  refine ensures_op.mpr fun _ _ => readEnd_ensures ?_
                  have data : slice buf (offset % NBYTES).toNat bytes.toNat =
                      stream words offset.toNat bytes.toNat := by
                    rw [filled, put_zeros, size, length_stream, Nat.sub_self, zeros_zero,
                      List.append_nil, slice_stream (by omega), odd, first,
                      Nat.div_add_mod]
                  refine .late (by simp [enters]) (iff_of_true rfl ?_) (fun _ => ?_)
                    fun ne => absurd rfl ne
                  · simp [Fault, clk, clean, clean2, clean3]
                  · rw [← data]
                    rfl
                · cases eq
                  refine readEnd_ensures (.late (by simp [enters]) (iff_of_false ne ?_)
                    (fun eq => absurd eq ne) fun _ => rfl)
                  simp [bad]
              · exact fun _ e => e.elim
          · exact fun _ e => e.elim
      · exact fun _ e => e.elim

/-- The bounds test of `k11c_otp_read` wraps nowhere. -/
lemma bounds_iff {offset : UInt32} {bytes : UInt64} :
    ¬ (bytes = 0 ∨ offset ≥ OTP_SIZE ∨ bytes > (OTP_SIZE - offset).toUInt64) ↔
      0 < bytes.toNat ∧ offset.toNat + bytes.toNat ≤ 128 := by
  have size : OTP_SIZE.toNat = 128 := rfl
  have empty : bytes = 0 ↔ bytes.toNat = 0 := by
    rw [← UInt64.toNat_inj]
    rfl
  have past : offset ≥ OTP_SIZE ↔ 128 ≤ offset.toNat := by
    rw [ge_iff_le, UInt32.le_iff_toNat_le, size]
  by_cases beyond : 128 ≤ offset.toNat
  · refine iff_of_false (fun fine => fine (.inr (.inl (past.mpr beyond)))) ?_
    omega
  · have le : offset ≤ OTP_SIZE := by
      rw [UInt32.le_iff_toNat_le, size]
      omega
    have long : bytes > (OTP_SIZE - offset).toUInt64 ↔ 128 - offset.toNat < bytes.toNat := by
      rw [gt_iff_lt, UInt64.lt_iff_toNat_lt, UInt32.toNat_toUInt64, UInt32.toNat_sub_of_le _ _ le, size]
    rw [empty, past, long]
    omega

end Parts

/-- `k11c_otp_read`, for every content of the fuses, every request and every environment: it returns 0
    exactly for a nonempty request inside the fuses without a failure, then with the requested bytes;
    otherwise the caller's buffer is left alone, and what was enabled or entered is undone. -/
theorem k11cOtpRead_reads {words : Nat → UInt16} {offset : UInt32} {bytes : UInt64} {d d' : Device}
    {t : List Call} {ret : Int}
    (run : Runs (k11cOtpRead offset bytes) t (.ok ret))
    (path : Lts.Path (Step words) d t d') : Reads words offset bytes d t ret d' := by
  suffices spec : Ensures (Step words) (k11cOtpRead offset bytes) d fun t r d' =>
      ∀ ret, r = .ok ret → Reads words offset bytes d t ret d' from spec.run run path ret rfl
  unfold k11cOtpRead
  by_cases bad : bytes = 0 ∨ offset ≥ OTP_SIZE ∨ bytes > (OTP_SIZE - offset).toUInt64
  · rw [if_pos bad]
    rintro _ ⟨⟩
    have outside := bounds_iff.not.mp (not_not.mpr bad)
    exact
      { zero_iff := iff_of_false (by decide) fun fine => outside fine.1
        data := fun eq => absurd eq (by decide)
        unmodified := fun _ => rfl
        clocks := rfl
        left := nofun
        kept := fun _ => rfl
        freed := rfl
        unlocked := id }
  · rw [if_neg bad]
    have inside := bounds_iff.mp bad
    refine ensures_op.mpr fun _ _ => ?_
    apply (rk3568OtpRead_body inside.2).bind
    · rintro t _ d1 ⟨⟨err, ⟨⟩, zero, data, unmodified⟩, clocks, left, kept, freed⟩
      refine ensures_op.mpr fun _ _ => ?_
      rintro _ ⟨⟩
      refine
        { zero_iff := ?_
          data := data
          unmodified := unmodified
          clocks := clocks
          left := ?_
          kept := ?_
          freed := freed
          unlocked := fun _ => rfl }
      · rw [zero]
        simp [inside, Fault]
      · rintro ⟨c, mem, enters⟩
        obtain rfl | mem := List.mem_cons.mp mem
        · exact enters.elim
        · obtain mem | mem := List.mem_append.mp mem
          · exact left ⟨c, mem, enters⟩
          · obtain rfl := List.mem_singleton.mp mem
            exact enters.elim
      · intro none
        refine kept fun c mem enters => none ⟨c, ?_, enters⟩
        exact List.mem_cons_of_mem _ (List.mem_append_left _ mem)
    · exact fun _ e => e.elim

/-- The answers of a controller without a failure. -/
def healthy (words : Nat → UInt16) (d : Device) (o : Op) : Ans o × Device :=
  let a : Ans o :=
    match o with
    | .clkEnable => (0 : Int)
    | .assert => (0 : Int)
    | .deassert => (0 : Int)
    | .kzalloc _ => true
    | .poll _ => true
    | .readl .userQ => d.latched.toUInt32
    | .readl _ => (0 : UInt32)
    | .lock | .unlock | .kfree | .clkDisable | .udelay _ | .writel _ _ | .copyOut _ => ()
  (a, d.after words ⟨o, a⟩)

/-- Fuses whose stream counts up from 1. -/
def counting (a : Nat) : UInt16 := .ofNat (0x0201 + a * 0x0202)

/-- An idle controller with a buffer of four bytes. -/
def idle : Device := ⟨0, 0, false, 0, 0, false, [0xff, 0xff, 0xff, 0xff]⟩

/-- The answers of a healthy controller are those of a controller. -/
lemma healthy_step {words d c d'}
    (h : Answers (healthy words) d c d') : Step words d c d' := by
  obtain ⟨o, a⟩ := c
  have answer : (healthy words d o).1 = a := congrArg Prod.fst h
  subst answer
  refine ⟨?_, (congrArg Prod.snd h).symm⟩
  cases o with
  | readl reg =>
    cases reg with
    | userQ => exact Nat.mod_eq_of_lt d.latched.toNat_lt
    | _ => trivial
  | _ => trivial

/-- Three bytes from the odd offset 1. -/
theorem k11cOtpRead_reads_odd :
    ∃ t d', Reads counting 1 3 idle t 0 d' ∧ d'.val = [0x02, 0x03, 0x04, 0xff] := by
  have zero : ((k11cOtpRead 1 3).run (healthy counting) idle).1 = .ok 0 := by decide
  obtain ⟨t, run, path⟩ := @run_runs _ _ _ _ _ (healthy counting) (k11cOtpRead 1 3) idle
  rw [zero] at run
  refine ⟨t, _, k11cOtpRead_reads run (path.mono fun _ _ _ => healthy_step), ?_⟩
  decide +kernel

end K11CHaos.Npu.Otp
