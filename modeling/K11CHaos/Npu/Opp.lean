import Mathlib.Tactic.Common
import Mathlib.Data.List.Basic

/-!
# Vendor OPP policy

`k11c_vendor_opp.h` and the table half of `k11c_vendor_opp.c`: the OPP list of the NPU with its warm
and cold voltages (`adjust`, `coldTable`), the hysteresis of the temperature (`coldState`), the table
that `k11c_vendor_prepare` leaves (`prepare`) and the lookup of an OPP for a rate (`findFreqCeil`).
Rates and voltages are `unsigned long` values built from 32-bit device-tree cells, so no sum wraps.

The file proves what the rate code needs of a table: a lookup answers with an OPP of the table at or
above the rate (`findFreqCeil_mem`, `findFreqCeil_ge`), a table whose warm voltages do not decrease
has cold voltages that do not decrease (`Vendor.Prepared.cold_mono`), and on an ordered table an OPP found for a
lower rate asks for no more than one above it (`Vendor.Ordered.active_le`).
-/

namespace K11CHaos.Npu

/-- `struct k11c_voltage`: rate, target, minimum, maximum and cold target of an OPP. -/
structure Voltage where
  hz : Nat
  uv : Nat
  minUv : Nat
  maxUv : Nat
  coldUv : Nat
deriving DecidableEq, Repr

/-- `struct k11c_otp_adjust`. -/
structure OtpAdjust where
  minMhz : Nat
  maxMhz : Nat
  addMv : Nat
  mbistUv : Nat
deriving DecidableEq, Repr

/-- The body of the loop of `k11c_vendor_adjust`, before the running limits. -/
def adjustOpp (otp : OtpAdjust) (o : Voltage) : Voltage :=
  let o :=
    if otp.addMv ≠ 0 ∧ o.hz ≥ otp.minMhz * 1000000 ∧ o.hz ≤ otp.maxMhz * 1000000 then
      let uv := o.uv + otp.addMv * 1000
      { o with uv := if uv > o.maxUv then o.maxUv else uv }
    else
      o
  if o.uv < otp.mbistUv then { o with uv := otp.mbistUv, minUv := otp.mbistUv } else o

/-- The loop of `k11c_vendor_adjust`, from the running `last_safe`, `safe` and `reached_max`. -/
def adjustFrom (otp : OtpAdjust) (maxUv : Nat) :
    Nat → Nat → Bool → List Voltage → List Voltage × Nat
  | _, safe, _, [] => ([], safe)
  | lastSafe, safe, reachedMax, o :: opps =>
    let o := adjustOpp otp o
    let fits := decide (o.uv ≤ maxUv)
    let lastSafe := if fits && !reachedMax then o.hz else lastSafe
    let reachedMax := reachedMax || (fits && o.uv == maxUv)
    let o :=
      if fits then { o with maxUv := min o.maxUv maxUv }
      else { o with uv := maxUv, minUv := maxUv, maxUv := maxUv }
    let safe := if lastSafe ≠ o.hz then lastSafe else safe
    let (rest, safe) := adjustFrom otp maxUv lastSafe safe reachedMax opps
    (o :: rest, safe)

/-- `k11c_vendor_adjust`: the adjusted list and the highest safe rate, 0 for no limit. -/
def adjust (opps : List Voltage) (otp : OtpAdjust) (maxUv : Nat) : List Voltage × Nat :=
  adjustFrom otp maxUv 0 0 false opps

/-- The cold target of an OPP. -/
def coldTarget (maxUv deltaUv : Nat) (o : Voltage) : Nat :=
  if o.uv + deltaUv ≤ maxUv then o.uv + deltaUv else maxUv

/-- The loop of `k11c_vendor_cold_table`, from the running `last_safe`, `limit` and `reached_max`. -/
def coldTableFrom (maxUv deltaUv : Nat) :
    Nat → Nat → Bool → List Voltage → List Voltage × Nat
  | _, limit, _, [] => ([], limit)
  | lastSafe, limit, reachedMax, o :: opps =>
    let fits := decide (o.uv + deltaUv ≤ maxUv)
    let o := { o with coldUv := coldTarget maxUv deltaUv o }
    let lastSafe := if fits && !reachedMax then o.hz else lastSafe
    let reachedMax := reachedMax || (fits && o.coldUv == maxUv)
    let limit := if lastSafe ≠ 0 ∧ lastSafe ≠ o.hz then lastSafe else limit
    let (rest, limit) := coldTableFrom maxUv deltaUv lastSafe limit reachedMax opps
    (o :: rest, limit)

/-- `k11c_vendor_cold_table`: the list with its cold targets and the cold rate limit, 0 for none. -/
def coldTable (opps : List Voltage) (maxUv deltaUv : Nat) : List Voltage × Nat :=
  coldTableFrom maxUv deltaUv 0 0 false opps

/-- `k11c_vendor_cold_state`. -/
def coldState (previous : Bool) (temp low hysteresis : Int) : Bool :=
  if temp < low then true
  else if temp > low + hysteresis then false
  else previous

/-- What `struct k11c_vendor_state` holds of the policy once `k11c_vendor_prepare` is over. -/
structure Vendor where
  opps : List Voltage
  coldLimit : Nat
  low : Int
  hysteresis : Int
deriving DecidableEq, Repr

/-- The tables of `k11c_vendor_prepare`: the OPPs above the safe rate are disabled, the others get
    their cold target. -/
def prepare (opps : List Voltage) (otp : OtpAdjust) (maxUv coldDelta : Nat)
    (low hysteresis : Int) : Vendor :=
  let (opps, safe) := adjust opps otp maxUv
  let kept := opps.filter fun o => !(safe != 0 && decide (o.hz > safe))
  let (opps, limit) := coldTable kept maxUv coldDelta
  ⟨opps, limit, low, hysteresis⟩

/-- `dev_pm_opp_find_freq_ceil` on the enabled OPPs, which the OPP core keeps by rising rate. -/
def Vendor.findFreqCeil (v : Vendor) (hz : Nat) : Option Voltage :=
  v.opps.find? fun o => decide (hz ≤ o.hz)

/-- The target voltage of an OPP in the table that `set_table_voltage` installs. -/
def Voltage.active (cold : Bool) (o : Voltage) : Nat :=
  if cold then o.coldUv else o.uv

/-- The limit of the cold table on a requested rate. -/
def Vendor.limited (v : Vendor) (cold : Bool) (hz : Nat) : Nat :=
  if cold && v.coldLimit != 0 && decide (hz > v.coldLimit) then v.coldLimit else hz

/-- A lookup answers with an OPP of the table. -/
lemma findFreqCeil_mem {v : Vendor} {hz o} (h : v.findFreqCeil hz = some o) : o ∈ v.opps :=
  List.mem_of_find?_eq_some h

/-- A lookup answers with an OPP at or above the rate. -/
lemma findFreqCeil_ge {v : Vendor} {hz o} (h : v.findFreqCeil hz = some o) : hz ≤ o.hz := by
  have := List.find?_some h
  simpa using this

/-- A lookup at or below the rate of an OPP of the table answers. -/
lemma findFreqCeil_exists {v : Vendor} {hz o} (mem : o ∈ v.opps) (le : hz ≤ o.hz) :
    ∃ p, v.findFreqCeil hz = some p := by
  have found : (v.findFreqCeil hz).isSome := by
    rw [Vendor.findFreqCeil, List.find?_isSome]
    exact ⟨o, mem, by simpa using le⟩
  exact Option.isSome_iff_exists.mp found

/-- The cold target grows with the warm one. -/
lemma coldTarget_mono {m d : Nat} {o p : Voltage} (le : o.uv ≤ p.uv) :
    coldTarget m d o ≤ coldTarget m d p := by
  unfold coldTarget
  split <;> split <;> omega

/-- The cold table keeps every OPP and sets its cold target. -/
lemma coldTableFrom_opps {m d : Nat} {opps : List Voltage} {a b c} :
    (coldTableFrom m d a b c opps).1 =
      opps.map fun o => { o with coldUv := coldTarget m d o } := by
  induction opps generalizing a b c with
  | nil => rfl
  | cons o opps ih =>
    simp only [coldTableFrom, List.map_cons]
    rw [ih]

/-- The tables come out of `k11c_vendor_prepare`. -/
def Vendor.Prepared (v : Vendor) : Prop :=
  ∃ opps otp maxUv coldDelta low hysteresis, v = prepare opps otp maxUv coldDelta low hysteresis

/-- In a prepared table the cold targets rise with the warm ones. -/
lemma Vendor.Prepared.cold_mono {v : Vendor} {o p : Voltage}
    (prep : v.Prepared)
    (ho : o ∈ v.opps)
    (hp : p ∈ v.opps)
    (le : o.uv ≤ p.uv) : o.coldUv ≤ p.coldUv := by
  obtain ⟨opps, otp, m, d, low, hyst, rfl⟩ := prep
  simp only [prepare, coldTable, coldTableFrom_opps, List.mem_map] at ho hp
  obtain ⟨o', _, rfl⟩ := ho
  obtain ⟨p', _, rfl⟩ := hp
  exact coldTarget_mono le

/-- A table whose rates rise, whose warm targets do not fall and whose maxima do not rise with the
    rate, and whose lowest rate is not below the suspend rate of 200 MHz. -/
structure Vendor.Ordered (v : Vendor) : Prop where
  asc : v.opps.Pairwise fun o p => o.hz < p.hz
  uv : v.opps.Pairwise fun o p => o.uv ≤ p.uv
  max : v.opps.Pairwise fun o p => p.maxUv ≤ o.maxUv
  idle : ∀ o ∈ v.opps, 200000000 ≤ o.hz

/-- What a lookup finds lies at or before every OPP of the table that is above the rate. -/
lemma findFreqCeil_rel {v : Vendor} {R : Voltage → Voltage → Prop} {hz o p}
    (refl : ∀ o, R o o)
    (rel : v.opps.Pairwise R)
    (found : v.findFreqCeil hz = some o)
    (mem : p ∈ v.opps)
    (le : hz ≤ p.hz) : R o p := by
  obtain ⟨_, before, after, eq, none⟩ := List.find?_eq_some_iff_append.mp found
  rw [eq] at mem rel
  rcases List.mem_append.mp mem with h | h
  · have := none p h
    simp [le] at this
  · rcases List.mem_cons.mp h with rfl | h
    · exact refl p
    · exact (List.pairwise_cons.mp (List.pairwise_append.mp rel).2.1).1 p h

/-- On an ordered table an OPP found for a rate asks, warm and cold, for no more than any OPP at or
    above that rate. -/
lemma Vendor.Ordered.active_le {v : Vendor} {cold hz o p}
    (ord : v.Ordered)
    (prep : v.Prepared)
    (found : v.findFreqCeil hz = some o)
    (mem : p ∈ v.opps)
    (le : hz ≤ p.hz) : o.active cold ≤ p.active cold := by
  have warm : o.uv ≤ p.uv :=
    findFreqCeil_rel (R := fun o p => o.uv ≤ p.uv) (fun _ => Nat.le_refl _) ord.uv found mem le
  cases cold with
  | false => exact warm
  | true => exact prep.cold_mono (findFreqCeil_mem found) mem warm

/-- On an ordered table an OPP found for a rate allows at least the maximum of any OPP at or above
    that rate. -/
lemma Vendor.Ordered.max_le {v : Vendor} {hz o p}
    (ord : v.Ordered)
    (found : v.findFreqCeil hz = some o)
    (mem : p ∈ v.opps)
    (le : hz ≤ p.hz) : p.maxUv ≤ o.maxUv :=
  findFreqCeil_rel (R := fun o p => p.maxUv ≤ o.maxUv) (fun _ => Nat.le_refl _) ord.max found mem le

end K11CHaos.Npu
