import K11CHaos.Npu.Opp

/-!
# Which tables `k11c_vendor_prepare` leaves sound

The loops of `k11c_vendor_adjust` and `k11c_vendor_cold_table` rewrite each OPP on its own and keep,
beside that, one running rate: the last one that fitted under `max_uv` before the limit was first met
exactly (`scan`). The file relates the tables that `prepare` leaves to that rate. An enabled OPP is
sound if its window is ordered and its target is what it needs, an OPP of the cold state if its cold
target is the raised one and within its own maximum (`Sound`).

`Keeps` lists the shapes of an OPP list in which every rate at or below the running rate fits, and
`prepare_sound_iff` says that the tables are sound exactly for these shapes, where no OPP needs more
than its own maximum.
-/

namespace K11CHaos.Npu

/-- The error returns of `k11c_vendor_prepare` while it reads the OPPs. -/
inductive Errno where
  | inval
  | nodata
deriving DecidableEq, Repr

/-- The reading loop of `k11c_vendor_prepare`, from the OPPs that it has stored, over the OPPs that
    the OPP core enumerates. -/
def readOppsFrom : List Voltage → List Voltage → Except Errno (List Voltage)
  | stored, [] => .ok stored
  | stored, o :: table =>
    if stored.length = 12 ∨ o.uv = 0 ∨ o.uv < o.minUv ∨ o.uv > o.maxUv then
      .error .inval
    else
      readOppsFrom (stored ++ [{ o with coldUv := 0 }]) table

/-- The OPP list that `k11c_vendor_prepare` accepts. -/
def readOpps (table : List Voltage) : Except Errno (List Voltage) :=
  match readOppsFrom [] table with
  | .ok [] => .error .nodata
  | r => r

/-- The OTP margin applies to the rate of an OPP. -/
def Raised (otp : OtpAdjust) (o : Voltage) : Prop :=
  otp.addMv ≠ 0 ∧ o.hz ≥ otp.minMhz * 1000000 ∧ o.hz ≤ otp.maxMhz * 1000000

instance (otp : OtpAdjust) (o : Voltage) : Decidable (Raised otp o) :=
  inferInstanceAs (Decidable (_ ∧ _ ∧ _))

/-- The voltage an OPP needs before any clamp: its target with the OTP margin, and no less than the
    MBIST floor. -/
def needed (otp : OtpAdjust) (o : Voltage) : Nat :=
  max (if Raised otp o then o.uv + otp.addMv * 1000 else o.uv) otp.mbistUv

/-- The voltage an OPP needs where the OTP margin stops at the maximum of the OPP. -/
def raisedWithin (otp : OtpAdjust) (o : Voltage) : Nat :=
  max (if Raised otp o then min (o.uv + otp.addMv * 1000) o.maxUv else o.uv) otp.mbistUv

/-- An OPP under the limit of the regulator, as `k11c_vendor_adjust` leaves it. -/
def clampTo (maxUv : Nat) (o : Voltage) : Voltage :=
  if o.uv ≤ maxUv then { o with maxUv := min o.maxUv maxUv }
  else { o with uv := maxUv, minUv := maxUv, maxUv := maxUv }

/-- The rate that is left of a loop over the OPPs: `last` fitted last, `lim` is the limit so far and
    `reached` says that an OPP met `maxUv` exactly. -/
def scan (maxUv : Nat) (load : Voltage → Nat) : Nat → Nat → Bool → List Voltage → Nat
  | _, lim, _, [] => lim
  | last, lim, reached, o :: os =>
    let fits := decide (load o ≤ maxUv)
    let last := if fits && !reached then o.hz else last
    scan maxUv load last (if last ≠ o.hz then last else lim) (reached || (fits && load o == maxUv)) os

/-- The rate is not cut by a limit, of which 0 is none. -/
def Below (lim : Nat) (o : Voltage) : Prop :=
  lim = 0 ∨ o.hz ≤ lim

instance (lim : Nat) (o : Voltage) : Decidable (Below lim o) :=
  inferInstanceAs (Decidable (_ ∨ _))

/-- The OPPs fit under the limit, and only the last one may meet it. -/
def Fitting (maxUv : Nat) (load : Voltage → Nat) (os : List Voltage) : Prop :=
  (∀ o ∈ os, load o ≤ maxUv) ∧ ∀ o ∈ os.dropLast, load o < maxUv

/-- The OPP lists in which all that the running rate keeps fits under the limit, with what it keeps:
    the whole of a fitting list (`all`), or of one whose rate 0 already meets the limit (`zero`), the
    list up to the first OPP that meets the limit (`full`), and the list up to a jump over the limit
    after which a fitting list may follow (`high`). -/
inductive Keeps (maxUv : Nat) (load : Voltage → Nat) : List Voltage → List Voltage → Prop where
  | all {os} :
    Fitting maxUv load os →
    Keeps maxUv load os os
  | zero {o os} :
    o.hz = 0 →
    load o = maxUv →
    (∀ p ∈ os, load p ≤ maxUv) →
    Keeps maxUv load (o :: os) (o :: os)
  | full {low o os} :
    (∀ p ∈ low, load p < maxUv) →
    load o = maxUv →
    o.hz ≠ 0 →
    os ≠ [] →
    Keeps maxUv load (low ++ o :: os) (low ++ [o])
  | high {low o highs os} :
    (∀ p ∈ low, load p < maxUv) →
    load o < maxUv →
    o.hz ≠ 0 →
    highs ≠ [] →
    (∀ p ∈ highs, maxUv < load p) →
    Fitting maxUv load os →
    Keeps maxUv load (low ++ o :: (highs ++ os)) (low ++ [o])

/-- What is asked of a prepared table, with what each OPP of the accepted list needs. -/
structure Sound (need : Voltage → Nat) (opps : List Voltage) (maxUv delta : Nat) (v : Vendor) :
    Prop where
  /-- An enabled OPP has an ordered window under the limit. -/
  window : ∀ p ∈ v.opps, p.minUv ≤ p.uv ∧ p.uv ≤ p.maxUv ∧ p.maxUv ≤ maxUv
  /-- The window stays under the maximum that the device tree gives the OPP. -/
  own : ∀ o ∈ opps, ∀ p ∈ v.opps, p.hz = o.hz → p.maxUv ≤ o.maxUv
  /-- An enabled OPP is no lower than what it needs. -/
  enough : ∀ o ∈ opps, ∀ p ∈ v.opps, p.hz = o.hz → need o ≤ p.uv
  /-- The cold target of a rate of the cold state is the raised one and within the window. -/
  cold : ∀ p ∈ v.opps, Below v.coldLimit p →
    p.coldUv = p.uv + delta ∧ p.uv ≤ p.coldUv ∧ p.coldUv ≤ p.maxUv

/-- The condition of a sound table: the running rate over what the OPPs need keeps a list that fits
    under the limit and under the maxima of its OPPs, and the running rate over the raised voltages
    keeps of that list one that does so too. -/
def Roomy (need : Voltage → Nat) (otp : OtpAdjust) (maxUv delta : Nat) (opps : List Voltage) : Prop :=
  ∃ enabled cold,
    Keeps maxUv (raisedWithin otp) opps enabled ∧ (∀ o ∈ enabled, need o ≤ o.maxUv) ∧
    Keeps maxUv (fun o => raisedWithin otp o + delta) enabled cold ∧
    ∀ o ∈ cold, raisedWithin otp o + delta ≤ o.maxUv

section Scan

variable {maxUv : Nat} {load : Voltage → Nat}

/-- An OPP under the limit moves the running rate to itself. -/
lemma scan_low {last lim o os}
    (lt : load o < maxUv) :
    scan maxUv load last lim false (o :: os) = scan maxUv load o.hz lim false os := by
  have ne : (load o == maxUv) = false := beq_eq_false_iff_ne.mpr (Nat.ne_of_lt lt)
  simp [scan, Nat.le_of_lt lt, ne]

/-- An OPP at the limit is the last one to move the running rate. -/
lemma scan_full {last lim o os}
    (eq : load o = maxUv) :
    scan maxUv load last lim false (o :: os) = scan maxUv load o.hz lim true os := by
  simp [scan, eq]

/-- An OPP over the limit makes the running rate the limit. -/
lemma scan_high {last lim o os}
    (gt : maxUv < load o)
    (ne : last ≠ o.hz) :
    scan maxUv load last lim false (o :: os) = scan maxUv load last last false os := by
  simp [scan, Nat.not_le.mpr gt, ne]

/-- The OPPs under the limit that a list begins with leave the limit as it is. -/
lemma scan_lows {last lim low os}
    (lt : ∀ o ∈ low, load o < maxUv) :
    ∃ last', scan maxUv load last lim false (low ++ os) = scan maxUv load last' lim false os := by
  induction low generalizing last with
  | nil => exact ⟨last, rfl⟩
  | cons o low ih =>
    rw [List.cons_append, scan_low (lt o List.mem_cons_self)]
    exact ih fun p mem => lt p (List.mem_cons_of_mem _ mem)

/-- Once the limit has been met the running rate stays. -/
lemma scan_reached {last lim os}
    (ne : ∀ o ∈ os, last ≠ o.hz)
    (some : os ≠ []) :
    scan maxUv load last lim true os = last := by
  induction os generalizing lim with
  | nil => exact absurd rfl some
  | cons o os ih =>
    have head := ne o List.mem_cons_self
    cases os with
    | nil => simp [scan, head]
    | cons p os =>
      have rest := @ih last (fun q mem => ne q (List.mem_cons_of_mem _ mem)) nofun
      simpa [scan, head] using rest

/-- The running rate goes over the OPPs above the limit that a list begins with. -/
lemma scan_highs {last lim highs os}
    (gt : ∀ o ∈ highs, maxUv < load o)
    (ne : ∀ o ∈ highs, last ≠ o.hz)
    (some : highs ≠ []) :
    scan maxUv load last lim false (highs ++ os) = scan maxUv load last last false os := by
  induction highs generalizing lim with
  | nil => exact absurd rfl some
  | cons o highs ih =>
    rw [List.cons_append, scan_high (gt o List.mem_cons_self) (ne o List.mem_cons_self)]
    cases highs with
    | nil => rfl
    | cons p highs =>
      exact ih (fun q mem => gt q (List.mem_cons_of_mem _ mem))
        (fun q mem => ne q (List.mem_cons_of_mem _ mem)) nofun

/-- The rest of a fitting list is fitting. -/
lemma Fitting.tail {o os} (fit : Fitting maxUv load (o :: os)) : Fitting maxUv load os := by
  refine ⟨fun p mem => fit.1 p (List.mem_cons_of_mem _ mem), fun p mem => fit.2 p ?_⟩
  cases os with
  | nil => cases mem
  | cons q os =>
    rw [List.dropLast_cons_of_ne_nil (List.cons_ne_nil q os)]
    exact List.mem_cons_of_mem _ mem

/-- A fitting list leaves the limit as it is. -/
lemma scan_fitting {last lim os}
    (fit : Fitting maxUv load os) :
    scan maxUv load last lim false os = lim := by
  induction os generalizing last with
  | nil => rfl
  | cons o os ih =>
    cases os with
    | nil =>
      have le := fit.1 o List.mem_cons_self
      simp [scan, le]
    | cons p os =>
      rw [scan_low (fit.2 o (by simp))]
      exact ih fit.tail

/-- The limit stays, or becomes the running rate or a rate of the list. -/
lemma scan_mem {last lim reached os} :
    scan maxUv load last lim reached os = lim ∨ scan maxUv load last lim reached os = last ∨
      ∃ o ∈ os, scan maxUv load last lim reached os = o.hz := by
  induction os generalizing last lim reached with
  | nil => exact .inl rfl
  | cons o os ih =>
    -- an answer of the rest is one of the whole, where the new rate and limit come from the old ones
    have moved (last' lim' reached')
        (from_last : last' = last ∨ last' = o.hz)
        (from_lim : lim' = lim ∨ lim' = last') :
        scan maxUv load last' lim' reached' os = lim ∨
          scan maxUv load last' lim' reached' os = last ∨
          ∃ p ∈ o :: os, scan maxUv load last' lim' reached' os = p.hz := by
      have of_last (eq : scan maxUv load last' lim' reached' os = last') :
          scan maxUv load last' lim' reached' os = last ∨
            ∃ p ∈ o :: os, scan maxUv load last' lim' reached' os = p.hz := by
        obtain old | new := from_last
        · exact .inl (eq.trans old)
        · exact .inr ⟨o, List.mem_cons_self, eq.trans new⟩
      obtain eq | eq | ⟨p, mem, eq⟩ := @ih last' lim' reached'
      · obtain old | new := from_lim
        · exact .inl (eq.trans old)
        · exact .inr (of_last (eq.trans new))
      · exact .inr (of_last eq)
      · exact .inr (.inr ⟨p, List.mem_cons_of_mem _ mem, eq⟩)
    simp only [scan]
    split_ifs with fits ne
    · exact moved _ _ _ (.inr rfl) (.inr rfl)
    · exact moved _ _ _ (.inr rfl) (.inl rfl)
    · exact moved _ _ _ (.inl rfl) (.inr rfl)
    · exact moved _ _ _ (.inl rfl) (.inl rfl)

/-- An OPP that fits goes before a fitting list if it is under the limit or alone. -/
lemma Fitting.cons {o os}
    (fit : Fitting maxUv load os)
    (lt : load o < maxUv) : Fitting maxUv load (o :: os) := by
  refine ⟨List.forall_mem_cons.mpr ⟨Nat.le_of_lt lt, fit.1⟩, ?_⟩
  cases os with
  | nil => exact nofun
  | cons p os =>
    rw [List.dropLast_cons_of_ne_nil (List.cons_ne_nil p os)]
    exact List.forall_mem_cons.mpr ⟨lt, fit.2⟩

/-- An OPP that fits is a fitting list. -/
lemma Fitting.one {o} (le : load o ≤ maxUv) : Fitting maxUv load [o] :=
  ⟨by simpa using le, nofun⟩

/-- A limit outside the list comes back from an OPP that fits only if the list is fitting. -/
lemma Fitting.of_scan {last c o os}
    (asc : (o :: os).Pairwise fun o p => o.hz < p.hz)
    (out : ∀ p ∈ o :: os, c ≠ p.hz)
    (le : load o ≤ maxUv)
    (eq : scan maxUv load last c false (o :: os) = c) : Fitting maxUv load (o :: os) := by
  induction os generalizing last o with
  | nil => exact .one le
  | cons q os ih =>
    obtain ⟨above, asc'⟩ := List.pairwise_cons.mp asc
    have out' (p) (mem : p ∈ q :: os) : c ≠ p.hz := out p (List.mem_cons_of_mem _ mem)
    have ne : o.hz ≠ q.hz := Nat.ne_of_lt (above q List.mem_cons_self)
    obtain lt | full := Nat.lt_or_eq_of_le le
    · rw [scan_low lt] at eq
      by_cases fits : load q ≤ maxUv
      · exact (ih asc' out' fits eq).cons lt
      · -- the jump makes the rate of `o` the limit, and no later limit is `c`
        rw [scan_high (Nat.not_le.mp fits) ne] at eq
        obtain old | old | ⟨p, mem, old⟩ := @scan_mem maxUv load o.hz o.hz false os
        · exact absurd (eq.symm.trans old) (out o List.mem_cons_self)
        · exact absurd (eq.symm.trans old) (out o List.mem_cons_self)
        · exact absurd (eq.symm.trans old) (out' p (List.mem_cons_of_mem _ mem))
    · rw [scan_full full, scan_reached (fun p mem => Nat.ne_of_lt (above p mem)) nofun] at eq
      exact absurd eq.symm (out o List.mem_cons_self)

/-- After a jump over the limit the rate before it comes back only if the OPPs over the limit are
    followed by a fitting list. -/
lemma highs_of_scan {c os}
    (asc : os.Pairwise fun o p => o.hz < p.hz)
    (out : ∀ p ∈ os, c ≠ p.hz)
    (eq : scan maxUv load c c false os = c) :
    ∃ highs rest, os = highs ++ rest ∧ (∀ p ∈ highs, maxUv < load p) ∧ Fitting maxUv load rest := by
  induction os with
  | nil => exact ⟨[], [], rfl, nofun, nofun, nofun⟩
  | cons o os ih =>
    by_cases fits : load o ≤ maxUv
    · exact ⟨[], o :: os, rfl, nofun, .of_scan asc out fits eq⟩
    · rw [scan_high (Nat.not_le.mp fits) (out o List.mem_cons_self)] at eq
      obtain ⟨highs, rest, rfl, gt, fit⟩ := ih (List.pairwise_cons.mp asc).2
        (fun p mem => out p (List.mem_cons_of_mem _ mem)) eq
      exact ⟨o :: highs, rest, rfl, List.forall_mem_cons.mpr ⟨Nat.not_le.mp fits, gt⟩, fit⟩

/-- What a rate of the list keeps of it. -/
lemma filter_below {low os : List Voltage} {o}
    (asc : (low ++ o :: os).Pairwise fun o p => o.hz < p.hz)
    (pos : o.hz ≠ 0) :
    (low ++ o :: os).filter (fun p => decide (Below o.hz p)) = low ++ [o] := by
  obtain ⟨_, asc', under⟩ := List.pairwise_append.mp asc
  have above := (List.pairwise_cons.mp asc').1
  have kept : low.filter (fun p => decide (Below o.hz p)) = low := by
    rw [List.filter_eq_self]
    intro p mem
    exact decide_eq_true (.inr (Nat.le_of_lt (under p mem o List.mem_cons_self)))
  have gone : os.filter (fun p => decide (Below o.hz p)) = [] := by
    rw [List.filter_eq_nil_iff]
    intro p mem below
    obtain zero | le := of_decide_eq_true below
    · exact pos zero
    · exact Nat.not_le.mpr (above p mem) le
  have self : decide (Below o.hz o) = true := decide_eq_true (.inr (Nat.le_refl _))
  rw [List.filter_append, kept, List.filter_cons, if_pos self, gone]

/-- Without a limit the whole list is kept. -/
lemma filter_unlimited {os : List Voltage} : os.filter (fun p => decide (Below 0 p)) = os := by
  rw [List.filter_eq_self]
  intro p _
  exact decide_eq_true (.inl rfl)

/-- What `Keeps` names is what the running rate keeps. -/
lemma Keeps.filter {os kept}
    (keeps : Keeps maxUv load os kept)
    (asc : os.Pairwise fun o p => o.hz < p.hz) :
    os.filter (fun o => decide (Below (scan maxUv load 0 0 false os) o)) = kept := by
  cases keeps with
  | all fit => rw [scan_fitting fit, filter_unlimited]
  | @zero o os hz eq rest =>
    have unlimited : scan maxUv load 0 0 false (o :: os) = 0 := by
      rw [scan_full eq, hz]
      cases os with
      | nil => rfl
      | cons p os =>
        have above := (List.pairwise_cons.mp asc).1
        exact scan_reached (fun q mem => hz ▸ Nat.ne_of_lt (above q mem)) nofun
    rw [unlimited, filter_unlimited]
  | @full low o os under eq pos some =>
    have above := (List.pairwise_cons.mp (List.pairwise_append.mp asc).2.1).1
    obtain ⟨last, past⟩ := @scan_lows _ _ 0 0 _ (o :: os) under
    rw [past, scan_full eq, scan_reached (fun p mem => Nat.ne_of_lt (above p mem)) some,
      filter_below asc pos]
  | @high low o highs os under lt pos some beyond fit =>
    have above := (List.pairwise_cons.mp (List.pairwise_append.mp asc).2.1).1
    obtain ⟨last, past⟩ := @scan_lows _ _ 0 0 _ (o :: (highs ++ os)) under
    have ne (p) (mem : p ∈ highs) : o.hz ≠ p.hz :=
      Nat.ne_of_lt (above p (List.mem_append_left _ mem))
    rw [past, scan_low lt, scan_highs beyond ne some, scan_fitting fit, filter_below asc pos]

/-- All that `Keeps` names fits under the limit. -/
lemma Keeps.fits {os kept}
    (keeps : Keeps maxUv load os kept) : ∀ o ∈ kept, load o ≤ maxUv := by
  cases keeps with
  | all fit => exact fit.1
  | zero _ eq rest => exact List.forall_mem_cons.mpr ⟨Nat.le_of_eq eq, rest⟩
  | full under eq =>
    rw [List.forall_mem_append]
    exact ⟨fun p mem => Nat.le_of_lt (under p mem), by simpa using Nat.le_of_eq eq⟩
  | high under lt =>
    rw [List.forall_mem_append]
    exact ⟨fun p mem => Nat.le_of_lt (under p mem), by simpa using Nat.le_of_lt lt⟩

/-- A list in which all that the running rate keeps fits has one of the shapes of `Keeps`. -/
lemma Keeps.of_fits {os}
    (asc : os.Pairwise fun o p => o.hz < p.hz)
    (fits : ∀ o ∈ os, Below (scan maxUv load 0 0 false os) o → load o ≤ maxUv) :
    ∃ kept, Keeps maxUv load os kept := by
  cases first : os.find? fun o => decide (maxUv ≤ load o) with
  | none =>
    have lt (o) (mem : o ∈ os) : load o < maxUv := by
      have := List.find?_eq_none.mp first o mem
      simpa using this
    exact ⟨os, .all ⟨fun o mem => Nat.le_of_lt (lt o mem),
      fun o mem => lt o (List.dropLast_subset os mem)⟩⟩
  | some o =>
    obtain ⟨ge, low, post, rfl, before⟩ := List.find?_eq_some_iff_append.mp first
    have under (p) (mem : p ∈ low) : load p < maxUv := by
      have := before p mem
      simpa using this
    obtain ⟨_, asc', below⟩ := List.pairwise_append.mp asc
    obtain ⟨above, asc''⟩ := List.pairwise_cons.mp asc'
    have mem_o : o ∈ low ++ o :: post := by simp
    obtain lt | eq := Nat.lt_or_eq_of_le (of_decide_eq_true ge)
    · -- the first OPP that does not fit is cut off, by the rate of the OPP before it
      have cut (c) (past : scan maxUv load 0 0 false (low ++ o :: post) =
          scan maxUv load c 0 false (o :: post)) (ne : c ≠ o.hz) :
          c ≠ 0 ∧ scan maxUv load c c false post = c := by
        rw [scan_high lt ne] at past
        have out : ¬ Below (scan maxUv load c c false post) o := fun below =>
          Nat.not_le.mpr lt (fits o mem_o (past ▸ below))
        obtain stay | stay | ⟨p, mem, up⟩ := @scan_mem maxUv load c c false post
        · exact ⟨fun zero => out (.inl (stay.trans zero)), stay⟩
        · exact ⟨fun zero => out (.inl (stay.trans zero)), stay⟩
        · exact absurd (.inr (up ▸ Nat.le_of_lt (above p mem))) out
      obtain rfl | ⟨low, l, rfl⟩ := List.eq_nil_or_concat' low
      · have ne : 0 ≠ o.hz := fun zero => Nat.not_le.mpr lt (fits o mem_o (.inr (zero ▸ Nat.zero_le _)))
        exact absurd rfl (cut 0 rfl ne).1
      · have l_o : l.hz < o.hz := below l (by simp) o List.mem_cons_self
        have past : scan maxUv load 0 0 false (low ++ [l] ++ o :: post) =
            scan maxUv load l.hz 0 false (o :: post) := by
          obtain ⟨last, past⟩ := @scan_lows _ _ 0 0 _ (l :: o :: post)
            fun p mem => under p (List.mem_append_left _ mem)
          rw [List.append_assoc, List.singleton_append, past, scan_low (under l (by simp))]
        obtain ⟨pos, back⟩ := cut l.hz past (Nat.ne_of_lt l_o)
        obtain ⟨highs, rest, rfl, beyond, fit⟩ := highs_of_scan asc''
          (fun p mem => Nat.ne_of_lt (Nat.lt_trans l_o (above p mem))) back
        refine ⟨low ++ [l], ?_⟩
        rw [List.append_assoc, List.singleton_append, ← List.cons_append]
        exact .high (fun p mem => under p (List.mem_append_left _ mem)) (under l (by simp)) pos
          nofun (List.forall_mem_cons.mpr ⟨lt, beyond⟩) fit
    · by_cases none : post = []
      · subst none
        refine ⟨_, .all ⟨?_, ?_⟩⟩
        · rw [List.forall_mem_append]
          exact ⟨fun p mem => Nat.le_of_lt (under p mem), by simp [eq]⟩
        · rw [List.dropLast_concat]
          exact under
      · by_cases zero : o.hz = 0
        · -- the rate 0 is the lowest one, and as a running rate it cuts nothing off
          obtain rfl : low = [] := List.eq_nil_iff_forall_not_mem.mpr fun p mem =>
            Nat.not_lt_zero _ (zero ▸ below p mem o List.mem_cons_self)
          have unlimited : scan maxUv load 0 0 false (o :: post) = 0 := by
            rw [scan_full eq.symm, zero]
            exact scan_reached (fun q mem => zero ▸ Nat.ne_of_lt (above q mem)) none
          exact ⟨_, .zero zero eq.symm fun p mem =>
            fits p (List.mem_cons_of_mem _ mem) (.inl unlimited)⟩
        · exact ⟨_, .full under eq.symm zero none⟩

/-- All that the running rate keeps fits exactly for the shapes of `Keeps`. -/
lemma fits_iff {os}
    (asc : os.Pairwise fun o p => o.hz < p.hz) :
    (∀ o ∈ os, Below (scan maxUv load 0 0 false os) o → load o ≤ maxUv) ↔
      ∃ kept, Keeps maxUv load os kept := by
  refine ⟨Keeps.of_fits asc, ?_⟩
  rintro ⟨kept, keeps⟩ o mem below
  apply keeps.fits
  rw [← keeps.filter asc]
  exact List.mem_filter.mpr ⟨mem, decide_eq_true below⟩

end Scan

/-- An accepted list is the enumerated one, and its OPPs have ordered windows. -/
lemma readOppsFrom_ok {stored table opps}
    (h : readOppsFrom stored table = .ok opps) :
    opps = stored ++ table.map (fun o => { o with coldUv := 0 }) ∧
      ∀ o ∈ table, o.minUv ≤ o.uv ∧ o.uv ≤ o.maxUv := by
  induction table generalizing stored with
  | nil =>
    cases h
    exact ⟨by simp, nofun⟩
  | cons o table ih =>
    rw [readOppsFrom] at h
    split_ifs at h with bad
    obtain ⟨rfl, range⟩ := ih h
    refine ⟨by simp, List.forall_mem_cons.mpr ⟨?_, range⟩⟩
    obtain ⟨_, bad⟩ := not_or.mp bad
    obtain ⟨_, bad⟩ := not_or.mp bad
    obtain ⟨min, max⟩ := not_or.mp bad
    exact ⟨Nat.not_lt.mp min, Nat.not_lt.mp max⟩

/-- An accepted list rises with the enumerated one, and its OPPs have ordered windows. -/
lemma readOpps_ok {table opps}
    (asc : table.Pairwise fun o p => o.hz < p.hz)
    (h : readOpps table = .ok opps) :
    (opps.Pairwise fun o p => o.hz < p.hz) ∧ ∀ o ∈ opps, o.minUv ≤ o.uv ∧ o.uv ≤ o.maxUv := by
  have read : readOppsFrom [] table = .ok opps := by
    unfold readOpps at h
    split at h
    · cases h
    · exact h
  obtain ⟨rfl, range⟩ := readOppsFrom_ok read
  rw [List.nil_append]
  refine ⟨List.pairwise_map.mpr asc, ?_⟩
  rw [List.forall_mem_map]
  exact range

/-- The adjustment keeps the rate of an OPP. -/
@[simp]
lemma adjustOpp_hz {otp o} : (adjustOpp otp o).hz = o.hz := by
  unfold adjustOpp
  dsimp only
  split_ifs <;> rfl

/-- The adjustment keeps the maximum of an OPP. -/
@[simp]
lemma adjustOpp_maxUv {otp o} : (adjustOpp otp o).maxUv = o.maxUv := by
  unfold adjustOpp
  dsimp only
  split_ifs <;> rfl

/-- A minimum under the target stays under it. -/
lemma adjustOpp_window {otp o}
    (le : o.minUv ≤ o.uv)
    (max : o.uv ≤ o.maxUv) :
    (adjustOpp otp o).minUv ≤ (adjustOpp otp o).uv := by
  unfold adjustOpp
  dsimp only
  split_ifs with raised beyond floor floor floor
  · exact Nat.le_refl _
  · exact Nat.le_trans le max
  · exact Nat.le_refl _
  · exact Nat.le_trans le (Nat.le_add_right _ _)
  · exact Nat.le_refl _
  · exact le

/-- The adjusted target is the raised one within the maximum, or the floor. -/
@[simp]
lemma adjustOpp_uv {otp o} : (adjustOpp otp o).uv = raisedWithin otp o := by
  have floor (p : Voltage) :
      (if p.uv < otp.mbistUv then { p with uv := otp.mbistUv, minUv := otp.mbistUv } else p).uv =
        max p.uv otp.mbistUv := by
    split_ifs with lt
    · exact (Nat.max_eq_right (Nat.le_of_lt lt)).symm
    · exact (Nat.max_eq_left (Nat.not_lt.mp lt)).symm
  unfold adjustOpp
  dsimp only
  rw [floor, raisedWithin]
  by_cases raised : Raised otp o
  · rw [if_pos raised, if_pos (show _ ∧ _ ∧ _ from raised)]
    congr 1
    dsimp only
    split_ifs with beyond
    · exact (Nat.min_eq_right (Nat.le_of_lt beyond)).symm
    · exact (Nat.min_eq_left (Nat.not_lt.mp beyond)).symm
  · rw [if_neg raised, if_neg (show ¬ (_ ∧ _ ∧ _) from raised)]

/-- The clamp keeps the rate of an OPP. -/
@[simp]
lemma clampTo_hz {maxUv o} : (clampTo maxUv o).hz = o.hz := by
  unfold clampTo
  split_ifs <;> rfl

/-- The loop of `k11c_vendor_adjust` rewrites each OPP on its own beside the running rate. -/
lemma adjustFrom_eq {otp maxUv last lim reached os} :
    adjustFrom otp maxUv last lim reached os =
      (os.map fun o => clampTo maxUv (adjustOpp otp o),
        scan maxUv (raisedWithin otp) last lim reached os) := by
  induction os generalizing last lim reached with
  | nil => rfl
  | cons o os ih =>
    simp only [adjustFrom, ih, scan, List.map_cons]
    by_cases fits : raisedWithin otp o ≤ maxUv <;> simp [clampTo, fits]

/-- The limit of the cold table is the running rate over the raised voltages. A running rate of 0
    makes no difference, since no limit has been set then. -/
lemma coldTableFrom_limit {maxUv delta last lim reached} {os : List Voltage}
    (asc : os.Pairwise fun o p => o.hz < p.hz)
    (le : ∀ o ∈ os, last ≤ o.hz)
    (zero : last = 0 → lim = 0) :
    (coldTableFrom maxUv delta last lim reached os).2 =
      scan maxUv (fun o => o.uv + delta) last lim reached os := by
  induction os generalizing last lim reached with
  | nil => rfl
  | cons o os ih =>
    obtain ⟨above, asc⟩ := List.pairwise_cons.mp asc
    have head := le o List.mem_cons_self
    simp only [coldTableFrom, scan]
    have target (fits : o.uv + delta ≤ maxUv) : coldTarget maxUv delta o = o.uv + delta := if_pos fits
    have reach :
        (reached || (decide (o.uv + delta ≤ maxUv) && coldTarget maxUv delta o == maxUv)) =
          (reached || (decide (o.uv + delta ≤ maxUv) && o.uv + delta == maxUv)) := by
      by_cases fits : o.uv + delta ≤ maxUv
      · rw [target fits]
      · simp [fits]
    rw [reach]
    by_cases moves : (decide (o.uv + delta ≤ maxUv) && !reached) = true
    · rw [if_pos moves, if_neg (by simp), if_neg (by simp)]
      exact ih asc (fun p mem => Nat.le_of_lt (above p mem)) fun hz => zero (by omega)
    · rw [if_neg moves]
      have keeps : ∀ p ∈ os, last ≤ p.hz := fun p mem =>
        Nat.le_trans head (Nat.le_of_lt (above p mem))
      by_cases same : last = o.hz
      · rw [if_neg (by simp [same]), if_neg (by simp [same])]
        exact ih asc keeps zero
      · by_cases none : last = 0
        · rw [if_neg (by simp [none]), if_pos same, none, zero none]
          exact ih asc (fun p mem => Nat.zero_le _) fun _ => rfl
        · rw [if_pos ⟨none, same⟩, if_pos same]
          exact ih asc keeps fun h => absurd h none

/-- A running rate depends on the rates and loads of the list only. -/
lemma scan_map {maxUv last lim reached load load'} {f : Voltage → Voltage} {os}
    (hz : ∀ o ∈ os, (f o).hz = o.hz)
    (eq : ∀ o ∈ os, load (f o) = load' o) :
    scan maxUv load last lim reached (os.map f) = scan maxUv load' last lim reached os := by
  induction os generalizing last lim reached with
  | nil => rfl
  | cons o os ih =>
    simp only [List.map_cons, scan]
    rw [hz o List.mem_cons_self, eq o List.mem_cons_self,
      ih (fun p mem => hz p (List.mem_cons_of_mem _ mem))
        (fun p mem => eq p (List.mem_cons_of_mem _ mem))]

/-- An OPP as `k11c_vendor_prepare` leaves it if it stays enabled. -/
def settled (otp : OtpAdjust) (maxUv delta : Nat) (o : Voltage) : Voltage :=
  let o := clampTo maxUv (adjustOpp otp o)
  { o with coldUv := coldTarget maxUv delta o }

/-- `k11c_vendor_prepare` enables the OPPs that the safe rate does not cut. -/
lemma keeps_below {safe : Nat} {o : Voltage} :
    (!(safe != 0 && decide (o.hz > safe))) = decide (Below safe o) := by
  unfold Below
  by_cases none : safe = 0
  · simp [none]
  · by_cases le : o.hz ≤ safe <;> simp [none, le, Nat.not_le.mp]

/-- The OPPs that stay enabled under the safe rate of the list. -/
def enabled (otp : OtpAdjust) (maxUv : Nat) (opps : List Voltage) : List Voltage :=
  opps.filter fun o => decide (Below (scan maxUv (raisedWithin otp) 0 0 false opps) o)

/-- The tables of `k11c_vendor_prepare` are the cold table of the enabled OPPs. -/
lemma prepare_eq {opps otp maxUv delta low hysteresis} :
    prepare opps otp maxUv delta low hysteresis =
      let kept := (enabled otp maxUv opps).map fun o => clampTo maxUv (adjustOpp otp o)
      ⟨(coldTable kept maxUv delta).1, (coldTable kept maxUv delta).2, low, hysteresis⟩ := by
  have kept : ((opps.map fun o => clampTo maxUv (adjustOpp otp o)).filter fun o =>
      !(scan maxUv (raisedWithin otp) 0 0 false opps != 0 &&
        decide (o.hz > scan maxUv (raisedWithin otp) 0 0 false opps))) =
      (enabled otp maxUv opps).map fun o => clampTo maxUv (adjustOpp otp o) := by
    rw [List.filter_map, enabled]
    congr 1
    apply List.filter_congr
    intro o _
    rw [← keeps_below]
    simp
  simp only [prepare, adjust, adjustFrom_eq]
  rw [kept]

/-- The prepared table: the enabled OPPs, each settled on its own. -/
lemma prepare_opps {opps otp maxUv delta low hysteresis} :
    (prepare opps otp maxUv delta low hysteresis).opps =
      (enabled otp maxUv opps).map (settled otp maxUv delta) := by
  rw [prepare_eq]
  simp only [coldTable, coldTableFrom_opps, List.map_map]
  rfl

/-- The rate of a settled OPP. -/
@[simp]
lemma settled_hz {otp maxUv delta o} : (settled otp maxUv delta o).hz = o.hz := by
  simp [settled]

/-- An OPP that fits under the limit, settled. -/
lemma settled_fits {otp maxUv delta o}
    (fits : raisedWithin otp o ≤ maxUv) :
    settled otp maxUv delta o =
      { adjustOpp otp o with
        maxUv := min o.maxUv maxUv
        coldUv := min (raisedWithin otp o + delta) maxUv } := by
  have cold : coldTarget maxUv delta { adjustOpp otp o with maxUv := min o.maxUv maxUv } =
      min (raisedWithin otp o + delta) maxUv := by
    unfold coldTarget
    dsimp only
    rw [adjustOpp_uv]
    split_ifs with le
    · exact (Nat.min_eq_left le).symm
    · exact (Nat.min_eq_right (Nat.le_of_lt (Nat.not_le.mp le))).symm
  rw [settled, clampTo, if_pos (by simpa using fits), adjustOpp_maxUv]
  dsimp only
  rw [cold]

/-- An OPP over the limit is set to the limit. -/
lemma settled_over {otp maxUv delta o}
    (beyond : maxUv < raisedWithin otp o) : (settled otp maxUv delta o).uv = maxUv := by
  rw [settled, clampTo, if_neg (by simpa using beyond)]

section Prepared

variable {otp : OtpAdjust} {maxUv delta : Nat} {need : Voltage → Nat} {opps : List Voltage}

/-- What an OPP needs is the raised voltage, or more than its own maximum. -/
def Reading (otp : OtpAdjust) (need : Voltage → Nat) : Prop :=
  ∀ o, raisedWithin otp o ≤ need o ∧ (need o ≤ o.maxUv → need o = raisedWithin otp o)

/-- The raised voltage without the clamp at the maximum of the OPP. -/
lemma reading_needed : Reading otp (needed otp) := by
  intro o
  unfold needed raisedWithin
  by_cases raised : Raised otp o
  · rw [if_pos raised, if_pos raised]
    omega
  · rw [if_neg raised, if_neg raised]
    exact ⟨Nat.le_refl _, fun _ => rfl⟩

/-- The raised voltage with that clamp. -/
lemma reading_raisedWithin : Reading otp (raisedWithin otp) :=
  fun _ => ⟨Nat.le_refl _, fun _ => rfl⟩

/-- A settled OPP has an ordered window and what it needs exactly if that fits. -/
lemma settled_window_iff {o}
    (reading : Reading otp need)
    (range : o.minUv ≤ o.uv ∧ o.uv ≤ o.maxUv) :
    ((settled otp maxUv delta o).minUv ≤ (settled otp maxUv delta o).uv ∧
      (settled otp maxUv delta o).uv ≤ (settled otp maxUv delta o).maxUv ∧
      (settled otp maxUv delta o).maxUv ≤ maxUv ∧
      (settled otp maxUv delta o).maxUv ≤ o.maxUv ∧
      need o ≤ (settled otp maxUv delta o).uv) ↔
    raisedWithin otp o ≤ maxUv ∧ need o ≤ o.maxUv := by
  obtain ⟨le, same⟩ := reading o
  by_cases fits : raisedWithin otp o ≤ maxUv
  · have window := @adjustOpp_window otp _ range.1 range.2
    rw [settled_fits fits]
    simp only [adjustOpp_uv] at window ⊢
    constructor
    · rintro ⟨_, high, _, _, enough⟩
      exact ⟨fits, Nat.le_trans enough (Nat.le_trans high (Nat.min_le_left _ _))⟩
    · rintro ⟨_, room⟩
      have eq := same room
      refine ⟨window, Nat.le_min.mpr ⟨eq ▸ room, fits⟩, Nat.min_le_right _ _, Nat.min_le_left _ _, ?_⟩
      exact Nat.le_of_eq eq
  · refine iff_of_false ?_ fun h => fits h.1
    rintro ⟨_, _, _, _, enough⟩
    rw [settled_over (Nat.not_le.mp fits)] at enough
    exact fits (Nat.le_trans le enough)

/-- A settled OPP that fits has a sound cold target exactly if the raised voltage fits too. -/
lemma settled_cold_iff {o}
    (fits : raisedWithin otp o ≤ maxUv) :
    ((settled otp maxUv delta o).coldUv = (settled otp maxUv delta o).uv + delta ∧
      (settled otp maxUv delta o).uv ≤ (settled otp maxUv delta o).coldUv ∧
      (settled otp maxUv delta o).coldUv ≤ (settled otp maxUv delta o).maxUv) ↔
    raisedWithin otp o + delta ≤ maxUv ∧ raisedWithin otp o + delta ≤ o.maxUv := by
  rw [settled_fits fits]
  simp only [adjustOpp_uv]
  omega

/-- The cold limit of the prepared table, where all that stays enabled fits. -/
lemma prepare_coldLimit {low hysteresis}
    (asc : opps.Pairwise fun o p => o.hz < p.hz)
    (fits : ∀ o ∈ enabled otp maxUv opps, raisedWithin otp o ≤ maxUv) :
    (prepare opps otp maxUv delta low hysteresis).coldLimit =
      scan maxUv (fun o => raisedWithin otp o + delta) 0 0 false (enabled otp maxUv opps) := by
  rw [prepare_eq]
  dsimp only [coldTable]
  rw [coldTableFrom_limit]
  · apply scan_map
    · simp
    · intro o mem
      rw [clampTo, if_pos (by simpa using fits o mem), adjustOpp_uv]
  · refine List.pairwise_map.mpr ((asc.filter _).imp ?_)
    intro o p lt
    simpa using lt
  · exact fun _ _ => Nat.zero_le _
  · exact fun _ => rfl

/-- In a rising list an OPP is known by its rate. -/
lemma eq_of_hz
    (asc : opps.Pairwise fun o p => o.hz < p.hz)
    {o p}
    (ho : o ∈ opps)
    (hp : p ∈ opps)
    (eq : o.hz = p.hz) : o = p := by
  obtain ⟨i, hi, rfl⟩ := List.mem_iff_getElem.mp ho
  obtain ⟨j, hj, rfl⟩ := List.mem_iff_getElem.mp hp
  have rising := List.pairwise_iff_getElem.mp asc
  obtain lt | rfl | gt := Nat.lt_trichotomy i j
  · exact absurd eq (Nat.ne_of_lt (rising i j hi hj lt))
  · rfl
  · exact absurd eq.symm (Nat.ne_of_lt (rising j i hj hi gt))

/-- The tables are sound exactly if the enabled OPPs have room for what they need, and those of the
    cold state for the raised voltage. -/
lemma sound_iff_room {low hysteresis}
    (asc : opps.Pairwise fun o p => o.hz < p.hz)
    (range : ∀ o ∈ opps, o.minUv ≤ o.uv ∧ o.uv ≤ o.maxUv)
    (reading : Reading otp need) :
    Sound need opps maxUv delta (prepare opps otp maxUv delta low hysteresis) ↔
      (∀ o ∈ enabled otp maxUv opps, raisedWithin otp o ≤ maxUv ∧ need o ≤ o.maxUv) ∧
      ∀ o ∈ enabled otp maxUv opps,
        Below (scan maxUv (fun o => raisedWithin otp o + delta) 0 0 false
          (enabled otp maxUv opps)) o →
        raisedWithin otp o + delta ≤ maxUv ∧ raisedWithin otp o + delta ≤ o.maxUv := by
  have listed (o) (mem : o ∈ enabled otp maxUv opps) : o ∈ opps := (List.mem_filter.mp mem).1
  constructor
  · intro sound
    have room (o) (mem : o ∈ enabled otp maxUv opps) :
        raisedWithin otp o ≤ maxUv ∧ need o ≤ o.maxUv := by
      have there : settled otp maxUv delta o ∈
          (prepare opps otp maxUv delta low hysteresis).opps := by
        rw [prepare_opps]
        exact List.mem_map_of_mem mem
      obtain ⟨w1, w2, w3⟩ := sound.window _ there
      exact (settled_window_iff reading (range o (listed o mem))).mp ⟨w1, w2, w3,
        sound.own o (listed o mem) _ there settled_hz,
        sound.enough o (listed o mem) _ there settled_hz⟩
    refine ⟨room, fun o mem below => ?_⟩
    rw [← @prepare_coldLimit _ _ _ _ low hysteresis asc fun o mem => (room o mem).1] at below
    apply (settled_cold_iff (room o mem).1).mp
    apply sound.cold
    · rw [prepare_opps]
      exact List.mem_map_of_mem mem
    · unfold Below at below ⊢
      rwa [settled_hz]
  · rintro ⟨room, raised⟩
    have window (o) (mem : o ∈ enabled otp maxUv opps) :=
      (@settled_window_iff _ _ delta _ _ reading (range o (listed o mem))).mpr (room o mem)
    have limit := @prepare_coldLimit _ _ delta _ low hysteresis asc
      fun o mem => (room o mem).1
    have same {o p} (ho : o ∈ opps) (hp : p ∈ enabled otp maxUv opps)
        (hz : (settled otp maxUv delta p).hz = o.hz) : p = o :=
      eq_of_hz asc (listed p hp) ho (settled_hz.symm.trans hz)
    constructor <;> rw [prepare_opps]
    · rw [List.forall_mem_map]
      intro o mem
      obtain ⟨low, high, limit, _, _⟩ := window o mem
      exact ⟨low, high, limit⟩
    · intro o ho
      rw [List.forall_mem_map]
      intro p mem hz
      obtain rfl := same ho mem hz
      exact (window p mem).2.2.2.1
    · intro o ho
      rw [List.forall_mem_map]
      intro p mem hz
      obtain rfl := same ho mem hz
      exact (window p mem).2.2.2.2
    · rw [List.forall_mem_map]
      intro o mem below
      apply (settled_cold_iff (room o mem).1).mpr
      apply raised o mem
      rw [← limit]
      unfold Below at below ⊢
      rwa [settled_hz] at below

end Prepared

/-- For a list that `k11c_vendor_prepare` accepts, whether an OPP needs the raised voltage or that
    voltage within its own maximum, the tables are sound exactly if the list is roomy. -/
theorem prepare_sound_iff {table opps : List Voltage} {otp : OtpAdjust} {maxUv delta : Nat}
    {low hysteresis : Int} {need : Voltage → Nat}
    (asc : table.Pairwise fun o p => o.hz < p.hz)
    (accepted : readOpps table = .ok opps)
    (reading : need = needed otp ∨ need = raisedWithin otp) :
    Sound need opps maxUv delta (prepare opps otp maxUv delta low hysteresis) ↔
      Roomy need otp maxUv delta opps := by
  obtain ⟨asc, range⟩ := readOpps_ok asc accepted
  have reading : Reading otp need := by
    obtain rfl | rfl := reading
    · exact reading_needed
    · exact reading_raisedWithin
  rw [sound_iff_room asc range reading]
  constructor
  · rintro ⟨room, raised⟩
    obtain ⟨kept, keeps⟩ := (fits_iff asc).mp fun o mem below =>
      (room o (List.mem_filter.mpr ⟨mem, decide_eq_true below⟩)).1
    obtain rfl : enabled otp maxUv opps = kept := keeps.filter asc
    have asc' : (enabled otp maxUv opps).Pairwise fun o p => o.hz < p.hz := asc.filter _
    obtain ⟨cold, keeps'⟩ := (fits_iff asc').mp fun o mem below => (raised o mem below).1
    refine ⟨_, cold, keeps, fun o mem => (room o mem).2, keeps', fun o mem => ?_⟩
    rw [← keeps'.filter asc'] at mem
    obtain ⟨mem, below⟩ := List.mem_filter.mp mem
    exact (raised o mem (of_decide_eq_true below)).2
  · rintro ⟨kept, cold, keeps, room, keeps', raised⟩
    obtain rfl : enabled otp maxUv opps = kept := keeps.filter asc
    have asc' : (enabled otp maxUv opps).Pairwise fun o p => o.hz < p.hz := asc.filter _
    refine ⟨fun o mem => ⟨keeps.fits o mem, room o mem⟩, fun o mem below => ?_⟩
    have in_cold : o ∈ cold := by
      rw [← keeps'.filter asc']
      exact List.mem_filter.mpr ⟨mem, decide_eq_true below⟩
    exact ⟨keeps'.fits o in_cold, raised o in_cold⟩

/-- Two OPPs of the board. -/
def boardPair : List Voltage :=
  [⟨200000000, 850000, 850000, 1000000, 0⟩, ⟨900000000, 900000, 900000, 1000000, 0⟩]

/-- Under a margin of 50 mV the tables of the two OPPs are sound. -/
theorem prepare_sound_board :
    Sound (needed ⟨0, 1000, 50, 0⟩) boardPair 1000000 50000
      (prepare boardPair ⟨0, 1000, 50, 0⟩ 1000000 50000 0 5000) := by
  refine (@prepare_sound_iff boardPair _ _ _ _ _ _ _ (by decide) rfl (.inl rfl)).mpr
    ⟨_, _, .all ⟨?_, ?_⟩, ?_, .all ⟨?_, ?_⟩, ?_⟩
  all_goals decide

/-- An OPP of 200 MHz that needs 1.05 V under a limit of 1 V stays enabled at 1 V: the limit 0 of a
    list without a safe rate cuts nothing off. -/
theorem prepare_keeps_undervolted :
    ¬ ∀ table opps otp maxUv delta low hysteresis,
      (table.Pairwise fun o p : Voltage => o.hz < p.hz) →
      readOpps table = .ok opps →
      Sound (needed otp) opps maxUv delta (prepare opps otp maxUv delta low hysteresis) := by
  intro claim
  have sound := claim [⟨200000000, 900000, 900000, 1200000, 0⟩] _ ⟨0, 1000, 150, 0⟩ 1000000 50000 0
    5000 (by decide) rfl
  have enough := sound.enough ⟨200000000, 900000, 900000, 1200000, 0⟩ List.mem_cons_self
    ⟨200000000, 1000000, 1000000, 1000000, 1000000⟩ (by decide +kernel) rfl
  exact absurd enough (by decide)

end K11CHaos.Npu
