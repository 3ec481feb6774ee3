import K11CHaos.Scripts.RepairGpt

/-!
# The console edit of the boot fix

`set_console` and `restore_console` of `boot-fix-lib.sh`. Both first make the candidate text from the
saved command line: `awk` counts the tokens, and `sed` replaces one on every line. An installation then
replaces the file only if it holds exactly the text that the other operation left (`Replaces`).

`awk` and `sed` do not split a text at the same bytes: the fields of `awk` end at blanks, which POSIX
takes for spaces and tabs, and a token of `sed` at any byte of `[[:space:]]`. `reversible_iff` says what
is left of the edit for every text: it is one replacement that can be undone exactly if a single line
has a token for `sed`. An `awk` that splits at `[[:space:]]` accepts no others (`isSpace_single`).
-/

namespace K11CHaos.Scripts.BootFix

open Prog

section Tokens

/-- A token may begin after the text. -/
def Opens (pre : Bytes) : Prop := ∀ c ∈ pre.getLast?, isSpace c = true

/-- A token may end before the text. -/
def Closes (post : Bytes) : Prop := ∀ c ∈ post.head?, isSpace c = true

/-- Nothing opens a token. -/
lemma Opens.nil : Opens [] := nofun

/-- Nothing closes a token. -/
lemma Closes.nil : Closes [] := nofun

/-- A longer front still opens. -/
lemma Opens.append {p q : Bytes} (hp : Opens p) (hq : Opens q) : Opens (p ++ q) := by
  intro c mem
  rw [List.getLast?_append, Option.mem_def, Option.or_eq_some_iff] at mem
  obtain mem | ⟨_, mem⟩ := mem
  · exact hq c mem
  · exact hp c mem

/-- A longer end still closes. -/
lemma Closes.append {p q : Bytes} (hp : Closes p) (hq : Closes q) : Closes (p ++ q) := by
  intro c mem
  rw [List.head?_append, Option.mem_def, Option.or_eq_some_iff] at mem
  obtain mem | ⟨_, mem⟩ := mem
  · exact hp c mem
  · exact hq c mem

/-- One token of a text is another one in the second, and nothing else differs. -/
def OneToken (old new o c : Bytes) : Prop :=
  ∃ pre post, o = pre ++ old ++ post ∧ c = pre ++ new ++ post ∧ Opens pre ∧ Closes post

variable {old new : Bytes}

/-- A token at the front. -/
lemma tokenEnd_eq_some {line rest : Bytes} :
    tokenEnd old line = some rest ↔ line = old ++ rest ∧ Closes rest := by
  unfold tokenEnd
  constructor
  · intro h
    split_ifs at h with front
    obtain ⟨tail, rfl⟩ := List.isPrefixOf_iff_prefix.mp front
    rw [List.drop_left] at h
    cases tail with
    | nil =>
      cases h
      exact ⟨rfl, .nil⟩
    | cons c tail =>
      dsimp only at h
      split_ifs at h with space
      cases h
      exact ⟨rfl, by simp [Closes, space]⟩
  · rintro ⟨rfl, closes⟩
    rw [if_pos (List.isPrefixOf_iff_prefix.mpr ⟨rest, rfl⟩), List.drop_left]
    cases rest with
    | nil => rfl
    | cons c rest => exact if_pos (closes c rfl)

/-- The substitution past the start of a line that has a token there. -/
lemma sedFrom_token {line : Bytes} (h : hasTokenFrom old line = true) :
    ∃ pre post, pre ≠ [] ∧ line = pre ++ old ++ post ∧
      sedFrom old new line = pre ++ new ++ post ∧ Opens pre ∧ Closes post := by
  induction line with
  | nil => cases h
  | cons c line ih =>
    have step (later : hasTokenFrom old line = true)
        (same : sedFrom old new (c :: line) = c :: sedFrom old new line) :
        ∃ pre post, pre ≠ [] ∧ c :: line = pre ++ old ++ post ∧
          sedFrom old new (c :: line) = pre ++ new ++ post ∧ Opens pre ∧ Closes post := by
      obtain ⟨pre, post, ne, eq, sed, opens, closes⟩ := ih later
      refine ⟨c :: pre, post, nofun, congrArg (c :: ·) eq, ?_, ?_, closes⟩
      · rw [same, sed]
        rfl
      · intro d mem
        rw [List.getLast?_cons_of_ne_nil ne] at mem
        exact opens d mem
    cases space : isSpace c with
    | false =>
      refine step ?_ (by rw [sedFrom, space]; rfl)
      simpa [hasTokenFrom, space] using h
    | true =>
      cases found : tokenEnd old line with
      | none =>
        refine step ?_ (by rw [sedFrom, space, found]; rfl)
        simpa [hasTokenFrom, space, found] using h
      | some rest =>
        obtain ⟨rfl, closes⟩ := tokenEnd_eq_some.mp found
        refine ⟨[c], rest, nofun, rfl, ?_, by simp [Opens, space], closes⟩
        rw [sedFrom, space, found]
        rfl

/-- Without a token the line is as it was. -/
lemma sedFrom_none {line : Bytes} (h : hasTokenFrom old line = false) :
    sedFrom old new line = line := by
  induction line with
  | nil => rfl
  | cons c line ih =>
    rw [hasTokenFrom, Bool.or_eq_false_iff] at h
    cases space : isSpace c with
    | false => rw [sedFrom, space, ih h.2]; rfl
    | true =>
      have none : tokenEnd old line = none := by simpa [space] using h.1
      rw [sedFrom, space, none, ih h.2]
      rfl

/-- The substitution on a line that has a token replaces one. -/
lemma sedLine_token {line : Bytes} (h : hasToken old line = true) :
    OneToken old new line (sedLine old new line) := by
  unfold sedLine
  cases found : tokenEnd old line with
  | none =>
    rw [hasToken, found, Option.isSome_none, Bool.false_or] at h
    obtain ⟨pre, post, _, eq, sed, opens, closes⟩ := @sedFrom_token _ new _ h
    exact ⟨pre, post, eq, sed, opens, closes⟩
  | some rest =>
    obtain ⟨rfl, closes⟩ := tokenEnd_eq_some.mp found
    exact ⟨[], rest, rfl, rfl, .nil, closes⟩

/-- A line without the token stays as it is. -/
lemma sedLine_none {line : Bytes} (h : hasToken old line = false) :
    sedLine old new line = line := by
  rw [hasToken, Bool.or_eq_false_iff] at h
  have none : tokenEnd old line = none := by simpa using h.1
  unfold sedLine
  rw [none]
  exact sedFrom_none h.2

/-- What surrounds a line of a text. -/
lemma intercalate_around (x : UInt8) (ls1 ls2 : List Bytes) :
    ∃ p s, (∀ l, [x].intercalate (ls1 ++ l :: ls2) = p ++ l ++ s) ∧
      (∀ c ∈ p.getLast?, c = x) ∧ ∀ c ∈ s.head?, c = x := by
  induction ls1 with
  | nil =>
    cases ls2 with
    | nil =>
      refine ⟨[], [], fun l => ?_, nofun, nofun⟩
      rw [List.nil_append, List.intercalate_singleton, List.nil_append, List.append_nil]
    | cons l' ls2 =>
      refine ⟨[], x :: [x].intercalate (l' :: ls2), fun l => ?_, nofun, by simp⟩
      rw [List.nil_append, List.intercalate_cons_cons, List.append_assoc]
      rfl
  | cons a ls1 ih =>
    obtain ⟨p, s, eq, last, head⟩ := ih
    refine ⟨a ++ [x] ++ p, s, fun l => ?_, ?_, head⟩
    · have cons : ∃ b t, ls1 ++ l :: ls2 = b :: t := by cases ls1 <;> exact ⟨_, _, rfl⟩
      obtain ⟨b, t, cons⟩ := cons
      rw [List.cons_append, cons, List.intercalate_cons_cons, ← cons, eq]
      simp only [List.append_assoc]
    · intro c mem
      rw [List.getLast?_append, Option.mem_def, Option.or_eq_some_iff] at mem
      obtain mem | ⟨_, mem⟩ := mem
      · exact last c mem
      · simpa using mem.symm

/-- The lengths of the lines after the substitution. -/
lemma length_intercalate_map {s : Bytes} {f : Bytes → Bytes} {p : Bytes → Bool} {k : Nat}
    {ls : List Bytes}
    (grows : ∀ l, (f l).length = l.length + if p l then k else 0) :
    (s.intercalate (ls.map f)).length = (s.intercalate ls).length + k * ls.countP p := by
  induction ls with
  | nil => rfl
  | cons a ls ih =>
    have front : (a :: ls).countP p = ls.countP p + if p a then 1 else 0 := List.countP_cons
    cases ls with
    | nil =>
      rw [List.map_singleton, List.intercalate_singleton, List.intercalate_singleton, grows, front]
      cases p a <;> simp
    | cons b ls =>
      rw [List.map_cons] at ih
      rw [List.map_cons, List.map_cons, List.intercalate_cons_cons, List.intercalate_cons_cons, front]
      simp only [List.length_append, ih, grows, Nat.mul_add]
      cases p a with
      | false => simp only [Bool.false_eq_true, if_false]; omega
      | true => simp only [if_true]; omega

/-- The lines of a text make it up. -/
lemma intercalate_lines {o : Bytes} : [10].intercalate (lines o) = o :=
  List.intercalate_splitOn 10

/-- A text grows on every line with a token. -/
lemma length_sed {o : Bytes} {k : Nat} (longer : new.length = old.length + k) :
    (sed old new o).length = o.length + k * (lines o).countP (hasToken old) := by
  have grows (l : Bytes) :
      (sedLine old new l).length = l.length + if hasToken old l then k else 0 := by
    cases h : hasToken old l with
    | false => rw [sedLine_none h]; rfl
    | true =>
      obtain ⟨pre, post, eq, sed, _, _⟩ := @sedLine_token _ new _ h
      rw [sed, eq]
      simp only [List.length_append, longer, if_true]
      omega
  unfold sed
  rw [length_intercalate_map grows, intercalate_lines]

/-- A replacement in a line is one in the text. -/
lemma sed_oneToken {o : Bytes} (single : (lines o).countP (hasToken old) = 1) :
    OneToken old new o (sed old new o) := by
  have pos : 0 < (lines o).countP (hasToken old) := by omega
  obtain ⟨l, mem, token⟩ := List.countP_pos_iff.mp pos
  obtain ⟨ls1, ls2, split⟩ := List.append_of_mem mem
  -- No other line is changed.
  rw [split, List.countP_append, List.countP_cons_of_pos token] at single
  have same (ls : List Bytes) (zero : ls.countP (hasToken old) = 0) :
      ls.map (sedLine old new) = ls := by
    refine (List.map_congr_left fun x mem => ?_).trans (List.map_id ls)
    exact sedLine_none (Bool.eq_false_iff.mpr (List.countP_eq_zero.mp zero x mem))
  have mapped : (lines o).map (sedLine old new) = ls1 ++ sedLine old new l :: ls2 := by
    rw [split, List.map_append, List.map_cons, same ls1 (by omega), same ls2 (by omega)]
  obtain ⟨p, s, around, last, head⟩ := intercalate_around 10 ls1 ls2
  obtain ⟨pre, post, eq, replaced, opens, closes⟩ := @sedLine_token _ new _ token
  refine ⟨p ++ pre, post ++ s, ?_, ?_, ?_, ?_⟩
  · rw [← intercalate_lines (o := o), split, around, eq]
    simp only [List.append_assoc]
  · unfold sed
    rw [mapped, around, replaced]
    simp only [List.append_assoc]
  · have opens' : Opens p := fun c mem => by rw [last c mem]; rfl
    exact opens'.append opens
  · have closes' : Closes s := fun c mem => by rw [head c mem]; rfl
    exact closes.append closes'

/-- The substitution replaces a single token exactly if one line has one. -/
lemma sed_oneToken_iff {o : Bytes} {k : Nat}
    (longer : new.length = old.length + k)
    (pos : 0 < k) :
    OneToken old new o (sed old new o) ↔ (lines o).countP (hasToken old) = 1 := by
  constructor
  · rintro ⟨pre, post, eq, sed, _, _⟩
    have grown := length_sed (o := o) longer
    rw [sed, eq] at grown
    simp only [List.length_append, longer] at grown
    rw [← eq] at grown
    have once : k * 1 = k * (lines o).countP (hasToken old) := by omega
    exact (Nat.eq_of_mul_eq_mul_left pos once).symm
  · exact sed_oneToken

end Tokens

/-- `cmdline.before.txt`, the original command line. -/
def before : File := .backup "cmdline.before.txt"

/-- `cmdline.expected.txt`, the candidate. -/
def expected : File := .backup "cmdline.expected.txt"

/-- `make_console_candidate`. -/
def makeConsoleCandidate : Sh Unit := do
  check (.awk .console before) "Expected one console=ttyS0 token in original cmdline"
  cmd (.sedConsole before expected)
  check (.grep (.token "console=ttyS0,1500000n8") expected) "Console replacement failed"

/-- `install_cmdline`. -/
def installCmdline (src : File) : Sh Unit := do
  cmd .mktemp
  cmd (.cp src .temp)
  check (.cmp src .temp) "Temporary cmdline copy mismatch"
  cmd .sync
  cmd (.mv .temp .cmdline)
  cmd .sync
  check (.cmp src .cmdline) "Installed cmdline mismatch"

/-- `set_console`. -/
def setConsole (b : Board) : Sh Unit := do
  checkBackup b
  makeConsoleCandidate
  if ← test (.cmp .cmdline expected) then
    cmd (.echo "K11C_CONSOLE_STAGED already_set=1 reboot_required=1")
  else
    check (.cmp .cmdline before) "cmdline changed since backup; refusing overwrite"
    installCmdline expected
    cmd (.cat .cmdline)
    cmd (.echo "K11C_CONSOLE_STAGED baud=1500000 reboot_required=1 live_tty_unchanged=1")

/-- `restore_console`. -/
def restoreConsole (b : Board) : Sh Unit := do
  checkBackup b
  makeConsoleCandidate
  if ← test (.cmp .cmdline before) then
    cmd (.echo "K11C_CONSOLE_RESTORED already_original=1")
  else
    check (.cmp .cmdline expected) "cmdline has later edits; refusing overwrite"
    installCmdline before
    cmd (.echo "K11C_CONSOLE_RESTORED reboot_required=1")

/-- The text that `sed` makes of the original. -/
def candidate (o : Bytes) : Bytes := sed oldToken newToken o

/-- What an operation that turns one text into another may do to the command line: it ends well only if
    it finds one of the two and leaves the second, and it changes nothing but the first. -/
structure Replaces (old new : Bytes) (r : Except Exit Unit) (w w' : World) : Prop where
  done : r = .ok () →
    (w .cmdline = some old ∨ w .cmdline = some new) ∧ w' .cmdline = some new
  changed : w' .cmdline ≠ w .cmdline → w .cmdline = some old ∧ w' .cmdline = some new

/-- What happens to the command line. -/
inductive Act where
  | set (r : Except Exit Unit)
  | restore (r : Except Exit Unit)
  | rewrite (text : Option Bytes)

/-- A run of an operation that ends, or a change of the command line from outside. -/
def Move (blank : UInt8 → Bool) (b : Board) (w : World) (a : Act) (w' : World) : Prop :=
  match a with
  | .set r => ∃ t, Runs (setConsole b) t r ∧ Lts.Path (Step blank) w t w'
  | .restore r => ∃ t, Runs (restoreConsole b) t r ∧ Lts.Path (Step blank) w t w'
  | .rewrite text => w' = Function.update w .cmdline text

/-- The edit of an original text: the candidate has one token replaced, and in every history that
    begins with the saved original the operations only exchange the two texts. -/
structure Reversible (blank : UInt8 → Bool) (b : Board) (o : Bytes) : Prop where
  single : OneToken oldToken newToken o (candidate o)
  set : ∀ w0 acts w r w', w0 before = some o → Lts.Path (Move blank b) w0 acts w →
    Move blank b w (.set r) w' → Replaces o (candidate o) r w w'
  restore : ∀ w0 acts w r w', w0 before = some o → Lts.Path (Move blank b) w0 acts w →
    Move blank b w (.restore r) w' → Replaces (candidate o) o r w w'
  idempotent : ∀ w0 acts w r w1 w2, w0 before = some o → Lts.Path (Move blank b) w0 acts w →
    Move blank b w (.set (.ok ())) w1 → Move blank b w1 (.set r) w2 →
    w2 .cmdline = w1 .cmdline
  undone : ∀ w0 acts w w1 w2, w0 before = some o → Lts.Path (Move blank b) w0 acts w →
    Move blank b w (.set (.ok ())) w1 → Move blank b w1 (.restore (.ok ())) w2 →
    w2 .cmdline = some o

section Protocol

variable {blank : UInt8 → Bool} {b : Board} {w w' : World}

/-- An operation that fails and leaves the command line as it is. -/
lemma Replaces.fails {x y : Bytes} {e : Exit} (h : w' .cmdline = w .cmdline) :
    Replaces x y (.error e) w w' :=
  ⟨nofun, fun ne => absurd h ne⟩

/-- The files of an installation. -/
def installed : List File := [.cmdline, .temp]

/-- An installation, whenever it ends: the command line is as it was, or it has the text of the source,
    and that if all went well. -/
lemma installCmdline_ensures {src : File} {x : Bytes}
    (text : w src = some x)
    (out : src ∉ installed) :
    Ensures (Step blank) (installCmdline src) w fun _ r w' => Frame installed w w' ∧
      (w' .cmdline = w .cmdline ∨ w' .cmdline = some x) ∧ (r = .ok () → w' .cmdline = some x) := by
  have ne : src ≠ .cmdline ∧ src ≠ .temp := by simpa [installed] using out
  unfold installCmdline
  apply ensures_cmd_bind
  · rintro w1 rfl
    exact ⟨.refl, .inl rfl, nofun⟩
  intro w1 st
  have frame1 : Frame [.temp] w w1 := step_frame st
  apply ensures_cmd_bind
  · intro w2 st
    have frame := frame1.trans (step_frame st)
    exact ⟨frame.mono (by decide), .inl (frame _ (by decide)), nofun⟩
  intro w2 st
  have frame2 := frame1.trans (step_frame st)
  apply ensures_check_bind
  · rintro w3 ⟨rfl, _⟩
    exact ⟨frame2.mono (by decide), .inl (frame2 _ (by decide)), nofun⟩
  rintro w3 ⟨rfl, ok⟩
  -- The copy that is moved into place has the text of the source.
  obtain ⟨copy, left, right⟩ := ok rfl
  have out2 : src ∉ [File.temp] := by simpa using ne.2
  cases left.symm.trans (frame2.still text out2)
  apply ensures_cmd_bind
  · rintro w4 rfl
    exact ⟨frame2.mono (by decide), .inl (frame2 _ (by decide)), nofun⟩
  rintro w4 rfl
  apply ensures_cmd_bind
  · intro w5 st
    cases (show w5 = w4 from st)
    exact ⟨frame2.mono (by decide), .inl (frame2 _ (by decide)), nofun⟩
  intro w5 st
  obtain ⟨moved, read, rfl⟩ : ∃ m, w4 .temp = some m ∧
    w5 = Function.update (Function.update w4 .temp none) .cmdline (some m) := st
  cases read.symm.trans right
  have frame5 : Frame installed w
      (Function.update (Function.update w4 .temp none) .cmdline (some x)) :=
    ((frame2.mono (by decide)).update (by decide)).update (by decide)
  have now : Function.update (Function.update w4 .temp none) .cmdline (some x) .cmdline = some x :=
    Function.update_self ..
  apply ensures_cmd_bind
  · rintro w6 rfl
    exact ⟨frame5, .inr now, nofun⟩
  rintro w6 rfl
  intro ok w7 st
  obtain ⟨rfl, _⟩ := st
  cases ok with
  | false => exact ⟨frame5, .inr now, nofun⟩
  | true => exact ⟨frame5, .inr now, fun _ => now⟩

/-- The part that both operations share: the command line has the new text already, or it must have the
    old one, and the new text is installed. -/
lemma exchange_ensures {old new : File} {x y : Bytes} {already message : String} {tail : Sh Unit}
    (oldText : w old = some x)
    (newText : w new = some y)
    (out : new ∉ installed)
    (quiet : tail.Only (Within [])) :
    Ensures (Step blank)
      (do
        if ← test (.cmp .cmdline new) then
          cmd (.echo already)
        else
          check (.cmp .cmdline old) message
          installCmdline new
          tail)
      w fun _ r w' => Frame installed w w' ∧ Replaces x y r w w' := by
  intro same w1 st
  obtain ⟨rfl, eq⟩ := st
  cases same with
  | true =>
    obtain ⟨c, left, right⟩ := eq rfl
    cases right.symm.trans newText
    intro ok w2 st
    cases (show w2 = w1 from st)
    cases ok with
    | false => exact ⟨.refl, .fails rfl⟩
    | true => exact ⟨.refl, fun _ => ⟨.inr left, left⟩, fun ne => absurd rfl ne⟩
  | false =>
    apply ensures_check_bind
    · rintro w2 ⟨rfl, _⟩
      exact ⟨.refl, .fails rfl⟩
    rintro w2 ⟨rfl, eq⟩
    obtain ⟨c, left, right⟩ := eq rfl
    cases right.symm.trans oldText
    apply (installCmdline_ensures newText out).bind
    · rintro t _ w3 ⟨frame3, _, done⟩
      have now := done rfl
      apply (ensures_frame quiet).mono
      intro u r w4 frame4
      have still := frame4.still now (by simp)
      exact ⟨frame3.trans (frame4.mono nofun), fun _ => ⟨.inl left, still⟩, fun _ => ⟨left, still⟩⟩
    · rintro t e w3 ⟨frame3, kept | now, _⟩
      · exact ⟨frame3, .fails kept⟩
      · exact ⟨frame3, nofun, fun _ => ⟨left, now⟩⟩

/-- Reading sectors writes scratch files. -/
lemma readSectors_within {start count : Nat} {out : File} (mem : out ∈ scratch) :
    (readSectors start count readLog out).Only (Within scratch) := by
  refine (only_cmd ?_).bind fun _ => only_check nofun
  intro f written
  have : f = readLog ∨ f = out := by simpa [Op.writes] using written
  rcases this with rfl | rfl
  · decide
  · exact mem

/-- Checking the backup writes scratch files. -/
lemma checkBackup_within : (checkBackup b).Only (Within scratch) := by
  refine (only_check nofun).bind fun _ => (only_check nofun).bind fun _ => ?_
  refine Only.bind ?_ fun _ => (only_check nofun).bind fun _ => ?_
  · refine (only_cmd (by decide)).bind fun _ => (only_check nofun).bind fun _ => ?_
    exact only_check nofun
  refine (readSectors_within (by decide)).bind fun _ => (only_check nofun).bind fun _ => ?_
  exact (readSectors_within (by decide)).bind fun _ => only_check nofun

/-- The candidate is the only file that is made. -/
lemma makeConsoleCandidate_within : makeConsoleCandidate.Only (Within [expected]) := by
  refine (only_check nofun).bind fun _ => (only_cmd (by decide)).bind fun _ => ?_
  exact only_check nofun

/-- The candidate that is made. -/
lemma makeConsoleCandidate_yields {o : Bytes} (original : w before = some o) :
    Yields (Step blank) makeConsoleCandidate w fun _ _ w' =>
      w' expected = some (candidate o) := by
  unfold makeConsoleCandidate
  apply yields_check_bind
  rintro w1 ⟨rfl, _⟩
  apply yields_cmd_bind
  rintro w2 ⟨x, rfl, ok⟩
  obtain ⟨o', read, rfl⟩ := ok rfl
  cases read.symm.trans original
  apply yields_check
  rintro w3 ⟨rfl, _⟩
  exact Function.update_self ..

/-- The checks of both operations, before what the operation does with the two texts. -/
lemma prepared_ensures {o x y : Bytes} {rest : Sh Unit}
    (original : w before = some o)
    (next : ∀ w', w' before = some o → w' expected = some (candidate o) →
      Ensures (Step blank) rest w' fun _ r w'' => Frame installed w' w'' ∧ Replaces x y r w' w'') :
    Ensures (Step blank)
      (do
        checkBackup b
        makeConsoleCandidate
        rest)
      w fun _ r w' => w' before = some o ∧ Replaces x y r w w' := by
  apply (ensures_frame checkBackup_within).bind
  · intro t1 _ w1 frame1
    have original1 := frame1.still original (by decide)
    have both := (@ensures_frame blank _ w1 _ _ makeConsoleCandidate_within).and
      (@makeConsoleCandidate_yields blank _ _ original1)
    apply both.bind
    · rintro t2 _ w2 ⟨frame2, made⟩
      have original2 := frame2.still original1 (by decide)
      apply (next w2 original2 (made _ rfl)).mono
      rintro t3 r w3 ⟨frame3, replaces⟩
      have line : w2 .cmdline = w .cmdline :=
        (frame2 _ (by decide)).trans (frame1 _ (by decide))
      refine ⟨frame3.still original2 (by decide), ?_, ?_⟩
      · rw [← line]
        exact replaces.done
      · rw [← line]
        exact replaces.changed
    · rintro t2 e w2 ⟨frame2, _⟩
      have line : w2 .cmdline = w .cmdline :=
        (frame2 _ (by decide)).trans (frame1 _ (by decide))
      exact ⟨frame2.still original1 (by decide), .fails line⟩
  · intro t1 e w1 frame1
    exact ⟨frame1.still original (by decide), .fails (frame1 _ (by decide))⟩

/-- Every run of `set_console`. -/
lemma setConsole_ensures {o : Bytes} (original : w before = some o) :
    Ensures (Step blank) (setConsole b) w fun _ r w' =>
      w' before = some o ∧ Replaces o (candidate o) r w w' := by
  apply prepared_ensures original
  intro w1 original1 made
  apply exchange_ensures original1 made (by decide)
  exact (only_cmd nofun).bind fun _ => only_cmd nofun

/-- Every run of `restore_console`. -/
lemma restoreConsole_ensures {o : Bytes} (original : w before = some o) :
    Ensures (Step blank) (restoreConsole b) w fun _ r w' =>
      w' before = some o ∧ Replaces (candidate o) o r w w' := by
  apply prepared_ensures original
  intro w1 original1 made
  apply exchange_ensures made original1 (by decide)
  exact only_cmd nofun

/-- Nothing changes the saved original. -/
lemma move_before {o : Bytes} {a : Act}
    (original : w before = some o)
    (move : Move blank b w a w') : w' before = some o := by
  cases a with
  | set r =>
    obtain ⟨t, run, path⟩ := move
    exact ((setConsole_ensures original).run run path).1
  | restore r =>
    obtain ⟨t, run, path⟩ := move
    exact ((restoreConsole_ensures original).run run path).1
  | rewrite text =>
    cases (show w' = Function.update w .cmdline text from move)
    rwa [Function.update_of_ne (by decide)]

/-- The original is kept in every history. -/
lemma path_before {o : Bytes} {acts}
    (original : w before = some o)
    (path : Lts.Path (Move blank b) w acts w') : w' before = some o :=
  path.keep (I := fun w => w before = some o) (fun _ _ _ h move => move_before h move) original

/-- An operation in a history that begins with the saved original. -/
lemma set_replaces {o : Bytes} {w0 : World} {acts r}
    (original : w0 before = some o)
    (path : Lts.Path (Move blank b) w0 acts w)
    (move : Move blank b w (.set r) w') : Replaces o (candidate o) r w w' := by
  obtain ⟨t, run, steps⟩ := move
  exact ((setConsole_ensures (path_before original path)).run run steps).2

/-- A restoration puts the original back. -/
lemma restore_replaces {o : Bytes} {w0 : World} {acts r}
    (original : w0 before = some o)
    (path : Lts.Path (Move blank b) w0 acts w)
    (move : Move blank b w (.restore r) w') : Replaces (candidate o) o r w w' := by
  obtain ⟨t, run, steps⟩ := move
  exact ((restoreConsole_ensures (path_before original path)).run run steps).2

/-- A replaced token is longer. -/
lemma candidate_ne {o : Bytes} (single : OneToken oldToken newToken o (candidate o)) :
    candidate o ≠ o := by
  intro eq
  obtain ⟨pre, post, h, h', _, _⟩ := single
  rw [eq, h] at h'
  have lengths := congrArg List.length h'
  simp only [List.length_append] at lengths
  have shorter : oldToken.length < newToken.length := by decide
  omega

/-- The edit of a text is the replacement of one token, and the operations set it and undo it and lose
    nothing that anyone else wrote, exactly if one line of the text has a token for `sed`. -/
theorem reversible_iff {o : Bytes} :
    Reversible blank b o ↔ (lines o).countP (hasToken oldToken) = 1 := by
  have longer : newToken.length = oldToken.length + 10 := by decide
  constructor
  · intro h
    exact (sed_oneToken_iff longer (by decide)).mp h.single
  · intro single
    have one : OneToken oldToken newToken o (candidate o) :=
      (sed_oneToken_iff longer (by decide)).mpr single
    refine ⟨one, ?_, ?_, ?_, ?_⟩
    · intro w0 acts w r w' original path move
      exact set_replaces original path move
    · intro w0 acts w r w' original path move
      exact restore_replaces original path move
    · intro w0 acts w r w1 w2 original path first second
      have left := ((set_replaces original path first).done rfl).2
      have path' := path.append (.cons first .nil)
      by_contra ne
      have found := ((set_replaces original path' second).changed ne).1
      exact candidate_ne one (Option.some.inj (left.symm.trans found))
    · intro w0 acts w w1 w2 original path first second
      have path' := path.append (.cons first .nil)
      exact ((restore_replaces original path' second).done rfl).2

end Protocol

section Fields

variable {old : Bytes}

/-- The first field of a line, empty or not, is a token at its front. -/
lemma head_splitOnP {l : Bytes}
    (plain : ∀ c ∈ old, isSpace c = false) :
    (l.splitOnP isSpace).head? = some old ↔ (tokenEnd old l).isSome = true := by
  rw [Option.isSome_iff_exists]
  simp only [tokenEnd_eq_some]
  induction old generalizing l with
  | nil =>
    cases l with
    | nil => simp [List.splitOnP_nil, Closes]
    | cons c l =>
      rw [List.splitOnP_cons_eq_if_modifyHead]
      cases space : isSpace c <;> simp [Closes, space]
  | cons d old ih =>
    obtain ⟨space, plain⟩ := List.forall_mem_cons.mp plain
    cases l with
    | nil => simp [List.splitOnP_nil]
    | cons c l =>
      rw [List.splitOnP_cons_eq_if_modifyHead]
      cases other : isSpace c with
      | true =>
        have ne : c ≠ d := fun eq => by simp [eq, space] at other
        simp [ne]
      | false =>
        simp only [Bool.false_eq_true, if_false, List.head?_modifyHead, Option.map_eq_some_iff]
        constructor
        · rintro ⟨h, front, eq⟩
          cases eq
          obtain ⟨rest, rfl, closes⟩ := (ih plain).mp front
          exact ⟨rest, rfl, closes⟩
        · rintro ⟨rest, eq, closes⟩
          cases eq
          exact ⟨old, (ih plain).mpr ⟨rest, rfl, closes⟩, rfl⟩

/-- A list is its head and its tail. -/
lemma mem_iff_head_or_tail {x : Bytes} {xs : List Bytes} :
    x ∈ xs ↔ xs.head? = some x ∨ x ∈ xs.tail := by
  cases xs with
  | nil => simp
  | cons y ys => simp [eq_comm]

/-- The later fields are the tokens past the start. -/
lemma tail_splitOnP {l : Bytes}
    (plain : ∀ c ∈ old, isSpace c = false) :
    old ∈ (l.splitOnP isSpace).tail ↔ hasTokenFrom old l = true := by
  induction l with
  | nil => simp [List.splitOnP_nil, hasTokenFrom]
  | cons c l ih =>
    rw [List.splitOnP_cons_eq_if_modifyHead, hasTokenFrom]
    cases space : isSpace c with
    | false => simpa [List.tail_modifyHead] using ih
    | true =>
      rw [if_pos rfl, List.tail_cons, mem_iff_head_or_tail, head_splitOnP plain, ih]
      simp

/-- A line has a token exactly if it has it as a field. -/
lemma mem_fields {l : Bytes}
    (plain : ∀ c ∈ old, isSpace c = false)
    (ne : old ≠ []) : old ∈ fields isSpace l ↔ hasToken old l = true := by
  rw [hasToken, Bool.or_eq_true, ← head_splitOnP plain, ← tail_splitOnP plain,
    ← mem_iff_head_or_tail, fields, List.mem_filter]
  simp [ne]

/-- A list of counts with the sum one has one count. -/
lemma countP_of_sum_eq_one {α : Type} {g : α → Nat} {ls : List α} (one : (ls.map g).sum = 1) :
    ls.countP (fun x => decide (0 < g x)) = 1 := by
  induction ls with
  | nil => cases one
  | cons a ls ih =>
    rw [List.map_cons, List.sum_cons] at one
    by_cases pos : 0 < g a
    · have rest : (ls.map g).sum = 0 := by omega
      have none : ls.countP (fun x => decide (0 < g x)) = 0 := by
        apply List.countP_eq_zero.mpr
        intro x mem
        have zero := List.sum_eq_zero_iff_forall_eq_nat.mp rest (g x) (List.mem_map_of_mem mem)
        simp [zero]
      rw [List.countP_cons_of_pos (by simpa using pos), none]
    · rw [List.countP_cons_of_neg (by simpa using pos)]
      exact ih (by omega)

/-- An `awk` whose fields end where the tokens of `sed` do accepts the texts with one such line only. -/
theorem isSpace_single {o : Bytes} (accepts : Awk.console.accepts isSpace o = true) :
    (lines o).countP (hasToken oldToken) = 1 := by
  have plain : ∀ c ∈ oldToken, isSpace c = false := by decide +kernel
  have nonempty : oldToken ≠ [] := by decide
  unfold Awk.accepts at accepts
  rw [Bool.and_eq_true, beq_iff_eq] at accepts
  have one := accepts.1
  rw [List.countP_flatMap] at one
  have single := countP_of_sum_eq_one one
  rw [← single]
  apply List.countP_congr
  intro l _
  rw [← mem_fields plain nonempty, decide_eq_true_iff, Function.comp_apply, List.countP_pos_iff]
  simp

end Fields

section Sample

/-- Two lines: a token of its own, and one after a vertical tab. -/
def tabbed : Bytes := ascii "console=ttyS0\nfoo\x0bconsole=ttyS0\n"

def tabbedFiles (f : File) : Option Bytes :=
  if f = before then some tabbed else if f = expected then some (candidate tabbed) else none

/-- With spaces and tabs as blanks the text is accepted, and both tokens are replaced. -/
theorem tabbed_not_reversible :
    Leads (Step sampleBlank) makeConsoleCandidate tabbedFiles () tabbedFiles ∧
      tabbedFiles before = some tabbed ∧ 0 ∉ tabbed ∧
      ¬ Reversible sampleBlank k11c tabbed := by
  refine ⟨?_, rfl, by decide, ?_⟩
  · refine leads_check_bind ⟨rfl, fun _ => ⟨tabbed, rfl, by decide⟩⟩ ?_
    refine leads_cmd_bind ⟨some (candidate tabbed),
      (Function.update_eq_self expected tabbedFiles).symm, fun _ => ⟨tabbed, rfl, rfl⟩⟩ ?_
    exact leads_check ⟨rfl, fun _ => ⟨candidate tabbed, rfl, by decide⟩⟩
  · intro h
    obtain ⟨pre, post, eq, eq', _, _⟩ := h.single
    have lengths := congrArg List.length eq
    have lengths' := congrArg List.length eq'
    simp only [List.length_append] at lengths lengths'
    have l1 : tabbed.length = 32 := by decide
    have l2 : (candidate tabbed).length = 52 := by decide
    have l3 : oldToken.length = 13 := by decide
    have l4 : newToken.length = 23 := by decide
    omega

end Sample

end K11CHaos.Scripts.BootFix
