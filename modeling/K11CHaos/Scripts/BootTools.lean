import Mathlib.Logic.Function.Basic
import K11CHaos.Lib.Bytes
import K11CHaos.Lib.Hoare

/-!
# Commands of the boot-fix scripts

What `boot-fix-lib.sh` asks of its tools: `dd`, `cmp`, `grep`, `awk`, `sed`, `cp`, `mv`, the partition
tools and the tests of the shell, each with its exit status. A command that succeeds did what its
manual says to the files (`Step`); one that fails left the file that it writes in any state. The
reports of `sfdisk` and `sgdisk`, and the disk after `sgdisk` wrote to it, are arbitrary.

`cmd`, `check` and `test` are the three ways in which the script uses a status: `set -e` ends it, `fail`
ends it with a message, or a condition reads it.
-/

namespace K11CHaos.Scripts.BootFix

open Prog

/-- `$K11C_DEVICE`, `$K11C_CMDLINE`, the temporary file beside it, and the files of `$K11C_BACKUP`. -/
inductive File where
  | device
  | cmdline
  | temp
  | backup (name : String)
deriving DecidableEq, Repr

/-- The bytes of a text of ASCII characters. -/
def ascii (s : String) : Bytes := s.toList.map fun c => .ofNat c.toNat

/-- The lines of a text. A text that ends with a newline has an empty one at its end, which matches
    none of the patterns of the script. -/
def lines (b : Bytes) : List Bytes := b.splitOn 10

/-- `[[:space:]]` in the C locale. -/
def isSpace (c : UInt8) : Bool := c == 32 || (9 ≤ c && c ≤ 13)

/-- What follows a token at the front of a line, if the line or a space ends it there. -/
def tokenEnd (token line : Bytes) : Option Bytes :=
  if token.isPrefixOf line then
    match line.drop token.length with
    | [] => some []
    | c :: rest => if isSpace c then some (c :: rest) else none
  else
    none

/-- `s/(^|[[:space:]])old([[:space:]]|$)/\1new\2/` past the start of a line. -/
def sedFrom (old new : Bytes) : Bytes → Bytes
  | [] => []
  | c :: line =>
    if isSpace c then
      match tokenEnd old line with
      | some rest => c :: (new ++ rest)
      | none => c :: sedFrom old new line
    else
      c :: sedFrom old new line

/-- The same on a whole line, where the start counts as a space. -/
def sedLine (old new line : Bytes) : Bytes :=
  match tokenEnd old line with
  | some rest => new ++ rest
  | none => sedFrom old new line

/-- The substitution on each line of a text. -/
def sed (old new b : Bytes) : Bytes :=
  List.intercalate [10] ((lines b).map (sedLine old new))

/-- A line has a token past its start. -/
def hasTokenFrom (token : Bytes) : Bytes → Bool
  | [] => false
  | c :: line => (isSpace c && (tokenEnd token line).isSome) || hasTokenFrom token line

/-- A line matches `(^|[[:space:]])token([[:space:]]|$)`. -/
def hasToken (token line : Bytes) : Bool :=
  (tokenEnd token line).isSome || hasTokenFrom token line

/-- The fields of a line in `awk`, which are separated by blanks. -/
def fields (blank : UInt8 → Bool) (line : Bytes) : List Bytes :=
  (line.splitOnP blank).filter (· ≠ [])

/-- A fixed text occurs in a line. -/
def holdsText (text line : Bytes) : Bool := line.tails.any text.isPrefixOf

/-- The patterns that the script gives to `grep`: a fixed text in a line (`-F`), a whole line (`-Fx`),
    the start of a line, and a token. -/
inductive Pattern where
  | contains (text : String)
  | line (text : String)
  | start (text : String)
  | token (text : String)
deriving DecidableEq, Repr

/-- A line matches. -/
def Pattern.matchesLine : Pattern → Bytes → Bool
  | .contains text, l => holdsText (ascii text) l
  | .line text, l => l == ascii text
  | .start text, l => (ascii text).isPrefixOf l
  | .token text, l => hasToken (ascii text) l

/-- A line of the text matches. -/
def Pattern.matches (p : Pattern) (b : Bytes) : Bool :=
  (lines b).any p.matchesLine

/-- The two `awk` programs: the layout of the partitions, and the tokens of the console. -/
inductive Awk where
  | layout
  | console
deriving DecidableEq, Repr

/-- A line matches `/start= *34816,/`. -/
def firstAtLba (l : Bytes) : Bool :=
  l.tails.any fun t =>
    (ascii "start=").isPrefixOf t &&
      (ascii "34816,").isPrefixOf ((t.drop 6).dropWhile (· == 32))

def oldToken : Bytes := ascii "console=ttyS0"
def newToken : Bytes := ascii "console=ttyS0,1500000n8"

/-- An `awk` program exits with 0 on a text. -/
def Awk.accepts (blank : UInt8 → Bool) : Awk → Bytes → Bool
  | .layout, b =>
    let starts := (lines b).filter (holdsText (ascii "start="))
    starts.length == 8 && starts.head?.all firstAtLba
  | .console, b =>
    let tokens := (lines b).flatMap (fields blank)
    tokens.countP (· == oldToken) == 1 && tokens.countP oldToken.isPrefixOf == 1

/-- The commands, with the files they read and write. -/
inductive Op where
  | isBackupDir
  | sha256sumC
  | sfdiskDump (out : File)
  | sgdiskVerify (out : File)
  | sgdiskGuid (guid : String) (out : File)
  | dd (src out : File) (bs skip count : Nat) (log : File)
  | hasSize (f : File) (n : Nat)
  | cmp (f g : File)
  | grep (p : Pattern) (f : File)
  | awk (p : Awk) (f : File)
  | sedConsole (src out : File)
  | cat (f : File)
  | cp (src out : File)
  | mktemp
  | mv (src out : File)
  | sync
  | echo (line : String)
deriving DecidableEq, Repr

/-- Every command answers whether its exit status is 0. -/
abbrev Ans (_ : Op) : Type := Bool

/-- A command that ran. -/
abbrev Call := Ev Op Ans

/-- How the script ends early: by a status under `set -e`, or by `fail`. -/
inductive Exit where
  | status
  | fail (message : String)
deriving DecidableEq, Repr

abbrev Sh := Prog Op Ans Exit

/-- A plain command under `set -e`. -/
def cmd (o : Op) : Sh Unit := .ask o fun ok => if ok then .ret () else .fail .status

/-- A command with `|| fail`. -/
def check (o : Op) (message : String) : Sh Unit :=
  .ask o fun ok => if ok then .ret () else .fail (.fail message)

/-- A command in a condition. -/
def test (o : Op) : Sh Bool := .ask o .ret

/-- The contents of the files. -/
abbrev World := File → Option Bytes

/-- What a command with its status does to the files. -/
def Step (blank : UInt8 → Bool) (w : World) (e : Call) (w' : World) : Prop :=
  match e with
  | ⟨.isBackupDir, _⟩ | ⟨.sha256sumC, _⟩ | ⟨.cat _, _⟩ | ⟨.sync, _⟩ | ⟨.echo _, _⟩ => w' = w
  | ⟨.sfdiskDump out, _⟩ | ⟨.sgdiskVerify out, _⟩ => ∃ x, w' = Function.update w out x
  | ⟨.sgdiskGuid _ out, _⟩ =>
    ∃ x disk, w' = Function.update (Function.update w out x) .device (some disk)
  | ⟨.dd src out bs skip count log, ok⟩ =>
    ∃ l x, w' = Function.update (Function.update w log l) out x ∧
      (ok = true → ∃ b, w src = some b ∧ x = some (slice b (bs * skip) (bs * count)))
  | ⟨.hasSize f n, ok⟩ => w' = w ∧ (ok = true → ∃ b, w f = some b ∧ b.length = n)
  | ⟨.cmp f g, ok⟩ => w' = w ∧ (ok = true → ∃ b, w f = some b ∧ w g = some b)
  | ⟨.grep p f, ok⟩ => w' = w ∧ (ok = true → ∃ b, w f = some b ∧ p.matches b = true)
  | ⟨.awk p f, ok⟩ => w' = w ∧ (ok = true → ∃ b, w f = some b ∧ p.accepts blank b = true)
  | ⟨.sedConsole src out, ok⟩ =>
    ∃ x, w' = Function.update w out x ∧
      (ok = true → ∃ b, w src = some b ∧ x = some (sed oldToken newToken b))
  | ⟨.cp src out, ok⟩ =>
    ∃ x, w' = Function.update w out x ∧ (ok = true → ∃ b, w src = some b ∧ x = some b)
  | ⟨.mktemp, ok⟩ => w' = if ok then Function.update w .temp (some []) else w
  | ⟨.mv src out, ok⟩ =>
    if ok then
      ∃ b, w src = some b ∧ w' = Function.update (Function.update w src none) out (some b)
    else
      w' = w

/-- The files that a command may write. -/
def Op.writes : Op → List File
  | .isBackupDir | .sha256sumC | .cat _ | .sync | .echo _ => []
  | .hasSize _ _ | .cmp _ _ | .grep _ _ | .awk _ _ => []
  | .sfdiskDump out | .sgdiskVerify out | .sedConsole _ out | .cp _ out => [out]
  | .sgdiskGuid _ out => [out, .device]
  | .dd _ out _ _ _ log => [log, out]
  | .mktemp => [.temp]
  | .mv src out => [src, out]

/-- Only the files of a list differ. -/
def Frame (fs : List File) (w w' : World) : Prop := ∀ f, f ∉ fs → w' f = w f

/-- Nothing has changed. -/
lemma Frame.refl {fs} {w : World} : Frame fs w w := fun _ _ => rfl

/-- One change after another. -/
lemma Frame.trans {fs} {w w' w'' : World} (h : Frame fs w w') (h' : Frame fs w' w'') :
    Frame fs w w'' :=
  fun f out => (h' f out).trans (h f out)

/-- More files may change. -/
lemma Frame.mono {fs gs} {w w' : World} (h : Frame fs w w') (sub : ∀ f ∈ fs, f ∈ gs) :
    Frame gs w w' :=
  fun f out => h f fun mem => out (sub f mem)

/-- A file of the list is written. -/
lemma Frame.update {fs} {w w' : World} {f : File} {x : Option Bytes}
    (h : Frame fs w w')
    (mem : f ∈ fs) : Frame fs w (Function.update w' f x) := by
  intro g out
  have ne : g ≠ f := fun eq => out (eq ▸ mem)
  rw [Function.update_of_ne ne]
  exact h g out

/-- What a file outside the list holds. -/
lemma Frame.read {fs} {w w' : World} {f : File} {x}
    (h : Frame fs w w')
    (read : w' f = some x)
    (out : f ∉ fs) : w f = some x :=
  (h f out).symm.trans read

/-- A file outside the list holds what it held. -/
lemma Frame.still {fs} {w w' : World} {f : File} {x}
    (h : Frame fs w w')
    (read : w f = some x)
    (out : f ∉ fs) : w' f = some x :=
  (h f out).trans read

/-- A command changes no other file. -/
lemma step_frame {blank : UInt8 → Bool} {w w' : World} {o : Op} {ok : Bool}
    (st : Step blank w ⟨o, ok⟩ w') : Frame o.writes w w' := by
  cases o with
  | isBackupDir | sha256sumC | cat _ | sync | echo _ =>
    cases st
    exact .refl
  | hasSize _ _ | cmp _ _ | grep _ _ | awk _ _ =>
    cases st.1
    exact .refl
  | sfdiskDump _ | sgdiskVerify _ =>
    obtain ⟨x, rfl⟩ := st
    exact Frame.refl.update (by simp [Op.writes])
  | sedConsole _ _ | cp _ _ =>
    obtain ⟨x, rfl, _⟩ := st
    exact Frame.refl.update (by simp [Op.writes])
  | sgdiskGuid _ _ =>
    obtain ⟨x, disk, rfl⟩ := st
    exact (Frame.refl.update (by simp [Op.writes])).update (by simp [Op.writes])
  | dd _ _ _ _ _ _ =>
    obtain ⟨l, x, rfl, _⟩ := st
    exact (Frame.refl.update (by simp [Op.writes])).update (by simp [Op.writes])
  | mktemp =>
    cases ok with
    | false => cases (show w' = w from st); exact .refl
    | true =>
      cases (show w' = Function.update w .temp (some []) from st)
      exact Frame.refl.update (by simp [Op.writes])
  | mv _ _ =>
    cases ok with
    | false => cases (show w' = w from st); exact .refl
    | true =>
      obtain ⟨b, _, rfl⟩ := st
      exact (Frame.refl.update (by simp [Op.writes])).update (by simp [Op.writes])

/-- The command writes to files of a list only. -/
def Within (fs : List File) (o : Op) : Prop := ∀ f ∈ o.writes, f ∈ fs

instance {fs : List File} : DecidablePred (Within fs) := fun o =>
  inferInstanceAs (Decidable (∀ f ∈ o.writes, f ∈ fs))

/-- Every run of a program whose commands write to files of a list. -/
lemma ensures_frame {blank : UInt8 → Bool} {α : Type} {w : World} {fs} {m : Sh α}
    (within : m.Only (Within fs)) :
    Ensures (Step blank) m w fun _ _ w' => Frame fs w w' := by
  apply ensures_iff.mpr
  intro t r w' run path
  have bound := within.runs run
  clear run
  induction path with
  | nil => exact .refl
  | cons st _ ih =>
    have here := (step_frame st).mono (bound _ List.mem_cons_self)
    exact here.trans (ih fun e mem => bound e (List.mem_cons_of_mem _ mem))

section Rules

variable {blank : UInt8 → Bool} {w : World} {α : Type}

/-- A plain command in every run. -/
lemma ensures_cmd_bind {o : Op} {f : Unit → Sh α} {Q : Except Exit α → World → Prop}
    (fails : ∀ w', Step blank w ⟨o, false⟩ w' → Q (.error .status) w')
    (rest : ∀ w', Step blank w ⟨o, true⟩ w' → Ensures (Step blank) (f ()) w' fun _ => Q) :
    Ensures (Step blank) (cmd o >>= f) w fun _ => Q := by
  intro ok w' st
  cases ok with
  | false => exact fails w' st
  | true => exact rest w' st

/-- A checked command in every run. -/
lemma ensures_check_bind {o : Op} {message} {f : Unit → Sh α} {Q : Except Exit α → World → Prop}
    (fails : ∀ w', Step blank w ⟨o, false⟩ w' → Q (.error (.fail message)) w')
    (rest : ∀ w', Step blank w ⟨o, true⟩ w' → Ensures (Step blank) (f ()) w' fun _ => Q) :
    Ensures (Step blank) (check o message >>= f) w fun _ => Q := by
  intro ok w' st
  cases ok with
  | false => exact fails w' st
  | true => exact rest w' st

/-- What follows a plain command that succeeds. -/
lemma yields_cmd_bind {o : Op} {f : Unit → Sh α} {Q : List Call → α → World → Prop}
    (h : ∀ w', Step blank w ⟨o, true⟩ w' →
      Yields (Step blank) (f ()) w' fun t => Q (⟨o, true⟩ :: t)) :
    Yields (Step blank) (cmd o >>= f) w Q := by
  intro ok w' st
  cases ok with
  | false => nofun
  | true => exact h w' st

/-- What follows a checked command that succeeds. -/
lemma yields_check_bind {o : Op} {message} {f : Unit → Sh α} {Q : List Call → α → World → Prop}
    (h : ∀ w', Step blank w ⟨o, true⟩ w' →
      Yields (Step blank) (f ()) w' fun t => Q (⟨o, true⟩ :: t)) :
    Yields (Step blank) (check o message >>= f) w Q := by
  intro ok w' st
  cases ok with
  | false => nofun
  | true => exact h w' st

/-- What follows a condition. -/
lemma yields_test_bind {o : Op} {f : Bool → Sh α} {Q : List Call → α → World → Prop}
    (h : ∀ ok w', Step blank w ⟨o, ok⟩ w' →
      Yields (Step blank) (f ok) w' fun t => Q (⟨o, ok⟩ :: t)) :
    Yields (Step blank) (test o >>= f) w Q :=
  h

/-- What a last plain command yields. -/
lemma yields_cmd {o : Op} {Q : List Call → Unit → World → Prop}
    (h : ∀ w', Step blank w ⟨o, true⟩ w' → Q [⟨o, true⟩] () w') :
    Yields (Step blank) (cmd o) w Q := by
  intro ok w' st
  cases ok with
  | false => nofun
  | true => exact yields_pure (h w' st)

/-- What a last checked command yields. -/
lemma yields_check {o : Op} {message} {Q : List Call → Unit → World → Prop}
    (h : ∀ w', Step blank w ⟨o, true⟩ w' → Q [⟨o, true⟩] () w') :
    Yields (Step blank) (check o message) w Q := by
  intro ok w' st
  cases ok with
  | false => nofun
  | true => exact yields_pure (h w' st)

/-- The question of a command. -/
lemma only_cmd {p : Op → Prop} {o : Op} (h : p o) : (cmd o).Only p :=
  ⟨h, fun ok => by cases ok <;> trivial⟩

/-- The question of a command with its message. -/
lemma only_check {p : Op → Prop} {o : Op} {message} (h : p o) : (check o message).Only p :=
  ⟨h, fun ok => by cases ok <;> trivial⟩

/-- The question of a test. -/
lemma only_test {p : Op → Prop} {o : Op} (h : p o) : (test o).Only p :=
  ⟨h, fun _ => trivial⟩

/-- The guards from a plain command on. -/
lemma guards_cmd_bind {P : List Call → World → Op → Prop} {o : Op} {f : Unit → Sh α} {t}
    (guard : P t w o)
    (rest : ∀ w', Step blank w ⟨o, true⟩ w' →
      Guards (Step blank) P (f ()) (t ++ [⟨o, true⟩]) w') :
    Guards (Step blank) P (cmd o >>= f) t w := by
  refine ⟨guard, ?_⟩
  intro ok w' st
  cases ok with
  | false => trivial
  | true => exact rest w' st

/-- The guards from a condition on. -/
lemma guards_test_bind {P : List Call → World → Op → Prop} {o : Op} {f : Bool → Sh α} {t}
    (guard : P t w o)
    (rest : ∀ ok w', Step blank w ⟨o, ok⟩ w' →
      Guards (Step blank) P (f ok) (t ++ [⟨o, ok⟩]) w') :
    Guards (Step blank) P (test o >>= f) t w :=
  ⟨guard, rest⟩

/-- A command that succeeds. -/
lemma leads_check {o : Op} {message} {w' : World} (st : Step blank w ⟨o, true⟩ w') :
    Leads (Step blank) (check o message) w () w' :=
  ⟨[⟨o, true⟩], .ask .ret, .cons st .nil⟩

/-- A command that succeeds, and the rest. -/
lemma leads_cmd_bind {o : Op} {f : Unit → Sh α} {w1 w2 : World} {a}
    (st : Step blank w ⟨o, true⟩ w1)
    (rest : Leads (Step blank) (f ()) w1 a w2) : Leads (Step blank) (cmd o >>= f) w a w2 :=
  Leads.bind (m := cmd o) ⟨[⟨o, true⟩], .ask .ret, .cons st .nil⟩ rest

/-- A command with a message that succeeds, and the rest. -/
lemma leads_check_bind {o : Op} {message} {f : Unit → Sh α} {w1 w2 : World} {a}
    (st : Step blank w ⟨o, true⟩ w1)
    (rest : Leads (Step blank) (f ()) w1 a w2) :
    Leads (Step blank) (check o message >>= f) w a w2 :=
  (leads_check st).bind rest

/-- A test with its answer, and the rest. -/
lemma leads_test_bind {o : Op} {ok : Bool} {f : Bool → Sh α} {w1 w2 : World} {a}
    (st : Step blank w ⟨o, ok⟩ w1)
    (rest : Leads (Step blank) (f ok) w1 a w2) : Leads (Step blank) (test o >>= f) w a w2 :=
  Leads.bind (m := test o) ⟨[⟨o, ok⟩], .ask .ret, .cons st .nil⟩ rest

/-- A command before the one that ends the run. -/
lemma endsWith_cmd_bind {o : Op} {f : Unit → Sh α} {w1 w2 : World} {a e}
    (st : Step blank w ⟨o, true⟩ w1)
    (rest : EndsWith (Step blank) (f ()) w1 e a w2) :
    EndsWith (Step blank) (cmd o >>= f) w e a w2 :=
  Leads.endsWith (m := cmd o) ⟨[⟨o, true⟩], .ask .ret, .cons st .nil⟩ rest

/-- A test before the command that ends the run. -/
lemma endsWith_test_bind {o : Op} {ok : Bool} {f : Bool → Sh α} {w1 w2 : World} {a e}
    (st : Step blank w ⟨o, ok⟩ w1)
    (rest : EndsWith (Step blank) (f ok) w1 e a w2) :
    EndsWith (Step blank) (test o >>= f) w e a w2 :=
  Leads.endsWith (m := test o) ⟨[⟨o, ok⟩], .ask .ret, .cons st .nil⟩ rest

/-- A command that ends the run. -/
lemma endsWith_cmd {o : Op} {w' : World} (st : Step blank w ⟨o, true⟩ w') :
    EndsWith (Step blank) (cmd o) w ⟨o, true⟩ () w' :=
  ⟨[], .ask .ret, .cons st .nil⟩

end Rules

end K11CHaos.Scripts.BootFix
