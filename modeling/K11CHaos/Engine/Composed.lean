import K11CHaos.Engine.BootPartition
import K11CHaos.Engine.Compose

/-!
# Compositions from end to end

What every run of `components::compose` that succeeds has published (`compose_gives`), and that there are
such runs: where the official image and the data file pass the checks and the new image does
(`Composable`), a composition succeeds (`compose_leads`). The image of the boot partition with a data
filesystem larger than its own data partition is such a case.
-/

namespace K11CHaos.Engine.Compose

open Prog

section Success

variable {w : World}

/-- One question that is answered. -/
lemma leads_op {o : Op} {v : Value o} {w' : World} (st : Step w ⟨o, .ok v⟩ w') :
    Leads Step (op o) w v w' :=
  leads_call st

/-- A result of the library that is known. -/
lemma leads_lift {α : Type} {r : Result α} {a : α} (h : r = .ok a) : Leads Step (lift r) w a w :=
  leads_ofExcept h

/-- A condition that does not apply. -/
lemma leads_deny {bad : Prop} [Decidable bad] {code detail : String} (h : ¬ bad) :
    Leads Step (lift (deny bad code detail)) w () w :=
  leads_lift (deny_ok.mpr h)

/-- The job is not cancelled. -/
lemma leads_checkJob : Leads Step checkJob w () w :=
  .bind (@leads_op _ .cancelled false _ rfl) leads_pure

/-- A read of a whole chunk, or of what is left. -/
lemma leads_read : Leads Step (op (.read chunk)) w (w.input.take chunk)
    { w with input := w.input.drop chunk } := by
  refine leads_op ⟨_, (List.take_append_drop chunk w.input).symm, rfl, List.length_take_le .., ?_⟩
  intro empty
  have none : w.input = [] := by
    simpa [chunk] using List.take_eq_nil_iff.mp empty
  rw [none, List.drop_nil]

/-- A write to the temporary file. -/
lemma leads_write {b c : Bytes} (temp : w.temp = some c) :
    Leads Step (op (.write b)) w () { w with temp := some (c ++ b) } :=
  leads_op ⟨c, temp, rfl⟩

/-- The loop of `file_hash` reads to the end. -/
lemma hashLoop_leads {seen : Bytes} (small : seen.length + w.input.length ≤ Images.maxImage) :
    Leads Step (hashLoop seen) w (seen ++ w.input) { w with input := [] } := by
  induction h : w.input.length using Nat.strong_induction_on generalizing seen w with
  | _ n ih =>
    rw [hashLoop]
    refine .bind leads_checkJob (.bind leads_read ?_)
    by_cases empty : w.input.take chunk = []
    · have none : w.input = [] := by
        simpa [chunk] using List.take_eq_nil_iff.mp empty
      rw [dif_pos empty, none, List.append_nil, List.drop_nil]
      exact leads_pure
    · have pos := List.length_pos_iff.mpr empty
      have len := congrArg List.length (List.take_append_drop chunk w.input)
      rw [List.length_append] at len
      rw [dif_neg empty, dif_neg (by omega)]
      have shorter : (w.input.drop chunk).length < n := by omega
      have rest : Leads Step (hashLoop (seen ++ w.input.take chunk))
          { w with input := w.input.drop chunk } _ _ :=
        ih _ shorter (by rw [List.length_append]; dsimp only; omega) rfl
      rwa [List.append_assoc, List.take_append_drop] at rest

/-- `file_hash` of a file that is there. -/
lemma fileHash_leads {f : Handle} {b : Bytes} (file : w.file f = some b) (pos : b ≠ [])
    (small : b.length ≤ Images.maxImage) :
    Leads Step (fileHash f) w (b.length, hashBytes b) { w with input := [] } := by
  have whole : slice b 0 b.length = b := slice_full (Nat.le_refl _)
  have some' := List.length_pos_iff.mpr pos
  have opened : Leads Step (openRegular f) w b.length w := by
    refine .bind (leads_op ⟨rfl, fun n e => ⟨b, file, (Except.ok.inj e).symm⟩⟩) ?_
    exact .bind (leads_deny (by omega)) leads_pure
  have stream : Leads Step (op (.stream f 0 none)) w () { w with input := b } :=
    leads_op ⟨b, file, by rw [Option.getD_none, whole]⟩
  refine .bind opened (.bind stream (.bind (hashLoop_leads ?_) (.bind leads_checkJob ?_)))
  · rw [List.length_nil]
    dsimp only
    omega
  · rw [List.nil_append]
    exact .bind (leads_deny (not_not.mpr rfl)) leads_pure

/-- The loop of `stream_copy` copies everything. -/
lemma copyLoop_leads {limit n : Nat} {copied c : Bytes} (temp : w.temp = some c)
    (fits : copied.length + w.input.length ≤ limit) (known : copied.length + w.input.length ≤ n)
    (small : limit < 2 ^ 64) :
    Leads Step (copyLoop limit (some n) copied) w (copied ++ w.input)
      { w with input := [], temp := some (c ++ w.input) } := by
  induction h : w.input.length using Nat.strong_induction_on generalizing copied c w with
  | _ m ih =>
    rw [copyLoop]
    refine .bind leads_checkJob (.bind leads_read ?_)
    by_cases empty : w.input.take chunk = []
    · have none : w.input = [] := by
        simpa [chunk] using List.take_eq_nil_iff.mp empty
      rw [dif_pos empty, none, List.append_nil, List.append_nil, List.drop_nil, ← temp]
      exact leads_pure
    · have pos := List.length_pos_iff.mpr empty
      have len := congrArg List.length (List.take_append_drop chunk w.input)
      rw [List.length_append] at len
      have within : ¬ (limit < copied.length + (w.input.take chunk).length ∨
          (some n).any (· < copied.length + (w.input.take chunk).length)) := by
        simp only [Option.any_some, decide_eq_true_eq]
        omega
      rw [dif_neg empty, dif_neg (by omega), if_neg within]
      have shorter : (w.input.drop chunk).length < m := by omega
      have rest : Leads Step (copyLoop limit (some n) (copied ++ w.input.take chunk))
          { w with input := w.input.drop chunk, temp := some (c ++ w.input.take chunk) } _ _ :=
        ih _ shorter rfl (by rw [List.length_append]; dsimp only; omega)
          (by rw [List.length_append]; dsimp only; omega) rfl
      rw [List.append_assoc, List.append_assoc, List.take_append_drop] at rest
      exact .bind (leads_write temp) rest

/-- `stream_copy` of a stream of the expected length. -/
lemma streamCopy_leads {limit : Nat} {c : Bytes} (temp : w.temp = some c) (pos : w.input ≠ [])
    (fits : w.input.length ≤ limit) (small : limit < 2 ^ 64) :
    Leads Step (streamCopy limit (some w.input.length)) w (w.input.length, hashBytes w.input)
      { w with input := [], temp := some (c ++ w.input) } := by
  have copy : Leads Step (copyLoop limit (some w.input.length) []) w w.input
      { w with input := [], temp := some (c ++ w.input) } :=
    copyLoop_leads temp (by simpa using fits) (by simp) small
  refine .bind copy (.bind leads_checkJob (.bind (leads_deny ?_) ?_))
  · simpa using pos
  · exact .bind (@leads_op _ .sync () _ rfl) leads_pure

/-- `inspect` of a file that passes. -/
lemma inspect_leads {X : Crates} {f : Handle} {b : Bytes} (file : w.file f = some b)
    (sound : Images.inspect X b = .ok ()) : Leads Step (inspect X f) w () w := by
  have contents : Leads Step (op (.contents f)) w b w :=
    leads_op ⟨rfl, fun c e => file.trans (congrArg some (Except.ok.inj e))⟩
  exact .bind contents (leads_lift sound)

/-- `publish` under a name that is free. -/
lemma publish_leads {out : Bytes} (temp : w.temp = some out)
    (free : w.installed (hashBytes out) = none) :
    Leads Step (publish out.length (hashBytes out)) w false
      { w with temp := none, installed := Function.update w.installed (hashBytes out) (some out) } := by
  have asked : Leads Step (op (.exists' (hashBytes out))) w false w :=
    leads_op ⟨rfl, by rw [free]; rfl⟩
  have moved : Leads Step (op (.rename (hashBytes out))) w ()
      { w with temp := none, installed := Function.update w.installed (hashBytes out) (some out) } :=
    leads_op ⟨out, temp, rfl⟩
  exact .bind leads_checkJob (.bind asked (.bind moved leads_pure))

/-- The image that a composition returns. -/
def resultOf (raw : PreparedImage) (s : Seed) (out : Bytes) : PreparedImage :=
  ⟨.installed (hashBytes out), raw.filename, some s.haos, raw.platform, out.length, hashBytes out,
    raw.sha256, "official_os_factory_data", 8, raw.reusedDownload, false⟩

/-- `composeInto` where nothing stands in the way. -/
lemma composeInto_leads {X : Crates} {raw : PreparedImage} {s : Seed}
    {image data head tail input : Bytes} {installed : String → Option Bytes} {start : Nat}
    (behind : head.length < start) (inside : start ≤ image.length)
    (system : start - head.length ≤ Components.limit)
    (sized : data.length = s.dataBytes) (hash : hashBytes data = s.dataSha256) (some' : data ≠ [])
    (small : data.length ≤ Components.limit)
    (inspected : Images.inspect X (assembled image data head tail start) = .ok ())
    (free : installed (hashBytes (assembled image data head tail start)) = none) :
    Leads Step (composeInto X raw s head tail start) ⟨image, data, some [], installed, input⟩
      (resultOf raw s (assembled image data head tail start))
      ⟨image, data, none, Function.update installed (hashBytes (assembled image data head tail start))
        (some (assembled image data head tail start)), []⟩ := by
  have limit : Components.limit < 2 ^ 64 := by decide
  have size : (slice image head.length (start - head.length)).length = start - head.length :=
    length_slice (by omega)
  have whole : slice data 0 data.length = data := slice_full (Nat.le_refl _)
  have first : Leads Step (op (.stream .raw head.length (some (start - head.length))))
      ⟨image, data, some head, installed, input⟩ ()
      ⟨image, data, some head, installed, slice image head.length (start - head.length)⟩ :=
    leads_op ⟨image, rfl, rfl⟩
  have copied := @streamCopy_leads
    ⟨image, data, some head, installed, slice image head.length (start - head.length)⟩ Components.limit
    head rfl (List.length_pos_iff.mp (by dsimp only; omega)) (by dsimp only; omega) limit
  have second : Leads Step (op (.stream .data 0 none))
      ⟨image, data, some (head ++ slice image head.length (start - head.length)), installed, []⟩ ()
      ⟨image, data, some (head ++ slice image head.length (start - head.length)), installed, data⟩ :=
    leads_op ⟨data, rfl, by rw [Option.getD_none, whole]⟩
  have copied' := @streamCopy_leads
    ⟨image, data, some (head ++ slice image head.length (start - head.length)), installed, data⟩
    Components.limit _ rfl some' small limit
  have made := @fileHash_leads ⟨image, data, some (assembled image data head tail start), installed, []⟩
    .temp _ rfl (by simp [assembled, some']) (Images.inspect_checked inspected).small
  dsimp only at copied copied'
  rw [size] at copied
  rw [sized] at copied'
  refine .bind (leads_write rfl) (.bind first (.bind copied (.bind second ?_)))
  refine .bind copied' (.bind (leads_deny (not_not.mpr hash)) ?_)
  refine .bind (leads_write rfl) (.bind (@leads_op _ .sync () _ rfl) ?_)
  refine .bind (inspect_leads rfl inspected) (.bind made ?_)
  exact .bind (publish_leads rfl free) leads_pure

/-- An official image and a data file that pass the checks, and whose composition does. -/
structure Composable (X : Crates) (s : Seed) (image data a b : Bytes) : Prop where
  official : Images.inspect X image = .ok ()
  officialHash : hashBytes image = s.officialRawSha256
  sized : data.length = s.dataBytes
  dataHash : hashBytes data = s.dataSha256
  superblock : 1160 ≤ data.length ∧ isHassosData (slice data 1024 136) = true
  small : data.length ≤ Components.limit
  behind : 34 < dataStart image
  system : dataStart image * 512 ≤ image.length ∧
    dataStart image * 512 - 34 * 512 ≤ Components.limit
  resized : resizeDataGpt (slice image 0 (34 * 512))
    ((dataStart image * 512 + data.length) / 512 + 33) data.length = .ok (a, b)
  inspected : Images.inspect X (assembled image data a b (dataStart image * 512)) = .ok ()

/-- The offset of the data partition as `compose` computes it. -/
lemma dataStart_offset {X : Crates} {image : Bytes} (official : Images.inspect X image = .ok ()) :
    Gpt.u64at (slice image 0 (34 * 512)) (dataEntry + 32) * 512 % 2 ^ 64 = dataStart image * 512 := by
  have bounds := dataStart_bounds official
  rw [Gpt.u64at, slice_slice (by decide), Nat.zero_add, ← Gpt.u64at, ← dataStart]
  omega

/-- The sizes of the parts and of the composition. -/
lemma Composable.sizes {X : Crates} {s : Seed} {image data a b : Bytes}
    (k : Composable X s image data a b) :
    a.length = 34 * 512 ∧ a.length < dataStart image * 512 ∧
      dataStart image * 512 - a.length ≤ Components.limit ∧
      dataStart image * 512 + data.length + 33 * 512 ≤ Images.maxImage := by
  have source := (Images.inspect_checked k.official).healthy
  have behind := k.behind
  have inside := k.system.1
  have after : 34 * 512 < dataStart image * 512 := Nat.mul_lt_mul_of_pos_right behind (by decide)
  have size : a.length = 34 * 512 := (resizeDataGpt_resized source k.resized).healthy.sizePrimary
  have tail : b.length = 33 * 512 := (resizeDataGpt_resized source k.resized).healthy.sizeTail
  have cut : (slice image a.length (dataStart image * 512 - a.length)).length =
      dataStart image * 512 - a.length := length_slice (by omega)
  have whole : (assembled image data a b (dataStart image * 512)).length =
      dataStart image * 512 + data.length + 33 * 512 := (assembled_pieces size tail after.le cut).1
  rw [size, ← whole]
  exact ⟨rfl, after, k.system.2, (Images.inspect_checked k.inspected).small⟩

/-- A composition of such files succeeds, under a name that is free. -/
lemma compose_leads {X : Crates} {raw : PreparedImage} {s : Seed} {image data a b : Bytes}
    {temp : Option Bytes} {installed : String → Option Bytes} {input : Bytes}
    (k : Composable X s image data a b)
    (free : installed (hashBytes (assembled image data a b (dataStart image * 512))) = none) :
    Leads Step (compose X raw s) ⟨image, data, temp, installed, input⟩
      (resultOf raw s (assembled image data a b (dataStart image * 512)))
      ⟨image, data, none, Function.update installed
        (hashBytes (assembled image data a b (dataStart image * 512)))
        (some (assembled image data a b (dataStart image * 512))), []⟩ := by
  obtain ⟨size, after, system, top⟩ := k.sizes
  have inside := k.system.1
  have long := k.superblock.1
  have start := dataStart_offset k.official
  rw [Images.maxImage] at top
  have hashed := @fileHash_leads ⟨image, data, temp, installed, input⟩ .raw image rfl
    (List.ne_nil_of_length_pos (by omega))
    (Images.inspect_checked k.official).small
  have head : Leads Step (op (.exact .raw 0 (34 * 512))) ⟨image, data, temp, installed, []⟩
      (slice image 0 (34 * 512)) ⟨image, data, temp, installed, []⟩ :=
    leads_op ⟨rfl, fun c e => ⟨image, rfl, by omega, (Except.ok.inj e).symm⟩⟩
  have superblock : Leads Step (op (.exact .data 1024 136)) ⟨image, data, temp, installed, []⟩
      (slice data 1024 136) ⟨image, data, temp, installed, []⟩ :=
    leads_op ⟨rfl, fun c e => ⟨data, rfl, long, (Except.ok.inj e).symm⟩⟩
  have made := @composeInto_leads X raw s image data a b [] installed (dataStart image * 512)
    after inside system k.sized k.dataHash (List.ne_nil_of_length_pos (by omega)) k.small
    k.inspected free
  have created : Leads Step (op .create) ⟨image, data, temp, installed, []⟩ ()
      ⟨image, data, some [], installed, []⟩ := leads_op rfl
  have discarded {w : World} : Leads Step (op .discard) w () { w with temp := none } :=
    leads_op ⟨none, rfl⟩
  have labelled : ¬ (!isHassosData (slice data 1024 136)) = true := by
    rw [k.superblock.2]
    decide
  refine .bind hashed (.bind (leads_deny (not_not.mpr k.officialHash)) ?_)
  refine .bind (inspect_leads rfl k.official) (.bind head (.bind superblock ?_))
  dsimp only
  rw [start, ← k.sized, Nat.mod_eq_of_lt (show dataStart image * 512 + data.length < 2 ^ 64 by omega)]
  refine .bind (leads_deny labelled) (.bind (leads_deny (by omega)) ?_)
  refine .bind (leads_lift k.resized) (.bind created (.bind made.attempt ?_))
  exact .bind discarded.attempt (leads_lift rfl)

end Success

/-! ## A HAOS image with a larger data partition -/

section Sample
open Images (haosArray haosBlocks haosEntry haosImage haosSpans fatCrates fatVolume linuxData guidOf)
open Scripts.GptImage (nameField nameField_length flatten_length)

variable {n last size : Nat}

/-- The array around the two ends of the data partition. -/
lemma haosArray_around : ∃ front rest : Bytes, front.length = 7 * 128 + 32 ∧
    ∀ last, haosArray last = front ++ toLe 8 46 ++ toLe 8 last ++ rest := by
  refine ⟨((haosBlocks 0).take 7).flatten ++ (linuxData ++ guidOf 8),
    zeros 8 ++ nameField "hassos-data" ++ (List.replicate 120 (zeros 128)).flatten, ?_, fun last => ?_⟩
  · rw [List.length_append, flatten_length fun b hb => Images.haosBlocks_each b (List.mem_of_mem_take hb)]
    simp [haosBlocks, haosSpans, linuxData]
  · have front : (haosBlocks last).take 7 = (haosBlocks 0).take 7 := rfl
    have back : (haosBlocks last).drop 7 = haosEntry ("hassos-data", linuxData, 8) (46, last) ::
        List.replicate 120 (zeros 128) := rfl
    rw [haosArray, ← List.take_append_drop 7 (haosBlocks last), front, back, List.flatten_append,
      List.flatten_cons, haosEntry]
    simp only [List.append_assoc]

/-- The array with another end of the data partition. -/
lemma resizedArray_haos {last' : Nat} : resizedArray (haosArray last) last' = haosArray last' := by
  obtain ⟨front, rest, len, array⟩ := haosArray_around
  have size : (front ++ toLe 8 46).length = 7 * 128 + 40 := by
    rw [List.length_append, len, length_toLe]
  have behind : (front ++ toLe 8 46 ++ toLe 8 last).length = 7 * 128 + 40 + 8 := by
    rw [List.length_append, size, length_toLe]
  rw [resizedArray, Gpt.put64, put, array, array, length_toLe, List.drop_left' behind,
    List.append_assoc (front ++ toLe 8 46), List.take_left' size]

/-- The data partition of such an image begins at sector 46. -/
lemma haosImage_dataStart (big : 34849 < n) (small : n ≤ 2 ^ 26) (order : 46 ≤ last)
    (room : last ≤ n - 34) : dataStart (haosImage n last) = 46 := by
  obtain ⟨_, _, primary, _⟩ := Images.haosImage_inspected big small order room
  have fits := Images.haosArray_fitting big (by omega) order room
  obtain ⟨front, rest, len, array⟩ := haosArray_around
  have entry : slice (haosImage n last) dataEntry 128 = slice (haosArray last) (7 * 128) 128 := by
    rw [← (Gpt.primaryWith_parts fits).2.2.2, ← primary, slice_drop, slice_slice (by decide),
      Nat.zero_add]
    rfl
  have start : slice (haosImage n last) (dataEntry + 32) 8 = toLe 8 46 := by
    rw [← slice_slice (show 32 + 8 ≤ 128 by decide), entry, slice_slice (by decide), array,
      List.append_assoc (front ++ _), slice_middle len length_toLe]
  rw [dataStart, Gpt.u64at, start, fromLe_toLe_of_lt (by decide)]

/-- The new pair of such an image. -/
lemma haosImage_grown {sectors : Nat} (big : 34849 < n) (small : n ≤ 2 ^ 26) (order : 46 ≤ last)
    (room : last ≤ n - 34) (big' : 34849 < sectors) (small' : sectors ≤ 2 ^ 26) :
    (grown (Gpt.primaryWith n (haosArray last)) sectors).drop 1024 = haosArray (sectors - 34) ∧
      Gpt.Healthy (grown (Gpt.primaryWith n (haosArray last)) sectors)
        (Gpt.backupOf (grown (Gpt.primaryWith n (haosArray last)) sectors) (sectors - 1))
        sectors := by
  have fits := Images.haosArray_fitting big (by omega) order room
  have fits' := @Images.haosArray_fitting sectors (sectors - 34) big' (by omega) (by omega) le_rfl
  obtain ⟨l, _, header, array⟩ := Gpt.primaryWith_parts fits
  have source := Gpt.pair_healthy fits
  have lh : (slice (Gpt.primaryWith n (haosArray last)) 512 512).length = 512 := length_slice (by omega)
  have first : Gpt.u64at (slice (Gpt.primaryWith n (haosArray last)) 512 512) 40 = 34 := by
    rw [header]
    exact (Scripts.GptImage.sealed_fields fits.small).2.2.1
  rw [grown, array, resizedArray_haos]
  refine ⟨?_, ?_⟩
  · exact (@Gpt.rewritten_parts (Gpt.primaryWith n (haosArray last)) _ _ sectors (by omega)
      (Gpt.length_sealed_edit lh source.front.size) fits'.size).2.2.2
  · refine Gpt.rewritten_healthy source fits'.size big' (by omega) (by omega) ?_ fits'.apart
    rw [first]
    exact fits'.inside

/-- The superblock of a data filesystem: its magic number and its label. -/
def superblock : Bytes :=
  zeros 56 ++ [0x53, 0xef] ++ zeros 62 ++ ("hassos-data".toList.map fun c => UInt8.ofNat c.toNat) ++
    zeros 893

/-- A data file of so many sectors with nothing but the superblock. -/
def dataFile (sectors : Nat) : Bytes :=
  zeros 1024 ++ superblock ++ zeros (sectors * 512 - 2048)

/-- The superblock is found. -/
lemma dataFile_labelled {sectors : Nat} (big : 4 ≤ sectors) : (dataFile sectors).length = sectors * 512 ∧
    isHassosData (slice (dataFile sectors) 1024 136) = true := by
  have len : superblock.length = 1024 := by
    simp [superblock]
  refine ⟨?_, ?_⟩
  · rw [dataFile, List.length_append, List.length_append, length_zeros, length_zeros, len]
    omega
  · rw [← Nat.add_zero 1024, ← slice_slice (show 0 + 136 ≤ 1024 by decide), dataFile,
      slice_middle length_zeros len]
    decide +kernel

/-- The seed that names these files. -/
def seedOf (image data : Bytes) : Seed :=
  { haos := "18.0", kernel := "6.12.91-haos", officialRawSha256 := hashBytes image,
    appVersion := "1.0.0", imageDigest := "", imageId := "", catalogCommit := "", configSha256 := "",
    state := .null, stateSha256 := "", containerd := "2.3.4", locallyVerified := true,
    dataSha256 := hashBytes data, dataBytes := data.length, supervisor := "", docker := "",
    ubootSha256 := "" }

/-- The image with a new pair and another data partition is accepted. -/
lemma haosImage_assembled {data a b : Bytes} (big : 34849 < n) (small : n ≤ 2 ^ 26) (order : 46 ≤ last)
    (room : last ≤ n - 34) (len : data.length = size * 512) (small' : size + 79 ≤ 2 ^ 26)
    (array : a.drop 1024 = haosArray (size + 79 - 34)) (healthy : Gpt.Healthy a b (size + 79)) :
    Images.inspect fatCrates (assembled (haosImage n last) data a b (46 * 512)) = .ok () := by
  obtain ⟨_, len', _, boot⟩ := Images.haosImage_inspected big small order room
  have la := healthy.sizePrimary
  have cut : (slice (haosImage n last) a.length (46 * 512 - a.length)).length = 46 * 512 - a.length :=
    length_slice (by omega)
  obtain ⟨whole, front, system, _, tail⟩ := assembled_pieces la healthy.sizeTail (by decide) cut
  have first : slice (assembled (haosImage n last) data a b (46 * 512)) 0 (34 * 512) = a :=
    (front 0 (34 * 512) le_rfl).trans (slice_full la.le)
  have second : slice (assembled (haosImage n last) data a b (46 * 512))
      ((size + 79) * 512 - 33 * 512) (33 * 512) = b := by
    have place : (size + 79) * 512 - 33 * 512 = 46 * 512 + data.length := by omega
    rw [place, tail]
  have held : slice (assembled (haosImage n last) data a b (46 * 512)) (34 * 512) (6 * 512) =
      fatVolume := by
    have cut (x : Bytes) : slice x (34 * 512) (6 * 512) =
        slice (slice x (34 * 512) (46 * 512 - 34 * 512)) 0 (6 * 512) := by
      rw [slice_slice (by decide), Nat.add_zero]
    rw [← boot, cut, system, ← cut]
  refine Images.inspect_ok (by omega) small' le_rfl ?_ ?_ (Images.fatVolume_boots held)
  · rw [first, second]
    exact healthy
  · rw [first]
    exact array

/-- Such an image goes together with a data file, unless the result would be too large. -/
lemma haosImage_composable (big : 34849 < n) (small : n ≤ 2 ^ 26) (order : 46 ≤ last)
    (room : last ≤ n - 34) (big' : 34770 < size) (small' : size ≤ 2 ^ 25) :
    ∃ a b, Composable fatCrates (seedOf (haosImage n last) (dataFile size)) (haosImage n last)
      (dataFile size) a b := by
  obtain ⟨official, len, primary, _⟩ := Images.haosImage_inspected big small order room
  obtain ⟨len', labelled⟩ := @dataFile_labelled size (by omega)
  have start := haosImage_dataStart big small order room
  have field : Gpt.u64at (slice (haosImage n last) 0 (34 * 512)) (dataEntry + 32) = 46 := by
    rw [← start, Gpt.u64at, slice_slice (by decide), Nat.zero_add]
    rfl
  obtain ⟨array, healthy⟩ := @haosImage_grown n last (size + 79) big small order room (by omega)
    (by omega)
  rw [← primary] at array healthy
  have top : Components.limit = 2 ^ 25 * 512 := rfl
  have count : (46 * 512 + (dataFile size).length) / 512 + 33 = size + 79 := by
    omega
  have resized := (resizeDataGpt_ok (Images.inspect_checked official).healthy).mpr
    ⟨show size + 79 < 2 ^ 32 by omega,
      show size + 79 = (_ + (dataFile size).length / 512 + 33) % 2 ^ 64 by rw [field]; omega,
      healthy, rfl⟩
  refine ⟨grown (slice (haosImage n last) 0 (34 * 512)) (size + 79),
    Gpt.backupOf (grown (slice (haosImage n last) 0 (34 * 512)) (size + 79)) (size + 79 - 1),
    official, rfl, rfl, rfl, ⟨by omega, labelled⟩, by omega, by omega, ⟨by omega, ?_⟩, ?_, ?_⟩
  · rw [start, top]
    omega
  · rw [start, count]
    exact resized
  · rw [start]
    exact haosImage_assembled big small order room len' (by omega) array healthy

/-- What the caller knows of the official image. -/
def officialOf (image : Bytes) : PreparedImage :=
  ⟨.raw, "haos.img", none, "generic-aarch64", image.length, hashBytes image, hashBytes image,
    "local_structure", 8, false, false⟩

/-- The files before a composition, with nothing published yet. -/
def filesOf (image data : Bytes) : World :=
  ⟨image, data, none, fun _ => none, []⟩

end Sample

section Compose

variable {X : Crates}

/-- `compose`: when it returns an image, it has put it together from the official image and the data
    file, and the file of its name holds it, unless a file with the same length and SHA-256 was already
    there. -/
theorem compose_gives {raw : PreparedImage} {s : Seed} {w : World} :
    Gives (compose X raw s) w fun p w' =>
      ∃ out, Composed w.raw w.data out ∧ Assembled X raw s w.raw w.data out p ∧
        hashBytes w.raw = s.officialRawSha256 ∧ Published w w' out p.reusedImage := by
  unfold compose
  apply fileHash_gives.bind
  rintro _ w1 ⟨moved1, image, file, rfl⟩
  cases file
  apply gives_lift_bind
  intro _ hash
  apply inspect_gives.bind
  rintro _ w2 ⟨rfl, image, file, official⟩
  cases file
  apply gives_op_bind
  rintro head w3 ⟨rfl, read⟩
  obtain ⟨image, file, _, rfl⟩ := read head rfl
  cases file
  apply gives_op_bind
  rintro superblock w4 ⟨rfl, _⟩
  apply gives_lift_bind
  intro _ _
  apply gives_lift_bind
  intro _ _
  apply gives_lift_bind
  rintro ⟨a, b⟩ resized
  apply gives_op_bind
  rintro _ w5 rfl
  apply gives_attempt_bind (composeInto_gives rfl)
  · rintro p w6 ⟨out, rfl, system, made, published⟩
    apply gives_discard_bind
    intro w7 same
    apply gives_lift
    rintro _ ⟨⟩
    have start := dataStart_offset official
    have sized : w4.data.length = s.dataBytes := made.sized
    have small : w4.data.length ≤ Components.limit := made.small
    rw [start] at resized system made published
    rw [← sized] at resized
    rw [← moved1.raw, ← moved1.data]
    refine ⟨_, assembled_composed official resized small system made.inspected, made, ?_, ?_⟩
    · rw [moved1.raw]
      exact not_not.mp (deny_ok.mp hash)
    · obtain ⟨stored, there, was⟩ := published
      refine ⟨stored, by rw [same]; exact there, ?_⟩
      rw [← moved1.installed]
      exact was
  · intro e w6
    apply gives_discard_bind
    intro w7 _ _ fails
    cases fails

/-- An image of 34949 sectors and a data file of 34880: the composition is published. -/
theorem compose_gives_sample : ∃ p w',
    Leads Step (compose Images.fatCrates (officialOf (Images.haosImage 34949 34915))
      (seedOf (Images.haosImage 34949 34915) (dataFile 34880)))
      (filesOf (Images.haosImage 34949 34915) (dataFile 34880)) p w' ∧ p.reusedImage = false ∧
    ∃ out, Composed (Images.haosImage 34949 34915) (dataFile 34880) out ∧
      Assembled Images.fatCrates (officialOf (Images.haosImage 34949 34915))
        (seedOf (Images.haosImage 34949 34915) (dataFile 34880)) (Images.haosImage 34949 34915)
        (dataFile 34880) out p ∧
      Published (filesOf (Images.haosImage 34949 34915) (dataFile 34880)) w' out p.reusedImage := by
  obtain ⟨a, b, k⟩ := @haosImage_composable 34949 34915 34880 (by decide) (by decide) (by decide)
    (by decide) (by decide) (by decide)
  have leads := @compose_leads _ (officialOf (Images.haosImage 34949 34915)) _ _ _ a b none
    (fun _ => none) [] k rfl
  refine ⟨_, _, leads, rfl, ?_⟩
  obtain ⟨t, run, path⟩ := leads
  obtain ⟨out, composed, assembled, -, published⟩ := compose_gives.run run path
  exact ⟨out, composed, assembled, published⟩

end Compose

end K11CHaos.Engine.Compose
