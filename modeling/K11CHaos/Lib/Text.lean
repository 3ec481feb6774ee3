import Mathlib.Data.String.Basic

/-!
# Splitting texts

`String.splitOn` at one character, as the split of the list of characters, and what it says of a
text: its parts joined again are the text. Last, the texts in ASCII, whose characters are their bytes.
-/

namespace K11CHaos
open String

/-- The loop of `splitOn` at one character: `l` is done, `m` belongs to the current part. -/
lemma splitOnAux_char (c : Char) (l m r : List Char) (acc : List String) :
    splitOnAux (ofList (l ++ (m ++ r))) (ofList [c]) ⟨utf8Len l⟩ ⟨utf8Len (l ++ m)⟩ 0 acc =
      acc.reverse ++ (List.splitOnPPrepend (· == c) r m.reverse).map ofList := by
  induction r generalizing l m acc with
  | nil =>
    have here := extract_of_valid l m []
    have stop := atEnd_of_valid (l ++ m) []
    rw [List.append_assoc] at here stop
    rw [splitOnAux, if_pos (stop.mpr rfl), utf8Len_append, here]
    simp
  | cons d r ih =>
    have here := extract_of_valid l m (d :: r)
    have stop := atEnd_of_valid (l ++ m) (d :: r)
    have get := get_of_valid (l ++ m) (d :: r)
    have next := next_of_valid (l ++ m) d r
    rw [List.append_assoc] at here stop get next
    have sep : Pos.Raw.get (ofList [c]) 0 = c := get_of_valid [] [c]
    have sepNext : Pos.Raw.next (ofList [c]) 0 = ⟨c.utf8Size⟩ := by
      have := next_of_valid [] c []
      simpa using this
    have sepEnd : Pos.Raw.atEnd (ofList [c]) ⟨c.utf8Size⟩ = true := by
      have := (atEnd_of_valid [c] []).mpr rfl
      simpa using this
    rw [splitOnAux, if_neg fun h => List.cons_ne_nil d r (stop.mp h)]
    dsimp only
    rw [get, sep, sepNext, next, sepEnd]
    by_cases h : d = c
    · subst h
      refine (if_pos (beq_self_eq_true d)).trans ((if_pos rfl).trans ?_)
      have back : Pos.Raw.unoffsetBy ⟨utf8Len (l ++ m) + d.utf8Size⟩ ⟨d.utf8Size⟩ =
          ⟨utf8Len l + utf8Len m⟩ := by
        simp [Pos.Raw.unoffsetBy]
      have goal := ih (l ++ m ++ [d]) [] (ofList m :: acc)
      rw [back, here]
      simp only [List.append_assoc, List.nil_append, List.append_nil, List.cons_append,
        utf8Len_append, utf8Len_cons, utf8Len_nil, Nat.zero_add, List.reverse_cons,
        List.reverse_nil] at goal ⊢
      rw [List.splitOnPPrepend_cons_pos (by simp), List.map_cons, List.reverse_reverse]
      simpa [Nat.add_assoc] using goal
    · refine (if_neg (by simpa using h)).trans ?_
      have same : Pos.Raw.unoffsetBy ⟨utf8Len (l ++ m)⟩ 0 = ⟨utf8Len (l ++ m)⟩ := by
        simp [Pos.Raw.unoffsetBy]
      have goal := ih l (m ++ [d]) acc
      rw [same, next, List.splitOnPPrepend_cons_neg (by simpa using h)]
      simpa [Nat.add_assoc] using goal

/-- Splitting a text at a character is splitting its characters. -/
lemma splitOn_char (s : String) (c : Char) :
    s.splitOn (ofList [c]) = (s.toList.splitOn c).map ofList := by
  have some' : ofList [c] ≠ "" := by
    intro h
    have := congrArg toList h
    rw [toList_ofList] at this
    cases this
  have e := splitOnAux_char c [] [] s.toList []
  rw [splitOn, if_neg (by simp), List.splitOn_eq_splitOnP]
  simpa using e

/-- The loop of `splitOn` where the first character of the separator does not come. -/
lemma splitOnAux_absent {c : Char} (cs l m r : List Char) (absent : c ∉ r) :
    splitOnAux (ofList (l ++ (m ++ r))) (ofList (c :: cs)) ⟨utf8Len l⟩ ⟨utf8Len (l ++ m)⟩ 0 [] =
      [ofList (m ++ r)] := by
  induction r generalizing m with
  | nil =>
    have here := extract_of_valid l m []
    have stop := atEnd_of_valid (l ++ m) []
    rw [List.append_assoc] at here stop
    rw [splitOnAux, if_pos (stop.mpr rfl), utf8Len_append, here]
    simp
  | cons d r ih =>
    have stop := atEnd_of_valid (l ++ m) (d :: r)
    have get := get_of_valid (l ++ m) (d :: r)
    have next := next_of_valid (l ++ m) d r
    rw [List.append_assoc] at stop get next
    have sep : Pos.Raw.get (ofList (c :: cs)) 0 = c := get_of_valid [] (c :: cs)
    have same : Pos.Raw.unoffsetBy ⟨utf8Len (l ++ m)⟩ 0 = ⟨utf8Len (l ++ m)⟩ := by
      simp [Pos.Raw.unoffsetBy]
    have other : d ≠ c := fun e => absent (e ▸ List.mem_cons_self)
    have goal := ih (m ++ [d]) fun h => absent (List.mem_cons_of_mem _ h)
    rw [splitOnAux, if_neg fun h => List.cons_ne_nil d r (stop.mp h)]
    dsimp only
    rw [get, sep]
    refine (if_neg (by simpa using other)).trans ?_
    rw [same, next]
    simpa [Nat.add_assoc] using goal

/-- A text without the first character of a separator is one part. -/
lemma splitOn_absent {s : String} {c : Char} {cs : List Char} (absent : c ∉ s.toList) :
    s.splitOn (ofList (c :: cs)) = [s] := by
  have e := splitOnAux_absent cs [] [] s.toList absent
  rw [splitOn, if_neg (by simp)]
  simpa using e

/-- A character of joined parts is the joint or stands in a part. -/
lemma mem_intercalate {c d : Char} {ls : List (List Char)} (h : c ∈ [d].intercalate ls) :
    c = d ∨ ∃ l ∈ ls, c ∈ l := by
  induction ls with
  | nil => cases h
  | cons l ls ih =>
    cases ls with
    | nil =>
      rw [List.intercalate_singleton] at h
      exact .inr ⟨l, List.mem_cons_self, h⟩
    | cons k ls =>
      rw [List.intercalate_cons_cons, List.append_assoc, List.mem_append, List.mem_append] at h
      obtain h | h | h := h
      · exact .inr ⟨l, List.mem_cons_self, h⟩
      · exact .inl (List.mem_singleton.mp h)
      · obtain e | ⟨part, hp, hc⟩ := ih h
        · exact .inl e
        · exact .inr ⟨part, List.mem_cons_of_mem _ hp, hc⟩

/-- ASCII characters are their own bytes in UTF-8. -/
lemma fromUTF8_ascii {cs : List Char} (plain : ∀ c ∈ cs, c.toNat < 128) :
    String.fromUTF8? ⟨(cs.map fun c => UInt8.ofNat c.toNat).toArray⟩ = some (String.ofList cs) := by
  have one : ∀ c ∈ cs, utf8EncodeChar c = [UInt8.ofNat c.toNat] := by
    intro c hc
    have small : c.val.toNat ≤ 127 := Nat.le_of_lt_succ (plain c hc)
    exact utf8EncodeChar_eq_singleton (if_pos (UInt32.le_iff_toNat_le.mpr small))
  have all : cs.flatMap utf8EncodeChar = cs.map fun c => UInt8.ofNat c.toNat := by
    rw [List.flatMap_congr one]
    exact List.flatMap_pure_eq_map _ cs
  have bytes : (String.ofList cs).toByteArray = ⟨(cs.map fun c => UInt8.ofNat c.toNat).toArray⟩ := by
    rw [String.toByteArray_ofList, List.utf8Encode, all]
    exact ByteArray.ext List.data_toByteArray
  rw [← bytes]
  exact dif_pos (String.ofList cs).isValidUTF8

end K11CHaos
