import AdminAccess.Proofs.Text.Form
import AdminAccess.Proofs.Text.Percent

/-! # Forms are read back

A name or value is read back from its encoded form, whatever characters it has, and its encoded
form contains no separator.  Hence the pairs behind a separator are read apart from those in front
of it, and a form is read as what was there before and the pairs that were added.
-/

namespace AdminAccess

namespace Form

/-! ## Characters -/

/-- What the encoding of a character is made of. -/
theorem mem_encodeChar {c d : Char} (h : d ∈ encodeChar c) :
    d = '+' ∨ isPlain d = true ∨ d = '%' ∨ ∃ n < 16, d = Percent.hexDigit n := by
  unfold encodeChar at h
  split at h
  · exact .inl (List.mem_singleton.1 h)
  · split at h
    · next hplain => exact .inr (.inl (List.mem_singleton.1 h ▸ hplain))
    · exact .inr (.inr (Percent.mem_escapes h))

theorem hexDigit_bounds : ∀ n < 16,
    Percent.hexDigit n ≠ '+' ∧ Percent.hexDigit n ≠ '&' ∧ Percent.hexDigit n ≠ '=' := by
  decide

/-- The signs with a meaning of their own in a form are not plain. -/
theorem isPlain_bounds {c : Char} (h : isPlain c = true) :
    c ≠ '+' ∧ c ≠ '%' ∧ c ≠ '&' ∧ c ≠ '=' := by
  refine ⟨?_, ?_, ?_, ?_⟩ <;> rintro rfl <;> revert h <;> decide

/-- Neither separator is in the encoded form of a text. -/
theorem encodeText_bounds {text : String} {d : Char} (h : d ∈ encodeText text) :
    d ≠ '&' ∧ d ≠ '=' := by
  obtain ⟨c, -, hd⟩ := List.mem_flatMap.1 h
  obtain rfl | hplain | rfl | ⟨n, hn, rfl⟩ := mem_encodeChar hd
  · decide
  · exact (isPlain_bounds hplain).2.2
  · decide
  · exact (hexDigit_bounds n hn).2

/-! ## Texts -/

/-- The characters of a form with blanks for plus signs. -/
def blanked (chars : List Char) : List Char :=
  chars.map fun c => if c == '+' then ' ' else c

theorem blanked_append (chars more : List Char) :
    blanked (chars ++ more) = blanked chars ++ blanked more :=
  List.map_append

theorem blanked_escapes (bytes : Bytes) :
    blanked (bytes.flatMap Percent.escapeByte) = bytes.flatMap Percent.escapeByte := by
  refine (List.map_congr_left fun c hc => ?_).trans (List.map_id _)
  have hplus : c ≠ '+' := by
    obtain rfl | ⟨n, hn, rfl⟩ := Percent.mem_escapes hc
    · decide
    · exact (hexDigit_bounds n hn).1
  simp [hplus]

/-- Plus signs are read before escapes, so that an escaped plus sign stays one. -/
theorem decodeChars_encodeChar (c : Char) (rest : List Char) :
    Percent.decodeChars (blanked (encodeChar c ++ rest)) =
      Utf8.encodeChar c ++ Percent.decodeChars (blanked rest) := by
  rw [blanked_append]
  unfold encodeChar
  by_cases hblank : c = ' '
  · rw [hblank]
    exact Percent.decodeChars_cons _ (by decide)
  · rw [if_neg (by simpa using hblank)]
    split
    · next hplain =>
        obtain ⟨hplus, hpercent, -⟩ := isPlain_bounds hplain
        have hown : blanked [c] = [c] := by simp [blanked, hplus]
        rw [hown, List.singleton_append, Percent.decodeChars_cons _ hpercent]
    · rw [blanked_escapes, Percent.decodeChars_escapes]

theorem decodeText_encodeText (text : String) : decodeText (encodeText text) = text := by
  have hchars : ∀ chars : List Char,
      Percent.decodeChars (blanked (chars.flatMap encodeChar)) = Utf8.encodeChars chars := by
    intro chars
    induction chars with
    | nil => rfl
    | cons c chars ih =>
        rw [List.flatMap_cons, decodeChars_encodeChar, ih, Utf8.encodeChars_cons]
  have hread : Percent.decodeChars (blanked (encodeText text)) = Utf8.encode text :=
    hchars text.toList
  calc decodeText (encodeText text)
      = Utf8.decodeLossy (Percent.decodeChars (blanked (encodeText text))) := rfl
    _ = text := by rw [hread, Utf8.decodeLossy_encode]

/-! ## Pairs -/

theorem decodePair_encodePair (pair : String × String) : decodePair (encodePair pair) = pair := by
  have hname : ∀ c ∈ encodeText pair.1, (c != '=') = true := fun c hc => by
    simpa using (encodeText_bounds hc).2
  have htake : (encodePair pair).takeWhile (· != '=') = encodeText pair.1 := by
    simp [encodePair, List.takeWhile_append_of_pos hname]
  have hdrop : ((encodePair pair).dropWhile (· != '=')).drop 1 = encodeText pair.2 := by
    simp [encodePair, List.dropWhile_append_of_pos hname]
  simp only [decodePair, htake, hdrop, decodeText_encodeText]

/-- The pairs on both sides of a separator are read apart. -/
theorem decodePairs_append (before after : List Char) :
    decodePairs (before ++ '&' :: after) = decodePairs before ++ decodePairs after := by
  simp only [decodePairs, splitOn_append, List.filter_append, List.map_append]

theorem decodePairs_encodePair (pair : String × String) :
    decodePairs (encodePair pair) = [pair] := by
  have hsep : '&' ∉ encodePair pair := by
    intro hmem
    simp only [encodePair, List.mem_append, List.mem_cons] at hmem
    rcases hmem with hname | heq | hvalue
    · exact (encodeText_bounds hname).1 rfl
    · exact absurd heq (by decide)
    · exact (encodeText_bounds hvalue).1 rfl
  have hsome : (encodePair pair).isEmpty = false := by simp [encodePair]
  rw [decodePairs, splitOn_of_not_mem hsep]
  simp [hsome, decodePair_encodePair]

theorem decodePairs_appendPair (soFar : List Char) (pair : String × String) :
    decodePairs (appendPair soFar pair) = decodePairs soFar ++ [pair] := by
  unfold appendPair
  split
  · next hempty => rw [List.isEmpty_iff.1 hempty, decodePairs_encodePair]; rfl
  · rw [decodePairs_append, decodePairs_encodePair]

/-- A form with more pairs is read as what was there before and then these pairs. -/
theorem decodePairs_appendPairs (soFar : List Char) (pairs : List (String × String)) :
    decodePairs (appendPairs soFar pairs) = decodePairs soFar ++ pairs := by
  induction pairs generalizing soFar with
  | nil => exact (List.append_nil _).symm
  | cons pair pairs ih =>
      calc decodePairs (appendPairs soFar (pair :: pairs))
          = decodePairs (appendPairs (appendPair soFar pair) pairs) := rfl
        _ = decodePairs soFar ++ pair :: pairs := by
            rw [ih, decodePairs_appendPair, List.append_assoc, List.singleton_append]

def readPairs (payload : Bytes) : List (String × String) :=
  decodePairs (Utf8.decodeLossy payload).toList

theorem readPairs_encodePairs (pairs : List (String × String)) :
    readPairs (Utf8.encode (encodePairs pairs)) = pairs := by
  rw [readPairs, Utf8.decodeLossy_encode, encodePairs, String.toList_ofList,
    decodePairs_appendPairs]
  rfl

end Form

end AdminAccess
