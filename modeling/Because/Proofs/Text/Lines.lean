import Because.Proofs.Text.Words
import Because.Text.Input

/-!
# The lines of a text as they are read

A text arrives as the bytes that encode it. No character but a line feed has the byte of a line feed
in its encoding, so that the lines of the bytes are those of the text, each of which can be decoded.
The carriage returns that a line loses at its end make no difference to its words.
-/

namespace Because.Text

/-- The characters are these lines, each followed by a line feed; the last one need not be. -/
inductive Lined : List Char → List String → Prop where
  | none : Lined [] []
  | last {line : String} : line ≠ "" → '\n' ∉ line.toList → Lined line.toList [line]
  | next {line : String} {rest lines} : '\n' ∉ line.toList → Lined rest lines →
    Lined (line.toList ++ '\n' :: rest) (line :: lines)

/-- The end of a line, which is no part of what it says. -/
def isLineEnd (c : Char) : Bool := c == '\r' || c == '\n'

/-- A line as it is read: without what ends it. -/
def received (line : String) : String := String.ofList (dropEndWhile isLineEnd line.toList)

variable {chars line rest : List Char} {bytes : List UInt8} {lines : List String} {c : Char}

/-! ## Bytes -/

/-- The bytes that encode characters. -/
def encoded (chars : List Char) : List UInt8 := chars.flatMap String.utf8EncodeChar

/-- Only a line feed is encoded with the byte of a line feed. -/
lemma feed_not_mem_encodeChar (other : c ≠ '\n') : 10 ∉ String.utf8EncodeChar c := by
  have value : c.val.toNat ≠ 10 := fun same => other (Char.ext (UInt32.toNat_inj.1 same))
  have byte {n : Nat} (high : n % 256 ≠ 10) : (10 : UInt8) ≠ UInt8.ofNat n := by
    intro same
    have same := congrArg UInt8.toNat same
    rw [UInt8.toNat_ofNat'] at same
    exact high same.symm
  rw [String.utf8EncodeChar]
  split
  · exact List.mem_singleton.not.2 (byte (by omega))
  split
  · simp only [List.mem_cons, List.not_mem_nil, or_false, not_or]
    exact ⟨byte (by omega), byte (by omega)⟩
  split
  · simp only [List.mem_cons, List.not_mem_nil, or_false, not_or]
    exact ⟨byte (by omega), byte (by omega), byte (by omega)⟩
  · simp only [List.mem_cons, List.not_mem_nil, or_false, not_or]
    exact ⟨byte (by omega), byte (by omega), byte (by omega), byte (by omega)⟩

/-- Characters without a line feed are encoded without its byte. -/
lemma feed_not_mem_encoded (free : '\n' ∉ chars) : 10 ∉ encoded chars := by
  intro mem
  obtain ⟨c, there, mem⟩ := List.mem_flatMap.1 mem
  refine feed_not_mem_encodeChar ?_ mem
  rintro rfl
  exact free there

/-- Some characters are encoded as some bytes. -/
lemma encoded_ne_nil (any : chars ≠ []) : encoded chars ≠ [] := by
  obtain ⟨c, rest, rfl⟩ := List.exists_cons_of_ne_nil any
  refine List.append_ne_nil_of_left_ne_nil (mt List.length_eq_zero_iff.2 ?_) _
  rw [String.length_utf8EncodeChar]
  exact Nat.ne_of_gt (Char.utf8Size_pos c)

/-- The loop that turns bytes into a list goes through all that are left. -/
lemma toList_loop (bytes : ByteArray) (i : Nat) (before : List UInt8) :
    ByteArray.toList.loop bytes i before = before.reverse ++ bytes.data.toList.drop i := by
  induction i, before using ByteArray.toList.loop.induct bytes with
  | case1 i before more ih =>
    have lt : i < bytes.data.toList.length := more
    have here : bytes.get! i = bytes.data.toList[i] := getElem!_pos bytes.data i lt
    rw [ByteArray.toList.loop, if_pos more, ih, List.drop_eq_getElem_cons lt, here,
      List.reverse_cons, List.append_assoc]
    rfl
  | case2 i before past =>
    have ge : bytes.data.toList.length ≤ i := Nat.le_of_not_lt past
    rw [ByteArray.toList.loop, if_neg past, List.drop_eq_nil_of_le ge, List.append_nil]

/-- A text arrives as the bytes that encode its characters. -/
lemma toList_toUTF8 (text : String) : text.toUTF8.toList = encoded text.toList := by
  have same : text.toUTF8.data = (encoded text.toList).toArray := by
    have encodes : text.toUTF8 = (encoded text.toList).toByteArray := String.utf8Encode_toList.symm
    rw [encodes, List.data_toByteArray]
  rw [ByteArray.toList, toList_loop, same]
  rfl

/-! ## Lines -/

/-- The first line of bytes ends at the first line feed. -/
lemma byteLines_next (free : 10 ∉ bytes) (rest : List UInt8) :
    byteLines (bytes ++ 10 :: rest) = (bytes ++ [10]) :: byteLines rest := by
  induction bytes with
  | nil => rfl
  | cons b bytes ih =>
    obtain ⟨other, free⟩ := not_or.1 (List.mem_cons.not.1 free)
    rw [List.cons_append, byteLines, if_neg fun feed => other (eq_of_beq feed).symm, ih free]
    rfl

/-- Bytes without a line feed are one line. -/
lemma byteLines_last (free : 10 ∉ bytes) (any : bytes ≠ []) : byteLines bytes = [bytes] := by
  induction bytes with
  | nil => exact absurd rfl any
  | cons b bytes ih =>
    obtain ⟨other, free⟩ := not_or.1 (List.mem_cons.not.1 free)
    rw [byteLines, if_neg fun feed => other (eq_of_beq feed).symm]
    cases bytes with
    | nil => rfl
    | cons => rw [ih free (List.cons_ne_nil _ _)]

/-- What encodes characters is decoded to these. -/
lemma decodeLine_encoded (chars : List Char) :
    decodeLine (encoded chars) = some (String.ofList (dropEndWhile isLineEnd chars)) := by
  have same : ByteArray.mk (encoded chars).toArray = (String.ofList chars).toByteArray := by
    refine ByteArray.ext ?_
    rw [String.toByteArray_ofList, List.utf8Encode, List.data_toByteArray]
    rfl
  have decodes : String.fromUTF8? (String.ofList chars).toByteArray = some (String.ofList chars) :=
    dif_pos (String.ofList chars).isValidUTF8
  rw [decodeLine, same, decodes, Option.map_some, String.toList_ofList]
  rfl

/-- A line feed at the end is dropped with the other ends of lines. -/
lemma dropEndWhile_feed (chars : List Char) :
    dropEndWhile isLineEnd (chars ++ ['\n']) = dropEndWhile isLineEnd chars :=
  List.rdropWhile_concat_pos isLineEnd chars '\n' rfl

/-- The lines of a text are read one after the other. -/
lemma Lined.byteLines (h : Lined chars lines) :
    (byteLines (encoded chars)).map decodeLine = lines.map fun line => some (received line) := by
  induction h with
  | none => rfl
  | @last line any free =>
    have any : line.toList ≠ [] := mt String.toList_eq_nil_iff.1 any
    rw [byteLines_last (feed_not_mem_encoded free) (encoded_ne_nil any), List.map_singleton,
      decodeLine_encoded]
    rfl
  | @next line rest lines free _ ih =>
    have whole : encoded (line.toList ++ '\n' :: rest) =
        encoded line.toList ++ 10 :: encoded rest := List.flatMap_append
    have ended : encoded (line.toList ++ ['\n']) = encoded line.toList ++ [10] :=
      List.flatMap_append
    rw [whole, byteLines_next (feed_not_mem_encoded free), List.map_cons, ih, ← ended,
      decodeLine_encoded, dropEndWhile_feed]
    rfl

/-- The lines of a text are read from its bytes. -/
lemma Lined.inputLines {text : String} (h : Lined text.toList lines) :
    inputLines text.toUTF8 = lines.map fun line => some (received line) := by
  rw [Text.inputLines, toList_toUTF8, h.byteLines]

/-- Every text has lines. -/
lemma exists_lined (chars : List Char) : ∃ lines, Lined chars lines := by
  induction chars with
  | nil => exact ⟨[], .none⟩
  | cons c rest ih =>
    obtain ⟨lines, lined⟩ := ih
    by_cases feed : c = '\n'
    · subst feed
      exact ⟨"" :: lines, @Lined.next "" _ _ List.not_mem_nil lined⟩
    have new {line : List Char} (free : '\n' ∉ line) :
        '\n' ∉ (String.ofList (c :: line)).toList := by
      rw [String.toList_ofList]
      exact List.not_mem_cons_of_ne_of_not_mem (Ne.symm feed) free
    have any (line : List Char) : String.ofList (c :: line) ≠ "" := by
      rw [Ne, ← String.toList_inj, String.toList_ofList]
      exact List.cons_ne_nil _ _
    cases lined with
    | none =>
      rw [← String.toList_ofList (l := [c])]
      exact ⟨_, .last (any []) (new List.not_mem_nil)⟩
    | @last line _ free =>
      rw [← String.toList_ofList (l := c :: line.toList)]
      exact ⟨_, .last (any _) (new free)⟩
    | next free lined =>
      rw [← List.cons_append, ← String.toList_ofList (l := c :: _)]
      exact ⟨_, .next (new free) lined⟩

/-! ## Ends of lines -/

end Because.Text
