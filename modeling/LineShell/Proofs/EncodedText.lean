import LineShell.Text.Utf8

/-! The bytes of a text. Every character is a byte that starts it and bytes that go on with it, and
no byte is of both kinds, so the places between characters can be told from the bytes alone. -/
namespace LineShell.EncodedText
open Text
open String (utf8EncodeChar)

/-- A byte that goes on with a character begun before it. -/
def goesOn (b : UInt8) : Bool :=
  0x80 ≤ b.toNat && b.toNat ≤ 0xBF

/-- The bytes of characters one after the other. -/
def encodeChars (cs : List Char) : List UInt8 :=
  cs.flatMap utf8EncodeChar

private theorem toList_loop (bytes : ByteArray) (index : Nat) (rev : List UInt8) :
    ByteArray.toList.loop bytes index rev = rev.reverse ++ bytes.data.toList.drop index := by
  fun_induction ByteArray.toList.loop bytes index rev with
  | case1 index rev inside ih =>
    have bound : index < bytes.data.toList.length := inside
    have byte : bytes.get! index = bytes.data.toList[index] := getElem!_pos bytes.data index inside
    rw [ih, List.drop_eq_getElem_cons bound, byte, List.reverse_cons, List.append_assoc]
    rfl
  | case2 index rev outside =>
    have none : bytes.data.toList.length ≤ index := Nat.le_of_not_lt outside
    rw [List.drop_eq_nil_of_le none, List.append_nil]

theorem encode_eq (s : String) : Utf8.encode s = encodeChars s.toList := by
  have bytes : s.toByteArray = s.toList.utf8Encode := by
    rw [← String.toByteArray_ofList, String.ofList_toList]
  rw [Utf8.encode, String.toUTF8, bytes, ByteArray.toList, toList_loop, List.utf8Encode,
    List.toList_data_toByteArray]
  rfl

theorem encodeChars_append (cs ds : List Char) :
    encodeChars (cs ++ ds) = encodeChars cs ++ encodeChars ds :=
  List.flatMap_append

theorem encodeChars_cons (c : Char) (cs : List Char) :
    encodeChars (c :: cs) = utf8EncodeChar c ++ encodeChars cs :=
  List.flatMap_cons

/-- Bytes of a character after the first have the form of six more bits. -/
private theorem goesOn_bits (n : Nat) : goesOn (UInt8.ofNat (n % 64 + 128)) = true := by
  simp only [goesOn, UInt8.toNat_ofNat', Bool.and_eq_true, decide_eq_true_eq]
  omega

/-- A character is a byte that starts it and bytes that go on with it. -/
theorem exists_utf8EncodeChar (c : Char) : ∃ first others, utf8EncodeChar c = first :: others ∧
    goesOn first = false ∧ ∀ b ∈ others, goesOn b = true := by
  have starts (n : Nat) (high : n % 256 < 128 ∨ 192 ≤ n % 256) : goesOn (UInt8.ofNat n) = false := by
    simp only [goesOn, UInt8.toNat_ofNat', Bool.and_eq_false_iff, decide_eq_false_iff_not]
    omega
  have one (n : Nat) : ∀ b ∈ [UInt8.ofNat (n % 64 + 128)], goesOn b = true :=
    List.forall_mem_singleton.mpr (goesOn_bits n)
  rw [utf8EncodeChar]
  split
  · exact ⟨_, _, rfl, starts _ (by omega), nofun⟩
  split
  · exact ⟨_, _, rfl, starts _ (by omega), one _⟩
  split
  · refine ⟨_, _, rfl, starts _ (by omega), ?_⟩
    exact List.forall_mem_cons.mpr ⟨goesOn_bits _, one _⟩
  · refine ⟨_, _, rfl, starts _ (by omega), ?_⟩
    exact List.forall_mem_cons.mpr ⟨goesOn_bits _, List.forall_mem_cons.mpr ⟨goesOn_bits _, one _⟩⟩

/-- No encoded character is the beginning of another. -/
theorem utf8EncodeChar_append_inj {c d : Char} {after rest : List UInt8}
    (same : utf8EncodeChar c ++ after = utf8EncodeChar d ++ rest) : c = d ∧ after = rest := by
  have first (c : Char) (after : List UInt8) :
      (utf8EncodeChar c ++ after).toByteArray.utf8DecodeChar? 0 = some c := by
    rw [List.toByteArray_append]
    exact ByteArray.utf8DecodeChar?_utf8EncodeChar_append
  have equal : some c = some d := by rw [← first c after, same, first d rest]
  cases equal
  exact ⟨rfl, List.append_cancel_left same⟩

/-- A character of a single byte stands in no character but itself. -/
theorem eq_of_mem_utf8EncodeChar {b : UInt8} {c d : Char} (single : utf8EncodeChar c = [b])
    (member : b ∈ utf8EncodeChar d) : d = c := by
  obtain ⟨first, others, same, -, following⟩ := exists_utf8EncodeChar d
  obtain ⟨_, _, alone, starts, -⟩ := exists_utf8EncodeChar c
  cases single.symm.trans alone
  rw [same] at member
  rcases List.mem_cons.mp member with rfl | inside
  · have whole : utf8EncodeChar c ++ others = utf8EncodeChar d ++ [] := by
      rw [single, same, List.append_nil]
      rfl
    exact (utf8EncodeChar_append_inj whole).1.symm
  · have other := following b inside
    cases other.symm.trans starts

end LineShell.EncodedText
