import LineShell.Limits
import LineShell.Proofs.EncodedText
import Mathlib.Data.String.Basic

/-! The beginning of a line that is kept when the line is cut. It is the longest one of whole
characters that takes no more bytes than allowed. A search through the bytes of the line, backwards
from the last byte allowed to a place between characters, comes to the same beginning. -/
namespace LineShell.LineBeginnings
open Text EncodedText
open String (utf8Len utf8Len_cons utf8Len_append utf8Len_toList utf8EncodeChar utf8ByteSize_ofList)

/-! ### Whole characters -/

section Characters

variable {room : Nat} {cs front back : List Char}

theorem takeBytes_of_fits (fits : utf8Len cs ≤ room) : takeBytes room cs = cs := by
  induction cs generalizing room with
  | nil => rfl
  | cons c rest ih =>
    rw [utf8Len_cons] at fits
    have first : c.utf8Size ≤ room := by omega
    rw [takeBytes, if_pos first, ih (by omega)]

/-- A text that fits is followed by what fits beside it. -/
theorem takeBytes_append (fits : utf8Len front ≤ room) :
    takeBytes room (front ++ back) = front ++ takeBytes (room - utf8Len front) back := by
  induction front generalizing room with
  | nil => rfl
  | cons c rest ih =>
    rw [utf8Len_cons] at fits ⊢
    have first : c.utf8Size ≤ room := by omega
    rw [List.cons_append, takeBytes, if_pos first, ih (by omega), List.cons_append]
    congr 3
    omega

/-- What follows a text that does not fit is dropped with the end of that text. -/
theorem takeBytes_append_of_excess (excess : room < utf8Len front) :
    takeBytes room (front ++ back) = takeBytes room front := by
  induction front generalizing room with
  | nil => cases excess
  | cons c rest ih =>
    rw [utf8Len_cons] at excess
    rw [List.cons_append, takeBytes, takeBytes]
    by_cases first : c.utf8Size ≤ room
    · rw [if_pos first, if_pos first, ih (by omega)]
    · rw [if_neg first, if_neg first]

theorem takeBytes_zero (cs : List Char) : takeBytes 0 cs = [] := by
  cases cs with
  | nil => rfl
  | cons c rest =>
    have size := c.utf8Size_pos
    rw [takeBytes, if_neg (by omega)]

/-- What follows a text that takes all bytes allowed is dropped. -/
theorem takeBytes_append_of_full (full : room ≤ utf8Len front) :
    takeBytes room (front ++ back) = takeBytes room front := by
  rcases Nat.lt_or_eq_of_le full with excess | rfl
  · exact takeBytes_append_of_excess excess
  · rw [takeBytes_append (Nat.le_refl _), Nat.sub_self, takeBytes_zero, List.append_nil,
      takeBytes_of_fits (Nat.le_refl _)]

theorem exists_takeBytes (room : Nat) (cs : List Char) : ∃ rest, cs = takeBytes room cs ++ rest := by
  induction cs generalizing room with
  | nil => exact ⟨[], rfl⟩
  | cons c cs ih =>
    rw [takeBytes]
    split
    · obtain ⟨rest, same⟩ := ih (room - c.utf8Size)
      exact ⟨rest, congrArg (c :: ·) same⟩
    · exact ⟨c :: cs, rfl⟩

theorem mem_of_mem_takeBytes {c : Char} (member : c ∈ takeBytes room cs) : c ∈ cs := by
  obtain ⟨rest, same⟩ := exists_takeBytes room cs
  rw [same]
  exact List.mem_append_left rest member

theorem utf8Len_takeBytes_le (room : Nat) (cs : List Char) : utf8Len (takeBytes room cs) ≤ room := by
  induction cs generalizing room with
  | nil => exact Nat.zero_le room
  | cons c cs ih =>
    rw [takeBytes]
    split
    · rename_i first
      have others := ih (room - c.utf8Size)
      rw [utf8Len_cons]
      omega
    · exact Nat.zero_le room

/-- A cut leaves less than one character of room. -/
theorem le_utf8Len_takeBytes (excess : room < utf8Len cs) :
    room ≤ utf8Len (takeBytes room cs) + 3 := by
  induction cs generalizing room with
  | nil => cases excess
  | cons c cs ih =>
    have size := c.utf8Size_le_four
    rw [utf8Len_cons] at excess
    rw [takeBytes]
    split
    · rename_i first
      have beyond : room - c.utf8Size < utf8Len cs := by omega
      have others := ih beyond
      rw [utf8Len_cons]
      omega
    · omega

theorem takeBytes_takeBytes (room other : Nat) (cs : List Char) :
    takeBytes other (takeBytes room cs) = takeBytes (min room other) cs := by
  induction cs generalizing room other with
  | nil => rfl
  | cons c cs ih =>
    rw [takeBytes, takeBytes]
    by_cases first : c.utf8Size ≤ room
    · rw [if_pos first, takeBytes]
      by_cases second : c.utf8Size ≤ other
      · rw [if_pos second, if_pos (Nat.le_min.mpr ⟨first, second⟩), ih, Nat.sub_min_sub_right]
      · rw [if_neg second, if_neg fun both => second (Nat.le_min.mp both).2]
    · rw [if_neg first, if_neg fun both => first (Nat.le_min.mp both).1]
      rfl

end Characters

/-! ### Bytes -/

/-- Whether an offset into the bytes of a text is a place between characters: the start, the end, or
the place before a byte that starts a character. -/
def isBoundary (bytes : List UInt8) (offset : Nat) : Bool :=
  offset == 0 ||
    match bytes[offset]? with
    | some b => !goesOn b
    | none => offset == bytes.length

/-- The last place between characters up to an offset, searched for one byte after the other. A
search that came to the start without one would go below it. -/
def lastBoundary? (bytes : List UInt8) : Nat → Option Nat
  | 0 => if isBoundary bytes 0 then some 0 else none
  | below + 1 =>
    if isBoundary bytes (below + 1) then some (below + 1) else lastBoundary? bytes below

/-- The bytes up to the last place between characters that the bound allows. -/
def cutBytes? (bytes : List UInt8) (maxBytes : Nat) : Option (List UInt8) :=
  if bytes.length ≤ maxBytes then some bytes
  else (lastBoundary? bytes maxBytes).map bytes.take

section Bytes

variable {bytes : List UInt8} {cs : List Char} {offset stop : Nat}

theorem length_encodeChars (cs : List Char) : (encodeChars cs).length = utf8Len cs := by
  induction cs with
  | nil => rfl
  | cons c cs ih =>
    rw [encodeChars_cons, List.length_append, ih, String.length_utf8EncodeChar, utf8Len_cons,
      Nat.add_comm]

theorem isBoundary_prefix (front back : List Char) :
    isBoundary (encodeChars (front ++ back)) (utf8Len front) = true := by
  rw [isBoundary, encodeChars_append, ← length_encodeChars, List.getElem?_append_right (Nat.le_refl _),
    Nat.sub_self]
  cases back with
  | nil => simp [encodeChars]
  | cons c back =>
    obtain ⟨first, others, same, starts, -⟩ := exists_utf8EncodeChar c
    simp [encodeChars_cons, same, starts]

/-- A byte that starts a character stands after whole characters. -/
private theorem exists_prefix_of_start {b : UInt8} (byte : (encodeChars cs)[offset]? = some b)
    (starts : goesOn b = false) : ∃ front back, cs = front ++ back ∧ utf8Len front = offset := by
  induction cs generalizing offset with
  | nil => cases byte
  | cons c cs ih =>
    cases offset with
    | zero => exact ⟨[], c :: cs, rfl, rfl⟩
    | succ below =>
      rw [encodeChars_cons] at byte
      by_cases inside : below + 1 < (utf8EncodeChar c).length
      · obtain ⟨first, others, same, -, following⟩ := exists_utf8EncodeChar c
        rw [List.getElem?_append_left inside, same, List.getElem?_cons_succ] at byte
        have other := following b (List.mem_of_getElem? byte)
        rw [starts] at other
        contradiction
      · rw [List.getElem?_append_right (Nat.le_of_not_lt inside)] at byte
        obtain ⟨front, back, rfl, length⟩ := ih byte
        refine ⟨c :: front, back, rfl, ?_⟩
        rw [String.length_utf8EncodeChar] at inside length
        rw [utf8Len_cons]
        omega

/-- The places between characters are the ends of beginnings of the text. -/
theorem isBoundary_iff : isBoundary (encodeChars cs) offset = true ↔
    ∃ front back, cs = front ++ back ∧ utf8Len front = offset := by
  constructor
  · intro boundary
    rw [isBoundary, Bool.or_eq_true, beq_iff_eq] at boundary
    rcases boundary with rfl | boundary
    · exact ⟨[], cs, rfl, rfl⟩
    cases byte : (encodeChars cs)[offset]? with
    | some b =>
      rw [byte, Bool.not_eq_true'] at boundary
      exact exists_prefix_of_start byte boundary
    | none =>
      rw [byte, beq_iff_eq, length_encodeChars] at boundary
      exact ⟨cs, [], (List.append_nil cs).symm, boundary.symm⟩
  · rintro ⟨front, back, rfl, rfl⟩
    exact isBoundary_prefix front back

/-- The search stops at the first place between characters that it comes to. -/
theorem lastBoundary?_eq (within : stop ≤ offset) (boundary : isBoundary bytes stop = true)
    (last : ∀ other, stop < other → other ≤ offset → isBoundary bytes other = false) :
    lastBoundary? bytes offset = some stop := by
  induction offset with
  | zero =>
    obtain rfl : stop = 0 := Nat.le_zero.mp within
    rw [lastBoundary?, if_pos boundary]
  | succ below ih =>
    rw [lastBoundary?]
    by_cases here : stop = below + 1
    · rw [← here, if_pos boundary]
    · have passed : isBoundary bytes (below + 1) = false := last _ (by omega) (Nat.le_refl _)
      rw [passed]
      exact ih (by omega) fun other after before => last other after (Nat.le_succ_of_le before)

/-- The search backwards ends where the longest beginning of whole characters does. -/
theorem lastBoundary?_encodeChars (room : Nat) (cs : List Char) (excess : room < utf8Len cs) :
    lastBoundary? (encodeChars cs) room = some (utf8Len (takeBytes room cs)) := by
  apply lastBoundary?_eq (utf8Len_takeBytes_le room cs)
  · obtain ⟨rest, same⟩ := exists_takeBytes room cs
    exact isBoundary_iff.mpr ⟨_, rest, same, rfl⟩
  · -- A place beyond it would be the end of a beginning that fits, and that is longer.
    intro other after before
    rw [Bool.eq_false_iff]
    intro boundary
    obtain ⟨front, back, rfl, rfl⟩ := isBoundary_iff.mp boundary
    rw [takeBytes_append before, utf8Len_append] at after
    omega

theorem cutBytes?_encodeChars (room : Nat) (cs : List Char) :
    cutBytes? (encodeChars cs) room = some (encodeChars (takeBytes room cs)) := by
  rw [cutBytes?, length_encodeChars]
  by_cases fits : utf8Len cs ≤ room
  · rw [if_pos fits, takeBytes_of_fits fits]
  · obtain ⟨rest, same⟩ := exists_takeBytes room cs
    have bytes : encodeChars cs = encodeChars (takeBytes room cs) ++ encodeChars rest := by
      rw [← encodeChars_append, ← same]
    rw [if_neg fits, lastBoundary?_encodeChars room cs (Nat.lt_of_not_le fits), Option.map_some,
      bytes, ← length_encodeChars, List.take_left]

end Bytes

/-! ### Lines -/

section Lines

variable {line front : String} {maxBytes : Nat}

theorem toList_cutLine (line : String) (maxBytes : Nat) :
    (cutLine line maxBytes).toList = takeBytes maxBytes line.toList := by
  rw [cutLine, String.toList_ofList]

theorem utf8ByteSize_cutLine (line : String) (maxBytes : Nat) :
    (cutLine line maxBytes).utf8ByteSize = utf8Len (takeBytes maxBytes line.toList) := by
  rw [cutLine, utf8ByteSize_ofList]

/-- Every beginning that fits is a beginning of what is kept. -/
theorem exists_cutLine_append (rest : String) (fits : front.utf8ByteSize ≤ maxBytes) :
    ∃ more, cutLine (front ++ rest) maxBytes = front ++ more := by
  refine ⟨cutLine rest (maxBytes - front.utf8ByteSize), String.toList_injective ?_⟩
  rw [← utf8Len_toList] at fits ⊢
  rw [toList_cutLine, String.toList_append, takeBytes_append fits, String.toList_append,
    toList_cutLine]

theorem cutLine_of_fits (fits : line.utf8ByteSize ≤ maxBytes) : cutLine line maxBytes = line := by
  rw [← utf8Len_toList] at fits
  rw [cutLine, takeBytes_of_fits fits, String.ofList_toList]

end Lines

/-- Cutting a line keeps its longest beginning of whole characters that takes at most the bytes
allowed. The search backwards through its bytes stops at the end of this beginning and never goes below
the start of the line. So a line that fits is kept, and of a longer one all bytes allowed are kept but
for three at most. Cutting twice is cutting once to the smaller bound, and what stands beyond the
bytes allowed makes no difference. -/
theorem cut_keeps_longest_beginning (line : String) (maxBytes : Nat) :
    cutBytes? (Utf8.encode line) maxBytes = some (Utf8.encode (cutLine line maxBytes)) ∧
    (∃ rest, line = cutLine line maxBytes ++ rest) ∧
    (cutLine line maxBytes).utf8ByteSize ≤ maxBytes ∧
    (∀ front rest, line = front ++ rest → front.utf8ByteSize ≤ maxBytes →
      ∃ more, cutLine line maxBytes = front ++ more) ∧
    (line.utf8ByteSize ≤ maxBytes → cutLine line maxBytes = line) ∧
    (maxBytes < line.utf8ByteSize → maxBytes ≤ (cutLine line maxBytes).utf8ByteSize + 3) ∧
    (∀ other, cutLine (cutLine line maxBytes) other = cutLine line (min maxBytes other)) ∧
    ∀ front rest other : String, maxBytes ≤ front.utf8ByteSize →
      cutLine (front ++ rest) maxBytes = cutLine (front ++ other) maxBytes := by
  refine ⟨?search, ?beginning, ?bounded, ?longest, cutLine_of_fits, ?long, ?twice, ?beyond⟩
  case search =>
    rw [encode_eq, encode_eq, toList_cutLine]
    exact cutBytes?_encodeChars maxBytes line.toList
  case beginning =>
    obtain ⟨rest, same⟩ := exists_takeBytes maxBytes line.toList
    refine ⟨String.ofList rest, String.toList_injective ?_⟩
    rw [String.toList_append, toList_cutLine, String.toList_ofList]
    exact same
  case bounded =>
    rw [utf8ByteSize_cutLine]
    exact utf8Len_takeBytes_le maxBytes line.toList
  case longest =>
    rintro front rest rfl fits
    exact exists_cutLine_append rest fits
  case long =>
    intro excess
    rw [← utf8Len_toList] at excess
    rw [utf8ByteSize_cutLine]
    exact le_utf8Len_takeBytes excess
  case twice =>
    intro other
    apply String.toList_injective
    rw [toList_cutLine, toList_cutLine, toList_cutLine, takeBytes_takeBytes]
  case beyond =>
    intro front rest other full
    rw [← utf8Len_toList] at full
    apply String.toList_injective
    rw [toList_cutLine, toList_cutLine, String.toList_append, String.toList_append,
      takeBytes_append_of_full full, takeBytes_append_of_full full]

/-- A character of four bytes after one of two: a bound of five bytes falls before its last byte, and
three of them are not used. -/
theorem cut_keeps_longest_beginning_short :
    cutBytes? (Utf8.encode "é😀x") 5 = some [0xC3, 0xA9] ∧
    (∃ more, cutLine "é😀x" 5 = "é" ++ more) ∧
    5 ≤ (cutLine "é😀x" 5).utf8ByteSize + 3 ∧
    cutLine (cutLine "é😀x" 5) 1 = "" ∧
    cutLine ("é😀" ++ "x") 5 = cutLine ("é😀" ++ "yz") 5 := by
  obtain ⟨search, -, -, longest, -, long, twice, beyond⟩ := cut_keeps_longest_beginning "é😀x" 5
  refine ⟨?_, longest "é" "😀x" (by decide) (by decide), long (by decide), ?_, ?_⟩
  · rw [search, encode_eq]
    decide
  · rw [twice 1]
    decide
  · exact beyond "é😀" "x" "yz" (by decide)

end LineShell.LineBeginnings
