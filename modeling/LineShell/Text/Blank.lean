/-! Blank characters separate words and are trimmed from the ends of a line. The class is
the Unicode property `White_Space`; separators of the information kind (U+001C to U+001F),
zero-width spaces and the byte order mark are not blank. -/
namespace LineShell.Text

/-- The `White_Space` property of the Unicode standard. -/
def isBlank (c : Char) : Bool :=
  let n := c.toNat
  (9 ≤ n && n ≤ 13) || n == 0x20 || n == 0x85 || n == 0xA0 || n == 0x1680 ||
    (0x2000 ≤ n && n ≤ 0x200A) || n == 0x2028 || n == 0x2029 || n == 0x202F ||
    n == 0x205F || n == 0x3000

/-- The characters without the longest run at their end that satisfies `drop`. -/
def dropEndWhile (drop : Char → Bool) (cs : List Char) : List Char :=
  (cs.reverse.dropWhile drop).reverse

/-- The characters without the blank ones at either end. -/
def trimChars (cs : List Char) : List Char :=
  dropEndWhile isBlank (cs.dropWhile isBlank)

/-- The text without the blank characters at either end. -/
def trim (s : String) : String :=
  String.ofList (trimChars s.toList)

private theorem mem_dropWhile {drop : Char → Bool} {c : Char} {cs : List Char}
    (kept : drop c = false) (member : c ∈ cs) : c ∈ cs.dropWhile drop := by
  rw [← List.takeWhile_append_dropWhile (p := drop) (l := cs)] at member
  rcases List.mem_append.mp member with run | rest
  · have dropped := List.all_eq_true.mp List.all_takeWhile c run
    cases kept.symm.trans dropped
  · exact rest

/-- A character that is not blank is not trimmed. -/
theorem mem_trim {c : Char} {s : String} (visible : isBlank c = false) (member : c ∈ s.toList) :
    c ∈ (trim s).toList := by
  rw [trim, String.toList_ofList, trimChars, dropEndWhile, List.mem_reverse]
  exact mem_dropWhile visible (List.mem_reverse.mpr (mem_dropWhile visible member))

/-- A line as read, without the line feeds and carriage returns at its end. -/
def stripLineEnd (s : String) : String :=
  String.ofList (dropEndWhile (fun c => c == '\n' || c == '\r') s.toList)

end LineShell.Text
