import LineShell.IoFault

/-! A source of lines: bytes that arrive in chunks, and after them the end or a fault. A line
ends with its line feed, whatever chunks it is spread over. -/
namespace LineShell

/-- Bytes still to be read. -/
structure Source where
  chunks : List (List UInt8)
  /-- What happens after the bytes instead of the end. -/
  fault : Option IoFault := none

namespace Source

/-- The number of bytes and of chunks still to be read. -/
def size (source : Source) : Nat :=
  source.chunks.flatten.length + source.chunks.length

/-- The line feed. -/
def lineFeed : UInt8 := 10

/-- The bytes up to and with the first line feed, and the bytes after it. -/
def cutLine? : List UInt8 → Option (List UInt8 × List UInt8)
  | [] => none
  | b :: rest =>
    if b == lineFeed then some ([b], rest)
    else (cutLine? rest).map fun (line, after) => (b :: line, after)

/-- A line and what follows it are the bytes they were cut from, and a line has at least its end. -/
theorem cutLine?_eq_append {bytes line after : List UInt8}
    (h : cutLine? bytes = some (line, after)) : bytes = line ++ after ∧ line ≠ [] := by
  induction bytes generalizing line after with
  | nil => simp [cutLine?] at h
  | cons b rest ih =>
    unfold cutLine? at h
    split at h
    · simp only [Option.some.injEq, Prod.mk.injEq] at h
      simp [← h.1, ← h.2]
    · simp only [Option.map_eq_some_iff] at h
      obtain ⟨⟨l, a⟩, found, eq⟩ := h
      simp only [Prod.mk.injEq] at eq
      simp [← eq.1, ← eq.2, ← (ih found).1]

/-- A line under way is completed from the chunks. The end completes it as it is; a fault loses
it. -/
def readLineFrom (fault : Option IoFault) : List UInt8 → List (List UInt8) →
    Except IoFault (List UInt8 × List (List UInt8))
  | before, [] =>
    match fault with
    | none => .ok (before, [])
    | some e => .error e
  | before, chunk :: rest =>
    match cutLine? chunk with
    | some (line, after) => .ok (before ++ line, after :: rest)
    | none => readLineFrom fault (before ++ chunk) rest

/-- The next line with its line feed, and the source after it. The line is empty at the end. -/
def readLine (source : Source) : Except IoFault (List UInt8 × Source) :=
  (readLineFrom source.fault [] source.chunks).map fun (line, rest) =>
    (line, { source with chunks := rest })

/-- Reading a line loses no byte and leaves no more chunks than there were. -/
theorem readLineFrom_size {fault : Option IoFault} {before line : List UInt8}
    {chunks rest : List (List UInt8)} (h : readLineFrom fault before chunks = .ok (line, rest)) :
    line.length + rest.flatten.length = before.length + chunks.flatten.length ∧
      rest.length ≤ chunks.length := by
  induction chunks generalizing before with
  | nil =>
    cases fault with
    | none =>
      simp only [readLineFrom, Except.ok.injEq, Prod.mk.injEq] at h
      simp [← h.1, ← h.2]
    | some e => simp [readLineFrom] at h
  | cons chunk later ih =>
    unfold readLineFrom at h
    split at h
    · rename_i l after found
      simp only [Except.ok.injEq, Prod.mk.injEq] at h
      have := (cutLine?_eq_append found).1
      simp [← h.1, ← h.2, this]
      omega
    · have := ih h
      simp only [List.length_append, List.flatten_cons, List.length_cons] at this ⊢
      omega

/-- A line that is not empty leaves less to be read. -/
theorem readLine_size {source after : Source} {line : List UInt8}
    (h : source.readLine = .ok (line, after)) (nonempty : line ≠ []) :
    after.size < source.size := by
  unfold readLine at h
  cases read : readLineFrom source.fault [] source.chunks with
  | error e => simp [read, Except.map] at h
  | ok result =>
    obtain ⟨l, rest⟩ := result
    simp only [read, Except.map, Except.ok.injEq, Prod.mk.injEq] at h
    have sizes := readLineFrom_size read
    have : 0 < line.length := List.length_pos_iff.mpr nonempty
    simp only [← h.2, size]
    simp only [h.1, List.length_nil] at sizes
    omega

end Source

end LineShell
