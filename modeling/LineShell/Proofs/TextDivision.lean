import LineShell.Proofs.EncodedText
import Mathlib.Data.Nat.Init

/-! Bytes divided into encoded characters and faults. The division is stated apart from the decoder,
by the encoding of characters alone: a fault stands where no character does, and reaches as far as
some character could still come of its bytes. Every byte sequence is divided in exactly one way, and
the decoder puts one replacement character for each fault of this division. -/
namespace LineShell.TextDivision
open Text Utf8 EncodedText
open String (utf8EncodeChar)

/-- The encoding of some character begins with these bytes, or is these bytes. -/
def Begins (bytes : List UInt8) : Prop :=
  ∃ c, bytes <+: utf8EncodeChar c

/-- A longest invalid part, with the bytes after it: no character stands at its place, and of its bytes
and the next one none can come. A single byte may begin no character by itself. -/
structure Fault (part after : List UInt8) : Prop where
  nonempty : part ≠ []
  invalid : ∀ c, ¬ utf8EncodeChar c <+: part ++ after
  begins : Begins part ∨ part.length = 1
  longest : ∀ b ∈ after.head?, ¬ Begins (part ++ [b])

/-- A part of a byte sequence. -/
inductive Part where
  | char (c : Char)
  | fault (bytes : List UInt8)

namespace Part

def bytes : Part → List UInt8
  | char c => utf8EncodeChar c
  | fault bytes => bytes

/-- The character that is read for a part. -/
def text : Part → Char
  | char c => c
  | fault _ => '\uFFFD'

end Part

/-- The parts of a byte sequence in order. -/
inductive Divided : List UInt8 → List Part → Prop where
  | nil : Divided [] []
  | char (c : Char) {after : List UInt8} {parts : List Part} (others : Divided after parts) :
      Divided (utf8EncodeChar c ++ after) (.char c :: parts)
  | fault {part after : List UInt8} {parts : List Part} (faulty : Fault part after)
      (others : Divided after parts) : Divided (part ++ after) (.fault part :: parts)

/-- Nothing is lost in a division, and nothing put in. -/
theorem Divided.flatMap_bytes {bytes : List UInt8} {parts : List Part} (divided : Divided bytes parts) :
    parts.flatMap Part.bytes = bytes := by
  induction divided with
  | nil => rfl
  | char c _ ih => rw [List.flatMap_cons, ih, Part.bytes]
  | fault _ _ ih => rw [List.flatMap_cons, ih, Part.bytes]

/-! ### At most one division -/

section Unique

variable {part other after rest : List UInt8} {parts others : List Part}

theorem Begins.of_prefix (begins : Begins other) (shorter : part <+: other) : Begins part := by
  obtain ⟨c, whole⟩ := begins
  exact ⟨c, shorter.trans whole⟩

/-- Of two faults at one place neither is longer. -/
private theorem Fault.not_longer {extra : List UInt8} {b : UInt8} (faulty : Fault part after)
    (longer : Fault (part ++ b :: extra) rest) (same : after = b :: extra ++ rest) : False := by
  have begins : Begins (part ++ b :: extra) := by
    refine longer.begins.resolve_right fun single => ?_
    have some := List.length_pos_iff.mpr faulty.nonempty
    rw [List.length_append, List.length_cons] at single
    omega
  refine faulty.longest b (by rw [same]; rfl) (begins.of_prefix ⟨extra, ?_⟩)
  rw [List.append_assoc]
  rfl

private theorem Fault.unique (faulty : Fault part after) (again : Fault other rest)
    (same : part ++ after = other ++ rest) : part = other ∧ after = rest := by
  rcases List.append_eq_append_iff.mp same with ⟨extra, rfl, left⟩ | ⟨extra, rfl, left⟩
  · cases extra with
    | nil => exact ⟨(List.append_nil part).symm, left⟩
    | cons b extra => exact (faulty.not_longer again left).elim
  · cases extra with
    | nil => exact ⟨List.append_nil other, left.symm⟩
    | cons b extra => exact (again.not_longer faulty left).elim

/-- No byte sequence is divided in two ways. -/
theorem Divided.unique {bytes : List UInt8} (divided : Divided bytes parts)
    (again : Divided bytes others) : parts = others := by
  induction divided generalizing others with
  | nil =>
    generalize empty : [] = bytes at again
    cases again with
    | nil => rfl
    | char c further => exact absurd (List.append_eq_nil_iff.mp empty.symm).1 String.utf8EncodeChar_ne_nil
    | fault faulty further => exact absurd (List.append_eq_nil_iff.mp empty.symm).1 faulty.nonempty
  | @char c after parts _ ih =>
    generalize same : utf8EncodeChar c ++ after = bytes at again
    cases again with
    | nil => exact absurd (List.append_eq_nil_iff.mp same).1 String.utf8EncodeChar_ne_nil
    | char d further =>
      obtain ⟨rfl, rfl⟩ := utf8EncodeChar_append_inj same
      rw [ih further]
    | fault faulty further => exact absurd ⟨after, same⟩ (faulty.invalid c)
  | @fault part after parts faulty _ ih =>
    generalize same : part ++ after = bytes at again
    cases again with
    | nil => exact absurd (List.append_eq_nil_iff.mp same).1 faulty.nonempty
    | char d further => exact absurd ⟨_, same.symm⟩ (faulty.invalid d)
    | fault other further =>
      obtain ⟨rfl, rfl⟩ := faulty.unique other same
      rw [ih further]

end Unique

/-! ### The characters that a character under way can become -/

/-- The bytes that complete a character under way, and the character they complete it to. -/
def Completes : Unfinished → List UInt8 → Char → Prop
  | _, [], _ => False
  | ⟨value, 0, low, high⟩, b :: rest, c =>
    (low ≤ b.toNat ∧ b.toNat ≤ high) ∧ rest = [] ∧ c = Char.ofNat (value * 64 + (b.toNat - 0x80))
  | ⟨value, missing + 1, low, high⟩, b :: rest, c =>
    (low ≤ b.toNat ∧ b.toNat ≤ high) ∧
      Completes ⟨value * 64 + (b.toNat - 0x80), missing, 0x80, 0xBF⟩ rest c

/-- A character under way can be completed: its next byte has a range, of bytes that go on. -/
structure Awaits (u : Unfinished) : Prop where
  low : 0x80 ≤ u.low
  ordered : u.low ≤ u.high
  high : u.high ≤ 0xBF

/-- What is under way ends as a fault after these bytes. -/
structure Stuck (u : Unfinished) (part after : List UInt8) : Prop where
  invalid : ∀ whole c, Completes u whole c → ¬ whole <+: part ++ after
  begins : ∃ whole c, Completes u whole c ∧ part <+: whole
  longest : ∀ b ∈ after.head?, ∀ whole c, Completes u whole c → ¬ part ++ [b] <+: whole

section Under

variable {u : Unfinished} {value missing low high : Nat} {b : UInt8}
  {rest part after whole : List UInt8} {c : Char}

theorem awaits_tail (value missing : Nat) : Awaits ⟨value, missing, 0x80, 0xBF⟩ where
  low := Nat.le_refl _
  ordered := by dsimp only; omega
  high := Nat.le_refl _

theorem exists_within (awaits : Awaits u) : ∃ b : UInt8, u.low ≤ b.toNat ∧ b.toNat ≤ u.high := by
  have ordered := awaits.ordered
  have small := awaits.high
  refine ⟨UInt8.ofNat u.low, ?_⟩
  rw [UInt8.toNat_ofNat']
  omega

theorem exists_completes (awaits : Awaits u) : ∃ whole c, Completes u whole c := by
  obtain ⟨value, missing, low, high⟩ := u
  induction missing generalizing value low high with
  | zero =>
    obtain ⟨b, within⟩ := exists_within awaits
    exact ⟨[b], _, within, rfl, rfl⟩
  | succ missing ih =>
    obtain ⟨b, within⟩ := exists_within awaits
    obtain ⟨rest, c, completes⟩ := ih _ _ _ (awaits_tail (value * 64 + (b.toNat - 0x80)) missing)
    exact ⟨b :: rest, c, within, completes⟩

/-- The next byte of a character under way lies in its range. -/
theorem Completes.within (completes : Completes u (b :: rest) c) :
    u.low ≤ b.toNat ∧ b.toNat ≤ u.high := by
  obtain ⟨value, missing, low, high⟩ := u
  cases missing with
  | zero => exact completes.1
  | succ missing => exact completes.1

/-- Without a next byte in its range a character under way is given up at once. -/
theorem stuck_here (awaits : Awaits u)
    (outside : ∀ b ∈ after.head?, ¬ (u.low ≤ b.toNat ∧ b.toNat ≤ u.high)) : Stuck u [] after where
  invalid := by
    rintro whole c completes ⟨rest, same⟩
    cases whole with
    | nil => exact completes
    | cons b whole =>
      rw [List.nil_append] at same
      exact outside b (by rw [← same]; rfl) completes.within
  begins := by
    obtain ⟨whole, c, completes⟩ := exists_completes awaits
    exact ⟨whole, c, completes, List.nil_prefix⟩
  longest := by
    rintro b next whole c completes ⟨rest, rfl⟩
    exact outside b next completes.within

/-- A byte in the range leaves what is missing after it to the others. -/
theorem Stuck.cons (within : low ≤ b.toNat ∧ b.toNat ≤ high)
    (stuck : Stuck ⟨value * 64 + (b.toNat - 0x80), missing, 0x80, 0xBF⟩ part after) :
    Stuck ⟨value, missing + 1, low, high⟩ (b :: part) after where
  invalid := by
    rintro whole c completes ⟨rest, same⟩
    cases whole with
    | nil => exact completes
    | cons d whole =>
      obtain ⟨rfl, left⟩ := List.cons.inj same
      exact stuck.invalid whole c completes.2 ⟨rest, left⟩
  begins := by
    obtain ⟨whole, c, completes, rest, same⟩ := stuck.begins
    exact ⟨b :: whole, c, ⟨within, completes⟩, rest, congrArg (b :: ·) same⟩
  longest := by
    rintro next first whole c completes ⟨rest, same⟩
    cases whole with
    | nil => exact completes
    | cons d whole =>
      obtain ⟨rfl, left⟩ := List.cons.inj same
      exact stuck.longest next first whole c completes.2 ⟨rest, left⟩

/-- A character under way is completed, or ends as a fault where it can no longer be. -/
theorem scalarsFrom_under (awaits : Awaits u) (bytes : List UInt8) :
    (∃ whole c after, bytes = whole ++ after ∧ Completes u whole c ∧
      scalarsFrom (some u) bytes = some c :: scalarsFrom none after) ∨
    ∃ part after, bytes = part ++ after ∧ Stuck u part after ∧
      scalarsFrom (some u) bytes = none :: scalarsFrom none after := by
  -- The character under way is general: with every byte that it takes it becomes another.
  induction bytes generalizing u with
  | nil => exact .inr ⟨[], [], rfl, stuck_here awaits nofun, rfl⟩
  | cons b rest ih =>
    obtain ⟨value, missing, low, high⟩ := u
    by_cases within : low ≤ b.toNat ∧ b.toNat ≤ high
    · cases missing with
      | zero =>
        refine .inl ⟨[b], _, rest, rfl, ⟨within, rfl, rfl⟩, ?_⟩
        simp [scalarsFrom, step, within]
      | succ missing =>
        have read : scalarsFrom (some ⟨value, missing + 1, low, high⟩) (b :: rest) =
            scalarsFrom (some ⟨value * 64 + (b.toNat - 0x80), missing, 0x80, 0xBF⟩) rest := by
          simp [scalarsFrom, step, within]
        rw [read]
        rcases ih (awaits_tail (value * 64 + (b.toNat - 0x80)) missing) with
          ⟨whole, c, after, rfl, completes, scalars⟩ | ⟨part, after, rfl, stuck, scalars⟩
        · exact .inl ⟨b :: whole, c, after, rfl, ⟨within, completes⟩, scalars⟩
        · exact .inr ⟨b :: part, after, rfl, stuck.cons within, scalars⟩
    · have outside : ∀ next ∈ (b :: rest).head?, ¬ (low ≤ next.toNat ∧ next.toNat ≤ high) := by
        rintro next ⟨⟩
        exact within
      refine .inr ⟨[], b :: rest, rfl, stuck_here awaits outside, ?_⟩
      simp [scalarsFrom, step, within]

end Under

/-! ### What the first byte of a character says -/

section First

variable {b : UInt8}

theorem lead_one (small : b.toNat < 0x80) : lead b = .complete (Char.ofNat b.toNat) := by
  grind [lead]

theorem lead_none (outside : 0x80 ≤ b.toNat ∧ b.toNat < 0xC2 ∨ 0xF5 ≤ b.toNat) :
    lead b = .fault := by
  grind [lead]

theorem lead_two (least : 0xC2 ≤ b.toNat) (below : b.toNat < 0xE0) :
    lead b = .unfinished ⟨b.toNat - 0xC0, 0, 0x80, 0xBF⟩ := by
  grind [lead]

theorem lead_three (least : 0xE0 ≤ b.toNat) (below : b.toNat < 0xF0) : ∃ low high,
    lead b = .unfinished ⟨b.toNat - 0xE0, 1, low, high⟩ ∧
      (b.toNat = 0xE0 ∧ low = 0xA0 ∧ high = 0xBF ∨ b.toNat = 0xED ∧ low = 0x80 ∧ high = 0x9F ∨
        b.toNat ≠ 0xE0 ∧ b.toNat ≠ 0xED ∧ low = 0x80 ∧ high = 0xBF) := by
  by_cases first : b.toNat = 0xE0
  · exact ⟨0xA0, 0xBF, by grind [lead], .inl ⟨first, rfl, rfl⟩⟩
  by_cases surrogate : b.toNat = 0xED
  · exact ⟨0x80, 0x9F, by grind [lead], .inr (.inl ⟨surrogate, rfl, rfl⟩)⟩
  · exact ⟨0x80, 0xBF, by grind [lead], .inr (.inr ⟨first, surrogate, rfl, rfl⟩)⟩

theorem lead_four (least : 0xF0 ≤ b.toNat) (below : b.toNat < 0xF5) : ∃ low high,
    lead b = .unfinished ⟨b.toNat - 0xF0, 2, low, high⟩ ∧
      (b.toNat = 0xF0 ∧ low = 0x90 ∧ high = 0xBF ∨ b.toNat = 0xF4 ∧ low = 0x80 ∧ high = 0x8F ∨
        b.toNat ≠ 0xF0 ∧ b.toNat ≠ 0xF4 ∧ low = 0x80 ∧ high = 0xBF) := by
  by_cases first : b.toNat = 0xF0
  · exact ⟨0x90, 0xBF, by grind [lead], .inl ⟨first, rfl, rfl⟩⟩
  by_cases last : b.toNat = 0xF4
  · exact ⟨0x80, 0x8F, by grind [lead], .inr (.inl ⟨last, rfl, rfl⟩)⟩
  · exact ⟨0x80, 0xBF, by grind [lead], .inr (.inr ⟨first, last, rfl, rfl⟩)⟩

end First

/-! ### Encoded characters in numbers -/

/-- The four forms of an encoded character. -/
inductive Form (c : Char) : List UInt8 → Prop where
  | one {b : UInt8} (range : c.toNat < 0x80) (first : b.toNat = c.toNat) : Form c [b]
  | two {b d : UInt8} (range : 0x80 ≤ c.toNat ∧ c.toNat < 0x800)
      (first : b.toNat = 0xC0 + c.toNat / 64) (second : d.toNat = 0x80 + c.toNat % 64) :
      Form c [b, d]
  | three {b d e : UInt8} (range : 0x800 ≤ c.toNat ∧ c.toNat < 0x10000)
      (first : b.toNat = 0xE0 + c.toNat / 4096) (second : d.toNat = 0x80 + c.toNat / 64 % 64)
      (third : e.toNat = 0x80 + c.toNat % 64) : Form c [b, d, e]
  | four {b d e f : UInt8} (range : 0x10000 ≤ c.toNat)
      (first : b.toNat = 0xF0 + c.toNat / 262144) (second : d.toNat = 0x80 + c.toNat / 4096 % 64)
      (third : e.toNat = 0x80 + c.toNat / 64 % 64) (fourth : f.toNat = 0x80 + c.toNat % 64) :
      Form c [b, d, e, f]

section Forms

variable {b : UInt8} {bytes whole : List UInt8} {c : Char}

/-- No character is a surrogate, and none is beyond the last code point. -/
theorem toNat_valid (c : Char) :
    c.toNat < 0xD800 ∨ 0xDFFF < c.toNat ∧ c.toNat < 0x110000 :=
  c.valid

theorem toNat_ofNat {n : Nat} (valid : n < 0xD800 ∨ 0xDFFF < n ∧ n < 0x110000) :
    (Char.ofNat n).toNat = n := by
  rw [Char.ofNat, dif_pos valid]
  rfl

private theorem form_utf8EncodeChar (c : Char) : Form c (utf8EncodeChar c) := by
  have valid := toNat_valid c
  have number : c.val.toNat = c.toNat := rfl
  have byte {n m : Nat} (same : n % 256 = m) : (UInt8.ofNat n).toNat = m := by
    rw [UInt8.toNat_ofNat', same]
  simp only [utf8EncodeChar, number]
  split
  · exact .one (by omega) (byte (by omega))
  split
  · exact .two (by omega) (byte (by omega)) (byte (by omega))
  split
  · exact .three (by omega) (byte (by omega)) (byte (by omega)) (byte (by omega))
  · exact .four (by omega) (byte (by omega)) (byte (by omega)) (byte (by omega)) (byte (by omega))

private theorem Form.unique {other : List UInt8} (form : Form c bytes) (again : Form c other) :
    bytes = other := by
  rw [← List.map_inj_right fun _ _ => UInt8.toNat_inj.mp]
  cases form <;> cases again <;> simp <;> omega

theorem form_iff : Form c bytes ↔ utf8EncodeChar c = bytes := by
  constructor
  · exact (form_utf8EncodeChar c).unique
  · rintro rfl
    exact form_utf8EncodeChar c

theorem completes_two (first : 0xC2 ≤ b.toNat ∧ b.toNat < 0xE0) :
    Completes ⟨b.toNat - 0xC0, 0, 0x80, 0xBF⟩ whole c ↔ Form c (b :: whole) := by
  constructor
  · intro completes
    cases whole with
    | nil => exact completes.elim
    | cons d whole =>
      obtain ⟨second, rfl, value⟩ := completes
      have number := congrArg Char.toNat value
      rw [toNat_ofNat (by omega)] at number
      exact .two (by omega) (by omega) (by omega)
  · intro form
    cases form with
    | one range numbers => omega
    | @two _ d range numbers second =>
      have value : c.toNat = (b.toNat - 0xC0) * 64 + (d.toNat - 0x80) := by omega
      refine ⟨by omega, rfl, ?_⟩
      exact (Char.ofNat_toNat c).symm.trans (congrArg Char.ofNat value)
    | three range numbers => omega
    | four range numbers => omega

theorem completes_three {low high : Nat} (first : 0xE0 ≤ b.toNat ∧ b.toNat < 0xF0)
    (bounds : b.toNat = 0xE0 ∧ low = 0xA0 ∧ high = 0xBF ∨ b.toNat = 0xED ∧ low = 0x80 ∧ high = 0x9F ∨
      b.toNat ≠ 0xE0 ∧ b.toNat ≠ 0xED ∧ low = 0x80 ∧ high = 0xBF) :
    Completes ⟨b.toNat - 0xE0, 1, low, high⟩ whole c ↔ Form c (b :: whole) := by
  constructor
  · intro completes
    cases whole with
    | nil => exact completes.elim
    | cons d whole =>
      obtain ⟨second, further⟩ := completes
      cases whole with
      | nil => exact further.elim
      | cons e whole =>
        obtain ⟨third, rfl, value⟩ := further
        have number := congrArg Char.toNat value
        rw [toNat_ofNat (by omega)] at number
        exact .three (by omega) (by omega) (by omega) (by omega)
  · intro form
    have valid := toNat_valid c
    cases form with
    | one range numbers => omega
    | two range numbers => omega
    | @three _ d e range numbers second third =>
      have value : c.toNat =
          ((b.toNat - 0xE0) * 64 + (d.toNat - 0x80)) * 64 + (e.toNat - 0x80) := by omega
      refine ⟨by omega, ?_⟩
      refine ⟨by omega, rfl, ?_⟩
      exact (Char.ofNat_toNat c).symm.trans (congrArg Char.ofNat value)
    | four range numbers => omega

theorem completes_four {low high : Nat} (first : 0xF0 ≤ b.toNat ∧ b.toNat < 0xF5)
    (bounds : b.toNat = 0xF0 ∧ low = 0x90 ∧ high = 0xBF ∨ b.toNat = 0xF4 ∧ low = 0x80 ∧ high = 0x8F ∨
      b.toNat ≠ 0xF0 ∧ b.toNat ≠ 0xF4 ∧ low = 0x80 ∧ high = 0xBF) :
    Completes ⟨b.toNat - 0xF0, 2, low, high⟩ whole c ↔ Form c (b :: whole) := by
  constructor
  · intro completes
    cases whole with
    | nil => exact completes.elim
    | cons d whole =>
      obtain ⟨second, further⟩ := completes
      cases whole with
      | nil => exact further.elim
      | cons e whole =>
        obtain ⟨third, further⟩ := further
        cases whole with
        | nil => exact further.elim
        | cons f whole =>
          obtain ⟨fourth, rfl, value⟩ := further
          have number := congrArg Char.toNat value
          rw [toNat_ofNat (by omega)] at number
          exact .four (by omega) (by omega) (by omega) (by omega) (by omega)
  · intro form
    have valid := toNat_valid c
    cases form with
    | one range numbers => omega
    | two range numbers => omega
    | three range numbers => omega
    | @four _ d e f range numbers second third fourth =>
      have value : c.toNat = (((b.toNat - 0xF0) * 64 + (d.toNat - 0x80)) * 64 +
          (e.toNat - 0x80)) * 64 + (f.toNat - 0x80) := by omega
      refine ⟨by omega, ?_⟩
      refine ⟨by omega, ?_⟩
      refine ⟨by omega, rfl, ?_⟩
      exact (Char.ofNat_toNat c).symm.trans (congrArg Char.ofNat value)

end Forms

/-- What a byte means at the start of a character, in terms of the encoding alone. -/
theorem lead_means (b : UInt8) :
    match lead b with
    | .complete c => Form c [b]
    | .unfinished u => Awaits u ∧ ∀ whole c, Completes u whole c ↔ Form c (b :: whole)
    | .fault => ∀ whole c, ¬ Form c (b :: whole) := by
  by_cases small : b.toNat < 0x80
  · rw [lead_one small]
    have number := toNat_ofNat (n := b.toNat) (by omega)
    exact .one (by omega) number.symm
  by_cases outside : 0x80 ≤ b.toNat ∧ b.toNat < 0xC2 ∨ 0xF5 ≤ b.toNat
  · rw [lead_none outside]
    intro whole c form
    have valid := toNat_valid c
    cases form with
    | one range first => omega
    | two range first => omega
    | three range first => omega
    | four range first => omega
  by_cases two : b.toNat < 0xE0
  · rw [lead_two (by omega) two]
    exact ⟨awaits_tail _ _, fun whole c => completes_two (by omega)⟩
  by_cases three : b.toNat < 0xF0
  · obtain ⟨low, high, lead, bounds⟩ := lead_three (b := b) (by omega) three
    rw [lead]
    exact ⟨by constructor <;> dsimp only <;> omega, fun whole c => completes_three (by omega) bounds⟩
  · obtain ⟨low, high, lead, bounds⟩ := lead_four (b := b) (by omega) (by omega)
    rw [lead]
    exact ⟨by constructor <;> dsimp only <;> omega, fun whole c => completes_four (by omega) bounds⟩

/-! ### The decoder reads the division -/

/-- What ends as a fault after its first byte is a fault with it. -/
theorem Stuck.fault {u : Unfinished} {b : UInt8} {part after : List UInt8} (stuck : Stuck u part after)
    (means : ∀ whole c, Completes u whole c ↔ Form c (b :: whole)) : Fault (b :: part) after where
  nonempty := List.cons_ne_nil b part
  invalid := by
    rintro c ⟨rest, same⟩
    cases encoded : utf8EncodeChar c with
    | nil => exact String.utf8EncodeChar_ne_nil encoded
    | cons d whole =>
      rw [encoded] at same
      obtain ⟨rfl, left⟩ := List.cons.inj same
      exact stuck.invalid whole c ((means whole c).mpr (form_iff.mpr encoded)) ⟨rest, left⟩
  begins := by
    obtain ⟨whole, c, completes, rest, same⟩ := stuck.begins
    refine .inl ⟨c, rest, ?_⟩
    rw [form_iff.mp ((means whole c).mp completes), List.cons_append, same]
  longest := by
    rintro next first ⟨c, rest, same⟩
    have encoded : utf8EncodeChar c = b :: (part ++ [next] ++ rest) := same.symm
    refine stuck.longest next first _ c ((means _ c).mpr (form_iff.mpr encoded)) ⟨rest, rfl⟩

/-- A byte that starts no character is a fault by itself. -/
theorem fault_single {b : UInt8} (after : List UInt8) (none : ∀ whole c, ¬ Form c (b :: whole)) :
    Fault [b] after where
  nonempty := List.cons_ne_nil b []
  invalid := by
    rintro c ⟨rest, same⟩
    cases encoded : utf8EncodeChar c with
    | nil => exact String.utf8EncodeChar_ne_nil encoded
    | cons d whole =>
      rw [encoded] at same
      obtain ⟨rfl, -⟩ := List.cons.inj same
      exact none whole c (form_iff.mpr encoded)
  begins := .inr rfl
  longest := by
    rintro next - ⟨c, rest, same⟩
    exact none _ c (form_iff.mpr same.symm)

/-- The decoder reads one part of what is left, and goes on after it. -/
private theorem reads_part (b : UInt8) (rest : List UInt8) : ∃ part after,
    after.length ≤ rest.length ∧
    (∀ parts, Divided after parts → Divided (b :: rest) (part :: parts)) ∧
    (scalars (b :: rest)).map (·.getD '\uFFFD') =
      Part.text part :: (scalars after).map (·.getD '\uFFFD') := by
  have means := lead_means b
  cases first : lead b with
  | complete c =>
    rw [first] at means
    refine ⟨.char c, rest, Nat.le_refl _, fun parts divided => ?_, ?_⟩
    · have whole := Divided.char c divided
      rwa [form_iff.mp means] at whole
    · simp [scalars, scalarsFrom, step, begin, first, Part.text]
  | fault =>
    rw [first] at means
    refine ⟨.fault [b], rest, Nat.le_refl _, fun parts => .fault (fault_single rest means), ?_⟩
    simp [scalars, scalarsFrom, step, begin, first, Part.text]
  | unfinished u =>
    rw [first] at means
    obtain ⟨awaits, completes_iff⟩ := means
    have begun : scalars (b :: rest) = scalarsFrom (some u) rest := by
      simp [scalars, scalarsFrom, step, begin, first]
    rw [begun]
    rcases scalarsFrom_under awaits rest with
      ⟨whole, c, after, rfl, completes, ends⟩ | ⟨part, after, rfl, stuck, ends⟩
    · refine ⟨.char c, after, List.length_append ▸ Nat.le_add_left .., fun parts divided => ?_, ?_⟩
      · have whole := Divided.char c divided
        rwa [form_iff.mp ((completes_iff _ c).mp completes)] at whole
      · rw [ends]
        rfl
    · refine ⟨.fault (b :: part), after, List.length_append ▸ Nat.le_add_left .., fun parts => ?_, ?_⟩
      · exact .fault (stuck.fault completes_iff)
      · rw [ends]
        rfl

/-- The decoder's answer is read off a division of the bytes. -/
theorem exists_divided (bytes : List UInt8) : ∃ parts, Divided bytes parts ∧
    decodeLossy bytes = String.ofList (parts.map Part.text) := by
  suffices found : ∃ parts, Divided bytes parts ∧
      (scalars bytes).map (·.getD '\uFFFD') = parts.map Part.text by
    obtain ⟨parts, divided, read⟩ := found
    exact ⟨parts, divided, congrArg String.ofList read⟩
  -- A part can be of several bytes, so the induction is on their number.
  induction size : bytes.length using Nat.strong_induction_on generalizing bytes with
  | _ count ih =>
    cases bytes with
    | nil => exact ⟨[], .nil, rfl⟩
    | cons b rest =>
      obtain ⟨part, after, shorter, divides, reads⟩ := reads_part b rest
      have less : after.length < count := by
        rw [← size, List.length_cons]
        omega
      obtain ⟨parts, divided, read⟩ := ih after.length less after rfl
      refine ⟨part :: parts, divides parts divided, ?_⟩
      rw [reads, read, List.map_cons]

/-- The text of bytes is that of their only division. -/
theorem decodeLossy_of_divided {bytes : List UInt8} {parts : List Part}
    (divided : Divided bytes parts) : decodeLossy bytes = String.ofList (parts.map Part.text) := by
  obtain ⟨others, again, read⟩ := exists_divided bytes
  rw [divided.unique again]
  exact read

end LineShell.TextDivision
