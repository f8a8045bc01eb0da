import Mathlib.Computability.RegularExpressions
import LineShell.AliasTable

/-! The table that a sequence of definitions leaves, some of them refused. Which are refused depends
on the form of the name and on the names that are there. The others alone make the table: a name
stands for the command it was given last, and the names stand in the order in which they were first
given one. -/
namespace LineShell.AliasDefinitions

/-- A name and the command it is to stand for. -/
structure Definition where
  name : String
  command : String
  deriving DecidableEq, Repr

/-- The characters from one to another. -/
def fromTo (first last : Char) : List Char :=
  (List.range' first.toNat (last.toNat + 1 - first.toNat)).map Char.ofNat

/-- One character out of these. -/
def oneOf (cs : List Char) : RegularExpression Char :=
  (cs.map RegularExpression.char).sum

def letters : List Char :=
  fromTo 'A' 'Z' ++ fromTo 'a' 'z'

/-- The form of a name: a letter or an underscore, and any number of letters, digits, underscores,
points and hyphens. -/
def namePattern : RegularExpression Char :=
  oneOf (letters ++ ['_']) * (oneOf (letters ++ fromTo '0' '9' ++ ['_', '.', '-'])).star

/-- The name as a whole has that form. -/
def WellNamed (name : String) : Prop :=
  name.toList ∈ namePattern.matches'

/-- The names of a table in their order. -/
def names (table : AliasTable) : List String :=
  table.entries.map Prod.fst

/-- A table within its bounds. -/
structure WellFormed (table : AliasTable) : Prop where
  few : (names table).length ≤ 50
  distinct : (names table).Nodup
  wellNamed : ∀ name ∈ names table, WellNamed name

/-- The table after a definition, which is as it was if the definition is refused. -/
def define (table : AliasTable) (definition : Definition) : AliasTable :=
  match table.insert definition.name definition.command with
  | .ok after => after
  | .error _ => table

/-- The table that definitions one after another make of an empty one. -/
def defineAll (definitions : List Definition) : AliasTable :=
  definitions.foldl define {}

/-- Those of the definitions that are not refused when they are made one after another. -/
def accepted : AliasTable → List Definition → List Definition
  | _, [] => []
  | table, definition :: rest =>
    if (table.insert definition.name definition.command).isOk then
      definition :: accepted (define table definition) rest
    else accepted (define table definition) rest

/-- The command of the last of the definitions that are for the name. -/
def lastCommand? (definitions : List Definition) (name : String) : Option String :=
  (definitions.filter (·.name == name)).getLast?.map Definition.command

/-! ### The form of a name -/

section Names

variable {c : Char} {cs text : List Char}

private theorem toNat_ofNat {n : Nat} (small : n < 0xD800) : (Char.ofNat n).toNat = n := by
  have valid : n.isValidChar := .inl small
  rw [Char.ofNat, dif_pos valid]
  rfl

theorem mem_fromTo {first last : Char} (small : last.toNat < 0xD800) :
    c ∈ fromTo first last ↔ first ≤ c ∧ c ≤ last := by
  rw [fromTo, List.mem_map]
  constructor
  · rintro ⟨n, inside, rfl⟩
    have bounds := List.mem_range'_1.mp inside
    have same : (Char.ofNat n).toNat = n := toNat_ofNat (by omega)
    change first.toNat ≤ (Char.ofNat n).toNat ∧ (Char.ofNat n).toNat ≤ last.toNat
    omega
  · rintro ⟨above, below⟩
    have above : first.toNat ≤ c.toNat := above
    have below : c.toNat ≤ last.toNat := below
    exact ⟨c.toNat, List.mem_range'_1.mpr (by omega), Char.ofNat_toNat c⟩

theorem mem_letters : c ∈ letters ↔ c.isAlpha = true := by
  have ranges :
      c.isAlpha = (decide ('A' ≤ c ∧ c ≤ 'Z') || (decide ('a' ≤ c) && decide (c ≤ 'z'))) := rfl
  rw [letters, List.mem_append, mem_fromTo (by decide), mem_fromTo (by decide), ranges]
  simp

theorem mem_digits : c ∈ fromTo '0' '9' ↔ c.isDigit = true := by
  rw [mem_fromTo (by decide)]
  simp [Char.isDigit, Char.le_def]

theorem mem_oneOf : text ∈ (oneOf cs).matches' ↔ ∃ c ∈ cs, text = [c] := by
  induction cs with
  | nil => simp [oneOf]
  | cons c cs ih =>
    have split : (oneOf (c :: cs)).matches' = {[c]} + (oneOf cs).matches' := by
      simp [oneOf]
    have single : text ∈ ({[c]} : Language Char) ↔ text = [c] := Iff.rfl
    rw [split, Language.mem_add, ih, single, List.exists_mem_cons_iff]

theorem mem_star_oneOf : text ∈ (oneOf cs).star.matches' ↔ ∀ c ∈ text, c ∈ cs := by
  rw [RegularExpression.matches'_star, Language.mem_kstar]
  constructor
  · rintro ⟨pieces, rfl, each⟩ c inside
    obtain ⟨piece, member, here⟩ := List.mem_flatten.mp inside
    obtain ⟨d, allowed, rfl⟩ := mem_oneOf.mp (each piece member)
    rwa [List.mem_singleton.mp here]
  · intro all
    refine ⟨text.map ([·]), ?_, ?_⟩
    · exact (List.flatMap_singleton' text).symm
    · intro piece member
      obtain ⟨c, inside, rfl⟩ := List.mem_map.mp member
      exact mem_oneOf.mpr ⟨c, all c inside, rfl⟩

/-- The names that can be defined are those of the form. -/
theorem isName_iff (name : String) : AliasTable.isName name = true ↔ WellNamed name := by
  have starts (c : Char) : AliasTable.isNameStart c = true ↔ c ∈ letters ++ ['_'] := by
    simp [AliasTable.isNameStart, mem_letters]
  have goesOn (c : Char) :
      AliasTable.isNamePart c = true ↔ c ∈ letters ++ fromTo '0' '9' ++ ['_', '.', '-'] := by
    simp [AliasTable.isNamePart, Char.isAlphanum, mem_letters, mem_digits, or_assoc]
  rw [AliasTable.isName, WellNamed, namePattern, RegularExpression.matches'_mul, Language.mem_mul]
  cases spelled : name.toList with
  | nil =>
    constructor
    · intro impossible
      cases impossible
    · rintro ⟨first, single, rest, -, joined⟩
      obtain ⟨c, -, rfl⟩ := mem_oneOf.mp single
      cases joined
  | cons c rest =>
    simp only [Bool.and_eq_true, List.all_eq_true, starts, goesOn]
    constructor
    · rintro ⟨first, others⟩
      exact ⟨[c], mem_oneOf.mpr ⟨c, first, rfl⟩, rest, mem_star_oneOf.mpr others, rfl⟩
    · rintro ⟨first, single, others, run, joined⟩
      obtain ⟨d, allowed, rfl⟩ := mem_oneOf.mp single
      cases joined
      exact ⟨allowed, mem_star_oneOf.mp run⟩

end Names

/-! ### One definition -/

section Insertion

variable {table after : AliasTable} {name command : String}

/-- The entries with another command for a name that is there. -/
def updated (table : AliasTable) (name command : String) : AliasTable :=
  ⟨table.entries.map fun entry => if entry.1 == name then (name, command) else entry⟩

/-- The entries with a name that was not there, at the end. -/
def extended (table : AliasTable) (name command : String) : AliasTable :=
  ⟨table.entries ++ [(name, command)]⟩

theorem any_iff_mem_names : table.entries.any (·.1 == name) = true ↔ name ∈ names table := by
  simp [names]

theorem length_names : (names table).length = table.entries.length :=
  List.length_map _

/-- What a definition can come to. -/
theorem insert_cases (table : AliasTable) (name command : String) :
    (¬WellNamed name ∧ table.insert name command = .error (.invalidName name)) ∨
    (WellNamed name ∧ name ∈ names table ∧
      table.insert name command = .ok (updated table name command)) ∨
    (WellNamed name ∧ name ∉ names table ∧ maxAliases ≤ (names table).length ∧
      table.insert name command = .error .tableFull) ∨
    (WellNamed name ∧ name ∉ names table ∧ (names table).length < maxAliases ∧
      table.insert name command = .ok (extended table name command)) := by
  rw [← isName_iff, ← any_iff_mem_names, length_names, AliasTable.insert]
  cases AliasTable.isName name with
  | false => exact .inl ⟨nofun, rfl⟩
  | true =>
    cases table.entries.any (·.1 == name) with
    | true => exact .inr (.inl ⟨rfl, rfl, rfl⟩)
    | false =>
      by_cases full : maxAliases ≤ table.entries.length
      · exact .inr (.inr (.inl ⟨rfl, nofun, full, by simp [full]⟩))
      · exact .inr (.inr (.inr ⟨rfl, nofun, Nat.not_le.mp full, by simp [full, extended]⟩))

theorem insert_eq_invalidName_iff :
    table.insert name command = .error (.invalidName name) ↔ ¬WellNamed name := by
  rcases insert_cases table name command with
    ⟨bad, done⟩ | ⟨good, -, done⟩ | ⟨good, -, -, done⟩ | ⟨good, -, -, done⟩
  · simp [bad, done]
  · simp [good, done]
  · simp [good, done]
  · simp [good, done]

theorem insert_eq_tableFull_iff :
    table.insert name command = .error .tableFull ↔
      WellNamed name ∧ name ∉ names table ∧ maxAliases ≤ (names table).length := by
  rcases insert_cases table name command with
    ⟨bad, done⟩ | ⟨good, here, done⟩ | ⟨good, missing, full, done⟩ | ⟨good, missing, room, done⟩
  · simp [bad, done]
  · simp [here, done]
  · simp [good, missing, full, done]
  · simp [Nat.not_le.mpr room, done]

theorem insert_eq_ok_iff :
    (∃ after, table.insert name command = .ok after) ↔
      WellNamed name ∧ (name ∈ names table ∨ (names table).length < maxAliases) := by
  rcases insert_cases table name command with
    ⟨bad, done⟩ | ⟨good, here, done⟩ | ⟨good, missing, full, done⟩ | ⟨good, missing, room, done⟩
  · simp [bad, done]
  · simp [good, here, done]
  · simp [missing, Nat.not_lt.mpr full, done]
  · simp [good, room, done]

theorem names_updated (table : AliasTable) (name command : String) :
    names (updated table name command) = names table := by
  rw [names, updated, List.map_map, names]
  refine List.map_congr_left fun entry _ => ?_
  by_cases same : entry.1 = name
  · simp [same]
  · simp [same]

theorem names_extended (table : AliasTable) (name command : String) :
    names (extended table name command) = names table ++ [name] := by
  simp [names, extended]

private theorem lookup_cons_eq (own old name : String) (entries : List (String × String)) :
    ((own, old) :: entries).lookup name = if name = own then some old else entries.lookup name := by
  by_cases same : name = own
  · simp [same]
  · have different : (name == own) = false := beq_false_of_ne same
    simp [List.lookup_cons, different, same]

theorem lookup_eq_none_iff : table.lookup name = none ↔ name ∉ names table := by
  obtain ⟨entries⟩ := table
  rw [AliasTable.lookup, names]
  induction entries with
  | nil => simp
  | cons entry entries ih =>
    obtain ⟨own, old⟩ := entry
    rw [lookup_cons_eq]
    by_cases first : name = own
    · simp [first]
    · simpa [first] using ih

/-- The name alone stands for another command, if it was there. -/
theorem lookup_updated (table : AliasTable) (name command other : String) :
    (updated table name command).lookup other =
      (table.lookup other).map fun old => if other = name then command else old := by
  obtain ⟨entries⟩ := table
  rw [updated, AliasTable.lookup, AliasTable.lookup]
  induction entries with
  | nil => rfl
  | cons entry entries ih =>
    obtain ⟨own, old⟩ := entry
    have head : (if own == name then (name, command) else (own, old)) =
        (own, if own = name then command else old) := by
      by_cases same : own = name
      · simp [same]
      · simp [same]
    rw [List.map_cons, head, lookup_cons_eq, lookup_cons_eq, ih]
    by_cases asked : other = own
    · simp [asked]
    · simp [asked]

/-- The name that was not there stands for the command. -/
theorem lookup_extended (missing : name ∉ names table) (other : String) :
    (extended table name command).lookup other =
      if other = name then some command else table.lookup other := by
  have none := lookup_eq_none_iff.mpr missing
  rw [AliasTable.lookup] at none
  rw [extended, AliasTable.lookup, AliasTable.lookup, List.lookup_append, lookup_cons_eq]
  by_cases asked : other = name
  · subst asked
    simp [none]
  · simp [asked]

end Insertion

/-! ### Definitions one after another -/

/-- The table is what these definitions make, none of them refused. -/
structure MadeBy (definitions : List Definition) (table : AliasTable) : Prop where
  wellFormed : WellFormed table
  lookup : ∀ name, table.lookup name = lastCommand? definitions name
  order : names table = (definitions.map Definition.name).eraseDups

section Sequences

variable {table : AliasTable} {definitions : List Definition} {definition : Definition}

theorem lastCommand?_snoc (definitions : List Definition) (definition : Definition)
    (name : String) :
    lastCommand? (definitions ++ [definition]) name =
      if name = definition.name then some definition.command
      else lastCommand? definitions name := by
  rw [lastCommand?, List.filter_append]
  by_cases same : name = definition.name
  · simp [same]
  · simp [same, Ne.symm same, lastCommand?]

theorem eraseDups_snoc (listed : List String) (name : String) :
    (listed ++ [name]).eraseDups =
      if name ∈ listed then listed.eraseDups else listed.eraseDups ++ [name] := by
  rw [List.eraseDups_append]
  by_cases known : name ∈ listed
  · simp [known, List.removeAll]
  · simp [known, List.removeAll, List.eraseDups_cons]

theorem MadeBy.nil : MadeBy [] {} where
  wellFormed := ⟨Nat.zero_le 50, List.nodup_nil, nofun⟩
  lookup _ := rfl
  order := rfl

/-- A definition that is accepted is one more of those that make the table. -/
theorem MadeBy.snoc (made : MadeBy definitions table) {after : AliasTable}
    (inserted : table.insert definition.name definition.command = .ok after) :
    MadeBy (definitions ++ [definition]) after := by
  obtain ⟨⟨few, distinct, wellNamed⟩, lookup, order⟩ := made
  obtain ⟨name, command⟩ := definition
  have known : name ∈ names table ↔ name ∈ definitions.map Definition.name := by
    rw [order, List.mem_eraseDups]
  rcases insert_cases table name command with
    ⟨-, refused⟩ | ⟨-, here, done⟩ | ⟨-, -, -, refused⟩ | ⟨good, missing, room, done⟩
  · cases refused.symm.trans inserted
  · cases done.symm.trans inserted
    refine ⟨?_, fun other => ?_, ?_⟩
    · refine ⟨?_, ?_, ?_⟩ <;> rw [names_updated] <;> assumption
    · rw [lookup_updated, lastCommand?_snoc, ← lookup]
      by_cases same : other = name
      · obtain ⟨old, found⟩ := Option.ne_none_iff_exists'.mp (mt lookup_eq_none_iff.mp (not_not.mpr here))
        simp [same, found]
      · simp [same]
    · rw [names_updated, List.map_append, List.map_singleton, eraseDups_snoc,
        if_pos (known.mp here), order]
  · cases refused.symm.trans inserted
  · cases done.symm.trans inserted
    refine ⟨⟨?_, ?_, ?_⟩, fun other => ?_, ?_⟩
    · rw [names_extended, List.length_append]
      exact room
    · rw [names_extended, ← List.concat_eq_append]
      exact distinct.concat missing
    · intro other member
      rw [names_extended, List.mem_append, List.mem_singleton] at member
      rcases member with before | rfl
      · exact wellNamed other before
      · exact good
    · rw [lookup_extended missing, lastCommand?_snoc, ← lookup]
    · rw [names_extended, List.map_append, List.map_singleton, eraseDups_snoc,
        if_neg (mt known.mpr missing), order]

/-- Refused definitions leave no trace. -/
theorem MadeBy.foldl (made : MadeBy definitions table) (further : List Definition) :
    MadeBy (definitions ++ accepted table further) (further.foldl define table) := by
  induction further generalizing table definitions with
  | nil => simpa [accepted] using made
  | cons definition further ih =>
    rw [List.foldl_cons, accepted]
    cases inserted : table.insert definition.name definition.command with
    | error e =>
      have same : define table definition = table := by rw [define, inserted]
      rw [same]
      exact ih made
    | ok after =>
      have next : define table definition = after := by rw [define, inserted]
      rw [next]
      have later := ih (made.snoc inserted)
      rwa [List.append_assoc] at later

end Sequences

/-- The aliases are a bounded map in the order of insertion. After any definitions one after
another, the table holds at most fifty names, all different and well formed. A further definition is
refused because of its name exactly if that is not well formed, else because of the table exactly if
the name is new and fifty are there, and is accepted otherwise; refused, it changes nothing. A name
stands for the command of the last definition for it that was accepted, and for none without one; and
the names stand in the order of their first definitions that were accepted. -/
theorem definitions_make_ordered_map (definitions : List Definition) :
    WellFormed (defineAll definitions) ∧
    (∀ name command,
      ((defineAll definitions).insert name command = .error (.invalidName name) ↔
        ¬WellNamed name) ∧
      ((defineAll definitions).insert name command = .error .tableFull ↔
        WellNamed name ∧ name ∉ names (defineAll definitions) ∧
          (names (defineAll definitions)).length = 50) ∧
      ((∃ after, (defineAll definitions).insert name command = .ok after) ↔
        WellNamed name ∧ (name ∈ names (defineAll definitions) ∨
          (names (defineAll definitions)).length < 50)) ∧
      ∀ e, (defineAll definitions).insert name command = .error e →
        defineAll (definitions ++ [⟨name, command⟩]) = defineAll definitions) ∧
    (∀ name, (defineAll definitions).lookup name = lastCommand? (accepted {} definitions) name) ∧
    names (defineAll definitions) = ((accepted {} definitions).map Definition.name).eraseDups := by
  obtain ⟨wellFormed, lookup, order⟩ : MadeBy (accepted {} definitions) (defineAll definitions) :=
    MadeBy.nil.foldl definitions
  refine ⟨wellFormed, fun name command => ⟨insert_eq_invalidName_iff, ?_, insert_eq_ok_iff, ?_⟩,
    lookup, order⟩
  · have full : maxAliases ≤ (names (defineAll definitions)).length ↔
        (names (defineAll definitions)).length = 50 :=
      ⟨Nat.le_antisymm wellFormed.few, Eq.ge⟩
    rw [insert_eq_tableFull_iff, full]
  · intro e refused
    have last : defineAll (definitions ++ [⟨name, command⟩]) =
        define (defineAll definitions) ⟨name, command⟩ :=
      List.foldl_append
    rw [last, define, refused]

/-- Four definitions, one of them with a line feed in the name and one for a name that is there, and
then one that is refused. -/
theorem definitions_make_ordered_map_redefined :
    let definitions : List Definition :=
      [⟨"ll", "ls"⟩, ⟨"g\n", "grep"⟩, ⟨"g", "grep"⟩, ⟨"ll", "dir"⟩]
    names (defineAll definitions) = ["ll", "g"] ∧
    (defineAll definitions).lookup "ll" = some "dir" ∧
    (defineAll definitions).lookup "g\n" = none ∧
    (defineAll definitions).insert "9" "ls" = .error (.invalidName "9") ∧
    defineAll (definitions ++ [⟨"9", "ls"⟩]) = defineAll definitions := by
  intro definitions
  obtain ⟨-, outcomes, lookup, order⟩ := definitions_make_ordered_map definitions
  obtain ⟨refused, -, -, unchanged⟩ := outcomes "9" "ls"
  have badName : ¬WellNamed "9" := by
    rw [← isName_iff]
    decide
  have error := refused.mpr badName
  refine ⟨order.trans (by decide), (lookup "ll").trans (by decide),
    (lookup "g\n").trans (by decide), error, unchanged _ error⟩

end LineShell.AliasDefinitions
