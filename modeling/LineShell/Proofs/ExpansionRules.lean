import LineShell.Expansion
import Mathlib.Data.List.TakeWhile

/-! What a text expands to, by rules for its parts: which characters make up a reference, and what
it is replaced with. No part is looked at twice, and no rule is about a value. The scan that expands
words follows these rules, and the words that are not scanned are words that it would leave as they
are. -/
namespace LineShell.ExpansionRules
open Text
open Expansion (cutAt? splitDefault substitute)

/-! ### Rules -/

/-- The value of a variable, or what stands in for it where there is none. -/
def valueOr (lookup : String → Option String) (name otherwise : List Char) : List Char :=
  ((lookup (String.ofList name)).map String.toList).getD otherwise

/-- What may stand between braces: the name of a variable, or a name and what stands in for its
value, after the first colon that a hyphen follows. A name has one character at least, so a text
that begins with these two is a name as a whole. -/
inductive Names : List Char → List Char → Option (List Char) → Prop where
  | whole {inside : List Char} (undivided : [':', '-'] <:+: inside → [':', '-'] <+: inside) :
      Names inside inside none
  | divided {name alternative : List Char} (named : name ≠ []) (first : ¬[':', '-'] <:+: name) :
      Names (name ++ ':' :: '-' :: alternative) name (some alternative)

/-- A text and the same text with its references replaced, from the first part to the last. -/
inductive Substituted (lookup : String → Option String) : List Char → List Char → Prop where
  | nil : Substituted lookup [] []
  | ordinary {c : Char} {rest expanded : List Char} (ordinary : c ≠ '$')
      (further : Substituted lookup rest expanded) :
      Substituted lookup (c :: rest) (c :: expanded)
  | doubled {rest expanded : List Char} (further : Substituted lookup rest expanded) :
      Substituted lookup ('$' :: '$' :: rest) ('$' :: expanded)
  | named {name rest expanded : List Char} (named : name ≠ [])
      (inside : ∀ c ∈ name, isNameChar c) (longest : ∀ c ∈ rest.head?, ¬isNameChar c)
      (further : Substituted lookup rest expanded) :
      Substituted lookup ('$' :: (name ++ rest)) (valueOr lookup name ('$' :: name) ++ expanded)
  | braced {inside name rest expanded : List Char} {alternative : Option (List Char)}
      (closes : '}' ∉ inside) (names : Names inside name alternative)
      (further : Substituted lookup rest expanded) :
      Substituted lookup ('$' :: '{' :: (inside ++ '}' :: rest))
        (valueOr lookup name (alternative.getD ('$' :: '{' :: inside ++ ['}'])) ++ expanded)
  | unclosed {rest expanded : List Char} (unclosed : '}' ∉ rest)
      (further : Substituted lookup rest expanded) :
      Substituted lookup ('$' :: '{' :: rest) ('$' :: '{' :: expanded)
  | alone {rest expanded : List Char}
      (alone : ∀ c ∈ rest.head?, c ≠ '$' ∧ c ≠ '{' ∧ ¬isNameChar c)
      (further : Substituted lookup rest expanded) :
      Substituted lookup ('$' :: rest) ('$' :: expanded)

/-- A text and the same text with a tilde at its beginning replaced, which stands alone or before a
slash. -/
inductive Homed (lookup : String → Option String) : List Char → List Char → Prop where
  | replaced {rest : List Char} (ends : ∀ c ∈ rest.head?, c = '/') :
      Homed lookup ('~' :: rest) (valueOr lookup "HOME".toList ['~'] ++ rest)
  | kept {cs : List Char} (other : ¬∃ rest, cs = '~' :: rest ∧ ∀ c ∈ rest.head?, c = '/') :
      Homed lookup cs cs

/-- A text and what it expands to: the variables first, and then the home directory if the text
itself begins with a tilde. -/
inductive Expanded (lookup : String → Option String) (text expanded : List Char) : Prop where
  | tilde {substituted : List Char} (typed : text.head? = some '~')
      (scanned : Substituted lookup text substituted) (home : Homed lookup substituted expanded)
  | plain (untyped : text.head? ≠ some '~') (scanned : Substituted lookup text expanded)

variable {lookup : String → Option String} {cs before after inside name rest expanded : List Char}

/-! ### References -/

section Cuts

variable {mark : Char}

private theorem cutAt?_of_free (free : mark ∉ cs) : cutAt? mark cs = none := by
  induction cs with
  | nil => rfl
  | cons c cs ih =>
    obtain ⟨different, free⟩ := not_or.mp (mt List.mem_cons.mpr free)
    rw [cutAt?, if_neg (by simpa using Ne.symm different), ih free]
    rfl

private theorem cutAt?_of_first (free : mark ∉ before) :
    cutAt? mark (before ++ mark :: after) = some (before, after) := by
  induction before with
  | nil => exact if_pos (beq_self_eq_true mark)
  | cons c before ih =>
    obtain ⟨different, free⟩ := not_or.mp (mt List.mem_cons.mpr free)
    rw [List.cons_append, cutAt?, if_neg (by simpa using Ne.symm different), ih free]
    rfl

private theorem cutAt?_eq_some_iff :
    cutAt? mark cs = some (before, after) ↔ cs = before ++ mark :: after ∧ mark ∉ before := by
  constructor
  · intro cut
    by_cases member : mark ∈ cs
    · obtain ⟨first, later, rfl, free⟩ := List.eq_append_cons_of_mem member
      rw [cutAt?_of_first free] at cut
      cases cut
      exact ⟨rfl, free⟩
    · rw [cutAt?_of_free member] at cut
      cases cut
  · rintro ⟨rfl, free⟩
    exact cutAt?_of_first free

end Cuts

section References

variable {alternative : Option (List Char)}

private theorem split_of_first {later : List Char} (first : ¬[':', '-'] <:+: name) :
    splitDefault.split (name ++ ':' :: '-' :: later) = (name, some later) := by
  induction name with
  | nil => rfl
  | cons c name ih =>
    have later := ih fun inside => first (List.infix_cons inside)
    rw [List.cons_append, splitDefault.split, later]
    rintro rest rfl same
    cases name with
    | nil => cases same
    | cons d name =>
      cases same
      exact first ⟨[], name, rfl⟩

private theorem split_of_undivided (undivided : ¬[':', '-'] <:+: inside) :
    splitDefault.split inside = (inside, none) := by
  induction inside with
  | nil => rfl
  | cons c inside ih =>
    rw [splitDefault.split, ih fun later => undivided (List.infix_cons later)]
    rintro rest rfl rfl
    exact undivided ⟨[], rest, rfl⟩

/-- Where the two characters stand at all, they stand somewhere first. -/
private theorem exists_first (divided : [':', '-'] <:+: inside) :
    ∃ name later, inside = name ++ ':' :: '-' :: later ∧ ¬[':', '-'] <:+: name := by
  induction inside with
  | nil => simp at divided
  | cons c inside ih =>
    by_cases begins : [':', '-'] <+: c :: inside
    · obtain ⟨later, same⟩ := begins
      exact ⟨[], later, same.symm, by simp⟩
    · obtain ⟨name, later, rfl, first⟩ := ih ((List.infix_cons_iff.mp divided).resolve_left begins)
      refine ⟨c :: name, later, rfl, fun inside => ?_⟩
      rcases List.infix_cons_iff.mp inside with early | inside
      · exact begins (early.trans (List.prefix_append (c :: name) _))
      · exact first inside

private theorem splitDefault_of_names (names : Names inside name alternative) :
    splitDefault inside = (name, alternative) := by
  cases names with
  | whole undivided =>
    by_cases divided : [':', '-'] <:+: inside
    · obtain ⟨later, rfl⟩ := undivided divided
      rfl
    · rw [splitDefault, split_of_undivided divided]
      cases inside with
      | nil => rfl
      | cons c inside => rfl
  | divided named first =>
    obtain ⟨c, name, rfl⟩ := List.exists_cons_of_ne_nil named
    rw [splitDefault, split_of_first first]

private theorem exists_names (inside : List Char) :
    ∃ name alternative, Names inside name alternative := by
  by_cases divided : [':', '-'] <:+: inside
  · obtain ⟨name, later, rfl, first⟩ := exists_first divided
    by_cases named : name = []
    · subst named
      exact ⟨_, none, .whole fun _ => ⟨later, rfl⟩⟩
    · exact ⟨name, some later, .divided named first⟩
  · exact ⟨inside, none, .whole fun inside => absurd inside divided⟩

theorem braced_of_names (names : Names inside name alternative) :
    Expansion.braced lookup inside =
      valueOr lookup name (alternative.getD ('$' :: '{' :: inside ++ ['}'])) := by
  rw [Expansion.braced, splitDefault_of_names names, valueOr]
  dsimp only
  cases lookup (String.ofList name) with
  | none => rfl
  | some value => rfl

theorem plain_eq (lookup : String → Option String) (name : List Char) :
    Expansion.plain lookup name = valueOr lookup name ('$' :: name) := by
  rw [Expansion.plain, valueOr]
  cases lookup (String.ofList name) with
  | none => rfl
  | some value => rfl

end References

/-! ### The scan -/

private theorem dollar_not_nameChar : ¬isNameChar '$' := by decide

private theorem brace_not_nameChar : ¬isNameChar '{' := by decide

/-- A name is read up to the first character that cannot belong to it. -/
private theorem span_of_longest (inside : ∀ c ∈ name, isNameChar c)
    (longest : ∀ c ∈ rest.head?, ¬isNameChar c) :
    (name ++ rest).takeWhile isNameChar = name ∧ (name ++ rest).dropWhile isNameChar = rest := by
  rw [List.takeWhile_append_of_pos inside, List.dropWhile_append_of_pos inside]
  cases rest with
  | nil => exact ⟨List.append_nil name, rfl⟩
  | cons c rest =>
    have stop := longest c rfl
    rw [List.takeWhile_cons_of_neg stop, List.append_nil]
    exact ⟨rfl, List.dropWhile_cons_of_neg stop⟩

theorem substitute_of_substituted (substituted : Substituted lookup cs expanded) :
    substitute lookup cs = expanded := by
  induction substituted with
  | nil => rw [substitute]
  | ordinary ordinary _ ih =>
    rw [substitute, ih]
    · exact fun _ same => absurd same ordinary
    · exact fun _ same => absurd same ordinary
    · exact fun _ _ same => absurd same ordinary
  | doubled _ ih => rw [substitute, ih]
  | @named name rest expanded named inside longest _ ih =>
    obtain ⟨c, name, rfl⟩ := List.exists_cons_of_ne_nil named
    obtain ⟨first, others⟩ := List.forall_mem_cons.mp inside
    obtain ⟨taken, left⟩ := span_of_longest others longest
    rw [List.cons_append, substitute, if_pos first, taken, left, plain_eq, ih]
    · rintro rfl
      exact brace_not_nameChar first
    · rintro rfl
      exact dollar_not_nameChar first
  | @braced inside name rest expanded alternative closes names _ ih =>
    have cut : cutAt? '}' (inside ++ '}' :: rest) = some (inside, rest) := cutAt?_of_first closes
    rw [substitute]
    split
    · rename_i found
      cases found.symm.trans cut
      rw [braced_of_names names, ih]
    · rename_i missed
      cases missed.symm.trans cut
  | unclosed unclosed _ ih =>
    rw [substitute]
    split
    · rename_i found
      cases found.symm.trans (cutAt?_of_free unclosed)
    · rw [ih]
  | @alone rest expanded alone _ ih =>
    cases rest with
    | nil =>
      rw [substitute, ih]
      · exact fun _ _ same => by cases same
      · exact fun _ _ same => by cases same
      · exact fun _ _ _ same => by cases same
    | cons c rest =>
      obtain ⟨single, brace, other⟩ := alone c rfl
      rw [substitute, if_neg other, ih]
      · exact brace
      · exact single

/-- The scan follows the rules. -/
theorem substituted_substitute (lookup : String → Option String) (cs : List Char) :
    Substituted lookup cs (substitute lookup cs) := by
  fun_induction substitute lookup cs with
  | case1 => exact .nil
  | case2 rest inside after cut _ ih =>
    obtain ⟨rfl, closes⟩ := cutAt?_eq_some_iff.mp cut
    obtain ⟨name, alternative, names⟩ := exists_names inside
    rw [braced_of_names names]
    exact .braced closes names ih
  | case3 rest uncut ih =>
    refine .unclosed (fun member => ?_) ih
    obtain ⟨inside, after, rfl, closes⟩ := List.eq_append_cons_of_mem member
    cases uncut.symm.trans (cutAt?_eq_some_iff.mpr ⟨rfl, closes⟩)
  | case4 rest ih => exact .doubled ih
  | case5 c rest _ _ first _ ih =>
    have inside : ∀ d ∈ c :: rest.takeWhile isNameChar, isNameChar d :=
      List.forall_mem_cons.mpr ⟨first, fun d => List.mem_takeWhile_imp⟩
    have longest : ∀ d ∈ (rest.dropWhile isNameChar).head?, ¬isNameChar d := by
      intro d head
      rw [← List.find?_not_eq_head?_dropWhile] at head
      have stops := List.find?_some head
      simpa using stops
    rw [plain_eq]
    have found := Substituted.named (List.cons_ne_nil _ _) inside longest ih
    rwa [List.cons_append, List.takeWhile_append_dropWhile] at found
  | case6 c rest brace dollar other ih =>
    refine .alone ?_ ih
    rintro _ ⟨⟩
    exact ⟨dollar, brace, other⟩
  | case7 c rest brace dollar further ih =>
    by_cases ordinary : c = '$'
    · subst ordinary
      cases rest with
      | nil => exact .alone nofun ih
      | cons d rest => exact absurd rfl (further d rest rfl)
    · exact .ordinary ordinary ih

theorem substituted_iff : Substituted lookup cs expanded ↔ substitute lookup cs = expanded := by
  constructor
  · exact substitute_of_substituted
  · rintro rfl
    exact substituted_substitute lookup cs

/-! ### The home directory -/

private theorem home_of_ends (ends : ∀ c ∈ rest.head?, c = '/') :
    Expansion.home lookup ('~' :: rest) = valueOr lookup "HOME".toList ['~'] ++ rest := by
  cases rest with
  | nil =>
    rw [List.append_nil]
    rfl
  | cons c rest =>
    cases ends c rfl
    rfl

private theorem home_of_other (other : ¬∃ rest, cs = '~' :: rest ∧ ∀ c ∈ rest.head?, c = '/') :
    Expansion.home lookup cs = cs := by
  rw [Expansion.home.eq_3]
  · intro alone
    exact other ⟨[], alone, nofun⟩
  · intro rest slashed
    refine other ⟨_, slashed, ?_⟩
    rintro c ⟨⟩
    rfl

theorem homed_iff : Homed lookup cs expanded ↔ Expansion.home lookup cs = expanded := by
  constructor
  · intro homed
    cases homed with
    | replaced ends => exact home_of_ends ends
    | kept other => exact home_of_other other
  · rintro rfl
    by_cases replaced : ∃ rest, cs = '~' :: rest ∧ ∀ c ∈ rest.head?, c = '/'
    · obtain ⟨rest, rfl, ends⟩ := replaced
      rw [home_of_ends ends]
      exact .replaced ends
    · rw [home_of_other replaced]
      exact .kept replaced

theorem expanded_iff : Expanded lookup cs expanded ↔ Expansion.full lookup cs = expanded := by
  rw [Expansion.full]
  by_cases typed : cs.head? = some '~'
  · rw [if_pos (beq_iff_eq.mpr typed)]
    constructor
    · intro found
      cases found with
      | tilde _ scanned home =>
        rw [substituted_iff.mp scanned]
        exact homed_iff.mp home
      | plain untyped _ => exact absurd typed untyped
    · intro found
      exact .tilde typed (substituted_substitute lookup cs) (homed_iff.mpr found)
  · rw [if_neg (mt beq_iff_eq.mp typed)]
    constructor
    · intro found
      cases found with
      | tilde tilde _ _ => exact absurd tilde typed
      | plain _ scanned => exact substituted_iff.mp scanned
    · intro found
      exact .plain typed (substituted_iff.mpr found)

/-! ### Words -/

/-- Without a dollar sign there is nothing to replace, wherever a tilde may stand. -/
theorem substituted_of_free (lookup : String → Option String) (free : '$' ∉ cs) :
    Substituted lookup cs cs := by
  induction cs with
  | nil => exact .nil
  | cons c cs ih =>
    obtain ⟨different, free⟩ := not_or.mp (mt List.mem_cons.mpr free)
    exact .ordinary (Ne.symm different) (ih free)

/-- A text that the shortcut leaves out is one that its expansion leaves as it is. -/
theorem expanded_of_plain (lookup : String → Option String) (untyped : cs.head? ≠ some '~')
    (free : '$' ∉ cs) : Expanded lookup cs expanded ↔ expanded = cs := by
  have same := expanded_iff.mp (.plain untyped (substituted_of_free lookup free))
  rw [expanded_iff, same]
  exact eq_comm

section Word

variable {session : Session} {text : String}

theorem word_of_quoted : Expansion.word session ⟨text, true⟩ = text :=
  rfl

theorem word_of_plain (plain : ¬(text.toList.head? = some '~' ∨ '$' ∈ text.toList)) :
    Expansion.word session ⟨text, false⟩ = text := by
  rw [not_or] at plain
  simp [Expansion.word, plain.1, plain.2]

theorem word_of_reference (refers : text.toList.head? = some '~' ∨ '$' ∈ text.toList) :
    Expansion.word session ⟨text, false⟩ =
      String.ofList (Expansion.full session.valueOf? text.toList) := by
  rcases refers with tilde | dollar
  · simp [Expansion.word, tilde]
  · simp [Expansion.word, dollar]

end Word

/-- A word between quotes stays as it is, and every other word becomes what its text expands to by
the rules, under any variables. Nothing is lost by leaving out the texts that neither begin with a
tilde nor have a dollar sign, since each of them expands to itself and to nothing else. -/
theorem words_expand_in_full (session : Session) (text expanded : String) :
    Expansion.word session ⟨text, true⟩ = text ∧
    Expansion.word session ⟨text, false⟩ =
      String.ofList (Expansion.full session.valueOf? text.toList) ∧
    (Expansion.word session ⟨text, false⟩ = expanded ↔
      Expanded session.valueOf? text.toList expanded.toList) ∧
    (text.toList.head? ≠ some '~' → '$' ∉ text.toList → ∀ lookup,
      (Expanded lookup text.toList expanded.toList ↔ expanded = text)) := by
  have whole : Expansion.word session ⟨text, false⟩ =
      String.ofList (Expansion.full session.valueOf? text.toList) := by
    by_cases refers : text.toList.head? = some '~' ∨ '$' ∈ text.toList
    · exact word_of_reference refers
    · obtain ⟨untyped, free⟩ := not_or.mp refers
      have same := expanded_iff.mp ((expanded_of_plain session.valueOf? untyped free).mpr rfl)
      rw [word_of_plain refers, same, String.ofList_toList]
  refine ⟨word_of_quoted, whole, ?_, ?_⟩
  · rw [whole, expanded_iff, ← String.toList_inj, String.toList_ofList]
  · intro untyped free lookup
    rw [expanded_of_plain lookup untyped free, String.toList_inj]

end LineShell.ExpansionRules
