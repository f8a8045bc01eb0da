import LineShell.Proofs.AliasSubstitution
import LineShell.Proofs.QuotedLines
import LineShell.Proofs.Trimming

/-! What a built-in command is given. A line of its name and quoted operands has the command run with
exactly these operands, whatever they look like: nothing on the way takes an operand for an option,
for a redirection or for something to expand. Then it is their number alone that decides whether the
command is executed or only says that it was misused. -/
namespace LineShell.CommandOperands
open AliasSubstitution LinePlans LineReading QuotedLines Text Trimming WordGrammar
open Word (isQuote)

/-- A space and a quotation for each operand. -/
def operandChars (operands : List Quotation) : List Char :=
  operands.flatMap fun q => ' ' :: q.chars

/-- The line of a name, as it is, and quoted operands. -/
def commandLine (name : String) (operands : List Quotation) : String :=
  String.ofList (name.toList ++ operandChars operands)

/-- What a command does with operands that it takes. A wrong number of operands is not among
these. -/
inductive Performs : String → List String → Standard → Prop
  | exit : Performs "exit" [] .leave
  | cd (target : String) : Performs "cd" [target] (.changeDirectory target)
  | pwd : Performs "pwd" [] .printDirectory
  | path (directories : List String) : Performs "path" directories (.setSearchPaths directories)
  | paths (directories : List String) : Performs "paths" directories (.setSearchPaths directories)
  | help : Performs "help" [] .help
  | env : Performs "env" [] .listVariables
  | history : Performs "history" [] .listHistory
  | list : Performs "alias" [] (.alias [])
  | define (own text : String) : Performs "alias" [own, text] (.alias [own, text])

/-- The numbers of operands that a command takes. -/
def Takes (name : String) (count : Nat) : Prop :=
  match name with
  | "exit" | "pwd" | "help" | "env" | "history" => count = 0
  | "cd" => count = 1
  | "alias" => count = 0 ∨ count = 2
  | _ => True

/-- The line only says that the command was misused. -/
def misused (session : Session) (name message : String) : Shell (Session × LineResult) := do
  Shell.log .debug ("running builtin " ++ name)
  Shell.complain message
  return (session, .ok 1)

/-! ### Reading the line -/

section Reading

variable {name : String} {operands : List Quotation} {c : Char}

theorem plain_of_lower (lower : c.isLower = true) : isPlain c = true := by
  obtain ⟨above, below⟩ := Bool.and_eq_true_iff.mp lower
  have above : 97 ≤ c.toNat := of_decide_eq_true above
  have below : c.toNat ≤ 122 := of_decide_eq_true below
  have visible : isBlank c = false := by
    simp [isBlank]
    omega
  have unquoting : isQuote c = false := by
    simp [isQuote]
    constructor
    · rintro rfl
      cases lower
    · rintro rfl
      cases lower
  simp [isPlain, visible, unquoting]

/-- The names of the commands are of lower-case letters. -/
theorem lower_of_mem_names (standard : name ∈ Standard.names) :
    name.toList ≠ [] ∧ ∀ c ∈ name.toList, c.isLower = true := by
  have every : Standard.names.all fun name =>
      !name.toList.isEmpty && name.toList.all Char.isLower := by decide
  simpa using List.all_eq_true.mp every name standard

/-- Nothing in such a name is expanded. -/
theorem word_of_lower (session : Session) (lower : ∀ c ∈ name.toList, c.isLower = true) :
    Expansion.word session ⟨name, false⟩ = name := by
  have noTilde : name.toList.head? ≠ some '~' := by
    intro first
    cases lower '~' (List.mem_of_mem_head? first)
  have noDollar : '$' ∉ name.toList := by
    intro inside
    cases lower '$' inside
  simp [Expansion.word, noTilde, noDollar]

theorem blank_of_mem_nil : ∀ c ∈ ([] : List Char), isBlank c = true :=
  nofun

theorem blank_of_mem_space : ∀ c ∈ [' '], isBlank c = true :=
  List.forall_mem_singleton.mpr (by decide)

/-- The gap before an operand. -/
def space : RunOf isBlank :=
  ⟨[' '], blank_of_mem_space⟩

theorem stageLayout_space_chars (operands : List Quotation) :
    (stageLayout space operands).chars = operandChars operands := by
  induction operands with
  | nil => rfl
  | cons q rest ih =>
    rw [operandChars, List.flatMap_cons, ← operandChars, ← ih]
    rfl

/-- The name, and then the operands after a space each. -/
def commandLayout (run : RunOf isPlain) (nonempty : run.val ≠ []) (operands : List Quotation) :
    Layout :=
  .next ⟨[], blank_of_mem_nil⟩ (.bare run nonempty) (stageLayout space operands)

theorem commandLayout_spells (run : RunOf isPlain) (nonempty : run.val ≠ [])
    (operands : List Quotation) :
    (commandLayout run nonempty operands).Spells (run.val ++ operandChars operands) := by
  refine ⟨⟨?_, stageLayout_separated space operands⟩, ?_⟩
  · rw [stageLayout_space_chars]
    intro c first
    cases operands with
    | nil => cases first
    | cons q rest =>
      cases first
      decide
  · rw [commandLayout, Layout.chars, stageLayout_space_chars]
    rfl

theorem pipe_not_mem_operandChars (free : ∀ q ∈ operands, '|' ∉ q.body) :
    '|' ∉ operandChars operands := by
  intro inside
  obtain ⟨q, member, here⟩ := List.mem_flatMap.mp inside
  have quotes := q.isQuote
  simp only [Quotation.chars, List.cons_append, List.mem_cons, List.mem_append,
    List.not_mem_nil, or_false] at here
  rcases here with blank | opening | body | closing
  · cases blank
  · rw [← opening] at quotes
    cases quotes
  · exact free q member body
  · rw [← closing] at quotes
    cases quotes

/-- A line without marks is a pipeline of its one stage. -/
theorem readWith_trim_single {expand : Word → String} {limits : Limits} {cs : List Char}
    {stage : Stage} (fits : limits.Fits) (stages : 1 ≤ limits.maxStages) (free : '|' ∉ cs)
    (read : readPiece limits.maxWords expand cs = .ok stage) :
    Pipeline.readWith expand limits (Text.trim (String.ofList cs)) = .ok ⟨[stage]⟩ := by
  have pieces : (Text.trim (String.ofList cs)).toList.splitOn '|' = [trimChars cs] := by
    rw [Text.trim, String.toList_ofList, String.toList_ofList]
    have alone : ∀ piece ∈ [trimChars cs], '|' ∉ piece :=
      List.forall_mem_singleton.mpr fun inside => free (mem_of_mem_trimChars inside)
    simpa using List.splitOn_intercalate '|' alone (List.cons_ne_nil _ [])
  rw [readWith_ok_iff fits (by rw [pieces]; exact stages.trans fits.stages), pieces]
  exact ⟨stages, .cons ((readPiece_trimChars _ _ cs).trans read) .nil⟩

/-- The line is read as the name and the operands, whatever the session expands. -/
theorem readWith_commandLine (session : Session) (fits : session.limits.Fits)
    (stages : 1 ≤ session.limits.maxStages) (standard : name ∈ Standard.names)
    (free : ∀ q ∈ operands, '|' ∉ q.body) (few : 1 + operands.length ≤ session.limits.maxWords) :
    Pipeline.readWith (Expansion.word session) session.limits
      (Text.trim (commandLine name operands)) =
        .ok ⟨[{ argv := name :: operands.map text }]⟩ := by
  obtain ⟨nonempty, lower⟩ := lower_of_mem_names standard
  have noMark : '|' ∉ name.toList := by
    intro inside
    cases lower '|' inside
  let run : RunOf isPlain := ⟨name.toList, fun c inside => plain_of_lower (lower c inside)⟩
  have words : (commandLayout run nonempty operands).words =
      ⟨name, false⟩ :: operands.map fun q => ⟨text q, true⟩ := by
    simp [commandLayout, Layout.words, stageLayout_words, Item.word, run]
  have count : (commandLayout run nonempty operands).words.length ≤ session.limits.maxWords := by
    rw [words, List.length_cons, List.length_map]
    omega
  have literal (q : Quotation) : Expansion.word session ⟨text q, true⟩ = text q := by
    simp [Expansion.word]
  refine readWith_trim_single fits stages ?_ ?_
  · rw [List.mem_append, not_or]
    exact ⟨noMark, pipe_not_mem_operandChars free⟩
  · rw [readPiece_ok fits.words (commandLayout_spells run nonempty operands)
      (stageLayout_closed space operands) (by simp [words]) count, words]
    simp [word_of_lower session lower, literal, Function.comp_def]

end Reading

/-! ### Performing the command -/

section Performing

variable {session : Session} {name : String} {args : List String} {command : Standard}

theorem Performs.known (performs : Performs name args command) :
    Standard.ofWords? name args = some command := by
  cases performs <;> rfl

/-- It is their number that decides whether operands are taken. -/
theorem exists_performs_iff (standard : name ∈ Standard.names) :
    (∃ command, Performs name args command) ↔ Takes name args.length := by
  constructor
  · rintro ⟨command, performs⟩
    cases performs <;> simp [Takes]
  · intro takes
    have alone {name : String} {own : Standard} (none : args.length = 0)
        (performs : Performs name [] own) : ∃ command, Performs name args command := by
      rw [List.length_eq_zero_iff.mp none]
      exact ⟨own, performs⟩
    simp only [Standard.names, List.mem_cons, List.not_mem_nil, or_false] at standard
    rcases standard with rfl | rfl | rfl | rfl | rfl | rfl | rfl | rfl | rfl
    · exact alone takes .exit
    · obtain ⟨target, rfl⟩ := List.length_eq_one_iff.mp takes
      exact ⟨_, .cd target⟩
    · exact alone takes .pwd
    · exact ⟨_, .path args⟩
    · exact ⟨_, .paths args⟩
    · exact alone takes .help
    · exact alone takes .env
    · exact alone takes .history
    · rcases takes with none | both
      · exact alone none .list
      · obtain ⟨own, text, rfl⟩ := List.length_eq_two.mp both
        exact ⟨_, .define own text⟩

/-- A command that does not take its operands does nothing but to fail. -/
theorem run_of_not_performs (known : Standard.ofWords? name args = some command)
    (unfit : ∀ command, ¬Performs name args command) (session : Session) :
    ∃ reasons, command.run session = return (session, .error reasons) := by
  have surplus (takes : ∃ command, Performs name [] command) {own : Standard}
      (same : some (Standard.alone own args) = some command) :
      ∃ reasons, command.run session = return (session, .error reasons) := by
    cases args with
    | nil =>
      obtain ⟨command, performs⟩ := takes
      exact absurd performs (unfit command)
    | cons operand rest =>
      cases same
      exact ⟨_, rfl⟩
  unfold Standard.ofWords? at known
  split at known
  case h_1 => exact surplus ⟨_, .exit⟩ known
  case h_2 =>
    cases known
    obtain _ | ⟨target, _ | ⟨operand, rest⟩⟩ := args
    · exact ⟨_, rfl⟩
    · exact absurd (.cd target) (unfit _)
    · exact ⟨_, rfl⟩
  case h_3 => exact surplus ⟨_, .pwd⟩ known
  case h_4 => exact absurd (.path args) (unfit _)
  case h_5 => exact absurd (.paths args) (unfit _)
  case h_6 => exact surplus ⟨_, .help⟩ known
  case h_7 => exact surplus ⟨_, .env⟩ known
  case h_8 => exact surplus ⟨_, .history⟩ known
  case h_9 =>
    cases known
    obtain _ | ⟨own, _ | ⟨text, _ | ⟨third, rest⟩⟩⟩ := args
    · exact absurd .list (unfit _)
    · exact ⟨_, rfl⟩
    · exact absurd (.define own text) (unfit _)
    · exact ⟨_, rfl⟩
  case h_10 => cases known

/-- The line of a command has it run with the operands. -/
theorem line_of_commandLine {operands : List Quotation} (fits : session.limits.Fits)
    (stages : 1 ≤ session.limits.maxStages) (standard : name ∈ Standard.names)
    (unaliased : session.aliases.lookup name = none)
    (free : ∀ q ∈ operands, '|' ∉ q.body) (few : 1 + operands.length ≤ session.limits.maxWords)
    (known : Standard.ofWords? name (operands.map text) = some command) :
    Evaluation.line Standard.builtins session (commandLine name operands) =
      Evaluation.runBuiltin session name command.run := by
  have read := readWith_commandLine session fits stages standard free few
  have found : Builtin.find? Standard.builtins name (operands.map text) = some command.run :=
    Standard.find?_eq_some_iff.mpr ⟨command, known, rfl⟩
  rw [line_of_unaliased read unaliased, evaluateWords, Plan.ofWords_of_found found]
  rfl

end Performing

/-- Operands arrive as they were typed. The line of the name of a standard command, which is no alias,
and of quoted operands, no more of them than allowed, has the command run with exactly these
operands, whatever they look like. So the command is executed if it takes that many operands, and is
only told to be misused if it does not: then the line has the status 1 and leaves the session as it
was, also if the command was to end it. The search paths, which any number of operands can be, become
exactly the operands. -/
theorem operands_arrive_verbatim {session : Session} {name : String} {args : List String}
    (fits : session.limits.Fits) (stages : 1 ≤ session.limits.maxStages)
    (standard : name ∈ Standard.names) (unaliased : session.aliases.lookup name = none)
    (quotable : ∀ arg ∈ args, Quotable arg) (few : 1 + args.length ≤ session.limits.maxWords) :
    (∃ operands : List Quotation, operands.map text = args) ∧
    ∀ operands : List Quotation, operands.map text = args →
      (∃ command, Standard.ofWords? name args = some command ∧
        Evaluation.line Standard.builtins session (commandLine name operands) =
          Evaluation.runBuiltin session name command.run) ∧
      (Takes name args.length → ∃ command, Performs name args command ∧
        Evaluation.line Standard.builtins session (commandLine name operands) =
          Evaluation.runBuiltin session name command.run) ∧
      (¬Takes name args.length → ∃ message,
        Evaluation.line Standard.builtins session (commandLine name operands) =
          misused session name message) ∧
      (name = "path" ∨ name = "paths" →
        Evaluation.line Standard.builtins session (commandLine name operands) =
          (Shell.log .debug ("running builtin " ++ name) >>= fun _ =>
            return ({ session with searchPaths := args }, .ok 0))) := by
  refine ⟨exists_map_eq fun arg member => exists_quotation (quotable arg member), ?_⟩
  rintro operands rfl
  have free (q : Quotation) (member : q ∈ operands) : '|' ∉ q.body := by
    have marked := (quotable _ (List.mem_map_of_mem member)).1
    rwa [text, String.toList_ofList] at marked
  have runs {command : Standard}
      (known : Standard.ofWords? name (operands.map text) = some command) :
      Evaluation.line Standard.builtins session (commandLine name operands) =
        Evaluation.runBuiltin session name command.run := by
    rw [List.length_map] at few
    exact line_of_commandLine fits stages standard unaliased free few known
  obtain ⟨command, known⟩ := Standard.exists_ofWords? standard (operands.map text)
  refine ⟨⟨command, known, runs known⟩, ?executed, ?misused, ?paths⟩
  case executed =>
    intro takes
    obtain ⟨performed, performs⟩ := (exists_performs_iff standard).mpr takes
    exact ⟨performed, performs, runs performs.known⟩
  case misused =>
    intro unfit
    have none : ∀ performed, ¬Performs name (operands.map text) performed :=
      not_exists.mp (mt (exists_performs_iff standard).mp unfit)
    obtain ⟨reasons, failed⟩ := run_of_not_performs known none session
    refine ⟨reasons.message, (runs known).trans ?_⟩
    rw [Evaluation.runBuiltin, failed]
    rfl
  case paths =>
    rintro (rfl | rfl)
    · exact runs rfl
    · exact runs rfl

/-- Operands that look like options, like the word for help, like the operator of a redirection, and
like nothing at all become search paths, and one of them keeps the shell from being left. -/
theorem operands_arrive_verbatim_hostile :
    Evaluation.line Standard.builtins { directory := "/" } "path '-x' '--' '--help' 'help' '>' ''" =
      (Shell.log .debug "running builtin path" >>= fun _ =>
        return ({ directory := "/", searchPaths := ["-x", "--", "--help", "help", ">", ""] }, .ok 0)) ∧
    ∃ message, Evaluation.line Standard.builtins { directory := "/" } "exit '--help'" =
      misused { directory := "/" } "exit" message := by
  have fits : Limits.Fits {} := ⟨by decide, by decide, by decide⟩
  let quoted (body : List Char) (absent : '\'' ∉ body) : Quotation := ⟨'\'', body, rfl, absent⟩
  constructor
  · obtain ⟨-, arrive⟩ := @operands_arrive_verbatim { directory := "/" } "path"
      ["-x", "--", "--help", "help", ">", ""] fits (by decide) (by decide) rfl
      (by simp [Quotable]) (by decide)
    let operands : List Quotation :=
      [quoted ['-', 'x'] (by decide), quoted ['-', '-'] (by decide),
        quoted ['-', '-', 'h', 'e', 'l', 'p'] (by decide), quoted ['h', 'e', 'l', 'p'] (by decide),
        quoted ['>'] (by decide), quoted [] (by decide)]
    obtain ⟨-, -, -, paths⟩ := arrive operands rfl
    exact paths (.inl rfl)
  · obtain ⟨-, arrive⟩ := @operands_arrive_verbatim { directory := "/" } "exit" ["--help"] fits
      (by decide) (by decide) rfl (by simp [Quotable]) (by decide)
    obtain ⟨-, -, misuse, -⟩ :=
      arrive [quoted ['-', '-', 'h', 'e', 'l', 'p'] (by decide)] rfl
    have unfit : ¬Takes "exit" 1 := by simp [Takes]
    exact misuse unfit

end LineShell.CommandOperands
