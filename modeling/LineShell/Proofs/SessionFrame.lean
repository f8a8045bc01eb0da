import LineShell.Builtin.Standard
import LineShell.Proofs.DialogueRuns
import LineShell.Proofs.LinePlans

/-! What evaluation leaves alone. A line changes one part of the session at most, and which part is
decided by the name of the built-in command that answers to it. No line touches the limits, the
history or the environment, and no line takes back that the shell is to be left. -/
namespace LineShell.SessionFrame
open Dialogue LinePlans

/-- What a standard command makes of the session. -/
def Effect : Standard → Session → Session → Prop
  | .leave, before, after => after = { before with exiting := true }
  | .changeDirectory _, before, after => ∃ path, after = { before with directory := path }
  | .setSearchPaths directories, before, after => after = { before with searchPaths := directories }
  | .alias _, before, after => ∃ table, after = { before with aliases := table }
  | .printDirectory, before, after | .help, before, after | .listVariables, before, after
  | .listHistory, before, after | .misuse _, before, after => after = before

/-- What the command with this name may have done to the session, whatever its operands. -/
def Touches (name : String) (before after : Session) : Prop :=
  match name with
  | "exit" => after = before ∨ after = { before with exiting := true }
  | "cd" => ∃ path, after = { before with directory := path }
  | "path" | "paths" => ∃ directories, after = { before with searchPaths := directories }
  | "alias" => ∃ table, after = { before with aliases := table }
  | _ => after = before

/-- What every line keeps. -/
structure Keeps (before after : Session) : Prop where
  limits : after.limits = before.limits
  history : after.history = before.history
  environment : after.environment = before.environment
  exiting : before.exiting = true → after.exiting = true

/-- What a line may have done to the session, by the kind of line it is. -/
structure LineFrame (session : Session) (text : String) (after : Session) : Prop where
  keeps : Keeps session after
  blank : (Text.trim text).isEmpty → after = session
  refused : ∀ e,
    Pipeline.readWith (Expansion.word session) session.limits (Text.trim text) = .error e →
    after = session
  several : ∀ pipeline,
    Pipeline.readWith (Expansion.word session) session.limits (Text.trim text) = .ok pipeline →
    2 ≤ pipeline.stages.length → after = session
  single : ∀ stage,
    Pipeline.readWith (Expansion.word session) session.limits (Text.trim text) = .ok ⟨[stage]⟩ →
    ∃ name operands, substitute session.aliases stage.argv = name :: operands ∧
      (Builtin.find? Standard.builtins name operands = none → after = session) ∧
      Touches name session after

/-- Lines evaluated one after another, whatever comes of each. -/
def evaluateAll (builtins : List Builtin) : Session → List String → Shell Session
  | session, [] => return session
  | session, text :: rest => do
    let (session, _) ← Evaluation.line builtins session text
    evaluateAll builtins session rest

section Parts

variable {before middle after : Session} {name : String} {operands : List String}
  {command : Standard}

theorem Keeps.refl (session : Session) : Keeps session session :=
  ⟨rfl, rfl, rfl, id⟩

theorem Keeps.trans (first : Keeps before middle) (second : Keeps middle after) :
    Keeps before after where
  limits := second.limits.trans first.limits
  history := second.history.trans first.history
  environment := second.environment.trans first.environment
  exiting := second.exiting ∘ first.exiting

/-- No part that a command may change is one that is kept. -/
theorem Touches.keeps (touches : Touches name before after) : Keeps before after := by
  unfold Touches at touches
  split at touches
  · obtain rfl | rfl := touches
    · exact .refl _
    · exact ⟨rfl, rfl, rfl, fun _ => rfl⟩
  · obtain ⟨path, rfl⟩ := touches
    exact ⟨rfl, rfl, rfl, id⟩
  · obtain ⟨directories, rfl⟩ := touches
    exact ⟨rfl, rfl, rfl, id⟩
  · obtain ⟨directories, rfl⟩ := touches
    exact ⟨rfl, rfl, rfl, id⟩
  · obtain ⟨table, rfl⟩ := touches
    exact ⟨rfl, rfl, rfl, id⟩
  · obtain rfl := touches
    exact .refl _

theorem Touches.refl (name : String) (session : Session) : Touches name session session := by
  unfold Touches
  split
  · exact .inl rfl
  · exact ⟨_, rfl⟩
  · exact ⟨_, rfl⟩
  · exact ⟨_, rfl⟩
  · exact ⟨_, rfl⟩
  · rfl

/-- A command that takes no operand changes nothing when it is given one. -/
private theorem effect_alone (effect : Effect (Standard.alone command operands) before after) :
    after = before ∨ Effect command before after := by
  cases operands with
  | nil => exact .inr effect
  | cons operand rest => exact .inl effect

/-- A command does what its name allows. -/
theorem Effect.touches (known : Standard.ofWords? name operands = some command)
    (effect : Effect command before after) : Touches name before after := by
  unfold Standard.ofWords? at known
  split at known
  case h_1 =>
    cases known
    exact effect_alone effect
  case h_2 =>
    cases known
    -- Whoever gives no directory, or more than one, is only told so.
    obtain _ | ⟨target, _ | ⟨operand, rest⟩⟩ := operands
    · exact ⟨before.directory, effect⟩
    · exact effect
    · exact ⟨before.directory, effect⟩
  case h_4 | h_5 =>
    cases known
    exact ⟨_, effect⟩
  case h_9 =>
    cases known
    exact effect
  case h_10 => cases known
  -- The other commands change nothing, with or without an operand.
  all_goals
    cases known
    exact (effect_alone effect).elim id id

end Parts

/-! ### Commands -/

section Commands

variable {session : Session}

private theorem printing_keeps (session : Session) (pieces : List String) :
    (Standard.printing session pieces).Ends fun r => r.1 = session :=
  .after fun _ => .done rfl

private theorem enter_effect (session : Session) (target : String) :
    (Standard.enter session target).Ends fun r =>
      ∃ path, r.1 = { session with directory := path } := by
  refine .after fun canonical => ?_
  cases canonical with
  | error fault => exact .done ⟨session.directory, rfl⟩
  | ok path =>
    refine .after fun changed => ?_
    cases changed with
    | error fault => exact .done ⟨session.directory, rfl⟩
    | ok _ => exact .done ⟨path, rfl⟩

private theorem runAlias_effect (session : Session) (operands : List String) :
    (Standard.runAlias session operands).Ends fun r =>
      ∃ table, r.1 = { session with aliases := table } := by
  unfold Standard.runAlias
  split
  · exact .after fun _ => .done ⟨session.aliases, rfl⟩
  · rename_i name command
    split
    · exact .done ⟨session.aliases, rfl⟩
    · rename_i table defined
      exact .after fun _ => .done ⟨table, rfl⟩
  · exact .done ⟨session.aliases, rfl⟩

/-- Whatever the system answers, a standard command does to the session what it is meant to do or
less. -/
theorem run_effect : ∀ (command : Standard) (session : Session),
    (command.run session).Ends fun r => Effect command session r.1
  | .leave, _ | .setSearchPaths _, _ | .misuse _, _ => .done rfl
  | .changeDirectory target, session => enter_effect session target
  | .alias operands, session => runAlias_effect session operands
  | .printDirectory, session | .help, session | .listVariables, session
  | .listHistory, session => printing_keeps session _

/-- The call writes to standard output. -/
def Prints : Call → Prop
  | .print _ => True
  | _ => False

private theorem printing_prints (session : Session) (pieces : List String) :
    Only Prints (Standard.printing session pieces) := by
  refine Only.bind ?_ fun _ => trivial
  induction pieces with
  | nil => trivial
  | cons text rest ih =>
    refine (Only.request trivial).bind fun written => ?_
    cases written with
    | error fault => trivial
    | ok _ => exact ih

private theorem runAlias_prints (session : Session) (operands : List String) :
    Only Prints (Standard.runAlias session operands) := by
  unfold Standard.runAlias
  split
  · exact printing_prints session _
  · split
    · trivial
    · exact printing_prints _ _
  · trivial

/-- All that a standard command asks of the system is to print, unless it changes the directory. -/
theorem run_prints (session : Session) : ∀ {command : Standard},
    (∀ target, command ≠ .changeDirectory target) → Only Prints (command.run session)
  | .changeDirectory target, other => absurd rfl (other target)
  | .leave, _ | .setSearchPaths _, _ | .misuse _, _ => trivial
  | .alias operands, _ => runAlias_prints session operands
  | .printDirectory, _ | .help, _ | .listVariables, _ | .listHistory, _ => printing_prints session _

/-- The calls of the standard commands. They look for a directory and change to it, or they print. -/
def Serves : Call → Prop
  | .canonicalPath _ | .changeDirectory _ | .print _ => True
  | _ => False

/-- A standard command asks the system for nothing else, whatever it is given. -/
theorem run_serves (session : Session) (command : Standard) : Only Serves (command.run session) := by
  by_cases changes : ∃ target, command = .changeDirectory target
  · obtain ⟨target, rfl⟩ := changes
    refine (Only.request trivial).bind fun canonical => ?_
    cases canonical with
    | error fault => trivial
    | ok path =>
      refine (Only.request trivial).bind fun changed => ?_
      cases changed <;> trivial
  · refine (run_prints session fun target same => changes ⟨target, same⟩).mono fun call prints => ?_
    cases call <;> trivial

/-- A built-in command is the only one to change the session while it is run. -/
theorem runBuiltin_of_command {command : Command} {kept : Session → Prop} (name : String)
    (ends : (command session).Ends fun r => kept r.1) :
    (Evaluation.runBuiltin session name command).Ends fun r => kept r.1 := by
  refine .after fun _ => ends.bind ?_
  rintro ⟨after, code | reasons⟩ holds
  · exact .after fun _ => .done holds
  · exact .done holds

/-- What answers to a name touches what is the name's. -/
theorem touches_of_find? {name : String} {operands : List String} {command : Command}
    (found : Builtin.find? Standard.builtins name operands = some command) :
    (Evaluation.runBuiltin session name command).Ends fun r => Touches name session r.1 := by
  obtain ⟨standard, known, rfl⟩ := Standard.find?_eq_some_iff.mp found
  refine runBuiltin_of_command name ?_
  exact (run_effect standard session).mono fun _ effect => effect.touches known

end Commands

/-! ### Lines -/

section Lines

variable {session after : Session} {text : String}

/-- A line of any kind may leave the session as it was. -/
theorem LineFrame.refl (session : Session) (text : String) : LineFrame session text session where
  keeps := .refl session
  blank _ := rfl
  refused _ _ := rfl
  several _ _ _ := rfl
  single stage read := by
    obtain ⟨name, operands, typed⟩ := name_of_read read
    exact ⟨name, operands, typed, fun _ => rfl, .refl name session⟩

/-- The line of a built-in command changes what the command does. -/
theorem LineFrame.of_perform {name : String} {command : Command}
    (planned : Plan.ofLine Standard.builtins session text = .perform name command)
    (touches : Touches name session after) : LineFrame session text after := by
  obtain ⟨stage, operands, read, typed, found⟩ := Plan.ofLine_eq_perform planned
  refine ⟨touches.keeps, ?blank, ?refused, ?several, ?single⟩
  case blank =>
    intro blank
    cases blank.symm.trans (words_of_read read)
  case refused =>
    intro e failed
    cases failed.symm.trans read
  case several =>
    intro pipeline again several
    cases again.symm.trans read
    exact absurd several (Nat.not_succ_le_self 1)
  case single =>
    intro other again
    cases again.symm.trans read
    refine ⟨name, operands, typed, fun missing => ?_, touches⟩
    cases missing.symm.trans found

/-- Carrying out a plan changes what the plan is about. -/
theorem line_frame (session : Session) (text : String) :
    (Evaluation.line Standard.builtins session text).Ends fun r => LineFrame session text r.1 := by
  rw [line_eq_carryOut]
  refine .after fun _ => ?_
  cases planned : Plan.ofLine Standard.builtins session text with
  | nothing => exact .done (.refl session text)
  | refuse e => exact .done (.refl session text)
  | launch pipeline =>
    rw [Plan.carryOut, runPipeline_eq, map_eq_pure_bind]
    exact .after fun _ => .done (.refl session text)
  | perform name command =>
    obtain ⟨stage, operands, -, -, found⟩ := Plan.ofLine_eq_perform planned
    exact (touches_of_find? found).mono fun _ touches => .of_perform planned touches

/-- What every line keeps, all lines keep. -/
theorem evaluateAll_keeps (session : Session) (texts : List String) :
    (evaluateAll Standard.builtins session texts).Ends (Keeps session) := by
  induction texts generalizing session with
  | nil => exact .done (.refl session)
  | cons text rest ih =>
    refine (line_frame session text).bind fun (middle, _) frame => ?_
    exact (ih middle).mono fun _ later => frame.keeps.trans later

end Lines

/-- The frame of evaluation. Whatever the system answers, a line that is blank, refused, longer than
one stage, or that no built-in command answers to leaves the session as it was, and a built-in
command changes the one part of it that goes with its name. The limits, the history and the
environment are kept by every line, and so by any lines one after another; and a session that is to
be left remains one that is to be left. -/
theorem evaluation_touches_one_part (session : Session) :
    (∀ text history after outcome,
      Run (Evaluation.line Standard.builtins session text) history (after, outcome) →
        LineFrame session text after) ∧
    ∀ texts history after, Run (evaluateAll Standard.builtins session texts) history after →
      Keeps session after := by
  constructor
  · intro text history after outcome ran
    exact (line_frame session text).of_run ran
  · intro texts history after ran
    exact (evaluateAll_keeps session texts).of_run ran

/-- A session in which one name stands for `exit`. -/
def quittingSession : Session :=
  { directory := "/", aliases := ⟨[("q", "exit")]⟩ }

/-- One line defines the alias, though nothing can be printed, and one ends the session with it.
Neither has done more. -/
theorem evaluation_touches_one_part_quitting : ∃ history,
    Run (evaluateAll Standard.builtins { directory := "/" } ["alias q exit", "q"]) history
      { quittingSession with exiting := true } ∧
    Keeps { directory := "/" } { quittingSession with exiting := true } := by
  have planned : Plan.ofLine Standard.builtins { directory := "/" } "alias q exit" =
      .perform "alias" (Standard.run (.alias ["q", "exit"])) := by rfl
  have unnoted : noteLine { directory := "/" } "alias q exit" = return () := by rfl
  have defines : Run (Evaluation.line Standard.builtins { directory := "/" } "alias q exit")
      [⟨.log .debug "running builtin alias", ()⟩,
        ⟨.print "Alias 'q' set to 'exit'\n", .error .notText⟩,
        ⟨.printError (errorLine IoFault.notText.message), .ok ()⟩] (quittingSession, .ok 1) := by
    rw [line_eq_carryOut, planned, unnoted]
    exact .ask _ <| .ask _ <| .ask _ <| .done _
  have planned : Plan.ofLine Standard.builtins quittingSession "q" =
      .perform "exit" (Standard.run .leave) := by rfl
  have noted : noteLine quittingSession "q" = Shell.log .debug "alias q -> exit" := by rfl
  have leaves : Run (Evaluation.line Standard.builtins quittingSession "q")
      [⟨.log .debug "alias q -> exit", ()⟩, ⟨.log .debug "running builtin exit", ()⟩]
      ({ quittingSession with exiting := true }, .ok 0) := by
    rw [line_eq_carryOut, planned, noted]
    exact .ask _ <| .ask _ <| .done _
  have ran : Run (evaluateAll Standard.builtins { directory := "/" } ["alias q exit", "q"])
      (_ ++ (_ ++ [])) { quittingSession with exiting := true } :=
    defines.bind (leaves.bind (.done _))
  exact ⟨_, ran, (evaluation_touches_one_part { directory := "/" }).2 _ _ _ ran⟩

end LineShell.SessionFrame
