import LineShell.Proofs.WorkingDirectory

/-! Built-in commands that fail. Whatever the reason, the shell is still in its directory, and the
session is what it was, with one exception: an alias is in the table before its definition is
confirmed on standard output, so a confirmation that cannot be written is the failure of a command
that has done its work. -/
namespace LineShell.FailedCommands
open Dialogue SessionFrame WorkingDirectory RefusedReports

/-- What is written once an alias is defined. -/
def confirmation (own text : String) : String :=
  "Alias '" ++ own ++ "' set to '" ++ text ++ "'\n"

/-- The operands defined an alias, and nothing failed but its confirmation. -/
def Unconfirmed (session : Session) (operands : List String)
    (history : List (Exchange Call Call.Answer)) (after : Session) (reasons : Failure) : Prop :=
  ∃ own text table fault, operands = [own, text] ∧ session.aliases.insert own text = .ok table ∧
    after = { session with aliases := table } ∧
    history = [⟨.print (confirmation own text), .error fault⟩] ∧ reasons = [fault.message]

section Commands

variable {session after : Session} {history : List (Exchange Call Call.Answer)} {text : String}
  {reasons : Failure} {name : String} {operands : List String}

private theorem printing_failed
    (ran : Run (Standard.printing session [text]) history (after, .error reasons)) :
    after = session ∧
      ∃ fault, history = [⟨.print text, .error fault⟩] ∧ reasons = [fault.message] := by
  obtain ⟨outcome, printed, same⟩ := run_bind_done_iff.mp ran
  obtain ⟨answer, _, rfl, further⟩ := run_request_iff.mp printed
  cases answer with
  | ok _ =>
    obtain ⟨-, rfl⟩ := run_done_iff.mp further
    cases same
  | error fault =>
    obtain ⟨rfl, rfl⟩ := run_done_iff.mp further
    cases same
    exact ⟨rfl, fault, rfl, rfl⟩

private theorem runAlias_failed
    (ran : Run (Standard.runAlias session operands) history (after, .error reasons)) :
    after = session ∨ Unconfirmed session operands history after reasons := by
  obtain _ | ⟨own, _ | ⟨text, _ | ⟨third, rest⟩⟩⟩ := operands
  · obtain ⟨_, _, _, -, -, ended⟩ := run_bind_iff.mp ran
    exact .inl (congrArg Prod.fst (run_done_iff.mp ended).2)
  · cases (run_done_iff.mp ran).2
    exact .inl rfl
  · unfold Standard.runAlias at ran
    cases inserted : session.aliases.insert own text with
    | error e =>
      simp only [inserted] at ran
      cases (run_done_iff.mp ran).2
      exact .inl rfl
    | ok table =>
      simp only [inserted] at ran
      obtain ⟨rfl, fault, rfl, rfl⟩ := printing_failed ran
      exact .inr ⟨own, text, table, fault, rfl, inserted, rfl, rfl, rfl⟩
  · cases (run_done_iff.mp ran).2
    exact .inl rfl

/-- What a command has left of the session if it has failed. -/
theorem run_failed (session : Session) : ∀ (command : Standard),
    Run (command.run session) history (after, .error reasons) →
    after = session ∨ ∃ operands, command = .alias operands ∧
      Unconfirmed session operands history after reasons
  | .leave, ran | .setSearchPaths _, ran => nomatch (run_done_iff.mp ran).2
  | .alias operands, ran => (runAlias_failed ran).imp_right fun made => ⟨operands, rfl, made⟩
  | .changeDirectory target, ran => by
    rcases enter_cases ran with ⟨impossible, -⟩ | ⟨_, -, -, same⟩
    · cases impossible
    · exact .inl same
  | .printDirectory, ran => .inl ((run_effect .printDirectory session).of_run ran)
  | .help, ran => .inl ((run_effect .help session).of_run ran)
  | .listVariables, ran => .inl ((run_effect .listVariables session).of_run ran)
  | .listHistory, ran => .inl ((run_effect .listHistory session).of_run ran)
  | .misuse message, ran => .inl ((run_effect (.misuse message) session).of_run ran)

/-- A failure is reported, and is the status 1 of the line. -/
theorem runBuiltin_failed {command : Command}
    (ran : Run (command session) history (after, .error reasons)) :
    Run (Evaluation.runBuiltin session name command)
      (⟨.log .debug ("running builtin " ++ name), ()⟩ :: (history ++ [written reasons.message]))
      (after, .ok 1) := by
  refine run_request_iff.mpr ⟨(), _, rfl, ran.bind ?_⟩
  exact run_bind_iff.mpr ⟨[_], (), [], rfl, run_complain_iff.mpr rfl, .done _⟩

/-- If that cannot be told, it is the end of the shell. -/
theorem runBuiltin_refused {command : Command}
    (ran : Run (command session) history (after, .error reasons)) (fault : IoFault) :
    Dies (Evaluation.runBuiltin session name command)
      (⟨.log .debug ("running builtin " ++ name), ()⟩ :: (history ++ [refused reasons.message fault]))
      (lastWords fault) := by
  have spares : Spares (.log .debug ("running builtin " ++ name)) := trivial
  refine (dies_request_iff spares).mpr ⟨(), _, rfl, dies_bind_iff.mpr (.inr ?_)⟩
  refine ⟨history, _, _, rfl, ran, dies_bind_iff.mpr (.inl ?_)⟩
  exact dies_complain_iff.mpr ⟨fault, rfl, rfl⟩

end Commands

/-- A command that fails has changed nothing but, at most, the aliases. Whatever the system answers,
and whichever standard command it is with whatever operands, the shell reports the failure with the
status 1, or ends if the report is not taken, and is where it was; and the session is the same,
unless the command was to define an alias, the table took the definition, and the confirmation could
not be written. Then the alias is defined, and the rest of the session is the same. -/
theorem failed_command_keeps_all_but_definition {name : String} {operands : List String}
    {command : Command} {session after : Session} {start here : String} {reasons : Failure}
    {history : List (Exchange Call Call.Answer)}
    (found : Builtin.find? Standard.builtins name operands = some command)
    (course : Course follows (command session) start history (.done (after, .error reasons)) here) :
    here = start ∧
    (after = session ∨ name = "alias" ∧ Unconfirmed session operands history after reasons) ∧
    Run (Evaluation.runBuiltin session name command)
      (⟨.log .debug ("running builtin " ++ name), ()⟩ ::
        (history ++ [⟨.printError (errorLine reasons.message), .ok ()⟩])) (after, .ok 1) ∧
    ∀ fault, Dies (Evaluation.runBuiltin session name command)
      (⟨.log .debug ("running builtin " ++ name), ()⟩ ::
        (history ++ [⟨.printError (errorLine reasons.message), .error fault⟩])) (lastWords fault) := by
  have ran := course.run
  obtain ⟨standard, known, rfl⟩ := Standard.find?_eq_some_iff.mp found
  refine ⟨?stayed, ?kept, runBuiltin_failed ran, runBuiltin_refused ran⟩
  case stayed =>
    have settled : Settled start session (after, .error reasons) here :=
      (run_settles standard session start).along course
    exact (settled.resolve_right nofun).1
  case kept =>
    refine (run_failed session standard ran).imp_right ?_
    rintro ⟨given, rfl, made⟩
    obtain ⟨rfl, rfl⟩ := Standard.ofWords?_eq_alias known
    exact ⟨rfl, made⟩

/-- A device without space for a confirmation. -/
def full : IoFault :=
  .refused ⟨28⟩

/-- The command fails for want of space, and the alias is there. -/
theorem failed_command_keeps_all_but_definition_full :
    ∃ command history, Builtin.find? Standard.builtins "alias" ["ll", "true"] = some command ∧
      Course follows (command { directory := "/" }) "/" history
        (.done ({ directory := "/", aliases := ⟨[("ll", "true")]⟩ }, .error [full.message])) "/" ∧
      Unconfirmed { directory := "/" } ["ll", "true"] history
        { directory := "/", aliases := ⟨[("ll", "true")]⟩ } [full.message] := by
  have found : Builtin.find? Standard.builtins "alias" ["ll", "true"] =
      some (Standard.run (.alias ["ll", "true"])) := Standard.find?_builtins _ _
  have course : Course follows (Standard.run (.alias ["ll", "true"]) { directory := "/" }) "/"
      [⟨.print (confirmation "ll" "true"), .error full⟩]
      (.done ({ directory := "/", aliases := ⟨[("ll", "true")]⟩ }, .error [full.message])) "/" :=
    .ask rfl <| .start _ _
  obtain ⟨-, same | ⟨-, made⟩, -⟩ := failed_command_keeps_all_but_definition found course
  · cases congrArg Session.aliases same
  · exact ⟨_, _, found, course, made⟩

/-- A failed command that has changed the session. -/
theorem definition_outlasts_failure :
    ∃ command history after reasons,
      Builtin.find? Standard.builtins "alias" ["ll", "true"] = some command ∧
      Course follows (command { directory := "/" }) "/" history (.done (after, .error reasons)) "/" ∧
      after ≠ { directory := "/" } := by
  have course : Course follows (Standard.run (.alias ["ll", "true"]) { directory := "/" }) "/"
      [⟨.print (confirmation "ll" "true"), .error full⟩]
      (.done ({ directory := "/", aliases := ⟨[("ll", "true")]⟩ }, .error [full.message])) "/" :=
    .ask rfl <| .start _ _
  exact ⟨_, _, _, _, Standard.find?_builtins _ _, course, nofun⟩

end LineShell.FailedCommands
