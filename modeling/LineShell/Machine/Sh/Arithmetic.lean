/-! Arithmetic of the command language on whole numbers. -/
namespace LineShell.Machine.Sh

/-- A token of an expression. -/
inductive ArithToken where
  | number (n : Int)
  | operator (text : String)
  deriving DecidableEq

/-- The tokens of an expression; names stand for their values. At most `fuel` characters are
looked at. -/
def arithTokens (value : String → Int) : Nat → List Char → Option (List ArithToken)
  | 0, _ => some []
  | _, [] => some []
  | fuel + 1, c :: rest =>
    if c == ' ' || c == '\t' || c == '\n' || c == '$' then arithTokens value fuel rest
    else if c.isDigit then
      let digits := c :: rest.takeWhile Char.isDigit
      let n : Nat := digits.foldl (fun n d => n * 10 + (d.toNat - '0'.toNat)) 0
      (arithTokens value fuel (rest.dropWhile Char.isDigit)).map (.number n :: ·)
    else if c.isAlpha || c == '_' then
      let name := c :: rest.takeWhile fun c => c.isAlphanum || c == '_'
      (arithTokens value fuel (rest.dropWhile fun c => c.isAlphanum || c == '_')).map
        (.number (value (String.ofList name)) :: ·)
    else
      let two := String.ofList (c :: rest.take 1)
      if ["==", "!=", "<=", ">=", "&&", "||"].contains two then
        (arithTokens value fuel (rest.drop 1)).map (.operator two :: ·)
      else if "+-*/%()<>!".toList.contains c then
        (arithTokens value fuel rest).map (.operator (String.singleton c) :: ·)
      else none

/-- How tightly an operator between two operands binds. -/
def arithLevel? (operator : String) : Option Nat :=
  match operator with
  | "||" => some 1
  | "&&" => some 2
  | "==" | "!=" => some 3
  | "<" | ">" | "<=" | ">=" => some 4
  | "+" | "-" => some 5
  | "*" | "/" | "%" => some 6
  | _ => none

/-- What is wrong with an expression. -/
inductive ArithFault where
  | malformed
  | divisionByZero
  deriving DecidableEq, Repr

/-- The wording of the fault. -/
def ArithFault.message : ArithFault → String
  | malformed => "expecting primary"
  | divisionByZero => "division by zero"

/-- The value of an operator between two numbers. -/
def arithApply (operator : String) (a b : Int) : Except ArithFault Int :=
  let truth (p : Bool) : Except ArithFault Int := .ok (if p then 1 else 0)
  match operator with
  | "+" => .ok (a + b)
  | "-" => .ok (a - b)
  | "*" => .ok (a * b)
  | "/" => if b == 0 then .error .divisionByZero else .ok (a.tdiv b)
  | "%" => if b == 0 then .error .divisionByZero else .ok (a.tmod b)
  | "==" => truth (a == b)
  | "!=" => truth (a != b)
  | "<" => truth (a < b)
  | ">" => truth (a > b)
  | "<=" => truth (a ≤ b)
  | ">=" => truth (a ≥ b)
  | "&&" => truth (a != 0 && b != 0)
  | "||" => truth (a != 0 || b != 0)
  | _ => .error .malformed

mutual

/-- A number, a negation, or an expression in brackets. -/
def arithOperand : Nat → List ArithToken → Except ArithFault (Int × List ArithToken)
  | 0, _ => .error .malformed
  | fuel + 1, tokens =>
    match tokens with
    | .number n :: rest => .ok (n, rest)
    | .operator "-" :: rest => (arithOperand fuel rest).map fun (n, rest) => (-n, rest)
    | .operator "+" :: rest => arithOperand fuel rest
    | .operator "!" :: rest =>
      (arithOperand fuel rest).map fun (n, rest) => (if n == 0 then 1 else 0, rest)
    | .operator "(" :: rest =>
      match arithAbove fuel 0 rest with
      | .ok (n, .operator ")" :: rest) => .ok (n, rest)
      | .ok _ => .error .malformed
      | .error fault => .error fault
    | _ => .error .malformed

/-- An expression whose operators bind more tightly than a level. -/
def arithAbove : Nat → Nat → List ArithToken → Except ArithFault (Int × List ArithToken)
  | 0, _, _ => .error .malformed
  | fuel + 1, level, tokens =>
    match arithOperand fuel tokens with
    | .error fault => .error fault
    | .ok (left, rest) => arithGo fuel level left rest

/-- Goes on with an expression after its left operand. -/
def arithGo : Nat → Nat → Int → List ArithToken → Except ArithFault (Int × List ArithToken)
  | 0, _, left, rest => .ok (left, rest)
  | fuel + 1, level, left, rest =>
    match rest with
    | .operator o :: more =>
      match arithLevel? o with
      | none => .ok (left, rest)
      | some own =>
        if own ≤ level then .ok (left, rest)
        else match arithAbove fuel own more with
          | .error fault => .error fault
          | .ok (right, after) =>
            match arithApply o left right with
            | .error fault => .error fault
            | .ok n => arithGo fuel level n after
    | _ => .ok (left, rest)

end

/-- The value of an expression. -/
def arithValue (value : String → Int) (source : String) : Except ArithFault Int :=
  match arithTokens value (source.length + 1) source.toList with
  | none => .error .malformed
  | some [] => .ok 0
  | some tokens =>
    match arithAbove (4 * tokens.length + 4) 0 tokens with
    | .ok (n, []) => .ok n
    | .ok _ => .error .malformed
    | .error fault => .error fault

end LineShell.Machine.Sh
