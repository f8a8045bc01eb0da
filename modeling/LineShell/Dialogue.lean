/-! Programs as trees of requests. A program either is done or asks its host something and goes
on with the answer. A statement about every answer the host may give is a statement about every
branch of the tree, with no model of the host behind it; what answers the requests turns the tree
into a run. -/
namespace LineShell

/-- A program that makes requests `Q`, each with its type of answers. -/
inductive Dialogue (Q : Type) (A : Q → Type) (α : Type) where
  | done (value : α)
  | ask (request : Q) (next : A request → Dialogue Q A α)
  /-- Asks the same again until an answer is settled, and goes on with that one. -/
  | insist (request : Q) (settled : A request → Bool) (next : A request → Dialogue Q A α)

namespace Dialogue

variable {Q : Type} {A : Q → Type} {α β : Type}

/-- One program after another. -/
def bind : Dialogue Q A α → (α → Dialogue Q A β) → Dialogue Q A β
  | done value, f => f value
  | ask request next, f => ask request fun answer => (next answer).bind f
  | insist request settled next, f => insist request settled fun answer => (next answer).bind f

/-- A dialogue goes on with what the answers so far led to. -/
instance : Monad (Dialogue Q A) where
  pure := done
  bind := bind

/-- The program that makes one request and ends with its answer. -/
def request (q : Q) : Dialogue Q A (A q) :=
  ask q done

/-- The program that makes one request until its answer is settled. -/
def requestUntil (q : Q) (settled : A q → Bool) : Dialogue Q A (A q) :=
  insist q settled done

/-- A request and the answer it got. -/
abbrev Exchange (Q : Type) (A : Q → Type) : Type :=
  (q : Q) × A q

/-- The runs of a program: the exchanges in order and the value it ends with. Every answer is
possible. -/
inductive Run : Dialogue Q A α → List (Exchange Q A) → α → Prop where
  | done (value : α) : Run (done value) [] value
  | ask {request : Q} {next : A request → Dialogue Q A α} {rest : List (Exchange Q A)} {value : α}
      (answer : A request) (run : Run (next answer) rest value) :
      Run (ask request next) (⟨request, answer⟩ :: rest) value
  | again {request : Q} {settled : A request → Bool} {next : A request → Dialogue Q A α}
      {rest : List (Exchange Q A)} {value : α}
      (answer : A request) (unsettled : settled answer = false)
      (run : Run (insist request settled next) rest value) :
      Run (insist request settled next) (⟨request, answer⟩ :: rest) value
  | settled {request : Q} {settled : A request → Bool} {next : A request → Dialogue Q A α}
      {rest : List (Exchange Q A)} {value : α}
      (answer : A request) (final : settled answer = true) (run : Run (next answer) rest value) :
      Run (insist request settled next) (⟨request, answer⟩ :: rest) value

/-- Asks until the answer is settled; after `tries` unsettled ones the next is taken as it is. -/
def answerUntil {m : Type → Type} [Monad m] (answer : (q : Q) → m (A q)) (q : Q)
    (settled : A q → Bool) : Nat → m (A q)
  | 0 => answer q
  | tries + 1 => do
    let a ← answer q
    if settled a then return a else answerUntil answer q settled tries

/-- The run of a program against a host, which is what answers its requests. -/
def interpret {m : Type → Type} [Monad m] (answer : (q : Q) → m (A q)) (patience : Nat) :
    Dialogue Q A α → m α
  | done value => return value
  | ask q next => do
    let a ← answer q
    (next a).interpret answer patience
  | insist q settled next => do
    let a ← answerUntil answer q settled patience
    (next a).interpret answer patience

end Dialogue

end LineShell
