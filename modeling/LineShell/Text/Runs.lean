/-! A set of code points written as the ascending list of the places where membership changes:
the first number is the first member, the next one the first code point after its run, and so
on. A code point belongs to the set when an odd number of changes lies at or before it. -/
namespace LineShell.Text

/-- Membership in the set whose changes are listed in ascending order. -/
def inRuns (changes : List Nat) (n : Nat) : Bool :=
  (changes.takeWhile (· ≤ n)).length % 2 == 1

end LineShell.Text
