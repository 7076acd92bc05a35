/-! Sets of characters given by the code points at which membership changes. -/

namespace Verdict.Text

/-- Membership in the set that starts out empty and changes at each listed code point. -/
def inRuns (c : Nat) : List Nat → Bool
  | [] => false
  | b :: bs => decide (b ≤ c) && !inRuns c bs

end Verdict.Text
