/-!
# Runs of characters

A set of characters is kept as the bounds of its runs: where each run starts and, one past its end,
stops, in ascending order.
-/

namespace SessionKeeper.Text

/-- Whether a character is in one of the runs: the last bound at or below it starts a run. -/
def inRuns (bounds : Array Nat) (c : Char) : Bool :=
  bounds.foldl (fun inside b => if b ≤ c.toNat then !inside else inside) false

end SessionKeeper.Text
