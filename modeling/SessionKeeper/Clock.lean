/-!
# Waits

Time is counted in milliseconds. A wait ends after its duration, and after thirty years at the
latest.
-/

namespace SessionKeeper

/-- Thirty years of 365 days. -/
def longestWait : Nat := 946080000000

/-- The instant at which a wait ends that begins at `now`. -/
def wake (now duration : Nat) : Nat := now + min duration longestWait

end SessionKeeper
