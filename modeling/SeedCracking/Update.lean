/-! The messages the native code sends to the mod. -/

namespace SeedCracking

/-- One call of `sendUpdate`: the translation key, whether it is only logged, and the numbers. -/
structure Update where
  update : String
  onlyLog : Bool
  args : List (BitVec 64)
  deriving DecidableEq

end SeedCracking
