/-!
# Runs of decimal digits
-/

namespace Bindery

namespace Digits

/-- The value of a run of decimal digits. -/
def value (digits : List Char) : Nat :=
  digits.foldl (fun n c => 10 * n + (c.toNat - '0'.toNat)) 0

end Digits

end Bindery
