import Mathlib.Data.Fin.Basic

/-!
What the server and the target side share. Every fallible function of the daemon
returns one of the status codes, so the model keeps them as an enumeration and
returns them beside the new state.
-/

namespace AtScaleDebug

inductive Status where
  | ok
  | err
  | timeout
  deriving DecidableEq, Repr

def numGpios : Nat := 14
def numDbusFds : Nat := 1

end AtScaleDebug
