import Mathlib.Data.List.Basic
import Mathlib.Tactic.IntervalCases
import Waymark.Yaml.Scalar.Write

/-!
# Reading numbers and truth values back

A number in decimal digits is read as that number: no base is named at its beginning, and it begins with a
zero only if it is zero. Digits and the names of truth values are plain scalars.
-/

namespace Waymark.Yaml.Number

open Scalar

end Waymark.Yaml.Number
