/-! # Levels

How much weight a record of the log has.
-/

namespace Pursuit

inductive Level where
  | debug
  | warning
  | error
deriving DecidableEq

end Pursuit
