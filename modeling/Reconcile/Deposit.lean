import Reconcile.Intent
import Reconcile.Text.Blank

set_option autoImplicit false

/-
Confirmed deposits, as they are delivered. A deposit that came through a partner's contract has
the partner's name on it.
-/
namespace Reconcile

/-- `confirmed` is when the chain confirmed it, `tag` the name that a contract left on it. -/
structure Deposit where
  txHash : String
  bucket : Bucket
  amount : Decimal
  shares : Decimal
  confirmed : Timestamp
  tag : Option String
  deriving DecidableEq, Inhabited, Repr

/-- The partner that a tag names; a blank tag names none. -/
def partnerOfTag (tag : Option String) : Option String :=
  let name := Text.strip (tag.getD "")
  if name.isEmpty then none else some name

namespace Deposit

/-- The partner that the deposit itself names. -/
def partner? (deposit : Deposit) : Option String := partnerOfTag deposit.tag

end Deposit

end Reconcile
