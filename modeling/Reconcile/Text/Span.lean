set_option autoImplicit false

/- Membership in a list of spans of code points, both ends included. -/
namespace Reconcile.Text

def withinSpans (spans : List (Nat × Nat)) (code : Nat) : Bool :=
  spans.any fun span => span.1 ≤ code && code ≤ span.2

end Reconcile.Text
