set_option autoImplicit false

/- Division to the nearest whole number; half of a unit goes to the even neighbour. -/
namespace Reconcile

/-- The whole number nearest to `n / d`, the even one of two that are equally near. -/
def roundHalfEven (n d : Nat) : Nat :=
  let whole := n / d
  let twice := 2 * (n % d)
  if twice < d then whole
  else if d < twice then whole + 1
  else if whole % 2 = 0 then whole
  else whole + 1

end Reconcile
