set_option autoImplicit false

/- Powers of the bases in which numbers are written. -/
namespace Reconcile

def tenTo (k : Nat) : Nat := Nat.pow 10 k

def twoTo (k : Nat) : Nat := Nat.pow 2 k

end Reconcile
