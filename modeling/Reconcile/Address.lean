import Reconcile.Text.Blank
import Reconcile.Text.Lowercase
import Reconcile.Text.Quoted

set_option autoImplicit false

/-
Receiver addresses. The canonical form is small letters with the mark 0x and 64 hexadecimal
digits; every written form of one number has the same canonical form.
-/
namespace Reconcile.Address

/-- Why a text is no address. -/
inductive Fault
  | empty
  | invalid (written : String)
  deriving DecidableEq, Inhabited, Repr

def Fault.message : Fault → String
  | .empty => "address must be non-empty"
  | .invalid written => "Invalid Starknet address: " ++ Text.quoted written

/-- Hexadecimal digits of an address. -/
def width : Nat := 64

def isHexDigit (c : Char) : Bool := ('0' ≤ c && c ≤ '9') || ('a' ≤ c && c ≤ 'f')

def dropMark : List Char → List Char
  | '0' :: 'x' :: rest => rest
  | cs => cs

def padded (digits : List Char) : List Char := List.replicate (width - digits.length) '0' ++ digits

/-- Whether a text is made of digits, one at least and no more than an address has. The pattern
behind it also allows one line end after the digits. -/
def isBody (cs : List Char) : Bool :=
  let digits := cs.takeWhile isHexDigit
  let rest := cs.dropWhile isHexDigit
  !digits.isEmpty && digits.length ≤ width && (rest == [] || rest == ['\n'])

/-- The canonical form of a written address. -/
def normalize (written : String) : Except Fault String :=
  let small := Text.lower (Text.trimBy Text.isBlank written.toList)
  let body := dropMark small
  if small.isEmpty then .error .empty
  else if isBody body then .ok ("0x" ++ String.ofList (padded body))
  else .error (.invalid written)

end Reconcile.Address
