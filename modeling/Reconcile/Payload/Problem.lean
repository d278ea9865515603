set_option autoImplicit false

/-
What is wrong with a field of a payload. A field has at most one problem, the first that is found,
apart from the names inside an object, which have one each. The problems of a payload are listed in
the order of its fields.
-/
namespace Reconcile.Payload

/-- The two payloads that come from outside. -/
inductive Form
  | declaration
  | delivery
  deriving DecidableEq, Inhabited, Repr

def Form.name : Form → String
  | .declaration => "IntentDeclaration"
  | .delivery => "DepositDelivery"

/-- How a complaint about a payload begins. -/
def Form.complaint : Form → String
  | .declaration => "invalid intent declaration: "
  | .delivery => "invalid deposit delivery: "

inductive Mistake
  | missing
  | notText
  | notUnicode
  | textTooShort
  | textTooLong
  | notWhole
  | wholeWithFraction
  | unreadableWhole
  | wholeTooLong
  | notFinite
  | notDecimal
  | unreadableDecimal
  | notAbove
  | below
  | notMoment
  | unreadableMoment
  | momentOffCalendar
  | notObject
  /-- A name inside the value is no text. -/
  | garbledName (shown : String)
  | refused (reason : String)
  deriving DecidableEq, Inhabited, Repr

/-- The name of a mistake in a list of details. -/
def Mistake.name : Mistake → String
  | .missing => "missing"
  | .notText => "string_type"
  | .notUnicode => "string_unicode"
  | .textTooShort => "string_too_short"
  | .textTooLong => "string_too_long"
  | .notWhole => "int_type"
  | .wholeWithFraction => "int_from_float"
  | .unreadableWhole => "int_parsing"
  | .wholeTooLong => "int_parsing_size"
  | .notFinite => "finite_number"
  | .notDecimal => "decimal_type"
  | .unreadableDecimal => "decimal_parsing"
  | .notAbove => "greater_than"
  | .below => "greater_than_equal"
  | .notMoment => "datetime_type"
  | .unreadableMoment => "datetime_from_date_parsing"
  | .momentOffCalendar => "datetime_parsing"
  | .notObject => "dict_type"
  | .garbledName _ => "string_unicode"
  | .refused _ => "value_error"

/-- A mistake and the name under which the field was given. -/
structure Problem where
  field : String
  mistake : Mistake
  deriving DecidableEq, Inhabited, Repr

end Reconcile.Payload
