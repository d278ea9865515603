import Reconcile.Fault
import Reconcile.Settings.Environment

set_option autoImplicit false

/-
The place of the database, and the form of it that a log may show: without user, password and
parameters.
-/
namespace Reconcile.Database

def usualFile : String := "attribution.db"

def url (env : Environment) : String :=
  let own := env.value "ATTRIBUTION_DB_URL"
  let shared := env.value "DATABASE_URL"
  let file := env.value "ATTRIBUTION_DB_PATH"
  if !own.isEmpty then own
  else if !shared.isEmpty then shared
  else "sqlite:///" ++ (if file.isEmpty then usualFile else file)

/-- What stands before and after the first mark of a text. -/
def cutAt (mark : List Char) : List Char → Option (List Char × List Char)
  | [] => if mark.isEmpty then some ([], []) else none
  | c :: rest =>
    if mark.isPrefixOf (c :: rest) then some ([], (c :: rest).drop mark.length)
    else (cutAt mark rest).map fun (before, after) => (c :: before, after)

/-- What stands before the parameters of a URL. -/
def withoutParameters (cs : List Char) : List Char := cs.takeWhile (· ≠ '?')

/-- A URL without user, password and parameters. -/
def mask (url : String) : Except Fault String :=
  let base := withoutParameters url.toList
  if base.contains '@' then
    let (scheme, rest) := (cutAt [':', '/', '/'] base).getD (base, [])
    match cutAt ['@'] rest with
    | some (_, place) =>
      .ok (String.ofList scheme ++ "://***@" ++ String.ofList place)
    | none => .error .misplacedUser
  else .ok (String.ofList base)

end Reconcile.Database
