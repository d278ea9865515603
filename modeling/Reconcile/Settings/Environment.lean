import Reconcile.Numeral.Reader
import Reconcile.Settings.Basic
import Reconcile.Text.Blank

set_option autoImplicit false

/-
Settings from the environment. A variable that is unset, blank or unreadable leaves the setting
at its default.
-/
namespace Reconcile

abbrev Environment : Type := List (String × String)

namespace Environment

/-- The value of a variable without blanks around it; empty if it is not set. -/
def value (env : Environment) (name : String) : String :=
  Text.strip (((env.find? (·.1 = name)).map (·.2)).getD "")

/-- A value read by a reader, or the default. -/
def readOr {α : Type} (env : Environment) (name : String) (read : String → Option α)
    (default : α) : α :=
  let written := env.value name
  if written.isEmpty then default else (read written).getD default

def int (env : Environment) (name : String) (default : Int) : Int :=
  env.readOr name Numeral.int? default

def binary (env : Environment) (name : String) (default : Binary64) : Binary64 :=
  env.readOr name Numeral.binary? default

/-- A decimal that is no finite number counts as unreadable. -/
def decimal (env : Environment) (name : String) (default : Decimal) : Decimal :=
  env.readOr name (fun written => (Decimal.read? written).filter (·.isFinite)) default

def matching (env : Environment) : Policy :=
  { toleranceBps := env.int "MATCH_AMOUNT_TOLERANCE_BPS" Policy.usual.toleranceBps
    amountWeight := env.decimal "MATCH_AMOUNT_WEIGHT" Policy.usual.amountWeight
    timeWeight := env.decimal "MATCH_TIME_WEIGHT" Policy.usual.timeWeight
    tieDelta := env.decimal "MATCH_TIE_SCORE_DELTA" Policy.usual.tieDelta
    ambiguousCap := env.decimal "MATCH_AMBIGUOUS_CONFIDENCE_CAP" Policy.usual.ambiguousCap
    inferredCap := Policy.usual.inferredCap }

/-- At least one second lies between sweeps. -/
def sweepInterval (env : Environment) : Binary64 :=
  Binary64.one.max (env.binary "SWEEP_INTERVAL_SEC" SweepRule.usual.intervalSeconds)

def sweep (env : Environment) : SweepRule :=
  { graceSeconds := max 0 (env.int "SWEEP_GRACE_PERIOD_SEC" SweepRule.usual.graceSeconds)
    batch := max 1 (env.int "SWEEP_BATCH_SIZE" SweepRule.usual.batch)
    intervalSeconds := env.sweepInterval }

/-- All settings, if the policy keeps its rules. -/
def settings (env : Environment) : Except Fault Settings := do
  let matching := env.matching
  matching.check
  return { ttlMinutes := max 1 (env.int "INTENT_DEFAULT_TTL_MINUTES" Settings.usual.ttlMinutes)
           matching, sweep := env.sweep }

end Environment

end Reconcile
