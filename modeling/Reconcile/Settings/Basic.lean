import Reconcile.Binary64.Basic
import Reconcile.Calendar.Timestamp
import Reconcile.Settings.Policy

set_option autoImplicit false

/- All settings: how long intents live, how deposits are matched and how sweeps run. -/
namespace Reconcile

/-- How sweeps run. -/
structure SweepRule where
  /-- How long a deposit may stay without an attribution. -/
  graceSeconds : Int
  /-- The most rows of a kind that one sweep touches. -/
  batch : Int
  /-- From the start of one sweep to the start of the next. -/
  intervalSeconds : Binary64
  deriving DecidableEq, Inhabited, Repr

namespace SweepRule

def usual : SweepRule := { graceSeconds := 3600, batch := 500, intervalSeconds := .ofInt 60 }

def grace (rule : SweepRule) : Except Timestamp.Fault Duration :=
  Duration.ofSeconds? rule.graceSeconds

end SweepRule

structure Settings where
  /-- How long an intent lives that does not say it. -/
  ttlMinutes : Int
  matching : Policy
  sweep : SweepRule
  deriving DecidableEq, Inhabited, Repr

namespace Settings

def usual : Settings := { ttlMinutes := 15, matching := .usual, sweep := .usual }

def ttl (settings : Settings) : Except Timestamp.Fault Duration :=
  Duration.ofMinutes? settings.ttlMinutes

end Settings

end Reconcile
