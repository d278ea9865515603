import Reconcile.Attribution

set_option autoImplicit false

/-
Counters: how many intents were declared and how many were matched, by vault, chain and partner,
and the matched ones by source too. Each event that was counted is kept as its labels.
-/
namespace Reconcile

/-- The labels of one counted event. -/
structure Label where
  vault : String
  chain : Int
  partner : String
  source : Option Source
  deriving DecidableEq, Inhabited, Repr

/-- Every event that was counted, the latest first. -/
structure Counters where
  created : List Label
  matched : List Label
  deriving DecidableEq, Inhabited, Repr

/-- A counter with its value. -/
structure Tally where
  label : Label
  count : Nat
  deriving DecidableEq, Inhabited, Repr

namespace Label

def ofIntent (intent : Intent) : Label :=
  ⟨intent.bucket.vault, intent.bucket.chain, intent.partner, none⟩

def ofMatch (bucket : Bucket) (attribution : Attribution) : Label :=
  ⟨bucket.vault, bucket.chain, attribution.partner.getD "", some attribution.source⟩

/-- The words of a label in the order in which counters are sorted. -/
def words (label : Label) : List String :=
  [toString label.chain, label.partner, (label.source.map (·.name)).getD "", label.vault]

end Label

namespace Counters

def zero : Counters := ⟨[], []⟩

def countCreated (counters : Counters) (intent : Intent) : Counters :=
  { counters with created := .ofIntent intent :: counters.created }

/-- Counts a matched intent; an attribution that links none does not count. -/
def countMatched (counters : Counters) (bucket : Bucket) (attribution : Attribution) : Counters :=
  if attribution.intent.isNone then counters
  else { counters with matched := .ofMatch bucket attribution :: counters.matched }

/-- Each label with the number of its events, in the order of the words. -/
def tallies (labels : List Label) : List Tally :=
  (labels.eraseDups.map fun label => ⟨label, labels.count label⟩).mergeSort fun a b =>
    !(decide (b.label.words < a.label.words))

end Counters

end Reconcile
