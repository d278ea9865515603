import Reconcile.Matching.Selection
import Reconcile.Payload.Delivery
import Reconcile.Proofs.Result
import Reconcile.Store.Attributions
import Reconcile.Store.Intents

set_option autoImplicit false

/-
The two failures that a delivery absorbs can only come from recording a decision. Reading the
payload, observing the deposit, looking for intents and scoring them fail in other ways.
-/
namespace Reconcile

/-- Whether a failure says that somebody else was faster. -/
def Fault.isConflict : Fault → Bool
  | .duplicateAttribution _ => true
  | .claimConflict _ => true
  | _ => false

/-- A computation that never fails because somebody else was faster. -/
def Unrivalled {α : Type} (result : Except Fault α) : Prop :=
  ∀ fault, result = .error fault → fault.isConflict = false

namespace Unrivalled

variable {α β : Type}

theorem ok (value : α) : Unrivalled (.ok value : Except Fault α) := by
  intro fault failed
  cases failed

theorem error {fault : Fault} (other : fault.isConflict = false) :
    Unrivalled (.error fault : Except Fault α) := by
  intro fault' failed
  cases failed
  exact other

theorem bind {first : Except Fault α} {next : α → Except Fault β} (head : Unrivalled first)
    (tail : ∀ value, Unrivalled (next value)) : Unrivalled (first >>= next) := by
  intro fault failed
  rcases bind_eq_error.mp failed with failed | ⟨value, -, failed⟩
  · exact head fault failed
  · exact tail value fault failed

theorem liftDecimal (result : Except Decimal.Fault α) : Unrivalled (liftDecimal result) := by
  cases result with
  | error fault => exact error rfl
  | ok value => exact ok value

theorem liftClock (result : Except Timestamp.Fault α) : Unrivalled (liftClock result) := by
  cases result with
  | error fault => cases fault <;> exact error rfl
  | ok value => exact ok value

theorem mapM {next : α → Except Fault β} (each : ∀ value, Unrivalled (next value))
    (values : List α) : Unrivalled (values.mapM next) := by
  induction values with
  | nil => exact ok []
  | cons value rest ih =>
    rw [List.mapM_cons]
    exact (each value).bind fun _ => ih.bind fun _ => ok _

end Unrivalled

theorem Column.decimal_unrivalled (value : Decimal) : Unrivalled (decimal value) := by
  unfold decimal
  split
  · exact .ok _
  · exact .error rfl

theorem Column.moment_unrivalled (t : Timestamp) : Unrivalled (moment t) := by
  unfold moment
  split
  · exact .error rfl
  · split
    · exact .ok _
    · exact .error rfl

theorem Column.word_unrivalled (n : Int) : Unrivalled (word n) := by
  unfold word
  split
  · exact .ok _
  · exact .error rfl

theorem Store.insertObserved_unrivalled (store : Store) (deposit : Deposit) (now : Timestamp) :
    Unrivalled (store.insertObserved deposit now) := by
  unfold insertObserved
  refine (Column.decimal_unrivalled _).bind fun _ => (Column.decimal_unrivalled _).bind fun _ =>
    (Column.moment_unrivalled _).bind fun _ => (Column.moment_unrivalled _).bind fun _ =>
    (Column.word_unrivalled _).bind fun _ => ?_
  split
  · exact .ok _
  · exact .ok _

theorem Store.candidates_unrivalled (store : Store) (bucket : Bucket) (asOf : Timestamp) :
    Unrivalled (store.candidates bucket asOf) :=
  (Column.moment_unrivalled _).bind fun _ => (Column.word_unrivalled _).bind fun _ => .ok _

theorem Store.exactCandidates_unrivalled (store : Store) (partner : String) (bucket : Bucket)
    (amount : Decimal) (asOf : Timestamp) :
    Unrivalled (store.exactCandidates partner bucket amount asOf) :=
  (store.candidates_unrivalled bucket asOf).bind fun _ => .liftDecimal _

namespace Matching

theorem timeScore_unrivalled (created expires confirmed : Timestamp) :
    Unrivalled (timeScore created expires confirmed) := by
  refine (Unrivalled.liftClock _).bind fun window => ?_
  split
  · exact .ok _
  · exact (Unrivalled.liftClock _).bind fun _ => .liftDecimal _

theorem score_unrivalled (policy : Policy) (deposit : Deposit) (intent : Intent) :
    Unrivalled (score policy deposit intent) :=
  (Unrivalled.liftDecimal _).bind fun _ => (timeScore_unrivalled _ _ _).bind fun _ =>
    (Unrivalled.liftDecimal _).bind fun _ => (Unrivalled.liftDecimal _).bind fun _ =>
    (Unrivalled.liftDecimal _).bind fun _ => .ok _

theorem declaredBefore_unrivalled (a b : Intent) : Unrivalled (declaredBefore a b) := by
  unfold declaredBefore
  split
  · exact .ok _
  · exact (Unrivalled.liftClock _).bind fun _ => .ok _

theorem oldestFrom_unrivalled (best : Scored) (rest : List Scored) :
    Unrivalled (oldestFrom best rest) := by
  induction rest generalizing best with
  | nil => exact .ok best
  | cons next rest ih => exact (declaredBefore_unrivalled _ _).bind fun _ => ih _

theorem select_unrivalled (policy : Policy) (scored : List Scored) :
    Unrivalled (select policy scored) := by
  unfold select
  split
  · exact .ok none
  · refine (Unrivalled.liftDecimal _).bind fun leader => ?_
    refine (Unrivalled.liftDecimal _).bind fun tied => ?_
    split
    · exact .ok none
    · exact (oldestFrom_unrivalled _ _).bind fun _ => (Unrivalled.liftDecimal _).bind fun _ => .ok _

theorem choose_unrivalled (policy : Policy) (deposit : Deposit) (intents : List Intent) :
    Unrivalled (do select policy (← scoreAll policy deposit intents)) :=
  (Unrivalled.mapM (score_unrivalled _ _) _).bind fun _ => select_unrivalled _ _

end Matching

theorem Payload.Delivery.read_unrivalled (payload : Json) : Unrivalled (read payload) := by
  unfold read
  split
  · split
    · exact (Unrivalled.liftDecimal _).bind fun _ => (Unrivalled.liftDecimal _).bind fun _ => .ok _
    · exact .error rfl
    · exact .error rfl
  · exact .error rfl

end Reconcile
