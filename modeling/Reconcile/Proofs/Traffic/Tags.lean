import Reconcile.Proofs.Traffic.Observed

set_option autoImplicit false

/-
What becomes of a tag. A sweep does not look at tags, so one that finds a tagged deposit past its
grace period, before the delivery has recorded the partner, credits it to nobody for good. Nothing
else takes the deposit from the partner that its tag names.
-/
namespace Reconcile

/-- The attribution of a deposit that names this partner itself. -/
def Attribution.NamedBy (partner : String) (row : Attribution) : Prop :=
  row.source = .explicit ∧ row.confidence = .one ∧ row.partner = some partner

namespace Store

theorem explicit_row {txHash partner : String} {deposit : Deposit} {intent : Option String}
    {now : Timestamp} {row : Attribution}
    (made : attributionRow (.ofDecision txHash (.explicit deposit partner intent) now) = .ok row) :
    row.NamedBy partner := by
  obtain ⟨-, -, samePartner, sameSource, kept⟩ := attributionRow_eq_ok made
  have one : Column.decimal .one = .ok .one := by rfl
  exact ⟨sameSource, (Except.ok.inj (one.symm.trans kept)).symm, samePartner⟩

theorem unattributed_row {txHash : String} {deposit : Deposit} {now : Timestamp}
    {row : Attribution}
    (made : attributionRow (.ofDecision txHash (.unattributed deposit) now) = .ok row) :
    row.isTerminal = true := by
  obtain ⟨-, sameIntent, samePartner, -, kept⟩ := attributionRow_eq_ok made
  have zero : Column.decimal .zero = .ok .zero := by rfl
  have nothing : row.confidence = .zero := (Except.ok.inj (zero.symm.trans kept)).symm
  rw [Attribution.isTerminal, sameIntent, samePartner, nothing]
  rfl

end Store

namespace Traffic

/-- Some sweep of the schedule looks for deposits at a moment when it finds this one. -/
def SweptOverdue (traffic : Traffic) (schedule : List Move) (txHash : String) : Prop :=
  ∃ first rest n rule now expired, schedule = first ++ .advance n :: rest ∧
    (traffic.run first).calls[n]? = some (.sweep rule now (.find expired)) ∧
    (traffic.run first).store.Overdue rule now txHash

section Tagged

variable (txHash partner : String) (swept : Prop)

/-- The stages of a delivery whose deposit names its partner. -/
def TaggedStage : Delivery.Stage → Prop
  | .queryExact named => named = partner
  | .claimExact named _ => named = partner
  | .record named => named = partner
  | .query _ _ => False
  | .claim _ _ _ => False
  | _ => True

/-- The attribution is the partner's, unless a sweep may have come first. -/
def Kept (store : Store) : Prop :=
  ∀ row, store.attribution? txHash = some row → row.NamedBy partner ∨ row.isTerminal = true ∧ swept

/-- Deliveries of the deposit go by its tag, and only a sweep that found it marks it. -/
def Tagged (_ : Store) : Activity → Prop
  | .delivery task stage => task.deposit.txHash = txHash →
    task.deposit.partner? = some partner ∧ TaggedStage partner stage
  | .sweep _ _ (.mark _ _ deposits) => ∀ deposit ∈ deposits, deposit.txHash = txHash → swept
  | _ => True

end Tagged

variable {txHash partner : String} {swept : Prop}

theorem Kept.congr {store after : Store} (kept : Kept txHash partner swept store)
    (same : after.attributions = store.attributions) : Kept txHash partner swept after := by
  intro row found
  rw [Store.attribution?, same] at found
  exact kept row found

theorem Kept.record {store claimed after : Store} {hash : String} {decision : Decision}
    {now : Timestamp} {attribution : Attribution} (kept : Kept txHash partner swept store)
    (claims : store.Claims claimed decision.intent)
    (done : claimed.commit hash decision now = .ok (attribution, after))
    (fits : hash = txHash → ∀ row,
      Store.attributionRow (.ofDecision hash decision now) = .ok row →
        row.NamedBy partner ∨ row.isTerminal = true ∧ swept) :
    Kept txHash partner swept after := by
  obtain ⟨row, made, placed⟩ := Store.attribution?_of_record claims done txHash
  intro other found
  rw [placed] at found
  split at found
  · rename_i same
    cases found
    exact fits same row made
  · exact kept other found

theorem TaggedStage.looks {task : Delivery.Task} {stage : Delivery.Stage}
    (looks : task.Looks stage) (named : task.deposit.partner? = some partner) :
    TaggedStage partner stage := by
  cases looks with
  | tagged other => exact Option.some.inj (other.symm.trans named)
  | untagged nameless =>
    rw [nameless] at named
    cases named

/-- A delivery that goes by the tag decides for the partner. -/
theorem TaggedStage.named {deposit : Deposit} {stage : Delivery.Stage} {decision : Decision}
    {hash : String} {now : Timestamp} {row : Attribution} (tagged : TaggedStage partner stage)
    (decides : stage.Decides deposit decision)
    (made : Store.attributionRow (.ofDecision hash decision now) = .ok row) :
    row.NamedBy partner := by
  cases decides with
  | linked named intent rest =>
    obtain rfl : named = partner := tagged
    exact Store.explicit_row made
  | unlinked named =>
    obtain rfl : named = partner := tagged
    exact Store.explicit_row made
  | inferred => exact tagged.elim

theorem TaggedStage.next {task : Delivery.Task} {store after : Store} {stage next : Delivery.Stage}
    (leads : task.Leads false store stage next after) (tagged : TaggedStage partner stage)
    (named : task.deposit.partner? = some partner) : TaggedStage partner next := by
  cases leads with
  | known present looks | observed done looks | observedTwice present looks =>
    exact .looks looks named
  | exact | noExact | exactLost | allLost => exact tagged
  | chosen | again => exact tagged.elim
  | _ => exact True.intro

theorem Kept.ofLeads {task : Delivery.Task} {store after : Store} {stage next : Delivery.Stage}
    (leads : task.Leads false store stage next after) (kept : Kept txHash partner swept store)
    (tagged : Tagged txHash partner swept store (.delivery task stage)) :
    Kept txHash partner swept after ∧
      Tagged txHash partner swept after (.delivery task next) := by
  refine ⟨?_, ?_⟩
  · cases leads with
    | observed done =>
      obtain ⟨-, row, -, rfl⟩ := Store.insertObserved_eq_ok done
      exact kept
    | recorded decides claims done =>
      refine kept.record (claims.resolve_left Bool.false_ne_true) done ?_
      intro same row made
      exact Or.inl ((tagged same).2.named decides made)
    | _ => exact kept
  · intro same
    obtain ⟨named, shape⟩ := tagged same
    exact ⟨named, shape.next leads named⟩

theorem Kept.ofSweep {rule : SweepRule} {now : Timestamp} {store after : Store}
    {stage next : SweepStage} (leads : stage.Leads rule now store next after)
    (found : ∀ expired, stage = .find expired → store.Overdue rule now txHash → swept)
    (kept : Kept txHash partner swept store)
    (tagged : Tagged txHash partner swept store (.sweep rule now stage)) :
    Kept txHash partner swept after ∧
      Tagged txHash partner swept after (.sweep rule now next) := by
  cases leads with
  | expired due expired => exact ⟨kept.congr (store.expireAll_tables due).2, True.intro⟩
  | found expired stale =>
    refine ⟨kept, ?_⟩
    rintro deposit member rfl
    exact found expired rfl (Store.mem_stale stale member)
  | @marked _ _ deposit rest _ _ done =>
    refine ⟨kept.record (store.claims_unattributed deposit) done ?_, ?_⟩
    · intro same row made
      exact Or.inr ⟨Store.unattributed_row made, tagged deposit List.mem_cons_self same⟩
    · intro other member
      exact tagged other (List.mem_cons_of_mem deposit member)
  | passed expired flagged deposit rest =>
    exact ⟨kept, fun other member => tagged other (List.mem_cons_of_mem deposit member)⟩
  | ended => exact ⟨kept, True.intro⟩

theorem run_kept {store : Store} {schedule : List Move}
    (absent : store.attribution? txHash = none)
    (tagged : ∀ policy parcel now deposit, .deliver policy parcel now ∈ schedule →
      parcel.read = .ok deposit → deposit.txHash = txHash → deposit.partner? = some partner) :
    Kept txHash partner (SweptOverdue (on store) schedule txHash)
      ((on store).run schedule).store := by
  have start : Holds (Kept txHash partner (SweptOverdue (on store) schedule txHash))
      (Tagged txHash partner (SweptOverdue (on store) schedule txHash)) (on store) := by
    refine .on ?_
    intro row found
    rw [absent] at found
    cases found
  refine (start.run schedule ?_ ?_ ?_ ?_ ?_).store
  · intro policy parcel now delivered store
    unfold Activity.ofParcel
    split
    · exact True.intro
    · rename_i deposit read
      intro same
      exact ⟨tagged policy parcel now deposit delivered read same, True.intro⟩
  · exact fun _ _ _ => True.intro
  · intro first rest n call next after whole present leads kept shape
    cases leads with
    | delivery leads => exact Kept.ofLeads leads kept shape
    | refused fault => exact ⟨kept, True.intro⟩
    | sweep leads =>
      refine Kept.ofSweep leads ?_ kept shape
      rintro expired rfl overdue
      exact ⟨first, rest, n, _, _, expired, whole, present, overdue⟩
  · intro store after call changes shape
    cases call <;> exact shape
  · intro store after observed attributions kept
    exact kept.congr attributions

/-- A deposit that was not observed yet and is delivered with a tag, however often and whatever
else is going on: once it has an attribution, that is the tag's, or else the terminal record, and
then some sweep has looked for deposits while this one was past the grace period of the sweep and
had no attribution. -/
theorem tag_kept_unless_overdue (past schedule : List Move) (txHash partner : String)
    (fresh : ((on .empty).run past).store.observed? txHash = none)
    (tagged : ∀ policy parcel now deposit, .deliver policy parcel now ∈ schedule →
      parcel.read = .ok deposit → deposit.txHash = txHash → deposit.partner? = some partner)
    (row : Attribution)
    (found : ((on ((on .empty).run past).store).run schedule).store.attribution? txHash =
      some row) :
    row.NamedBy partner ∨ row.isTerminal = true ∧
      SweptOverdue (on ((on .empty).run past).store) schedule txHash := by
  -- What was never observed has no attribution either.
  have absent : ((on .empty).run past).store.attribution? txHash = none := by
    by_contra present
    obtain ⟨old, recorded⟩ := Option.ne_none_iff_exists'.mp present
    obtain ⟨member, same⟩ := Table.mem_of_find? Attribution.txHash recorded
    have observed := run_grounded past old member
    rw [same, fresh] at observed
    cases observed
  exact run_kept absent tagged row found

/-- A delivery with a tag that stands between blanks. -/
def Sample.tagged : Parcel :=
  .payload (.object
    [("txHash", .string "0xAAA1"), ("vaultId", .string "v"), ("chainId", .int 1),
      ("receiver", .string "0x52908400098527886e0f7030069857d2e4169ee7"), ("assets", .int 1),
      ("confirmedAt", .string "1970-01-01T00:00:00Z"),
      ("explicitPartnerTag", .string " acme ")])

theorem Sample.tagged_partner {deposit : Deposit} (read : Sample.tagged.read = .ok deposit) :
    deposit.partner? = some "acme" := by
  have named : Sample.tagged.read.toOption.map (·.partner?) = some (some "acme") := by
    decide +kernel
  rw [read] at named
  exact Option.some.inj named

def underWay : List Move :=
  .deliver .usual Sample.tagged (.utc 0) :: List.replicate 4 (.advance 0)

theorem tag_kept_unless_overdue_in_time :
    ∃ row : Attribution,
      ((on .empty).run (underWay ++ [.advance 0])).store.attribution? "0xaaa1" = some row ∧
      (row.NamedBy "acme" ∨ row.isTerminal = true ∧
        SweptOverdue (on .empty) (underWay ++ [.advance 0]) "0xaaa1") := by
  have recorded : (((on .empty).run (underWay ++ [.advance 0])).store.attribution?
      "0xaaa1").isSome := by
    decide +kernel
  obtain ⟨row, found⟩ := Option.isSome_iff_exists.mp recorded
  refine ⟨row, found, tag_kept_unless_overdue [] _ "0xaaa1" "acme" rfl ?_ row found⟩
  intro policy parcel now deposit delivered read _
  simp [underWay] at delivered
  rw [delivered.2.1] at read
  exact Sample.tagged_partner read

/-- An hour later, with the usual grace period, a sweep comes before that step. -/
def overtaken : List Move :=
  underWay ++ [.sweep .usual (.utc 3600000000)] ++ List.replicate 3 (.advance 1) ++
    List.replicate 2 (.advance 0)

/-- Tags are not safe from sweeps: the delivery is absorbed and the deposit is credited to nobody,
although it was delivered with a tag and no grace period is negative. -/
theorem tag_lost_to_sweep :
    ¬ ∀ (past schedule : List Move) (txHash partner : String),
      ((on .empty).run past).store.observed? txHash = none →
      (∀ policy parcel now deposit, .deliver policy parcel now ∈ schedule →
        parcel.read = .ok deposit → deposit.txHash = txHash → deposit.partner? = some partner) →
      (∀ rule now, .sweep rule now ∈ schedule → 0 ≤ rule.graceSeconds) →
      ∀ row, ((on ((on .empty).run past).store).run schedule).store.attribution? txHash =
        some row → row.NamedBy partner := by
  intro claim
  have recorded : (((on .empty).run overtaken).store.attribution? "0xaaa1").map (·.source) =
      some .inferred := by
    decide +kernel
  obtain ⟨row, found, inferred⟩ := Option.map_eq_some_iff.mp recorded
  have named := claim [] overtaken "0xaaa1" "acme" rfl ?_ ?_ row found
  · cases inferred.symm.trans named.1
  · intro policy parcel now deposit delivered read _
    simp [overtaken, underWay] at delivered
    rw [delivered.2.1] at read
    exact Sample.tagged_partner read
  · intro rule now swept
    simp [overtaken, underWay] at swept
    rw [swept.1]
    decide

end Traffic

end Reconcile
