import Reconcile.Proofs.Counters
import Reconcile.Proofs.Store.Changes
import Reconcile.Proofs.Store.Columns

set_option autoImplicit false

/-
Counters beside the tables. The tables themselves give every intent its labels, and every
attribution that links one the labels of that intent. Counters in which these labels stand, in
whatever order, say what the tables hold.
-/
namespace Reconcile

open Relation (ReflTransGen)

def Intent.isFor (vault : String) (chain : Int) (partner : String) (intent : Intent) : Bool :=
  intent.bucket.vault = vault && intent.bucket.chain = chain && intent.partner = partner

theorem Intent.isFor_iff {vault : String} {chain : Int} {partner : String} (intent : Intent) :
    intent.isFor vault chain partner = true ↔
      Label.ofIntent intent = ⟨vault, chain, partner, none⟩ := by
  simp [isFor, Label.ofIntent, and_assoc]

namespace Store

def linked? (store : Store) (row : Attribution) : Option Intent := row.intent.bind store.intent?

/-- The counters say what the tables hold: how many intents there are by vault, chain and partner,
how many of them are linked by source too, and how many are matched in all. -/
structure Counted (store : Store) (counters : Counters) : Prop where
  created : ∀ vault chain partner,
    counters.created.count ⟨vault, chain, partner, none⟩ =
      store.intents.countP (·.isFor vault chain partner)
  matched : ∀ vault chain partner source,
    counters.matched.count ⟨vault, chain, partner, some source⟩ =
      store.attributions.countP fun row =>
        row.source = source && (store.linked? row).any (·.isFor vault chain partner)
  total : ((Counters.tallies counters.matched).map (·.count)).sum =
    store.intents.countP (·.status = .matched)

/-- The labels of the match that a row stands for; none if it links no intent. -/
def matchLabel? (store : Store) (row : Attribution) : Option Label :=
  (store.linked? row).map fun intent => { Label.ofIntent intent with source := some row.source }

/-- The labels of all rows stand in the counters, each as often as there are such rows. -/
structure Booked (store : Store) (counters : Counters) : Prop where
  created : counters.created.Perm (store.intents.map .ofIntent)
  matched : counters.matched.Perm (store.attributions.filterMap store.matchLabel?)

theorem empty_booked : Booked empty .zero := ⟨.nil, .nil⟩

/-- A write after which no counter moves: it adds no intent and links none. -/
inductive Uncounted (store : Store) : Store → Prop
  | observed {deposit : Deposit} {now : Timestamp} {after : Store}
      (done : store.insertObserved deposit now = .ok (some after)) : Uncounted store after
  | moved (id : String) (status : Status) : Uncounted store (store.move id status).2
  | flagged {deposit : Deposit} {now : Timestamp} {attribution : Attribution} {after : Store}
      (done : store.markUnattributed deposit now = .ok (attribution, after)) :
      Uncounted store after

variable {store after : Store} {counters : Counters}

theorem move_labels (store : Store) (id : String) (status : Status) :
    (store.move id status).2.intents.map Label.ofIntent = store.intents.map Label.ofIntent := by
  unfold move
  split
  · rw [Table.update, List.map_map]
    refine List.map_congr_left fun row _ => ?_
    simp only [Function.comp_apply]
    split <;> rfl
  · rfl

theorem matchLabel?_move (store : Store) (id : String) (status : Status) (row : Attribution) :
    (store.move id status).2.matchLabel? row = store.matchLabel? row := by
  unfold matchLabel? linked?
  cases row.intent with
  | none => rfl
  | some other =>
    rw [Option.bind_some, Option.bind_some, intent?_move]
    cases store.intent? other with
    | none => rfl
    | some intent =>
      simp only [Option.map_some, Option.some.injEq]
      split <;> rfl

theorem Booked.move (booked : store.Booked counters) (id : String) (status : Status) :
    (store.move id status).2.Booked counters := by
  refine ⟨?_, ?_⟩
  · rw [move_labels]
    exact booked.created
  · rw [move_attributions, funext (store.matchLabel?_move id status)]
    exact booked.matched

/-- A new record adds the labels of the intent that it links. -/
theorem Booked.commit {txHash : String} {decision : Decision} {now : Timestamp}
    {attribution : Attribution} {more : List Label} (booked : store.Booked counters)
    (done : store.commit txHash decision now = .ok (attribution, after))
    (labels : (store.matchLabel? attribution).toList = more) :
    after.Booked ⟨counters.created, more ++ counters.matched⟩ := by
  obtain ⟨-, -, -, row, made, rfl⟩ := commit_eq_ok done
  obtain ⟨-, sameIntent, -, sameSource, -⟩ := attributionRow_eq_ok made
  have sameLabel : store.matchLabel? row = store.matchLabel? attribution := by
    rw [matchLabel?, matchLabel?, linked?, linked?, sameIntent, sameSource]
  refine ⟨booked.created, ?_⟩
  have added := (Table.insert_perm Attribution.txHash row store.attributions).filterMap
    store.matchLabel?
  rw [List.filterMap_cons, sameLabel] at added
  change (more ++ counters.matched).Perm (List.filterMap store.matchLabel? _)
  refine (booked.matched.append_left more).trans (List.Perm.trans ?_ added.symm)
  subst labels
  cases store.matchLabel? attribution with
  | none => exact .refl _
  | some label => exact .refl _

theorem Booked.uncounted (booked : store.Booked counters) (write : store.Uncounted after) :
    after.Booked counters := by
  cases write with
  | observed done =>
    obtain ⟨-, row, -, rfl⟩ := insertObserved_eq_ok done
    exact ⟨booked.created, booked.matched⟩
  | moved id status => exact booked.move id status
  | @flagged deposit now attribution after done =>
    have unlinked : (store.matchLabel? attribution).toList = [] := by
      rw [(commit_eq_ok done).2.1]
      rfl
    exact booked.commit done unlinked

theorem Booked.uncounteds (booked : store.Booked counters)
    (writes : ReflTransGen Uncounted store after) : after.Booked counters := by
  induction writes with
  | refl => exact booked
  | tail _ write ih => exact ih.uncounted write

theorem intentRow_label {intent row : Intent} (made : intentRow intent = .ok row) :
    Label.ofIntent row = .ofIntent intent :=
  (congrArg Label.ofIntent (intentRow_passes made).rest :)

/-- A new intent is not linked yet, since only intents that the tables hold are. -/
theorem Booked.declared {intent : Intent} (booked : store.Booked counters) (sound : store.Sound)
    (done : store.insertIntent intent = .ok after) :
    after.Booked (counters.countCreated intent) := by
  have missing := (insertIntent_eq_ok done).1
  obtain ⟨row, made, done⟩ := bind_eq_ok.mp done
  have sameId := (intentRow_passes made).id.symm
  dsimp only at done
  rw [missing, Option.isSome_none, if_neg Bool.false_ne_true] at done
  cases done
  have fresh : ∀ other ∈ store.intents, other.id ≠ row.id := by
    rw [sameId]
    exact (Table.find?_eq_none_iff _).mp missing
  refine ⟨?_, ?_⟩
  · have added := (Table.insert_perm Intent.id row store.intents).map Label.ofIntent
    rw [List.map_cons, intentRow_label made] at added
    exact (booked.created.cons _).trans added.symm
  · refine booked.matched.trans (List.Perm.of_eq (List.filterMap_congr ?_))
    intro other member
    unfold matchLabel? linked?
    cases linked : other.intent with
    | none => rfl
    | some id =>
      obtain ⟨found, present, -⟩ := sound.matched other member id linked
      have apart : row.id ≠ id := by
        rintro rfl
        rw [sameId, missing] at present
        cases present
      rw [Option.bind_some, Option.bind_some, intent?, intent?,
        Table.find?_insert Intent.id id fresh, if_neg apart]

theorem links_perm_matched (sound : store.Sound) (paired : store.Paired) :
    (store.attributions.filterMap (·.intent)).Perm
      ((store.intents.filter (·.status = .matched)).map (·.id)) := by
  have keyed := sound.intents.nodup
  apply (List.perm_ext_iff_of_nodup sound.links (keyed.sublist (List.filter_sublist.map _))).mpr
  intro id
  rw [List.mem_filterMap, List.mem_map]
  constructor
  · rintro ⟨row, member, linked⟩
    obtain ⟨intent, found, matched⟩ := sound.matched row member id linked
    obtain ⟨inside, same⟩ := Table.mem_of_find? Intent.id found
    exact ⟨intent, List.mem_filter.mpr ⟨inside, decide_eq_true matched⟩, same⟩
  · rintro ⟨intent, member, rfl⟩
    obtain ⟨inside, matched⟩ := List.mem_filter.mp member
    exact paired intent.id intent (sound.intents.find?_of_mem Intent.id inside)
      (of_decide_eq_true matched)

/-- A row has labels exactly if it links an intent, since only intents that the tables hold are
linked. -/
theorem matchLabel?_isSome (sound : store.Sound) {row : Attribution}
    (member : row ∈ store.attributions) :
    (store.matchLabel? row).isSome = row.intent.isSome := by
  unfold matchLabel? linked?
  cases linked : row.intent with
  | none => rfl
  | some id =>
    obtain ⟨intent, found, -⟩ := sound.matched row member id linked
    rw [Option.bind_some, found]
    rfl

/-- What the counters show if all labels stand in them. -/
theorem Booked.counted (booked : store.Booked counters) (sound : store.Sound)
    (paired : store.Paired) : store.Counted counters := by
  refine ⟨?_, ?_, ?_⟩
  · intro vault chain partner
    rw [booked.created.count_eq, List.count, List.countP_map]
    refine List.countP_congr fun intent _ => ?_
    rw [Intent.isFor_iff, Function.comp_apply, beq_iff_eq]
  · intro vault chain partner source
    rw [booked.matched.count_eq, List.count_filterMap]
    refine List.countP_congr fun row _ => ?_
    unfold matchLabel?
    cases store.linked? row with
    | none => simp
    | some intent =>
      simp only [Label.ofIntent, Intent.isFor, Option.map_some, Option.any_some, beq_iff_eq,
        Option.some.injEq, Label.mk.injEq, Bool.and_eq_true, decide_eq_true_eq]
      tauto
  · rw [Counters.sum_tallies, booked.matched.length_eq, List.length_filterMap_eq_countP]
    calc store.attributions.countP (fun row => (store.matchLabel? row).isSome)
      _ = store.attributions.countP (fun row => row.intent.isSome) :=
        List.countP_congr fun row member => by rw [matchLabel?_isSome sound member]
      _ = (store.attributions.filterMap (·.intent)).length :=
        List.length_filterMap_eq_countP.symm
      _ = ((store.intents.filter (·.status = .matched)).map (·.id)).length :=
        (links_perm_matched sound paired).length_eq
      _ = store.intents.countP (·.status = .matched) := by
        rw [List.length_map, List.countP_eq_length_filter]

end Store

end Reconcile
