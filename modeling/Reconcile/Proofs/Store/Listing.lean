import Reconcile.Engine.Views
import Reconcile.Proofs.Store.Columns
import Reconcile.Proofs.Table.Queue

set_option autoImplicit false

/-
The attributions of a partner as they are listed. The latest come first, so a listing is a queue by
a clock that runs backwards, and a limit cuts the end of it off.
-/
namespace Reconcile

/-- A clock that runs backwards. -/
def Timestamp.mirrored (t : Timestamp) : Timestamp := .utc (-t.instant)

@[simp] theorem Timestamp.instant_mirrored (t : Timestamp) : t.mirrored.instant = -t.instant :=
  Column.instant_utc _

namespace Table

variable {α : Type} (time : α → Timestamp) (key : α → String)

theorem compare_neg (first second : Int) : compare (-first) (-second) = compare second first := by
  rcases lt_trichotomy second first with lower | same | higher
  · rw [compare_lt_iff_lt.mpr lower, compare_lt_iff_lt]
    omega
  · rw [same]
    simp
  · rw [compare_gt_iff_gt.mpr higher, compare_gt_iff_gt]
    omega

/-- The latest rows come first by a clock that runs backwards. -/
theorem byTimeDown_eq (rows : List α) :
    byTimeDown time key rows = byTime (fun row => (time row).mirrored) key rows := by
  simp only [byTimeDown, byTime, Timestamp.instant_mirrored, compare_neg]

end Table

/-- Of two attributions the later one is listed first; those of one instant are listed by their
transactions. -/
def Attribution.ListedBefore (a b : Attribution) : Prop :=
  b.created.instant < a.created.instant ∨
    a.created.instant = b.created.instant ∧ a.txHash < b.txHash

theorem Attribution.listedBefore_iff (a b : Attribution) :
    Table.Before (fun row : Attribution => row.created.mirrored) Attribution.txHash a b ↔
      a.ListedBefore b := by
  simp only [Table.Before, ListedBefore, Timestamp.instant_mirrored, neg_lt_neg_iff, neg_inj]

namespace Store

/-- All attributions of a partner, each once, in the order in which they are listed. -/
structure IsListing (store : Store) (partner : String) (listing : List Attribution) : Prop where
  mem_iff : ∀ row, row ∈ listing ↔ row ∈ store.attributions ∧ row.partner = some partner
  ordered : listing.Pairwise Attribution.ListedBefore

def listing (store : Store) (partner : String) : List Attribution :=
  Table.byTimeDown Attribution.created Attribution.txHash
    (store.attributions.filter (·.partner = some partner))

theorem listing_isListing {store : Store} (keyed : (store.attributions.map (·.txHash)).Nodup)
    (partner : String) : store.IsListing partner (store.listing partner) := by
  have queue := @Table.byTime_queue Attribution (fun row => row.created.mirrored)
    Attribution.txHash (fun row => row.partner = some partner) _ keyed
  rw [← Table.byTimeDown_eq Attribution.created] at queue
  refine ⟨?_, queue.ordered.imp fun {a b} before => (a.listedBefore_iff b).mp before⟩
  intro row
  rw [listing, queue.mem_iff, decide_eq_true_eq]

/-- A limit takes the first rows of the listing. -/
theorem ofPartner_of_fits (store : Store) (partner : String) {n : Nat}
    (fits : (n : Int) < Column.wordLimit) :
    store.ofPartner partner (some n) = .ok ((store.listing partner).take n) := by
  have kept : Column.word n = .ok (n : Int) := by
    rw [Column.word, if_pos ⟨le_trans (by decide) (Int.natCast_nonneg n), fits⟩]
  have bound : (some (n : Int)).mapM Column.word = Except.ok (some (n : Int)) := by
    rw [Option.mapM_some, kept]
    rfl
  rw [ofPartner, bind_of_ok bound]
  exact congrArg Except.ok (Table.upTo_ofNat n _)

/-- A limit that does not fit into 64 bits is refused. -/
theorem ofPartner_of_wide (store : Store) (partner : String) {n : Nat}
    (wide : Column.wordLimit ≤ (n : Int)) :
    store.ofPartner partner (some n) = .error .outOfRange := by
  have refused : (some (n : Int)).mapM Column.word =
      (Except.error .outOfRange : Except Fault _) := by
    rw [Option.mapM_some, Column.word, if_neg fun inside => not_lt_of_ge wide inside.2]
    rfl
  exact bind_of_error refused

end Store

end Reconcile
