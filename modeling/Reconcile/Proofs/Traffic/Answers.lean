import Reconcile.Proofs.Traffic.Steps

set_option autoImplicit false

/-
What deliveries tell while others work on the same tables. Whatever comes between their steps, an
attribution that is returned is the one that is stored, no conflict is raised, and a delivery that
has not recorded the attribution itself has left intents and attributions alone.
-/
namespace Reconcile.Traffic

open Relation (ReflTransGen)
open Store (Change)

/-- What is told of a delivery that has ended agrees with the tables. An attribution is returned
as it is stored, or as it was before its columns were written. -/
def Answered (store : Store) : Activity → Prop
  | .delivery task (.done ending) =>
    (∀ fault, ending.result = .error fault → fault.isConflict = false) ∧
      ∀ attribution, ending.result = .ok (some attribution) →
        ∃ row, store.attribution? task.deposit.txHash = some row ∧
          (attribution = row ∨ Store.attributionRow attribution = .ok row)
  | .refused fault => fault.isConflict = false
  | _ => True

theorem Answered.changes {store after : Store} {call : Activity}
    (changes : ReflTransGen Change store after) (answered : Answered store call) :
    Answered after call := by
  cases call with
  | delivery task stage =>
    cases stage with
    | done ending =>
      refine ⟨answered.1, ?_⟩
      intro attribution told
      obtain ⟨row, found, same⟩ := answered.2 attribution told
      exact ⟨row, Store.changes_keep_attribution changes found, same⟩
    | _ => exact True.intro
  | refused fault => exact answered
  | sweep rule now stage => exact True.intro

theorem Answered.ofParcel (store : Store) (policy : Policy) (parcel : Parcel) (now : Timestamp) :
    Answered store (.ofParcel policy parcel now) := by
  unfold Activity.ofParcel
  split
  · rename_i fault failed
    cases parcel with
    | payload json => exact Payload.Delivery.read_unrivalled json fault failed
    | parsed deposit => cases failed
  · exact True.intro

theorem Answered.silent {store : Store} {task : Delivery.Task} {ending : Delivery.Ending}
    (silent : ending.result = .ok none) : Answered store (.delivery task (.done ending)) := by
  refine ⟨?_, ?_⟩
  · intro fault told
    rw [silent] at told
    cases told
  · intro attribution told
    rw [silent] at told
    cases told

theorem Answered.looks {store : Store} {task : Delivery.Task} {stage : Delivery.Stage}
    (looks : task.Looks stage) : Answered store (.delivery task stage) := by
  cases looks
  · exact True.intro
  · exact True.intro

/-- The answer is true when it is given. -/
theorem Answered.ofLeads {task : Delivery.Task} {store after : Store}
    {stage next : Delivery.Stage} (leads : task.Leads false store stage next after)
    (answered : Answered store (.delivery task stage)) : Answered after (.delivery task next) := by
  cases leads with
  | found present =>
    refine ⟨?_, ?_⟩
    · intro fault told
      cases told
    · intro attribution told
      cases told
      exact ⟨_, present, Or.inl rfl⟩
  | recorded decides claims done =>
    obtain ⟨row, made, placed⟩ := Store.attribution?_of_commit done task.deposit.txHash
    rw [if_pos rfl] at placed
    refine ⟨?_, ?_⟩
    · intro fault told
      cases told
    · intro attribution told
      cases told
      exact ⟨row, placed, Or.inr made⟩
  | reread =>
    refine ⟨?_, ?_⟩
    · intro fault told
      cases told
    · intro attribution told
      exact ⟨attribution, Except.ok.inj told, Or.inl rfl⟩
  | failed stage other =>
    refine ⟨?_, ?_⟩
    · intro fault told
      cases told
      exact other
    · intro attribution told
      cases told
  | ended ending => exact answered
  | noneFits | givenUp | conflicted => exact .silent rfl
  | known present looks | observedTwice present looks | observed done looks => exact .looks looks
  | _ => exact True.intro

theorem run_answered (schedule : List Move) :
    Holds (fun _ => True) Answered ((on .empty).run schedule) := by
  refine (Holds.on True.intro).run schedule ?_ ?_ ?_ ?_ ?_
  · exact fun policy parcel now _ store => .ofParcel store policy parcel now
  · exact fun _ _ _ => True.intro
  · intro first rest n call next after _ _ leads _ answered
    refine ⟨True.intro, ?_⟩
    cases leads with
    | delivery leads => exact .ofLeads leads answered
    | refused fault => exact answered
    | sweep leads => exact True.intro
  · exact fun _ _ _ changes answered => answered.changes changes
  · exact fun _ _ _ _ _ => True.intro

/-- A call becomes another by one of its steps, on any tables. -/
def Becomes (call later : Activity) : Prop := ∃ store, later = (call.step store).1

theorem act_becomes {traffic : Traffic} {n : Nat} {call : Activity}
    (found : traffic.calls[n]? = some call) (move : Move) :
    ∃ later, (traffic.act move).calls[n]? = some later ∧ ReflTransGen Becomes call later := by
  have inside : n < traffic.calls.length := (List.getElem?_eq_some_iff.mp found).1
  have stays : ∀ first : Activity, (traffic.calls ++ [first])[n]? = some call := by
    intro first
    rw [List.getElem?_append_left inside]
    exact found
  cases move with
  | deliver policy parcel now => exact ⟨call, stays _, .refl⟩
  | sweep rule now => exact ⟨call, stays _, .refl⟩
  | advance m =>
    cases present : traffic.calls[m]? with
    | none =>
      simp only [act, present]
      exact ⟨call, found, .refl⟩
    | some other =>
      rw [act_advance present]
      by_cases same : m = n
      · subst same
        rw [found] at present
        cases present
        exact ⟨_, List.getElem?_set_self inside, .single ⟨traffic.store, rfl⟩⟩
      · exact ⟨call, (List.getElem?_set_ne same).trans found, .refl⟩
  | declare intent => exact ⟨call, found, .refl⟩
  | orphan id => exact ⟨call, found, .refl⟩

/-- No call is lost: it is what its own steps have made of it. -/
theorem run_becomes {traffic : Traffic} {n : Nat} {call : Activity}
    (found : traffic.calls[n]? = some call) (schedule : List Move) :
    ∃ later, (traffic.run schedule).calls[n]? = some later ∧
      ReflTransGen Becomes call later := by
  induction schedule generalizing traffic call with
  | nil => exact ⟨call, found, .refl⟩
  | cons move rest ih =>
    obtain ⟨next, present, first⟩ := act_becomes found move
    obtain ⟨later, still, others⟩ := ih present
    exact ⟨later, still, first.trans others⟩

theorem becomes_of_done {task : Delivery.Task} {ending : Delivery.Ending} {later : Activity}
    (becomes : ReflTransGen Becomes (.delivery task (.done ending)) later) :
    later = .delivery task (.done ending) := by
  induction becomes with
  | refl => rfl
  | tail _ step ih =>
    obtain ⟨store, rfl⟩ := step
    rw [ih]
    rfl

theorem becomes_of_sweep {rule : SweepRule} {now : Timestamp} {stage : SweepStage}
    {later : Activity} (becomes : ReflTransGen Becomes (.sweep rule now stage) later) :
    ∃ stage, later = .sweep rule now stage := by
  induction becomes with
  | refl => exact ⟨stage, rfl⟩
  | tail _ step ih =>
    obtain ⟨store, rfl⟩ := step
    obtain ⟨before, rfl⟩ := ih
    exact ⟨_, rfl⟩

/-- A step that changes intents or attributions is the last one of its delivery, and the one that
records its attribution. -/
theorem own_step_keeps {traffic : Traffic} {n : Nat} {task : Delivery.Task}
    {ending : Delivery.Ending} (rest : List Move)
    (ended : ((traffic.act (.advance n)).run rest).calls[n]? = some (.delivery task (.done ending)))
    (unrecorded : ∀ attribution, ending ≠ .attributed attribution) :
    (traffic.act (.advance n)).store.intents = traffic.store.intents ∧
      (traffic.act (.advance n)).store.attributions = traffic.store.attributions := by
  cases found : traffic.calls[n]? with
  | none => simp only [act, found, and_self]
  | some call =>
    have inside : n < traffic.calls.length := (List.getElem?_eq_some_iff.mp found).1
    have own : (traffic.act (.advance n)).calls[n]? = some (call.step traffic.store).1 := by
      rw [act_advance found]
      exact List.getElem?_set_self inside
    -- Had this step recorded an attribution, the delivery would have ended with it for good.
    obtain ⟨later, present, becomes⟩ := run_becomes own rest
    rw [ended] at present
    cases present
    rw [act_advance found]
    cases call with
    | refused fault => exact ⟨rfl, rfl⟩
    | sweep rule now stage =>
      obtain ⟨_, same⟩ := becomes_of_sweep becomes
      cases same
    | delivery task stage =>
      rw [Activity.step_delivery] at becomes ⊢
      have leads := task.step_leads false stage traffic.store
      rcases leads.onlyObserved with kept | ⟨attribution, done⟩
      · exact ⟨kept.intents, kept.attributions⟩
      · rw [done] at becomes
        cases becomes_of_done becomes
        exact absurd rfl (unrecorded attribution)

/-- Deliveries that are taken step by step, in any order and with anything else between the steps.
Intents and deposits stay linked one to one. None raises a conflict, an attribution that is
returned is the stored one, and a delivery that has not recorded it itself has changed neither
intents nor attributions with any of its own steps. -/
theorem deliveries_interleaved (schedule : List Move) :
    ((on .empty).run schedule).store.OneToOne ∧
    (∀ (n : Nat) (fault : Fault),
      ((on .empty).run schedule).calls[n]? = some (.refused fault) → fault.isConflict = false) ∧
    ∀ (n : Nat) (task : Delivery.Task) (ending : Delivery.Ending),
      ((on .empty).run schedule).calls[n]? = some (.delivery task (.done ending)) →
      (∀ fault, ending.result = .error fault → fault.isConflict = false) ∧
      (∀ attribution, ending.result = .ok (some attribution) →
        ∃ row, ((on .empty).run schedule).store.attribution? task.deposit.txHash = some row ∧
          (attribution = row ∨ Store.attributionRow attribution = .ok row)) ∧
      ((∀ attribution, ending ≠ .attributed attribution) →
        ∀ first rest, schedule = first ++ .advance n :: rest →
          ((on .empty).run (first ++ [.advance n])).store.intents =
            ((on .empty).run first).store.intents ∧
          ((on .empty).run (first ++ [.advance n])).store.attributions =
            ((on .empty).run first).store.attributions) := by
  have answered := (run_answered schedule).calls
  refine ⟨(run_sound schedule).oneToOne, ?_, ?_⟩
  · intro n fault refused
    exact answered n _ refused
  · intro n task ending ended
    obtain ⟨harmless, stored⟩ := answered n _ ended
    refine ⟨harmless, stored, ?_⟩
    rintro unrecorded first rest rfl
    have later : ((((on .empty).run first).act (.advance n)).run rest).calls[n]? =
        some (.delivery task (.done ending)) := by
      simpa only [run, List.foldl_append, List.foldl_cons] using ended
    rw [run_concat]
    exact own_step_keeps rest later unrecorded

/-- A delivery is about to claim an intent when a sweep credits its deposit to nobody. -/
def flagged : List Move :=
  [.declare Sample.intent, .deliver .usual (.parsed Sample.deposit) (.utc 0)] ++
  List.replicate 4 (.advance 0) ++
  [.sweep { SweepRule.usual with graceSeconds := 0 } (.utc 0)] ++ List.replicate 3 (.advance 1)

/-- What another has recorded, if a delivery has ended with that. -/
def absorbed? : Activity → Option Attribution
  | .delivery _ (.done (.absorbed stored)) => stored
  | _ => none

theorem absorbed?_eq_some {call : Activity} {stored : Attribution}
    (ended : absorbed? call = some stored) :
    ∃ task, call = .delivery task (.done (.absorbed (some stored))) := by
  unfold absorbed? at ended
  split at ended
  · rename_i task other
    exact ⟨task, by rw [ended]⟩
  · cases ended

/-- The delivery gives the intent that it has claimed back and returns what is stored. -/
theorem deliveries_interleaved_absorbed :
    ∃ task stored row,
      ((on .empty).run (flagged ++ [.advance 0, .advance 0])).calls[0]? =
        some (.delivery task (.done (.absorbed (some stored)))) ∧
      ((on .empty).run (flagged ++ [.advance 0, .advance 0])).store.attribution?
        task.deposit.txHash = some row ∧
      (stored = row ∨ Store.attributionRow stored = .ok row) ∧
      ((on .empty).run (flagged ++ [.advance 0])).store.intents =
        ((on .empty).run flagged).store.intents := by
  have absorbed : (((on .empty).run (flagged ++ [.advance 0, .advance 0])).calls[0]?.bind
      absorbed?).isSome := by
    decide +kernel
  obtain ⟨stored, found⟩ := Option.isSome_iff_exists.mp absorbed
  obtain ⟨call, present, last⟩ := Option.bind_eq_some_iff.mp found
  obtain ⟨task, rfl⟩ := absorbed?_eq_some last
  obtain ⟨-, returned, unchanged⟩ :=
    (deliveries_interleaved (flagged ++ [.advance 0, .advance 0])).2.2 0 task _ present
  obtain ⟨row, kept, same⟩ := returned stored rfl
  have unrecorded : ∀ attribution,
      Delivery.Ending.absorbed (some stored) ≠ .attributed attribution := by
    intro attribution equal
    cases equal
  have untouched := unchanged unrecorded flagged [.advance 0] rfl
  exact ⟨task, stored, row, present, kept, same, untouched.1⟩

end Reconcile.Traffic
