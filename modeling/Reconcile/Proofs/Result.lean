import Mathlib.Data.List.Forall2
import Reconcile.Fault

set_option autoImplicit false

/- A computation that can fail succeeds exactly if each of its parts does. -/
namespace Reconcile

variable {α β ε : Type}

theorem bind_eq_ok {first : Except ε α} {next : α → Except ε β} {result : β} :
    (first >>= next) = .ok result ↔ ∃ value, first = .ok value ∧ next value = .ok result := by
  cases first with
  | error fault => constructor <;> simp [bind, Except.bind]
  | ok value => simp [bind, Except.bind]

theorem bind_of_ok {first : Except ε α} {f : α → Except ε β} {value : α}
    (done : first = .ok value) : (first >>= f) = f value := by
  rw [done]
  rfl

theorem bind_iff {first : Except ε α} {next also : α → Except ε β} {result : β}
    (same : ∀ value, next value = .ok result ↔ also value = .ok result) :
    (first >>= next) = .ok result ↔ (first >>= also) = .ok result := by
  rw [bind_eq_ok, bind_eq_ok]
  exact exists_congr fun value => and_congr_right fun _ => same value

theorem bind_of_error {first : Except ε α} {next : α → Except ε β} {fault : ε}
    (failed : first = .error fault) : (first >>= next) = .error fault := by
  rw [failed]
  rfl

theorem bind_eq_error {first : Except ε α} {next : α → Except ε β} {fault : ε} :
    (first >>= next) = .error fault ↔
      first = .error fault ∨ ∃ value, first = .ok value ∧ next value = .error fault := by
  cases first with
  | error other => simp [bind, Except.bind]
  | ok value => simp [bind, Except.bind]

/-- A computation that refuses on a condition goes on only without it. -/
theorem refuse_eq_ok {condition : Prop} [Decidable condition] {fault : ε} {next : α → Except ε β}
    {other : Except ε β} {result : β} :
    (if condition then .error fault >>= next else other) = .ok result ↔
      ¬condition ∧ other = .ok result := by
  by_cases holds : condition <;> simp [holds, bind, Except.bind]

theorem map_eq_ok {result : Except ε α} {change : α → β} {value : β} :
    result.map change = .ok value ↔ ∃ before, result = .ok before ∧ change before = value := by
  cases result <;> simp [Except.map]

theorem toOption_eq_some {result : Except ε α} {value : α} :
    result.toOption = some value ↔ result = .ok value := by
  cases result <;> simp [Except.toOption]

/-- A computation that is known to succeed has the value that stands for its success. -/
theorem eq_ok_getD [Inhabited α] {result : Except ε α} (done : result.toOption.isSome) :
    result = .ok (result.toOption.getD default) := by
  cases result with
  | error fault => cases done
  | ok value => rfl

theorem mapError_eq_ok {ε' : Type} {result : Except ε α} {change : ε → ε'} {value : α} :
    result.mapError change = .ok value ↔ result = .ok value := by
  cases result with
  | error fault => constructor <;> intro failed <;> cases failed
  | ok found =>
    constructor
    · intro same
      rw [← Except.ok.inj same]
    · intro same
      rw [Except.ok.inj same]
      rfl

theorem liftDecimal_eq_ok {result : Except Decimal.Fault α} {value : α} :
    liftDecimal result = .ok value ↔ result = .ok value := mapError_eq_ok

theorem bind_of_lifted {result : Except Decimal.Fault α} {value : α} {next : α → Except Fault β}
    (done : result = .ok value) : (liftDecimal result >>= next) = next value :=
  bind_of_ok (liftDecimal_eq_ok.mpr done)

theorem liftClock_eq_ok {result : Except Timestamp.Fault α} {value : α} :
    liftClock result = .ok value ↔ result = .ok value := mapError_eq_ok

theorem liftJson_eq_ok {result : Except Json.ReadFault α} {value : α} :
    liftJson result = .ok value ↔ result = .ok value := mapError_eq_ok

theorem mapM_eq_ok {next : α → Except ε β} {values : List α}
    {results : List β} :
    values.mapM next = .ok results ↔
      List.Forall₂ (fun value result => next value = .ok result) values results := by
  induction values generalizing results with
  | nil =>
    rw [List.mapM_nil, List.forall₂_nil_left_iff]
    exact ⟨fun done => (Except.ok.inj done).symm, fun none => none ▸ rfl⟩
  | cons value rest ih =>
    rw [List.mapM_cons, List.forall₂_cons_left_iff]
    constructor
    · intro done
      obtain ⟨first, made, done⟩ := bind_eq_ok.mp done
      obtain ⟨others, tail, done⟩ := bind_eq_ok.mp done
      exact ⟨first, others, made, ih.mp tail, (Except.ok.inj done).symm⟩
    · rintro ⟨first, others, made, tail, rfl⟩
      exact (bind_of_ok made).trans (bind_of_ok (ih.mpr tail))

theorem exists_of_mem_mapM {next : α → Except ε β} {values : List α} {results : List β}
    (done : values.mapM next = .ok results) {result : β} (member : result ∈ results) :
    ∃ value ∈ values, next value = .ok result := by
  induction mapM_eq_ok.mp done with
  | nil => cases member
  | @cons value first rest others made tail ih =>
    rcases List.mem_cons.mp member with rfl | member
    · exact ⟨value, List.mem_cons_self, made⟩
    · obtain ⟨found, inside, made⟩ := ih (mapM_eq_ok.mpr tail) member
      exact ⟨found, List.mem_cons_of_mem value inside, made⟩

theorem exists_mem_of_mapM {next : α → Except ε β} {values : List α} {results : List β}
    (done : values.mapM next = .ok results) {value : α} (member : value ∈ values) :
    ∃ result ∈ results, next value = .ok result := by
  induction mapM_eq_ok.mp done with
  | nil => cases member
  | @cons first result rest others made tail ih =>
    rcases List.mem_cons.mp member with rfl | member
    · exact ⟨result, List.mem_cons_self, made⟩
    · obtain ⟨found, inside, made⟩ := ih (mapM_eq_ok.mpr tail) member
      exact ⟨found, List.mem_cons_of_mem result inside, made⟩

theorem exists_of_mem_filterMapM {next : α → Except ε (Option β)} {values : List α}
    {results : List β} (done : values.filterMapM next = .ok results) {result : β}
    (member : result ∈ results) : ∃ value ∈ values, next value = .ok (some result) := by
  induction values generalizing results with
  | nil =>
    cases done
    cases member
  | cons value rest ih =>
    have later : ∀ {others : List β}, rest.filterMapM next = .ok others → result ∈ others →
        ∃ found ∈ value :: rest, next found = .ok (some result) := by
      intro others tail inside
      obtain ⟨found, inside, made⟩ := ih tail inside
      exact ⟨found, List.mem_cons_of_mem value inside, made⟩
    rw [List.filterMapM_cons] at done
    obtain ⟨first, head, done⟩ := bind_eq_ok.mp done
    cases first with
    | none => exact later done member
    | some first =>
      obtain ⟨others, tail, done⟩ := bind_eq_ok.mp done
      cases done
      rcases List.mem_cons.mp member with rfl | member
      · exact ⟨value, List.mem_cons_self, head⟩
      · exact later tail member

/-- Where each computation decides whether its value stays, those that stay are a filter. -/
theorem filterMapM_eq_filter {next : α → Except ε (Option α)} {stays : α → Bool}
    {values : List α}
    (decides : ∀ value ∈ values, next value = .ok (if stays value then some value else none)) :
    values.filterMapM next = .ok (values.filter stays) := by
  induction values with
  | nil => rfl
  | cons value rest ih =>
    have tail := ih fun other member => decides other (List.mem_cons_of_mem value member)
    rw [List.filterMapM_cons, bind_of_ok (decides value List.mem_cons_self), List.filter_cons]
    by_cases kept : stays value = true
    · simp only [if_pos kept, tail]
      rfl
    · simp only [if_neg kept, tail]

end Reconcile
