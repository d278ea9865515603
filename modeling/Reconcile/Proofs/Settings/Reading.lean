import Reconcile.Proofs.Binary64
import Reconcile.Proofs.Settings.Rules
import Reconcile.Settings.Environment

set_option autoImplicit false

/-
What is read from an environment. Whatever its variables hold, each value of the settings is within
its bounds, or they are refused by name; only weights with too great a sum end the reading in
another way. A variable that says nothing may as well be unset.
-/
namespace Reconcile

/-- The settings are within their bounds, and their policy keeps its rules. -/
structure Settings.Sound (settings : Settings) : Prop where
  ttl : 1 ≤ settings.ttlMinutes
  grace : 0 ≤ settings.sweep.graceSeconds
  batch : 1 ≤ settings.sweep.batch
  interval : settings.sweep.intervalSeconds.AtLeast 1
  finite : settings.matching.Finite
  lawful : settings.matching.Lawful

namespace Environment

def without (env : Environment) (names : List String) : Environment :=
  env.filter fun entry => entry.1 ∉ names

inductive Kind
  | whole
  | decimal
  | binary

def kind? : String → Option Kind
  | "INTENT_DEFAULT_TTL_MINUTES" => some .whole
  | "MATCH_AMOUNT_TOLERANCE_BPS" => some .whole
  | "MATCH_AMOUNT_WEIGHT" => some .decimal
  | "MATCH_TIME_WEIGHT" => some .decimal
  | "MATCH_TIE_SCORE_DELTA" => some .decimal
  | "MATCH_AMBIGUOUS_CONFIDENCE_CAP" => some .decimal
  | "SWEEP_GRACE_PERIOD_SEC" => some .whole
  | "SWEEP_BATCH_SIZE" => some .whole
  | "SWEEP_INTERVAL_SEC" => some .binary
  | _ => none

/-- The text is a value of the kind. A decimal has to be finite, a binary number does not. -/
def Kind.Reads : Kind → String → Prop
  | .whole, written => ∃ n, Numeral.int? written = some n
  | .decimal, written => ∃ value, Decimal.read? written = some value ∧ value.isFinite
  | .binary, written => ∃ x, Numeral.binary? written = some x

/-- The variable says nothing: it is blank or not to be read, or it is not one of the settings. -/
def Idle (env : Environment) (name : String) : Prop :=
  (env.value name).isEmpty ∨ ∀ kind, kind? name = some kind → ¬ kind.Reads (env.value name)

section Unset

variable {env : Environment} {names : List String} {name : String}

theorem value_without (env : Environment) (names : List String) (name : String) :
    (env.without names).value name = if name ∈ names then "" else env.value name := by
  unfold value without
  rw [List.find?_filter]
  split
  · rename_i member
    rw [List.find?_eq_none.mpr]
    · rfl
    · intro entry _ found
      obtain ⟨kept, rfl⟩ : entry.1 ∉ names ∧ entry.1 = name := by simpa using found
      exact kept member
  · rename_i other
    congr 4
    funext entry
    by_cases same : entry.1 = name
    · simp [same, other]
    · simp [same]

/-- What a reader makes of a variable that says nothing is the default, as if it were unset. -/
theorem readOr_without {α : Type} {read : String → Option α} (default : α)
    (idle : name ∈ names → (env.value name).isEmpty ∨ read (env.value name) = none) :
    (env.without names).readOr name read default = env.readOr name read default := by
  unfold readOr
  dsimp only
  rw [value_without]
  by_cases member : name ∈ names
  · rw [if_pos member, if_pos (show "".isEmpty = true from rfl)]
    rcases idle member with blank | unread
    · rw [if_pos blank]
    · rw [unread, Option.getD_none, ite_self]
  · rw [if_neg member]

variable (idle : ∀ name ∈ names, env.Idle name)
include idle

theorem int_without (kind : kind? name = some .whole) (default : Int) :
    (env.without names).int name default = env.int name default := by
  refine readOr_without default fun member => (idle name member).imp_right fun unread => ?_
  rw [Option.eq_none_iff_forall_not_mem]
  exact fun n read => unread _ kind ⟨n, read⟩

theorem decimal_without (kind : kind? name = some .decimal) (default : Decimal) :
    (env.without names).decimal name default = env.decimal name default := by
  refine readOr_without default fun member => (idle name member).imp_right fun unread => ?_
  rw [Option.eq_none_iff_forall_not_mem]
  intro value read
  exact unread _ kind ⟨value, Option.mem_filter_iff.mp read⟩

theorem binary_without (kind : kind? name = some .binary) (default : Binary64) :
    (env.without names).binary name default = env.binary name default := by
  refine readOr_without default fun member => (idle name member).imp_right fun unread => ?_
  rw [Option.eq_none_iff_forall_not_mem]
  exact fun x read => unread _ kind ⟨x, read⟩

/-- Unsetting variables that say nothing changes nothing, not even what is refused. -/
theorem settings_without : (env.without names).settings = env.settings := by
  have matching : (env.without names).matching = env.matching := by
    unfold Environment.matching
    rw [int_without idle rfl, decimal_without idle rfl, decimal_without idle rfl,
      decimal_without idle rfl, decimal_without idle rfl]
  have sweep : (env.without names).sweep = env.sweep := by
    unfold Environment.sweep sweepInterval
    rw [int_without idle rfl, int_without idle rfl, binary_without idle rfl]
  unfold settings
  rw [matching, sweep, int_without idle rfl]

end Unset

section Bounds

theorem decimal_isFinite (env : Environment) (name : String) {default : Decimal}
    (finite : default.isFinite) : (env.decimal name default).isFinite := by
  unfold decimal readOr
  dsimp only
  split
  · exact finite
  · cases read : (Decimal.read? (env.value name)).filter (·.isFinite) with
    | none => exact finite
    | some value => exact (Option.filter_eq_some_iff.mp read).2

theorem matching_finite (env : Environment) : env.matching.Finite := by
  have usual := Policy.usual_finite
  unfold matching
  refine ⟨?_, ?_, ?_, ?_, usual.inferredCap⟩ <;> dsimp only
  · exact env.decimal_isFinite "MATCH_AMOUNT_WEIGHT" usual.amountWeight
  · exact env.decimal_isFinite "MATCH_TIME_WEIGHT" usual.timeWeight
  · exact env.decimal_isFinite "MATCH_TIE_SCORE_DELTA" usual.tieDelta
  · exact env.decimal_isFinite "MATCH_AMBIGUOUS_CONFIDENCE_CAP" usual.ambiguousCap

/-- The settings are read if the policy passes its check, and then all their other values are within
their bounds. -/
theorem settings_cases (env : Environment) :
    (env.matching.Lawful ∧ ∃ settings, env.settings = .ok settings ∧ settings.Sound) ∨
    (env.matching.Overweight ∧ env.settings = .error (.decimal .overflow)) ∨
    ∃ fault, env.matching.Breaks fault ∧ env.settings = .error (.policy fault) := by
  rcases Policy.check_cases env.matching_finite with
    ⟨lawful, accepted⟩ | ⟨great, failed⟩ | ⟨fault, breaks, failed⟩
  · refine Or.inl ⟨lawful, _, bind_of_ok accepted, le_max_left 1 _, ?_, ?_, ?_,
      env.matching_finite, lawful⟩ <;> dsimp only [Environment.sweep, sweepInterval]
    · exact le_max_left 0 _
    · exact le_max_left 1 _
    · exact Binary64.atLeast_one_max _
  · exact Or.inr (Or.inl ⟨great, bind_of_error failed⟩)
  · exact Or.inr (Or.inr ⟨fault, breaks, bind_of_error failed⟩)

theorem settings_overflow_iff (env : Environment) :
    env.settings = .error (.decimal .overflow) ↔ env.matching.Overweight := by
  rcases env.settings_cases with ⟨lawful, settings, done, -⟩ | ⟨great, failed⟩ | ⟨_, breaks, failed⟩
  · rw [done]
    exact iff_of_false (by rintro ⟨⟩) fun great => great.not_lawful env.matching_finite lawful
  · exact iff_of_true failed great
  · rw [failed]
    exact iff_of_false (by rintro ⟨⟩) fun great => great.not_breaks env.matching_finite breaks

theorem settings_ok_iff (env : Environment) :
    (∃ settings, env.settings = .ok settings) ↔ env.matching.Lawful := by
  rcases env.settings_cases with ⟨lawful, settings, done, -⟩ | ⟨great, failed⟩ | ⟨_, breaks, failed⟩
  · exact iff_of_true ⟨settings, done⟩ lawful
  · rw [failed]
    exact iff_of_false (by rintro ⟨_, ⟨⟩⟩) (great.not_lawful env.matching_finite)
  · rw [failed]
    exact iff_of_false (by rintro ⟨_, ⟨⟩⟩) breaks.not_lawful

end Bounds

/-- Whatever the variables hold, the settings are read, within their bounds and with a policy that
keeps its rules, or they are refused for a rule that the policy breaks. Only weights with too great
a sum overflow instead. Unsetting variables that say nothing changes nothing. -/
theorem settings_sound_unless_overweight (env : Environment) :
    (env.settings = .error (.decimal .overflow) ↔ env.matching.Overweight) ∧
    ((∃ settings, env.settings = .ok settings) ↔ env.matching.Lawful) ∧
    (¬ env.matching.Overweight →
      (∃ settings, env.settings = .ok settings ∧ settings.Sound) ∨
        ∃ fault, env.settings = .error (.policy fault) ∧ env.matching.Breaks fault) ∧
    ∀ names, (∀ name ∈ names, env.Idle name) → (env.without names).settings = env.settings := by
  refine ⟨env.settings_overflow_iff, env.settings_ok_iff, fun light => ?_,
    fun names idle => settings_without idle⟩
  rcases env.settings_cases with ⟨-, read⟩ | ⟨great, -⟩ | ⟨fault, breaks, refused⟩
  · exact Or.inl read
  · exact absurd great light
  · exact Or.inr ⟨fault, refused, breaks⟩

/-- A weight that is no number and a blank size: the settings are sound, and as if neither were
set. -/
theorem settings_sound_unless_overweight_idle :
    (∃ read, Environment.settings [("MATCH_TIME_WEIGHT", "NaN"), ("SWEEP_BATCH_SIZE", " ")] =
      .ok read ∧ read.Sound) ∧
    (without [("MATCH_TIME_WEIGHT", "NaN"), ("SWEEP_BATCH_SIZE", " ")]
      ["MATCH_TIME_WEIGHT", "SWEEP_BATCH_SIZE"]).settings =
    Environment.settings [("MATCH_TIME_WEIGHT", "NaN"), ("SWEEP_BATCH_SIZE", " ")] := by
  have lawful : (matching [("MATCH_TIME_WEIGHT", "NaN"), ("SWEEP_BATCH_SIZE", " ")]).Lawful := by
    rw [show matching [("MATCH_TIME_WEIGHT", "NaN"), ("SWEEP_BATCH_SIZE", " ")] = Policy.usual by
      decide +kernel]
    exact Policy.usual_lawful
  obtain ⟨-, -, sound, unset⟩ := settings_sound_unless_overweight
    [("MATCH_TIME_WEIGHT", "NaN"), ("SWEEP_BATCH_SIZE", " ")]
  refine ⟨?_, unset _ ?_⟩
  · rcases sound fun great => great.not_lawful (matching_finite _) lawful with
      read | ⟨fault, -, breaks⟩
    · exact read
    · exact absurd lawful breaks.not_lawful
  · rw [List.forall_mem_cons, List.forall_mem_singleton]
    refine ⟨Or.inr ?_, Or.inl (by decide +kernel)⟩
    rintro kind ⟨⟩ ⟨weight, read, finite⟩
    have nan : Decimal.read? (value [("MATCH_TIME_WEIGHT", "NaN"), ("SWEEP_BATCH_SIZE", " ")]
        "MATCH_TIME_WEIGHT") = some (.nan false false 0) := by
      decide +kernel
    cases nan.symm.trans read
    cases finite

/-- A weight of one and a million zeros is refused for no rule: its sum with the other weight
overflows. -/
theorem great_weight_overflows :
    Environment.settings [("MATCH_AMOUNT_WEIGHT", "1E1000000")] = .error (.decimal .overflow) ∧
    ¬ ∀ env : Environment, (∃ read, env.settings = .ok read) ∨
      ∃ fault, env.settings = .error (.policy fault) := by
  have overflow : Environment.settings [("MATCH_AMOUNT_WEIGHT", "1E1000000")] =
      .error (.decimal .overflow) := by
    rw [settings_overflow_iff, show matching [("MATCH_AMOUNT_WEIGHT", "1E1000000")] =
      { Policy.usual with amountWeight := .finite false 1 1000000 } by decide +kernel]
    refine ⟨⟨by decide, ?_, Decimal.toRat_one.ge.trans' zero_le_one⟩, ?_⟩
    · rw [Decimal.toRat_false]
      exact Decimal.magnitude_nonneg 1 1000000
    · refine Decimal.limit_le.trans ?_
      rw [Decimal.toRat_false, Nat.cast_one, one_mul]
      exact le_add_of_nonneg_right (Decimal.toRat_one.ge.trans' zero_le_one)
  refine ⟨overflow, fun claimed => ?_⟩
  rcases claimed [("MATCH_AMOUNT_WEIGHT", "1E1000000")] with ⟨read, done⟩ | ⟨fault, failed⟩
  · rw [overflow] at done
    cases done
  · rw [overflow] at failed
    cases failed

end Environment

end Reconcile
