import Mathlib.Data.List.Basic
import Reconcile.Settings.Database

set_option autoImplicit false

/-
What the masked form of a URL shows. The parameters are cut off at the first question mark, before
the user is looked for. So a question mark in the user or the password hides the sign that they end
with, and all that stands before it is shown. Without one the masked form depends on the scheme and
the place alone.
-/
namespace Reconcile.Database

/-- What is checked of each character of a text is so for all of them. -/
theorem forall_of_all {p : Char → Prop} [DecidablePred p] {l : List Char}
    (checked : (l.all fun c => decide (p c)) = true) : ∀ c ∈ l, p c :=
  fun c member => of_decide_eq_true (List.all_eq_true.mp checked c member)

/-- A URL with a user and a password. The place is what stands between them and the parameters: the
host, its port and the path. -/
structure Url where
  scheme : List Char
  user : List Char
  password : List Char
  place : List Char
  parameters : List Char

namespace Url

def credentials (url : Url) : List Char := url.user ++ ':' :: url.password

def text (url : Url) : String :=
  String.ofList (url.scheme ++ ([':', '/', '/'] ++
    (url.credentials ++ (['@'] ++ (url.place ++ '?' :: url.parameters)))))

/-- The parts are those that the grammar of URLs finds in the text. Letters, digits and plus signs
make up a scheme; what matters is that it has none of the marks. -/
structure WellFormed (url : Url) : Prop where
  scheme : ∀ c ∈ url.scheme, c ∉ [':', '/', '?', '@']
  user : url.user ≠ [] ∧ ∀ c ∈ url.user, c ∉ [':', '/', '@']
  password : '@' ∉ url.password
  place : '@' ∉ url.place ∧ '?' ∉ url.place
  parameters : '@' ∉ url.parameters

/-- What is shown of the user and the password, if anything is. -/
def exposed (url : Url) : Option (List Char) :=
  if '?' ∈ url.credentials then some (withoutParameters url.credentials) else none

def starred (url : Url) : String :=
  String.ofList url.scheme ++ "://***@" ++ String.ofList url.place

def masked (url : Url) : String :=
  match url.exposed with
  | none => url.starred
  | some part => String.ofList url.scheme ++ "://" ++ String.ofList part

/-- Two URLs of one database. -/
structure Alike (first second : Url) : Prop where
  scheme : first.scheme = second.scheme
  place : first.place = second.place

end Url

theorem withoutParameters_append {shown : List Char} (plain : '?' ∉ shown) (rest : List Char) :
    withoutParameters (shown ++ '?' :: rest) = shown := by
  have kept : ∀ c ∈ shown, decide (c ≠ '?') = true := by
    intro c member
    exact decide_eq_true fun same => plain (same ▸ member)
  rw [withoutParameters, List.takeWhile_append_of_pos kept, List.takeWhile_cons_of_neg (by decide),
    List.append_nil]

/-- A text is cut at a mark whose first character does not come before it. -/
theorem cutAt_append {c : Char} (more : List Char) {before : List Char} (absent : c ∉ before)
    (after : List Char) :
    cutAt (c :: more) (before ++ (c :: more ++ after)) = some (before, after) := by
  induction before with
  | nil =>
    have here : (c :: more).isPrefixOf (c :: (more ++ after)) = true :=
      List.isPrefixOf_iff_prefix.mpr ⟨after, rfl⟩
    rw [List.nil_append, List.cons_append, cutAt, if_pos here, ← List.cons_append,
      List.drop_left]
  | cons first rest ih =>
    have other : c ≠ first := fun same => absent (same ▸ List.mem_cons_self)
    have notHere : ¬ (c :: more).isPrefixOf (first :: (rest ++ (c :: more ++ after))) = true := by
      simp [List.isPrefixOf, other]
    rw [List.cons_append, cutAt, if_neg notHere,
      ih fun member => absent (List.mem_cons_of_mem first member)]
    rfl

section Mask

variable {url : Url} (wellFormed : url.WellFormed)
include wellFormed

theorem Url.WellFormed.credentials : '@' ∉ url.credentials := by
  have user : '@' ∉ url.user := fun member => wellFormed.user.2 '@' member (by decide)
  have password := wellFormed.password
  simp [Url.credentials, user, password]

theorem Url.WellFormed.opening {c : Char} (mark : c ∈ ['?', '@']) :
    c ∉ url.scheme ++ [':', '/', '/'] := by
  have apart : ∀ c ∈ ['?', '@'], c ∉ [':', '/', '/'] := forall_of_all (by decide)
  intro member
  rcases List.mem_append.mp member with inside | between
  · exact wellFormed.scheme c inside (List.mem_cons_of_mem _ (List.mem_cons_of_mem _ mark))
  · exact apart c mark between

/-- The user and the password are found and left out. -/
theorem mask_of_plain (plain : '?' ∉ url.credentials) : mask url.text = .ok url.starred := by
  have colon : ':' ∉ url.scheme := fun member => wellFormed.scheme ':' member (by decide)
  have base : withoutParameters url.text.toList =
      url.scheme ++ ([':', '/', '/'] ++ (url.credentials ++ (['@'] ++ url.place))) := by
    have absent : '?' ∉ url.scheme ++ ([':', '/', '/'] ++
        (url.credentials ++ (['@'] ++ url.place))) := by
      have opening := wellFormed.opening (c := '?') (by decide)
      have place := wellFormed.place.2
      simp_all
    simpa [Url.text] using withoutParameters_append absent url.parameters
  have user : (url.scheme ++ ([':', '/', '/'] ++
      (url.credentials ++ (['@'] ++ url.place)))).contains '@' = true := by simp
  unfold mask
  dsimp only
  rw [base, if_pos user, cutAt_append ['/', '/'] colon]
  dsimp only [Option.getD_some]
  rw [cutAt_append [] wellFormed.credentials]
  rfl

/-- The text is cut inside the user or the password, and no sign is left to find them by. -/
theorem mask_of_mark {before after : List Char} (split : url.credentials = before ++ '?' :: after)
    (absent : '?' ∉ before) :
    mask url.text = .ok (String.ofList url.scheme ++ "://" ++ String.ofList before) := by
  have base : withoutParameters url.text.toList = url.scheme ++ ([':', '/', '/'] ++ before) := by
    have plain : '?' ∉ url.scheme ++ ([':', '/', '/'] ++ before) := by
      have opening := wellFormed.opening (c := '?') (by decide)
      simp_all
    simpa [Url.text, split] using
      withoutParameters_append plain (after ++ (['@'] ++ (url.place ++ '?' :: url.parameters)))
  have noUser : ¬ (url.scheme ++ ([':', '/', '/'] ++ before)).contains '@' = true := by
    have opening := wellFormed.opening (c := '@') (by decide)
    have credentials := wellFormed.credentials
    rw [split] at credentials
    simp_all
  unfold mask
  dsimp only
  rw [base, if_neg noUser, String.ofList_append, String.ofList_append, String.append_assoc]

theorem mask_eq : mask url.text = .ok url.masked := by
  unfold Url.masked Url.exposed
  by_cases mark : '?' ∈ url.credentials
  · obtain ⟨before, after, split, absent⟩ := List.eq_append_cons_of_mem mark
    have cut : withoutParameters url.credentials = before := by
      rw [split, withoutParameters_append absent]
    rw [if_pos mark, cut]
    exact mask_of_mark wellFormed split absent
  · rw [if_neg mark]
    exact mask_of_plain wellFormed mark

/-- What is shown of the credentials does not look like stars. -/
theorem Url.WellFormed.exposed_ne {part : List Char} (shown : url.exposed = some part)
    (scheme place : List Char) :
    String.ofList scheme ++ "://" ++ String.ofList part ≠
      String.ofList scheme ++ "://***@" ++ String.ofList place := by
  have absent : '@' ∉ part := by
    unfold Url.exposed at shown
    split_ifs at shown
    cases shown
    exact fun member => wellFormed.credentials (List.takeWhile_subset _ member)
  intro same
  have letters := congrArg String.toList same
  simp only [String.toList_append, String.toList_ofList, List.append_assoc,
    List.append_cancel_left_eq] at letters
  have mark : '@' ∈ "://".toList ++ part := by
    rw [letters]
    simp
  simp_all

end Mask

section Runs

variable {first second : Url}

/-- The masked forms of two URLs of one database differ just in what they show of the
credentials. -/
theorem masked_eq_iff (wellFormed : first.WellFormed) (other : second.WellFormed)
    (alike : first.Alike second) :
    first.masked = second.masked ↔ first.exposed = second.exposed := by
  unfold Url.masked Url.starred
  rw [alike.scheme, alike.place]
  cases shown : first.exposed with
  | none =>
    cases also : second.exposed with
    | none => exact iff_of_true rfl rfl
    | some part => exact iff_of_false (other.exposed_ne also _ _).symm (by simp)
  | some part =>
    cases also : second.exposed with
    | none => exact iff_of_false (wellFormed.exposed_ne shown _ _) (by simp)
    | some rest => simp [String.append_right_inj, String.ofList_inj]

/-- Every URL has a masked form. Those of two URLs of one database are the same exactly if they show
the same of the user and the password, and nothing is shown of them exactly if there is no question
mark in them. -/
theorem masks_agree_iff (wellFormed : first.WellFormed) (other : second.WellFormed)
    (alike : first.Alike second) :
    ∃ shown again, mask first.text = .ok shown ∧ mask second.text = .ok again ∧
      (shown = again ↔ first.exposed = second.exposed) ∧
      (shown = first.starred ↔ '?' ∉ first.credentials) := by
  refine ⟨first.masked, second.masked, mask_eq wellFormed, mask_eq other,
    masked_eq_iff wellFormed other alike, ?_⟩
  unfold Url.masked
  cases exposes : first.exposed with
  | none =>
    refine iff_of_true rfl ?_
    unfold Url.exposed at exposes
    split_ifs at exposes with mark
    exact mark
  | some part =>
    refine iff_of_false (wellFormed.exposed_ne exposes _ _) ?_
    unfold Url.exposed at exposes
    split_ifs at exposes with mark
    exact not_not_intro mark

end Runs

namespace Masking

def url (user password parameters : String) : Url :=
  { scheme := "postgresql+psycopg".toList, user := user.toList, password := password.toList,
    place := "db:5432/attribution".toList, parameters := parameters.toList }

theorem url_wellFormed (user password parameters : String) (some : user.toList ≠ [])
    (name : ∀ c ∈ user.toList, c ∉ [':', '/', '@']) (secret : '@' ∉ password.toList)
    (options : '@' ∉ parameters.toList) : (url user password parameters).WellFormed := by
  have scheme : ∀ c ∈ "postgresql+psycopg".toList, c ∉ [':', '/', '?', '@'] :=
    forall_of_all (by decide)
  have place : '@' ∉ "db:5432/attribution".toList ∧ '?' ∉ "db:5432/attribution".toList := by decide
  exact ⟨scheme, ⟨some, name⟩, secret, place, options⟩

/-- The marks of a scheme in a password. -/
def marked : Url := url "bob" "s://3:cr/et" "sslmode=require"

theorem marked_wellFormed : marked.WellFormed :=
  url_wellFormed _ _ _ (by decide) (forall_of_all (by decide)) (by decide) (by decide)

def plain : Url := url "eve" "secret" ""

theorem plain_wellFormed : plain.WellFormed :=
  url_wellFormed _ _ _ (by decide) (forall_of_all (by decide)) (by decide) (by decide)

def cut : Url := url "bob" "pa?ss" "sslmode=require"

theorem cut_wellFormed : cut.WellFormed :=
  url_wellFormed _ _ _ (by decide) (forall_of_all (by decide)) (by decide) (by decide)

end Masking

/-- Neither a password with the marks of a scheme nor another one is shown. -/
theorem masks_agree_iff_marks :
    mask Masking.marked.text = .ok "postgresql+psycopg://***@db:5432/attribution" ∧
      mask Masking.plain.text = mask Masking.marked.text := by
  obtain ⟨shown, again, done, also, agree, stars⟩ :=
    masks_agree_iff Masking.marked_wellFormed Masking.plain_wellFormed ⟨rfl, rfl⟩
  have same : shown = again := agree.mpr (by decide)
  have hidden : shown = Masking.marked.starred := stars.mpr (by decide)
  rw [done, also, ← same, hidden]
  exact ⟨rfl, rfl⟩

/-- With a question mark in the password, the user and what stands before the mark are shown. -/
theorem password_with_mark_exposed :
    ¬ ∀ first second : Url, first.WellFormed → second.WellFormed → first.Alike second →
      (∀ c ∈ first.scheme, c.isAlphanum = true ∨ c = '+') →
      ∃ shown, mask first.text = .ok shown ∧ mask second.text = .ok shown := by
  intro claim
  obtain ⟨shown, done, also⟩ := claim Masking.cut Masking.plain Masking.cut_wellFormed
    Masking.plain_wellFormed ⟨rfl, rfl⟩ (forall_of_all (by decide))
  rw [mask_eq Masking.cut_wellFormed] at done
  rw [mask_eq Masking.plain_wellFormed] at also
  have same := (masked_eq_iff Masking.cut_wellFormed Masking.plain_wellFormed ⟨rfl, rfl⟩).mp
    (Except.ok.inj (done.trans also.symm))
  have part : Masking.cut.exposed = some "bob:pa".toList := by decide
  have nothing : Masking.plain.exposed = none := by decide
  rw [part, nothing] at same
  cases same

end Reconcile.Database
