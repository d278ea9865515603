import Reconcile.Proofs.Json.Numbers
import Reconcile.Proofs.Json.Strings
import Reconcile.Proofs.Result

set_option autoImplicit false

/-
Values are read as they were written. What reading gives has its numbers in the form of the format
and no two fields of one name in any object, no more arrays and objects inside one another than
there is room for, and no whole number of too many digits. Any such value can be written, and it is
read again as it is.
-/
namespace Reconcile.Json

/-- Whether a part of a value is one that a text can stand for: a number in the form of the format,
and an object with no two fields of one name. -/
def isGenuine : Json → Bool
  | .double x => x.isCanonical
  | .object fields => decide (fields.map (·.1)).Nodup
  | _ => true

/-- All parts of the value are such that a text can stand for them. -/
def Genuine (value : Json) : Prop := ∀ part ∈ value.parts, part.isGenuine = true

instance (value : Json) : Decidable value.Genuine :=
  inferInstanceAs (Decidable (∀ part ∈ value.parts, part.isGenuine = true))

/-- The value is one that is read where there is room for so many arrays and objects. -/
structure Readable (room : Nat) (value : Json) : Prop where
  genuine : value.Genuine
  writable : value.isWritable room = true

section Readable

variable {room : Nat}

theorem mem_itemParts {part : Json} {items : List Json} :
    part ∈ itemParts items ↔ ∃ item ∈ items, part ∈ item.parts := by
  induction items with
  | nil => simp [itemParts]
  | cons item rest ih => simp [itemParts, ih]

theorem mem_fieldParts {part : Json} {fields : Fields} :
    part ∈ fieldParts fields ↔ ∃ field ∈ fields, part ∈ field.2.parts := by
  induction fields with
  | nil => simp [fieldParts]
  | cons field rest ih =>
    obtain ⟨name, value⟩ := field
    simp [fieldParts, ih]

theorem genuine_object {fields : Fields} : Genuine (.object fields) ↔
    (fields.map (·.1)).Nodup ∧ ∀ field ∈ fields, field.2.Genuine := by
  rw [Genuine, parts, List.forall_mem_cons]
  constructor
  · rintro ⟨distinct, parts⟩
    refine ⟨of_decide_eq_true distinct, fun field member part inside => ?_⟩
    exact parts part (mem_fieldParts.mpr ⟨field, member, inside⟩)
  · rintro ⟨distinct, genuine⟩
    refine ⟨decide_eq_true distinct, fun part inside => ?_⟩
    obtain ⟨field, member, inside⟩ := mem_fieldParts.mp inside
    exact genuine field member part inside

theorem genuine_nil : Genuine (.object []) := by decide

theorem deepestItem_le {limit : Nat} {items : List Json} :
    deepestItem items ≤ limit ↔ ∀ item ∈ items, item.depth ≤ limit := by
  induction items with
  | nil => simp [deepestItem]
  | cons item rest ih => simp [deepestItem, ih]

theorem deepestField_le {limit : Nat} {fields : Fields} :
    deepestField fields ≤ limit ↔ ∀ field ∈ fields, field.2.depth ≤ limit := by
  induction fields with
  | nil => simp [deepestField]
  | cons field rest ih =>
    obtain ⟨name, value⟩ := field
    simp [deepestField, ih]

theorem readable_iff {value : Json} : value.Readable room ↔
    value.depth ≤ room ∧ ∀ part ∈ value.parts, part.isGenuine = true ∧ part.isShort = true := by
  constructor
  · rintro ⟨genuine, writable⟩
    rw [isWritable, Bool.and_eq_true, decide_eq_true_eq, List.all_eq_true] at writable
    exact ⟨writable.1, fun part member => ⟨genuine part member, writable.2 part member⟩⟩
  · rintro ⟨shallow, parts⟩
    refine ⟨fun part member => (parts part member).1, ?_⟩
    rw [isWritable, Bool.and_eq_true, decide_eq_true_eq, List.all_eq_true]
    exact ⟨shallow, fun part member => (parts part member).2⟩

theorem readable_null : Readable room .null :=
  readable_iff.mpr ⟨Nat.zero_le _, by simp [parts, isGenuine, isShort]⟩

theorem readable_bool (value : Bool) : Readable room (.bool value) :=
  readable_iff.mpr ⟨Nat.zero_le _, by simp [parts, isGenuine, isShort]⟩

theorem readable_string (value : Str) : Readable room (.string value) :=
  readable_iff.mpr ⟨Nat.zero_le _, by simp [parts, isGenuine, isShort]⟩

theorem readable_int {n : Int} :
    Readable room (.int n) ↔ Decimal.digitCount n.natAbs ≤ Numeral.digitLimit := by
  simp [readable_iff, parts, isGenuine, isShort, depth]

theorem readable_double {x : Binary64} : Readable room (.double x) ↔ x.isCanonical = true := by
  simp [readable_iff, parts, isGenuine, isShort, depth]

theorem readable_array {items : List Json} : Readable room (.array items) ↔
    ∃ inner, room = inner + 1 ∧ ∀ item ∈ items, item.Readable inner := by
  rw [readable_iff, depth, parts, List.forall_mem_cons]
  constructor
  · rintro ⟨shallow, -, parts⟩
    refine ⟨room - 1, by omega, fun item member => readable_iff.mpr ⟨?_, ?_⟩⟩
    · exact deepestItem_le.mp (show deepestItem items ≤ room - 1 by omega) item member
    · exact fun part inside => parts part (mem_itemParts.mpr ⟨item, member, inside⟩)
  · rintro ⟨inner, rfl, readable⟩
    refine ⟨Nat.succ_le_succ (deepestItem_le.mpr fun item member => ?_), ⟨rfl, rfl⟩, ?_⟩
    · exact (readable_iff.mp (readable item member)).1
    · intro part inside
      obtain ⟨item, member, inside⟩ := mem_itemParts.mp inside
      exact (readable_iff.mp (readable item member)).2 part inside

theorem readable_object {fields : Fields} : Readable room (.object fields) ↔
    ∃ inner, room = inner + 1 ∧ (fields.map (·.1)).Nodup ∧
      ∀ field ∈ fields, field.2.Readable inner := by
  rw [readable_iff, depth, parts, List.forall_mem_cons]
  constructor
  · rintro ⟨shallow, ⟨distinct, -⟩, parts⟩
    refine ⟨room - 1, by omega, of_decide_eq_true distinct,
      fun field member => readable_iff.mpr ⟨?_, ?_⟩⟩
    · exact deepestField_le.mp (show deepestField fields ≤ room - 1 by omega) field member
    · exact fun part inside => parts part (mem_fieldParts.mpr ⟨field, member, inside⟩)
  · rintro ⟨inner, rfl, distinct, readable⟩
    refine ⟨Nat.succ_le_succ (deepestField_le.mpr fun field member => ?_),
      ⟨decide_eq_true distinct, rfl⟩, ?_⟩
    · exact (readable_iff.mp (readable field member)).1
    · intro part inside
      obtain ⟨field, member, inside⟩ := mem_fieldParts.mp inside
      exact (readable_iff.mp (readable field member)).2 part inside

end Readable

section SetField

variable {fields : Fields} {name : Str} {value : Json}

theorem setField_new (new : name ∉ fields.map (·.1)) :
    setField fields name value = fields ++ [(name, value)] := by
  induction fields with
  | nil => rfl
  | cons field rest ih =>
    rw [List.map_cons, List.mem_cons, not_or] at new
    rw [setField, if_neg (Ne.symm new.1), ih new.2]
    rfl

theorem setField_last {others : Fields}
    (distinct : ((fields ++ (name, value) :: others).map (·.1)).Nodup) :
    setField fields name value = fields ++ [(name, value)] := by
  rw [List.map_append, List.nodup_append] at distinct
  exact setField_new fun known => distinct.2.2 _ known _ List.mem_cons_self rfl

theorem mem_setField {field : Str × Json} (member : field ∈ setField fields name value) :
    field ∈ fields ∨ field = (name, value) := by
  induction fields with
  | nil => exact Or.inr (List.mem_singleton.mp member)
  | cons head rest ih =>
    rw [setField] at member
    split at member
    · rcases List.mem_cons.mp member with rfl | inside
      · exact Or.inr rfl
      · exact Or.inl (List.mem_cons_of_mem head inside)
    · rcases List.mem_cons.mp member with rfl | inside
      · exact Or.inl List.mem_cons_self
      · exact (ih inside).imp_left (List.mem_cons_of_mem head)

/-- A field is set in its place, so no name comes twice. -/
theorem setField_nodup (distinct : (fields.map (·.1)).Nodup) :
    ((setField fields name value).map (·.1)).Nodup := by
  by_cases known : name ∈ fields.map (·.1)
  · have same : (setField fields name value).map (·.1) = fields.map (·.1) := by
      clear distinct
      induction fields with
      | nil => cases known
      | cons head rest ih =>
        rw [setField]
        split
        · rename_i here
          rw [List.map_cons, List.map_cons, here]
        · rename_i other
          rw [List.map_cons, List.map_cons]
          exact congrArg _ (ih ((List.mem_cons.mp known).resolve_left (Ne.symm other)))
    rwa [same]
  · rw [setField_new known, List.map_append, List.nodup_append]
    refine ⟨distinct, List.nodup_singleton name, ?_⟩
    rintro a inside b member rfl
    rw [List.mem_singleton.mp member] at inside
    exact known inside

end SetField

section Heads

variable {fuel room : Nat} {cs rest : List Char}

theorem skipWhite_cons {c : Char} (visible : isWhite c = false) : skipWhite (c :: cs) = c :: cs :=
  List.dropWhile_cons_of_neg (by rw [visible]; exact Bool.false_ne_true)

/-- What is read as a name or a number begins with no quote and no bracket. -/
theorem readValue_of_readAtom {found : Json × List Char} (reads : readAtom cs = .ok found) :
    readValue (fuel + 1) room cs = .ok found := by
  unfold readValue
  split
  · cases reads
  · cases reads
  · cases reads
  · exact reads

theorem starts_of_readAtom {found : Json × List Char} (reads : readAtom cs = .ok found) :
    ∃ c rest, cs = c :: rest ∧ isWhite c = false ∧ c ≠ ']' := by
  cases cs with
  | nil => cases reads
  | cons c rest =>
    refine ⟨c, rest, rfl, ?_, ?_⟩
    · rw [isWhite, Bool.or_eq_false_iff, Bool.or_eq_false_iff, Bool.or_eq_false_iff]
      refine ⟨⟨⟨?_, ?_⟩, ?_⟩, ?_⟩ <;>
      · refine decide_eq_false ?_
        rintro rfl
        cases reads
    · rintro rfl
      cases reads

/-- What can be read as a value begins neither with white space nor with a closing bracket. -/
theorem starts_of_readValue {found : Json × List Char}
    (reads : readValue fuel room cs = .ok found) :
    ∃ c rest, cs = c :: rest ∧ isWhite c = false ∧ c ≠ ']' := by
  cases fuel with
  | zero => cases reads
  | succ fuel =>
    unfold readValue at reads
    split at reads
    · exact ⟨_, _, rfl, rfl, by decide⟩
    · exact ⟨_, _, rfl, rfl, by decide⟩
    · exact ⟨_, _, rfl, rfl, by decide⟩
    · exact starts_of_readAtom reads

theorem skipWhite_of_readValue {found : Json × List Char}
    (reads : readValue fuel room cs = .ok found) : skipWhite cs = cs := by
  obtain ⟨c, rest, rfl, visible, -⟩ := starts_of_readValue reads
  exact skipWhite_cons visible

theorem starts_of_readItems {found : List Json × List Char}
    (reads : readItems fuel room cs = .ok found) :
    ∃ c rest, cs = c :: rest ∧ isWhite c = false ∧ c ≠ ']' := by
  cases fuel with
  | zero => cases reads
  | succ fuel =>
    rw [readItems] at reads
    obtain ⟨_, reads, -⟩ := bind_eq_ok.mp reads
    exact starts_of_readValue reads

theorem starts_of_readFields {kept : Fields} {found : Fields × List Char}
    (reads : readFields fuel room kept cs = .ok found) : ∃ rest, cs = '"' :: rest := by
  cases fuel with
  | zero => cases reads
  | succ fuel =>
    unfold readFields at reads
    split at reads
    · exact ⟨_, rfl⟩
    · cases reads

theorem readValue_items {items : List Json}
    (reads : readItems fuel room cs = .ok (items, rest)) :
    readValue (fuel + 1) (room + 1) ('[' :: cs) = .ok (.array items, rest) := by
  obtain ⟨c, others, rfl, visible, opens⟩ := starts_of_readItems reads
  rw [readValue]
  dsimp only
  rw [skipWhite_cons visible]
  split
  · rename_i same
    exact absurd (List.cons.inj same).1 opens
  · exact bind_of_ok reads

theorem readValue_fields {fields : Fields}
    (reads : readFields fuel room [] cs = .ok (fields, rest)) :
    readValue (fuel + 1) (room + 1) ('{' :: cs) = .ok (.object fields, rest) := by
  obtain ⟨others, rfl⟩ := starts_of_readFields reads
  rw [readValue]
  exact bind_of_ok reads

theorem skipWhite_blank (cs : List Char) : skipWhite (' ' :: cs) = skipWhite cs := rfl

theorem readItems_last {item : Json} (reads : readValue fuel room cs = .ok (item, ']' :: rest)) :
    readItems (fuel + 1) room cs = .ok ([item], rest) := by
  rw [readItems]
  exact bind_of_ok reads

theorem readItems_next {item : Json} {items : List Json} {after : List Char}
    (reads : readValue fuel room cs = .ok (item, ',' :: ' ' :: after))
    (others : readItems fuel room after = .ok (items, rest)) :
    readItems (fuel + 1) room cs = .ok (item :: items, rest) := by
  obtain ⟨c, after, rfl, visible, -⟩ := starts_of_readItems others
  rw [readItems]
  refine (bind_of_ok reads).trans ?_
  change (readItems fuel room (skipWhite (' ' :: c :: after)) >>= _) = _
  rw [skipWhite_blank, skipWhite_cons visible]
  exact bind_of_ok others

variable {kept : Fields} {name : Str} {value : Json}

theorem readFields_last (reads : readValue fuel room cs = .ok (value, '}' :: rest)) :
    readFields (fuel + 1) room kept (quote name ++ ':' :: ' ' :: cs) =
      .ok (setField kept name value, rest) := by
  obtain ⟨c, after, rfl, visible, -⟩ := starts_of_readValue reads
  rw [quote, List.cons_append, List.cons_append, List.append_assoc, readFields]
  refine (bind_of_ok (readString_quoted name _)).trans ?_
  change (readValue fuel room (skipWhite (' ' :: c :: after)) >>= _) = _
  rw [skipWhite_blank, skipWhite_cons visible]
  exact bind_of_ok reads

theorem readFields_next {after : List Char} {found : Fields × List Char}
    (reads : readValue fuel room cs = .ok (value, ',' :: ' ' :: after))
    (others : readFields fuel room (setField kept name value) after = .ok found) :
    readFields (fuel + 1) room kept (quote name ++ ':' :: ' ' :: cs) = .ok found := by
  obtain ⟨c, shown, rfl, visible, -⟩ := starts_of_readValue reads
  obtain ⟨rest, rfl⟩ := starts_of_readFields others
  rw [quote, List.cons_append, List.cons_append, List.append_assoc, readFields]
  refine (bind_of_ok (readString_quoted name _)).trans ?_
  change (readValue fuel room (skipWhite (' ' :: c :: shown)) >>= _) = _
  rw [skipWhite_blank, skipWhite_cons visible]
  exact (bind_of_ok reads).trans others

end Heads

section Written

/-- Written values are read again if there are more steps than characters. -/
def ReadsValues (fuel : Nat) : Prop :=
  ∀ {room value rest}, Readable room value → Ends rest → value.chars.length < fuel →
    readValue fuel room (value.chars ++ rest) = .ok (value, rest)

def ReadsItems (fuel : Nat) : Prop :=
  ∀ {room items rest}, items ≠ [] → (∀ item ∈ items, Readable room item) →
    (itemChars items).length + 1 < fuel →
      readItems fuel room (itemChars items ++ ']' :: rest) = .ok (items, rest)

def ReadsFields (fuel : Nat) : Prop :=
  ∀ {room kept fields rest}, fields ≠ [] → ((kept ++ fields).map (·.1)).Nodup →
    (∀ field ∈ fields, Readable room field.2) → (fieldChars fields).length + 1 < fuel →
      readFields fuel room kept (fieldChars fields ++ '}' :: rest) = .ok (kept ++ fields, rest)

variable {fuel : Nat}

theorem ends_cons {c : Char} (rest : List Char) (marks : c = ',' ∨ c = ']' ∨ c = '}') :
    Ends (c :: rest) := by
  rintro other ⟨⟩
  exact marks

theorem readsValues_succ (readsItems : ReadsItems fuel) (readsFields : ReadsFields fuel) :
    ReadsValues (fuel + 1) := by
  intro room value rest readable ends enough
  cases value with
  | null => exact readValue_of_readAtom rfl
  | bool value => cases value <;> exact readValue_of_readAtom rfl
  | int n => exact readValue_of_readAtom (readAtom_int n (readable_int.mp readable) ends)
  | double x => exact readValue_of_readAtom (readAtom_double (readable_double.mp readable) ends)
  | string value =>
    rw [chars, quote, List.append_assoc, List.cons_append, readValue]
    exact bind_of_ok (readString_quoted value rest)
  | array items =>
    obtain ⟨inner, rfl, inside⟩ := readable_array.mp readable
    rw [chars, List.cons_append, List.cons_append, List.append_assoc]
    cases items with
    | nil => rfl
    | cons item items =>
      refine readValue_items (readsItems (List.cons_ne_nil item items) inside ?_)
      simp only [chars, List.length_append, List.length_cons, List.length_nil] at enough
      omega
  | object fields =>
    obtain ⟨inner, rfl, distinct, inside⟩ := readable_object.mp readable
    rw [chars, List.cons_append, List.cons_append, List.append_assoc]
    cases fields with
    | nil => rfl
    | cons field fields =>
      refine readValue_fields (readsFields (List.cons_ne_nil field fields) distinct inside ?_)
      simp only [chars, List.length_append, List.length_cons, List.length_nil] at enough
      omega

theorem itemChars_cons {item next : Json} {items : List Json} :
    itemChars (item :: next :: items) = item.chars ++ ',' :: ' ' :: itemChars (next :: items) := rfl

theorem fieldChars_cons {name : Str} {value : Json} {next : Str × Json} {fields : Fields} :
    fieldChars ((name, value) :: next :: fields) =
      quote name ++ ':' :: ' ' :: value.chars ++ ',' :: ' ' :: fieldChars (next :: fields) := rfl

theorem readsItems_succ (readsValues : ReadsValues fuel) (readsItems : ReadsItems fuel) :
    ReadsItems (fuel + 1) := by
  intro room items rest some readable enough
  match items with
  | [item] =>
    rw [itemChars] at enough ⊢
    refine readItems_last (readsValues (readable item List.mem_cons_self) ?_ (by omega))
    exact ends_cons _ (Or.inr (Or.inl rfl))
  | item :: next :: items =>
    rw [itemChars_cons, List.length_append, List.length_cons, List.length_cons] at enough
    rw [itemChars_cons, List.append_assoc]
    refine readItems_next (readsValues (readable item List.mem_cons_self)
      (ends_cons _ (Or.inl rfl)) (by omega)) ?_
    exact readsItems (List.cons_ne_nil next items)
      (fun other member => readable other (List.mem_cons_of_mem item member)) (by omega)

theorem readsFields_succ (readsValues : ReadsValues fuel) (readsFields : ReadsFields fuel) :
    ReadsFields (fuel + 1) := by
  intro room kept fields rest some distinct readable enough
  match fields with
  | [(name, value)] =>
    simp only [fieldChars, List.length_append, List.length_cons] at enough
    rw [fieldChars, List.append_assoc, ← setField_last distinct]
    refine readFields_last (readsValues (readable _ List.mem_cons_self) ?_ (by omega))
    exact ends_cons _ (Or.inr (Or.inr rfl))
  | (name, value) :: next :: fields =>
    simp only [fieldChars_cons, List.length_append, List.length_cons] at enough
    rw [fieldChars_cons, List.append_assoc, List.append_assoc]
    refine readFields_next (readsValues (readable _ List.mem_cons_self)
      (ends_cons _ (Or.inl rfl)) (by omega)) ?_
    have set := setField_last distinct
    rw [List.append_cons, ← set] at distinct ⊢
    exact readsFields (List.cons_ne_nil next fields) distinct
      (fun other member => readable other (List.mem_cons_of_mem _ member)) (by omega)

theorem reads_written (fuel : Nat) : ReadsValues fuel ∧ ReadsItems fuel ∧ ReadsFields fuel := by
  induction fuel with
  | zero =>
    exact ⟨fun _ _ enough => absurd enough (Nat.not_lt_zero _),
      fun _ _ enough => absurd enough (Nat.not_lt_zero _),
      fun _ _ _ enough => absurd enough (Nat.not_lt_zero _)⟩
  | succ fuel ih =>
    obtain ⟨values, items, fields⟩ := ih
    exact ⟨readsValues_succ items fields, readsItems_succ values items,
      readsFields_succ values fields⟩

/-- What can be written is read as it was written. -/
theorem read_write {room : Nat} {value : Json} (readable : value.Readable room) :
    read room value.write = .ok value := by
  have whole : readValue (2 * value.chars.length + 2) room (value.chars ++ []) = .ok (value, []) :=
    (reads_written _).1 readable (fun c first => by cases first) (by omega)
  rw [List.append_nil] at whole
  rw [read, write, String.toList_ofList, skipWhite_of_readValue whole]
  exact bind_of_ok whole

end Written

section Nested

end Nested

section Found

/-- What is read has no more arrays and objects inside one another than there is room for, and can
be written again. -/
def FindsValues (fuel : Nat) : Prop :=
  ∀ {room cs value rest}, readValue fuel room cs = .ok (value, rest) → Readable room value

def FindsItems (fuel : Nat) : Prop :=
  ∀ {room cs items rest}, readItems fuel room cs = .ok (items, rest) →
    ∀ item ∈ items, Readable room item

def FindsFields (fuel : Nat) : Prop :=
  ∀ {room kept cs fields rest}, readFields fuel room kept cs = .ok (fields, rest) →
    (kept.map (·.1)).Nodup → (∀ field ∈ kept, Readable room field.2) →
      (fields.map (·.1)).Nodup ∧ ∀ field ∈ fields, Readable room field.2

variable {fuel room : Nat} {cs rest : List Char} {value : Json}

theorem readable_of_readPlaces {negative : Bool} {whole : List Nat}
    (small : ∀ d ∈ whole, d < 10) (reads : readPlaces negative whole cs = .ok (value, rest)) :
    Readable room value := by
  unfold readPlaces at reads
  extract_lets at reads
  split at reads
  · obtain ⟨rfl, -⟩ := Prod.mk.inj (Except.ok.inj reads)
    exact readable_double.mpr (Binary64.ofDecimal_isCanonical _ _ _)
  · split at reads
    · cases reads
    · rename_i few
      obtain ⟨rfl, -⟩ := Prod.mk.inj (Except.ok.inj reads)
      rw [readable_int]
      have size : (if negative = true then -(Decimal.ofDigits whole : Int)
          else Decimal.ofDigits whole).natAbs = Decimal.ofDigits whole := by
        split <;> omega
      rw [size, Decimal.digitCount_le_iff]
      exact (Decimal.ofDigits_lt small).trans_le (tenTo_le_tenTo.mpr (not_lt.mp few))

theorem readable_of_readNumber {negative : Bool}
    (reads : readNumber negative cs = .ok (value, rest)) : Readable room value := by
  have small := Decimal.takeDigits_small cs
  rw [readNumber] at reads
  split at reads
  · cases reads
  · cases reads
  · rename_i whole after _ taken
    rw [taken] at small
    exact readable_of_readPlaces small reads

theorem readable_of_readAtom (reads : readAtom cs = .ok (value, rest)) : Readable room value := by
  unfold readAtom at reads
  split at reads
  case h_7 | h_8 => exact readable_of_readNumber reads
  all_goals cases reads
  · exact readable_null
  · exact readable_bool true
  · exact readable_bool false
  all_goals exact readable_double.mpr rfl

theorem findsValues_succ (findsItems : FindsItems fuel) (findsFields : FindsFields fuel) :
    FindsValues (fuel + 1) := by
  intro room cs value rest reads
  unfold readValue at reads
  split at reads
  · obtain ⟨⟨written, after⟩, -, reads⟩ := bind_eq_ok.mp reads
    cases reads
    exact readable_string written
  · split at reads
    · cases reads
    · rename_i inner
      split at reads
      · cases reads
        exact readable_array.mpr ⟨inner, rfl, fun item member => absurd member List.not_mem_nil⟩
      · obtain ⟨⟨items, after⟩, found, reads⟩ := bind_eq_ok.mp reads
        cases reads
        exact readable_array.mpr ⟨inner, rfl, findsItems found⟩
  · split at reads
    · cases reads
    · rename_i inner
      have none : ∀ field ∈ ([] : Fields), Readable inner field.2 := fun field member =>
        absurd member List.not_mem_nil
      split at reads
      · cases reads
        exact readable_object.mpr ⟨inner, rfl, List.nodup_nil, none⟩
      · obtain ⟨⟨fields, after⟩, found, reads⟩ := bind_eq_ok.mp reads
        cases reads
        exact readable_object.mpr ⟨inner, rfl, findsFields found List.nodup_nil none⟩
  · exact readable_of_readAtom reads

theorem findsItems_succ (findsValues : FindsValues fuel) (findsItems : FindsItems fuel) :
    FindsItems (fuel + 1) := by
  intro room cs items rest reads
  rw [readItems] at reads
  obtain ⟨⟨item, after⟩, first, reads⟩ := bind_eq_ok.mp reads
  have readable := findsValues first
  dsimp only at reads
  split at reads
  · cases reads
    exact List.forall_mem_singleton.mpr readable
  · obtain ⟨⟨items, after⟩, others, reads⟩ := bind_eq_ok.mp reads
    cases reads
    exact List.forall_mem_cons.mpr ⟨readable, findsItems others⟩
  · cases reads

theorem findsFields_succ (findsValues : FindsValues fuel) (findsFields : FindsFields fuel) :
    FindsFields (fuel + 1) := by
  intro room kept cs fields rest reads distinct readable
  unfold readFields at reads
  split at reads
  · obtain ⟨⟨name, after⟩, -, reads⟩ := bind_eq_ok.mp reads
    dsimp only at reads
    split at reads
    · obtain ⟨⟨value, after⟩, found, reads⟩ := bind_eq_ok.mp reads
      have set : ∀ field ∈ setField kept name value, Readable room field.2 := by
        intro field member
        obtain known | rfl := mem_setField member
        · exact readable field known
        · exact findsValues found
      dsimp only at reads
      split at reads
      · cases reads
        exact ⟨setField_nodup distinct, set⟩
      · exact findsFields reads (setField_nodup distinct) set
      · cases reads
    · cases reads
  · cases reads

theorem finds_readable (fuel : Nat) :
    FindsValues fuel ∧ FindsItems fuel ∧ FindsFields fuel := by
  induction fuel with
  | zero =>
    refine ⟨fun reads => ?_, fun reads => ?_, fun reads => ?_⟩ <;> cases reads
  | succ fuel ih =>
    obtain ⟨values, items, fields⟩ := ih
    exact ⟨findsValues_succ items fields, findsItems_succ values items,
      findsFields_succ values fields⟩

/-- Only what can be written again is read. -/
theorem readable_of_read {text : String} (reads : read room text = .ok value) :
    Readable room value := by
  rw [read] at reads
  obtain ⟨⟨found, after⟩, whole, reads⟩ := bind_eq_ok.mp reads
  dsimp only at reads
  split at reads
  · cases reads
    exact (finds_readable _).1 whole
  · cases reads

end Found

end Reconcile.Json
