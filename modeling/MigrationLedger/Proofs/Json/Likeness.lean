/-
# JSON values that say the same

The members of an object have no order that matters: what counts is the value that is
found under each name. Values that say the same in this sense are alike, and a reader is
fair when it reads alike values alike. A list is read fairly when its items are, and alike
values have alike values in their fields. An object that is made of exactly the fields that
are asked for gives all their values back, in their order.
-/

import Mathlib.Data.List.Forall2
import MigrationLedger.Json.Value

namespace MigrationLedger.Json.Value

variable {α : Type} {value other : Value} {members others : List (String × Value)}
  {names : List String} {key : String} {closed : Bool}

/-- The values say the same: lists do item by item, and objects name by name. -/
inductive Alike : Value → Value → Prop
  | refl (value : Value) : Alike value value
  | array {items others : List Value} (each : List.Forall₂ Alike items others) :
      Alike (.array items) (.array others)
  | object {members others : List (String × Value)}
      (under : ∀ key, Option.Rel Alike (members.lookup key) (others.lookup key)) :
      Alike (.object members) (.object others)

/-- The reader makes no difference between values that say the same. -/
def Fair (read : Value → Option α) : Prop :=
  ∀ ⦃value other⦄, Alike value other → read value = read other

/-! ## The order of members -/

theorem option_alike_refl (value : Option Value) : Option.Rel Alike value value := by
  cases value with
  | none => exact .none
  | some value => exact .some (.refl value)

theorem lookup_eq_some_iff_mem (distinct : (members.map Prod.fst).Nodup) :
    members.lookup key = some value ↔ (key, value) ∈ members := by
  rw [List.lookup_eq_some_iff]
  constructor
  · rintro ⟨front, back, rfl, -⟩
    exact List.mem_append_right _ List.mem_cons_self
  · intro present
    obtain ⟨front, back, rfl⟩ := List.append_of_mem present
    refine ⟨front, back, rfl, fun entry before => ?_⟩
    rw [List.map_append, List.nodup_append] at distinct
    have differ := distinct.2.2 entry.1 (List.mem_map_of_mem before) key (by simp)
    simpa using differ.symm

/-- Members with different names can be put in any order. -/
theorem Alike.of_perm (order : members.Perm others) (distinct : (members.map Prod.fst).Nodup) :
    Alike (.object members) (.object others) := by
  refine .object fun key => ?_
  have same : members.lookup key = others.lookup key := by
    refine Option.ext fun value => ?_
    rw [lookup_eq_some_iff_mem distinct, order.mem_iff,
      lookup_eq_some_iff_mem ((order.map Prod.fst).nodup_iff.mp distinct)]
  rw [same]
  exact option_alike_refl _

/-! ## Fair readers -/

/-- A list is read alike when its items are. -/
theorem Fair.list {read : Value → Option α} (fair : Fair read) :
    Fair fun value => value.items? >>= List.mapM read := by
  rintro _ _ (value | each | under)
  · rfl
  · change List.mapM read _ = List.mapM read _
    induction each with
    | nil => rfl
    | cons alike _ ih => rw [List.mapM_cons, List.mapM_cons, fair alike, ih]
  · rfl

theorem isSome_eq_of_rel {value other : Option Value} (related : Option.Rel Alike value other) :
    value.isSome = other.isSome := by
  cases related <;> rfl

/-- Objects that say the same have the same names. -/
theorem any_name_eq (under : ∀ key, Option.Rel Alike (members.lookup key) (others.lookup key))
    (test : String → Bool) :
    (members.any fun entry => test entry.1) = others.any fun entry => test entry.1 := by
  have present : ∀ key, (∃ entry ∈ members, key = entry.1) ↔ ∃ entry ∈ others, key = entry.1 := by
    intro key
    have same := Bool.eq_iff_iff.mp (isSome_eq_of_rel (under key))
    simpa [List.lookup_isSome_iff] using same
  have named : ∀ list : List (String × Value), (list.any fun entry => test entry.1) = true ↔
      ∃ key, (∃ entry ∈ list, key = entry.1) ∧ test key = true := by
    intro list
    rw [List.any_eq_true]
    constructor
    · rintro ⟨entry, stands, passes⟩
      exact ⟨_, ⟨entry, stands, rfl⟩, passes⟩
    · rintro ⟨_, ⟨entry, stands, rfl⟩, passes⟩
      exact ⟨entry, stands, passes⟩
  rw [Bool.eq_iff_iff, named, named]
  simp only [present]

/-- Alike values are refused together, or have alike values in their fields. -/
theorem fields?_alike (closed : Bool) (names : List String) (alike : Alike value other) :
    Option.Rel (List.Forall₂ (Option.Rel Alike)) (value.fields? closed names)
      (other.fields? closed names) := by
  cases alike with
  | refl =>
      cases value.fields? closed names with
      | none => exact .none
      | some values => exact .some (List.forall₂_same.mpr fun value _ => option_alike_refl value)
  | array each =>
      simp only [fields?, each.length_eq]
      split_ifs
      · exact .none
      · refine .some (List.rel_append (List.rel_map (fun _ _ alike => .some alike) each) ?_)
        exact List.forall₂_same.mpr fun value _ => option_alike_refl value
  | object under =>
      simp only [fields?, any_name_eq under fun name => !names.contains name]
      split_ifs
      · exact .none
      · refine .some ?_
        rw [List.forall₂_map_left_iff, List.forall₂_map_right_iff]
        exact List.forall₂_same.mpr fun name _ => under name

/-- What is built from fields is read fairly when alike fields build the same. -/
theorem fair_fields {build : List (Option Value) → Option α}
    (fair : ∀ ⦃values others⦄, List.Forall₂ (Option.Rel Alike) values others →
      build values = build others) : Fair fun value => value.fields? closed names >>= build := by
  intro value other alike
  have fields := fields?_alike closed names alike
  dsimp only
  generalize value.fields? closed names = values, other.fields? closed names = others at fields ⊢
  cases fields with
  | none => rfl
  | some fields => exact fair fields

/-- An object of exactly the fields that are asked for gives their values back. -/
theorem fields?_object (named : members.map Prod.fst = names) (distinct : names.Nodup) :
    (object members).fields? closed names = some (members.map fun entry => some entry.2) := by
  subst named
  have known : (members.any fun entry => !(members.map Prod.fst).contains entry.1) = false := by
    simp only [List.any_eq_false]
    intro entry stands
    simpa using ⟨_, stands⟩
  rw [fields?, known, Bool.and_false, if_neg Bool.false_ne_true, List.map_map]
  refine congrArg some (List.map_congr_left fun entry stands => ?_)
  exact (lookup_eq_some_iff_mem distinct).mpr stands

end MigrationLedger.Json.Value
