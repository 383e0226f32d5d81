import Footgun.Json.Reader
import Footgun.Proofs.Failing

/-! # The names of an object that is read

A text may repeat a name in an object; the last value counts, at the place of the first. Reading
therefore gives objects in which every name stands once. Main definitions:

* `Json.UniqueNames` — no object in a value repeats a name;
* `Json.UniqueFields` — the same for the fields of an object that is being read.

The main statement is `Json.uniqueNames_of_read`. -/

namespace Footgun.Json

/-- No object in a value, at whatever depth, repeats a name. -/
inductive UniqueNames : Json → Prop where
  /-- The empty value holds no object. -/
  | null : UniqueNames null
  /-- A truth value holds no object. -/
  | bool (value : Bool) : UniqueNames (bool value)
  /-- An integer holds no object. -/
  | int (value : Int) : UniqueNames (int value)
  /-- A number holds no object. -/
  | real (value : Json.Real) : UniqueNames (real value)
  /-- A text holds no object. -/
  | str (value : String) : UniqueNames (str value)
  /-- A list holds the objects of its items. -/
  | arr {items : List Json} (below : ∀ item ∈ items, item.UniqueNames) : UniqueNames (arr items)
  /-- An object has each name once, and holds the objects of its values. -/
  | obj {fields : List (String × Json)} (names : (fields.map Prod.fst).Nodup)
      (below : ∀ field ∈ fields, field.2.UniqueNames) : UniqueNames (obj fields)

/-- The `fields` have each name once, and no object in their values repeats a name. -/
structure UniqueFields (fields : List (String × Json)) : Prop where
  /-- Each name stands once. -/
  names : (fields.map Prod.fst).Nodup
  /-- The same holds in the values. -/
  below : ∀ field ∈ fields, field.2.UniqueNames

/-- An object has `UniqueNames` exactly if its fields are `UniqueFields`. -/
theorem uniqueNames_obj_iff {fields : List (String × Json)} :
    (obj fields).UniqueNames ↔ UniqueFields fields := by
  constructor
  · intro unique
    cases unique with
    | obj names below => exact ⟨names, below⟩
  · intro unique
    exact .obj unique.names unique.below

/-- The value of a field of a value with `UniqueNames` has them, too. -/
theorem UniqueNames.of_get? {value inner : Json} {name : String} (unique : value.UniqueNames)
    (found : value.get? name = some inner) : inner.UniqueNames := by
  cases unique with
  | obj names below =>
      obtain ⟨before, after, split, _⟩ := List.lookup_eq_some_iff.mp found
      refine below (name, inner) ?_
      rw [split]
      simp
  | null | bool | int | real | str | arr => cases found

/-! ## Fields put in place -/

/-- The names after `put name` are those before, and `name` if it is new. -/
theorem map_fst_put (name : String) (value : Json) (fields : List (String × Json)) :
    (put name value fields).map Prod.fst =
      if name ∈ fields.map Prod.fst then fields.map Prod.fst
      else fields.map Prod.fst ++ [name] := by
  induction fields with
  | nil => simp [put]
  | cons field rest ih =>
      rw [put]
      by_cases same : field.1 = name
      · rw [if_pos same]
        simp [same]
      · rw [if_neg same, List.map_cons, ih]
        by_cases later : name ∈ rest.map Prod.fst
        · rw [if_pos later, if_pos (by rw [List.map_cons]; exact List.mem_cons_of_mem _ later)]
          rfl
        · have new : name ∉ (field :: rest).map Prod.fst := by
            rw [List.map_cons, List.mem_cons, not_or]
            exact ⟨Ne.symm same, later⟩
          rw [if_neg later, if_neg new]
          rfl

/-- After `put` there are the field that is put and some of those before. -/
theorem mem_of_mem_put {name : String} {value : Json} {fields : List (String × Json)}
    {field : String × Json} (member : field ∈ put name value fields) :
    field = (name, value) ∨ field ∈ fields := by
  induction fields with
  | nil => exact .inl (List.mem_singleton.mp member)
  | cons first rest ih =>
      rw [put] at member
      split at member
      · obtain new | later := List.mem_cons.mp member
        · exact .inl new
        · exact .inr (List.mem_cons_of_mem _ later)
      · obtain same | later := List.mem_cons.mp member
        · exact .inr (same ▸ List.mem_cons_self)
        · exact (ih later).imp id (List.mem_cons_of_mem _)

/-- The fields stay `UniqueFields` after `put`. -/
theorem UniqueFields.put {fields : List (String × Json)} (unique : UniqueFields fields)
    {value : Json} (below : value.UniqueNames) (name : String) :
    UniqueFields (put name value fields) := by
  constructor
  · -- A name is put in its place or added at the end if it is new.
    rw [map_fst_put]
    by_cases old : name ∈ fields.map Prod.fst
    · rw [if_pos old]
      exact unique.names
    · rw [if_neg old]
      refine List.nodup_append.mpr ⟨unique.names, by simp, ?_⟩
      intro first isFirst second isSecond same
      rw [List.mem_singleton] at isSecond
      exact old (isSecond ▸ same ▸ isFirst)
  · intro field member
    obtain rfl | before := mem_of_mem_put member
    · exact below
    · exact unique.below field before

/-! ## Reading -/

/-- A number that `readNumber` gives has `UniqueNames`. -/
theorem uniqueNames_of_readNumber {negative : Bool} {text rest : List Char} {value : Json}
    (found : readNumber negative text = .ok (value, rest)) : value.UniqueNames := by
  rw [readNumber] at found
  split at found
  · cases found
  · simp only at found
    split at found
    · split at found
      · cases found
      · cases found
        exact .int _
    · cases found
      exact .real _

/-- A value that `readScalar` gives has `UniqueNames`. -/
theorem uniqueNames_of_readScalar {text rest : List Char} {value : Json}
    (found : readScalar text = .ok (value, rest)) : value.UniqueNames := by
  revert found
  fun_cases readScalar text with
  | case1 => rintro ⟨⟩; exact .null
  | case2 => rintro ⟨⟩; exact .bool _
  | case3 => rintro ⟨⟩; exact .bool _
  | case4 => rintro ⟨⟩; exact .real _
  | case5 => rintro ⟨⟩; exact .real _
  | case6 => rintro ⟨⟩; exact .real _
  | case7 => exact uniqueNames_of_readNumber
  | case8 => exact uniqueNames_of_readNumber

/-- With `fuel`, no reader gives an object that repeats a name. -/
structure ReadsUnique (fuel : Nat) : Prop where
  /-- Values. -/
  value {levels : Nat} {text rest : List Char} {value : Json}
    (found : readValue fuel levels text = .ok (value, rest)) : value.UniqueNames
  /-- The items of a list. -/
  items {levels : Nat} {text rest : List Char} {items : List Json}
    (found : readItems fuel levels text = .ok (items, rest)) : ∀ item ∈ items, item.UniqueNames
  /-- The fields of an object, put after fields that were read before. -/
  fields {levels : Nat} {text rest : List Char} {before fields : List (String × Json)}
    (found : readFields fuel levels before text = .ok (fields, rest))
    (unique : UniqueFields before) : UniqueFields fields

namespace ReadsUnique

variable {fuel : Nat} {levels : Nat} {text rest : List Char}

/-- A value is a string or a scalar, or made of items or fields that are read with less `fuel`. -/
theorem value_succ (reads : ReadsUnique fuel) {value : Json}
    (found : readValue (fuel + 1) levels text = .ok (value, rest)) : value.UniqueNames := by
  rw [readValue.eq_def] at found
  simp only at found
  split at found
  · obtain ⟨⟨string, after⟩, _, result⟩ := exists_of_bind_eq_ok found
    cases result
    exact .str _
  · cases found
  · split at found
    · cases found
      exact .arr fun _ member => absurd member List.not_mem_nil
    · obtain ⟨⟨items, after⟩, inside, result⟩ := exists_of_bind_eq_ok found
      cases result
      exact .arr (reads.items inside)
  · cases found
  · split at found
    · cases found
      exact .obj List.nodup_nil fun _ member => absurd member List.not_mem_nil
    · obtain ⟨⟨fields, after⟩, inside, result⟩ := exists_of_bind_eq_ok found
      cases result
      -- An object is read starting from no fields.
      have none : UniqueFields [] :=
        ⟨List.nodup_nil, fun _ member => absurd member List.not_mem_nil⟩
      exact uniqueNames_obj_iff.mpr (reads.fields inside none)
  · exact uniqueNames_of_readScalar found

/-- Items are one value and the items after it, all read with less `fuel`. -/
theorem items_succ (reads : ReadsUnique fuel) {items : List Json}
    (found : readItems (fuel + 1) levels text = .ok (items, rest)) :
    ∀ item ∈ items, item.UniqueNames := by
  rw [readItems] at found
  obtain ⟨⟨first, after⟩, isFirst, result⟩ := exists_of_bind_eq_ok found
  have unique := reads.value isFirst
  simp only at result
  split at result
  · obtain ⟨⟨others, behind⟩, areOthers, result⟩ := exists_of_bind_eq_ok result
    cases result
    exact List.forall_mem_cons.mpr ⟨unique, reads.items areOthers⟩
  · cases result
    exact List.forall_mem_singleton.mpr unique
  · cases result

/-- Fields are one field, `put` behind those `before`, and the fields after it, all read with less
`fuel`. -/
theorem fields_succ (reads : ReadsUnique fuel) {before fields : List (String × Json)}
    (found : readFields (fuel + 1) levels before text = .ok (fields, rest))
    (unique : UniqueFields before) : UniqueFields fields := by
  rw [readFields.eq_def] at found
  simp only at found
  split at found
  · obtain ⟨⟨name, after⟩, _, found⟩ := exists_of_bind_eq_ok found
    simp only at found
    split at found
    · obtain ⟨⟨value, behind⟩, isValue, found⟩ := exists_of_bind_eq_ok found
      -- The field is in place before the next one is read, so that one starts from unique names
      -- again.
      have here := unique.put (reads.value isValue) name
      simp only at found
      split at found
      · exact reads.fields found here
      · cases found
        exact here
      · cases found
    · cases found
  · cases found

end ReadsUnique

/-- No reader gives an object that repeats a name. The induction is on `fuel`. -/
theorem readsUnique (fuel : Nat) : ReadsUnique fuel := by
  -- The three readers call each other with less fuel, so they are dealt with together.
  induction fuel with
  | zero =>
      constructor
      · intro levels text rest value found
        cases found
      · intro levels text rest items found
        cases found
      · intro levels text rest before fields found
        cases found
  | succ fuel ih => exact ⟨ih.value_succ, ih.items_succ, ih.fields_succ⟩

/-- A value that `read` gives has `UniqueNames`. -/
theorem uniqueNames_of_read {text : String} {value : Json} (found : read text = .ok value) :
    value.UniqueNames := by
  rw [read] at found
  obtain ⟨⟨whole, rest⟩, isWhole, result⟩ := exists_of_bind_eq_ok found
  simp only at result
  split at result
  · cases result
    exact (readsUnique _).value isWhole
  · cases result

end Footgun.Json
