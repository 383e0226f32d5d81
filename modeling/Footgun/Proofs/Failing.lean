/-! # Computations that may fail

Steps after each other succeed together: `exists_of_bind_eq_ok` takes a computation apart that has
succeeded, and `isSome_mapM` and `isSome_foldlM` put one together from steps that cannot fail.
`filterMap_eq_of_mapM_eq_some` says that a list of steps that have succeeded lost nothing, and
`mapM_congr` that only the steps for the items of a list count. -/

namespace Footgun

/-- Going on with `next` after `Except.ok value` is `next value`. -/
theorem ok_bind {ε α β : Type} (value : α) (next : α → Except ε β) :
    Except.ok value >>= next = next value :=
  rfl

/-- If `first >>= next` is `.ok result`, then `first` is `.ok value` and `next value` is
`.ok result`. -/
theorem exists_of_bind_eq_ok {ε α β : Type} {first : Except ε α} {next : α → Except ε β}
    {result : β} (both : first >>= next = .ok result) :
    ∃ value, first = .ok value ∧ next value = .ok result := by
  cases first with
  | error error => cases both
  | ok value => exact ⟨value, rfl, both⟩

/-- If `computation.map f` is `.ok result`, then `computation` is `.ok` of something with this
result. -/
theorem exists_of_map_eq_ok {ε α β : Type} {computation : Except ε α} {f : α → β} {result : β}
    (mapped : computation.map f = .ok result) :
    ∃ value, computation = .ok value ∧ f value = result := by
  cases computation with
  | error error => cases mapped
  | ok value => exact ⟨value, rfl, Except.ok.inj mapped⟩

/-- If `computation.map f` is `.error error`, so is `computation`. -/
theorem eq_error_of_map_eq_error {ε α β : Type} {computation : Except ε α} {f : α → β} {error : ε}
    (mapped : computation.map f = .error error) : computation = .error error := by
  cases computation with
  | error reason => exact congrArg Except.error (Except.error.inj mapped)
  | ok value => cases mapped

/-- Every member of `items.mapM f` is the result of `f` for an item. -/
theorem exists_of_mem_mapM {ε α β : Type} {f : α → Except ε β} {items : List α} {results : List β}
    {result : β} (all : items.mapM f = .ok results) (member : result ∈ results) :
    ∃ item ∈ items, f item = .ok result := by
  induction items generalizing results with
  | nil =>
      cases all
      cases member
  | cons first rest ih =>
      rw [List.mapM_cons] at all
      obtain ⟨value, here, all⟩ := exists_of_bind_eq_ok all
      obtain ⟨values, later, all⟩ := exists_of_bind_eq_ok all
      cases all
      obtain rfl | inside := List.mem_cons.mp member
      · exact ⟨first, List.mem_cons_self, here⟩
      · obtain ⟨item, isItem, gives⟩ := ih later inside
        exact ⟨item, List.mem_cons_of_mem _ isItem, gives⟩

/-- If `items.mapM f` is `.ok results`, the result of `f` for an item is among them. -/
theorem exists_mem_of_mapM_eq_ok {ε α β : Type} {f : α → Except ε β} {items : List α}
    {results : List β} {item : α} (all : items.mapM f = .ok results) (member : item ∈ items) :
    ∃ result ∈ results, f item = .ok result := by
  induction items generalizing results with
  | nil => cases member
  | cons first rest ih =>
      rw [List.mapM_cons] at all
      obtain ⟨value, here, all⟩ := exists_of_bind_eq_ok all
      obtain ⟨values, later, all⟩ := exists_of_bind_eq_ok all
      cases all
      obtain rfl | inside := List.mem_cons.mp member
      · exact ⟨value, List.mem_cons_self, here⟩
      · obtain ⟨result, isResult, gives⟩ := ih later inside
        exact ⟨result, List.mem_cons_of_mem _ isResult, gives⟩

/-- If `items.mapM f` fails, `f` fails for an item with the same error. -/
theorem exists_of_mapM_eq_error {ε α β : Type} {f : α → Except ε β} {items : List α} {error : ε}
    (failed : items.mapM f = .error error) : ∃ item ∈ items, f item = .error error := by
  induction items with
  | nil => cases failed
  | cons first rest ih =>
      rw [List.mapM_cons] at failed
      cases here : f first with
      | error reason =>
          rw [here] at failed
          cases failed
          exact ⟨first, List.mem_cons_self, here⟩
      | ok value =>
          cases later : rest.mapM f with
          | error reason =>
              rw [here, later] at failed
              cases failed
              obtain ⟨item, isItem, fails⟩ := ih later
              exact ⟨item, List.mem_cons_of_mem _ isItem, fails⟩
          | ok values =>
              rw [here, later] at failed
              cases failed

/-- If `f` does not fail for any item, `items.mapM f` does not fail. -/
theorem exists_mapM_eq_ok {ε α β : Type} {f : α → Except ε β} {items : List α}
    (each : ∀ item ∈ items, ∃ result, f item = .ok result) :
    ∃ results, items.mapM f = .ok results := by
  cases all : items.mapM f with
  | ok results => exact ⟨results, rfl⟩
  | error error =>
      obtain ⟨item, member, fails⟩ := exists_of_mapM_eq_error all
      obtain ⟨result, gives⟩ := each item member
      cases fails.symm.trans gives

/-- If for every item `f` and `g` agree or have no results to `keep`, the results to `keep` over all
items are the same. -/
theorem filter_flatten_eq_of_mapM {ε α β : Type} {f g : α → Except ε (List β)} {keep : β → Bool}
    {items : List α} {lists others : List (List β)}
    (each : ∀ item ∈ items, g item = f item ∨
      ∀ list, f item = .ok list ∨ g item = .ok list → ∀ result ∈ list, ¬ keep result)
    (first : items.mapM f = .ok lists) (second : items.mapM g = .ok others) :
    others.flatten.filter keep = lists.flatten.filter keep := by
  induction items generalizing lists others with
  | nil =>
      cases first
      cases second
      rfl
  | cons item rest ih =>
      rw [List.mapM_cons] at first second
      obtain ⟨list, here, first⟩ := exists_of_bind_eq_ok first
      obtain ⟨lists, later, first⟩ := exists_of_bind_eq_ok first
      obtain ⟨other, hereToo, second⟩ := exists_of_bind_eq_ok second
      obtain ⟨others, laterToo, second⟩ := exists_of_bind_eq_ok second
      cases first
      cases second
      -- Either both give the same list, or neither list has anything to keep.
      have same : other.filter keep = list.filter keep := by
        rcases each item List.mem_cons_self with agree | none
        · cases here.symm.trans (agree.symm.trans hereToo)
          rfl
        · rw [List.filter_eq_nil_iff.mpr (none other (.inr hereToo)),
            List.filter_eq_nil_iff.mpr (none list (.inl here))]
      rw [List.flatten_cons, List.flatten_cons, List.filter_append, List.filter_append, same,
        ih (fun item member => each item (List.mem_cons_of_mem _ member)) later laterToo]

/-- If `computation.toOption` is `some value`, the computation is `.ok value`. -/
theorem eq_ok_of_toOption_eq_some {ε α : Type} {computation : Except ε α} {value : α}
    (there : computation.toOption = some value) : computation = .ok value := by
  cases computation with
  | error error => cases there
  | ok result =>
      cases there
      rfl

/-- If `items.mapM f` is `some results`, they are `items.filterMap f`. -/
theorem filterMap_eq_of_mapM_eq_some {α β : Type} {f : α → Option β} {items : List α}
    {results : List β} (all : items.mapM f = some results) : items.filterMap f = results := by
  induction items generalizing results with
  | nil =>
      cases all
      rfl
  | cons first rest ih =>
      rw [List.mapM_cons] at all
      obtain ⟨value, here, all⟩ := Option.bind_eq_some_iff.mp all
      obtain ⟨values, later, all⟩ := Option.bind_eq_some_iff.mp all
      cases all
      rw [List.filterMap_cons_some here, ih later]

/-- If `f` and `g` agree on `items`, so do `items.mapM f` and `items.mapM g`. -/
theorem mapM_congr {α β : Type} {f g : α → Option β} {items : List α}
    (agree : ∀ item ∈ items, f item = g item) : items.mapM f = items.mapM g := by
  induction items with
  | nil => rfl
  | cons first rest ih =>
      rw [List.mapM_cons, List.mapM_cons, agree first List.mem_cons_self,
        ih fun item member => agree item (List.mem_cons_of_mem _ member)]

/-- If `f` is defined on every item, so is `items.mapM f`. -/
theorem isSome_mapM {α β : Type} {f : α → Option β} {items : List α}
    (defined : ∀ item ∈ items, (f item).isSome) : (items.mapM f).isSome := by
  induction items with
  | nil => simp
  | cons first rest ih =>
      obtain ⟨value, found⟩ := Option.isSome_iff_exists.mp (defined first List.mem_cons_self)
      obtain ⟨values, others⟩ := Option.isSome_iff_exists.mp
        (ih fun item member => defined item (List.mem_cons_of_mem _ member))
      simp [found, others]

/-- If `step` is defined for every item and every state, so is `items.foldlM step`. -/
theorem isSome_foldlM {α σ : Type} {step : σ → α → Option σ} {items : List α}
    (defined : ∀ state, ∀ item ∈ items, (step state item).isSome) (state : σ) :
    (items.foldlM step state).isSome := by
  induction items generalizing state with
  | nil => simp
  | cons first rest ih =>
      obtain ⟨next, found⟩ := Option.isSome_iff_exists.mp (defined state first List.mem_cons_self)
      rw [List.foldlM_cons, found]
      exact ih (fun state item member => defined state item (List.mem_cons_of_mem _ member)) next

end Footgun
