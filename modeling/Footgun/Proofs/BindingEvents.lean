import Footgun.Command.Bindings
import Mathlib.Data.List.Basic
import Mathlib.Data.List.Induction

/-! # Tables of variables and what led to them

A table is the outcome of events, one after the other: a variable gets a value, or it is only
recorded and keeps the value that it may have. Main definitions:

* `Bindings.Event` and `Bindings.record` — an event, and what it does to a table;
* `Bindings.valueAfter` — the value that a variable has after some events, told without a table;
* `Bindings.InFirstOrder` — a list holds the variables of some events in the order of their first
  ones;
* `Bindings.Reflects` — a table says of every variable what the events do.

The main statement is `Bindings.reflects_foldl_record`: recording events in the empty table gives a
table that reflects them. -/

namespace Footgun.Bindings

/-! ## Names and values of a table -/

/-- The variables of a table, in order. -/
def names (table : Bindings) : List String :=
  table.entries.map (·.1)

/-- The variables of `put name value entries` are those of `entries` in their places, with `name` at
the end if it is new. -/
theorem map_fst_put (name value : String) (entries : List (String × String)) :
    (put name value entries).map (·.1) =
      if name ∈ entries.map (·.1) then entries.map (·.1) else entries.map (·.1) ++ [name] := by
  induction entries with
  | nil => rfl
  | cons entry rest ih =>
      rw [put, List.map_cons]
      by_cases here : entry.1 = name
      · simp [here]
      · have there : name ∈ entry.1 :: rest.map (·.1) ↔ name ∈ rest.map (·.1) := by
          rw [List.mem_cons, or_iff_right (Ne.symm here)]
        rw [if_neg here, List.map_cons, ih]
        by_cases later : name ∈ rest.map (·.1)
        · rw [if_pos later, if_pos (there.mpr later)]
        · rw [if_neg later, if_neg (mt there.mp later), List.cons_append]

/-- Looking up `name` in `entry :: rest` takes the first entry that is about it. -/
theorem lookup_cons_eq_ite (entry : String × String) (rest : List (String × String))
    (name : String) :
    (entry :: rest).lookup name = if name = entry.1 then some entry.2 else rest.lookup name := by
  rw [List.lookup_cons]
  by_cases same : name = entry.1
  · rw [if_pos same, beq_iff_eq.mpr same]
  · rw [if_neg same, beq_eq_false_iff_ne.mpr same]

/-- After `put name value`, only `name` has another value than before. -/
theorem lookup_put (name value other : String) (entries : List (String × String)) :
    (put name value entries).lookup other =
      if other = name then some value else entries.lookup other := by
  induction entries with
  | nil => rw [put, lookup_cons_eq_ite]
  | cons entry rest ih =>
      rw [put, lookup_cons_eq_ite entry rest]
      by_cases here : entry.1 = name
      · rw [if_pos here, lookup_cons_eq_ite, here]
        by_cases same : other = name <;> simp [same]
      · rw [if_neg here, lookup_cons_eq_ite, ih]
        by_cases found : other = entry.1
        · simp [found, here]
        · simp [found]

/-- A table `contains` exactly the variables that are among its `names`. -/
theorem contains_iff {table : Bindings} {name : String} :
    table.contains name ↔ name ∈ table.names := by
  simp [contains, names]

/-- A variable has no value, `table.get? name = none`, exactly if it is not among `table.names`. -/
theorem get?_eq_none_iff {table : Bindings} {name : String} :
    table.get? name = none ↔ name ∉ table.names := by
  rw [get?, List.lookup_eq_none_iff, names, List.mem_map]
  constructor
  · rintro none ⟨entry, member, rfl⟩
    simpa using none entry member
  · intro absent entry member
    simp only [bne_iff_ne, ne_eq]
    rintro rfl
    exact absent ⟨entry, member, rfl⟩

/-- If the `names` of a table are distinct, `get?` gives the value of every entry. -/
theorem get?_of_mem {table : Bindings} (distinct : table.names.Nodup) {entry : String × String}
    (member : entry ∈ table.entries) : table.get? entry.1 = some entry.2 := by
  obtain ⟨entries⟩ := table
  replace distinct : (entries.map (·.1)).Nodup := distinct
  show entries.lookup entry.1 = some entry.2
  induction entries with
  | nil => cases member
  | cons first rest ih =>
      obtain ⟨absent, distinct⟩ := List.nodup_cons.mp distinct
      rcases List.mem_cons.mp member with rfl | later
      · rw [lookup_cons_eq_ite, if_pos rfl]
      · -- The first entry is about another name, as no name is repeated.
        have differs : entry.1 ≠ first.1 := by
          intro same
          exact absent (List.mem_map.mpr ⟨entry, later, same⟩)
        rw [lookup_cons_eq_ite, if_neg differs]
        exact ih later distinct

/-- The `unassigned` variables of a table with distinct `names` are those whose value is blank, in
order. -/
theorem unassigned_eq {table : Bindings} (distinct : table.names.Nodup) :
    table.unassigned =
      table.names.filter fun name => (table.get? name).any fun value => Text.trim value == "" := by
  rw [unassigned, names, List.filter_map]
  congr 1
  refine List.filter_congr fun entry member => ?_
  simp [get?_of_mem distinct member]

/-! ## One event -/

/-- Something that happens to a variable. -/
structure Event where
  /-- The variable. -/
  name : String
  /-- The value that it gets, or nothing if it keeps the one that it may have. -/
  value? : Option String
  deriving DecidableEq, Repr

/-- The table after `event`: its variable is bound to the value that it gives, and only declared if
it gives none. -/
def record (table : Bindings) (event : Event) : Bindings :=
  match event.value? with
  | some value => table.bind event.name value
  | none => table.declare event.name

/-- After `record event` the `names` are those from before, with `event.name` at the end if it is
new. -/
theorem names_record (table : Bindings) (event : Event) :
    (table.record event).names =
      if event.name ∈ table.names then table.names else table.names ++ [event.name] := by
  obtain ⟨name, value | value⟩ := event
  · show (table.declare name).names = _
    rw [declare]
    by_cases known : name ∈ table.names
    · rw [if_pos (contains_iff.mpr known), if_pos known]
    · rw [if_neg (mt contains_iff.mp known), if_neg known, names, names, List.map_append]
      rfl
  · exact map_fst_put name value table.entries

/-- After `record event`, `event.name` has the value `event.value?`, or else the one that it had,
and without one `""`. All other variables have the values that they had. -/
theorem get?_record (table : Bindings) (event : Event) (name : String) :
    (table.record event).get? name =
      if event.name = name then some (event.value?.getD ((table.get? name).getD ""))
      else table.get? name := by
  obtain ⟨variableName, value | value⟩ := event
  · show (table.declare variableName).get? name = if variableName = name then _ else _
    rw [declare]
    by_cases known : variableName ∈ table.names
    · -- A variable that is there has a value to keep.
      rw [if_pos (contains_iff.mpr known)]
      split
      · rename_i same
        cases held : table.get? name with
        | none => exact absurd (same ▸ known) (get?_eq_none_iff.mp held)
        | some value => rfl
      · rfl
    · -- A new one comes last, where it is found because no entry before holds it.
      rw [if_neg (mt contains_iff.mp known), get?, List.lookup_append, lookup_cons_eq_ite, ← get?]
      split
      · rename_i same
        rw [get?_eq_none_iff.mpr (same ▸ known)]
        simp [same]
      · rename_i differs
        rw [if_neg (Ne.symm differs)]
        simp
  · show (table.bind variableName value).get? name = if variableName = name then _ else _
    rw [bind, get?, lookup_put, ← get?]
    by_cases same : variableName = name
    · rw [if_pos same, if_pos same.symm, Option.getD_some]
    · rw [if_neg same, if_neg (Ne.symm same)]

/-! ## Events one after the other -/

/-- The `events` on the variable `name`. -/
def eventsOn (name : String) (events : List Event) : List Event :=
  events.filter (·.name == name)

/-- The value of `name` after `events`, if there is one on it: the value of the last event that
gives one, and `""` if none does. -/
def valueAfter (events : List Event) (name : String) : Option String :=
  if eventsOn name events = [] then none
  else some (((eventsOn name events).filterMap (·.value?)).getLast?.getD "")

/-- The value of a variable after `events ++ [event]`, like `get?_record` for tables: `event`
decides on `event.name` unless its `value?` is `none`. -/
theorem valueAfter_concat (events : List Event) (event : Event) (name : String) :
    valueAfter (events ++ [event]) name =
      if event.name = name then some (event.value?.getD ((valueAfter events name).getD ""))
      else valueAfter events name := by
  rw [valueAfter, eventsOn, List.filter_append]
  by_cases same : event.name = name
  · rw [List.filter_cons_of_pos (by simpa using same), List.filter_nil, if_pos same,
      if_neg (by simp), List.filterMap_append]
    cases given : event.value? with
    | some value => simp [given]
    | none =>
        rw [List.filterMap_cons_none given, List.filterMap_nil, List.append_nil, Option.getD_none,
          valueAfter, eventsOn]
        -- Without an event before this one there is no value to keep.
        by_cases first : events.filter (·.name == name) = []
        · rw [first, if_pos rfl]
          rfl
        · rw [if_neg first, Option.getD_some]
  · rw [List.filter_cons_of_neg (by simpa using same), List.filter_nil, List.append_nil,
      if_neg same, valueAfter, eventsOn]

/-- The list `names` holds the variables of `events`, each once, in the order of their first
events. -/
structure InFirstOrder (events : List Event) (names : List String) : Prop where
  /-- The list holds the variables of the events and no others. -/
  mem_iff : ∀ name, name ∈ names ↔ ∃ event ∈ events, event.name = name
  /-- A variable comes before another one exactly if its first event does. -/
  pairwise : names.Pairwise fun first second =>
    (events.map (·.name)).idxOf first < (events.map (·.name)).idxOf second

namespace InFirstOrder

variable {events : List Event} {names : List String}

/-- In `InFirstOrder events names` no variable is repeated. -/
theorem nodup (order : InFirstOrder events names) : names.Nodup := by
  rw [List.nodup_iff_pairwise_ne]
  refine order.pairwise.imp fun lower same => ?_
  rw [same] at lower
  exact Nat.lt_irrefl _ lower

/-- From `InFirstOrder events names` follows the same for `events ++ [event]`, with `event.name`
behind `names` unless it is there. -/
theorem concat (order : InFirstOrder events names) (event : Event) :
    InFirstOrder (events ++ [event])
      (if event.name ∈ names then names else names ++ [event.name]) := by
  have inEvents : ∀ name ∈ names, name ∈ events.map (·.name) := by
    intro name member
    exact List.mem_map.mpr ((order.mem_iff name).mp member)
  -- The first event on a variable that is there stays the first.
  have later : names.Pairwise fun first second =>
      ((events ++ [event]).map (·.name)).idxOf first <
        ((events ++ [event]).map (·.name)).idxOf second := by
    refine order.pairwise.imp_of_mem ?_
    intro first second memberFirst memberSecond lower
    rw [List.map_append, List.idxOf_append_of_mem (inEvents first memberFirst),
      List.idxOf_append_of_mem (inEvents second memberSecond)]
    exact lower
  by_cases known : event.name ∈ names
  · rw [if_pos known]
    refine ⟨fun name => ?_, later⟩
    rw [order.mem_iff]
    constructor
    · rintro ⟨other, member, same⟩
      exact ⟨other, List.mem_append_left _ member, same⟩
    · rintro ⟨other, member, rfl⟩
      rcases List.mem_append.mp member with before | here
      · exact ⟨other, before, rfl⟩
      · rw [List.mem_singleton.mp here]
        exact (order.mem_iff _).mp known
  · rw [if_neg known]
    constructor
    · intro name
      simp only [List.mem_append, order.mem_iff, List.mem_singleton, or_and_right, exists_or,
        exists_eq_left]
      exact or_congr_right eq_comm
    · have absent : event.name ∉ events.map (·.name) := by
        intro member
        exact known ((order.mem_iff _).mpr (List.mem_map.mp member))
      rw [List.pairwise_append]
      refine ⟨later, List.pairwise_singleton _ _, ?_⟩
      intro first member second isEvent
      rw [List.mem_singleton.mp isEvent, List.map_append,
        List.idxOf_append_of_mem (inEvents first member), List.idxOf_append_of_notMem absent]
      have lower := List.idxOf_lt_length_of_mem (inEvents first member)
      omega

end InFirstOrder

/-- The table reflects `events`: its names are `InFirstOrder`, each has its `valueAfter` them, and
it tells which of them have none. -/
structure Reflects (events : List Event) (table : Bindings) : Prop where
  /-- A variable is there exactly if there is an event on it. -/
  contains : ∀ name, table.contains name ↔ ∃ event ∈ events, event.name = name
  /-- The variables come in the order of their first events. -/
  order : InFirstOrder events table.names
  /-- The values are those after the events. -/
  value : ∀ name, table.get? name = valueAfter events name
  /-- The variables without a value are those whose value is blank, in the same order. -/
  unassigned : table.unassigned =
    table.names.filter fun name => (valueAfter events name).any fun value => Text.trim value == ""

/-- The `names` after recording `events` from `empty` on are `InFirstOrder events`. -/
theorem inFirstOrder_foldl_record (events : List Event) :
    InFirstOrder events (events.foldl record empty).names := by
  -- The last event is taken off, since what an event does depends on those before it.
  induction events using List.reverseRecOn with
  | nil => exact ⟨by simp [names, empty], List.Pairwise.nil⟩
  | append_singleton events event ih =>
      rw [List.foldl_append, List.foldl_cons, List.foldl_nil, names_record]
      exact ih.concat event

/-- After recording `events` from `empty` on, `get?` is `valueAfter events`. The induction is on the
last event. -/
theorem get?_foldl_record (events : List Event) (name : String) :
    (events.foldl record empty).get? name = valueAfter events name := by
  induction events using List.reverseRecOn with
  | nil => rfl
  | append_singleton events event ih =>
      rw [List.foldl_append, List.foldl_cons, List.foldl_nil, get?_record, valueAfter_concat, ih]

/-- Recording `events` in the `empty` table gives a table with `Reflects events`. -/
theorem reflects_foldl_record (events : List Event) :
    Reflects events (events.foldl record empty) := by
  have order := inFirstOrder_foldl_record events
  refine ⟨fun name => contains_iff.trans (order.mem_iff name), order, get?_foldl_record events, ?_⟩
  simp only [unassigned_eq order.nodup, get?_foldl_record]

end Footgun.Bindings
