import Footgun.Disk.Write
import Footgun.Proofs.DiskLookup

/-! # Places on a disk

A path leads to a place, links followed. A file that is written is put at that place, and nothing
else changes: whatever stands at another place stays what it is, so the path leads there again. Main
definitions:

* `Disk.place?` — the place that a path leads to;
* `Disk.IsFree` — there is a file at a place, or there may be one.

The main statements are `Disk.found?_of_locate`, `Disk.locate_put` and `Disk.read_of_write`. -/

namespace Footgun

/-! ## Names in a directory -/

/-- After `putEntry name entry`, the entry is found under `name`. -/
theorem lookup_putEntry_self (name : String) (entry : Entry) (entries : List (String × Entry)) :
    (putEntry name entry entries).lookup name = some entry := by
  induction entries with
  | nil => exact List.lookup_cons_self
  | cons first rest ih =>
      rw [putEntry]
      by_cases same : first.1 = name
      · rw [if_pos same]
        exact List.lookup_cons_self
      · obtain ⟨other, held⟩ := first
        rw [if_neg same, List.lookup_cons, beq_false_of_ne (Ne.symm same)]
        exact ih

/-- After `putEntry name entry`, any other name is found as before. -/
theorem lookup_putEntry_of_ne {name other : String} (different : other ≠ name) (entry : Entry)
    (entries : List (String × Entry)) :
    (putEntry name entry entries).lookup other = entries.lookup other := by
  induction entries with
  | nil =>
      rw [putEntry, List.lookup_cons, beq_false_of_ne different]
  | cons first rest ih =>
      obtain ⟨here, held⟩ := first
      rw [putEntry]
      by_cases same : here = name
      · subst same
        rw [if_pos rfl, List.lookup_cons, List.lookup_cons, beq_false_of_ne different]
      · rw [if_neg same, List.lookup_cons, List.lookup_cons, ih]

namespace Disk

variable {root entry below new : Entry} {names target : List String}

/-! ## Going down -/

/-- What `lookup` finds under `name` is held under this name. -/
theorem mem_of_lookup {name : String} {entries : List (String × Entry)}
    (held : entries.lookup name = some entry) : (name, entry) ∈ entries := by
  obtain ⟨before, after, rfl, _⟩ := List.lookup_eq_some_iff.mp held
  exact List.mem_append_right _ List.mem_cons_self

/-- What `descend` finds by `name :: rest` is found by `rest` below the entry that a directory holds
as `name`. -/
theorem exists_lookup_of_descend {name : String} {rest : List String}
    (found : descend root (name :: rest) = some entry) :
    ∃ entries next, root = .directory entries ∧ entries.lookup name = some next ∧
      descend next rest = some entry := by
  cases root with
  | file content => cases found
  | link target => cases found
  | directory entries =>
      rw [descend] at found
      cases held : entries.lookup name with
      | none =>
          rw [held] at found
          cases found
      | some next =>
          rw [held] at found
          exact ⟨entries, next, rfl, held, found⟩

/-- Descending by `names ++ more` is descending by `names` and from there by `more`. -/
theorem descend_append (entry : Entry) (names more : List String) :
    descend entry (names ++ more) = (descend entry names).bind fun below => descend below more := by
  induction names generalizing entry with
  | nil => rfl
  | cons name rest ih =>
      cases entry with
      | file content => rfl
      | link target => rfl
      | directory entries =>
          rw [List.cons_append, descend, descend]
          cases entries.lookup name with
          | none => rfl
          | some next => exact ih next

/-- Descending one `name` further from a directory is `lookup` in its entries. -/
theorem descend_concat {entries : List (String × Entry)}
    (found : descend root names = some (.directory entries)) (name : String) :
    descend root (names ++ [name]) = entries.lookup name := by
  rw [descend_append, found]
  simp only [Option.bind_some, descend]
  cases entries.lookup name <;> rfl

/-- If something is below `names`, a directory is at `names`. -/
theorem directory_of_descend_append {more : List String} (notEmpty : more ≠ [])
    (found : descend root (names ++ more) = some entry) :
    ∃ entries, descend root names = some (.directory entries) := by
  rw [descend_append] at found
  obtain ⟨below, isBelow, found⟩ := Option.bind_eq_some_iff.mp found
  obtain ⟨name, rest, rfl⟩ := List.exists_cons_of_ne_nil notEmpty
  obtain ⟨entries, _, rfl, _⟩ := exists_lookup_of_descend found
  exact ⟨entries, isBelow⟩

/-- A `motive` that directories hand down to all that they hold is handed down by `root` to whatever
`descend` finds below it. -/
theorem descend_induction {motive : Entry → Prop}
    (down : ∀ entries, motive (.directory entries) → ∀ held ∈ entries, motive held.2)
    (start : motive root) (found : descend root names = some entry) : motive entry := by
  induction names generalizing root with
  | nil =>
      cases found
      exact start
  | cons name rest ih =>
      obtain ⟨entries, next, rfl, held, further⟩ := exists_lookup_of_descend found
      exact ih (down entries start (name, next) (mem_of_lookup held)) further

/-! ## Entries put at places -/

/-- Putting something at `names ++ rest` puts it at `rest` below what is at `names`. -/
theorem descend_put_append (found : descend root names = some below) (new : Entry)
    (rest : List String) :
    descend (new.put (names ++ rest) root) names = some (new.put rest below) := by
  induction names generalizing root with
  | nil =>
      cases found
      rfl
  | cons name others ih =>
      obtain ⟨entries, next, rfl, held, further⟩ := exists_lookup_of_descend found
      rw [List.cons_append, Entry.put, held]
      simp only [descend, lookup_putEntry_self]
      exact ih further

/-- Putting something at `target` changes nothing at `names`, if neither is above the other. -/
theorem descend_put_of_apart (notBelow : ¬ target <+: names) (notAbove : ¬ names <+: target)
    (new root : Entry) : descend (new.put target root) names = descend root names := by
  -- Both places go through the same directories up to a name where they part.
  induction target generalizing names root with
  | nil => exact absurd List.nil_prefix notBelow
  | cons name rest ih =>
      rcases names with _ | ⟨other, others⟩
      · exact absurd List.nil_prefix notAbove
      cases root with
      | file content => rfl
      | link target => rfl
      | directory entries =>
          rw [Entry.put]
          by_cases same : other = name
          · subst same
            rw [List.cons_prefix_cons] at notBelow notAbove
            cases held : entries.lookup other with
            | none =>
                have further : rest ≠ [] := by
                  rintro rfl
                  exact notBelow ⟨rfl, List.nil_prefix⟩
                simp only [List.isEmpty_iff, further, if_false]
            | some next =>
                simp only [descend, lookup_putEntry_self, held]
                exact ih (fun isPrefix => notBelow ⟨rfl, isPrefix⟩)
                  (fun isPrefix => notAbove ⟨rfl, isPrefix⟩) next
          · cases entries.lookup name with
            | none => simp only [descend]; split <;> simp [descend, lookup_putEntry_of_ne same]
            | some next => simp only [descend, lookup_putEntry_of_ne same]

/-! ## Places for files -/

/-- The `place` is the root or in a directory. -/
def HasParent (root : Entry) (place : List String) : Prop :=
  place = [] ∨ ∃ above name entries, place = above ++ [name] ∧
    descend root above = some (.directory entries)

/-- There is a file at `place`, or nothing yet in a directory that is there. -/
structure IsFree (root : Entry) (place : List String) : Prop where
  /-- There is a directory for it. -/
  above : HasParent root place
  /-- Nothing else is there. -/
  here : descend root place = none ∨ ∃ old, descend root place = some (.file old)

/-- What `descend` finds has a parent. -/
theorem hasParent_of_descend (found : descend root names = some entry) : HasParent root names := by
  rcases List.eq_nil_or_concat names with rfl | ⟨above, name, rfl⟩
  · exact .inl rfl
  · rw [List.concat_eq_append] at found ⊢
    obtain ⟨entries, isDirectory⟩ := directory_of_descend_append (List.cons_ne_nil _ _) found
    exact .inr ⟨above, name, entries, rfl, isDirectory⟩

/-- If a directory is at `names`, one is at `names.dropLast`. -/
theorem directory_dropLast {entries : List (String × Entry)}
    (found : descend root names = some (.directory entries)) :
    ∃ above, descend root names.dropLast = some (.directory above) := by
  rcases List.eq_nil_or_concat names with rfl | ⟨above, name, rfl⟩
  · exact ⟨entries, found⟩
  · rw [List.concat_eq_append] at found ⊢
    rw [List.dropLast_concat]
    exact directory_of_descend_append (List.cons_ne_nil _ _) found

/-- If a directory is at `names`, one is at `startOf names path`, where a path starts from there. -/
theorem directory_startOf {entries : List (String × Entry)}
    (found : descend root names = some (.directory entries)) (path : Path) :
    ∃ inner, descend root (startOf names path) = some (.directory inner) := by
  unfold startOf
  split
  · exact ⟨entries, found⟩
  · rcases names with _ | ⟨name, rest⟩
    · exact ⟨entries, found⟩
    · have whole : descend root ([] ++ name :: rest) = some (.directory entries) := found
      exact directory_of_descend_append (List.cons_ne_nil name rest) whole

/-- What is put at a `target` with a parent is found there. -/
theorem descend_put_self (parent : HasParent root target) (new : Entry) :
    descend (new.put target root) target = some new := by
  rcases parent with rfl | ⟨above, name, entries, rfl, isDirectory⟩
  · rfl
  · rw [descend_append, descend_put_append isDirectory, Option.bind_some, Entry.put]
    cases entries.lookup name <;> simp [descend, lookup_putEntry_self, Entry.put]

namespace IsFree

variable {content : ByteArray} (free : IsFree root target)

include free

/-- At a place that `IsFree` there is nothing but a file. -/
theorem eq_file (found : descend root target = some entry) : ∃ old, entry = .file old := by
  rcases free.here with missing | ⟨old, isFile⟩
  · cases found.symm.trans missing
  · exact ⟨old, Option.some.inj (found.symm.trans isFile)⟩

/-- Nothing is below a place that `IsFree`. -/
theorem eq_of_prefix (found : descend root names = some entry) (isPrefix : target <+: names) :
    names = target := by
  obtain ⟨more, rfl⟩ := isPrefix
  by_cases further : more = []
  · rw [further, List.append_nil]
  · obtain ⟨entries, isDirectory⟩ := directory_of_descend_append further found
    obtain ⟨old, isFile⟩ := free.eq_file isDirectory
    cases isFile

/-- Above a place that `IsFree` there are directories. -/
theorem directory_of_prefix (isPrefix : names <+: target) (different : names ≠ target) :
    ∃ entries, descend root names = some (.directory entries) := by
  obtain ⟨more, rfl⟩ := isPrefix
  rcases free.above with nothing | ⟨above, name, entries, split, isDirectory⟩
  · exact absurd (List.append_eq_nil_iff.mp nothing).1 (fun empty => different (by simp_all))
  · rcases List.eq_nil_or_concat more with rfl | ⟨between, last, rfl⟩
    · exact absurd (List.append_nil names).symm different
    · rw [List.concat_eq_append, ← List.append_assoc] at split
      obtain ⟨rfl, _⟩ := List.append_inj' split rfl
      by_cases nothing : between = []
      · rw [nothing, List.append_nil] at isDirectory
        exact ⟨entries, isDirectory⟩
      · exact directory_of_descend_append nothing isDirectory

/-- A directory is still one after a file is put at a place that `IsFree`. -/
theorem directory_put {entries : List (String × Entry)}
    (found : descend root names = some (.directory entries)) :
    ∃ after, descend ((Entry.file content).put target root) names = some (.directory after) := by
  by_cases above : names <+: target
  · obtain ⟨more, rfl⟩ := above
    rcases more with _ | ⟨name, rest⟩
    · rw [List.append_nil] at free
      obtain ⟨old, isFile⟩ := free.eq_file found
      cases isFile
    · rw [descend_put_append found, Entry.put]
      cases entries.lookup name with
      | some next => exact ⟨_, rfl⟩
      | none => by_cases last : rest.isEmpty <;> simp [last]
  · have apart : ¬ target <+: names := fun isPrefix =>
      above (free.eq_of_prefix found isPrefix ▸ List.prefix_rfl)
    exact ⟨entries, by rw [descend_put_of_apart apart above, found]⟩

/-- What is no directory is still there after something is put at another place that `IsFree`. -/
theorem descend_put_of_ne (found : descend root names = some entry)
    (noDirectory : ∀ entries, entry ≠ .directory entries) (elsewhere : names ≠ target) :
    descend (new.put target root) names = some entry := by
  rw [descend_put_of_apart, found]
  · exact fun isPrefix => elsewhere (free.eq_of_prefix found isPrefix)
  · intro isPrefix
    obtain ⟨entries, isDirectory⟩ := free.directory_of_prefix isPrefix elsewhere
    rw [found] at isDirectory
    exact noDirectory entries (Option.some.inj isDirectory)

end IsFree

/-! ## Places of paths -/

variable {disk : Disk} {follow : Bool} {links : Nat} {place parts : List String} {located : Located}

section

variable {entries : List (String × Entry)} {name : String} {rest : List String}
  (isDirectory : descend disk.root place = some (.directory entries))

include isDirectory

/-- In a directory, the name `".."` leads up to `place.dropLast`. -/
theorem locate_up :
    disk.locate follow links place (".." :: rest) =
      disk.locate follow links place.dropLast rest := by
  rw [locate, isDirectory]
  dsimp only
  rw [if_pos rfl]

/-- In a directory, a name that it holds leads down to `place ++ [name]`, unless it is that of a
link. -/
theorem locate_down {entry : Entry} (notUp : name ≠ "..") (short : ¬ isTooLong name)
    (held : entries.lookup name = some entry) (noLink : ∀ target, entry ≠ .link target) :
    disk.locate follow links place (name :: rest) =
      disk.locate follow links (place ++ [name]) rest := by
  rw [locate, isDirectory]
  dsimp only
  rw [if_neg notUp, if_neg short, held]
  cases entry with
  | file content => rfl
  | directory inner => rfl
  | link target => exact absurd rfl (noLink target)

/-- In a directory, the name of a link that is followed leads to where its target starts, with the
names of the target in front of `rest`, and uses up one link. -/
theorem locate_link {target : String} {remaining : Nat} (notUp : name ≠ "..")
    (short : ¬ isTooLong name) (held : entries.lookup name = some (.link target))
    (followed : ¬ (rest.isEmpty && !follow)) :
    disk.locate follow (remaining + 1) place (name :: rest) =
      disk.locate follow remaining (startOf place (Path.ofText target))
        ((Path.ofText target).parts ++ rest) := by
  rw [locate, isDirectory]
  dsimp only
  rw [if_neg notUp, if_neg short, held]
  dsimp only
  rw [if_neg followed]

end

/-- What `locate` finds is what `descend` finds at its place. -/
theorem found?_of_locate (leads : disk.locate follow links place parts = .ok located) :
    located.found? = descend disk.root located.place := by
  -- A search ends where the names do, at a last name that is missing, or at a link that is not
  -- followed.
  fun_induction locate disk follow links place parts with
  | case1 links place =>
      cases leads
      rfl
  | case3 links place rest entries _ ih => exact ih leads
  | case5 links place name rest entries isDirectory _ _ missing _ =>
      cases leads
      exact ((descend_concat isDirectory name).trans missing).symm
  | case7 links place name rest entries isDirectory _ _ target isLink _ =>
      cases leads
      exact ((descend_concat isDirectory name).trans isLink).symm
  | case9 _ _ _ _ _ _ _ _ _ _ _ _ ih => exact ih leads
  | case10 _ _ _ _ _ _ _ _ _ _ _ ih => exact ih leads
  | case2 | case4 | case6 | case8 | case11 => cases leads

/-- If `names` has a parent, so has `startOf names path`. -/
theorem hasParent_startOf (start : HasParent root names) (path : Path) :
    HasParent root (startOf names path) := by
  unfold startOf
  split
  · exact start
  · exact .inl rfl

/-- If the start has a parent, so has the place that `locate` leads to. -/
theorem hasParent_of_locate (start : HasParent disk.root place)
    (leads : disk.locate follow links place parts = .ok located) :
    HasParent disk.root located.place := by
  fun_induction locate disk follow links place parts with
  -- The cases are those of `locate`; only those that lead somewhere remain.
  | case1 links place =>
      cases leads
      exact start
  | case3 links place rest entries isDirectory ih =>
      obtain ⟨inner, above⟩ := directory_dropLast isDirectory
      exact ih (hasParent_of_descend above) leads
  | case5 links place name rest entries isDirectory =>
      cases leads
      exact .inr ⟨place, name, entries, rfl, isDirectory⟩
  | case7 links place name rest entries isDirectory =>
      cases leads
      exact .inr ⟨place, name, entries, rfl, isDirectory⟩
  | case9 _ _ _ _ _ _ _ _ _ _ _ _ ih => exact ih (hasParent_startOf start _) leads
  | case10 links place name rest entries isDirectory _ _ _ _ _ ih =>
      exact ih (.inr ⟨place, name, entries, rfl, isDirectory⟩) leads
  | case2 | case4 | case6 | case8 | case11 => cases leads

/-- If `locate` leads to a place that `IsFree`, it leads there again after a file is put in place.
The induction follows `locate`: on the way there are only directories and links, which stay as they
are. -/
theorem locate_put (content : ByteArray) (start : HasParent disk.root place)
    (leads : disk.locate follow links place parts = .ok located)
    (free : IsFree disk.root located.place) :
    (disk.put located.place (.file content)).locate follow links place parts =
      .ok ⟨located.place, some (.file content), located.links⟩ := by
  have here : descend (disk.put located.place (.file content)).root located.place =
      some (.file content) := descend_put_self free.above _
  -- Directories and links on the way are elsewhere, so they stay what they are.
  have directory : ∀ {names entries}, descend disk.root names = some (.directory entries) →
      ∃ after, descend (disk.put located.place (.file content)).root names =
        some (.directory after) :=
    fun found => free.directory_put found
  fun_induction locate disk follow links place parts with
  | case1 links place =>
      cases leads
      rw [locate, here]
  | case3 links place rest entries isDirectory ih =>
      obtain ⟨after, held⟩ := directory isDirectory
      obtain ⟨inner, above⟩ := directory_dropLast isDirectory
      rw [locate_up held, ih (hasParent_of_descend above) leads]
  | case5 links place name rest entries isDirectory notUp short missing last =>
      cases leads
      obtain ⟨after, held⟩ := directory isDirectory
      rw [List.isEmpty_iff] at last
      have new := (descend_concat held name).symm.trans here
      rw [locate_down held notUp short new (by simp), last, locate, here]
  | case7 links place name rest entries isDirectory _ _ target isLink _ =>
      cases leads
      obtain ⟨old, isFile⟩ := free.eq_file ((descend_concat isDirectory name).trans isLink)
      cases isFile
  | case9 place name rest entries isDirectory notUp short target isLink followed _ _ ih =>
      obtain ⟨after, held⟩ := directory isDirectory
      have found := (descend_concat isDirectory name).trans isLink
      have elsewhere : place ++ [name] ≠ located.place := by
        intro same
        rw [same] at found
        obtain ⟨old, isFile⟩ := free.eq_file found
        cases isFile
      have kept :=
        (descend_concat held name).symm.trans (free.descend_put_of_ne found (by simp) elsewhere)
      rw [locate_link held notUp short kept followed, ih (hasParent_startOf start _) leads]
  | case10 links place name rest entries isDirectory notUp short entry noLink isEntry ih =>
      obtain ⟨after, held⟩ := directory isDirectory
      have found := (descend_concat isDirectory name).trans isEntry
      have stays : ∃ other, after.lookup name = some other ∧ ∀ target, other ≠ .link target := by
        rw [← descend_concat held name]
        by_cases same : place ++ [name] = located.place
        · rw [same]
          exact ⟨_, here, by simp⟩
        · cases entry with
          | file content => exact ⟨_, free.descend_put_of_ne found (by simp) same, by simp⟩
          | link target => exact absurd rfl (noLink target)
          | directory inner =>
              obtain ⟨other, isOther⟩ := directory found
              exact ⟨_, isOther, by simp⟩
      obtain ⟨other, isOther, otherNoLink⟩ := stays
      rw [locate_down held notUp short isOther otherNoLink,
        ih (.inr ⟨place, name, entries, rfl, isDirectory⟩) leads]
  | case2 | case4 | case6 | case8 | case11 => cases leads

/-- If `locate` is to follow links and still ends at one, there were no names to follow. -/
theorem eq_nil_of_locate_link {target : String}
    (leads : disk.locate true links place parts = .ok located)
    (isLink : located.found? = some (.link target)) : parts = [] ∧ located.place = place := by
  have found := found?_of_locate leads
  rw [isLink] at found
  fun_induction locate disk true links place parts with
  | case1 links place =>
      cases leads
      exact ⟨rfl, rfl⟩
  -- Any step up, down or along a link leaves a directory, and no link, at the end.
  | case3 links place rest entries isDirectory ih =>
      obtain ⟨inner, above⟩ := directory_dropLast isDirectory
      rw [(ih leads).2, above] at found
      cases found
  | case5 =>
      cases leads
      cases isLink
  | case7 links place name rest entries _ _ _ target _ last => simp at last
  | case9 place name rest entries isDirectory _ _ target _ _ _ path ih =>
      obtain ⟨inner, start⟩ := directory_startOf isDirectory path
      rw [(ih leads).2, start] at found
      cases found
  | case10 links place name rest entries isDirectory _ _ entry noLink isEntry ih =>
      rw [(ih leads).2, descend_concat isDirectory, isEntry] at found
      cases found
      exact absurd rfl (noLink target)
  | case2 | case4 | case6 | case8 | case11 => cases leads

variable {path : Path}

/-- The place that `path` leads to, links followed. -/
def place? (disk : Disk) (path : Path) : Option (List String) :=
  (disk.find true path).toOption.map (·.place)

/-- If `find` leads somewhere, the path starts in a directory, and `locate` leads on from there. -/
theorem start_of_find (leads : disk.find follow path = .ok located) :
    (∃ entries, descend disk.root (startOf disk.home path) = some (.directory entries)) ∧
      disk.locate follow maxLinks (startOf disk.home path) path.parts = .ok located := by
  unfold find at leads
  split at leads
  · cases leads
  split at leads
  · cases leads
  split at leads
  · rename_i entries isDirectory
    exact ⟨⟨entries, isDirectory⟩, leads⟩
  · cases leads

/-- If `find` leads somewhere on one disk, the path can be looked up, so on every disk where it
starts in a directory `find` is `locate`. -/
theorem find_eq_locate (leads : disk.find follow path = .ok located) {other : Disk}
    {entries : List (String × Entry)}
    (start : descend other.root (startOf other.home path) = some (.directory entries)) :
    other.find follow path = other.locate follow maxLinks (startOf other.home path) path.parts := by
  unfold find at leads ⊢
  split at leads
  · cases leads
  rename_i noNul
  split at leads
  · cases leads
  rename_i short
  rw [if_neg noNul, if_neg short, start]

/-- What `find` finds is what `descend` finds at its place. -/
theorem found?_of_find (leads : disk.find follow path = .ok located) :
    located.found? = descend disk.root located.place :=
  found?_of_locate (start_of_find leads).2

/-- What `followLink?` finds is what `descend` finds at its place. -/
theorem found?_of_followLink? {target : String}
    (leads : disk.followLink? links place target = some located) :
    located.found? = descend disk.root located.place := by
  unfold followLink? at leads
  split at leads
  · cases leads
  · exact found?_of_locate (eq_ok_of_toOption_eq_some leads)

/-- From `disk.write path content = .ok other` follows that `other.read path` gives `content`. -/
theorem read_of_write {content : ByteArray} {other : Disk}
    (written : disk.write path content = .ok other) : other.read path = .ok content := by
  obtain ⟨located, leads, written⟩ := exists_of_bind_eq_ok written
  have isWritten : other = disk.put located.place (.file content) := by
    split at written
    · cases written
    · cases written
      rfl
  have again : other.find true path = .ok ⟨located.place, some (.file content), located.links⟩ := by
    obtain ⟨⟨entries, isDirectory⟩, names⟩ := start_of_find leads
    have start := hasParent_of_descend isDirectory
    have found := found?_of_find leads
    have free : IsFree disk.root located.place := by
      refine ⟨hasParent_of_locate start names, ?_⟩
      cases held : located.found? with
      | none => exact .inl (found.symm.trans held)
      | some entry =>
          cases entry with
          | directory inner =>
              rw [held] at written
              cases written
          | file old => exact .inr ⟨old, found.symm.trans held⟩
          | link target =>
              -- A link that is not followed is where the path starts, and there is a directory.
              rw [held, (eq_nil_of_locate_link names held).2, isDirectory] at found
              cases found
    obtain ⟨after, stays⟩ : ∃ after, descend (disk.put located.place (.file content)).root
        (startOf disk.home path) = some (.directory after) := free.directory_put isDirectory
    rw [isWritten, find_eq_locate leads stays]
    exact locate_put content start names free
  rw [read, again]
  rfl

end Disk

end Footgun
