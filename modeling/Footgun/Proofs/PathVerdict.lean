import Footgun.Proofs.UnsafeWords

/-! # The verdict on the words behind a flag

The search for an unsafe path takes the words one by one, and the first word with an expansion
decides. The verdict is said here without the search: by the place of that word, the words before it
and the value of one variable. Main definitions:

* `HoldsExpansion` — a word holds an opened expansion, the white space around it left out;
* `expansionPlace` — the place of the first such word;
* `variableOf`, `remainderOf` — the variable that a word is resolved through, and the rest of the
  word;
* `Resolves` — a word with an expansion leads to an unsafe path, and in which way.

The main statement is `classifyPaths_exact`. -/

namespace Footgun

/-! ## Words with an expansion -/

/-- Without the white space around it, `word` holds an opened expansion. -/
def HoldsExpansion (word : String) : Prop :=
  ['$', '('] <:+: (Text.trim word).toList ∨ ['$', '\x7b'] <:+: (Text.trim word).toList

instance : DecidablePred HoldsExpansion := fun word =>
  inferInstanceAs (Decidable
    (['$', '('] <:+: (Text.trim word).toList ∨ ['$', '\x7b'] <:+: (Text.trim word).toList))

/-- The index of the first word with `HoldsExpansion`, or the number of words if there is none. -/
def expansionPlace (words : List String) : Nat :=
  words.findIdx (HoldsExpansion ·)

/-- The variable that `word` is resolved through. -/
def variableOf (word : String) : String :=
  String.ofList (splitVariable (Text.trim word).toList).1

/-- What follows the variable of `word`. -/
def remainderOf (word : String) : String :=
  String.ofList (splitVariable (Text.trim word).toList).2

/-- The ways in which a `word` with an expansion leads to an unsafe path. -/
inductive Resolves (table : Bindings) (unsafePaths : List String) (word : String) :
    PathHazard → Prop
  /-- Nothing is known of the variable, and what follows it is unsafe. -/
  | unbound (unknown : table.get? (variableOf word) = none)
      (rest : remainderOf word ∈ unsafePaths) :
    Resolves table unsafePaths word ⟨.unsafePath, Text.trim word, none⟩
  /-- The value of the variable is unsafe. -/
  | value {text : String} (known : table.get? (variableOf word) = some text)
    (alone : Text.trim text ∈ unsafePaths) :
    Resolves table unsafePaths word ⟨.unsafeValue, Text.trim word, some (variableOf word)⟩
  /-- The value of the variable is unsafe only with what follows it. -/
  | joined {text : String} (known : table.get? (variableOf word) = some text)
    (notAlone : Text.trim text ∉ unsafePaths)
    (whole : Text.trim text ++ remainderOf word ∈ unsafePaths) :
    Resolves table unsafePaths word ⟨.unsafePath, Text.trim word, some (variableOf word)⟩

/-- A text has `hasExpansion` exactly if a dollar sign and an opening bracket stand in it
together. -/
theorem hasExpansion_iff (text : List Char) :
    hasExpansion text = true ↔ ['$', '('] <:+: text ∨ ['$', '\x7b'] <:+: text := by
  fun_induction hasExpansion text with
  | case1 c rest ih =>
      have opens (bracket : Char) :
          ['$', bracket] <:+: '$' :: c :: rest ↔ c = bracket ∨ ['$', bracket] <:+: c :: rest := by
        rw [List.infix_cons_iff, List.cons_prefix_cons, List.cons_prefix_cons]
        simp [eq_comm]
      rw [Bool.or_eq_true, Bool.or_eq_true, beq_iff_eq, beq_iff_eq, ih, opens, opens]
      exact or_or_or_comm
  | case2 c rest notOpened ih =>
      -- The text does not start with a dollar sign that a character follows.
      have fails : ∀ bracket, ¬ ['$', bracket] <+: c :: rest := by
        rintro bracket ⟨more, same⟩
        cases same
        exact notOpened bracket more rfl rfl
      rw [ih, List.infix_cons_iff, List.infix_cons_iff]
      simp [fails]
  | case3 => simp

/-- A word has `carriesExpansion` exactly if it has `HoldsExpansion`. -/
theorem carriesExpansion_iff (word : String) : carriesExpansion word = true ↔ HoldsExpansion word :=
  hasExpansion_iff _

/-- The `expansionPlace` of words that start with `HoldsExpansion` is 0. -/
theorem expansionPlace_cons_of_holds {word : String} (holds : HoldsExpansion word)
    (words : List String) : expansionPlace (word :: words) = 0 := by
  simp [expansionPlace, List.findIdx_cons, holds]

/-- The `expansionPlace` moves on with a word that has not `HoldsExpansion`. -/
theorem expansionPlace_cons_of_not {word : String} (plain : ¬ HoldsExpansion word)
    (words : List String) : expansionPlace (word :: words) = expansionPlace words + 1 := by
  simp [expansionPlace, List.findIdx_cons, plain]

/-! ## One word that decides -/

section Search

variable {table : Bindings} {unsafePaths words : List String}

/-- If the table has no value of `variableOf word`, only `remainderOf word` counts. -/
theorem classifyExpansion_of_unknown {word : String}
    (unknown : table.get? (variableOf word) = none) :
    classifyExpansion table unsafePaths (Text.trim word) =
      if unsafePaths.contains (remainderOf word) then some ⟨.unsafePath, Text.trim word, none⟩
      else none := by
  rw [variableOf] at unknown
  simp only [classifyExpansion, unknown]
  rfl

/-- If the table has a value of `variableOf word`, it counts alone, and together with
`remainderOf word`. -/
theorem classifyExpansion_of_known {word text : String}
    (known : table.get? (variableOf word) = some text) :
    classifyExpansion table unsafePaths (Text.trim word) =
      if unsafePaths.contains (Text.trim text) then
        some ⟨.unsafeValue, Text.trim word, some (variableOf word)⟩
      else if unsafePaths.contains (Text.trim text ++ remainderOf word) then
        some ⟨.unsafePath, Text.trim word, some (variableOf word)⟩
      else none := by
  rw [variableOf] at known
  simp only [classifyExpansion, known]
  rfl

/-- The verdict `classifyExpansion` on a word is `hazard` exactly if `Resolves` holds of it. -/
theorem classifyExpansion_eq_some_iff {word : String} {hazard : PathHazard} :
    classifyExpansion table unsafePaths (Text.trim word) = some hazard ↔
      Resolves table unsafePaths word hazard := by
  constructor
  · intro found
    -- Each constructor of `Resolves` is one way through `classifyExpansion`.
    cases value : table.get? (variableOf word) with
    | none =>
        rw [classifyExpansion_of_unknown value, Option.ite_none_right_eq_some] at found
        obtain ⟨rest, same⟩ := found
        cases same
        exact .unbound value (List.contains_iff_mem.mp rest)
    | some text =>
        rw [classifyExpansion_of_known value] at found
        by_cases alone : Text.trim text ∈ unsafePaths
        · rw [if_pos (List.contains_iff_mem.mpr alone)] at found
          cases found
          exact .value value alone
        · rw [if_neg (mt List.contains_iff_mem.mp alone), Option.ite_none_right_eq_some] at found
          obtain ⟨whole, same⟩ := found
          cases same
          exact .joined value alone (List.contains_iff_mem.mp whole)
  · intro resolves
    cases resolves with
    | unbound unknown rest =>
        rw [classifyExpansion_of_unknown unknown, if_pos (List.contains_iff_mem.mpr rest)]
    | value known alone =>
        rw [classifyExpansion_of_known known, if_pos (List.contains_iff_mem.mpr alone)]
    | joined known notAlone whole =>
        rw [classifyExpansion_of_known known, if_neg (mt List.contains_iff_mem.mp notAlone),
          if_pos (List.contains_iff_mem.mpr whole)]

/-- The verdict `classifyExpansion` depends on the value of `variableOf word` only. -/
theorem classifyExpansion_congr {other : Bindings} {word : String}
    (agree : other.get? (variableOf word) = table.get? (variableOf word)) :
    classifyExpansion other unsafePaths (Text.trim word) =
      classifyExpansion table unsafePaths (Text.trim word) := by
  cases value : table.get? (variableOf word) with
  | none =>
      rw [classifyExpansion_of_unknown value, classifyExpansion_of_unknown (agree.trans value)]
  | some text =>
      rw [classifyExpansion_of_known value, classifyExpansion_of_known (agree.trans value)]

/-! ## The search -/

/-- Words behind one with `stopsSearch` do not count. -/
theorem classifyPaths_append_of_stops (table : Bindings)
    (stopped : ∃ word ∈ words, stopsSearch unsafePaths word) (more : List String) :
    classifyPaths table unsafePaths (words ++ more) = classifyPaths table unsafePaths words := by
  obtain ⟨word, found⟩ := Option.isSome_iff_exists.mp (List.find?_isSome.mpr stopped)
  rw [classifyPaths_eq, classifyPaths_eq, List.find?_append, found, Option.some_or]

/-- Words without `stopsSearch` do not count. -/
theorem classifyPaths_append_of_passes (table : Bindings)
    (passed : ∀ word ∈ words, ¬ stopsSearch unsafePaths word) (more : List String) :
    classifyPaths table unsafePaths (words ++ more) = classifyPaths table unsafePaths more := by
  rw [classifyPaths_eq, classifyPaths_eq, List.find?_append, List.find?_eq_none.mpr passed,
    Option.none_or]

/-- The verdict `classifyPaths` is that on the first unsafe path before the `expansionPlace`, or
else that on the word there. -/
theorem classifyPaths_eq_or (table : Bindings) (unsafePaths words : List String) :
    classifyPaths table unsafePaths words =
      (((words.take (expansionPlace words)).find? (Text.trim · ∈ unsafePaths)).map fun word =>
        ⟨.unsafePath, Text.trim word, none⟩).or
      (words[expansionPlace words]?.bind fun word =>
        classifyExpansion table unsafePaths (Text.trim word)) := by
  induction words with
  | nil => rfl
  | cons word rest ih =>
      rw [classifyPaths]
      by_cases holds : HoldsExpansion word
      · -- The place is here, and no word comes before it.
        have expansion : hasExpansion (Text.trim word).toList :=
          (carriesExpansion_iff word).mpr holds
        rw [if_pos expansion, expansionPlace_cons_of_holds holds, List.take_zero, List.find?_nil,
          List.getElem?_cons_zero]
        rfl
      · -- The word comes before the place: it decides if it is an unsafe path.
        have plain : ¬ hasExpansion (Text.trim word).toList :=
          mt (carriesExpansion_iff word).mp holds
        rw [if_neg plain, expansionPlace_cons_of_not holds, List.take_succ_cons,
          List.getElem?_cons_succ]
        by_cases isUnsafe : Text.trim word ∈ unsafePaths
        · rw [if_pos (List.contains_iff_mem.mpr isUnsafe),
            List.find?_cons_of_pos (by simpa using isUnsafe)]
          rfl
        · rw [if_neg (mt List.contains_iff_mem.mp isUnsafe),
            List.find?_cons_of_neg (by simpa using isUnsafe), ih]

/-- The word at the `expansionPlace` has `HoldsExpansion`. -/
theorem holdsExpansion_of_getElem? {word : String}
    (here : words[expansionPlace words]? = some word) : HoldsExpansion word := by
  obtain ⟨inside, same⟩ := List.getElem?_eq_some_iff.mp here
  have holds := List.findIdx_getElem (p := (HoldsExpansion ·)) (w := inside)
  rw [← same]
  exact of_decide_eq_true holds

/-- The verdict `classifyPaths` is `hazard` exactly if it is for the first unsafe path before the
`expansionPlace`, or there is none and `Resolves` holds of the word there. -/
theorem classifyPaths_eq_some_iff {hazard : PathHazard} :
    classifyPaths table unsafePaths words = some hazard ↔
      (∃ word, (words.take (expansionPlace words)).find? (Text.trim · ∈ unsafePaths) = some word ∧
        hazard = ⟨.unsafePath, Text.trim word, none⟩) ∨
      ((∀ word ∈ words.take (expansionPlace words), Text.trim word ∉ unsafePaths) ∧
        ∃ word, words[expansionPlace words]? = some word ∧
          Resolves table unsafePaths word hazard) := by
  rw [classifyPaths_eq_or]
  -- Whether some word before the place is an unsafe path tells which side of the `or` counts.
  cases first : (words.take (expansionPlace words)).find? (Text.trim · ∈ unsafePaths) with
  | some word =>
      have isUnsafe : Text.trim word ∈ unsafePaths := by simpa using List.find?_some first
      have member := List.mem_of_find?_eq_some first
      rw [Option.map_some, Option.some_or, Option.some_inj]
      constructor
      · intro same
        exact .inl ⟨word, rfl, same.symm⟩
      · rintro (⟨other, same, rfl⟩ | ⟨safe, _⟩)
        · cases same
          rfl
        · exact absurd isUnsafe (safe word member)
  | none =>
      have safe : ∀ word ∈ words.take (expansionPlace words), Text.trim word ∉ unsafePaths := by
        intro word member
        simpa using List.find?_eq_none.mp first word member
      rw [Option.map_none, Option.none_or, Option.bind_eq_some_iff]
      simp only [classifyExpansion_eq_some_iff]
      constructor
      · intro decides
        exact .inr ⟨safe, decides⟩
      · rintro (⟨_, missing, _⟩ | ⟨_, decides⟩)
        · cases missing
        · exact decides

/-- The words behind the `expansionPlace` do not count. -/
theorem classifyPaths_take_append (table : Bindings) (unsafePaths : List String)
    (inside : expansionPlace words < words.length) (after : List String) :
    classifyPaths table unsafePaths (words.take (expansionPlace words + 1) ++ after) =
      classifyPaths table unsafePaths words := by
  have stopped : ∃ word ∈ words.take (expansionPlace words + 1), stopsSearch unsafePaths word := by
    refine ⟨words[expansionPlace words], ?_, ?_⟩
    · exact List.mem_take_iff_getElem.mpr ⟨expansionPlace words, by omega, rfl⟩
    · have holds := holdsExpansion_of_getElem? (List.getElem?_eq_getElem inside)
      rw [stopsSearch, (carriesExpansion_iff _).mpr holds, Bool.true_or]
  -- The words themselves are one way to go on behind the expansion.
  have whole := classifyPaths_append_of_stops table stopped (words.drop (expansionPlace words + 1))
  rw [List.take_append_drop] at whole
  rw [classifyPaths_append_of_stops table stopped, whole]

/-- Tables that agree on the variable of the word at the `expansionPlace` give the same verdict. -/
theorem classifyPaths_congr {other : Bindings}
    (agree : ∀ word, words[expansionPlace words]? = some word →
      other.get? (variableOf word) = table.get? (variableOf word)) :
    classifyPaths other unsafePaths words = classifyPaths table unsafePaths words := by
  rw [classifyPaths_eq_or, classifyPaths_eq_or]
  cases here : words[expansionPlace words]? with
  | none => rfl
  | some word =>
      rw [Option.bind_some, Option.bind_some, classifyExpansion_congr (agree word here)]

end Search

/-! ## The exact verdict -/

/-- A word for the files of a directory whose name a variable holds. -/
def clearingWord : String :=
  " $\x7bd\x7d/* "

/-- The verdict `classifyPaths table unsafePaths words` on the words behind a flag.

(1) There is a hazard in exactly two cases. If a word before the `expansionPlace` is an unsafe path,
the first such word is the hazard, and no variable is named. If none is, the word at the
`expansionPlace` decides by `Resolves`: its variable is unknown and what follows is unsafe, or the
value of its variable is unsafe alone, or with what follows.

(2) The words behind the `expansionPlace` do not count.

(3) Of the table only the value of the one variable at the `expansionPlace` counts. -/
theorem classifyPaths_exact (table : Bindings) (unsafePaths words : List String) :
    (∀ hazard, classifyPaths table unsafePaths words = some hazard ↔
      (∃ word, (words.take (expansionPlace words)).find? (Text.trim · ∈ unsafePaths) = some word ∧
        hazard = ⟨.unsafePath, Text.trim word, none⟩) ∨
      ((∀ word ∈ words.take (expansionPlace words), Text.trim word ∉ unsafePaths) ∧
        ∃ word, words[expansionPlace words]? = some word ∧
          Resolves table unsafePaths word hazard)) ∧
    (expansionPlace words < words.length →
      ∀ after, classifyPaths table unsafePaths (words.take (expansionPlace words + 1) ++ after) =
        classifyPaths table unsafePaths words) ∧
    (∀ other : Bindings,
      (∀ word, words[expansionPlace words]? = some word →
        other.get? (variableOf word) = table.get? (variableOf word)) →
      classifyPaths other unsafePaths words = classifyPaths table unsafePaths words) :=
  ⟨fun _ => classifyPaths_eq_some_iff, classifyPaths_take_append table unsafePaths,
    fun _ => classifyPaths_congr⟩

/-- The `clearingWord`, a variable without text before the files of a directory, is a hazard,
whatever stands behind it and whatever other variables hold. -/
theorem classifyPaths_exact_clearing :
    expansionPlace ("./a" :: clearingWord :: ["b"]) = 1 ∧
    classifyPaths ⟨[("d", "")]⟩ ["/", "/*"] ("./a" :: clearingWord :: ["b"]) =
      some ⟨.unsafePath, "$\x7bd\x7d/*", some "d"⟩ ∧
    classifyPaths ⟨[("d", "")]⟩ ["/", "/*"] ("./a" :: clearingWord :: ["/"]) =
      some ⟨.unsafePath, "$\x7bd\x7d/*", some "d"⟩ ∧
    classifyPaths ⟨[("e", "/"), ("d", "")]⟩ ["/", "/*"] ("./a" :: clearingWord :: ["b"]) =
      some ⟨.unsafePath, "$\x7bd\x7d/*", some "d"⟩ := by
  obtain ⟨verdict, behind, agree⟩ :=
    classifyPaths_exact ⟨[("d", "")]⟩ ["/", "/*"] ("./a" :: clearingWord :: ["b"])
  have place : expansionPlace ("./a" :: clearingWord :: ["b"]) = 1 := by decide +kernel
  rw [place] at verdict behind agree
  have trimmed : Text.trim clearingWord = "$\x7bd\x7d/*" := by decide +kernel
  have name : variableOf clearingWord = "d" := by decide +kernel
  have rest : remainderOf clearingWord = "/*" := by decide +kernel
  have empty : Text.trim "" = "" := by decide +kernel
  -- The value is empty, so what follows it is the whole path.
  have resolves : Resolves ⟨[("d", "")]⟩ ["/", "/*"] clearingWord
      ⟨.unsafePath, Text.trim clearingWord, some (variableOf clearingWord)⟩ := by
    refine .joined (by rw [name]; rfl) ?_ ?_
    · rw [empty]
      decide
    · rw [empty, rest]
      decide
  rw [trimmed, name] at resolves
  have safe : ∀ word ∈ ["./a"], Text.trim word ∉ ["/", "/*"] := by decide +kernel
  have found := (verdict _).mpr (.inr ⟨safe, clearingWord, rfl, resolves⟩)
  refine ⟨place, found, (behind (by decide) ["/"]).trans found, ?_⟩
  refine (agree _ fun word here => ?_).trans found
  cases here
  rw [name]
  decide

end Footgun
