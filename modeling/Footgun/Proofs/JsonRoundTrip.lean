import Footgun.Proofs.JsonNames
import Footgun.Proofs.JsonText

/-! # Reading undoes writing

A value that is written on one line or on several is read back as it is, if its integers have not
too many digits, no object repeats a name, lists and objects are not nested too deeply, and there is
no number with a fraction. Main definitions:

* `Json.Layout.Gapped` — a layout that sets parts apart by gaps and commas;
* `Json.Readable` — a value that is read back;
* `Json.ReadsBack` — the values whose text is read back, whatever follows it.

The main statement is `Json.read_pretty`. -/

namespace Footgun.Json

/-! ## Gaps -/

/-- A layout sets parts apart by gaps, with a comma in front of the next part. -/
structure Layout.Gapped (layout : Layout) : Prop where
  /-- There are gaps behind an opening bracket. -/
  opening (depth : Nat) : ∀ c ∈ layout.opening depth, isGap c
  /-- There are a comma and gaps before the next part. -/
  next (depth : Nat) : ∃ gaps, layout.next depth = ',' :: gaps ∧ ∀ c ∈ gaps, isGap c
  /-- There are gaps in front of a closing bracket. -/
  closing (depth : Nat) : ∀ c ∈ layout.closing depth, isGap c

/-- A `newline` is made of gaps. -/
theorem isGap_of_mem_newline {depth : Nat} {c : Char} (member : c ∈ newline depth) : isGap c := by
  rcases List.mem_cons.mp member with rfl | blank
  · rfl
  · rw [List.eq_of_mem_replicate blank]
    rfl

/-- The layout `indented`, a line for every part, is `Gapped`. -/
theorem gapped_indented : Layout.indented.Gapped where
  opening _ _ := isGap_of_mem_newline
  next depth := ⟨newline (depth + 1), rfl, fun _ => isGap_of_mem_newline⟩
  closing _ _ := isGap_of_mem_newline

/-- Gaps are skipped up to the first character that is none. -/
theorem skipGaps_append {gaps rest : List Char} {c : Char} (all : ∀ d ∈ gaps, isGap d)
    (stops : isGap c = false) : skipGaps (gaps ++ c :: rest) = c :: rest := by
  rw [skipGaps, List.dropWhile_append_of_pos all, List.dropWhile_cons_of_neg (by simp [stops])]

/-- Nothing is skipped in front of a character that is no gap. -/
theorem skipGaps_cons {c : Char} (stops : isGap c = false) (rest : List Char) :
    skipGaps (c :: rest) = c :: rest :=
  skipGaps_append (fun _ member => absurd member List.not_mem_nil) stops

/-- A text that starts with gaps has `EndsNumber` if what follows them has. -/
theorem endsNumber_append {gaps rest : List Char} {c : Char} (all : ∀ d ∈ gaps, isGap d)
    (ends : EndsNumber (c :: rest)) : EndsNumber (gaps ++ c :: rest) := by
  cases gaps with
  | nil => exact ends
  | cons first others =>
      have gap := all first List.mem_cons_self
      intro d front
      cases front
      -- None of the four gaps is a part of a number.
      rw [isGap, Bool.or_eq_true, Bool.or_eq_true, Bool.or_eq_true] at gap
      rcases gap with ((blank | tab) | newline) | carriageReturn
      · rw [eq_of_beq blank]; decide
      · rw [eq_of_beq tab]; decide
      · rw [eq_of_beq newline]; decide
      · rw [eq_of_beq carriageReturn]; decide

/-- A text that starts with a comma or a closing bracket has `EndsNumber`. -/
theorem endsNumber_cons {c : Char} (mark : c = ',' ∨ c = ']' ∨ c = '\x7d') (rest : List Char) :
    EndsNumber (c :: rest) := by
  intro d front
  cases front
  rcases mark with rfl | rfl | rfl <;> decide

/-! ## Values that are read back -/

/-- What is written for `value` is read back where `levels` are left, and starts neither with a gap
nor with the end of a list. -/
structure ReadsBack (layout : Layout) (levels : Nat) (value : Json) : Prop where
  /-- The first character. -/
  start (depth : Nat) : ∃ c rest, write layout depth value = c :: rest ∧ isGap c = false ∧ c ≠ ']'
  /-- The value is read back, and what follows it is left. -/
  reads (depth fuel : Nat) (rest : List Char) (enough : (write layout depth value).length ≤ fuel)
    (ends : EndsNumber rest) :
    readValue fuel levels (write layout depth value ++ rest) = .ok (value, rest)

/-- A value that starts neither a string nor a list nor an object is read by `readScalar`. -/
theorem readValue_eq_readScalar {c : Char} (noString : c ≠ '"') (noList : c ≠ '[')
    (noObject : c ≠ '\x7b') (fuel levels : Nat) (rest : List Char) :
    readValue (fuel + 1) levels (c :: rest) = readScalar (c :: rest) := by
  rw [readValue.eq_def]
  simp [noString, noList, noObject]

/-- A value that is written as a scalar has `ReadsBack` if `readScalar` reads it back. -/
theorem readsBack_of_readScalar {layout : Layout} {value : Json} {c : Char} {letters : List Char}
    (written : ∀ depth, write layout depth value = c :: letters)
    (scalar : ∀ rest, EndsNumber rest → readScalar (c :: letters ++ rest) = .ok (value, rest))
    (noGap : isGap c = false) (noEnd : c ≠ ']') (noString : c ≠ '"') (noList : c ≠ '[')
    (noObject : c ≠ '\x7b') (levels : Nat) : ReadsBack layout levels value := by
  refine ⟨fun depth => ⟨c, letters, written depth, noGap, noEnd⟩, ?_⟩
  intro depth fuel rest enough ends
  rw [written depth] at enough ⊢
  obtain ⟨fuel, rfl⟩ : ∃ less, fuel = less + 1 :=
    Nat.exists_eq_add_one.mpr (by simp at enough; omega)
  rw [List.cons_append, readValue_eq_readScalar noString noList noObject, ← List.cons_append,
    scalar rest ends]

/-- An integer of at most `Text.maxDigits` digits has `ReadsBack`. -/
theorem readsBack_int (layout : Layout) (levels : Nat) {value : Int}
    (short : value.natAbs < 10 ^ Text.maxDigits) : ReadsBack layout levels (int value) := by
  have first : ∃ c letters, writeInteger value = c :: letters ∧ (c = '-' ∨ c.isDigit) := by
    cases value with
    | ofNat n =>
        obtain ⟨c, letters, same, digit⟩ := exists_cons_toDigits n
        exact ⟨c, letters, (writeInteger_ofNat n).trans same, .inr digit⟩
    | negSucc n => exact ⟨'-', _, writeInteger_negSucc n, .inl rfl⟩
  obtain ⟨c, letters, same, mark⟩ := first
  -- A sign or a digit is told apart from all that other values start with.
  have other : ∀ d : Char, d ≠ '-' → d.isDigit = false → c ≠ d := by
    rintro d noMinus noDigit rfl
    rcases mark with minus | digit
    · exact noMinus minus
    · rw [digit] at noDigit
      cases noDigit
  have noGap : isGap c = false := by
    simp [isGap, other ' ' (by decide) (by decide), other '\t' (by decide) (by decide),
      other '\n' (by decide) (by decide), other '\r' (by decide) (by decide)]
  refine readsBack_of_readScalar (fun depth => by rw [write, same]) ?_ noGap
    (other _ (by decide) (by decide)) (other _ (by decide) (by decide))
      (other _ (by decide) (by decide))
    (other _ (by decide) (by decide)) levels
  intro rest ends
  rw [← same]
  exact readScalar_writeInteger short ends

/-- A string has `ReadsBack`. -/
theorem readsBack_str (layout : Layout) (levels : Nat) (value : String) :
    ReadsBack layout levels (str value) := by
  refine ⟨fun depth => ⟨'"', _, rfl, by decide, by decide⟩, ?_⟩
  intro depth fuel rest enough _
  rw [write, writeString] at enough ⊢
  obtain ⟨fuel, rfl⟩ : ∃ less, fuel = less + 1 :=
    Nat.exists_eq_add_one.mpr (by simp at enough; omega)
  rw [List.cons_append, List.cons_append, List.append_assoc, readValue, List.singleton_append,
    readString_escaped]
  rfl

/-! ## Lists -/

variable {layout : Layout} {levels : Nat}

/-- The items of a list are read back by `readItems`, up to the end of the list. The induction is on
`items`. -/
theorem readItems_write (gapped : layout.Gapped) {item : Json} {items : List Json}
    (each : ∀ other ∈ item :: items, ReadsBack layout levels other) (depth fuel : Nat)
    (rest : List Char)
    (enough : (write layout (depth + 1) item ++ writeItems layout depth items).length < fuel) :
    readItems fuel levels (write layout (depth + 1) item ++ (writeItems layout depth items ++
      (layout.closing depth ++ ']' :: rest))) = .ok (item :: items, rest) := by
  induction items generalizing item fuel with
  | nil =>
      obtain ⟨fuel, rfl⟩ : ∃ less, fuel = less + 1 := Nat.exists_eq_add_one.mpr (by omega)
      have here := (each item List.mem_cons_self).reads (depth + 1) fuel
        (layout.closing depth ++ ']' :: rest) (by simp [writeItems] at enough; omega)
        (endsNumber_append (gapped.closing depth) (endsNumber_cons (.inr (.inl rfl)) rest))
      rw [writeItems, List.nil_append, readItems, here, ok_bind]
      dsimp only
      rw [skipGaps_append (gapped.closing depth) (by decide)]
      rfl
  | cons second others ih =>
      obtain ⟨fuel, rfl⟩ : ∃ less, fuel = less + 1 := Nat.exists_eq_add_one.mpr (by omega)
      obtain ⟨gaps, comma, areGaps⟩ := gapped.next depth
      obtain ⟨c, letters, starts, noGap, _⟩ := (each second (by simp)).start (depth + 1)
      have lengths : (write layout (depth + 1) item).length + (gaps.length + 1) +
          (write layout (depth + 1) second ++ writeItems layout depth others).length <
            fuel + 1 := by
        simp only [writeItems, comma, List.length_append, List.length_cons] at enough ⊢
        omega
      have here := (each item List.mem_cons_self).reads (depth + 1) fuel
        (writeItems layout depth (second :: others) ++ (layout.closing depth ++ ']' :: rest))
        (by omega) (by
          rw [writeItems, comma]
          exact endsNumber_cons (.inl rfl) _)
      have later :=
        ih (fun other member => each other (List.mem_cons_of_mem _ member)) fuel (by omega)
      rw [readItems, here, ok_bind]
      -- Behind the comma the gaps are skipped, up to the first character of the next item.
      have between : skipGaps (writeItems layout depth (second :: others) ++
          (layout.closing depth ++ ']' :: rest)) =
            ',' :: (gaps ++ (write layout (depth + 1) second ++
            (writeItems layout depth others ++ (layout.closing depth ++ ']' :: rest)))) := by
        rw [writeItems, comma]
        simp only [List.cons_append, List.append_assoc]
        exact skipGaps_cons (by decide) _
      dsimp only
      rw [between]
      simp only
      rw [starts, List.cons_append, skipGaps_append areGaps noGap, ← List.cons_append,
        ← starts, later]
      rfl

/-- A list whose items have `ReadsBack` has it, at a level more. -/
theorem readsBack_arr (gapped : layout.Gapped) {items : List Json}
    (each : ∀ item ∈ items, ReadsBack layout levels item) :
    ReadsBack layout (levels + 1) (arr items) := by
  cases items with
  | nil =>
      refine ⟨fun depth => ⟨'[', [']'], by rw [write], by decide, by decide⟩, ?_⟩
      intro depth fuel rest enough _
      rw [write] at enough ⊢
      obtain ⟨fuel, rfl⟩ : ∃ less, fuel = less + 1 :=
        Nat.exists_eq_add_one.mpr (by simp at enough; omega)
      simp [readValue, skipGaps_cons (show isGap ']' = false by decide)]
  | cons item items =>
      refine ⟨fun depth => ⟨'[', _, by rw [write]; rfl, by decide, by decide⟩, ?_⟩
      intro depth fuel rest enough _
      obtain ⟨c, letters, starts, noGap, noEnd⟩ := (each item List.mem_cons_self).start (depth + 1)
      -- Behind the bracket and the gap, `readItems` takes over.
      have inside : write layout depth (arr (item :: items)) ++ rest =
          '[' :: (layout.opening depth ++ (write layout (depth + 1) item ++
            (writeItems layout depth items ++ (layout.closing depth ++ ']' :: rest)))) := by
        rw [write]
        simp only [List.cons_append, List.append_assoc, List.nil_append]
      rw [write] at enough
      simp only [List.length_append, List.length_cons, List.length_nil] at enough
      obtain ⟨fuel, rfl⟩ : ∃ less, fuel = less + 1 := Nat.exists_eq_add_one.mpr (by omega)
      have read := readItems_write gapped each depth fuel rest (by
        simp only [List.length_append]
        omega)
      have opened : skipGaps (layout.opening depth ++ (write layout (depth + 1) item ++
          (writeItems layout depth items ++ (layout.closing depth ++ ']' :: rest)))) =
          c :: (letters ++
            (writeItems layout depth items ++ (layout.closing depth ++ ']' :: rest))) := by
        rw [starts, List.cons_append, skipGaps_append (gapped.opening depth) noGap]
      rw [starts, List.cons_append] at read
      rw [inside, readValue, opened]
      split
      · -- The first item does not start like the end of a list.
        rename_i same
        exact absurd (List.cons.inj same).1 noEnd
      · rw [read]
        rfl

/-! ## Objects -/

/-- What is written for `field`. -/
def fieldText (layout : Layout) (depth : Nat) (field : String × Json) : List Char :=
  writeString field.1 ++ ':' :: ' ' :: write layout (depth + 1) field.2

/-- A new name is `put` at the end. -/
theorem put_of_not_mem {name : String} (value : Json) {fields : List (String × Json)}
    (new : name ∉ fields.map Prod.fst) : put name value fields = fields ++ [(name, value)] := by
  induction fields with
  | nil => rfl
  | cons first rest ih =>
      rw [List.map_cons, List.mem_cons, not_or] at new
      rw [put, if_neg (Ne.symm new.1), ih new.2]
      rfl

/-- A name that is not repeated later is new where it stands. -/
theorem new_of_nodup {before after : List (String × Json)} {field : String × Json}
    (names : ((before ++ field :: after).map Prod.fst).Nodup) : field.1 ∉ before.map Prod.fst := by
  intro old
  rw [List.map_append, List.nodup_append] at names
  exact names.2.2 field.1 old field.1 (by simp) rfl

/-- A field is read back, and `put` at the end if its name is new. Behind it the object ends, or the
next field follows. -/
theorem readFields_fieldText {before : List (String × Json)} {field : String × Json}
    (back : ReadsBack layout levels field.2) (new : field.1 ∉ before.map Prod.fst)
    {depth fuel : Nat} {rest : List Char}
    (enough : (write layout (depth + 1) field.2).length ≤ fuel) (ends : EndsNumber rest) :
    (∀ after, skipGaps rest = '\x7d' :: after →
      readFields (fuel + 1) levels before (fieldText layout depth field ++ rest) =
        .ok (before ++ [field], after)) ∧
    ∀ after, skipGaps rest = ',' :: after →
      readFields (fuel + 1) levels before (fieldText layout depth field ++ rest) =
        readFields fuel levels (before ++ [field]) (skipGaps after) := by
  obtain ⟨name, value⟩ := field
  obtain ⟨c, letters, starts, noGap, _⟩ := back.start (depth + 1)
  have here := back.reads (depth + 1) fuel rest enough ends
  have gap : skipGaps (' ' :: (write layout (depth + 1) value ++ rest)) =
      write layout (depth + 1) value ++ rest := by
    rw [starts, List.cons_append]
    exact (List.dropWhile_cons_of_pos rfl).trans (skipGaps_cons noGap _)
  -- Up to the value both cases are read alike; what follows it decides.
  constructor
  all_goals
    intro after left
    rw [fieldText, writeString]
    simp only [List.cons_append, List.append_assoc, List.nil_append]
    rw [readFields, readString_escaped, ok_bind]
    dsimp only
    rw [skipGaps_cons (by decide)]
    simp only
    rw [gap, here, ok_bind]
    dsimp only
    rw [left, put_of_not_mem value new]
    rfl

/-- The fields of an object are read back by `readFields` behind those `before`, up to the end of
the object. The induction is on `fields`. -/
theorem readFields_write (gapped : layout.Gapped) {before : List (String × Json)}
    {field : String × Json} {fields : List (String × Json)}
    (each : ∀ other ∈ field :: fields, ReadsBack layout levels other.2)
    (names : ((before ++ field :: fields).map Prod.fst).Nodup) (depth fuel : Nat) (rest : List Char)
    (enough : (fieldText layout depth field ++ writeFields layout depth fields).length < fuel) :
    readFields fuel levels before
      (fieldText layout depth field ++ (writeFields layout depth fields ++
      (layout.closing depth ++ '\x7d' :: rest))) = .ok (before ++ field :: fields, rest) := by
  induction fields generalizing before field fuel with
  | nil =>
      obtain ⟨fuel, rfl⟩ : ∃ less, fuel = less + 1 := Nat.exists_eq_add_one.mpr (by omega)
      have long : (write layout (depth + 1) field.2).length ≤ fuel := by
        simp only [fieldText, writeFields, List.length_append, List.length_cons] at enough
        omega
      have ends := endsNumber_append (gapped.closing depth) (endsNumber_cons (.inr (.inr rfl)) rest)
      exact (readFields_fieldText (each field List.mem_cons_self) (new_of_nodup names) long ends).1
        rest (skipGaps_append (gapped.closing depth) (by decide))
  | cons second others ih =>
      obtain ⟨fuel, rfl⟩ : ∃ less, fuel = less + 1 := Nat.exists_eq_add_one.mpr (by omega)
      obtain ⟨gaps, comma, areGaps⟩ := gapped.next depth
      have long : (write layout (depth + 1) field.2).length +
          (fieldText layout depth second ++ writeFields layout depth others).length < fuel := by
        simp only [fieldText, writeString, writeFields, comma, List.length_append, List.length_cons,
          List.length_nil] at enough ⊢
        omega
      have split : writeFields layout depth (second :: others) ++ (layout.closing depth ++
          '\x7d' :: rest) = ',' :: (gaps ++ (fieldText layout depth second ++
            (writeFields layout depth others ++ (layout.closing depth ++ '\x7d' :: rest)))) := by
        rw [writeFields, comma, fieldText]
        simp only [List.cons_append, List.append_assoc]
      have rearranged : ((before ++ [field] ++ second :: others).map Prod.fst).Nodup := by
        simpa using names
      have later :=
        ih (fun other member => each other (List.mem_cons_of_mem _ member)) rearranged fuel
        (by omega)
      rw [split,
        (readFields_fieldText (each field List.mem_cons_self) (new_of_nodup names) (by omega)
          (endsNumber_cons (.inl rfl) _)).2 _ (skipGaps_cons (by decide) _)]
      -- Behind the comma the gaps are skipped, up to the quote in front of the next name.
      obtain ⟨letters, quoted⟩ : ∃ letters, fieldText layout depth second = '"' :: letters :=
        ⟨_, rfl⟩
      rw [quoted, List.cons_append, skipGaps_append areGaps (by decide), ← List.cons_append,
        ← quoted, later, List.append_assoc, List.singleton_append]

/-- An object whose names are distinct and whose fields have `ReadsBack` has it, at a level more. -/
theorem readsBack_obj (gapped : layout.Gapped) {fields : List (String × Json)}
    (each : ∀ field ∈ fields, ReadsBack layout levels field.2)
    (names : (fields.map Prod.fst).Nodup) : ReadsBack layout (levels + 1) (obj fields) := by
  cases fields with
  | nil =>
      refine ⟨fun depth => ⟨'\x7b', ['\x7d'], by rw [write], by decide, by decide⟩, ?_⟩
      intro depth fuel rest enough _
      rw [write] at enough ⊢
      obtain ⟨fuel, rfl⟩ : ∃ less, fuel = less + 1 :=
        Nat.exists_eq_add_one.mpr (by simp at enough; omega)
      simp [readValue, skipGaps_cons (show isGap '\x7d' = false by decide)]
  | cons field fields =>
      refine ⟨fun depth => ⟨'\x7b', _, by rw [write]; rfl, by decide, by decide⟩, ?_⟩
      intro depth fuel rest enough _
      have inside : write layout depth (obj (field :: fields)) ++ rest =
          '\x7b' :: (layout.opening depth ++ (fieldText layout depth field ++
            (writeFields layout depth fields ++ (layout.closing depth ++ '\x7d' :: rest)))) := by
        rw [write, fieldText]
        simp only [List.cons_append, List.append_assoc, List.nil_append]
      have long :
          (write layout depth (obj (field :: fields)) ++ rest).length ≤ fuel + rest.length := by
        rw [List.length_append]
        omega
      rw [inside] at long
      simp only [List.length_append, List.length_cons] at long
      obtain ⟨fuel, rfl⟩ : ∃ less, fuel = less + 1 := Nat.exists_eq_add_one.mpr (by omega)
      have none : (([] ++ field :: fields).map Prod.fst).Nodup := names
      have read := readFields_write gapped each none depth fuel rest (by
        simp only [List.length_append]
        omega)
      obtain ⟨letters, quoted⟩ : ∃ letters, fieldText layout depth field = '"' :: letters :=
        ⟨_, rfl⟩
      rw [quoted, List.cons_append] at read
      -- Behind the gaps there is a quote, so the object does not end at once.
      rw [inside, readValue, quoted, List.cons_append,
        skipGaps_append (gapped.opening depth) (by decide)]
      split
      · rename_i same
        exact absurd (List.cons.inj same).1 (by decide)
      · rw [read]
        rfl

/-! ## All values -/

/-- A value that is read back at a number of levels. -/
inductive Readable : Nat → Json → Prop
  /-- Nothing. -/
  | null (levels : Nat) : Readable levels null
  /-- A truth value. -/
  | bool (levels : Nat) (value : Bool) : Readable levels (bool value)
  /-- An integer with not too many digits. -/
  | int (levels : Nat) {value : Int} (short : value.natAbs < 10 ^ Text.maxDigits) :
    Readable levels (int value)
  /-- A string. -/
  | str (levels : Nat) (value : String) : Readable levels (str value)
  /-- A list, at a level more than its items. -/
  | arr {levels : Nat} {items : List Json} (each : ∀ item ∈ items, Readable levels item) :
    Readable (levels + 1) (arr items)
  /-- An object that repeats no name, at a level more than its values. -/
  | obj {levels : Nat} {fields : List (String × Json)}
      (each : ∀ field ∈ fields, Readable levels field.2)
    (names : (fields.map Prod.fst).Nodup) : Readable (levels + 1) (obj fields)

/-- A value that is `Readable` has `ReadsBack`, in every layout that is `Gapped`. -/
theorem readsBack_of_readable (gapped : layout.Gapped) {value : Json}
    (readable : Readable levels value) : ReadsBack layout levels value := by
  induction readable with
  | null levels =>
      exact readsBack_of_readScalar (c := 'n') (fun _ => rfl) (fun _ _ => rfl) (by decide)
        (by decide) (by decide) (by decide) (by decide) levels
  | bool levels value =>
      cases value with
      | false =>
          exact readsBack_of_readScalar (c := 'f') (fun _ => rfl) (fun _ _ => rfl) (by decide)
            (by decide) (by decide) (by decide) (by decide) levels
      | true =>
          exact readsBack_of_readScalar (c := 't') (fun _ => rfl) (fun _ _ => rfl) (by decide)
            (by decide) (by decide) (by decide) (by decide) levels
  | int levels short => exact readsBack_int layout levels short
  | str levels value => exact readsBack_str layout levels value
  | arr _ ih => exact readsBack_arr gapped ih
  | obj _ names ih => exact readsBack_obj gapped ih names

/-- A value that is `Readable maxLevels` is read back from `value.pretty`. -/
theorem read_pretty {value : Json} (readable : Readable maxLevels value) :
    read value.pretty = .ok value := by
  have back := readsBack_of_readable gapped_indented readable
  obtain ⟨c, letters, starts, noGap, _⟩ := back.start 0
  have whole := back.reads 0 (2 * (write .indented 0 value).length + 2) [] (by omega)
    (fun _ front => by cases front)
  have front : skipGaps (write .indented 0 value) = write .indented 0 value := by
    rw [starts, skipGaps_cons noGap]
  rw [List.append_nil] at whole
  rw [read, pretty, String.toList_ofList, front, whole, ok_bind]
  rfl

end Footgun.Json
