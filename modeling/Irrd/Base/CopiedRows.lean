import Irrd.Base.Fallible

/-!
# Copied rows

Rows of fields are written with commas and newlines between them, and nothing else. A reader of
comma-separated values takes quotes, line ends of every kind and empty fields into account. It reads
what was written where no field is empty or has a special character, and it never reads as many
quotes as it was given. Text with a null character is not read at all.
-/

namespace Irrd.Base

/-- Rows as text, without quoting. -/
def writeRows (rows : List (List (List Char))) : List Char :=
  ['\n'].intercalate (rows.map [','].intercalate)

/-- A field that reads as it is written. -/
def PlainField (field : List Char) : Prop :=
  field ≠ [] ∧ ∀ c ∈ field, c ∉ [',', '"', '\n', '\r', '\x00']

instance (field : List Char) : Decidable (PlainField field) :=
  decidable_of_iff (field ≠ [] ∧ field.all (· ∉ [',', '"', '\n', '\r', '\x00']) = true)
    (by simp [PlainField])

/-- How lines end, as far as it is known: after a return, a newline may belong to it. -/
inductive LineEnd
  | newline
  | carriageReturn
  | both
  | firstReturn
  | returnOfBoth
  deriving DecidableEq

/-- What a character is to the lines of a text. -/
inductive LineAction
  | cut
  | skip
  | keep
  deriving DecidableEq

/-- A character outside quotes. All lines have to end alike. -/
def lineStep (lineEnd : Option LineEnd) (c : Char) : Option (LineAction × Option LineEnd) :=
  if c = '\n' then
    match lineEnd with
    | none | some .newline => some (.cut, some .newline)
    | some .firstReturn | some .returnOfBoth => some (.skip, some .both)
    | some .carriageReturn | some .both => none
  else if c = '\r' then
    match lineEnd with
    | none => some (.cut, some .firstReturn)
    | some .firstReturn | some .carriageReturn => some (.cut, some .carriageReturn)
    | some .both => some (.cut, some .returnOfBoth)
    | some .newline | some .returnOfBoth => none
  else
    match lineEnd with
    | some .firstReturn => some (.keep, some .carriageReturn)
    | some .returnOfBoth => none
    | lineEnd => some (.keep, lineEnd)

/-- The rest of a line, and the lines after it. -/
def cutLines : Bool → Option LineEnd → List Char → Option (List Char × List (List Char))
  | _, lineEnd, [] => if lineEnd = some .returnOfBoth then none else some ([], [])
  | inQuotes, lineEnd, c :: text =>
    match if inQuotes then some (.keep, lineEnd) else lineStep lineEnd c with
    | none => none
    | some (.cut, lineEnd) =>
      (cutLines inQuotes lineEnd text).map (fun (line, lines) ↦ ([], line :: lines))
    | some (.skip, lineEnd) => cutLines inQuotes lineEnd text
    | some (.keep, lineEnd) =>
      (cutLines (if c = '"' then !inQuotes else inQuotes) lineEnd text).map
        (fun (line, lines) ↦ (c :: line, lines))

/-- The lines of a text. Nothing stands after the end of the last one. -/
def readLines (text : List Char) : Option (List (List Char)) :=
  (cutLines false none text).map (fun (line, lines) ↦
    if (line :: lines).getLast? = some [] then (line :: lines).dropLast else line :: lines)

/-- Where a reader of fields is: after a quote that closes, another quote is a character. -/
inductive QuoteState
  | outside
  | inside
  | closed
  deriving DecidableEq

/-- The rest of a field with whether it has quotes, and the fields after it. -/
def cutFields : QuoteState → List Char → Option ((List Char × Bool) × List (List Char × Bool))
  | state, [] => if state = .inside then none else some (([], false), [])
  | state, c :: line =>
    if state = .inside then
      if c = '"' then cutFields .closed line
      else (cutFields .inside line).map (fun (field, fields) ↦ ((c :: field.1, field.2), fields))
    else if c = '"' then
      (cutFields .inside line).map (fun (field, fields) ↦
        (if state = .closed then (c :: field.1, field.2) else (field.1, true), fields))
    else if c = ',' then
      (cutFields .outside line).map (fun (field, fields) ↦ (([], false), field :: fields))
    else (cutFields .outside line).map (fun (field, fields) ↦ ((c :: field.1, field.2), fields))

/-- The value of a field: nothing if it is empty and has no quotes. -/
def fieldValue (field : List Char × Bool) : Option (List Char) :=
  if field = ([], false) then none else some field.1

/-- The values in a line. -/
def readFields (line : List Char) : Option (List (Option (List Char))) :=
  (cutFields .outside line).map (fun (field, fields) ↦ (field :: fields).map fieldValue)

/-- `COPY` of comma-separated values. A line of a backslash and a dot is like any other. -/
def readRows (text : List Char) : Option (List (List (Option (List Char)))) :=
  if '\x00' ∈ text then none else readLines text >>= List.mapM readFields

section Written

variable {lineEnd : Option LineEnd}

theorem intercalate_cons_cons (separator : Char) (x y : List Char) (xs : List (List Char)) :
    [separator].intercalate (x :: y :: xs) =
      x ++ separator :: [separator].intercalate (y :: xs) := by
  simp [List.intercalate, List.intersperse]

/-- A line without special characters is kept. -/
theorem cutLines_append {line : List Char} (hline : ∀ c ∈ line, c ∉ ['"', '\n', '\r'])
    (hend : lineEnd = none ∨ lineEnd = some .newline) (text : List Char) :
    cutLines false lineEnd (line ++ text) =
      (cutLines false lineEnd text).map (fun (rest, lines) ↦ (line ++ rest, lines)) := by
  induction line with
  | nil =>
    rw [List.nil_append]
    cases cutLines false lineEnd text <;> rfl
  | cons c line ih =>
    have hc := hline c List.mem_cons_self
    simp only [List.mem_cons, List.not_mem_nil, or_false, not_or] at hc
    have hstep : lineStep lineEnd c = some (.keep, lineEnd) := by
      unfold lineStep
      rw [if_neg hc.2.1, if_neg hc.2.2]
      rcases hend with rfl | rfl <;> rfl
    rw [List.cons_append, cutLines, if_neg Bool.false_ne_true, hstep]
    dsimp only
    rw [if_neg hc.1, ih (fun c hc ↦ hline c (List.mem_cons_of_mem _ hc)), Option.map_map]
    rfl

theorem cutLines_intercalate {line : List Char} {lines : List (List Char)}
    (hlines : ∀ line' ∈ line :: lines, ∀ c ∈ line', c ∉ ['"', '\n', '\r'])
    (hend : lineEnd = none ∨ lineEnd = some .newline) :
    cutLines false lineEnd (['\n'].intercalate (line :: lines)) = some (line, lines) := by
  induction lines generalizing line lineEnd with
  | nil =>
    have hnil : cutLines false lineEnd [] = some ([], []) := by
      rcases hend with rfl | rfl <;> rfl
    have hline := cutLines_append (hlines line List.mem_cons_self) hend []
    rw [hnil, List.append_nil] at hline
    simpa [List.intercalate] using hline
  | cons next lines ih =>
    have hstep : lineStep lineEnd '\n' = some (.cut, some .newline) := by
      rcases hend with rfl | rfl <;> rfl
    rw [intercalate_cons_cons, cutLines_append (hlines line List.mem_cons_self) hend, cutLines,
      if_neg Bool.false_ne_true, hstep]
    dsimp only
    rw [ih (fun line' hline' ↦ hlines line' (List.mem_cons_of_mem _ hline')) (.inr rfl)]
    simp

theorem cutFields_append {field : List Char} (hfield : ∀ c ∈ field, c ∉ [',', '"'])
    (line : List Char) : cutFields .outside (field ++ line) =
      (cutFields .outside line).map (fun (rest, fields) ↦
        ((field ++ rest.1, rest.2), fields)) := by
  induction field with
  | nil =>
    rw [List.nil_append]
    cases cutFields .outside line <;> rfl
  | cons c field ih =>
    have hc := hfield c List.mem_cons_self
    simp only [List.mem_cons, List.not_mem_nil, or_false, not_or] at hc
    rw [List.cons_append, cutFields, if_neg (by decide), if_neg hc.2, if_neg hc.1,
      ih (fun c hc ↦ hfield c (List.mem_cons_of_mem _ hc)), Option.map_map]
    rfl

theorem cutFields_intercalate {field : List Char} {fields : List (List Char)}
    (hfields : ∀ field' ∈ field :: fields, ∀ c ∈ field', c ∉ [',', '"']) :
    cutFields .outside ([','].intercalate (field :: fields)) =
      some ((field, false), fields.map (fun field ↦ (field, false))) := by
  induction fields generalizing field with
  | nil =>
    have hfield := cutFields_append (hfields field List.mem_cons_self) []
    rw [List.append_nil] at hfield
    simpa [List.intercalate, cutFields] using hfield
  | cons next fields ih =>
    rw [intercalate_cons_cons, cutFields_append (hfields field List.mem_cons_self), cutFields,
      if_neg (by decide), if_neg (by decide), if_pos rfl,
      ih (fun field' hfield' ↦ hfields field' (List.mem_cons_of_mem _ hfield'))]
    simp

theorem mem_intercalate {separator c : Char} {xs : List (List Char)}
    (hc : c ∈ [separator].intercalate xs) : c = separator ∨ ∃ x ∈ xs, c ∈ x := by
  induction xs with
  | nil => cases hc
  | cons x xs ih =>
    cases xs with
    | nil =>
      refine .inr ⟨x, List.mem_cons_self, ?_⟩
      simpa [List.intercalate] using hc
    | cons y xs =>
      rw [intercalate_cons_cons, List.mem_append, List.mem_cons] at hc
      rcases hc with hc | rfl | hc
      · exact .inr ⟨x, List.mem_cons_self, hc⟩
      · exact .inl rfl
      · exact (ih hc).imp_right (fun ⟨z, hz, hmem⟩ ↦ ⟨z, List.mem_cons_of_mem _ hz, hmem⟩)

/-- Rows of plain fields are read as they were written. -/
theorem readRows_writeRows {rows : List (List (List Char))} (hrows : ∀ row ∈ rows, row ≠ [])
    (hplain : ∀ row ∈ rows, ∀ field ∈ row, PlainField field) :
    readRows (writeRows rows) = some (rows.map (List.map some)) := by
  have hfields {row : List (List Char)} (hrow : row ∈ rows) :
      readFields ([','].intercalate row) = some (row.map some) := by
    obtain ⟨field, fields, rfl⟩ := List.exists_cons_of_ne_nil (hrows row hrow)
    unfold readFields
    rw [cutFields_intercalate (fun field' hfield' c hc ↦ ?_)]
    · simp only [Option.map_some, List.map_cons, List.map_map]
      congr 1
      refine congrArg₂ List.cons ?_ (List.map_congr_left (fun field' hfield' ↦ ?_))
      · simp [fieldValue, (hplain _ hrow field List.mem_cons_self).1]
      · simp [fieldValue, (hplain _ hrow field' (List.mem_cons_of_mem _ hfield')).1]
    · have hchar := (hplain _ hrow field' hfield').2 c hc
      simp only [List.mem_cons, List.not_mem_nil, or_false, not_or] at hchar ⊢
      exact ⟨hchar.1, hchar.2.1⟩
  have hlines : readLines (writeRows rows) = some (rows.map [','].intercalate) := by
    unfold readLines writeRows
    cases hcases : rows with
    | nil => rfl
    | cons row rows' =>
      rw [List.map_cons, cutLines_intercalate (fun line hline c hc ↦ ?_) (.inl rfl)]
      · simp only [Option.map_some]
        rw [← List.map_cons (f := [','].intercalate), ← hcases, if_neg]
        intro hlast
        obtain ⟨last, hlast', hempty⟩ := List.mem_map.mp (List.mem_of_getLast? hlast)
        obtain ⟨field, fields, rfl⟩ := List.exists_cons_of_ne_nil (hrows last hlast')
        have hne := (hplain _ hlast' field List.mem_cons_self).1
        cases fields with
        | nil => exact hne (by simpa [List.intercalate] using hempty)
        | cons next fields =>
          rw [intercalate_cons_cons] at hempty
          simp at hempty
      · rw [← List.map_cons, ← hcases] at hline
        obtain ⟨row', hrow', rfl⟩ := List.mem_map.mp hline
        rcases mem_intercalate hc with rfl | ⟨field, hfield, hmem⟩
        · decide
        · have hchar := (hplain row' hrow' field hfield).2 c hmem
          simp only [List.mem_cons, List.not_mem_nil, or_false, not_or] at hchar ⊢
          exact ⟨hchar.2.1, hchar.2.2.1, hchar.2.2.2.1⟩
  have hnull : '\x00' ∉ writeRows rows := by
    intro hmem
    obtain ⟨line, hline, hmem⟩ := (mem_intercalate hmem).resolve_left (by decide)
    obtain ⟨row, hrow, rfl⟩ := List.mem_map.mp hline
    obtain ⟨field, hfield, hmem⟩ := (mem_intercalate hmem).resolve_left (by decide)
    exact (hplain row hrow field hfield).2 _ hmem (by decide)
  unfold readRows
  rw [if_neg hnull, hlines, Option.bind_eq_bind, Option.bind_some, mapM_eq_some_iff,
    List.forall₂_map_left_iff, List.forall₂_map_right_iff, List.forall₂_same]
  exact fun row hrow ↦ hfields hrow

end Written

section Read

/-- The characters of the values in some rows. -/
def valueText (rows : List (List (Option (List Char)))) : List Char :=
  (rows.flatten.filterMap id).flatten

/-- A character outside quotes is kept unless it ends lines. -/
theorem lineStep_eq_keep {lineEnd lineEnd' : Option LineEnd} {c : Char} {action : LineAction}
    (h : lineStep lineEnd c = some (action, lineEnd')) :
    action = .keep ↔ c ∉ ['\n', '\r'] := by
  simp only [List.mem_cons, List.not_mem_nil, or_false, not_or]
  unfold lineStep at h
  split at h
  · split at h <;> cases h <;> simp_all
  · split at h
    · split at h <;> cases h <;> simp_all
    · split at h <;> cases h <;> simp_all

/-- A character is part of its line, or it stands outside quotes and ends lines. -/
theorem cutLines_cons {inQuotes : Bool} {lineEnd : Option LineEnd} {c : Char}
    {text line : List Char} {lines : List (List Char)}
    (h : cutLines inQuotes lineEnd (c :: text) = some (line, lines)) :
    ∃ lineEnd' line' lines',
      (cutLines (if c = '"' then !inQuotes else inQuotes) lineEnd' text = some (line', lines') ∧
        (line = c :: line' ∧ lines = lines') ∧ (inQuotes = false → c ∉ ['\n', '\r'])) ∨
      (cutLines inQuotes lineEnd' text = some (line', lines') ∧
        ((line = [] ∧ lines = line' :: lines') ∨ (line = line' ∧ lines = lines')) ∧
          c ∈ ['\n', '\r']) := by
  rw [cutLines] at h
  cases inQuotes with
  | true =>
    rw [if_pos rfl] at h
    obtain ⟨⟨line', lines'⟩, hrest, heq⟩ := Option.map_eq_some_iff.mp h
    cases heq
    exact ⟨lineEnd, line', lines, .inl ⟨hrest, ⟨rfl, rfl⟩, nofun⟩⟩
  | false =>
    rw [if_neg Bool.false_ne_true] at h
    cases hstep : lineStep lineEnd c with
    | none =>
      rw [hstep] at h
      cases h
    | some step =>
      obtain ⟨action, lineEnd'⟩ := step
      have hkeep := lineStep_eq_keep hstep
      rw [hstep] at h
      cases action with
      | cut =>
        obtain ⟨⟨line', lines'⟩, hrest, heq⟩ := Option.map_eq_some_iff.mp h
        cases heq
        exact ⟨lineEnd', line', lines', .inr
          ⟨hrest, .inl ⟨rfl, rfl⟩, by simpa [or_iff_not_imp_left] using hkeep⟩⟩
      | skip =>
        exact ⟨lineEnd', line, lines, .inr
          ⟨h, .inr ⟨rfl, rfl⟩, by simpa [or_iff_not_imp_left] using hkeep⟩⟩
      | keep =>
        obtain ⟨⟨line', lines'⟩, hrest, heq⟩ := Option.map_eq_some_iff.mp h
        cases heq
        exact ⟨lineEnd', line', lines, .inl ⟨hrest, ⟨rfl, rfl⟩, fun _ ↦ hkeep.mp rfl⟩⟩

/-- Cutting a text into lines loses no quotes. -/
theorem count_cutLines {inQuotes : Bool} {lineEnd : Option LineEnd} {text line : List Char}
    {lines : List (List Char)} (h : cutLines inQuotes lineEnd text = some (line, lines)) :
    (line :: lines).flatten.count '"' = text.count '"' := by
  induction text generalizing inQuotes lineEnd line lines with
  | nil =>
    rw [cutLines] at h
    split at h <;> cases h
    rfl
  | cons c text ih =>
    obtain ⟨lineEnd', line', lines', ⟨hrest, ⟨rfl, rfl⟩, -⟩ | ⟨hrest, hline, hc⟩⟩ := cutLines_cons h
    · rw [List.flatten_cons, List.cons_append, List.count_cons, List.count_cons, ← ih hrest,
        List.flatten_cons]
    · have hother : c ≠ '"' := by
        rintro rfl
        exact absurd hc (by decide)
      rw [List.count_cons_of_ne hother, ← ih hrest]
      rcases hline with ⟨rfl, rfl⟩ | ⟨rfl, rfl⟩ <;> rfl

/-- Without quotes, lines have the characters of the text that do not end lines. -/
theorem mem_of_cutLines {lineEnd : Option LineEnd} {text line : List Char}
    {lines : List (List Char)} (hquotes : '"' ∉ text)
    (h : cutLines false lineEnd text = some (line, lines)) :
    ∀ line' ∈ line :: lines, ∀ c ∈ line', c ∈ text ∧ c ∉ ['"', '\n', '\r'] := by
  induction text generalizing lineEnd line lines with
  | nil =>
    rw [cutLines] at h
    split at h <;> cases h
    simp
  | cons c text ih =>
    rw [List.mem_cons, not_or] at hquotes
    have hc : c ≠ '"' := Ne.symm hquotes.1
    have hweaken {line' : List Char} (hline : ∀ c ∈ line', c ∈ text ∧ c ∉ ['"', '\n', '\r']) :
        ∀ c' ∈ line', c' ∈ c :: text ∧ c' ∉ ['"', '\n', '\r'] :=
      fun c' hc' ↦ ⟨List.mem_cons_of_mem _ (hline c' hc').1, (hline c' hc').2⟩
    obtain ⟨lineEnd', line', lines', ⟨hrest, ⟨rfl, rfl⟩, hkept⟩ | ⟨hrest, hline, -⟩⟩ :=
      cutLines_cons h
    · rw [if_neg hc] at hrest
      obtain ⟨hfirst, hothers⟩ := List.forall_mem_cons.mp (ih hquotes.2 hrest)
      refine List.forall_mem_cons.mpr ⟨List.forall_mem_cons.mpr ⟨?_, hweaken hfirst⟩,
        fun line' hline' ↦ hweaken (hothers line' hline')⟩
      rw [List.mem_cons (a := c) (b := '"'), not_or]
      exact ⟨List.mem_cons_self, hc, hkept rfl⟩
    · have hall := fun line' hline' ↦ hweaken (ih hquotes.2 hrest line' hline')
      rcases hline with ⟨rfl, rfl⟩ | ⟨rfl, rfl⟩
      · exact List.forall_mem_cons.mpr ⟨by simp, hall⟩
      · exact hall

/-- The fields of a line have fewer quotes than the line, unless it has none. A quote that opens is
counted before. -/
theorem count_cutFields {state : QuoteState} {line : List Char} {field : List Char × Bool}
    {fields : List (List Char × Bool)} (h : cutFields state line = some (field, fields)) :
    ((field :: fields).map Prod.fst).flatten.count '"' < line.count '"' ∨
      (state ≠ .inside ∧ ((field :: fields).map Prod.fst).flatten.count '"' = 0 ∧ '"' ∉ line) := by
  induction line generalizing state field fields with
  | nil =>
    rw [cutFields] at h
    split at h <;> cases h
    exact .inr ⟨‹_›, rfl, List.not_mem_nil⟩
  | cons c line ih =>
    rw [cutFields] at h
    by_cases hquote : c = '"'
    · subst hquote
      rw [List.count_cons_self]
      by_cases hinside : state = .inside
      · rw [if_pos hinside, if_pos rfl] at h
        rcases ih h with hless | ⟨-, hnone, -⟩ <;> omega
      · -- The quote opens a part of the field, or it follows one that closed and stands for itself.
        rw [if_neg hinside, if_pos rfl] at h
        obtain ⟨⟨field', fields'⟩, hrest, heq⟩ := Option.map_eq_some_iff.mp h
        have hless := (ih hrest).resolve_right (fun hnone ↦ hnone.1 rfl)
        cases heq
        left
        simp only [List.map_cons, List.flatten_cons, List.count_append] at hless ⊢
        split
        · rw [List.count_cons_self]
          omega
        · dsimp only
          omega
    · rw [List.count_cons_of_ne hquote]
      by_cases hinside : state = .inside
      · rw [if_pos hinside, if_neg hquote] at h
        obtain ⟨⟨field', fields'⟩, hrest, heq⟩ := Option.map_eq_some_iff.mp h
        have hless := (ih hrest).resolve_right (fun hnone ↦ hnone.1 rfl)
        cases heq
        left
        simpa [List.count_cons_of_ne hquote] using hless
      · rw [if_neg hinside, if_neg hquote] at h
        have hnotMem (hline : '"' ∉ line) : '"' ∉ c :: line :=
          List.not_mem_cons_of_ne_of_not_mem (Ne.symm hquote) hline
        split at h
        · obtain ⟨⟨field', fields'⟩, hrest, heq⟩ := Option.map_eq_some_iff.mp h
          cases heq
          exact (ih hrest).imp id (fun hnone ↦ ⟨hinside, hnone.2.1, hnotMem hnone.2.2⟩)
        · obtain ⟨⟨field', fields'⟩, hrest, heq⟩ := Option.map_eq_some_iff.mp h
          cases heq
          have hcount := ih hrest
          simp only [List.map_cons, List.flatten_cons, List.cons_append,
            List.count_cons_of_ne hquote] at hcount ⊢
          exact hcount.imp id (fun hnone ↦ ⟨hinside, hnone.2.1, hnotMem hnone.2.2⟩)

/-- Without quotes, no field has a special character that its line does not have. -/
theorem mem_of_cutFields {line : List Char} {field : List Char × Bool}
    {fields : List (List Char × Bool)} (hquotes : '"' ∉ line)
    (h : cutFields .outside line = some (field, fields)) :
    ∀ field' ∈ field :: fields, field'.2 = false ∧ ∀ c ∈ field'.1, c ≠ ',' ∧ c ∈ line := by
  induction line generalizing field fields with
  | nil =>
    cases h
    simp
  | cons c line ih =>
    rw [List.mem_cons, not_or] at hquotes
    rw [cutFields, if_neg (by decide), if_neg (Ne.symm hquotes.1)] at h
    have hweaken {field' : List Char × Bool}
        (hfield : field'.2 = false ∧ ∀ c' ∈ field'.1, c' ≠ ',' ∧ c' ∈ line) :
        field'.2 = false ∧ ∀ c' ∈ field'.1, c' ≠ ',' ∧ c' ∈ c :: line :=
      ⟨hfield.1, fun c' hc' ↦ ⟨(hfield.2 c' hc').1, List.mem_cons_of_mem _ (hfield.2 c' hc').2⟩⟩
    split at h
    · obtain ⟨⟨field', fields'⟩, hrest, heq⟩ := Option.map_eq_some_iff.mp h
      cases heq
      refine List.forall_mem_cons.mpr ⟨by simp, fun other hother ↦ ?_⟩
      exact hweaken (ih hquotes.2 hrest other hother)
    · next hcomma =>
      obtain ⟨⟨field', fields'⟩, hrest, heq⟩ := Option.map_eq_some_iff.mp h
      cases heq
      obtain ⟨hfirst, hfields⟩ := List.forall_mem_cons.mp (ih hquotes.2 hrest)
      refine List.forall_mem_cons.mpr ⟨⟨hfirst.1, ?_⟩, fun other hother ↦ ?_⟩
      · refine List.forall_mem_cons.mpr ⟨⟨hcomma, List.mem_cons_self⟩, fun c' hc' ↦ ?_⟩
        exact ⟨(hfirst.2 c' hc').1, List.mem_cons_of_mem _ (hfirst.2 c' hc').2⟩
      · exact hweaken (hfields other hother)

/-- The parts of a text that is read. -/
theorem readRows_eq_some {text : List Char} {rows : List (List (Option (List Char)))}
    (h : readRows text = some rows) : '\x00' ∉ text ∧ ∃ lines, (∃ line rest,
        cutLines false none text = some (line, rest) ∧ lines ⊆ line :: rest ∧
          lines.flatten.count '"' = (line :: rest).flatten.count '"') ∧
      List.Forall₂ (fun line row ↦ readFields line = some row) lines rows := by
  unfold readRows at h
  by_cases hnull : '\x00' ∈ text
  · rw [if_pos hnull] at h
    cases h
  rw [if_neg hnull] at h
  refine ⟨hnull, ?_⟩
  obtain ⟨lines, hlines, hrows⟩ := Option.bind_eq_some_iff.mp h
  refine ⟨lines, ?_, mapM_eq_some_iff.mp hrows⟩
  obtain ⟨⟨line, rest⟩, hcut, rfl⟩ := Option.map_eq_some_iff.mp hlines
  refine ⟨line, rest, hcut, ?_⟩
  dsimp only
  split
  · next hlast =>
    refine ⟨List.dropLast_subset _, ?_⟩
    conv_rhs => rw [← List.dropLast_append_getLast? [] hlast]
    simp
  · exact ⟨List.Subset.refl _, rfl⟩

theorem flatten_fieldValues (fields : List (List Char × Bool)) :
    ((fields.map fieldValue).filterMap id).flatten = (fields.map Prod.fst).flatten := by
  induction fields with
  | nil => rfl
  | cons field fields ih =>
    rw [List.map_cons, List.map_cons, List.flatten_cons, ← ih]
    by_cases hempty : field = ([], false) <;> simp [fieldValue, hempty]

theorem count_readFields {line : List Char} {row : List (Option (List Char))}
    (h : readFields line = some row) :
    (row.filterMap id).flatten.count '"' < line.count '"' ∨
      ((row.filterMap id).flatten.count '"' = 0 ∧ '"' ∉ line) := by
  obtain ⟨⟨field, fields⟩, hcut, rfl⟩ := Option.map_eq_some_iff.mp h
  rw [flatten_fieldValues]
  exact (count_cutFields hcut).imp id And.right

theorem count_lines {lines : List (List Char)} {rows : List (List (Option (List Char)))}
    (h : List.Forall₂ (fun line row ↦ readFields line = some row) lines rows) :
    (valueText rows).count '"' < lines.flatten.count '"' ∨
      ((valueText rows).count '"' = 0 ∧ '"' ∉ lines.flatten) := by
  unfold valueText
  induction h with
  | nil => exact .inr ⟨rfl, List.not_mem_nil⟩
  | @cons line row lines rows hrow _ ih =>
    simp only [List.flatten_cons, List.filterMap_append, List.flatten_append, List.count_append,
      List.mem_append, not_or]
    rcases count_readFields hrow with hless | ⟨hzero, hnone⟩
    · rcases ih with hless' | ⟨hzero', -⟩ <;> omega
    · rcases ih with hless' | ⟨hzero', hnone'⟩
      · omega
      · exact .inr ⟨by omega, hnone, hnone'⟩

/-- Rows that are read with as many quotes as their text have plain fields only. -/
theorem plainField_of_readRows {text : List Char} {rows : List (List (Option (List Char)))}
    (h : readRows text = some rows) (hcount : text.count '"' ≤ (valueText rows).count '"') :
    ∀ row ∈ rows, ∀ field, some field ∈ row → PlainField field := by
  obtain ⟨hnull, lines, ⟨line, rest, hcut, hsub, hquotes⟩, hrows⟩ := readRows_eq_some h
  have hnone : '"' ∉ text := by
    rw [count_cutLines hcut] at hquotes
    rcases count_lines hrows with hless | ⟨-, hnone⟩
    · omega
    · exact List.count_eq_zero.mp (hquotes ▸ List.count_eq_zero.mpr hnone)
  intro row hrow field hfield
  obtain ⟨line', hline', hread⟩ := exists_of_mem_mapM_some (mapM_eq_some_iff.mpr hrows) hrow
  have hplain := mem_of_cutLines hnone hcut line' (hsub hline')
  obtain ⟨⟨first, fields⟩, hfields, rfl⟩ := Option.map_eq_some_iff.mp hread
  obtain ⟨field', hmem, hvalue⟩ := List.mem_map.mp hfield
  obtain ⟨hunquoted, hchars⟩ :=
    mem_of_cutFields (fun hquote ↦ (hplain _ hquote).2 List.mem_cons_self) hfields field' hmem
  unfold fieldValue at hvalue
  split at hvalue
  · cases hvalue
  · next hne =>
    cases hvalue
    refine ⟨fun hempty ↦ hne (Prod.ext hempty hunquoted), fun c hc ↦ ?_⟩
    obtain ⟨hcomma, hline⟩ := hchars c hc
    obtain ⟨htext, hother⟩ := hplain c hline
    simp only [List.mem_cons, List.not_mem_nil, or_false, not_or] at hother ⊢
    refine ⟨hcomma, hother.1, hother.2.1, hother.2.2, ?_⟩
    rintro rfl
    exact hnull htext

/-- The quotes of rows are written into their text, and no others. -/
theorem count_writeRows (rows : List (List (List Char))) :
    (writeRows rows).count '"' = rows.flatten.flatten.count '"' := by
  have hjoined (separator : Char) (hseparator : separator ≠ '"') (xs : List (List Char)) :
      ([separator].intercalate xs).count '"' = xs.flatten.count '"' := by
    induction xs with
    | nil => rfl
    | cons x xs ih =>
      cases xs with
      | nil => simp [List.intercalate]
      | cons y xs =>
        rw [intercalate_cons_cons, List.count_append, List.count_cons_of_ne hseparator, ih]
        simp only [List.flatten_cons, List.count_append]
  unfold writeRows
  rw [hjoined '\n' (by decide)]
  induction rows with
  | nil => rfl
  | cons row rows ih =>
    rw [List.map_cons, List.flatten_cons, List.count_append, ih, hjoined ',' (by decide),
      List.flatten_cons, List.flatten_append, List.count_append]

end Read

end Irrd.Base
