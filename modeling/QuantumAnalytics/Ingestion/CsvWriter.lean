import QuantumAnalytics.Ingestion.CsvReader

/-!
# Writing CSV rows

`csv.writer` with its default dialect. A reader gets back the fields of a row
exactly when each of them fits the field limit, whatever characters they hold.
-/

namespace QuantumAnalytics
namespace CsvWriter

/-! ### The writer -/

section Writer

variable {α : Type} [DecidableEq α] (point : Char → α)

/-- The characters for which `QUOTE_MINIMAL` quotes a field. -/
def isSpecial (value : α) : Bool :=
  decide (value = point ',' ∨ value = point '"' ∨ value = point '\r' ∨ value = point '\n')

/-- A character of a quoted field; a quote is doubled. -/
def quotedPoint (value : α) : List α := if value = point '"' then [value, value] else [value]

/-- A field as it is written. -/
def fieldText (field : List α) : List α :=
  if field.any (isSpecial point) then
    point '"' :: (field.flatMap (quotedPoint point) ++ [point '"'])
  else field

/-- The fields of a row; a row of one empty field is written as quotes. -/
def fieldsText : List (List α) → List α
  | [] => []
  | [[]] => [point '"', point '"']
  | field :: fields => fieldText point field ++ fields.flatMap fun other =>
      point ',' :: fieldText point other

/-- `writer.writerow(fields)`. -/
def rowText (fields : List (List α)) : List α := fieldsText point fields ++ [point '\r', point '\n']

theorem fieldsText_cons_cons (first second : List α) (fields : List (List α)) :
    fieldsText point (first :: second :: fields) =
      fieldText point first ++ point ',' :: (fieldText point second ++
        fields.flatMap fun other => point ',' :: fieldText point other) := by
  rw [fieldsText, List.flatMap_cons, List.cons_append]
  intro _ none
  cases none

/-- What a field holds is written. -/
theorem mem_fieldText
    {value : α}
    {field : List α}
    (inside : value ∈ field) : value ∈ fieldText point field := by
  rw [fieldText]
  split_ifs
  · apply List.mem_cons_of_mem
    apply List.mem_append_left
    refine List.mem_flatMap.mpr ⟨value, inside, ?_⟩
    rw [quotedPoint]
    split_ifs
    · exact List.mem_cons_self
    · exact List.mem_cons_self
  · exact inside

theorem mem_rowText
    {value : α}
    {field : List α}
    {fields : List (List α)}
    (listed : field ∈ fields)
    (inside : value ∈ field) : value ∈ rowText point fields := by
  apply List.mem_append_left
  have written := mem_fieldText point inside
  cases fields using fieldsText.fun_cases with
  | case1 => exact absurd listed List.not_mem_nil
  | case2 =>
      obtain rfl := List.mem_singleton.mp listed
      exact absurd inside List.not_mem_nil
  | case3 first others notEmpty =>
      rw [fieldsText]
      · rcases List.mem_cons.mp listed with rfl | other
        · exact List.mem_append_left _ written
        · exact List.mem_append_right _
            (List.mem_flatMap.mpr ⟨field, other, List.mem_cons_of_mem _ written⟩)
      · exact notEmpty

/-- A field grows to twice its length and the quotes at most. -/
theorem length_fieldText_le (field : List α) :
    (fieldText point field).length ≤ 2 * field.length + 2 := by
  have inner : (field.flatMap (quotedPoint point)).length ≤ 2 * field.length := by
    induction field with
    | nil => exact le_rfl
    | cons value field inductionHypothesis =>
        have : (quotedPoint point value).length ≤ 2 := by
          rw [quotedPoint]
          split_ifs
          · exact le_rfl
          · exact Nat.le_succ 1
        rw [List.flatMap_cons, List.length_append, List.length_cons]
        omega
  rw [fieldText]
  split_ifs
  · rw [List.length_cons, List.length_append, List.length_singleton]
    omega
  · omega

theorem length_rowText_le (fields : List (List α)) :
    (rowText point fields).length ≤ (fields.map fun field => 2 * field.length + 3).sum + 2 := by
  have rest : ∀ fields : List (List α),
      (fields.flatMap fun other => point ',' :: fieldText point other).length ≤
        (fields.map fun field => 2 * field.length + 3).sum := by
    intro fields
    induction fields with
    | nil => exact le_rfl
    | cons field fields inductionHypothesis =>
        have := length_fieldText_le point field
        rw [List.flatMap_cons, List.length_append, List.length_cons, List.map_cons, List.sum_cons]
        omega
  rw [rowText, List.length_append]
  apply Nat.add_le_add_right
  cases fields using fieldsText.fun_cases with
  | case1 => exact le_rfl
  | case2 => exact Nat.le_succ 2
  | case3 first others notEmpty =>
      rw [fieldsText, List.length_append, List.map_cons, List.sum_cons]
      · have := length_fieldText_le point first
        have := rest others
        omega
      · exact notEmpty

variable {point} (injective : Function.Injective point)

include injective

theorem fieldText_map (field : List Char) :
    fieldText point (field.map point) = (fieldText id field).map point := by
  have special : ∀ c, isSpecial point (point c) = isSpecial id c := by
    intro c
    simp only [isSpecial, injective.eq_iff, id_eq]
  have quoted : ∀ c, quotedPoint point (point c) = (quotedPoint id c).map point := by
    intro c
    simp only [quotedPoint, injective.eq_iff, id_eq]
    split_ifs
    · rfl
    · rfl
  have same : (field.map point).any (isSpecial point) = field.any (isSpecial id) := by
    rw [List.any_map]
    exact congrArg field.any (funext special)
  rw [fieldText, fieldText, same]
  split_ifs
  · simp only [List.flatMap_map, quoted, List.map_cons, List.map_append, List.map_flatMap, id_eq,
      List.map_nil]
  · rfl

/-- The writer does not depend on how characters are kept. -/
theorem rowText_map (fields : List (List Char)) :
    rowText point (fields.map (List.map point)) = (rowText id fields).map point := by
  have inner : fieldsText point (fields.map (List.map point)) =
      (fieldsText id fields).map point := by
    cases fields using fieldsText.fun_cases with
    | case1 => rfl
    | case2 => rfl
    | case3 first others notEmpty =>
        rw [List.map_cons, fieldsText, fieldsText, fieldText_map injective]
        · simp only [List.flatMap_map, fieldText_map injective, List.map_append, List.map_flatMap,
            List.map_cons, id_eq]
        · exact notEmpty
        · intro isEmpty none
          exact notEmpty (List.map_eq_nil_iff.mp isEmpty) (List.map_eq_nil_iff.mp none)
  rw [rowText, rowText, inner, List.map_append]
  rfl

end Writer

end CsvWriter

namespace CsvParser

open CsvWriter

variable {field text rest : List Char} {fields : List String} {parser next : CsvParser} {c : Char}

/-! ### Steps of the reader -/

theorem exists_csvLines_eq_cons
    (nonempty : text ≠ []) : ∃ line lines, csvLines text = line :: lines := by
  induction text using csvLines.induct with
  | case1 => exact absurd rfl nonempty
  | case2 => exact ⟨_, _, rfl⟩
  | case3 c text _ isEnd => exact ⟨[c], csvLines text, by rw [csvLines, if_pos isEnd]; assumption⟩
  | case4 c text notReturn notEnd empty _ =>
      exact ⟨[c], [], by rw [csvLines, if_neg notEnd, empty]; exact notReturn⟩
  | case5 c text notReturn notEnd line lines split _ =>
      exact ⟨c :: line, lines, by rw [csvLines, if_neg notEnd, split]; exact notReturn⟩

/-- A character belongs to the line of the text after it, or it is a line end on a line of
its own. -/
theorem csvLines_cons_cases
    (c : Char)
    (nonempty : rest ≠ []) :
    (∃ line lines, csvLines rest = line :: lines ∧ csvLines (c :: rest) = (c :: line) :: lines) ∨
      (c = '\n' ∨ c = '\r') ∧ csvLines (c :: rest) = [c] :: csvLines rest := by
  by_cases both : c = '\r' ∧ rest.head? = some '\n'
  · obtain ⟨rfl, isFeed⟩ := both
    obtain ⟨text, rfl⟩ := List.head?_eq_some_iff.mp isFeed
    have feed : csvLines ('\n' :: text) = ['\n'] :: csvLines text := by
      rw [csvLines, if_pos (.inl rfl)]
      exact fun _ isReturn => absurd isReturn (by decide)
    exact .inl ⟨['\n'], csvLines text, feed, rfl⟩
  · have single : ∀ text, c = '\r' → rest = '\n' :: text → False := by
      rintro text rfl rfl
      exact both ⟨rfl, rfl⟩
    by_cases isEnd : c = '\n' ∨ c = '\r'
    · exact .inr ⟨isEnd, by rw [csvLines, if_pos isEnd]; exact single⟩
    · obtain ⟨line, lines, split⟩ := exists_csvLines_eq_cons nonempty
      exact .inl ⟨line, lines, split, by rw [csvLines, if_neg isEnd, split]; exact single⟩

theorem nextRecord_line
    {line : List Char}
    {lines : List (List Char)}
    (step : parser.processChar (some c) = some next) :
    parser.nextRecord ((c :: line) :: lines) = next.nextRecord (line :: lines) := by
  rw [nextRecord, nextRecord, processLine, List.foldlM_cons, step]
  rfl

theorem nextRecord_line_error
    {line : List Char}
    {lines : List (List Char)}
    (step : parser.processChar (some c) = none) :
    parser.nextRecord ((c :: line) :: lines) = .error () := by
  rw [nextRecord, processLine, List.foldlM_cons, step]
  rfl

/-- In the middle of a line a character is read before the rest of the text. -/
theorem nextRecord_cons
    (inside : c ≠ '\n' ∧ c ≠ '\r')
    (nonempty : rest ≠ [])
    (step : parser.processChar (some c) = some next) :
    parser.nextRecord (csvLines (c :: rest)) = next.nextRecord (csvLines rest) := by
  rcases csvLines_cons_cases c nonempty with ⟨line, lines, split, whole⟩ | ⟨isEnd, -⟩
  · rw [whole, split, nextRecord_line step]
  · exact absurd isEnd (not_or.mpr inside)

/-- A character that does not fit its field is an error. -/
theorem nextRecord_cons_error
    (nonempty : rest ≠ [])
    (step : parser.processChar (some c) = none) :
    parser.nextRecord (csvLines (c :: rest)) = .error () := by
  rcases csvLines_cons_cases c nonempty with ⟨line, lines, -, whole⟩ | ⟨-, whole⟩
  · rw [whole, nextRecord_line_error step]
  · rw [whole, nextRecord_line_error step]

/-- In quotes a character is read before the rest of the text, also when it ends a line. -/
theorem nextRecord_quoted_cons
    (nonempty : rest ≠ [])
    (step : processChar ⟨.inQuotedField, field, fields⟩ (some c) =
      some ⟨.inQuotedField, field ++ [c], fields⟩) :
    nextRecord ⟨.inQuotedField, field, fields⟩ (csvLines (c :: rest)) =
      nextRecord ⟨.inQuotedField, field ++ [c], fields⟩ (csvLines rest) := by
  rcases csvLines_cons_cases c nonempty with ⟨line, lines, split, whole⟩ | ⟨-, whole⟩
  · rw [whole, split, nextRecord_line step]
  · rw [whole, nextRecord_line step]
    rfl

/-! ### Fields -/

theorem addChar_of_lt
    {state : CsvState}
    (room : parser.field.length < fieldLimit)
    (c : Char) :
    parser.addChar state c = some ⟨state, parser.field ++ [c], parser.fields⟩ := by
  rw [addChar, if_neg (not_le.mpr room)]

theorem addChar_of_le
    {state : CsvState}
    (full : fieldLimit ≤ parser.field.length)
    (c : Char) : parser.addChar state c = none := by
  rw [addChar, if_pos full]

theorem processChar_inQuotedField
    (ordinary : c ≠ '"') :
    processChar ⟨.inQuotedField, field, fields⟩ (some c) =
      addChar ⟨.inQuotedField, field, fields⟩ .inQuotedField c := by
  simp [processChar]

/-- A character of a quoted field. -/
theorem nextRecord_quotedPoint
    (nonempty : rest ≠ [])
    (c : Char) :
    nextRecord ⟨.inQuotedField, field, fields⟩ (csvLines (quotedPoint id c ++ rest)) =
      if field.length < fieldLimit then
        nextRecord ⟨.inQuotedField, field ++ [c], fields⟩ (csvLines rest)
      else .error () := by
  by_cases isQuote : c = '"'
  · subst isQuote
    have opened : nextRecord ⟨.inQuotedField, field, fields⟩ (csvLines ('"' :: '"' :: rest)) =
        nextRecord ⟨.quoteInQuotedField, field, fields⟩ (csvLines ('"' :: rest)) :=
      nextRecord_cons (by decide) (List.cons_ne_nil _ _) rfl
    have doubled : quotedPoint id '"' ++ rest = '"' :: '"' :: rest := rfl
    rw [doubled, opened]
    split_ifs with room
    · exact nextRecord_cons (by decide) nonempty (addChar_of_lt room '"')
    · exact nextRecord_cons_error nonempty (addChar_of_le (not_lt.mp room) '"')
  · have single : quotedPoint id c = [c] := if_neg isQuote
    rw [single, List.singleton_append]
    split_ifs with room
    · exact nextRecord_quoted_cons nonempty
        ((processChar_inQuotedField isQuote).trans (addChar_of_lt room c))
    · exact nextRecord_cons_error nonempty
        ((processChar_inQuotedField isQuote).trans (addChar_of_le (not_lt.mp room) c))

/-- The inside of a quoted field and its closing quote. -/
theorem nextRecord_quoted
    (nonempty : rest ≠ [])
    (room : field.length ≤ fieldLimit) :
    nextRecord ⟨.inQuotedField, field, fields⟩
        (csvLines (text.flatMap (quotedPoint id) ++ '"' :: rest)) =
      if field.length + text.length ≤ fieldLimit then
        nextRecord ⟨.quoteInQuotedField, field ++ text, fields⟩ (csvLines rest)
      else .error () := by
  induction text generalizing field with
  | nil =>
      rw [List.flatMap_nil, List.nil_append, List.length_nil, Nat.add_zero, if_pos room,
        List.append_nil]
      exact nextRecord_cons (by decide) nonempty rfl
  | cons c text inductionHypothesis =>
      rw [List.flatMap_cons, List.append_assoc,
        nextRecord_quotedPoint (by simp) c, List.length_cons]
      by_cases small : field.length < fieldLimit
      · rw [if_pos small, inductionHypothesis (by rwa [List.length_append]), List.length_append,
          List.length_singleton, List.append_assoc, List.singleton_append, Nat.add_assoc,
          Nat.add_comm 1]
      · rw [if_neg small, if_neg (by omega)]

theorem not_special_iff :
    isSpecial id c = false ↔ c ≠ ',' ∧ c ≠ '"' ∧ c ≠ '\r' ∧ c ≠ '\n' := by
  rw [isSpecial, decide_eq_false_iff_not, not_or, not_or, not_or]
  rfl

/-- A character that is not special is read into an open field. -/
theorem processChar_inField
    (ordinary : isSpecial id c = false) :
    processChar ⟨.inField, field, fields⟩ (some c) =
      addChar ⟨.inField, field, fields⟩ .inField c := by
  obtain ⟨notComma, -, notReturn, notFeed⟩ := not_special_iff.mp ordinary
  simp [processChar, endField?]

/-- A character that is not special opens a field. -/
theorem processChar_start
    {state : CsvState}
    (starts : state = .startRecord ∨ state = .startField)
    (ordinary : isSpecial id c = false) :
    processChar ⟨state, field, fields⟩ (some c) =
      addChar ⟨state, field, fields⟩ .inField c := by
  obtain ⟨notComma, notQuote, notReturn, notFeed⟩ := not_special_iff.mp ordinary
  rcases starts with rfl | rfl
  · simp [processChar, startField, endField?]
  · simp [processChar, startField, endField?]

/-- The rest of a field without special characters. -/
theorem nextRecord_plain
    (nonempty : rest ≠ [])
    (ordinary : ∀ c ∈ text, isSpecial id c = false)
    (room : field.length ≤ fieldLimit) :
    nextRecord ⟨.inField, field, fields⟩ (csvLines (text ++ rest)) =
      if field.length + text.length ≤ fieldLimit then
        nextRecord ⟨.inField, field ++ text, fields⟩ (csvLines rest)
      else .error () := by
  induction text generalizing field with
  | nil =>
      rw [List.nil_append, List.length_nil, Nat.add_zero, if_pos room, List.append_nil]
  | cons c text inductionHypothesis =>
      rw [List.forall_mem_cons] at ordinary
      have more : text ++ rest ≠ [] := by simp [nonempty]
      obtain ⟨-, -, notReturn, notFeed⟩ := not_special_iff.mp ordinary.1
      rw [List.cons_append, List.length_cons]
      by_cases small : field.length < fieldLimit
      · rw [nextRecord_cons ⟨notFeed, notReturn⟩ more
            ((processChar_inField ordinary.1).trans (addChar_of_lt small c)),
          inductionHypothesis ordinary.2 (by rwa [List.length_append]), List.length_append,
          List.length_singleton, List.append_assoc, List.singleton_append, Nat.add_assoc,
          Nat.add_comm 1]
      · rw [nextRecord_cons_error more
            ((processChar_inField ordinary.1).trans (addChar_of_le (not_lt.mp small) c)),
          if_neg (by omega)]

/-- A field is read up to its end when it fits the limit. -/
theorem nextRecord_field
    {state : CsvState}
    (starts : state = .startRecord ∨ state = .startField)
    (nonempty : rest ≠ []) :
    ∃ last, (last = state ∨ last = .inField ∨ last = .quoteInQuotedField) ∧
      nextRecord ⟨state, [], fields⟩ (csvLines (fieldText id text ++ rest)) =
        if text.length ≤ fieldLimit then nextRecord ⟨last, text, fields⟩ (csvLines rest)
        else .error () := by
  by_cases special : text.any (isSpecial id) = true
  · have opened : processChar ⟨state, [], fields⟩ (some '"') =
        some ⟨.inQuotedField, [], fields⟩ := by
      rcases starts with rfl | rfl
      · rfl
      · rfl
    have inside := @nextRecord_quoted [] text rest fields nonempty (Nat.zero_le _)
    rw [List.length_nil, Nat.zero_add, List.nil_append] at inside
    refine ⟨.quoteInQuotedField, .inr (.inr rfl), ?_⟩
    rw [fieldText, if_pos special, List.cons_append, List.append_assoc, List.singleton_append,
      id_eq, nextRecord_cons (by decide) (by simp) opened, inside]
  · have ordinary : ∀ c ∈ text, isSpecial id c = false := by
      simpa using special
    rw [fieldText, if_neg special]
    cases text with
    | nil => exact ⟨state, .inl rfl, rfl⟩
    | cons c text =>
        rw [List.forall_mem_cons] at ordinary
        obtain ⟨-, -, notReturn, notFeed⟩ := not_special_iff.mp ordinary.1
        have room : (CsvParser.mk state [] fields).field.length < fieldLimit :=
          show 0 < fieldLimit by decide
        have opened : processChar ⟨state, [], fields⟩ (some c) = some ⟨.inField, [c], fields⟩ :=
          (processChar_start starts ordinary.1).trans (addChar_of_lt room c)
        have inside := @nextRecord_plain [c] text rest fields nonempty ordinary.2
          (show 1 ≤ fieldLimit by decide)
        rw [List.singleton_append, List.length_singleton, Nat.add_comm] at inside
        refine ⟨.inField, .inr (.inl rfl), ?_⟩
        rw [List.cons_append, nextRecord_cons ⟨notFeed, notReturn⟩ (by simp [nonempty]) opened,
          inside, List.length_cons]

/-! ### Rows -/

/-- A comma ends a field. -/
theorem nextRecord_comma
    {state : CsvState}
    (nonempty : rest ≠ [])
    (reads : (state = .startRecord ∨ state = .startField) ∨ state = .inField ∨
      state = .quoteInQuotedField) :
    nextRecord ⟨state, field, fields⟩ (csvLines (',' :: rest)) =
      nextRecord ⟨.startField, [], fields ++ [String.ofList field]⟩ (csvLines rest) := by
  apply nextRecord_cons (by decide) nonempty
  rcases reads with (rfl | rfl) | rfl | rfl
  · rfl
  · rfl
  · rfl
  · rfl

/-- The end of a row. -/
theorem nextRecord_end
    {state : CsvState}
    (reads : state = .startField ∨ state = .inField ∨ state = .quoteInQuotedField) :
    nextRecord ⟨state, field, fields⟩ (csvLines ('\r' :: '\n' :: rest)) =
      .ok (some (fields ++ [String.ofList field], csvLines rest)) := by
  rcases reads with rfl | rfl | rfl
  · rfl
  · rfl
  · rfl

/-- The fields of a row after the first one. -/
theorem nextRecord_fields
    (first : List Char)
    (others : List (List Char)) :
    nextRecord ⟨.startField, [], fields⟩ (csvLines (fieldText id first ++
        ((others.flatMap fun other => ',' :: fieldText id other) ++ '\r' :: '\n' :: rest))) =
      if ∀ field ∈ first :: others, field.length ≤ fieldLimit then
        .ok (some (fields ++ (first :: others).map String.ofList, csvLines rest))
      else .error () := by
  induction others generalizing first fields with
  | nil =>
      rw [List.flatMap_nil, List.nil_append]
      obtain ⟨last, reads, read⟩ := @nextRecord_field first ('\r' :: '\n' :: rest) fields
        .startField (.inr rfl) (List.cons_ne_nil _ _)
      rw [read, nextRecord_end reads]
      simp only [List.forall_mem_singleton]
      rfl
  | cons second others inductionHypothesis =>
      rw [List.flatMap_cons, List.cons_append, List.cons_append, List.append_assoc]
      obtain ⟨last, reads, read⟩ := @nextRecord_field first (',' :: (fieldText id second ++
        ((others.flatMap fun other => ',' :: fieldText id other) ++ '\r' :: '\n' :: rest))) fields
        .startField (.inr rfl) (List.cons_ne_nil _ _)
      rw [read, nextRecord_comma (by simp) (reads.imp_left .inr), inductionHypothesis]
      by_cases fits : first.length ≤ fieldLimit
      · rw [if_pos fits]
        simp only [List.forall_mem_cons, fits, true_and, List.map_cons, List.append_assoc,
          List.singleton_append]
      · rw [if_neg fits, if_neg fun all => fits (all first List.mem_cons_self)]

/-- A row of two fields or more is read as it was written exactly when each of them fits the
limit. -/
theorem nextRecord_rowText
    (first second : List Char)
    (others : List (List Char)) :
    start.nextRecord (csvLines (rowText id (first :: second :: others) ++ rest)) =
      if ∀ field ∈ first :: second :: others, field.length ≤ fieldLimit then
        .ok (some ((first :: second :: others).map String.ofList, csvLines rest))
      else .error () := by
  have whole : rowText id (first :: second :: others) ++ rest =
      fieldText id first ++ ',' :: (fieldText id second ++
        ((others.flatMap fun other => ',' :: fieldText id other) ++ '\r' :: '\n' :: rest)) := by
    simp [rowText, fieldsText_cons_cons]
  obtain ⟨last, reads, read⟩ := @nextRecord_field first (',' :: (fieldText id second ++
    ((others.flatMap fun other => ',' :: fieldText id other) ++ '\r' :: '\n' :: rest))) []
    .startRecord (.inl rfl) (List.cons_ne_nil _ _)
  rw [whole, start, read, nextRecord_comma (by simp) (reads.imp_left .inl), nextRecord_fields]
  by_cases fits : first.length ≤ fieldLimit
  · rw [if_pos fits]
    simp only [List.forall_mem_cons, fits, true_and, List.map_cons, List.nil_append,
      List.singleton_append]
  · rw [if_neg fits, if_neg fun all => fits (all first List.mem_cons_self)]

theorem length_le_of_nextRecord
    {lines others : List (List Char)}
    (read : parser.nextRecord lines = .ok (some (fields, others))) :
    others.length ≤ lines.length := by
  induction lines generalizing parser with
  | nil =>
      rw [nextRecord] at read
      split_ifs at read
      · cases read
        exact le_rfl
      · cases read
  | cons line lines inductionHypothesis =>
      rw [nextRecord] at read
      split at read
      next => cases read
      next =>
        split_ifs at read
        · cases read
          exact Nat.le_succ _
        · exact (inductionHypothesis read).trans (Nat.le_succ _)

/-- A record takes at least one line. -/
theorem length_lt_of_nextRecord
    {line : List Char}
    {lines others : List (List Char)}
    (read : parser.nextRecord (line :: lines) = .ok (some (fields, others))) :
    others.length < (line :: lines).length := by
  rw [nextRecord] at read
  split at read
  next => cases read
  next =>
    split_ifs at read
    · cases read
      exact Nat.lt_succ_self _
    · exact Nat.lt_succ_of_le (length_le_of_nextRecord read)

end CsvParser
end QuantumAnalytics
