import Mathlib.Data.List.Basic
import TripWatch.Csv.Records

/-!
# Written records

A text of comma-separated records with every field in quotes, a quote in a field written twice and
each line ended in one of two ways, is read back as the records that it was written from. What a
field holds does not matter: between its quotes every byte but a quote belongs to it, commas and
line ends included.

Records are read by bytes and written as characters. The two agree on where the quotes are, since
the byte of a quote is part of no other character (`ne_quote_of_mem_utf8EncodeChar`).

## What comes after

A reader that has come to the end of a line is as it was in front of the first one, but for the
records that it has got. So lines that are complete are read in the same way whatever comes after
them (`records_append`), be it well written or not.

## Main definitions

* `utf8` — the bytes of a text
* `quotedField`, `Line`, `Line.chars`, `fileChars` — fields, lines and files as they are written

## Main results

* `State.records_foldl_step` — the records that a reader has got stay
* `records_append` — complete lines are read first
* `records_fileChars` — what was written is read back
-/

namespace TripWatch.Csv

/-! ### Bytes -/

/-- The bytes of a text. -/
def utf8 (cs : List Char) : List UInt8 := cs.flatMap String.utf8EncodeChar

theorem toList_loop (bytes : ByteArray) (i : Nat) (done : List UInt8) :
    ByteArray.toList.loop bytes i done = done.reverse ++ bytes.data.toList.drop i := by
  fun_induction ByteArray.toList.loop bytes i done with
  | case1 i done h ih =>
    have hi : i < bytes.data.toList.length := by simpa using h
    rw [ih, List.drop_eq_getElem_cons hi]
    simp [ByteArray.get!, h]
  | case2 i done h =>
    rw [List.drop_eq_nil_of_le (by simpa using Nat.le_of_not_lt h), List.append_nil]

theorem toList_toUTF8 (cs : List Char) : (String.ofList cs).toUTF8.toList = utf8 cs := by
  rw [ByteArray.toList, toList_loop]
  exact List.toList_data_toByteArray

/-- The byte of a quote is part of no other character. -/
theorem ne_quote_of_mem_utf8EncodeChar {c : Char} (hc : c ≠ '"') {b : UInt8}
    (hb : b ∈ String.utf8EncodeChar c) : b ≠ quote := by
  rintro rfl
  have hval : c.val.toNat ≠ 34 := fun h => hc (Char.ext (UInt32.toNat.inj h))
  have hbyte : ∀ n : Nat, quote = UInt8.ofNat n → n % 256 = 34 := fun n h =>
    (congrArg UInt8.toNat h).symm
  unfold String.utf8EncodeChar at hb
  simp only at hb
  split_ifs at hb <;> simp only [List.mem_cons, List.not_mem_nil, or_false] at hb
  · have := hbyte _ hb
    omega
  · rcases hb with hb | hb <;> have := hbyte _ hb <;> omega
  · rcases hb with hb | hb | hb <;> have := hbyte _ hb <;> omega
  · rcases hb with hb | hb | hb | hb <;> have := hbyte _ hb <;> omega

/-! ### Writing -/

/-- A text with its quotes written twice. -/
def doubled (cs : List Char) : List Char :=
  cs.flatMap fun c => if c = '"' then ['"', '"'] else [c]

/-- A field in quotes. -/
def quotedField (cs : List Char) : List Char := '"' :: doubled cs ++ ['"']

/-- How a line ends. -/
inductive LineEnd where
  | lineFeed
  | carriageReturnLineFeed

/-- The characters of a line end. -/
def LineEnd.chars : LineEnd → List Char
  | lineFeed => ['\n']
  | carriageReturnLineFeed => ['\r', '\n']

/-- The fields of a record with commas between them. -/
def joined : List (List Char) → List Char
  | [] => []
  | [field] => quotedField field
  | field :: rest => quotedField field ++ ',' :: joined rest

/-- A record and how its line ends. -/
structure Line where
  /-- The fields. -/
  fields : List (List Char)
  /-- The end of the line. -/
  ending : LineEnd

namespace Line

/-- A line as it is written. -/
def chars (l : Line) : List Char := joined l.fields ++ l.ending.chars

/-- What is to be read. -/
def record (l : Line) : List (List UInt8) := l.fields.map utf8

end Line

/-- A file as it is written; the last line need not be closed. -/
def fileChars (closed : Bool) : List Line → List Char
  | [] => []
  | [last] => joined last.fields ++ if closed then last.ending.chars else []
  | l :: rest => l.chars ++ fileChars closed rest

@[simp] theorem utf8_nil : utf8 [] = [] := rfl

@[simp] theorem utf8_cons (c : Char) (cs : List Char) :
    utf8 (c :: cs) = String.utf8EncodeChar c ++ utf8 cs := List.flatMap_cons

@[simp] theorem utf8_append (cs cs' : List Char) : utf8 (cs ++ cs') = utf8 cs ++ utf8 cs' :=
  List.flatMap_append

theorem doubled_cons (c : Char) (cs : List Char) :
    doubled (c :: cs) = (if c = '"' then ['"', '"'] else [c]) ++ doubled cs := List.flatMap_cons

/-! ### Reading -/

namespace State

variable {field : List UInt8} {fields : List (List UInt8)} {records : List (List (List UInt8))}

/-- In a quoted field every byte but a quote belongs to it. -/
theorem foldl_step_of_ne_quote {bytes : List UInt8} (h : ∀ b ∈ bytes, b ≠ quote) :
    bytes.foldl step ⟨.quoted, field, fields, records⟩ =
      ⟨.quoted, bytes.reverse ++ field, fields, records⟩ := by
  induction bytes generalizing field with
  | nil => rfl
  | cons b rest ih =>
    rw [List.forall_mem_cons] at h
    have hstep : step ⟨.quoted, field, fields, records⟩ b =
        ⟨.quoted, b :: field, fields, records⟩ := by
      simp [step, push, h.1]
    rw [List.foldl_cons, hstep, ih h.2, List.reverse_cons, List.append_assoc, List.singleton_append]

theorem foldl_step_doubled (cs : List Char) :
    (utf8 (doubled cs)).foldl step ⟨.quoted, field, fields, records⟩ =
      ⟨.quoted, (utf8 cs).reverse ++ field, fields, records⟩ := by
  induction cs generalizing field with
  | nil => rfl
  | cons c rest ih =>
    rw [doubled_cons, utf8_append, List.foldl_append]
    have hchar : (utf8 (if c = '"' then ['"', '"'] else [c])).foldl step
        ⟨.quoted, field, fields, records⟩ =
        ⟨.quoted, (String.utf8EncodeChar c).reverse ++ field, fields, records⟩ := by
      by_cases hc : c = '"'
      · subst hc
        rfl
      · rw [if_neg hc, utf8_cons, utf8_nil, List.append_nil]
        exact foldl_step_of_ne_quote fun b hb => ne_quote_of_mem_utf8EncodeChar hc hb
    rw [hchar, ih, utf8_cons, List.reverse_append, List.append_assoc]

/-- **A quoted field is read up to its last quote**, which might still be the first one of two. -/
theorem foldl_step_quotedField {place : Place}
    (hplace : place = .beforeRecord ∨ place = .beforeField) (cs : List Char) :
    (utf8 (quotedField cs)).foldl step ⟨place, [], fields, records⟩ =
      ⟨.afterQuote, (utf8 cs).reverse, fields, records⟩ := by
  have hopen : step ⟨place, [], fields, records⟩ quote = ⟨.quoted, [], fields, records⟩ := by
    rcases hplace with rfl | rfl <;> rfl
  have hquote : String.utf8EncodeChar '"' = [quote] := rfl
  rw [quotedField, List.cons_append, utf8_cons, utf8_append, hquote, List.singleton_append,
    List.foldl_cons, hopen, List.foldl_append, foldl_step_doubled, List.append_nil]
  rfl

/-- After the fields of a record its end is still to come. -/
theorem foldl_step_joined {place : Place} (hplace : place = .beforeRecord ∨ place = .beforeField)
    {written : List (List Char)} (hne : written ≠ []) (fields : List (List UInt8))
    (records : List (List (List UInt8))) :
    ((utf8 (joined written)).foldl step ⟨place, [], fields, records⟩).place = .afterQuote ∧
      ((utf8 (joined written)).foldl step ⟨place, [], fields, records⟩).endRecord =
        ⟨.beforeRecord, [], [], (fields.reverse ++ written.map utf8) :: records⟩ := by
  induction written generalizing place fields with
  | nil => exact absurd rfl hne
  | cons cs rest ih =>
    cases rest with
    | nil =>
      rw [joined, foldl_step_quotedField hplace]
      simp [endRecord]
    | cons cs' rest =>
      have hcomma : step ⟨.afterQuote, (utf8 cs).reverse, fields, records⟩ comma =
          ⟨.beforeField, [], utf8 cs :: fields, records⟩ := by
        simp [step, unquoted, endField, comma, quote]
      have hbyte : String.utf8EncodeChar ',' = [comma] := rfl
      rw [joined, utf8_append, utf8_cons, hbyte, List.foldl_append, foldl_step_quotedField hplace,
        List.singleton_append, List.foldl_cons, hcomma]
      · simpa using ih (.inr rfl) (List.cons_ne_nil cs' rest) (utf8 cs :: fields)
      · exact List.cons_ne_nil cs' rest

/-- The end of a line ends a record whose last field was in quotes. -/
theorem foldl_step_ending {s : State} (h : s.place = .afterQuote) (ending : LineEnd) :
    (utf8 ending.chars).foldl step s = s.endRecord := by
  have hend : ∀ b, isLineEnd b = true → b ≠ quote → b ≠ comma → step s b = s.endRecord := by
    intro b hb hquote hcomma
    simp [step, h, unquoted, hb, hquote, hcomma]
  cases ending with
  | lineFeed => exact hend 10 rfl (by decide) (by decide)
  | carriageReturnLineFeed =>
    have hreturn := hend 13 rfl (by decide) (by decide)
    change step (step s 13) 10 = s.endRecord
    rw [hreturn]
    rfl

/-- **A line is read as its record.** -/
theorem foldl_step_chars {l : Line} (hne : l.fields ≠ []) :
    (utf8 l.chars).foldl step ⟨.beforeRecord, [], [], records⟩ =
      ⟨.beforeRecord, [], [], l.record :: records⟩ := by
  obtain ⟨hplace, hend⟩ := foldl_step_joined (.inl rfl) hne [] records
  rw [Line.chars, utf8_append, List.foldl_append, foldl_step_ending hplace, hend]
  rfl

theorem foldl_step_lines {lines : List Line} (hne : ∀ l ∈ lines, l.fields ≠ []) :
    (utf8 (lines.flatMap Line.chars)).foldl step ⟨.beforeRecord, [], [], records⟩ =
      ⟨.beforeRecord, [], [], (lines.map Line.record).reverse ++ records⟩ := by
  induction lines generalizing records with
  | nil => rfl
  | cons l rest ih =>
    rw [List.forall_mem_cons] at hne
    rw [List.flatMap_cons, utf8_append, List.foldl_append, foldl_step_chars hne.1, ih hne.2,
      List.map_cons, List.reverse_cons, List.append_assoc, List.singleton_append]

/-! What was read before is not looked at again. -/

/-- What was read, with records that were read before. -/
def after (older : List (List (List UInt8))) (s : State) : State :=
  { s with records := s.records ++ older }

theorem step_after (older : List (List (List UInt8))) (s : State) (b : UInt8) :
    (s.after older).step b = (s.step b).after older := by
  obtain ⟨place, field, fields, records⟩ := s
  cases place <;>
    simp only [step, begin, unquoted, push, endField, endRecord, after] <;>
    split_ifs <;> rfl

/-- **The records that a reader has got stay**, and what comes is read as if there were none. -/
theorem records_foldl_step (older : List (List (List UInt8))) (s : State) (bytes : List UInt8) :
    (bytes.foldl step (s.after older)).finish = older.reverse ++ (bytes.foldl step s).finish := by
  induction bytes generalizing s with
  | nil =>
    obtain ⟨place, field, fields, records⟩ := s
    cases place <;> simp [finish, after, endRecord]
  | cons b rest ih => rw [List.foldl_cons, List.foldl_cons, step_after, ih]

end State

/-! ### Files -/

/-- What is written begins with a quote, and so with no mark. -/
theorem exists_utf8_joined {written : List (List Char)} (hne : written ≠ []) :
    ∃ rest, utf8 (joined written) = quote :: rest := by
  match written with
  | [] => exact absurd rfl hne
  | [cs] => exact ⟨_, rfl⟩
  | cs :: cs' :: rest => exact ⟨_, rfl⟩

theorem records_of_quote {bytes : List UInt8} (h : ∃ rest, bytes = quote :: rest) :
    records bytes = (bytes.foldl State.step .start).finish := by
  obtain ⟨rest, rfl⟩ := h
  rfl

variable {lines : List Line}

/-- The records of a text that begins with complete lines, of which there may be none. -/
theorem records_lines_append (hne : ∀ l ∈ lines, l.fields ≠ []) {tail : List UInt8}
    (h : ∃ rest, utf8 (lines.flatMap Line.chars) ++ tail = quote :: rest) :
    records (utf8 (lines.flatMap Line.chars) ++ tail) =
      lines.map Line.record ++ (tail.foldl State.step .start).finish := by
  have hlines : (utf8 (lines.flatMap Line.chars)).foldl State.step .start =
      State.after (lines.map Line.record).reverse .start :=
    (State.foldl_step_lines hne).trans (by simp [State.after, State.start])
  rw [records_of_quote h, List.foldl_append, hlines, State.records_foldl_step, List.reverse_reverse]

/-- **Complete lines are read first**, whatever comes after them. -/
theorem records_append (hlines : lines ≠ []) (hne : ∀ l ∈ lines, l.fields ≠ [])
    (tail : List UInt8) :
    records (utf8 (lines.flatMap Line.chars) ++ tail) =
      lines.map Line.record ++ (tail.foldl State.step .start).finish := by
  refine records_lines_append hne ?_
  obtain ⟨first, rest, rfl⟩ := List.exists_cons_of_ne_nil hlines
  obtain ⟨bytes, hbytes⟩ := exists_utf8_joined (List.forall_mem_cons.mp hne).1
  simp [Line.chars, hbytes]

theorem fileChars_eq_flatMap (lines : List Line) :
    fileChars true lines = lines.flatMap Line.chars := by
  fun_induction fileChars true lines with
  | case1 => rfl
  | case2 last => simp [Line.chars]
  | case3 l rest _ ih => rw [ih, List.flatMap_cons]

theorem fileChars_concat (lines : List Line) (last : Line) :
    fileChars false (lines ++ [last]) = lines.flatMap Line.chars ++ joined last.fields := by
  induction lines with
  | nil => simp [fileChars]
  | cons l rest ih =>
    rw [List.cons_append, fileChars, ih, List.flatMap_cons, List.append_assoc]
    simp

/-- **What was written is read back**, whether or not the last line is closed. -/
theorem records_fileChars (closed : Bool) (hlines : lines ≠ [])
    (hne : ∀ l ∈ lines, l.fields ≠ []) :
    records (utf8 (fileChars closed lines)) = lines.map Line.record := by
  cases closed with
  | true =>
    rw [fileChars_eq_flatMap, ← List.append_nil (utf8 _), records_append hlines hne]
    exact List.append_nil _
  | false =>
    obtain ⟨front, last, rfl⟩ := (List.eq_nil_or_concat lines).resolve_left hlines
    have hlast : last.fields ≠ [] := hne last (by simp)
    have hfront : ∀ l ∈ front, l.fields ≠ [] := fun l hl => hne l (by simp [hl])
    have hquote : ∃ rest,
        utf8 (front.flatMap Line.chars) ++ utf8 (joined last.fields) = quote :: rest := by
      cases front with
      | nil => exact exists_utf8_joined hlast
      | cons l rest =>
        obtain ⟨bytes, hbytes⟩ := exists_utf8_joined (List.forall_mem_cons.mp hfront).1
        simp [Line.chars, hbytes]
    -- the record that was begun ends with the text
    have hend : ((utf8 (joined last.fields)).foldl State.step .start).finish = [last.record] := by
      obtain ⟨hplace, hend⟩ := State.foldl_step_joined (.inl rfl) hlast [] []
      rw [State.finish, State.start, if_neg (by rw [hplace]; decide), hend]
      rfl
    rw [List.concat_eq_append, fileChars_concat, utf8_append,
      records_lines_append hfront hquote, hend, List.map_append, List.map_singleton]

end TripWatch.Csv
