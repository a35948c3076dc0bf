import Mathlib.Data.List.Forall2
import Mathlib.Data.List.TakeWhile
import TripWatch.Action.Table
import TripWatch.Proofs.Csv.Written

/-!
# Written tables of actions

A table of actions is read back row for row. It may have its columns in any order and others among
them, and white space around its texts. What a row says is found under the names of the columns,
and nothing that another row says matters: a good row gives its action, and the first row that is
not good gives its fault.

## What a row says

A row is good if its coordinates are numbers (`Numeric`) and its interaction has a name that is
known (`Known`). Its action has each text in its own place (`Describes`), and there is such an
action for the good rows and for no others (`exists_describes_iff`). A row that has no number where
one should be is malformed, whatever its interaction, so an unknown interaction is told only of a
numeric row.

## What comes after a fault

Rows are read one by one, so the fault of a row is told whatever the bytes after its line are. The
rows in front of it have to be good, and nothing else.

## Main definitions

* `Cell`, `Row`, `WrittenTable` — what is written, with the white space and the line ends
* `WrittenTable.cell` — the text of a row under the name of a column
* `ActionTable.Describes`, `ActionTable.Numeric`, `ActionTable.Known` — what a row says

## Main results

* `WrittenTable.records_bytes` — what is read of the file are the rows
* `WrittenTable.ofRow_eq` — a row is read by the names of the columns
* `WrittenTable.parse_eq_ok_iff`, `WrittenTable.parse_eq_error` — what comes of a table
* `ActionTable.ofValues_eq_ok_iff`, `ActionTable.ofValues_of_not_known`,
  `ActionTable.ofValues_of_not_numeric` — what comes of a row
* `table_read_back` — the headline
-/

namespace TripWatch

/-! ### Cells, rows and tables -/

/-- A text with white space on its sides that does not belong to it. -/
structure Cell where
  /-- The white space in front of the text. -/
  before : List Char := []
  /-- The text. -/
  text : String
  /-- The white space behind the text. -/
  after : List Char := []
  before_blank : before.all Text.isSpace = true := by decide
  after_blank : after.all Text.isSpace = true := by decide
  head_ne : (text.toList.head?.all fun c => !Text.isSpace c) = true := by decide
  last_ne : (text.toList.getLast?.all fun c => !Text.isSpace c) = true := by decide

/-- The characters of a cell. -/
def Cell.chars (c : Cell) : List Char := c.before ++ (c.text.toList ++ c.after)

/-- A row, or the names of the columns. -/
structure Row where
  /-- What the row says. -/
  cells : List Cell
  /-- The end of its line. -/
  ending : Csv.LineEnd

namespace Row

/-- The texts of a row. -/
def texts (r : Row) : List String := r.cells.map Cell.text

/-- A row as it is written. -/
def line (r : Row) : Csv.Line := ⟨r.cells.map Cell.chars, r.ending⟩

/-- The bytes of rows; the last line may be closed. -/
def bytes (closed : Bool) (rows : List Row) : List UInt8 :=
  (String.ofList (Csv.fileChars closed (rows.map line))).toUTF8.toList

end Row

/-- A table in which each column of a table of actions stands once, in some place. -/
structure WrittenTable where
  /-- The names of the columns. -/
  header : Row
  /-- The rows. -/
  rows : List Row
  columns_once : ∀ name ∈ ActionTable.columns, header.texts.count name = 1
  width_eq : ∀ row ∈ rows, row.cells.length = header.cells.length

namespace WrittenTable

/-- The text of a row in the column with a name. -/
def cell (t : WrittenTable) (row : Row) (name : String) : String :=
  row.texts.getD (t.header.texts.idxOf name) ""

/-- The bytes of the file; its last line may be closed. -/
def bytes (t : WrittenTable) (closed : Bool) : List UInt8 := Row.bytes closed (t.header :: t.rows)

end WrittenTable

/-! ### White space -/

section Space

variable {p : Char → Bool} {blank cs : List Char}

theorem dropWhile_append_of_all (hblank : blank.all p = true)
    (hcs : (cs.head?.all fun c => !p c) = true) : (blank ++ cs).dropWhile p = cs := by
  rw [List.dropWhile_append_of_pos (List.all_eq_true.mp hblank)]
  cases cs with
  | nil => rfl
  | cons c rest => rw [List.dropWhile_cons_of_neg (by simpa using hcs)]

/-- Trimming takes the white space of a cell away and nothing else. -/
theorem Cell.trim_chars (c : Cell) : Text.trim c.chars = c.text.toList := by
  have hright : Text.trimRight (c.text.toList ++ c.after) = c.text.toList := by
    rw [Text.trimRight, List.reverse_append, dropWhile_append_of_all, List.reverse_reverse]
    · rw [List.all_reverse]
      exact c.after_blank
    · rw [List.head?_reverse]
      exact c.last_ne
  by_cases htext : c.text.toList = []
  · -- nothing but white space: all of it goes from the front
    have hblank : (c.before ++ c.after).all Text.isSpace = true := by
      rw [List.all_append, c.before_blank, c.after_blank]
      rfl
    rw [Text.trim, Text.trimLeft, Cell.chars, htext, List.nil_append,
      List.dropWhile_eq_nil_iff.mpr (List.all_eq_true.mp hblank)]
    rfl
  · have hhead : ((c.text.toList ++ c.after).head?.all fun a => !Text.isSpace a) = true := by
      rw [List.head?_append_of_ne_nil _ htext]
      exact c.head_ne
    rw [Text.trim, Text.trimLeft, Cell.chars, dropWhile_append_of_all c.before_blank hhead, hright]

end Space

/-! ### Cells are read -/

section Reading

theorem mapM_eq_some_map {α β : Type} {f : α → Option β} {g : α → β} {xs : List α}
    (h : ∀ x ∈ xs, f x = some (g x)) : xs.mapM f = some (xs.map g) := by
  induction xs with
  | nil => rfl
  | cons x xs ih =>
    rw [List.forall_mem_cons] at h
    rw [List.mapM_cons, h.1, ih h.2]
    rfl

/-- The bytes of characters are read as a text. -/
theorem ActionTable.fieldText?_utf8 (cs : List Char) :
    ActionTable.fieldText? (Csv.utf8 cs) = some (String.ofList (Text.trim cs)) := by
  have hvalid : (Csv.utf8 cs).toByteArray.IsValidUTF8 := ⟨cs, rfl⟩
  have htext : String.fromUTF8 (Csv.utf8 cs).toByteArray hvalid = String.ofList cs := rfl
  rw [ActionTable.fieldText?, String.fromUTF8?, dif_pos hvalid, htext, Option.map_some,
    String.toList_ofList]

theorem Row.texts?_record (r : Row) : ActionTable.texts? r.line.record = some r.texts := by
  rw [ActionTable.texts?, Csv.Line.record, Row.line, List.map_map, List.mapM_map]
  refine mapM_eq_some_map fun c _ => ?_
  rw [Function.comp_apply, Function.comp_apply, ActionTable.fieldText?_utf8, Cell.trim_chars,
    String.ofList_toList]

variable {name : String} {header row : List String}

/-- A column that stands once has one value in a row. -/
theorem filter_zip_eq_singleton (hcount : header.count name = 1)
    (hlength : header.length = row.length) :
    ((header.zip row).filter fun cell => cell.1 = name) =
      [(name, row.getD (header.idxOf name) "")] := by
  induction header generalizing row with
  | nil => simp at hcount
  | cons first header ih =>
    obtain ⟨value, row, rfl⟩ := List.exists_cons_of_length_eq_add_one hlength.symm
    rw [List.length_cons, List.length_cons, Nat.add_right_cancel_iff] at hlength
    by_cases hfirst : first = name
    · subst hfirst
      have hnot : first ∉ header := by
        simpa [List.count_eq_zero] using hcount
      have hnone : ((header.zip row).filter fun cell => cell.1 = first) = [] := by
        rw [List.filter_eq_nil_iff]
        rintro ⟨a, b⟩ hmem
        simpa using fun h : a = first => hnot (h ▸ (List.of_mem_zip hmem).1)
      simp [hnone]
    · rw [List.count_cons_of_ne hfirst] at hcount
      rw [List.zip_cons_cons, List.filter_cons_of_neg (by simpa using hfirst), ih hcount hlength,
        List.idxOf_cons_ne _ hfirst, List.getD_cons_succ]

theorem column?_eq_some (hcount : header.count name = 1) (hlength : header.length = row.length) :
    ActionTable.column? header row name = some (row.getD (header.idxOf name) "") := by
  rw [ActionTable.column?, filter_zip_eq_singleton hcount hlength]

end Reading

namespace WrittenTable

variable (t : WrittenTable)

theorem cells_ne_nil : t.header.cells ≠ [] := by
  intro h
  have hcount := t.columns_once "id" (by decide)
  simp [Row.texts, h] at hcount

theorem fields_ne_nil {rows : List Row} (hrows : rows ⊆ t.rows) :
    ∀ l ∈ (t.header :: rows).map Row.line, l.fields ≠ [] := by
  have hwidth : ∀ row ∈ t.header :: rows, row.cells.length = t.header.cells.length :=
    List.forall_mem_cons.mpr ⟨rfl, fun row hrow => t.width_eq row (hrows hrow)⟩
  intro l hl
  obtain ⟨row, hmem, rfl⟩ := List.mem_map.mp hl
  have hpos := List.length_pos_iff.mpr t.cells_ne_nil
  rw [← hwidth row hmem] at hpos
  simpa [Row.line] using List.length_pos_iff.mp hpos

/-- **What is read of the file are the rows.** -/
theorem records_bytes (closed : Bool) :
    Csv.records (t.bytes closed) =
      t.header.line.record :: t.rows.map fun row => row.line.record := by
  have h := Csv.records_fileChars closed (List.cons_ne_nil _ _)
    (t.fields_ne_nil (List.Subset.refl t.rows))
  rw [bytes, Row.bytes, Csv.toList_toUTF8, List.map_cons, h]
  simp

/-- Rows whose lines are closed are read first, whatever comes after them. -/
theorem records_append {rows : List Row} (hrows : rows ⊆ t.rows) (tail : List UInt8) :
    ∃ more, Csv.records (Row.bytes true (t.header :: rows) ++ tail) =
      t.header.line.record :: (rows.map fun row => row.line.record) ++ more := by
  have h := Csv.records_append (List.cons_ne_nil _ _) (t.fields_ne_nil hrows) tail
  refine ⟨(tail.foldl Csv.State.step .start).finish, ?_⟩
  rw [Row.bytes, Csv.toList_toUTF8, List.map_cons, Csv.fileChars_eq_flatMap, h]
  simp

/-- **A row is read by the names of the columns.** -/
theorem ofRow_eq {row : Row} (hrow : row.cells.length = t.header.cells.length) :
    ActionTable.ofRow t.header.line.record.length (ActionTable.texts? t.header.line.record)
        row.line.record =
      ActionTable.ofValues (ActionTable.columns.map (t.cell row)) := by
  have hwidth : row.line.record.length = t.header.line.record.length := by
    simpa [Csv.Line.record, Row.line] using hrow
  have hlength : t.header.texts.length = row.texts.length := by
    simpa [Row.texts] using hrow.symm
  have hvalues : ActionTable.values? (some t.header.texts) row.texts =
      some (ActionTable.columns.map (t.cell row)) :=
    mapM_eq_some_map fun name hname => column?_eq_some (t.columns_once name hname) hlength
  rw [ActionTable.ofRow, if_neg (not_not_intro hwidth), Row.texts?_record, Row.texts?_record]
  simp only [hvalues]

end WrittenTable

/-! ### What comes of a row -/

/-- Whom an interaction is for. -/
def Interaction.target : Interaction → String
  | pedestrianSignal signalId => signalId
  | busOperator routeId => routeId

namespace ActionTable

/-- The coordinates of a row are numbers. -/
def Numeric (cell : String → String) : Prop :=
  ∀ name ∈ ["start_lat", "start_lon", "end_lat", "end_lon"], (Double.ofText? (cell name)).isSome

/-- The interaction of a row has a name that is known. -/
def Known (cell : String → String) : Prop :=
  cell "interaction" = "pedestrian_signal" ∨ cell "interaction" = "bus_operator"

instance (cell : String → String) : Decidable (Numeric cell) :=
  List.decidableBAll _ _

instance (cell : String → String) : Decidable (Known cell) :=
  inferInstanceAs (Decidable (_ ∨ _))

/-- An action has each text of a row in its place. -/
structure Describes (cell : String → String) (a : SegmentAction) : Prop where
  id_eq : a.id = cell "id"
  start_lat : Double.ofText? (cell "start_lat") = some a.segment.start.lat
  start_lon : Double.ofText? (cell "start_lon") = some a.segment.start.lon
  end_lat : Double.ofText? (cell "end_lat") = some a.segment.finish.lat
  end_lon : Double.ofText? (cell "end_lon") = some a.segment.finish.lon
  kind_eq : a.interaction.kind = cell "interaction"
  target_eq : a.interaction.target = cell "target"

variable {cell : String → String} {a : SegmentAction}

theorem ofKind?_eq_some_iff {kind target : String} {i : Interaction} :
    Interaction.ofKind? kind target = some i ↔ i.kind = kind ∧ i.target = target := by
  constructor
  · intro h
    unfold Interaction.ofKind? at h
    split at h <;> cases h <;> exact ⟨rfl, rfl⟩
  · rintro ⟨rfl, rfl⟩
    cases i <;> rfl

theorem ofKind?_eq_none (h : ¬ Known cell) :
    Interaction.ofKind? (cell "interaction") (cell "target") = none := by
  rw [Known, not_or] at h
  unfold Interaction.ofKind?
  split
  next hkind => exact absurd hkind h.1
  next hkind => exact absurd hkind h.2
  next => rfl

theorem Numeric.exists_eq (h : Numeric cell) : ∃ startLat startLon endLat endLon,
    Double.ofText? (cell "start_lat") = some startLat ∧
      Double.ofText? (cell "start_lon") = some startLon ∧
      Double.ofText? (cell "end_lat") = some endLat ∧
      Double.ofText? (cell "end_lon") = some endLon := by
  simpa [Numeric, Option.isSome_iff_exists] using h

theorem Describes.numeric (h : Describes cell a) : Numeric cell := by
  simp [Numeric, h.start_lat, h.start_lon, h.end_lat, h.end_lon]

theorem Describes.known (h : Describes cell a) : Known cell := by
  rw [Known, ← h.kind_eq]
  cases a.interaction
  · exact .inl rfl
  · exact .inr rfl

theorem ofValues_of_not_known (hnumeric : Numeric cell) (hknown : ¬ Known cell) :
    ofValues (columns.map cell) =
      .error (.unknownInteraction (cell "id") (cell "interaction")) := by
  obtain ⟨startLat, startLon, endLat, endLon, h1, h2, h3, h4⟩ := hnumeric.exists_eq
  simp [columns, ofValues, h1, h2, h3, h4, ofKind?_eq_none hknown]

theorem ofValues_of_not_numeric (h : ¬ Numeric cell) :
    ofValues (columns.map cell) = .error .malformedRow := by
  simp only [columns, ofValues, List.map_cons, List.map_nil]
  split
  next h1 h2 h3 h4 => exact absurd (by simp [Numeric, h1, h2, h3, h4]) h
  next => rfl

/-- **A row gives an action exactly if it describes it.** -/
theorem ofValues_eq_ok_iff : ofValues (columns.map cell) = .ok a ↔ Describes cell a := by
  constructor
  · intro h
    by_cases hnumeric : Numeric cell
    · obtain ⟨startLat, startLon, endLat, endLon, h1, h2, h3, h4⟩ := hnumeric.exists_eq
      simp only [columns, ofValues, List.map_cons, List.map_nil, h1, h2, h3, h4] at h
      cases hkind : Interaction.ofKind? (cell "interaction") (cell "target") with
      | none =>
        rw [hkind] at h
        cases h
      | some i =>
        rw [hkind] at h
        cases h
        obtain ⟨hi, htarget⟩ := ofKind?_eq_some_iff.mp hkind
        exact ⟨rfl, h1, h2, h3, h4, hi, htarget⟩
    · rw [ofValues_of_not_numeric hnumeric] at h
      cases h
  · intro h
    simp [columns, ofValues, h.start_lat, h.start_lon, h.end_lat, h.end_lon,
      ofKind?_eq_some_iff.mpr ⟨h.kind_eq, h.target_eq⟩, ← h.id_eq]

/-- The good rows are those that describe an action. -/
theorem exists_describes_iff : (∃ a, Describes cell a) ↔ Numeric cell ∧ Known cell := by
  refine ⟨fun ⟨a, h⟩ => ⟨h.numeric, h.known⟩, fun ⟨hnumeric, hknown⟩ => ?_⟩
  obtain ⟨startLat, startLon, endLat, endLon, h1, h2, h3, h4⟩ := hnumeric.exists_eq
  rcases hknown with hkind | hkind
  · exact ⟨⟨cell "id", ⟨⟨startLat, startLon⟩, ⟨endLat, endLon⟩⟩,
      .pedestrianSignal (cell "target")⟩, rfl, h1, h2, h3, h4, hkind.symm, rfl⟩
  · exact ⟨⟨cell "id", ⟨⟨startLat, startLon⟩, ⟨endLat, endLon⟩⟩,
      .busOperator (cell "target")⟩, rfl, h1, h2, h3, h4, hkind.symm, rfl⟩

/-- The fault of a row that describes no action. -/
def fault (cell : String → String) : ActionTableFault :=
  if Numeric cell then .unknownInteraction (cell "id") (cell "interaction") else .malformedRow

theorem ofValues_eq_error (h : ¬ (Numeric cell ∧ Known cell)) :
    ofValues (columns.map cell) = .error (fault cell) := by
  by_cases hnumeric : Numeric cell
  · rw [fault, if_pos hnumeric, ofValues_of_not_known hnumeric fun hknown => h ⟨hnumeric, hknown⟩]
  · rw [fault, if_neg hnumeric, ofValues_of_not_numeric hnumeric]

end ActionTable

/-! ### Row for row -/

section Rows

variable {ε α β : Type} {f : α → Except ε β} {xs front rest : List α}

theorem mapM_eq_ok_iff {R : α → β → Prop} (h : ∀ x ∈ xs, ∀ y, f x = .ok y ↔ R x y) {ys : List β} :
    xs.mapM f = .ok ys ↔ List.Forall₂ R xs ys := by
  induction xs generalizing ys with
  | nil => cases ys <;> simp [pure, Except.pure]
  | cons x xs ih =>
    rw [List.forall_mem_cons] at h
    rw [List.mapM_cons, List.forall₂_cons_left_iff]
    simp only [← h.1, ← ih h.2]
    cases hx : f x with
    | error e => simp [bind, Except.bind]
    | ok y =>
      cases hxs : xs.mapM f with
      | error e => simp [bind, Except.bind]
      | ok zs => simp [bind, Except.bind, pure, Except.pure, eq_comm]

theorem exists_forall₂ {R : α → β → Prop} (h : ∀ x ∈ xs, ∃ y, R x y) :
    ∃ ys, List.Forall₂ R xs ys := by
  induction xs with
  | nil => exact ⟨[], .nil⟩
  | cons x xs ih =>
    rw [List.forall_mem_cons] at h
    obtain ⟨y, hy⟩ := h.1
    obtain ⟨ys, hys⟩ := ih h.2
    exact ⟨y :: ys, .cons hy hys⟩

/-- The first error is the error of all. -/
theorem mapM_eq_error (hfront : ∀ x ∈ front, ∃ y, f x = .ok y) {bad : α} {e : ε}
    (hbad : f bad = .error e) : (front ++ bad :: rest).mapM f = .error e := by
  induction front with
  | nil => simp [List.mapM_cons, hbad, bind, Except.bind]
  | cons x front ih =>
    rw [List.forall_mem_cons] at hfront
    obtain ⟨y, hy⟩ := hfront.1
    rw [List.cons_append, List.mapM_cons, hy, ih hfront.2]
    rfl

end Rows

namespace WrittenTable

open ActionTable

variable (t : WrittenTable)

theorem parse_eq_ok_iff (closed : Bool) {actions : List SegmentAction} :
    parse (t.bytes closed) = .ok actions ↔
      List.Forall₂ (fun row a => Describes (t.cell row) a) t.rows actions := by
  rw [parse, t.records_bytes closed]
  simp only [List.mapM_map]
  refine mapM_eq_ok_iff fun row hrow a => ?_
  rw [Function.comp_apply, t.ofRow_eq (t.width_eq row hrow), ofValues_eq_ok_iff]

/-- **The first row that is not good gives its fault**, whatever is read after it. -/
theorem parse_eq_error {bytes : List UInt8} {front : List Row} {bad : Row}
    {more : List (List (List UInt8))}
    (hbytes : Csv.records bytes = t.header.line.record ::
      ((front ++ [bad]).map fun row => row.line.record) ++ more)
    (hrows : front ++ [bad] ⊆ t.rows)
    (hfront : ∀ row ∈ front, Numeric (t.cell row) ∧ Known (t.cell row))
    (hbad : ¬ (Numeric (t.cell bad) ∧ Known (t.cell bad))) :
    parse bytes = .error (fault (t.cell bad)) := by
  have hrow : ∀ row ∈ front ++ [bad], row.cells.length = t.header.cells.length :=
    fun row hmem => t.width_eq row (hrows hmem)
  rw [parse, hbytes, List.map_append, List.map_singleton, List.cons_append, List.append_assoc,
    List.singleton_append]
  refine mapM_eq_error ?_ ?_
  · rintro _ hrecord
    obtain ⟨row, hmem, rfl⟩ := List.mem_map.mp hrecord
    obtain ⟨a, ha⟩ := exists_describes_iff.mpr (hfront row hmem)
    exact ⟨a, by rw [t.ofRow_eq (hrow row (by simp [hmem])), ofValues_eq_ok_iff.mpr ha]⟩
  · rw [t.ofRow_eq (hrow bad (by simp)), ofValues_eq_error hbad]

end WrittenTable

open ActionTable in
/-- **A table that was written is read back row for row.** Its columns may stand in any order and
among others, its texts may have white space around them, and its lines may end in either way.

If every row is good there is one action for each row, with the row's texts in their places, and it
is only then that there are actions. Otherwise the first row that is not good gives its fault, which
names the row and its interaction if the row is numeric. Nothing that comes after the line of that
row matters, be it rows or any other bytes. -/
theorem table_read_back (t : WrittenTable) (closed : Bool) :
    ((∀ row ∈ t.rows, Numeric (t.cell row) ∧ Known (t.cell row)) →
      ∃ actions, parse (t.bytes closed) = .ok actions) ∧
    (∀ actions, parse (t.bytes closed) = .ok actions ↔
      List.Forall₂ (fun row a => Describes (t.cell row) a) t.rows actions) ∧
    ∀ front bad rest, t.rows = front ++ bad :: rest →
      (∀ row ∈ front, Numeric (t.cell row) ∧ Known (t.cell row)) →
      ¬ (Numeric (t.cell bad) ∧ Known (t.cell bad)) →
      parse (t.bytes closed) = .error (fault (t.cell bad)) ∧
        ∀ tail, parse (Row.bytes true (t.header :: (front ++ [bad])) ++ tail) =
          .error (fault (t.cell bad)) := by
  refine ⟨fun hgood => ?_, fun actions => t.parse_eq_ok_iff closed, ?_⟩
  · obtain ⟨actions, h⟩ :=
      exists_forall₂ fun row hrow => exists_describes_iff.mpr (hgood row hrow)
    exact ⟨actions, (t.parse_eq_ok_iff closed).mpr h⟩
  · intro front bad rest hrows hfront hbad
    have hsubset : front ++ [bad] ⊆ t.rows := by
      rw [hrows]
      intro row hrow
      simp only [List.mem_append, List.mem_cons] at hrow ⊢
      tauto
    have hwhole : Csv.records (t.bytes closed) = t.header.line.record ::
        ((front ++ [bad]).map fun row => row.line.record) ++
          rest.map fun row => row.line.record := by
      rw [t.records_bytes closed, hrows]
      simp
    refine ⟨t.parse_eq_error hwhole hsubset hfront hbad, fun tail => ?_⟩
    obtain ⟨more, hmore⟩ := t.records_append hsubset tail
    exact t.parse_eq_error hmore hsubset hfront hbad

/-- A table with its columns in another order and a column of notes, whose second row has an
interaction that is not known. -/
def tableWithNotes : WrittenTable where
  header :=
    { cells := [{ text := "target" }, { text := "note" }, { text := "end_lon" },
        { text := "end_lat" }, { text := "start_lon" }, { text := "start_lat" },
        { before := [' '], text := "interaction", after := ['\t'] }, { text := "id" }]
      ending := .carriageReturnLineFeed }
  rows :=
    [{ cells := [{ text := "PS-12" }, { text := "a, \"b\"\nc" }, { text := "-83.99" },
        { text := "33.951" }, { text := "-83.99" }, { text := "33.95", after := [' '] },
        { text := "pedestrian_signal" }, { text := "crogan-signal" }]
       ending := .lineFeed },
     { cells := [{ text := "nowhere" }, { text := "" }, { text := "0" }, { text := "1e-3" },
        { text := "0" }, { before := [' '], text := "-7" }, { text := "teleport" },
        { text := "x, \"y\"" }]
       ending := .lineFeed }]
  columns_once := by decide
  width_eq := by decide

theorem table_read_back_tableWithNotes :
    ActionTable.parse (tableWithNotes.bytes false) =
      .error (.unknownInteraction "x, \"y\"" "teleport") :=
  ((table_read_back tableWithNotes false).2.2 [_] _ [] rfl (by decide) (by decide)).1

end TripWatch
