import Mathlib.Data.List.Zip
import Mathlib.Order.Bounds.Basic
import Agenda.Proofs.Evaluation.Cells
import Agenda.Report

/-!
# The lines of tables

Every row of an output has one cell for each of its columns, so that widths can be taken for every
table that is printed. A column has room for what is shown of each of its entries, and for its
header as a whole: the names that columns can have are short, and none takes more bytes than it has
characters. So each line is cut into the same columns, and all lines are of one length.

Main results:
  * `Table.widths?_eq_some` — rows with an entry for each header have widths;
  * `Table.exists_aligned` — a table below short and plain headers is aligned;
  * `printed_tables_aligned` — every table of every output.
-/

namespace Agenda

/-! ## §1. Longest entries and separated texts -/

section

variable {α : Type}

theorem isGreatest_foldr_max (n : Nat) :
    ∀ l : List Nat, IsGreatest {m | m = n ∨ m ∈ l} (l.foldr max n)
  | [] => by simp [IsGreatest, upperBounds]
  | m :: l => by
    obtain ⟨hmem, hle⟩ := isGreatest_foldr_max n l
    rw [List.foldr_cons]
    refine ⟨?_, ?_⟩
    · rcases max_choice m (l.foldr max n) with h | h <;> rw [h]
      · exact .inr List.mem_cons_self
      · exact hmem.imp_right (List.mem_cons_of_mem _)
    · rintro k (rfl | hk)
      · exact (hle (.inl rfl)).trans (Nat.le_max_right _ _)
      · rcases List.mem_cons.1 hk with rfl | hk
        · exact Nat.le_max_left _ _
        · exact (hle (.inr hk)).trans (Nat.le_max_right _ _)

theorem length_intercalate (separator : List α) : ∀ texts : List (List α),
    (separator.intercalate texts).length =
      (texts.map List.length).sum + separator.length * (texts.length - 1)
  | [] => rfl
  | [text] => by simp
  | text :: next :: rest => by
    have ih := length_intercalate separator (next :: rest)
    rw [List.intercalate_cons_cons, List.length_append, List.length_append, ih]
    simp only [List.map_cons, List.sum_cons, List.length_cons, Nat.add_sub_cancel, Nat.mul_succ]
    omega

end

namespace Table

/-! ## §2. Tables that are aligned -/

/-- What is shown of an entry in a column: its first characters up to the limit, and blanks to the
width of the column. -/
def shown (width : Nat) (entry : List Char) : List Char :=
  entry.take (min 40 entry.length) ++ List.replicate (width - min 40 entry.length) ' '

/-- A line that shows an entry in each column. -/
def shownLine (widths : List Nat) (entries : List (List Char)) : List Char :=
  [' ', '|', ' '].intercalate (List.zipWith shown widths entries)

/-- The length of a line: the widths of the columns, and three for each separator. -/
def lineLength (widths : List Nat) : Nat :=
  widths.sum + 3 * (widths.length - 1)

/-- The lines of a table that is aligned: what they are made of, and how long they are. -/
structure Aligned (columns : List String) (rows : List (List (List Char))) (widths : List Nat)
    (lines : List (List Char)) : Prop where
  length_row : ∀ row ∈ rows, row.length = columns.length
  length_widths : widths.length = columns.length
  /-- A column is as wide as the longest of its entries and its header, up to the limit. -/
  width_eq : ∀ (i : Nat) (column : String) (w : Nat), columns[i]? = some column →
    widths[i]? = some w → ∃ longest, w = min 40 longest ∧ IsGreatest {n | n = column.length ∨
      ∃ row ∈ rows, ∃ entry : List Char, row[i]? = some entry ∧ n = entry.length} longest
  /-- Headers are not cut off. -/
  header_le : ∀ column ∈ columns, column.length ≤ 40
  lines_eq : lines = shownLine widths (columns.map String.toList) ::
    List.replicate (lineLength widths) '-' :: rows.map (shownLine widths)
  /-- In every line, each column takes its width. -/
  cells_eq : ∀ entries ∈ columns.map String.toList :: rows,
    (List.zipWith shown widths entries).map List.length = widths
  length_line : ∀ line ∈ lines, line.length = lineLength widths

/-! ## §3. Entries in columns -/

/-- Whether a column has room for what is shown of an entry, and is no wider than the limit. -/
def Fits (width : Nat) (entry : List Char) : Prop :=
  min 40 entry.length ≤ width ∧ width ≤ 40

section

variable {w : Nat} {entry : List Char}

theorem length_shown (h : Fits w entry) : (shown w entry).length = w := by
  obtain ⟨hroom, -⟩ := h
  simp only [shown, List.length_append, List.length_take, List.length_replicate]
  omega

theorem cell_eq_shown (h : Fits w entry) : cell w entry = shown w entry := by
  obtain ⟨hroom, hlimit⟩ := h
  have htake : entry.take w = entry.take (min 40 entry.length) :=
    List.take_eq_take_iff.2 (by omega)
  have hlength : (entry.take (min 40 entry.length)).length = min 40 entry.length := by
    rw [List.length_take]
    omega
  unfold cell filled shown
  rw [htake, List.rightpad, hlength]

theorem filled_eq_shown (h : entry.length ≤ 40) : filled w entry = shown w entry := by
  unfold filled shown
  rw [Nat.min_eq_right h, List.take_length]
  rfl

end

theorem fits_width {header : String} {entries : List (List Char)} {entry : List Char}
    (h : entry.length ≤ header.utf8ByteSize ∨ entry ∈ entries) :
    Fits (width header entries) entry := by
  have hgreatest := isGreatest_foldr_max header.utf8ByteSize (entries.map List.length)
  have hle : entry.length ≤ (entries.map List.length).foldr max header.utf8ByteSize := by
    rcases h with hheader | hentry
    · exact hheader.trans (hgreatest.2 (.inl rfl))
    · exact hgreatest.2 (.inr (List.mem_map_of_mem hentry))
  unfold Fits width widthLimit
  omega

/-- Entries that fit into their columns are all shown in the width of their column. -/
theorem map_length_shown {widths : List Nat} {entries : List (List Char)}
    (h : List.Forall₂ Fits widths entries) :
    (List.zipWith shown widths entries).map List.length = widths := by
  induction h with
  | nil => rfl
  | cons hfits _ ih => rw [List.zipWith_cons_cons, List.map_cons, length_shown hfits, ih]

theorem length_shownLine {widths : List Nat} {entries : List (List Char)}
    (h : List.Forall₂ Fits widths entries) :
    (shownLine widths entries).length = lineLength widths := by
  unfold shownLine lineLength
  rw [length_intercalate, map_length_shown h, List.length_zipWith, ← h.length_eq, Nat.min_self]
  rfl

theorem rowLine_eq {widths : List Nat} {entries : List (List Char)}
    (h : List.Forall₂ Fits widths entries) : rowLine widths entries = shownLine widths entries := by
  unfold rowLine shownLine separator
  rw [List.zipWith_congr _ _ _ _ (h.imp fun _ _ => cell_eq_shown)]

theorem headerLine_eq {widths : List Nat} {headers : List String}
    (hlength : widths.length = headers.length) (h : ∀ header ∈ headers, header.length ≤ 40) :
    headerLine widths headers = shownLine widths (headers.map String.toList) := by
  unfold headerLine shownLine separator
  rw [List.zipWith_map_right, List.zipWith_congr]
  refine List.forall₂_iff_zip.2 ⟨hlength, fun hmem => filled_eq_shown ?_⟩
  rw [String.length_toList]
  exact h _ (List.of_mem_zip hmem).2

theorem rule_eq (widths : List Nat) : rule widths = List.replicate (lineLength widths) '-' := by
  unfold rule lineLength
  rw [← List.sum_eq_foldr]
  rfl

/-! ## §4. Widths -/

/-- The widths of the columns of rows that are long enough. -/
def widths (headers : List String) (rows : List (List (List Char))) : List Nat :=
  headers.zipIdx.map fun (header, i) => width header (rows.map (·.getD i []))

section

variable {headers : List String} {rows : List (List (List Char))}

theorem length_widths : (widths headers rows).length = headers.length := by
  unfold widths
  rw [List.length_map, List.length_zipIdx]

theorem getElem_widths {i : Nat} (hi : i < headers.length)
    (h : i < (widths headers rows).length) :
    (widths headers rows)[i] = width headers[i] (rows.map (·.getD i [])) := by
  simp [widths]

variable (hrows : ∀ row ∈ rows, row.length = headers.length)
include hrows

theorem getElem?_row {row : List (List Char)} (hrow : row ∈ rows) {i : Nat}
    (hi : i < headers.length) : row[i]? = some (row.getD i []) := by
  rw [← hrows row hrow] at hi
  rw [List.getD_eq_getElem?_getD, List.getElem?_eq_getElem hi, Option.getD_some]

/-- **Rows with an entry for each header have widths.** -/
theorem widths?_eq_some : widths? headers rows = some (widths headers rows) := by
  refine mapM_eq_some_map fun (header, i) hmem => ?_
  have hi : i < headers.length := by simpa using (List.mem_zipIdx hmem).2.1
  have hentries : rows.mapM (·[i]?) = some (rows.map (·.getD i [])) :=
    mapM_eq_some_map fun row hrow => getElem?_row hrows hrow hi
  show (rows.mapM (·[i]?)).map (width header) = _
  rw [hentries]
  rfl

theorem fits_row {row : List (List Char)} (hrow : row ∈ rows) :
    List.Forall₂ Fits (widths headers rows) row := by
  refine List.forall₂_iff_get.2 ⟨length_widths.trans (hrows row hrow).symm, fun i hi hi' => ?_⟩
  have hentry : some (row.getD i []) = some row[i] :=
    (getElem?_row hrows hrow (length_widths ▸ hi)).symm.trans (List.getElem?_eq_getElem hi')
  rw [List.get_eq_getElem, List.get_eq_getElem, getElem_widths (length_widths ▸ hi)]
  exact fits_width (.inr (List.mem_map.2 ⟨row, hrow, Option.some.inj hentry⟩))

variable (hplain : ∀ header ∈ headers, header.utf8ByteSize = header.length)
include hplain

/-- A column is as wide as the longest of its entries and its header, up to the limit. -/
theorem width_eq {i w : Nat} {header : String} (hheader : headers[i]? = some header)
    (hw : (widths headers rows)[i]? = some w) :
    ∃ longest, w = min 40 longest ∧ IsGreatest {n | n = header.length ∨
      ∃ row ∈ rows, ∃ entry : List Char, row[i]? = some entry ∧ n = entry.length} longest := by
  obtain ⟨hi, rfl⟩ := List.getElem?_eq_some_iff.1 hheader
  obtain ⟨hi', rfl⟩ := List.getElem?_eq_some_iff.1 hw
  refine ⟨_, getElem_widths hi hi', ?_⟩
  have hlengths : ∀ n, n ∈ (rows.map (·.getD i [])).map List.length ↔
      ∃ row ∈ rows, ∃ entry : List Char, row[i]? = some entry ∧ n = entry.length := by
    intro n
    rw [List.map_map, List.mem_map]
    refine exists_congr fun row => and_congr_right fun hrow => ?_
    rw [getElem?_row hrows hrow hi]
    simp [eq_comm]
  rw [hplain _ (List.getElem_mem _)]
  simpa only [hlengths] using isGreatest_foldr_max headers[i].length
    ((rows.map (·.getD i [])).map List.length)

omit hrows in
theorem fits_headers :
    List.Forall₂ Fits (widths headers rows) (headers.map String.toList) := by
  refine List.forall₂_iff_get.2 ⟨by rw [length_widths, List.length_map], fun i hi hi' => ?_⟩
  rw [List.get_eq_getElem, List.get_eq_getElem, getElem_widths (length_widths ▸ hi),
    List.getElem_map]
  refine fits_width (.inl ?_)
  rw [String.length_toList, hplain _ (List.getElem_mem _)]

variable (hshort : ∀ header ∈ headers, header.length ≤ 40)
include hshort

omit hplain in
theorem lines?_eq_some : lines? headers rows = some (shownLine (widths headers rows)
    (headers.map String.toList) :: List.replicate (lineLength (widths headers rows)) '-' ::
      rows.map (shownLine (widths headers rows))) := by
  unfold lines?
  rw [widths?_eq_some hrows, Option.map_some, headerLine_eq length_widths hshort, rule_eq,
    List.map_congr_left fun row hrow => rowLine_eq (fits_row hrows hrow)]

/-- **A table below short and plain headers is aligned**, if its rows have an entry for each. -/
theorem exists_aligned :
    ∃ widths lines, lines? headers rows = some lines ∧ Aligned headers rows widths lines := by
  have hfits : ∀ entries ∈ headers.map String.toList :: rows,
      List.Forall₂ Fits (widths headers rows) entries :=
    List.forall_mem_cons.2 ⟨fits_headers hplain, fun _ => fits_row hrows⟩
  refine ⟨_, _, lines?_eq_some hrows hshort, {
    length_row := hrows
    length_widths := length_widths
    width_eq := fun i header w => width_eq hrows hplain
    header_le := hshort
    lines_eq := rfl
    cells_eq := fun entries hentries => map_length_shown (hfits entries hentries)
    length_line := ?_ }⟩
  rw [List.forall_mem_cons, List.forall_mem_cons, List.forall_mem_map]
  exact ⟨length_shownLine (fits_headers hplain), List.length_replicate,
    fun row hrow => length_shownLine (fits_row hrows hrow)⟩

end

/-- A number and a text of nine characters below headers of two and of four. -/
example : lines? ["id", "text"] [["1".toList, "Fix login".toList]] =
    some (["id | text     ", "--------------", "1  | Fix login"].map String.toList) := by decide

end Table

/-! ## §5. Outputs -/

theorem Domain.columns_plain (domain : Domain) : ∀ column ∈ domain.schema.columns,
    column.utf8ByteSize = column.length ∧ column.length ≤ 40 := by
  cases domain <;> decide

/-- Groups are printed one below the other, each with its table. -/
theorem Group.exists_blocks {columns : List String} {groups : List Group}
    (h : ∀ group ∈ groups, ∃ lines, Row.tableLines? columns group.rows = some lines) :
    ∃ blocks, groups.mapM (tableLines? columns) = some blocks ∧
      ∀ group ∈ groups, ∀ lines, Row.tableLines? columns group.rows = some lines →
        lines <:+: blocks.flatten := by
  refine ⟨_, mapM_eq_some_map (g := fun group => (tableLines? columns group).getD [])
    fun group hgroup => ?_, fun group hgroup lines hlines => ?_⟩
  · obtain ⟨lines, hlines⟩ := h group hgroup
    unfold tableLines?
    rw [hlines]
    rfl
  · -- the table stands between the line with the name of the group and the empty line
    have hblock : lines <:+: (tableLines? columns group).getD [] := by
      unfold tableLines?
      rw [hlines]
      exact List.infix_cons (List.prefix_append lines [[]]).isInfix
    exact hblock.trans (List.infix_of_mem_flatten (List.mem_map_of_mem hgroup))

namespace Output

/-- Whether a table of these rows is printed: of all rows, or of those of a group. -/
def Prints (out : Output) (rows : List Row) : Prop :=
  out.rows ≠ [] ∧ match out.groups with
    | some groups => ∃ group ∈ groups, group.rows = rows
    | none => out.rows = rows

variable {out : Output} {rows : List Row}

theorem Prints.shows (h : out.Prints rows) {row : Row} (hrow : row ∈ rows) : out.Shows row := by
  obtain ⟨-, h⟩ := h
  split at h
  next groups hgroups =>
    obtain ⟨group, hgroup, rfl⟩ := h
    exact .inr ⟨groups, hgroups, group, hgroup, hrow⟩
  next =>
    obtain rfl := h
    exact .inl hrow

/-- An output can be printed if each of its tables can be laid out. -/
theorem exists_tableLines
    (h : ∀ rows, out.Prints rows → ∃ lines, Row.tableLines? out.columns rows = some lines) :
    ∃ all, out.tableLines? = some all ∧ ∀ rows lines, out.Prints rows →
      Row.tableLines? out.columns rows = some lines → lines <:+: all := by
  unfold Prints at h ⊢
  unfold tableLines?
  by_cases hnil : out.rows = []
  · rw [if_pos hnil]
    exact ⟨_, rfl, fun rows lines hprints => absurd hnil hprints.1⟩
  · rw [if_neg hnil]
    cases hgroups : out.groups with
    | none =>
      rw [hgroups] at h
      obtain ⟨lines, hlines⟩ := h out.rows ⟨hnil, rfl⟩
      refine ⟨lines, hlines, ?_⟩
      rintro rows lines' ⟨-, rfl⟩ hlines'
      obtain rfl := Option.some.inj (hlines.symm.trans hlines')
      exact List.infix_rfl
    | some groups =>
      rw [hgroups] at h
      obtain ⟨blocks, hblocks, hinfix⟩ := Group.exists_blocks fun group hgroup =>
        h group.rows ⟨hnil, group, hgroup, rfl⟩
      refine ⟨blocks.flatten, congrArg (Option.map List.flatten) hblocks, ?_⟩
      rintro rows lines ⟨-, group, hgroup, rfl⟩ hlines
      exact hinfix group hgroup lines hlines

end Output

/-- Every row that an output shows has one cell for each column. -/
theorem length_cells_of_shows {q : Query} {records : Records} {ctx : Context} {out : Output}
    (h : evaluate q records ctx = .ok out) {row : Row} (hrow : out.Shows row) :
    row.cells.length = out.columns.length := by
  obtain ⟨record, -, rfl⟩ := exists_record_of_shows h hrow
  exact List.length_map _

/-- **PRINTED TABLES ARE ALIGNED**: whatever the query, if its evaluation succeeds, its output can be
printed as tables, and each of them, of all rows or of those of a group, stands in what is printed.
Every row has one cell for each column; a column is as wide as the longest text of its cells and its
header, up to 40 characters; headers are shown whole, and of the text of each cell the first
characters, 40 of them or as many as there are, with blanks behind them; and the line of the headers,
the rule and the line of each row have one length, the sum of the widths and three for each
separator. -/
theorem printed_tables_aligned {q : Query} {records : Records} {ctx : Context} {out : Output}
    (h : evaluate q records ctx = .ok out) :
    ∃ all, out.table? = some (Table.text all) ∧ ∀ rows, out.Prints rows →
      ∃ widths lines, Row.tableLines? out.columns rows = some lines ∧ lines <:+: all ∧
        Table.Aligned out.columns (rows.map fun row => row.cells.map (·.display.toList))
          widths lines := by
  have hplain : ∀ column ∈ out.columns, column.utf8ByteSize = column.length ∧ column.length ≤ 40 :=
    fun column hcolumn => q.domain.columns_plain column
      (Directives.mem_columns_of_outputColumns (outputColumns_of_evaluate h) column hcolumn)
  have haligned : ∀ rows, out.Prints rows → ∃ widths lines,
      Row.tableLines? out.columns rows = some lines ∧
        Table.Aligned out.columns (rows.map fun row => row.cells.map (·.display.toList))
          widths lines := by
    intro rows hprints
    -- the entries that are laid out are the texts of the cells
    refine Table.exists_aligned ?_ (fun column hcolumn => (hplain column hcolumn).1)
      fun column hcolumn => (hplain column hcolumn).2
    exact List.forall_mem_map.2 fun row hrow =>
      (List.length_map _).trans (length_cells_of_shows h (hprints.shows hrow))
  obtain ⟨all, hall, hinfix⟩ := Output.exists_tableLines fun rows hprints =>
    have ⟨_, lines, hlines, _⟩ := haligned rows hprints
    ⟨lines, hlines⟩
  refine ⟨all, congrArg (Option.map Table.text) hall, fun rows hprints => ?_⟩
  obtain ⟨widths, lines, hlines, haligned⟩ := haligned rows hprints
  exact ⟨widths, lines, hlines, hinfix rows lines hprints hlines, haligned⟩

/-- Groups, a column twice, a text that is cut off, texts that have more bytes than characters, and
cells without a value: what is printed, and that its tables are aligned. -/
theorem printed_tables_aligned_groups :
    let today : Date := ⟨2024, 3, 13, by decide, by decide, by decide⟩
    let records : Records :=
      ⟨[(Task.new 1 "Überprüfung der Rechnungen vom letzten Jahr" "büro").withDue today,
        .new 12 "ruf Größe 3 ab" "haus", .new 3 "→" "büro"], [], []⟩
    let q : Query := {
      domain := .task
      directives := { columns := some ["text", "id", "due", "id"], group := some "project" } }
    ∃ out, evaluate q records ⟨today, .nextYear⟩ = .ok out ∧
      out.table? = some (Table.text ([
        "== büro (2) ==",
        "text                                     | id | due        | id",
        "---------------------------------------------------------------",
        "Überprüfung der Rechnungen vom letzten J | 1  | 2024-03-13 | 1 ",
        "→                                        | 3  |            | 3 ",
        "",
        "== haus (1) ==",
        "text           | id | due | id",
        "------------------------------",
        "ruf Größe 3 ab | 12 |     | 12",
        ""].map String.toList)) ∧
      ∃ all, out.table? = some (Table.text all) ∧ ∀ rows, out.Prints rows →
        ∃ widths lines, Row.tableLines? out.columns rows = some lines ∧ lines <:+: all ∧
          Table.Aligned out.columns (rows.map fun row => row.cells.map (·.display.toList))
            widths lines := by
  intro today records q
  -- there are no keys to sort by, so the rows of the output can be computed
  have hout : evaluate q records ⟨today, .nextYear⟩ = .ok _ := rfl
  refine ⟨_, hout, ?_, printed_tables_aligned hout⟩
  show Output.table? ⟨.task, _, .list, Row.sorted [] _,
    some (Group.gather "project" (Row.sorted [] _))⟩ = _
  rw [Row.sorted_nil]
  decide +kernel

end Agenda
