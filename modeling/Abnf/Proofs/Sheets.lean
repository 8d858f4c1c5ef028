import Mathlib.Data.List.Forall2
import Mathlib.Data.List.GetD
import Abnf.Proofs.Widths
import Abnf.Text.Table

/-!
# What a printed sheet shows

Where there is no terminal, a printer of tables shows a sheet between lines of border: the header,
and then one block of lines for every row, in order.  A block shows the lines of its cells side by
side and nothing else (`PrintsRows`).  The printer of this library does so for every sheet
(`printsRows_table`), and all lines of a table are equally wide (`columns_of_mem_tableLines`).
-/

namespace Abnf.Text

/-! ## Blocks of lines -/

/-- A line of border. -/
def border (left line right : String) (n : Nat) : String :=
  left ++ String.join (List.replicate n line) ++ right

/-- A line shows some parts side by side, each of them filled up with blanks. -/
def ShowsLine (parts : List String) (line : String) : Prop :=
  ∃ fills : List Nat, fills.length = parts.length ∧
    line = "│" ++ " ".intercalate (List.zipWith
      (fun part n => " " ++ (part ++ String.ofList (List.replicate n ' ')) ++ " ") parts fills) ++
        "│"

/-- A block of lines shows the texts of some cells. -/
structure ShowsRow (cells : List String) (block : List String) : Prop where
  /-- There are as many lines as the highest cell has. -/
  height : block.length = (cells.map fun cell => (cell.splitOn "\n").length).foldl max 0
  /-- Each line shows the matching lines of the cells. -/
  line (i : Nat) (h : i < block.length) :
    ShowsLine (cells.map fun cell => (cell.splitOn "\n").getD i "") block[i]

/-- The text of a table shows the header and the rows of a sheet. -/
structure ShowsSheet (sheet : Sheet) (text : String) (header : List String)
    (blocks : List (List String)) : Prop where
  /-- There are lines of border around the whole and below the header, and nothing else. -/
  text_eq : ∃ n, text = "\n".intercalate (border "┌" "─" "┐" n :: header ++
    border "╞" "═" "╡" n :: blocks.flatten ++ [border "└" "─" "┘" n])
  /-- First comes the header. -/
  header : ShowsRow sheet.header header
  /-- Then there is a block for every row, in order. -/
  rows : List.Forall₂ (fun row block => ShowsRow (row.map Cell.text) block) sheet.rows blocks

/-- A printer shows every sheet whose rows are as long as its header. -/
def PrintsRows (print : Sheet → String) : Prop :=
  ∀ sheet : Sheet, (∀ row ∈ sheet.rows, row.length = sheet.header.length) →
    ∃ header blocks, ShowsSheet sheet (print sheet) header blocks

/-! ## Tables -/

/-- The columns between the corners of a table: every column stands between two blanks, and one
blank stands between two of them. -/
def innerWidth : List Nat → Nat
  | [] => 0
  | [width] => width + 2
  | width :: next :: rest => width + 2 + (1 + innerWidth (next :: rest))

/-- A horizontal line is a line of border. -/
lemma ruleLine_eq (left line right : String) (widths : List Nat) :
    ruleLine left line right widths = border left line right (innerWidth widths) := by
  suffices h : line.intercalate
      (widths.map fun width => String.join (List.replicate (width + 2) line)) =
        String.join (List.replicate (innerWidth widths) line) by
    rw [ruleLine, border, h]
  induction widths with
  | nil => rfl
  | cons width rest ih =>
    cases rest with
    | nil => exact String.intercalate_singleton
    | cons next others =>
      rw [List.map_cons] at ih
      rw [List.map_cons, List.map_cons, String.intercalate_cons_cons, ih, innerWidth,
        List.replicate_add (width + 2), String.join_append, List.replicate_add 1,
        String.join_append]
      simp [String.append_assoc]

/-- The lines of a row show its cells. -/
lemma showsRow_rowLines {widths : List Nat} {row : List String}
    (h : widths.length = row.length) : ShowsRow row (rowLines widths row) where
  height := by simp [rowLines, cellLines, Function.comp_def]
  line i hi := by
    refine ⟨List.zipWith (fun width cell => width - columns ((cellLines cell).getD i "")) widths
      row, by simp [h], ?_⟩
    have hparts : List.zipWith (fun width lines => " " ++ padTo width (lines.getD i "") ++ " ")
        widths (row.map cellLines) = List.zipWith
          (fun part n => " " ++ (part ++ String.ofList (List.replicate n ' ')) ++ " ")
          (row.map fun cell => (cell.splitOn "\n").getD i "")
          (List.zipWith (fun width cell => width - columns ((cellLines cell).getD i "")) widths
            row) := by
      refine List.ext_getElem (by simp [h]) fun j _ _ => ?_
      simp [padTo, cellLines]
    simp only [rowLines, List.getElem_map, List.getElem_range, hparts]

namespace Sheet

variable {sheet : Sheet}

lemma length_widths (sheet : Sheet) : sheet.widths.length = sheet.header.length := by
  simp [widths, columnWidths]

/-- The rows of a table are as long as its header. -/
lemma length_of_mem_texts (h : ∀ row ∈ sheet.rows, row.length = sheet.header.length)
    {texts : List String} (htexts : texts ∈ sheet.header :: sheet.texts) :
    texts.length = sheet.widths.length := by
  rw [length_widths]
  rcases List.mem_cons.1 htexts with rfl | htexts
  · rfl
  · obtain ⟨row, hrow, rfl⟩ := List.mem_map.1 htexts
    rw [List.length_map, h row hrow]

end Sheet

/-- **A table shows its sheet.**  Whatever the cells are and however wide they are, there is a block
of lines for every row, in order, which shows its cells. -/
theorem printsRows_table : PrintsRows table := by
  intro sheet hrows
  refine ⟨rowLines sheet.widths sheet.header, sheet.texts.map (rowLines sheet.widths),
    ⟨innerWidth sheet.widths, ?_⟩, showsRow_rowLines sheet.length_widths, ?_⟩
  · rw [← ruleLine_eq, ← ruleLine_eq, ← ruleLine_eq, ← List.flatMap_def]
    simp only [table, tableLines, List.append_assoc, List.cons_append, List.nil_append]
  · rw [Sheet.texts, List.forall₂_map_right_iff, List.forall₂_map_right_iff, List.forall₂_same]
    intro row hrow
    exact showsRow_rowLines (by rw [sheet.length_widths, List.length_map, hrows row hrow])

/-! ## Widths -/

/-- The characters that borders are made of. -/
def borderCharacters : List Char := ['┌', '─', '┐', '╞', '═', '╡', '└', '┘', '│']

lemma single_border {c : Char} (h : c ∈ borderCharacters) : Single c := by
  have hall : borderCharacters.all (fun c => decide (Single c)) = true := by decide +kernel
  exact of_decide_eq_true (List.all_eq_true.1 hall c h)

/-- Lines of border are as wide as the number of their parts says. -/
lemma columns_border {left line right : Char} (hleft : left ∈ borderCharacters)
    (hline : line ∈ borderCharacters) (hright : right ∈ borderCharacters) (n : Nat) :
    columns (border (String.singleton left) (String.singleton line) (String.singleton right) n) =
      n + 2 := by
  have htext : (border (String.singleton left) (String.singleton line) (String.singleton right)
      n).toList = left :: (List.replicate n line ++ [right]) := by
    simp [border, String.toList_join, List.flatMap_replicate]
  rw [columns_of_single, htext]
  · simp
  · intro c hc
    rw [htext, List.mem_cons, List.mem_append, List.mem_singleton] at hc
    rcases hc with rfl | hc | rfl
    · exact single_border hleft
    · exact List.eq_of_mem_replicate hc ▸ single_border hline
    · exact single_border hright

/-- Parts between blanks take the columns of each. -/
lemma columns_spaced (front : String) (parts : List String) :
    columns (front ++ " ".intercalate (parts.map fun part => " " ++ part ++ " ")) =
      columns front + innerWidth (parts.map columns) := by
  -- A part between blanks, as it stands behind some text.
  have hpart : ∀ front part : String,
      columns (front ++ (" " ++ part ++ " ")) = columns front + (columns part + 2) := by
    intro front part
    have hfront := columns_append_blank front (part ++ " ")
    have hend := columns_append_blank part ""
    rw [String.append_empty, columns_empty] at hend
    simp only [String.append_assoc] at hfront ⊢
    omega
  induction parts generalizing front with
  | nil => rw [List.map_nil, String.intercalate_nil, String.append_empty]; rfl
  | cons part rest ih =>
    cases rest with
    | nil => simpa [innerWidth] using hpart front part
    | cons next others =>
      have hblank := columns_append_blank (front ++ (" " ++ part ++ " "))
        (" ".intercalate ((next :: others).map fun part => " " ++ part ++ " "))
      have hrest := ih ""
      rw [String.empty_append, columns_empty] at hrest
      rw [hpart, hrest] at hblank
      simp only [List.map_cons, String.intercalate_cons_cons, String.append_assoc] at hblank ⊢
      rw [hblank]
      simp [innerWidth]
      omega

/-- A text that is filled up is as wide as it is to be, if it is not wider. -/
lemma columns_padTo {width : Nat} {text : String} (h : columns text ≤ width) :
    columns (padTo width text) = width := by
  have hblanks : ∀ c ∈ (String.ofList (List.replicate (width - columns text) ' ')).toList,
      Single c := by
    intro c hc
    rw [String.toList_ofList] at hc
    rw [List.eq_of_mem_replicate hc]
    exact single_blank
  rw [padTo, columns_append_single _ hblanks, String.toList_ofList, List.length_replicate]
  omega

lemma le_foldl_max {n m : Nat} {ns : List Nat} (h : n ≤ m ∨ n ∈ ns) : n ≤ ns.foldl max m := by
  induction ns generalizing m with
  | nil => simpa using h
  | cons k ns ih =>
    refine ih ?_
    rcases h with h | h
    · exact .inl (Nat.le_trans h (Nat.le_max_left m k))
    · rcases List.mem_cons.1 h with rfl | h
      · exact .inl (Nat.le_max_right m n)
      · exact .inr h

/-- The lines of a cell are no wider than the cell. -/
lemma columns_cellLine_le (cell : String) (i : Nat) :
    columns ((cellLines cell).getD i "") ≤ cellWidth cell := by
  rcases Nat.lt_or_ge i (cellLines cell).length with hi | hi
  · rw [List.getD_eq_getElem _ _ hi]
    exact le_foldl_max (.inr (List.mem_map_of_mem (List.getElem_mem hi)))
  · rw [List.getD_eq_default _ _ hi]
    exact Nat.zero_le _

/-- A column is as wide as its widest cell. -/
lemma cellWidth_le {count : Nat} {rows : List (List String)} {row : List String} (h : row ∈ rows)
    (i : Nat) (hi : i < (columnWidths count rows).length) :
    cellWidth (row.getD i "") ≤ (columnWidths count rows)[i] := by
  simp only [columnWidths, List.getElem_map, List.getElem_range]
  exact le_foldl_max (.inr (List.mem_map_of_mem h))

/-- The lines of a row are as wide as the columns, if its cells are no wider than these. -/
lemma columns_of_mem_rowLines {widths : List Nat} {row : List String}
    (hlength : row.length = widths.length)
    (hfits : ∀ i (h : i < widths.length), cellWidth (row.getD i "") ≤ widths[i])
    {line : String} (hline : line ∈ rowLines widths row) :
    columns line = innerWidth widths + 2 := by
  obtain ⟨i, -, rfl⟩ := List.mem_map.1 hline
  let parts := List.zipWith (fun width lines => padTo width (lines.getD i "")) widths
    (row.map cellLines)
  have hparts : parts.map columns = widths := by
    refine List.ext_getElem (by simp [parts, hlength]) fun j _ hj => ?_
    have hcell := Nat.le_trans (columns_cellLine_le _ i) (hfits j hj)
    rw [List.getD_eq_getElem row "" (hlength ▸ hj)] at hcell
    simpa [parts] using columns_padTo hcell
  have hcorner : ∀ c ∈ ("│" : String).toList, Single c := fun c hc =>
    single_border (by simp_all [borderCharacters])
  have hinner := columns_spaced "│" parts
  rw [hparts, List.map_zipWith] at hinner
  have hcolumns : columns "│" = 1 := columns_of_single hcorner
  rw [hcolumns, Nat.add_comm] at hinner
  exact (columns_append_single _ hcorner).trans (congrArg (· + 1) hinner)

/-- **A table is aligned.**  Whatever the cells are, all lines of a table take the same number of
columns. -/
theorem columns_of_mem_tableLines {sheet : Sheet}
    (h : ∀ row ∈ sheet.rows, row.length = sheet.header.length) {line : String}
    (hline : line ∈ tableLines sheet) : columns line = innerWidth sheet.widths + 2 := by
  have hrow : ∀ texts ∈ sheet.header :: sheet.texts, ∀ line ∈ rowLines sheet.widths texts,
      columns line = innerWidth sheet.widths + 2 := fun texts htexts line hline =>
    columns_of_mem_rowLines (Sheet.length_of_mem_texts h htexts)
      (fun i hi => cellWidth_le htexts i hi) hline
  have hborder : ∀ left line right : Char, left ∈ borderCharacters → line ∈ borderCharacters →
      right ∈ borderCharacters → columns (ruleLine (String.singleton left) (String.singleton line)
        (String.singleton right) sheet.widths) = innerWidth sheet.widths + 2 := by
    intro left line right hleft hline hright
    rw [ruleLine_eq, columns_border hleft hline hright]
  simp only [tableLines, List.mem_append, List.mem_singleton, List.mem_flatMap] at hline
  rcases hline with (((rfl | hline) | rfl) | ⟨texts, htexts, hline⟩) | rfl
  · exact hborder '┌' '─' '┐' (by decide) (by decide) (by decide)
  · exact hrow _ List.mem_cons_self line hline
  · exact hborder '╞' '═' '╡' (by decide) (by decide) (by decide)
  · exact hrow texts (List.mem_cons_of_mem _ htexts) line hline
  · exact hborder '└' '─' '┘' (by decide) (by decide) (by decide)

end Abnf.Text
