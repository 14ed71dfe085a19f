/-!
# Pieces of a text

Cutting a text at every occurrence of one character and joining pieces with it again. Lines are the
pieces at the newline, path segments those at the separator.

* `pieces`, `glue`: the two directions; `glue_pieces` says that nothing is lost.
* `lines`, `unlines`: the case of the newline.
-/
namespace DeskShell.Text

/-- The pieces of `s` between occurrences of `sep`: one more than there are occurrences. -/
def pieces (sep : Char) (s : String) : List String :=
  (s.toList.splitOn sep).map String.ofList

def glue (sep : Char) (parts : List String) : String :=
  (String.singleton sep).intercalate parts

theorem toList_glue (sep : Char) (parts : List String) :
    (glue sep parts).toList = [sep].intercalate (parts.map String.toList) := by
  simp [glue, String.toList_intercalate]

theorem glue_pieces (sep : Char) (s : String) : glue sep (pieces sep s) = s := by
  apply String.toList_inj.mp
  simp [toList_glue, pieces, List.map_map, Function.comp_def, List.intercalate_splitOn]

theorem pieces_ne_nil (sep : Char) (s : String) : pieces sep s ≠ [] := by
  simp [pieces, List.splitOn_ne_nil]

def lines (s : String) : List String := pieces '\n' s

def unlines (parts : List String) : String := glue '\n' parts

theorem unlines_lines (s : String) : unlines (lines s) = s := glue_pieces '\n' s

theorem unlines_singleton (t : String) : unlines [t] = t := by
  unfold unlines glue
  exact String.intercalate_singleton

theorem unlines_append {a b : List String} (ha : a ≠ []) (hb : b ≠ []) :
    unlines (a ++ b) = unlines a ++ "\n" ++ unlines b :=
  String.intercalate_append_of_ne_nil ha hb

end DeskShell.Text
