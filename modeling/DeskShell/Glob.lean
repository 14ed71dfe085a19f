/-!
# Wildcards

A pattern matches whole names: `*` any text, `?` any one character, everything else itself. Neither
wildcard matches a newline, and one newline at the very end of a name may be left over.

* `Glob.fitsList`: the wildcard match of two texts.
* `Glob.fits`: the match of a pattern and a name.
-/
namespace DeskShell.Glob

/-- The whole of `name` matches `pattern`. -/
def fitsList : List Char → List Char → Bool
  | [], name => name.isEmpty
  | '*' :: pattern, [] => fitsList pattern []
  | '*' :: pattern, c :: name =>
    fitsList pattern (c :: name) || (c != '\n' && fitsList ('*' :: pattern) name)
  | '?' :: pattern, c :: name => c != '\n' && fitsList pattern name
  | p :: pattern, c :: name => p == c && fitsList pattern name
  | _ :: _, [] => false
termination_by pattern name => pattern.length + name.length

/-- The name, or the name less one newline at its end, matches. -/
def fits (pattern name : String) : Bool :=
  fitsList pattern.toList name.toList ||
    (name.toList.getLast? == some '\n' && fitsList pattern.toList name.toList.dropLast)

end DeskShell.Glob
