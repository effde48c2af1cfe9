/-!
# Literals

The value of a string literal is the text between its quotes; what a backslash
escapes is left as it was written.
-/

namespace SunLint

/-- The text without its first character, and without its last one if that is
    the same. A literal without an end keeps all that follows the quote. -/
def unquote (literal : String) : String :=
  match literal.toList with
  | [] => ""
  | quote :: inner =>
    String.ofList (if inner.getLast? = some quote then inner.dropLast else inner)

/-- Between two quotes stands the value. -/
theorem unquote_quoted (quote : Char) (value : List Char) :
    unquote (String.ofList (quote :: (value ++ [quote]))) = String.ofList value := by
  simp [unquote]

end SunLint
