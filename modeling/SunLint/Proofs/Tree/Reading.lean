import SunLint.Proofs.Parser.Order
import SunLint.Token.Literal
import SunLint.Tree

/-!
# Reading trees and tokens

A tree is read from left to right: the keywords that its nodes stand for, names,
operators and literals, with strings unquoted. Where it lacks an expression or a
statement there is a gap in the reading. A list of tokens is read in the same way, but
for the kinds that only separate and group, which a tree does not have (`isSilent`).

Readings are lists of words; a gap is `none`.
-/

namespace SunLint

/-- Words in a row, with gaps where something is lacking. -/
abbrev Reading := List (Option String)

/-! ## Trees -/

mutual

/-- The expression, read from left to right. -/
def Expr.reading : Expr → Reading
  | .ident name => [some name]
  | .string value => [some value]
  | .number literal => [some literal]
  | .bool value => [some (if value then "true" else "false")]
  | .call callee args => callee.reading ++ Expr.readingOfList args
  | .member object field => object.reading ++ [some field]
  | .list items => Expr.readingOfList items
  | .group inner => inner.reading
  | .binary op lhs rhs => lhs.reading ++ some op :: rhs.reading
  | .unary op operand => some op :: operand.reading
  | .missing => [none]

/-- The expressions, read one after the other. -/
def Expr.readingOfList : List Expr → Reading
  | [] => []
  | e :: es => e.reading ++ Expr.readingOfList es

end

@[simp]
theorem Expr.readingOfList_eq (l : List Expr) : readingOfList l = l.flatMap reading := by
  induction l with
  | nil => rfl
  | cons e l ih => rw [readingOfList, ih, List.flatMap_cons]

/-- The keyword that the form of a block is written as. -/
def Callable.Form.keyword : Callable.Form → String
  | .function => "function"
  | .component => "component"

mutual

/-- The statement, read from left to right. -/
def Statement.reading : Statement → Reading
  | .letBinding name value _ => some "let" :: some name :: value.reading
  | .stateBinding name value _ => some "state" :: some name :: value.reading
  | .when condition result otherwise _ =>
    some "when" :: (condition.reading ++ some "then" :: (result.reading ++
      Statement.readingOfElse otherwise))
  | .ret value _ => some "return" :: value.elim [] Expr.reading
  | .render value _ => some "render" :: value.reading
  | .expr value _ => value.reading
  | .block body _ => Statement.readingOfList body
  | .declaration callable => Statement.readingOfCallable callable
  | .error _ => [none]

/-- The second result of a condition, if there is one, read behind its keyword. -/
def Statement.readingOfElse : Option Statement → Reading
  | none => []
  | some s => some "else" :: s.reading

/-- The statements, read one after the other. -/
def Statement.readingOfList : List Statement → Reading
  | [] => []
  | s :: l => s.reading ++ Statement.readingOfList l

/-- The function or component, read from left to right. -/
def Statement.readingOfCallable : Callable Statement → Reading
  | ⟨form, name, params, body, _⟩ =>
    some form.keyword :: some name :: (params.map some ++ Statement.readingOfList body)

end

@[simp]
theorem Statement.readingOfList_eq (l : List Statement) : readingOfList l = l.flatMap reading := by
  induction l with
  | nil => rfl
  | cons s l ih => rw [readingOfList, ih, List.flatMap_cons]

/-- The function or component, read from left to right. -/
def Callable.reading (c : Declaration) : Reading := Statement.readingOfCallable c

/-- The item, read from left to right. -/
def Item.reading : Item → Reading
  | .directive name args _ => some name :: args.flatMap Expr.reading
  | .declaration callable => callable.reading
  | .imported path _ => [some "import", some path]
  | .exported callable _ => some "export" :: callable.reading
  | .statement s => s.reading

/-! ## Tokens -/

/-- A token that separates or groups others, and is not a part of the tree itself. -/
def Kind.isSilent : Kind → Bool
  | .newline | .semicolon | .comma | .dot | .equals | .eof => true
  | .leftBracket | .rightBracket | .leftBrace | .rightBrace | .leftParen | .rightParen => true
  | _ => false

/-- The token, read. Keywords are read as they are spelled. -/
def Token.reading (t : Token) : Reading :=
  if t.kind.isSilent then []
  else match t.kind.spelling? with
    | some word => [some word]
    | none => [some (if t.kind = .string then unquote t.text else t.text)]

theorem Token.reading_of_isSilent {t : Token} (h : t.kind.isSilent = true) : t.reading = [] := by
  rw [reading, h]
  rfl

/-- Words, numbers, operators and directives are read as they are written. -/
theorem Token.reading_of_verbatim {t : Token}
    (h : t.kind ∈ [Kind.text, .number, .symbol, .directive]) : t.reading = [some t.text] := by
  simp only [List.mem_cons, List.not_mem_nil, or_false] at h
  obtain h | h | h | h := h <;> rw [reading, h] <;> rfl

theorem Token.reading_of_string {t : Token} (h : t.kind = .string) :
    t.reading = [some (unquote t.text)] := by
  rw [reading, h]
  rfl

theorem Token.reading_of_keyword {t : Token} {word : String} (h : t.kind.spelling? = some word) :
    t.reading = [some word] := by
  have hsilent : t.kind.isSilent = false := by
    cases hk : t.kind <;> rw [hk] at h <;> first | rfl | cases h
  rw [reading, hsilent, h]
  rfl

namespace Cursor

variable {c : Cursor}

/-- What is read from the token under the cursor on. -/
def reading (c : Cursor) : Reading := (c.focus :: c.ahead).flatMap Token.reading

/-- What is behind a token is read after it. -/
theorem reading_next (h : c.ahead ≠ []) : c.reading = c.focus.reading ++ c.next.reading := by
  obtain ⟨b, f, a⟩ := c
  cases a with
  | nil => exact absurd rfl h
  | cons t ts => rfl

/-- A silent token can be passed, even if it is the last one. -/
theorem reading_next_of_isSilent (h : c.focus.kind.isSilent = true) :
    c.next.reading = c.reading := by
  obtain ⟨b, f, a⟩ := c
  cases a with
  | nil => rfl
  | cons t ts =>
    have hf := Token.reading_of_isSilent h
    simp only [next, reading, List.flatMap_cons] at hf ⊢
    rw [hf, List.nil_append]

theorem reading_skip {p : Kind → Bool} (h : ∀ kind, p kind = true → kind.isSilent = true) :
    (c.skip p).reading = c.reading := by
  obtain ⟨b, f, a⟩ := c
  rw [skip]
  induction a generalizing b f with
  | nil => rfl
  | cons t ts ih =>
    rw [skipWhile]
    split
    · rename_i hp
      rw [ih]
      exact reading_next_of_isSilent (c := ⟨b, f, t :: ts⟩) (h _ hp)
    · rfl

end Cursor

end SunLint
