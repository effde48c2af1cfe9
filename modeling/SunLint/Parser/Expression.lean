import SunLint.Parser.Basic
import SunLint.Token.Literal
import SunLint.Token.Operator

/-!
# Parsing expressions

Binary operators are read by their levels: an operator takes as its right
operand all that binds tighter than itself, so that operators of one level group
to the left. Prefix operators bind tighter than binary ones, calls and members
tighter still. Where an expression is lacking before a token that may follow
one, the gap is reported and nothing is read.
-/

namespace SunLint.Parser

/-- The level of a token as a binary operator. -/
def operatorLevel? (token : Token) : Option Nat :=
  if token.kind = .symbol then Operator.precedence? token.text else none

/-- Tokens before which an expression may be lacking: what ends a statement,
    the keywords after a condition and a result, and what closes or separates
    the parts of a list. -/
def mayFollowGap : Kind → Bool
  | .thenKw | .elseKw | .rightParen | .rightBracket | .comma => true
  | kind => kind.endsStatement

mutual

/-- An expression whose binary operators bind at least as tightly as the level
    `least`. -/
def binary : Nat → (least : Nat) → Parser Expr
  | 0, _ => exhausted
  | n + 1, least => do
    let lhs ← unary n
    operations n least lhs

/-- The operators of level `least` and above, with their right operands, that
    follow the expression. -/
def operations : Nat → (least : Nat) → Expr → Parser Expr
  | 0, _, _ => exhausted
  | n + 1, least, lhs => do
    let token ← current
    match operatorLevel? token with
    | none => return lhs
    | some level =>
      if level < least then return lhs
      else do
        advance
        skipNewlines
        let rhs ← binary n (level + 1)
        operations n least (.binary token.text lhs rhs)

/-- An operand with the operators before it. -/
def unary : Nat → Parser Expr
  | 0 => exhausted
  | n + 1 => do
    let token ← current
    if token.kind = .symbol && Operator.isUnary token.text then do
      advance
      let operand ← unary n
      return .unary token.text operand
    else do
      let e ← primary n
      suffixes n e

/-- The calls and members that follow the expression. -/
def suffixes : Nat → Expr → Parser Expr
  | 0, _ => exhausted
  | n + 1, e => do
    match ← currentKind with
    | .leftParen => do
      advance
      let args ← sequence n .rightParen
      suffixes n (.call e args)
    | .dot => do
      advance
      let field ← expectName
      suffixes n (.member e field)
    | _ => return e

/-- Expressions with commas between them, up to and past the closing token.
    Line ends do not count, and a comma may stand before the end. -/
def sequence : Nat → (close : Kind) → Parser (List Expr)
  | 0, _ => exhausted
  | n + 1, close => do
    skipNewlines
    if ← eat close then return []
    else do
      let e ← binary n 0
      skipNewlines
      if ← eat .comma then do
        let rest ← sequence n close
        return e :: rest
      else do
        let _ ← expect close
        return [e]

/-- A name, a literal, a list or an expression in parentheses. -/
def primary : Nat → Parser Expr
  | 0 => exhausted
  | n + 1 => do
    let token ← current
    match token.kind with
    | .text => do advance; return .ident token.text
    | .string => do advance; return .string (unquote token.text)
    | .number => do advance; return .number token.text
    | .trueKw => do advance; return .bool true
    | .falseKw => do advance; return .bool false
    | .leftParen => do
      advance
      skipNewlines
      let inner ← binary n 0
      skipNewlines
      let _ ← expect .rightParen
      return .group inner
    | .leftBracket => do
      advance
      let items ← sequence n .rightBracket
      return .list items
    | kind =>
      if mayFollowGap kind then do
        report (← coded .missingToken .error "Expected an expression here")
        return .missing
      else unexpected []

end

/-- An expression. -/
def expression (n : Nat) : Parser Expr := within .expression (binary n 0)

end SunLint.Parser
