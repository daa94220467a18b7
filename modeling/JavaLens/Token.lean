import JavaLens.Keyword
import JavaLens.Span

/-!
# Tokens

A token is what the grammar sees of a source: comments and blanks are gone, every literal is one
kind, and words are split into identifiers and reserved words. Shift operators are left as runs of
`<` and `>`, so that nested type arguments close cleanly.

## Main definitions

* `Token.Kind` — the kinds the grammar tells apart.
* `Token` — a kind with the text it stands for and where that text lies.
-/

namespace JavaLens

/-- The kinds of tokens. -/
inductive Token.Kind where
  | ident
  | keyword (word : Keyword)
  | literal
  | lbrace
  | rbrace
  | lparen
  | rparen
  | lbracket
  | rbracket
  | semi
  | comma
  | dot
  | ellipsis
  | atSign
  | assign
  | lt
  | gt
  | question
  | colon
  | colonColon
  | arrow
  | operator
deriving DecidableEq, Repr, Inhabited

/-- A token: its kind, its text and the span of that text. -/
structure Token where
  kind : Token.Kind
  text : String
  span : Span
deriving DecidableEq, Repr, Inhabited

namespace Token.Kind

/-- Whether the token opens a bracketed region. -/
def isOpener : Kind → Bool
  | lbrace | lparen | lbracket => true
  | _ => false

/-- Whether the token closes a bracketed region. -/
def isCloser : Kind → Bool
  | rbrace | rparen | rbracket => true
  | _ => false

end Token.Kind

end JavaLens
