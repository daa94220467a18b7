import JavaLens.Lexeme
import JavaLens.Problem

/-!
# Tokenization

The tokens of a source and what is wrong with its characters. Comments and blanks leave no trace.
A literal that is not closed is still a literal, so the structure around it stays visible.

## Main definitions

* `Lexeme.tokenKind?` — the token that a lexeme is, if it is one.
* `Lexeme.fault?` — what is wrong with a lexeme.
* `Lexeme.Placed` — a lexeme with its span; `Lexeme.place` puts lexemes side by side.
* `tokenize` — the tokens and findings of a source.
-/

namespace JavaLens

namespace Lexeme

/-- A word is a literal, a reserved word or an identifier. -/
def wordKind (w : String) : Token.Kind :=
  if w = "true" ∨ w = "false" ∨ w = "null" then .literal
  else ((Keyword.ofWord? w).map Token.Kind.keyword).getD .ident

/-- The kind of token that a lexeme is; blanks, comments and unknown characters are none. -/
def tokenKind? (l : Lexeme) : Option Token.Kind :=
  match l.kind with
  | .blank | .lineComment | .blockComment _ | .unknown => none
  | .textBlock _ | .string _ | .character _ | .number => some .literal
  | .word => some (wordKind (String.ofList l.text))
  | .symbol kind => some kind

/-- What is wrong with a lexeme, if anything. -/
def fault? (l : Lexeme) : Option Fault :=
  match l.kind with
  | .unknown => some (.unknownCharacters (String.ofList l.text))
  | .blockComment false => some .openComment
  | .textBlock false => some .openTextBlock
  | .string false => some .openString
  | .character false => some .openCharacter
  | _ => none

/-- A lexeme and where it lies. -/
structure Placed where
  lexeme : Lexeme
  span : Span
deriving Repr

/-- The lexemes side by side from the byte offset `start`, behind those `done`. -/
def placeFrom (done : Array Placed) (start : Nat) : List Lexeme → Array Placed
  | [] => done
  | l :: ls =>
    let stop := start + byteLength l.text
    placeFrom (done.push ⟨l, start, stop⟩) stop ls

/-- The lexemes of a text, each with its span. -/
def place (ls : List Lexeme) : List Placed := (placeFrom #[] 0 ls).toList

/-- The token that a placed lexeme is. -/
def Placed.token? (p : Placed) : Option Token :=
  p.lexeme.tokenKind?.map fun kind => ⟨kind, String.ofList p.lexeme.text, p.span⟩

/-- The finding on a placed lexeme. -/
def Placed.finding? (p : Placed) : Option Finding :=
  p.lexeme.fault?.map fun fault => ⟨fault, p.span⟩

end Lexeme

/-- The tokens of a source and the faults in its characters, each in source order. -/
structure Tokenization where
  tokens : List Token
  findings : List Finding
deriving Repr

/-- The tokens and findings of a source. -/
def tokenize (source : String) : Tokenization :=
  let placed := Lexeme.place (Lexeme.joinUnknown (Lexeme.scan source.toList))
  ⟨placed.filterMap Lexeme.Placed.token?, placed.filterMap Lexeme.Placed.finding?⟩

end JavaLens
