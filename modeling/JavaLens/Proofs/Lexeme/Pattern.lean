import JavaLens.Lexeme
import Mathlib.Computability.Language

/-!
# Patterns

The lexemes of Java are given by a table of regular expressions. Each of them stands for a regular
language over characters, told here by union, concatenation and closure alone, without a way to
recognize it.

A block comment and a text block are in the table with their openers only. What follows the opener,
up to the first closer or to the end, belongs to the lexeme too.

## Main definitions

* `Regex`, `Regex.language` — regular expressions and what they match.
* `Lexeme.Pattern`, `Lexeme.patterns` — the classes of lexemes and the expressions for them.
* `Lexeme.Pattern.Matches` — a text that a pattern matches.
* `Lexeme.Region` — comments and text blocks, which go on to their closers.
* `Lexeme.Taken` — the lexeme to be taken at the front of a text.
-/

namespace JavaLens

open Computability

/-- Regular expressions over characters. -/
inductive Regex where
  /-- The empty text. -/
  | empty
  /-- One character of a class. -/
  | oneOf (p : Char → Bool)
  | append (r s : Regex)
  | either (r s : Regex)
  | star (r : Regex)

namespace Regex

/-- The texts that an expression matches. -/
def language : Regex → Language Char
  | empty => 1
  | oneOf p => {w | ∃ c, p c ∧ w = [c]}
  | append r s => r.language * s.language
  | either r s => r.language + s.language
  | star r => r.language∗

/-- The expression `r?`. -/
def opt (r : Regex) : Regex := either empty r

/-- The expression `r+`. -/
def plus (r : Regex) : Regex := append r (star r)

/-- A fixed spelling. -/
def literal : List Char → Regex
  | [] => empty
  | c :: cs => append (oneOf (· = c)) (literal cs)

/-- One of some fixed spellings, or what another expression matches. -/
def literalOr (spellings : List (List Char)) (r : Regex) : Regex :=
  spellings.foldr (fun spelling others => either (literal spelling) others) r

variable {p : Char → Bool} {r s : Regex} {w : List Char}

@[simp] theorem mem_empty : w ∈ empty.language ↔ w = [] := Iff.rfl

@[simp] theorem mem_oneOf : w ∈ (oneOf p).language ↔ ∃ c, p c ∧ w = [c] := Iff.rfl

@[simp] theorem mem_append :
    w ∈ (append r s).language ↔ ∃ u ∈ r.language, ∃ v ∈ s.language, u ++ v = w := Iff.rfl

@[simp] theorem mem_either :
    w ∈ (either r s).language ↔ w ∈ r.language ∨ w ∈ s.language := Iff.rfl

@[simp] theorem mem_opt : w ∈ (opt r).language ↔ w = [] ∨ w ∈ r.language := Iff.rfl

@[simp] theorem mem_literal {spelling : List Char} :
    w ∈ (literal spelling).language ↔ w = spelling := by
  induction spelling generalizing w with
  | nil => rfl
  | cons c cs ih => simp [literal, ih, eq_comm]

@[simp] theorem mem_literalOr {spellings : List (List Char)} :
    w ∈ (literalOr spellings r).language ↔ w ∈ spellings ∨ w ∈ r.language := by
  induction spellings with
  | nil => simp [literalOr]
  | cons spelling spellings ih =>
    change w ∈ (literal spelling).language ∨ w ∈ (literalOr spellings r).language ↔ _
    rw [mem_literal, ih, List.mem_cons, or_assoc]

/-- A repeated expression matches the empty text, and a text of its own before more of them. -/
theorem mem_star_iff :
    w ∈ (star r).language ↔ w = [] ∨ ∃ u ∈ r.language, ∃ v ∈ (star r).language, u ++ v = w := by
  have unfolded := Language.one_add_self_mul_kstar_eq_kstar r.language
  exact Iff.of_eq (congrArg (w ∈ ·) unfolded.symm)

theorem nil_mem_star (r : Regex) : [] ∈ (star r).language := Language.nil_mem_kstar _

theorem append_mem_star {u v : List Char} (hu : u ∈ r.language) (hv : v ∈ (star r).language) :
    u ++ v ∈ (star r).language := mem_star_iff.2 (.inr ⟨u, hu, v, hv, rfl⟩)

/-- What holds of the empty text and is kept by one more match in front holds of all that a repeated
expression matches. -/
theorem star_induction {motive : List Char → Prop} (nil : motive [])
    (append : ∀ u v, u ∈ r.language → v ∈ (star r).language → motive v → motive (u ++ v))
    (h : w ∈ (star r).language) : motive w := by
  obtain ⟨pieces, rfl, all⟩ := Language.mem_kstar.1 h
  clear h
  induction pieces with
  | nil => exact nil
  | cons u pieces ih =>
    obtain ⟨hu, rest⟩ := List.forall_mem_cons.1 all
    exact append u _ hu (Language.join_mem_kstar rest) (ih rest)

/-- A repeated class matches the texts of its characters. -/
@[simp] theorem mem_star_oneOf : w ∈ (star (oneOf p)).language ↔ w.all p := by
  constructor
  · intro h
    refine star_induction (motive := fun w => w.all p) rfl (fun u v hu _ ih => ?_) h
    obtain ⟨c, hc, rfl⟩ := hu
    simpa [hc] using ih
  · intro h
    induction w with
    | nil => exact nil_mem_star _
    | cons c cs ih =>
      obtain ⟨hc, hcs⟩ := Bool.and_eq_true_iff.1 (List.all_cons ▸ h)
      exact append_mem_star (u := [c]) (mem_oneOf.2 ⟨c, hc, rfl⟩) (ih hcs)

@[simp] theorem mem_plus_oneOf : w ∈ (plus (oneOf p)).language ↔ w ≠ [] ∧ w.all p := by
  constructor
  · rintro ⟨_, ⟨c, hc, rfl⟩, v, hv, rfl⟩
    simpa [hc] using mem_star_oneOf.1 hv
  · rintro ⟨hne, all⟩
    obtain ⟨c, cs, rfl⟩ := List.exists_cons_of_ne_nil hne
    obtain ⟨hc, hcs⟩ := Bool.and_eq_true_iff.1 (List.all_cons ▸ all)
    exact ⟨[c], ⟨c, hc, rfl⟩, cs, mem_star_oneOf.2 hcs, rfl⟩

end Regex

namespace Lexeme

open Regex

/-! ## The table -/

/-- The classes of lexemes that are told apart by expressions. -/
inductive Pattern where
  /-- Blanks and line comments, which leave no trace. -/
  | skip
  | blockComment
  | textBlock
  | string (closed : Bool)
  | character (closed : Bool)
  | number
  | word
  | symbol (kind : Token.Kind)
deriving DecidableEq, Repr

/-- One character of a literal between quotes, or a backslash and the character it escapes. -/
def literalUnit (quote : Char) : Regex :=
  (oneOf fun c => c ≠ quote ∧ c ≠ '\\' ∧ c ≠ '\n').either
    ((oneOf (· = '\\')).append (oneOf (· ≠ '\n')))

/-- A literal without its closing quote. -/
def openLiteral (quote : Char) : Regex := (literal [quote]).append (star (literalUnit quote))

/-- Blanks. -/
def blankRegex : Regex := plus (oneOf isBlank)

/-- A line comment. -/
def lineCommentRegex : Regex := (literal ['/', '/']).append (star (oneOf (· ≠ '\n')))

/-- The exponent of a number. -/
def exponentRegex : Regex :=
  ((oneOf (isOneOf ['e', 'E'])).append (opt (oneOf (isOneOf ['+', '-'])))).append
    (plus (oneOf Char.isDigit))

/-- A decimal number that starts with a digit. -/
def decimalRegex : Regex :=
  ((((oneOf Char.isDigit).append (star (oneOf isDigitOrMark))).append
      (opt ((oneOf (· = '.')).append (star (oneOf isDigitOrMark))))).append
    (opt exponentRegex)).append (opt (oneOf (isOneOf ['l', 'L', 'f', 'F', 'd', 'D'])))

/-- A decimal number that starts with its point. -/
def pointedRegex : Regex :=
  ((((oneOf (· = '.')).append (oneOf Char.isDigit)).append (star (oneOf isDigitOrMark))).append
    (opt exponentRegex)).append (opt (oneOf (isOneOf ['f', 'F', 'd', 'D'])))

/-- A number in hexadecimal or binary: a zero, the letter for the base, and digits. -/
def basedRegex (letters : List Char) (digit : Char → Bool) : Regex :=
  (((oneOf (· = '0')).append (oneOf (isOneOf letters))).append (plus (oneOf digit))).append
    (opt (oneOf (isOneOf ['l', 'L'])))

/-- A word. -/
def wordRegex : Regex := (oneOf isWordStart).append (star (oneOf isWordPart))

/-- The spellings that stand for kinds of their own. -/
def punctuation : List (List Char × Token.Kind) :=
  [(['\x7b'], .lbrace), (['\x7d'], .rbrace), (['('], .lparen), ([')'], .rparen),
   (['['], .lbracket), ([']'], .rbracket), ([';'], .semi), ([','], .comma), (['.'], .dot),
   (['.', '.', '.'], .ellipsis), (['@'], .atSign), (['='], .assign), (['<'], .lt), (['>'], .gt),
   (['?'], .question), ([':'], .colon), ([':', ':'], .colonColon), (['-', '>'], .arrow)]

/-- The operators that are spelled out. -/
def spelledOperators : List (List Char) :=
  [['=', '='], ['!', '='], ['<', '='], ['>', '='], ['&', '&'], ['|', '|'], ['+', '+'], ['-', '-'],
   ['<', '<', '=']]

/-- The operators of one character, which may be combined with an assignment. -/
def simpleOperators : List Char := ['+', '-', '*', '/', '%', '&', '|', '^', '!', '~']

/-- The operators. -/
def operatorRegex : Regex :=
  literalOr spelledOperators ((oneOf (isOneOf simpleOperators)).append (opt (literal ['='])))

/-- The patterns of lexemes. -/
def patterns : List (Pattern × Regex) :=
  [(.skip, blankRegex.either lineCommentRegex),
   (.blockComment, literal ['/', '*']),
   (.textBlock, literal ['"', '"', '"']),
   (.string true, (openLiteral '"').append (literal ['"'])),
   (.string false, openLiteral '"'),
   (.character true, (openLiteral '\'').append (literal ['\''])),
   (.character false, openLiteral '\''),
   (.number, decimalRegex),
   (.number, pointedRegex),
   (.number, basedRegex ['x', 'X'] isHexOrMark),
   (.number, basedRegex ['b', 'B'] isBinaryOrMark),
   (.word, wordRegex)] ++
  punctuation.map (fun entry => (.symbol entry.2, literal entry.1)) ++
  [(.symbol .operator, operatorRegex)]

/-- Whether one of the expressions of a pattern matches a text. -/
def Pattern.Matches (p : Pattern) (w : List Char) : Prop :=
  ∃ r, (p, r) ∈ patterns ∧ w ∈ r.language

/-! ## The lexeme to be taken -/

/-- The pattern of a class of lexemes. -/
def Kind.pattern? : Kind → Option Pattern
  | .blank | .lineComment => some .skip
  | .blockComment _ => some .blockComment
  | .textBlock _ => some .textBlock
  | .string closed => some (.string closed)
  | .character closed => some (.character closed)
  | .number => some .number
  | .word => some .word
  | .symbol kind => some (.symbol kind)
  | .unknown => none

/-- `w` is the longest text at the front of `cs` that any pattern matches, and no other pattern than
`p` matches it. -/
structure LongestMatch (cs : List Char) (p : Pattern) (w : List Char) : Prop where
  front : w <+: cs
  matched : p.Matches w
  longest : ∀ q v, v <+: cs → Pattern.Matches q v → v.length ≤ w.length
  only : ∀ q, Pattern.Matches q w → q = p

/-- Whether a text ends with the first closer in it. -/
structure EndsFirst (closer body : List Char) : Prop where
  ended : closer <:+ body
  first : ∀ front, front <+: body → closer <:+ front → front = body

/-- What follows the opener of a region: a body that ends with the first closer, or all the rest. -/
inductive Body (closer : List Char) : Bool → List Char → List Char → Prop where
  | closed {body rest : List Char} (ends : EndsFirst closer body) : Body closer true body rest
  | open {body : List Char} (never : ¬closer <:+: body) : Body closer false body []

/-- The regions: the pattern of the opener, the class of the lexemes, the opener and the closer. -/
inductive Region : Pattern → (Bool → Kind) → List Char → List Char → Prop where
  | blockComment : Region .blockComment .blockComment ['/', '*'] ['*', '/']
  | textBlock : Region .textBlock .textBlock ['"', '"', '"'] ['"', '"', '"']

/-- The lexeme to be taken at the front of a text: that of the longest match, which goes on to its
closer where a block comment or a text block opens, and one unknown character where nothing
matches. -/
inductive Taken : List Char → Lexeme → Prop where
  | matched {w rest : List Char} {p : Pattern} {kind : Kind}
      (longest : LongestMatch (w ++ rest) p w) (whole : p ≠ .blockComment ∧ p ≠ .textBlock)
      (named : kind.pattern? = some p) :
      Taken (w ++ rest) ⟨kind, w⟩
  | region {p : Pattern} {kind : Bool → Kind} {opener closer body rest : List Char} {closed : Bool}
      (region : Region p kind opener closer)
      (longest : LongestMatch (opener ++ (body ++ rest)) p opener)
      (closes : Body closer closed body rest) :
      Taken (opener ++ (body ++ rest)) ⟨kind closed, opener ++ body⟩
  | unknown {c : Char} {rest : List Char}
      (unmatched : ∀ p w, w <+: c :: rest → ¬Pattern.Matches p w) :
      Taken (c :: rest) ⟨.unknown, [c]⟩

end Lexeme

end JavaLens
