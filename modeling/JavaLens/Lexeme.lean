import JavaLens.Lexeme.Recognizer
import JavaLens.Token

/-!
# Lexemes

The scanner cuts a text into lexemes, which together are the whole text: tokens, and the blanks,
comments and unknown characters between them. At each place the longest match of any rule is taken;
where no rule matches, one character is unknown.

## Main definitions

* `Lexeme.Rule`, `Lexeme.rules` — the classes of lexemes and how each is recognized.
* `Lexeme.longest` — the longest match at the front of a text.
* `Lexeme.scan` — the lexemes of a text.
* `Lexeme.joinUnknown` — unknown characters that touch are one lexeme.
-/

namespace JavaLens

/-- The classes of lexemes. For those with a closing delimiter, `closed` says that it is there. -/
inductive Lexeme.Kind where
  | blank
  | lineComment
  | blockComment (closed : Bool)
  | textBlock (closed : Bool)
  | string (closed : Bool)
  | character (closed : Bool)
  | number
  | word
  | symbol (kind : Token.Kind)
  | unknown
deriving DecidableEq, Repr, Inhabited

/-- A piece of a text and its class. -/
structure Lexeme where
  kind : Lexeme.Kind
  text : List Char
deriving DecidableEq, Repr, Inhabited

namespace Lexeme

open Recognizer

/-! ## Classes of characters -/

/-- Space, tab, carriage return, line feed and form feed. -/
def isBlank (c : Char) : Bool := c = ' ' ∨ c = '\t' ∨ c = '\r' ∨ c = '\n' ∨ c = '\x0c'

/-- Decimal digits, with the underscore that may separate them. -/
def isDigitOrMark (c : Char) : Bool := c.isDigit ∨ c = '_'

/-- Hexadecimal digits, with the underscore that may separate them. -/
def isHexOrMark (c : Char) : Bool :=
  c.isDigit ∨ ('a' ≤ c ∧ c ≤ 'f') ∨ ('A' ≤ c ∧ c ≤ 'F') ∨ c = '_'

/-- Binary digits, with the underscore that may separate them. -/
def isBinaryOrMark (c : Char) : Bool := c = '0' ∨ c = '1' ∨ c = '_'

/-- Letters, underscore, dollar sign and every character outside ASCII. -/
def isWordStart (c : Char) : Bool := c.isAlpha ∨ c = '_' ∨ c = '$' ∨ 0x80 ≤ c.val

/-- What may follow the first character of a word. -/
def isWordPart (c : Char) : Bool := isWordStart c ∨ c.isDigit

/-- Whether `c` is one of the characters of `letters`. -/
def isOneOf (letters : List Char) (c : Char) : Bool := letters.contains c

/-! ## The rules -/

/-- A line comment runs to the end of its line. -/
def lineComment : Recognizer := (exactly ['/', '/']).extendedBy (run (· ≠ '\n'))

/-- An exponent: a letter, perhaps a sign, and digits. -/
def exponent : Recognizer :=
  (one (isOneOf ['e', 'E'])).followedBy
    ((run Char.isDigit).either ((one (isOneOf ['+', '-'])).followedBy (run Char.isDigit)))

/-- A decimal number that starts with a digit. -/
def decimal : Recognizer :=
  ((((one Char.isDigit).extendedBy (run isDigitOrMark)).extendedBy
      ((one (· = '.')).extendedBy (run isDigitOrMark))).extendedBy exponent).extendedBy
    (one (isOneOf ['l', 'L', 'f', 'F', 'd', 'D']))

/-- A decimal number that starts with its point. -/
def pointed : Recognizer :=
  ((((one (· = '.')).followedBy (one Char.isDigit)).extendedBy (run isDigitOrMark)).extendedBy
      exponent).extendedBy
    (one (isOneOf ['f', 'F', 'd', 'D']))

/-- A hexadecimal number. -/
def hexadecimal : Recognizer :=
  (((one (· = '0')).followedBy (one (isOneOf ['x', 'X']))).followedBy (run isHexOrMark)).extendedBy
    (one (isOneOf ['l', 'L']))

/-- A binary number. -/
def binary : Recognizer :=
  (((one (· = '0')).followedBy (one (isOneOf ['b', 'B']))).followedBy
      (run isBinaryOrMark)).extendedBy
    (one (isOneOf ['l', 'L']))

/-- The fixed spellings and the tokens they stand for. -/
def symbols : List (List Char × Token.Kind) :=
  [(['\x7b'], .lbrace), (['\x7d'], .rbrace), (['('], .lparen), ([')'], .rparen),
   (['['], .lbracket), ([']'], .rbracket), ([';'], .semi), ([','], .comma), (['.'], .dot),
   (['.', '.', '.'], .ellipsis), (['@'], .atSign), (['='], .assign), (['<'], .lt), (['>'], .gt),
   (['?'], .question), ([':'], .colon), ([':', ':'], .colonColon), (['-', '>'], .arrow)] ++
  [['=', '='], ['!', '='], ['<', '='], ['>', '='], ['&', '&'], ['|', '|'], ['+', '+'], ['-', '-'],
   ['<', '<', '='], ['+'], ['-'], ['*'], ['/'], ['%'], ['&'], ['|'], ['^'], ['!'], ['~'],
   ['+', '='], ['-', '='], ['*', '='], ['/', '='], ['%', '='], ['&', '='], ['|', '='], ['^', '='],
   ['~', '=']].map (·, .operator)

/-- A class of lexemes and its recognizer. -/
structure Rule where
  kind : Kind
  size : Recognizer

/-- The rules of the scanner. -/
def rules : List Rule :=
  [⟨.blank, run isBlank⟩,
   ⟨.lineComment, lineComment⟩,
   ⟨.blockComment true, enclosed ['/', '*'] ['*', '/'] true⟩,
   ⟨.blockComment false, enclosed ['/', '*'] ['*', '/'] false⟩,
   ⟨.textBlock true, enclosed ['"', '"', '"'] ['"', '"', '"'] true⟩,
   ⟨.textBlock false, enclosed ['"', '"', '"'] ['"', '"', '"'] false⟩,
   ⟨.string true, quoted '"' true⟩,
   ⟨.string false, quoted '"' false⟩,
   ⟨.character true, quoted '\'' true⟩,
   ⟨.character false, quoted '\'' false⟩,
   ⟨.number, decimal⟩,
   ⟨.number, pointed⟩,
   ⟨.number, hexadecimal⟩,
   ⟨.number, binary⟩,
   ⟨.word, (one isWordStart).extendedBy (run isWordPart)⟩] ++
  symbols.map fun (spelling, kind) => ⟨.symbol kind, exactly spelling⟩

/-! ## Scanning -/

/-- The class and length of the longest match at the front of `cs`, the first of the longest if
there are several. A length of zero says that no rule matches. -/
def longest (cs : List Char) : Kind × Nat :=
  rules.foldl (fun best rule =>
    let size := rule.size cs
    if best.2 < size then (rule.kind, size) else best) (.unknown, 0)

/-- The lexemes of a text behind those `done`. -/
def scanFrom (done : Array Lexeme) : List Char → Array Lexeme
  | [] => done
  | c :: cs =>
    let (kind, size) := longest (c :: cs)
    -- At least one character is taken, also where no rule matches.
    scanFrom (done.push ⟨kind, c :: cs.take (size - 1)⟩) (cs.drop (size - 1))
termination_by cs => cs.length
decreasing_by simp only [List.length_drop, List.length_cons]; omega

/-- The lexemes of a text, in order. -/
def scan (cs : List Char) : List Lexeme := (scanFrom #[] cs).toList

/-- The lexeme `l` in front of others; unknown characters that touch are one lexeme. -/
def consUnknown (l : Lexeme) : List Lexeme → List Lexeme
  | [] => [l]
  | next :: rest =>
    if l.kind = .unknown ∧ next.kind = .unknown then ⟨.unknown, l.text ++ next.text⟩ :: rest
    else l :: next :: rest

/-- The lexemes with each run of unknown ones made one. -/
def joinUnknown (ls : List Lexeme) : List Lexeme := ls.foldr consUnknown []

/-- The number of bytes of a text. -/
def byteLength (cs : List Char) : Nat := cs.foldl (fun n c => n + c.utf8Size) 0

end Lexeme

end JavaLens
