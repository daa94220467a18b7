/-!
# Recognizers

A recognizer measures how much of the front of a text belongs to a class of texts: it gives the
length of the longest such prefix, and zero when there is none. The classes the scanner needs are
built from single characters and runs with two ways of chaining.

## Main definitions

* `Recognizer.one`, `Recognizer.run`, `Recognizer.exactly` — the building blocks.
* `Recognizer.followedBy` — both parts are required.
* `Recognizer.extendedBy` — the second part is optional.
* `Recognizer.enclosed`, `Recognizer.quoted` — regions with a closing delimiter, closed or not.
-/

namespace JavaLens

/-- The length of the longest prefix in a class of non-empty texts, or zero. -/
abbrev Recognizer := List Char → Nat

namespace Recognizer

/-- One character that satisfies `p`. -/
def one (p : Char → Bool) : Recognizer
  | [] => 0
  | c :: _ => if p c then 1 else 0

/-- A run of characters that satisfy `p`. -/
def run (p : Char → Bool) : Recognizer := fun cs => (cs.takeWhile p).length

/-- One fixed spelling. -/
def exactly (spelling : List Char) : Recognizer := fun cs =>
  if spelling.isPrefixOf cs then spelling.length else 0

/-- A text of the first class and right behind it one of the second. -/
def followedBy (first second : Recognizer) : Recognizer := fun cs =>
  match first cs with
  | 0 => 0
  | n + 1 =>
    match second (cs.drop (n + 1)) with
    | 0 => 0
    | m + 1 => n + 1 + (m + 1)

/-- A text of the first class, and right behind it one of the second if there is one. -/
def extendedBy (first second : Recognizer) : Recognizer := fun cs =>
  match first cs with
  | 0 => 0
  | n + 1 => n + 1 + second (cs.drop (n + 1))

/-- The longer of two matches. -/
def either (first second : Recognizer) : Recognizer := fun cs => max (first cs) (second cs)

/-! ## Regions with a closing delimiter -/

/-- How many characters there are up to and including the first `closer`, and whether there is one;
`seen` counts those already passed. -/
def upTo (closer : List Char) (seen : Nat) : List Char → Nat × Bool
  | [] => (seen, false)
  | c :: cs =>
    if closer.isPrefixOf (c :: cs) then (seen + closer.length, true)
    else upTo closer (seen + 1) cs

/-- A region from `opener` through the first `closer` behind it, which it has if and only if
`closed`; a region that is not closed runs to the end of the text. -/
def enclosed (opener closer : List Char) (closed : Bool) : Recognizer := fun cs =>
  if opener.isPrefixOf cs then
    let (size, found) := upTo closer opener.length (cs.drop opener.length)
    if found = closed then size else 0
  else 0

/-- The length of the body of a literal, and whether its closing quote follows. A backslash takes
the next character with it. The body does not leave its line: a newline ends it, and so does a
backslash in front of a newline or of the end. -/
def literalBody (quote : Char) (seen : Nat) : List Char → Nat × Bool
  | [] => (seen, false)
  | '\\' :: c :: cs => if c = '\n' then (seen, false) else literalBody quote (seen + 2) cs
  | c :: cs =>
    if c = quote then (seen, true)
    else if c = '\n' ∨ c = '\\' then (seen, false)
    else literalBody quote (seen + 1) cs

/-- A literal between two `quote`s, or one that lacks the second. -/
def quoted (quote : Char) (closed : Bool) : Recognizer
  | [] => 0
  | c :: cs =>
    if c = quote then
      match literalBody quote 1 cs, closed with
      | (size, true), true => size + 1
      | (_, false), true => 0
      | (size, _), false => size
    else 0

end Recognizer

end JavaLens
