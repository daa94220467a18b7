/-!
# Text without terminal controls

A text can hold characters and sequences of characters that a terminal obeys and does not show.
A sequence starts with an escape character, and the character behind it tells how it goes on.

## Main definitions

* `Text.Terminal.State` — where in a sequence a terminal is.
* `Text.shown` — a text without the parts that a terminal does not show.
-/

namespace JavaLens.Text

namespace Terminal

/-- Where in a sequence a terminal is. -/
inductive State where
  /-- Outside of any sequence. -/
  | ground
  /-- Behind an escape character. -/
  | escape
  /-- In a sequence that a digit, a letter or a mark behind the digits ends. -/
  | intermediate
  /-- In a sequence that a letter or a mark behind the digits ends. -/
  | control
  /-- In a text for the operating system, which a bell ends. -/
  | command
  /-- In a text for the device, which the byte 9C ends. -/
  | device
deriving DecidableEq, Repr

/-- Whether a character is a blank that moves the place where a terminal writes. -/
def isMove (c : Char) : Bool := c = '\t' ∨ c = '\n' ∨ c = '\x0c' ∨ c = '\r'

namespace State

/-- Whether a terminal shows a character that comes in a state. -/
def shows (s : State) (c : Char) : Bool :=
  match s with
  | ground => isMove c ∨ (' ' ≤ c ∧ c ≠ '\x7f')
  | escape | intermediate | control => isMove c
  | command | device => false

/-- The state behind a character that is not shown. -/
def next (s : State) (c : Char) : State :=
  if c = '\x1b' then escape
  else if c = '\x18' ∨ c = '\x1a' then ground
  else
    match s with
    | ground => ground
    | escape =>
      if c = '[' then control
      else if c = ']' then command
      else if c = 'P' ∨ c = 'X' ∨ c = '^' ∨ c = '_' then device
      else if ' ' ≤ c ∧ c ≤ '/' then intermediate
      else if '0' ≤ c ∧ c ≤ '~' then ground
      else escape
    | intermediate => if '0' ≤ c ∧ c ≤ '~' then ground else intermediate
    | control => if '@' ≤ c ∧ c ≤ '~' then ground else control
    | command => if c = '\x07' then ground else command
    | device => if (String.singleton c).toUTF8.toList.contains 0x9c then ground else device

end State

/-- The characters that are shown of a text behind a state. Once one of them is shown, so is all
that would be shown outside of a sequence, and the sequence goes on behind it. -/
def shownFrom (s : State) (showing : Bool) : List Char → List Char
  | [] => []
  | c :: rest =>
    if s.shows c || (showing && State.ground.shows c) then
      c :: shownFrom (if c ≤ '\x7f' then s else .ground) true rest
    else shownFrom (s.next c) false rest

end Terminal

/-- A text without the parts that a terminal does not show. -/
def shown (s : String) : String := String.ofList (Terminal.shownFrom .ground false s.toList)

end JavaLens.Text
