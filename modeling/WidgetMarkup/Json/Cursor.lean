import WidgetMarkup.Json.Fault

/-!
# Reading with a place

A reader of JSON goes through a text from left to right with a cursor, which
holds what is left of the text and knows its place. A `Reader` is a
computation that moves the cursor or ends in a fault.

A fault is put at one of two places. `failHere` puts it where the cursor is,
and `failAhead` behind the next byte: this is where the cursor would be if
the character in question were taken. At the end of the text the two are
the same.
-/

namespace WidgetMarkup.Json

/-- **What is left of a text, and where it begins.** -/
structure Cursor where
  /-- What is left. -/
  rest : List Char
  /-- The place of its beginning. -/
  place : Place
deriving DecidableEq, Repr

/-- The place behind `c`. -/
def Place.behind (p : Place) (c : Char) : Place :=
  if c = '\n' then ⟨p.line + 1, 0⟩ else ⟨p.line, p.column + c.utf8Size⟩

/-- The place that lies the given number of bytes behind another. It may be
in the middle of a character. -/
def Place.bytesBehind (p : Place) : Nat → List Char → Place
  | 0, _ => p
  | _ + 1, [] => p
  | n + 1, c :: rest =>
    if c.utf8Size ≤ n + 1 then (p.behind c).bytesBehind (n + 1 - c.utf8Size) rest
    else ⟨p.line, p.column + (n + 1)⟩
termination_by structural _ s => s

namespace Cursor

/-- The cursor at the beginning of a text. -/
def start (text : String) : Cursor :=
  ⟨text.toList, ⟨1, 0⟩⟩

/-- The cursor behind the next `n` characters. -/
def skip (c : Cursor) (n : Nat) : Cursor :=
  ⟨c.rest.drop n, (c.rest.take n).foldl Place.behind c.place⟩

/-- The cursor behind the longest row of characters of the given kind. -/
def skipWhile (c : Cursor) (p : Char → Bool) : Cursor :=
  c.skip (c.rest.takeWhile p).length

/-- The place behind the next byte. -/
def ahead (c : Cursor) : Place :=
  c.place.bytesBehind 1 c.rest

end Cursor

/-- **A reader** moves the cursor and gives a value, or ends in a fault. -/
abbrev Reader (α : Type) := StateT Cursor (Except Fault) α

/-- The next character, which is not taken. -/
def peek : Reader (Option Char) := do
  return (← get).rest.head?

/-- Takes the next `n` characters. -/
def take (n : Nat) : Reader Unit :=
  modify (·.skip n)

/-- Takes the longest row of characters of a kind. -/
def takeWhile (p : Char → Bool) : Reader (List Char) := do
  let c ← get
  set (c.skipWhile p)
  return c.rest.takeWhile p

/-- Ends with a fault where the cursor is. -/
def failHere {α : Type} (cause : Cause) : Reader α := fun c =>
  .error ⟨cause, c.place⟩

/-- Ends with a fault behind the next byte. -/
def failAhead {α : Type} (cause : Cause) : Reader α := fun c =>
  .error ⟨cause, c.ahead⟩

/-- The white space of JSON. -/
def isSpace (c : Char) : Bool :=
  c == ' ' || c == '\n' || c == '\t' || c == '\r'

/-- Skips white space and gives the next character, which is not taken. -/
def peekToken : Reader (Option Char) := do
  modify (·.skipWhile isSpace)
  peek

/-- Takes the characters of a word. -/
def takeWord : List Char → Reader Unit
  | [] => pure ()
  | c :: more => do
    match ← peek with
    | none => failHere .endInValue
    | some d =>
      if d = c then
        take 1
        takeWord more
      else failAhead .expectedWord

/-- Repeats a step, at most the given number of times, until it gives an
answer. -/
def rounds {σ α : Type} (step : σ → Reader (σ ⊕ α)) : Nat → σ → Reader α
  | 0, _ => failHere .endInValue
  | n + 1, s => do
    match ← step s with
    | .inl s => rounds step n s
    | .inr a => pure a

/-- **Repeats a step until it gives an answer.** A step that does not answer
has to take a character, so there are no more steps than characters, and one
to answer. -/
def untilAnswer {σ α : Type} (step : σ → Reader (σ ⊕ α)) (s : σ) : Reader α := do
  rounds step ((← get).rest.length + 1) s

end WidgetMarkup.Json
