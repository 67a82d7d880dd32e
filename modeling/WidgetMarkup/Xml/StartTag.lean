import WidgetMarkup.Text.Split
import WidgetMarkup.Xml.Reference

/-!
# The inside of a tag

Between `<` and `>` stand a name and attributes. The name is everything up
to the first white space. An attribute is a key, an equals sign and a value
in quotes of either kind, with white space at will around the sign and
between attributes, where there need not be any.

Attributes are looked at one after another, each of them to the end: the
key, that it is new, the value, and the references in the value. The first
fault found this way is the fault of the tag.
-/

namespace WidgetMarkup.Xml

open Text (byteLength)

/-- The white space of markup. -/
def isSpace (c : Char) : Bool :=
  c == ' ' || c == '\t' || c == '\r' || c == '\n'

/-- The characters that end a key. -/
def endsKey (c : Char) : Bool :=
  c == '=' || isSpace c

/-- Reads a key that begins at the given offset with the character `first`,
and the equals sign after it: the key, and the offset and the text after the
sign. -/
def readKey (start : Nat) (first : Char) (s : List Char) :
    Except AttributeFault (List Char × Nat × List Char) :=
  let key := first :: s.takeWhile (!endsKey ·)
  let after := s.dropWhile (!endsKey ·)
  let place := start + byteLength key + byteLength (after.takeWhile isSpace)
  match after.dropWhile isSpace with
  | '=' :: rest => .ok (key, place + 1, rest)
  | _ => .error (.expectedEquals place)

/-- Reads a value in quotes, from the given offset on: the value, and the
offset and the text after it. -/
def readValue (start : Nat) (s : List Char) :
    Except AttributeFault (List Char × Nat × List Char) :=
  let place := start + byteLength (s.takeWhile isSpace)
  match s.dropWhile isSpace with
  | [] => .error (.expectedValue place)
  | quote :: inside =>
    if quote = '"' ∨ quote = '\'' then
      match Text.splitOnce quote inside with
      | some (value, rest) => .ok (value, place + 1 + byteLength value + 1, rest)
      | none => .error (.missingQuote (place + 1 + byteLength inside) quote)
    else .error (.unquotedValue place)

/-- Reading a key uses up some text. -/
theorem length_readKey {start place : Nat} {first : Char} {s key rest : List Char}
    (h : readKey start first s = .ok (key, place, rest)) : rest.length < s.length := by
  have h₁ := (List.dropWhile_suffix (l := s) (!endsKey ·)).length_le
  have h₂ := (List.dropWhile_suffix (l := s.dropWhile (!endsKey ·)) isSpace).length_le
  unfold readKey at h
  dsimp only at h
  split at h
  · next rest' heq =>
    obtain ⟨-, -, rfl⟩ : _ ∧ _ ∧ rest' = rest := by simpa using h
    simp only [heq, List.length_cons] at h₂
    omega
  · cases h

/-- Reading a value uses up some text. -/
theorem length_readValue {start place : Nat} {s value rest : List Char}
    (h : readValue start s = .ok (value, place, rest)) : rest.length < s.length := by
  have h₁ := (List.dropWhile_suffix (l := s) isSpace).length_le
  unfold readValue at h
  dsimp only at h
  split at h
  · cases h
  · next quote inside heq =>
    split at h
    · split at h
      · next value' rest' hsplit =>
        obtain ⟨-, -, rfl⟩ : _ ∧ _ ∧ rest' = rest := by simpa using h
        have h₂ := Text.length_after_splitOnce hsplit
        simp only [heq, List.length_cons] at h₁
        omega
      · cases h
    · cases h

/-- Reads the attributes in what is left of a tag, from the given offset on.
The keys that have occurred stand in `seen`, each with its offset. -/
def readAttributes (seen : List (List Char × Nat)) (start : Nat) (s : List Char) :
    Except Fault (List (String × String)) :=
  let place := start + byteLength (s.takeWhile isSpace)
  match _h : s.dropWhile isSpace with
  | [] => .ok []
  | first :: more =>
    match _hk : readKey place first more with
    | .error fault => .error (.attribute fault)
    | .ok (key, afterKey, s₁) =>
      match seen.lookup key with
      | some previous => .error (.attribute (.duplicate place previous))
      | none =>
        match _hv : readValue afterKey s₁ with
        | .error fault => .error (.attribute fault)
        | .ok (raw, afterValue, s₂) =>
          match expand raw with
          | .error fault => .error (.reference fault)
          | .ok value =>
            match readAttributes (seen ++ [(key, place)]) afterValue s₂ with
            | .error fault => .error fault
            | .ok others => .ok ((String.ofList key, String.ofList value) :: others)
termination_by s.length
decreasing_by
  have hs := (List.dropWhile_suffix (l := s) isSpace).length_le
  have hk := length_readKey _hk
  have hv := length_readValue _hv
  simp only [_h, List.length_cons] at hs
  omega

/-- **What a start tag says**: the name of the element and its attributes,
in the order in which they are written. -/
structure StartTag where
  /-- The name. It may be empty. -/
  name : String
  /-- The attributes, no name twice, with their references replaced. -/
  attributes : List (String × String)
deriving DecidableEq, Repr

/-- The name that stands at the front of the inside of a tag. -/
def tagName (content : List Char) : List Char :=
  content.takeWhile (!isSpace ·)

/-- **Reads the inside of a start tag.** -/
def StartTag.read (content : List Char) : Except Fault StartTag :=
  let name := tagName content
  match readAttributes [] (byteLength name) (content.dropWhile (!isSpace ·)) with
  | .error fault => .error fault
  | .ok attributes => .ok ⟨String.ofList name, attributes⟩

end WidgetMarkup.Xml
