/-!
# What can be wrong with markup

Markup is refused for one of three kinds of reason. A construct may begin
and never end, or begin in a way that begins nothing. The tags may not nest,
or a document type may have no name. And inside a tag or a text an attribute
or a character reference may not be written as it must be.

Each fault is a value that says what is wrong and where; `Fault.message` is
the only place where it becomes text. Places are offsets in bytes, counted
from the start of what the fault is found in: the inside of a tag for an
attribute, and the text or the attribute value for a reference.
-/

namespace WidgetMarkup.Xml

/-- What can be begun and left without an end. -/
inductive Construct where
  /-- A tag, from `<` to `>`. -/
  | tag
  /-- A processing instruction, or the declaration at the top of a document,
  from `<?` to `?>`. -/
  | instruction
  /-- A comment, from `<!--` to `-->`. -/
  | comment
  /-- A document type, from `<!DOCTYPE` to `>`. -/
  | doctype
  /-- A section of character data, from `<![CDATA[` to `]]>`. -/
  | cdata
deriving DecidableEq, Repr

/-- How the number in a character reference can be wrong. -/
inductive NumberFault where
  /-- It begins with a sign. -/
  | sign
  /-- It has no digits. -/
  | empty
  /-- It has a character that is no digit. -/
  | invalidDigit
  /-- It is too large for 32 bits. -/
  | tooLarge
  /-- It is zero. -/
  | zero
  /-- It is the number of no character. -/
  | noCharacter (code : Nat)
deriving DecidableEq, Repr

/-- How a reference can be wrong. -/
inductive ReferenceFault where
  /-- The name between these offsets is the name of no character. -/
  | unrecognized (start stop : Nat) (name : String)
  /-- From the `&` at the first offset to the end of the text there is no `;`
  to match it. -/
  | unterminated (start stop : Nat)
  /-- A reference by number has a wrong number. -/
  | number (fault : NumberFault)
deriving DecidableEq, Repr

/-- How an attribute can be wrong. -/
inductive AttributeFault where
  /-- No `=` after the key. -/
  | expectedEquals (place : Nat)
  /-- Nothing after the `=`. -/
  | expectedValue (place : Nat)
  /-- The value does not begin with a quote. -/
  | unquotedValue (place : Nat)
  /-- The value does not end with the quote it began with. -/
  | missingQuote (place : Nat) (quote : Char)
  /-- The key has been given a value before. -/
  | duplicate (place previous : Nat)
deriving DecidableEq, Repr

/-- **A fault in markup.** -/
inductive Fault where
  /-- After `<!` comes nothing that has a meaning there. -/
  | strayMark
  /-- Something is begun and has no end, or its beginning is not written in
  full. -/
  | unclosed (construct : Construct)
  /-- A closing tag does not fit the innermost open tag. -/
  | mismatchedClose (expected found : String)
  /-- A closing tag where nothing is open. -/
  | unmatchedClose (found : String)
  /-- A document type without a name. -/
  | unnamedDoctype
  /-- A wrong reference. -/
  | reference (fault : ReferenceFault)
  /-- A wrong attribute. -/
  | attribute (fault : AttributeFault)
deriving DecidableEq, Repr

/-- What an unclosed construct lacks. -/
def Construct.message : Construct → String
  | .tag => "tag not closed: `>` not found before end of input"
  | .instruction =>
    "processing instruction or xml declaration not closed: `?>` not found before end of input"
  | .comment => "comment not closed: `-->` not found before end of input"
  | .doctype => "DOCTYPE not closed: `>` not found before end of input"
  | .cdata => "CDATA not closed: `]]>` not found before end of input"

/-- The text of a wrong number. -/
def NumberFault.message : NumberFault → String
  | .sign => "unexpected number sign"
  | .empty => "cannot parse integer from empty string"
  | .invalidDigit => "invalid digit found in string"
  | .tooLarge => "number too large to fit in target type"
  | .zero => "0x0 character is not permitted in XML"
  | .noCharacter code => s!"`{code}` is not a valid codepoint"

/-- The text of a wrong reference. -/
def ReferenceFault.message : ReferenceFault → String
  | .unrecognized start stop name => s!"at {start}..{stop}: unrecognized entity `{name}`"
  | .unterminated start stop =>
    s!"Error while escaping character at range {start}..{stop}: Cannot find ';' after '&'"
  | .number fault => "invalid character reference: " ++ fault.message

/-- The text of a wrong attribute. -/
def AttributeFault.message : AttributeFault → String
  | .expectedEquals place =>
    s!"position {place}: attribute key must be directly followed by `=` or space"
  | .expectedValue place => s!"position {place}: `=` must be followed by an attribute value"
  | .unquotedValue place =>
    s!"position {place}: attribute value must be enclosed in `\"` or `'`"
  | .missingQuote place quote =>
    s!"position {place}: missing closing quote `{quote}` in attribute value"
  | .duplicate place previous =>
    s!"position {place}: duplicated attribute, previous declaration at position {previous}"

/-- **The text of a fault.** A fault in an attribute is announced as such,
and every other as a fault in the markup. -/
def Fault.message : Fault → String
  | .strayMark => "XML parse error: syntax error: unknown or missed symbol in markup"
  | .unclosed construct => "XML parse error: syntax error: " ++ construct.message
  | .mismatchedClose expected found =>
    s!"XML parse error: ill-formed document: expected `</{expected}>`, but `</{found}>` was found"
  | .unmatchedClose found =>
    s!"XML parse error: ill-formed document: close tag `</{found}>` does not match any open tag"
  | .unnamedDoctype =>
    "XML parse error: ill-formed document: `<!DOCTYPE>` declaration does not contain a name"
      ++ " of a document type"
  | .reference fault => "XML parse error: " ++ fault.message
  | .attribute fault => "XML attribute error: " ++ fault.message

end WidgetMarkup.Xml
