import WidgetMarkup.Json.Fault
import WidgetMarkup.Xml.Fault

/-!
# Why a page is not built

A load can fail before there is any markup, because the page cannot be
fetched or a file cannot be read; in the markup; or after it, because what
was read is no document. Broken style text is not among the reasons: a style
sheet is read as far as it goes.
-/

namespace WidgetMarkup

/-- Why a file gives no text. -/
inductive FileFault where
  /-- There is no such file. -/
  | missing
  /-- The bytes of the file are not UTF-8. -/
  | notText
  /-- The system does not give the file, for the reason in the text. -/
  | refused (reason : String)
deriving DecidableEq, Repr

/-- The text of a file fault. -/
def FileFault.message : FileFault → String
  | .missing => "No such file or directory (os error 2)"
  | .notText => "stream did not contain valid UTF-8"
  | .refused reason => reason

/-- **Why a load fails.** -/
inductive LoadError where
  /-- There is a fault in the markup. -/
  | markup (fault : Xml.Fault)
  /-- There is no element. -/
  | missingRoot
  /-- An element has no closing tag. It is the innermost of those. -/
  | unclosedElement (tag : String)
  /-- The page cannot be fetched. -/
  | fetch (url reason : String)
  /-- A file cannot be read. -/
  | file (fault : FileFault)
  /-- There is a fault in the configuration. -/
  | settings (fault : Json.Fault)
deriving DecidableEq, Repr

/-- **The text of a load error.** -/
def LoadError.message : LoadError → String
  | .markup fault => fault.message
  | .missingRoot => "Document has no root element"
  | .unclosedElement tag => s!"Element <{tag}> is never closed"
  | .fetch url reason => s!"Failed to fetch {url}: {reason}"
  | .file fault => "I/O error: " ++ fault.message
  | .settings fault => "JSON error: " ++ fault.message

end WidgetMarkup
