import WidgetMarkup.CommandLine
import WidgetMarkup.Proofs.Session.ByAddress

/-!
# A page on the command line, by name and by address

The command takes a page by the name of its file or by the address of that
file. By its name, the file is read and what is wrong with it is the error. By
its address, a transfer reads the file; whatever is wrong with it is dropped on
the way, and the command learns only whether it was notified of a document.

Both come down to one thing, what the file says when it is read as a document
(`Files.readAs`). If that is a document, the session loads it, either way, and the
one subscriber of the new session is notified; so the output is the same. If it is
an error, nothing is loaded and nobody is notified; so the command fails either
way, and only the text of the error is another. The configuration comes before
all this and does not look at the source.

An address need not be that of a file. Whatever is fetched, from a file or from
the network, it is a document or it is none, and the report is of the one or of
the other (`Request.run_of_isAddress`).
-/

namespace WidgetMarkup

/-! ## What a file says -/

namespace Files

variable {α : Type} {files : Files} {name : String} {read : String → Except LoadError α}

/-- **What the file says**, if its text is read like this. -/
def readAs (files : Files) (read : String → Except LoadError α) (name : String) :
    Except LoadError α :=
  (files.readText name).bind read

/-- **The file can be read**: it is there, its bytes are a text, and the text says
`a`. -/
def Says (files : Files) (read : String → Except LoadError α) (name : String) (a : α) : Prop :=
  ∃ bytes text, files name = .ok bytes ∧ String.fromUTF8? bytes = some text ∧ read text = .ok a

/-- **Why a file cannot be read.** -/
inductive Fails (files : Files) (read : String → Except LoadError α) (name : String) :
    LoadError → Prop where
  /-- The system does not give it. -/
  | noFile {fault : FileFault} : files name = .error fault → Fails files read name (.file fault)
  /-- Its bytes are no text. -/
  | noText {bytes : ByteArray} :
      files name = .ok bytes → String.fromUTF8? bytes = none →
      Fails files read name (.file .notText)
  /-- There is something wrong with its text. -/
  | badText {bytes : ByteArray} {text : String} {error : LoadError} :
      files name = .ok bytes → String.fromUTF8? bytes = some text → read text = .error error →
      Fails files read name error

theorem readAs_eq_ok_iff {a : α} : files.readAs read name = .ok a ↔ files.Says read name a := by
  unfold readAs readText Says
  cases files name with
  | error fault => simp [Except.bind]
  | ok bytes => cases htext : String.fromUTF8? bytes <;> simp [Except.bind, htext]

theorem readAs_eq_error_iff {error : LoadError} :
    files.readAs read name = .error error ↔ files.Fails read name error := by
  constructor
  · intro h
    unfold readAs readText at h
    cases hfile : files name with
    | error fault =>
      obtain rfl : LoadError.file fault = error := by simpa [Except.bind, hfile] using h
      exact .noFile hfile
    | ok bytes =>
      cases htext : String.fromUTF8? bytes with
      | none =>
        obtain rfl : LoadError.file .notText = error := by simpa [Except.bind, hfile, htext] using h
        exact .noText hfile htext
      | some text => exact .badText hfile htext (by simpa [Except.bind, hfile, htext] using h)
  · rintro (hfile | ⟨hfile, htext⟩ | ⟨hfile, htext, hread⟩)
    · simp [readAs, readText, Except.bind, hfile]
    · simp [readAs, readText, Except.bind, hfile, htext]
    · simp [readAs, readText, Except.bind, hfile, htext, hread]

end Files

/-! ## Addresses -/

/-- What stands behind a scheme is what is found behind it. -/
theorem afterScheme?_append (scheme name : String) :
    afterScheme? scheme (scheme ++ name) = some name := by
  simp [afterScheme?]

/-- **A source is an address exactly if a scheme stands in front.** -/
theorem isAddress_eq_false_iff {source : String} :
    isAddress source = false
      ↔ ∀ scheme ∈ ["http://", "https://", "file://"], ¬ scheme.toList <+: source.toList := by
  have hscheme : ∀ scheme, (afterScheme? scheme source).isSome = false
      ↔ ¬ scheme.toList <+: source.toList := by
    intro scheme
    unfold afterScheme?
    split <;> simp_all
  simp [isAddress, hscheme]

theorem isAddress_file (name : String) : isAddress ("file://" ++ name) = true := by
  simp [isAddress, afterScheme?_append]

namespace Request

open Session

variable {files : Files} {network : Network} {r : Request} {settings : Settings}
  {error : LoadError}

/-! ## The configuration -/

/-- How the configuration is read. -/
def readSettings (text : String) : Except LoadError Settings :=
  (Settings.parse text).mapError .settings

/-- **The configuration can be read**, if one is named. -/
def Configured (r : Request) (files : Files) (settings : Settings) : Prop :=
  match r.config with
  | none => settings = {}
  | some name => files.Says readSettings name settings

theorem settings_eq (r : Request) (files : Files) :
    r.settings files = match r.config with
      | none => .ok {}
      | some name => files.readAs readSettings name := by
  unfold settings Files.readAs
  cases r.config with
  | none => rfl
  | some name =>
    dsimp only
    cases files.readText name <;> rfl

theorem settings_eq_ok_iff : r.settings files = .ok settings ↔ r.Configured files settings := by
  rw [settings_eq, Configured]
  cases r.config with
  | none => simp [eq_comm]
  | some name => exact Files.readAs_eq_ok_iff

theorem settings_eq_error_iff :
    r.settings files = .error error
      ↔ ∃ name, r.config = some name ∧ files.Fails readSettings name error := by
  rw [settings_eq]
  cases r.config with
  | none => simp
  | some name => simp [Files.readAs_eq_error_iff]

/-! ## Loading the source -/

/-- **The request for the same file by its address.** -/
def atAddress (r : Request) : Request :=
  { r with source := "file://" ++ r.source }

theorem isAddress_atAddress (r : Request) : isAddress r.atAddress.source = true :=
  isAddress_file r.source

/-- The session that the command begins with. -/
def begun (settings : Settings) : Session :=
  (Session.new settings).subscribe

theorem landed_begun (settings : Settings) : (begun settings).Landed := ⟨rfl, rfl, rfl⟩

/-- **By its name**, the file is loaded or its error is given. -/
theorem loadSource_of_name (hr : isAddress r.source = false) (s : Session) :
    r.loadSource files network s = (files.readAs Node.parse r.source).map s.load := by
  unfold loadSource Files.readAs
  rw [hr]
  cases files.readText r.source with
  | error error => rfl
  | ok text =>
    simp only [Bool.false_eq_true, if_false, Except.bind, loadText]
    cases Node.parse text <;> rfl

/-- **By an address**, what the fetch leads to is loaded, or the session stays as
it is. -/
theorem loadSource_of_isAddress (hr : isAddress r.source = true) {s : Session} (hs : s.Landed) :
    r.loadSource files network s
      = .ok ((((files.fetch network r.source).outcome r.source).document.toOption.map s.load).getD
          s) := by
  rw [loadSource, if_pos hr, hs.waitPending_startTransfer]
  rfl

/-- A transfer from a file brings what the file says, whatever the network
answers. -/
theorem document_fetch (files : Files) (network : Network) (name : String) :
    ((files.fetch network ("file://" ++ name)).outcome ("file://" ++ name)).document
      = files.readAs Node.parse name := by
  unfold Files.fetch Files.readAs
  rw [afterScheme?_append]
  dsimp only
  cases files.readText name <;> rfl

/-- **Whenever the transfer ends**, the command goes on with the same session. -/
theorem loadSource_of_run (hr : isAddress r.source = true) {s : Session} (hs : s.Landed)
    {more : List Event} {n : Nat} {m : Moment}
    (hrun : Run ⟨s.startTransfer r.source (files.fetch network r.source), .idle⟩
      (more ++ [.returned n]) m)
    (hmore : ∀ e ∈ more, e = .beganWaiting ∨ ∃ o, e = .ended o ∨ e = .dealtWith o) :
    r.loadSource files network s = .ok m.session := by
  obtain ⟨before, hwaits, hback⟩ := hrun.concat
  rw [hs.startTransfer] at hwaits
  obtain ⟨hsession, -⟩ := ((Underway.fetching (Or.inl rfl)).run hs hwaits hmore).returned hback
  rw [loadSource, if_pos hr, hs.waitPending_startTransfer, hsession]

/-! ## The reports -/

/-- **The report of a command that fails**: nothing but the text of the error. -/
def failure (error : LoadError) : Report :=
  ⟨1, "", "Error: " ++ error.message ++ "\n"⟩

/-- **The report of a document that is loaded.** -/
def success (r : Request) (settings : Settings) (document : Node) : Report :=
  ⟨0, r.output ((begun settings).load document), ""⟩

/-- A configuration that cannot be read is reported. -/
theorem run_of_settings_error (h : r.settings files = .error error) :
    r.run files network = failure error := by
  simp only [run, result, h, failure]
  rfl

/-- Otherwise the report is what comes of loading the source. -/
theorem run_of_settings_ok (h : r.settings files = .ok settings) :
    r.run files network = match r.loadSource files network (begun settings) with
      | .error error => failure error
      | .ok s =>
        if s.notified = [] then failure (.fetch r.source "document was not built")
        else ⟨0, r.output s, ""⟩ := by
  unfold run result begun
  rw [h]
  dsimp only
  cases r.loadSource files network (Session.new settings).subscribe with
  | error error => rfl
  | ok s =>
    dsimp only
    by_cases hs : s.notified = []
    · rw [if_pos hs, if_pos hs]
      rfl
    · rw [if_neg hs, if_neg hs]

/-- **By an address**, the report is of the document that the fetch leads to, or
that no document was built. -/
theorem run_of_isAddress (hr : isAddress r.source = true)
    (hsettings : r.settings files = .ok settings) :
    r.run files network = match ((files.fetch network r.source).outcome r.source).document with
      | .ok document => r.success settings document
      | .error _ => failure (.fetch r.source "document was not built") := by
  rw [run_of_settings_ok hsettings, loadSource_of_isAddress hr (landed_begun settings)]
  cases ((files.fetch network r.source).outcome r.source).document <;> rfl

/-- By the address of a file, this is the document that the file says. -/
theorem run_atAddress (hsettings : r.settings files = .ok settings) :
    r.atAddress.run files network = match files.readAs Node.parse r.source with
      | .ok document => r.success settings document
      | .error _ => failure (.fetch r.atAddress.source "document was not built") := by
  rw [run_of_isAddress r.isAddress_atAddress hsettings, ← document_fetch files network]
  rfl

/-- **A document that is loaded** leads to the same report, by name and by
address: the subscriber is notified of it. -/
theorem run_of_says (hr : isAddress r.source = false) (hsettings : r.Configured files settings)
    {document : Node} (hdocument : files.Says Node.parse r.source document) :
    r.run files network = r.success settings document
      ∧ r.atAddress.run files network = r.success settings document := by
  have hread := Files.readAs_eq_ok_iff.mpr hdocument
  have hsettings : r.settings files = .ok settings := settings_eq_ok_iff.mpr hsettings
  constructor
  · rw [run_of_settings_ok hsettings, loadSource_of_name hr, hread]
    rfl
  · rw [run_atAddress hsettings, hread]

/-- **An error of the source** is reported by name. By address nobody is notified,
and this is reported. -/
theorem run_of_fails (hr : isAddress r.source = false) (hsettings : r.Configured files settings)
    (hfails : files.Fails Node.parse r.source error) :
    r.run files network = failure error
      ∧ r.atAddress.run files network
        = failure (.fetch r.atAddress.source "document was not built") := by
  have hread := Files.readAs_eq_error_iff.mpr hfails
  have hsettings : r.settings files = .ok settings := settings_eq_ok_iff.mpr hsettings
  constructor
  · rw [run_of_settings_ok hsettings, loadSource_of_name hr, hread]
    rfl
  · rw [run_atAddress hsettings, hread]

/-- An error of the configuration is reported either way. -/
theorem run_of_config_fails {name : String} (hconfig : r.config = some name)
    (hfails : files.Fails readSettings name error) :
    r.run files network = failure error ∧ r.atAddress.run files network = failure error :=
  ⟨run_of_settings_error (settings_eq_error_iff.mpr ⟨name, hconfig, hfails⟩),
    run_of_settings_error (settings_eq_error_iff.mpr ⟨name, hconfig, hfails⟩)⟩

/-! ## The two ways compared -/

/-- **The three ways in which the command can end**, by name and by address. -/
inductive Ends (r : Request) (files : Files) : Report → Report → Prop where
  /-- The document is loaded. -/
  | loaded {settings : Settings} {document : Node} :
      r.Configured files settings → files.Says Node.parse r.source document →
      Ends r files (r.success settings document) (r.success settings document)
  /-- The source is no document. -/
  | noDocument {settings : Settings} {error : LoadError} :
      r.Configured files settings → files.Fails Node.parse r.source error →
      Ends r files (failure error)
        (failure (.fetch r.atAddress.source "document was not built"))
  /-- The configuration cannot be read. -/
  | noSettings {name : String} {error : LoadError} :
      r.config = some name → files.Fails readSettings name error →
      Ends r files (failure error) (failure error)

theorem ends_run (files : Files) (network : Network) (hr : isAddress r.source = false) :
    r.Ends files (r.run files network) (r.atAddress.run files network) := by
  cases hsettings : r.settings files with
  | error error =>
    obtain ⟨name, hconfig, hfails⟩ := settings_eq_error_iff.mp hsettings
    obtain ⟨hbyName, hbyAddress⟩ := run_of_config_fails hconfig hfails
    rw [hbyName, hbyAddress]
    exact .noSettings hconfig hfails
  | ok settings =>
    have hconfigured := settings_eq_ok_iff.mp hsettings
    cases hread : files.readAs Node.parse r.source with
    | error error =>
      have hfails := Files.readAs_eq_error_iff.mp hread
      obtain ⟨hbyName, hbyAddress⟩ := run_of_fails hr hconfigured hfails
      rw [hbyName, hbyAddress]
      exact .noDocument hconfigured hfails
    | ok document =>
      have hdocument := Files.readAs_eq_ok_iff.mp hread
      obtain ⟨hbyName, hbyAddress⟩ := run_of_says hr hconfigured hdocument
      rw [hbyName, hbyAddress]
      exact .loaded hconfigured hdocument

namespace Ends

variable {byName byAddress : Report}

theorem code_eq (h : r.Ends files byName byAddress) : byName.code = byAddress.code := by
  cases h <;> rfl

theorem output_eq (h : r.Ends files byName byAddress) : byName.output = byAddress.output := by
  cases h <;> rfl

/-- Nothing is printed by a command that fails. -/
theorem eq_of_code_ne_zero (h : r.Ends files byName byAddress) (hcode : byName.code ≠ 0) :
    byName.code = 1 ∧ byName.output = "" := by
  cases h with
  | loaded => exact absurd rfl hcode
  | noDocument => exact ⟨rfl, rfl⟩
  | noSettings => exact ⟨rfl, rfl⟩

/-- **The command succeeds exactly if configuration and source can be read.** -/
theorem code_eq_zero_iff (h : r.Ends files byName byAddress) :
    byName.code = 0
      ↔ (∃ settings, r.Configured files settings)
        ∧ ∃ document, files.Says Node.parse r.source document := by
  cases h with
  | loaded hconfigured hdocument => exact iff_of_true rfl ⟨⟨_, hconfigured⟩, _, hdocument⟩
  | noDocument hconfigured hfails =>
    refine iff_of_false Nat.one_ne_zero ?_
    rintro ⟨-, document, hdocument⟩
    have hread := Files.readAs_eq_ok_iff.mpr hdocument
    rw [Files.readAs_eq_error_iff.mpr hfails] at hread
    cases hread
  | noSettings hconfig hfails =>
    refine iff_of_false Nat.one_ne_zero ?_
    rintro ⟨⟨settings, hconfigured⟩, -⟩
    have hread := settings_eq_ok_iff.mpr hconfigured
    rw [settings_eq_error_iff.mpr ⟨_, hconfig, hfails⟩] at hread
    cases hread

end Ends

/-- The text of what is reported by address. -/
theorem errors_failure_fetch (address : String) :
    (failure (.fetch address "document was not built")).errors
      = "Error: Failed to fetch " ++ address ++ ": document was not built\n" := by
  show "Error: " ++ ("Failed to fetch " ++ address ++ ": " ++ "document was not built") ++ "\n" = _
  apply String.toList_injective
  simp

/-- **A page is reported alike by its name and by its address.** Let no scheme
stand in front of the name. Whatever files there are, whatever the network
answers, and whatever the configuration is:

* The exit code and the output are the same. The code is 0 if the configuration
  can be read and the file is a document, and 1 otherwise; and if it is not 0,
  nothing is printed.
* What is wrong with the configuration is reported alike.
* What is wrong with the file is reported by name. By address it is reported that
  no document was built.
* By address, it makes no difference when the transfer ends. -/
theorem run_by_name_and_by_address (files : Files) (network : Network) {r : Request}
    (hr : ∀ scheme ∈ ["http://", "https://", "file://"], ¬ scheme.toList <+: r.source.toList) :
    (r.run files network).code = (r.atAddress.run files network).code
      ∧ (r.run files network).output = (r.atAddress.run files network).output
      ∧ ((r.run files network).code = 0
          ↔ (∃ settings, r.Configured files settings)
            ∧ ∃ document, files.Says Node.parse r.source document)
      ∧ ((r.run files network).code ≠ 0 →
          (r.run files network).code = 1 ∧ (r.run files network).output = "")
      ∧ (∀ name error, r.config = some name → files.Fails readSettings name error →
          (r.run files network).errors = "Error: " ++ error.message ++ "\n"
            ∧ (r.atAddress.run files network).errors = (r.run files network).errors)
      ∧ (∀ settings error, r.Configured files settings →
          files.Fails Node.parse r.source error →
            (r.run files network).errors = "Error: " ++ error.message ++ "\n"
              ∧ (r.atAddress.run files network).errors
                = "Error: Failed to fetch " ++ r.atAddress.source ++ ": document was not built\n")
      ∧ ∀ settings more n m,
          Run ⟨(begun settings).startTransfer r.atAddress.source
            (files.fetch network r.atAddress.source), .idle⟩ (more ++ [.returned n]) m →
          (∀ e ∈ more, e = .beganWaiting ∨ ∃ o, e = .ended o ∨ e = .dealtWith o) →
          r.atAddress.loadSource files network (begun settings) = .ok m.session := by
  have hr : isAddress r.source = false := isAddress_eq_false_iff.mpr hr
  have hends := ends_run files network hr
  refine ⟨hends.code_eq, hends.output_eq, hends.code_eq_zero_iff, hends.eq_of_code_ne_zero,
    fun name error hconfig hfails => ?_, fun settings error hconfigured hfails => ?_,
    fun settings more n m hrun hmore => ?_⟩
  · obtain ⟨hbyName, hbyAddress⟩ := run_of_config_fails hconfig hfails
    rw [hbyName, hbyAddress]
    exact ⟨rfl, rfl⟩
  · obtain ⟨hbyName, hbyAddress⟩ := run_of_fails hr hconfigured hfails
    rw [hbyName, hbyAddress]
    exact ⟨rfl, errors_failure_fetch _⟩
  · exact loadSource_of_run r.isAddress_atAddress (landed_begun settings) hrun hmore

/-- A page, and a file that is no text. -/
def pageAndBytes : Files := fun name =>
  if name = "page" then .ok "<page><text>é</text></page>".toUTF8
  else if name = "bytes" then .ok ⟨#[0x3C, 0xFF]⟩
  else .error .missing

/-- The page is printed either way; the file that is no text fails either way,
each in its own words; and a configuration that is missing fails in the same
words, whether the page is there or not. -/
theorem run_by_name_and_by_address_pageAndBytes :
    (∀ source ∈ ["page", "bytes"], ∀ scheme ∈ ["http://", "https://", "file://"],
        ¬ scheme.toList <+: source.toList)
      ∧ (Request.run ⟨"page", none, false⟩ pageAndBytes .unreachable).code = 0
      ∧ (Request.run ⟨"file://page", none, false⟩ pageAndBytes .unreachable).code = 0
      ∧ (Request.run ⟨"bytes", none, true⟩ pageAndBytes .unreachable).errors
        = "Error: I/O error: stream did not contain valid UTF-8\n"
      ∧ (Request.run ⟨"file://bytes", none, true⟩ pageAndBytes .unreachable).errors
        = "Error: Failed to fetch file://bytes: document was not built\n"
      ∧ (Request.run ⟨"file://page", some "config", false⟩ pageAndBytes .unreachable).errors
        = "Error: I/O error: No such file or directory (os error 2)\n" := by
  have hschemes : ∀ source ∈ ["page", "bytes"], ∀ scheme ∈ ["http://", "https://", "file://"],
      ¬ scheme.toList <+: source.toList := by decide
  have hdocument : ∃ document, pageAndBytes.Says Node.parse "page" document := by
    have hread : (pageAndBytes.readAs Node.parse "page").toOption.isSome = true := by
      decide +kernel
    cases h : pageAndBytes.readAs Node.parse "page" with
    | error error => simp [h, Except.toOption] at hread
    | ok document => exact ⟨document, Files.readAs_eq_ok_iff.mp h⟩
  obtain ⟨hcode, -, hzero, -⟩ := run_by_name_and_by_address pageAndBytes .unreachable
    (r := ⟨"page", none, false⟩) (hschemes "page" (by decide))
  have hpage := hzero.mpr ⟨⟨{}, rfl⟩, hdocument⟩
  obtain ⟨-, -, -, -, -, hsource, -⟩ := run_by_name_and_by_address pageAndBytes .unreachable
    (r := ⟨"bytes", none, true⟩) (hschemes "bytes" (by decide))
  obtain ⟨hbyName, hbyAddress⟩ := hsource {} (.file .notText) rfl (.noText rfl (by decide +kernel))
  obtain ⟨-, -, -, -, hconfig, -⟩ := run_by_name_and_by_address pageAndBytes .unreachable
    (r := ⟨"page", some "config", false⟩) (hschemes "page" (by decide))
  obtain ⟨hmissing, hsame⟩ := hconfig "config" (.file .missing) rfl (.noFile rfl)
  exact ⟨hschemes, hpage, hcode.symm.trans hpage, hbyName, hbyAddress, hsame.trans hmissing⟩

end Request

end WidgetMarkup
