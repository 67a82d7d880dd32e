import WidgetMarkup.Main
import WidgetMarkup.Proofs.CommandLine
import WidgetMarkup.Proofs.Markup.Continuation
import WidgetMarkup.Proofs.Markup.Marks
import WidgetMarkup.Proofs.Page.Sheets
import WidgetMarkup.Proofs.Page.TagCase
import WidgetMarkup.Proofs.Scene.Answers
import WidgetMarkup.Proofs.Scene.ById
import WidgetMarkup.Proofs.Scene.Moving
import WidgetMarkup.Proofs.Scene.Outline
import WidgetMarkup.Proofs.Scene.QuotedValues
import WidgetMarkup.Proofs.Scene.Structure
import WidgetMarkup.Proofs.Selector.Conjunction
import WidgetMarkup.Proofs.Selector.Positions
import WidgetMarkup.Proofs.Selector.Reading
import WidgetMarkup.Proofs.Session.ByAddress
import WidgetMarkup.Proofs.Session.Incremental
import WidgetMarkup.Proofs.Session.Isolation
import WidgetMarkup.Proofs.Session.Notifications
import WidgetMarkup.Proofs.Session.TagCase
import WidgetMarkup.Proofs.Style.Blocks
import WidgetMarkup.Proofs.Style.CommentCuts
import WidgetMarkup.Proofs.Style.Comments
import WidgetMarkup.Proofs.Style.Rendering
import WidgetMarkup.Proofs.Style.Scanner
