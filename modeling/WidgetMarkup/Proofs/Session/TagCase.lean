import WidgetMarkup.Proofs.Page.TagCase
import WidgetMarkup.Session.Basic

/-!
# The case of tags in a session

Authors write `<text>` or `<TEXT>` as they like, and nothing that a session
does depends on it. Two sessions are the same but for the case of tags
(`SameButTags`) if their scenes are so, their books are equal, and tags have
the same roles; each load of documents that are the same but for the case of
tags keeps them so, and from it every row of loads does.
-/

namespace WidgetMarkup

open Text

namespace Session

/-- **Sessions that are the same but for the case of tags.** -/
structure SameButTags (s t : Session) : Prop where
  /-- The scenes are, once all tags are in capitals. -/
  scene : s.scene.foldTags = t.scene.foldTags
  /-- The rules are the same. -/
  book : s.book = t.book
  /-- Tags have the same roles. -/
  role : ∀ tag, s.roles.role tag = t.roles.role tag
  /-- Rules stay in force in both or in none. -/
  accumulates : s.accumulates = t.accumulates

namespace SameButTags

variable {s t : Session}

theorem new {settings settings' : Settings}
    (hleaves : ∀ name, name ∈ settings.leafTags.map foldCase
      ↔ name ∈ settings'.leafTags.map foldCase)
    (haccumulates : settings.accumulateStyles = settings'.accumulateStyles) :
    (Session.new settings).SameButTags (.new settings') where
  scene := rfl
  book := rfl
  role := TagRoles.role_ofLeaves_congr hleaves
  accumulates := haccumulates

/-- **One load** of documents that are the same but for the case of tags. -/
theorem load (h : s.SameButTags t) {document document' : Node}
    (hdocument : document.foldTags = document'.foldTags) :
    (s.load document).SameButTags (t.load document') := by
  have hrow : Node.foldTagsAll document.children = Node.foldTagsAll document'.children := by
    rw [← Node.children_foldTags, hdocument, Node.children_foldTags]
  have hbegin : Construction.foldTags { scene := s.scene, book := s.bookForPage }
      = Construction.foldTags { scene := t.scene, book := t.bookForPage } := by
    unfold Construction.foldTags bookForPage
    rw [h.scene, h.book, h.accumulates]
  have hbuilt : (s.buildDocument document).scene.foldTags
        = (t.buildDocument document').scene.foldTags
      ∧ (s.buildDocument document).book = (t.buildDocument document').book := by
    have hboth : Construction.foldTags (Construction.buildInside s.roles Scene.root
          { scene := s.scene, book := s.bookForPage } document)
        = Construction.foldTags (Construction.buildInside t.roles Scene.root
          { scene := t.scene, book := t.bookForPage } document') := by
      unfold Construction.buildInside
      rw [← Construction.buildAll_foldTags (fun _ => rfl), hbegin, hrow,
        ← Construction.buildAll_foldTags fun tag => (h.role tag).symm]
    exact ⟨congrArg Construction.scene hboth, (congrArg Construction.book hboth :)⟩
  refine ⟨?_, hbuilt.2, h.role, h.accumulates⟩
  show ((s.buildDocument document).scene.applyRules _).1.foldTags
    = ((t.buildDocument document').scene.applyRules _).1.foldTags
  rw [Scene.foldTags_applyRules, hbuilt.1, hbuilt.2, ← Scene.foldTags_applyRules]

/-- **Loads one after another.** -/
theorem foldl_load (h : s.SameButTags t) {documents documents' : List Node}
    (hdocuments : documents.map Node.foldTags = documents'.map Node.foldTags) :
    (documents.foldl Session.load s).SameButTags (documents'.foldl Session.load t) := by
  induction documents generalizing s t documents' with
  | nil =>
    obtain rfl : documents' = [] := List.map_eq_nil_iff.mp hdocuments.symm
    exact h
  | cons document documents ih =>
    obtain ⟨document', more, rfl, hfirst, hmore⟩ := List.map_eq_cons_iff.mp hdocuments.symm
    exact ih (h.load hfirst.symm) hmore.symm

/-- **What is the same, widget by widget.** -/
theorem widget? (h : s.SameButTags t) {id : WidgetId} {w : Widget}
    (hw : s.scene.widget? id = some w) :
    ∃ tag, sameName w.tag tag = true ∧ t.scene.widget? id = some { w with tag } := by
  have hfold : (t.scene.widget? id).map Widget.foldTag = some w.foldTag := by
    rw [← Scene.widget?_foldTags, ← h.scene, Scene.widget?_foldTags, hw, Option.map_some]
  obtain ⟨v, hv, hsame⟩ := Option.map_eq_some_iff.mp hfold
  obtain ⟨tag, htag, rfl⟩ := Widget.foldTag_eq_iff.mp hsame.symm
  exact ⟨tag, htag, hv⟩

end SameButTags

/-- **Nothing depends on the case of tags.** Let documents be loaded one after
another into two new sessions, in which rules both stay in force or both do
not. If the documents are the same but for the case of tags, and the leaf tags
are the same set of names up to case, then afterwards

* there are as many widgets in both sessions and as many signals, and each
  widget is the same in both but for the case of its tag;
* the rules in force are the same;
* a selector text may be changed in the case of its tag names: the answer is
  the same in every scene, and it is the same in the two sessions. -/
theorem load_ignores_tag_case {settings settings' : Settings} {documents documents' : List Node}
    (hdocuments : documents.map Node.foldTags = documents'.map Node.foldTags)
    (hleaves : ∀ name, name ∈ settings.leafTags.map foldCase
      ↔ name ∈ settings'.leafTags.map foldCase)
    (haccumulates : settings.accumulateStyles = settings'.accumulateStyles) :
    let a := documents.foldl load (.new settings)
    let b := documents'.foldl load (.new settings')
    a.scene.nextId = b.scene.nextId
      ∧ a.scene.flushes = b.scene.flushes
      ∧ (∀ id w, a.scene.widget? id = some w →
          ∃ tag, sameName w.tag tag = true ∧ b.scene.widget? id = some { w with tag })
      ∧ a.book = b.book
      ∧ ∀ text text', Selector.upperPieces text = Selector.upperPieces text' →
          (∀ scene : Scene, scene.query text = scene.query text')
            ∧ a.scene.query text = b.scene.query text' := by
  intro a b
  have h : a.SameButTags b := (SameButTags.new hleaves haccumulates).foldl_load hdocuments
  refine ⟨?_, ?_, fun id w => h.widget?, h.book, fun text text' htext => ⟨fun scene =>
    scene.query_congr_of_upperPieces htext, ?_⟩⟩
  · rw [← Scene.nextId_foldTags, h.scene, Scene.nextId_foldTags]
  · rw [← Scene.flushes_foldTags, h.scene, Scene.flushes_foldTags]
  · rw [← Scene.query_foldTags, h.scene, Scene.query_foldTags]
    exact b.scene.query_congr_of_upperPieces htext

/-- A page with a red text in a panel, its tags written in one way or
another. -/
def redText (page panel text style : String) : Node :=
  .element page []
    [.element panel [] [.element text [("id", "a")] [.text "hi"]],
      .element style [] [.text "Panel > TEXT \x7b color: red; \x7d"]]

theorem foldTags_redText (page panel text style : String) :
    (redText page panel text style).foldTags
      = redText (foldCase page) (foldCase panel) (foldCase text) (foldCase style) := rfl

/-- The leaf tags are given twice and with a control tag among them, and the
text is found and red all the same. -/
theorem load_ignores_tag_case_redText :
    let a := (new { leafTags := ["text", "style"] }).load (redText "page" "panel" "text" "style")
    let b := (new { leafTags := ["STYLE", "Text", "TEXT"] }).load
      (redText "Page" "PANEL" "Text" "STYLE")
    let red : Widget :=
      { kind := .text, tag := "text", attributes := [("id", "a")], value := some "hi"
        style := .ofEntries [("color", "red")], parent := some 1 }
    a.scene.widget? 2 = some red
      ∧ (∃ tag, sameName "text" tag = true ∧ b.scene.widget? 2 = some { red with tag })
      ∧ b.scene.query "PANEL > text#a" = [2] := by
  intro a b red
  have hleaves : ∀ name, name ∈ ["text", "style"].map foldCase
      ↔ name ∈ ["STYLE", "Text", "TEXT"].map foldCase := by
    intro name
    rw [show ["text", "style"].map foldCase = ["TEXT", "STYLE"] by decide,
      show ["STYLE", "Text", "TEXT"].map foldCase = ["STYLE", "TEXT", "TEXT"] by decide]
    grind
  have hdocuments : [redText "page" "panel" "text" "style"].map Node.foldTags
      = [redText "Page" "PANEL" "Text" "STYLE"].map Node.foldTags := by
    rw [List.map_singleton, List.map_singleton, foldTags_redText, foldTags_redText,
      show foldCase "page" = foldCase "Page" by decide,
      show foldCase "panel" = foldCase "PANEL" by decide,
      show foldCase "text" = foldCase "Text" by decide,
      show foldCase "style" = foldCase "STYLE" by decide]
  obtain ⟨-, -, hwidget, -, hquery⟩ := @load_ignores_tag_case
    { leafTags := ["text", "style"] } { leafTags := ["STYLE", "Text", "TEXT"] }
    _ _ hdocuments hleaves rfl
  have hred : a.scene.widget? 2 = some red := by decide +kernel
  have hfound : a.scene.query "panel > text#a" = [2] := by decide +kernel
  refine ⟨hred, hwidget 2 red hred, ?_⟩
  rw [← hfound]
  exact (hquery "panel > text#a" "PANEL > text#a" (by decide +kernel)).2.symm

end Session

end WidgetMarkup
