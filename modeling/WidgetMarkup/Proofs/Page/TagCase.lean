import WidgetMarkup.Page.RuleBook
import WidgetMarkup.Proofs.Page.NewWidget
import WidgetMarkup.Proofs.Scene.Redrawing
import WidgetMarkup.Proofs.Selector.TagCase

/-!
# The case of tags on a page

A page looks at tags three times: for the role of an element, for the kind of
the widget that it becomes, and when selectors are matched. Roles are looked up
in capitals; kinds may as well be looked up in small letters
(`WidgetKind.ofTag_eq_ofSmallName`). None of the three looks at the case of a
letter.

So putting all tags in capitals goes past building and styling. Building a
document whose tags are in capitals, into a scene whose tags are, is building
the document and putting the tags of the scene in capitals afterwards
(`Construction.build_foldTags`); and applying rules does not care before which
of the two it comes (`Scene.foldTags_applyRules`).
-/

namespace WidgetMarkup

open Text

/-! ## Tags and roles -/

theorem TagRoles.role_foldCase (roles : TagRoles) (tag : String) :
    roles.role (foldCase tag) = roles.role tag :=
  TagRoles.role_congr (foldCase_foldCase tag)

/-- **Which tags are leaves** matters only as a set, and up to case. -/
theorem TagRoles.role_ofLeaves_congr {tags tags' : List String}
    (h : ∀ name, name ∈ tags.map foldCase ↔ name ∈ tags'.map foldCase) (tag : String) :
    (TagRoles.ofLeaves tags).role tag = (TagRoles.ofLeaves tags').role tag := by
  unfold TagRoles.role TagRoles.ofLeaves
  exact if_congr Iff.rfl rfl (if_congr Iff.rfl rfl (if_congr (h _) rfl rfl))

/-! ## Kinds -/

namespace Text

/-- The text with its ASCII letters as small letters. -/
def lowerCase (s : String) : String :=
  String.ofList (s.toList.map Char.toLower)

/-- A capital and its small letter have the same capital. -/
theorem toUpper_toLower (c : Char) : c.toLower.toUpper = c.toUpper := by
  by_cases h : c.val ≥ 'A'.val ∧ c.val ≤ 'Z'.val
  · have capitals : ∀ n < 26, (Char.ofNat (65 + n)).toLower.toUpper
        = (Char.ofNat (65 + n)).toUpper := by
      decide
    exact forall_of_row (P := fun c => c.toLower.toUpper = c.toUpper) capitals
      (UInt32.le_iff_toNat_le.mp h.1)
      (Nat.lt_succ_of_le (UInt32.le_iff_toNat_le.mp h.2))
  · exact congrArg Char.toUpper (dif_neg h)

theorem foldCase_lowerCase (s : String) : foldCase (lowerCase s) = foldCase s := by
  unfold foldCase lowerCase
  rw [String.toList_ofList, List.map_map, show Char.toUpper ∘ Char.toLower = Char.toUpper from
    funext toUpper_toLower]

theorem lowerCase_foldCase (s : String) : lowerCase (foldCase s) = lowerCase s := by
  unfold foldCase lowerCase
  rw [String.toList_ofList, List.map_map, show Char.toLower ∘ Char.toUpper = Char.toLower from
    funext (comp_toUpper (by decide))]

/-- **Small letters tell as much as capitals.** -/
theorem sameName_iff_lowerCase {a b : String} :
    sameName a b = true ↔ lowerCase a = lowerCase b := by
  rw [sameName_iff]
  constructor
  · intro h
    rw [← lowerCase_foldCase, h, lowerCase_foldCase]
  · intro h
    rw [← foldCase_lowerCase, h, foldCase_lowerCase]

/-- A name is among names in capitals if it is among them in small letters. -/
theorem foldCase_mem_map_iff {names : List String} (h : ∀ n ∈ names, lowerCase n = n) (s : String) :
    foldCase s ∈ names.map foldCase ↔ lowerCase s ∈ names := by
  rw [List.mem_map]
  constructor
  · rintro ⟨n, hn, heq⟩
    rw [← sameName_iff, sameName_iff_lowerCase, h n hn] at heq
    exact heq ▸ hn
  · exact fun hs => ⟨_, hs, foldCase_lowerCase s⟩

end Text

/-- The kind that a name in small letters stands for. -/
def WidgetKind.ofSmallName (name : String) : WidgetKind :=
  if name ∈ ["view", "panel", "block", "box", "scroll-view"] then .view
  else if name ∈ ["text", "label"] then .text
  else if name ∈ ["textinput", "input", "textarea"] then .textInput
  else if name ∈ ["button"] then .button
  else if name ∈ ["image", "img"] then .image
  else .custom

/-- **The kind of a tag may be looked up in small letters**, though roles are
looked up in capitals. -/
theorem WidgetKind.ofTag_eq_ofSmallName (tag : String) :
    ofTag tag = ofSmallName (lowerCase tag) := by
  have hview := foldCase_mem_map_iff
    (by decide : ∀ n ∈ ["view", "panel", "block", "box", "scroll-view"], lowerCase n = n) tag
  have htext := foldCase_mem_map_iff (by decide : ∀ n ∈ ["text", "label"], lowerCase n = n) tag
  have hinput := foldCase_mem_map_iff
    (by decide : ∀ n ∈ ["textinput", "input", "textarea"], lowerCase n = n) tag
  have hbutton := foldCase_mem_map_iff (by decide : ∀ n ∈ ["button"], lowerCase n = n) tag
  have himage := foldCase_mem_map_iff (by decide : ∀ n ∈ ["image", "img"], lowerCase n = n) tag
  unfold ofTag ofSmallName
  exact if_congr hview rfl (if_congr htext rfl (if_congr hinput rfl
    (if_congr (List.mem_singleton.symm.trans hbutton) rfl (if_congr himage rfl rfl))))

namespace Widget

/-- The widget with its tag in capitals. -/
def foldTag (w : Widget) : Widget :=
  { w with tag := foldCase w.tag }

/-- **The kind of a new widget** does not depend on the case of its tag. -/
theorem foldTag_ofTag (tag : String) : (ofTag tag).foldTag = ofTag (foldCase tag) := by
  show ({ kind := .ofTag tag, tag := foldCase tag } : Widget)
    = { kind := .ofTag (foldCase tag), tag := foldCase tag }
  rw [WidgetKind.ofTag_eq_ofSmallName, WidgetKind.ofTag_eq_ofSmallName, lowerCase_foldCase]

theorem foldTag_setAttributes (attributes : List (String × String)) (w : Widget) :
    (w.setAttributes attributes).foldTag = w.foldTag.setAttributes attributes := rfl

theorem foldTag_setValue (value : String) (w : Widget) :
    (w.setValue value).foldTag = w.foldTag.setValue value :=
  apply_ite foldTag _ _ _

/-- **Widgets that are the same up to the case of their tags.** -/
theorem foldTag_eq_iff {w v : Widget} :
    w.foldTag = v.foldTag ↔ ∃ tag, sameName w.tag tag = true ∧ v = { w with tag } := by
  constructor
  · intro h
    refine ⟨v.tag, sameName_iff.mpr (congrArg Widget.tag h), ?_⟩
    calc v = { v.foldTag with tag := v.tag } := rfl
      _ = { w.foldTag with tag := v.tag } := by rw [h]
  · rintro ⟨tag, htag, rfl⟩
    show { w with tag := foldCase w.tag } = { w with tag := foldCase tag }
    rw [sameName_iff.mp htag]

end Widget

/-! ## Scenes -/

namespace Scene

/-- **The scene with all tags in capitals.** -/
def foldTags (s : Scene) : Scene :=
  s.mapWidgets Widget.foldTag

@[simp]
theorem widget?_foldTags (s : Scene) (id : WidgetId) :
    s.foldTags.widget? id = (s.widget? id).map Widget.foldTag :=
  widget?_mapWidgets Widget.foldTag s id

@[simp]
theorem nextId_foldTags (s : Scene) : s.foldTags.nextId = s.nextId :=
  nextId_mapWidgets Widget.foldTag s

@[simp]
theorem flushes_foldTags (s : Scene) : s.foldTags.flushes = s.flushes :=
  flushes_mapWidgets Widget.foldTag s

theorem keepsLinks_foldTag : KeepsLinks Widget.foldTag where
  parent _ _ := rfl
  children _ _ := rfl

/-- **No query sees the case of tags.** -/
theorem query_foldTags (s : Scene) (text : String) : s.foldTags.query text = s.query text :=
  query_mapWidgets keepsLinks_foldTag (g := Element.foldTag) (fun _ => rfl)
    Selector.accepts_map_foldTag s text

/-- **A query does not look at the case of tag names in the text.** -/
theorem query_congr_of_upperPieces (s : Scene) {text text' : String}
    (h : Selector.upperPieces text = Selector.upperPieces text') :
    s.query text = s.query text' := by
  have hread : (Selector.parseList? text).map (List.map Selector.foldTags)
      = (Selector.parseList? text').map (List.map Selector.foldTags) := by
    rw [Selector.map_foldTags_parseList?, h, Selector.map_foldTags_parseList?]
  unfold query
  cases hselectors : Selector.parseList? text with
  | none =>
    rw [hselectors, Option.map_none, eq_comm, Option.map_eq_none_iff] at hread
    rw [hread]
  | some selectors =>
    rw [hselectors, Option.map_some, eq_comm] at hread
    obtain ⟨selectors', hselectors', heq⟩ := Option.map_eq_some_iff.mp hread
    have hselects : s.selects selectors = s.selects selectors' := by
      funext id
      unfold selects
      cases s.widget? id with
      | none => rfl
      | some w => exact Selector.any_accepts_congr heq.symm _ _
    rw [hselectors']
    show s.shown.filter (s.selects selectors) = s.shown.filter (s.selects selectors')
    rw [hselects]

/-- A change of a widget may be made before or after tags are put in capitals,
if it does not matter to the widget. -/
theorem foldTags_update (s : Scene) (id : WidgetId) {f : Widget → Widget}
    (h : ∀ w, (f w).foldTag = f w.foldTag) : (s.update id f).foldTags = s.foldTags.update id f :=
  mapWidgets_update s id h

theorem foldTags_create (s : Scene) (tag : String) :
    (s.create tag).foldTags = s.foldTags.create (foldCase tag) :=
  mapWidgets_create (f := Widget.foldTag) s (Widget.foldTag_ofTag tag)

theorem foldTags_append (s : Scene) (p c : WidgetId) :
    (s.append p c).foldTags = s.foldTags.append p c :=
  mapWidgets_append keepsLinks_foldTag s p c

theorem foldTags_mergeStyle (s : Scene) (id : WidgetId) (properties : Style.Properties) :
    (s.mergeStyle id properties).foldTags = s.foldTags.mergeStyle id properties :=
  foldTags_update s id (fun _ => rfl)

theorem foldTags_applyRule (s : Scene) (r : Style.Rule) :
    (s.applyRule r).foldTags = s.foldTags.applyRule r := by
  unfold applyRule mergeStyles
  rw [query_foldTags]
  generalize s.query r.selector = ids
  induction ids generalizing s with
  | nil => rfl
  | cons id ids ih => rw [List.foldl_cons, List.foldl_cons, ih, foldTags_mergeStyle]

/-- **Rules are applied before or after tags are put in capitals.** -/
theorem foldTags_applyRules (s : Scene) (rules : List Style.Rule) :
    (s.applyRules rules).1.foldTags = (s.foldTags.applyRules rules).1 := by
  induction rules generalizing s with
  | nil => rfl
  | cons r more ih =>
    show ((s.applyRule r).applyRules more).1.foldTags = ((s.foldTags.applyRule r).applyRules more).1
    rw [ih, foldTags_applyRule]

end Scene

/-! ## Documents -/

namespace Node

mutual

/-- **The document with all tags in capitals.** -/
def foldTags : Node → Node
  | .element tag attributes children => .element (foldCase tag) attributes (foldTagsAll children)
  | .text content => .text content
  | .comment content => .comment content

/-- The nodes of a row with all tags in capitals. -/
def foldTagsAll : List Node → List Node
  | [] => []
  | n :: more => foldTags n :: foldTagsAll more

end

theorem children_foldTags (n : Node) : n.foldTags.children = foldTagsAll n.children := by
  cases n <;> rfl

theorem leadingTextOf?_foldTagsAll (row : List Node) :
    leadingTextOf? (foldTagsAll row) = leadingTextOf? row := by
  cases row with
  | nil => rfl
  | cons n more => cases n <;> rfl

end Node

/-! ## Building -/

namespace Construction

/-- The page in the making with all tags in capitals. -/
def foldTags (c : Construction) : Construction :=
  { c with scene := c.scene.foldTags }

theorem foldTags_addWidget (c : Construction) (p : WidgetId) (tag : String)
    (attributes : List (String × String)) :
    (c.addWidget p tag attributes).foldTags = c.foldTags.addWidget p (foldCase tag) attributes := by
  have hscene : (c.addWidget p tag attributes).scene.foldTags
      = (c.foldTags.addWidget p (foldCase tag) attributes).scene := by
    have hnext : c.foldTags.scene.nextId = c.scene.nextId := c.scene.nextId_foldTags
    rw [scene_addWidget, scene_addWidget, hnext,
      Scene.foldTags_update _ _ (Widget.foldTag_setAttributes attributes),
      Scene.foldTags_append, Scene.foldTags_create]
    rfl
  exact congrArg (fun scene => { c.addWidget p tag attributes with scene }) hscene

theorem foldTags_setValue (c : Construction) (id : WidgetId) (value : Option String) :
    (c.setValue id value).foldTags = c.foldTags.setValue id value := by
  cases value with
  | none => rfl
  | some value =>
    exact congrArg (fun scene => { c with scene })
      (Scene.foldTags_update (f := (·.setValue value)) c.scene id (Widget.foldTag_setValue value))

theorem foldTags_addSheet (c : Construction) (text : Option String) :
    (c.addSheet text).foldTags = c.foldTags.addSheet text := by
  cases text <;> rfl

variable {roles roles' : TagRoles}

mutual

/-- **Building goes past putting tags in capitals**, if the tags have the same
roles. -/
theorem build_foldTags (hroles : ∀ tag, roles.role tag = roles'.role tag) (p : WidgetId)
    (c : Construction) (n : Node) :
    build roles' p c.foldTags n.foldTags = (build roles p c n).foldTags := by
  match n with
  | .text _ => rfl
  | .comment _ => rfl
  | .element tag attributes children =>
    rw [Node.foldTags, build, build, ← hroles, TagRoles.role_foldCase,
      Node.leadingTextOf?_foldTagsAll]
    have hnext : c.foldTags.scene.nextId = c.scene.nextId := c.scene.nextId_foldTags
    cases roles.role tag with
    | style => exact (c.foldTags_addSheet _).symm
    | flush => rfl
    | leaf =>
      dsimp only
      rw [hnext, ← foldTags_addWidget, ← foldTags_setValue]
    | container =>
      dsimp only
      rw [hnext, ← foldTags_addWidget]
      exact buildAll_foldTags hroles _ _ children

/-- Building a row goes past putting tags in capitals. -/
theorem buildAll_foldTags (hroles : ∀ tag, roles.role tag = roles'.role tag) (p : WidgetId)
    (c : Construction) (row : List Node) :
    buildAll roles' p c.foldTags (Node.foldTagsAll row) = (buildAll roles p c row).foldTags := by
  match row with
  | [] => rfl
  | n :: more =>
    rw [Node.foldTagsAll, buildAll, buildAll, build_foldTags hroles p c n]
    exact buildAll_foldTags hroles p (build roles p c n) more

end

end Construction

end WidgetMarkup
