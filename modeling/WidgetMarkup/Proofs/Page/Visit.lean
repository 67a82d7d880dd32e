import Mathlib.Data.List.Basic
import WidgetMarkup.Markup.Node
import WidgetMarkup.Page.TagRole

/-!
# The elements that building visits

Building what is inside a node goes through some of the elements below it:
through its element children, and from a container on to the children of
that. It does not look into a leaf, a style sheet or a flush. `Visited` says
which elements these are, each by its place: the position of the child to go
to, at every level on the way down from the node. An element that occurs
twice is two visits.

`Node.visits` lists them. It is a list of what is visited and of nothing else
(`mem_visits_iff`), and places increase along it, compared position by
position from the top (`pairwise_visits`); this is document order.
-/

namespace WidgetMarkup

/-- **An element that is visited**, and where it stands. -/
structure Visit where
  /-- The positions of the children to go to, from the node that is looked
  into down to the element. -/
  path : List Nat
  /-- The tag of the element. -/
  tag : String
  /-- Its attributes. -/
  attributes : List (String × String)
  /-- Its children. -/
  children : List Node

/-- **What building the inside of a node visits**: its element children, and
the element children of every container visited. -/
inductive Node.Visited (roles : TagRoles) (n : Node) : Visit → Prop where
  /-- A child of the node. -/
  | child {i : Nat} {tag : String} {attributes : List (String × String)}
      {children : List Node} :
      n.children[i]? = some (.element tag attributes children) →
      Visited roles n ⟨[i], tag, attributes, children⟩
  /-- A child of a container. -/
  | inner {v : Visit} {i : Nat} {tag : String} {attributes : List (String × String)}
      {children : List Node} :
      Visited roles n v → roles.role v.tag = .container →
      v.children[i]? = some (.element tag attributes children) →
      Visited roles n ⟨v.path ++ [i], tag, attributes, children⟩

namespace Node

mutual

/-- The visits that begin at a node which stands at a place. -/
def visitsAt (roles : TagRoles) (path : List Nat) : Node → List Visit
  | .element tag attributes children =>
    ⟨path, tag, attributes, children⟩
      :: match roles.role tag with
        | .container => visitsFrom roles path 0 children
        | _ => []
  | .text _ => []
  | .comment _ => []

/-- The visits in a row of nodes, the children at a place from a position
on. -/
def visitsFrom (roles : TagRoles) (path : List Nat) (i : Nat) : List Node → List Visit
  | [] => []
  | n :: more => visitsAt roles (path ++ [i]) n ++ visitsFrom roles path (i + 1) more

end

/-- **The visits inside a node**, in document order. -/
def visits (roles : TagRoles) (n : Node) : List Visit :=
  visitsFrom roles [] 0 n.children

variable {roles : TagRoles}

/-! ## What is listed is visited -/

mutual

theorem visited_of_mem_visitsAt {top : Node} {path : List Nat} {n : Node} {v : Visit}
    (hn : ∀ tag attributes children, n = .element tag attributes children →
      top.Visited roles ⟨path, tag, attributes, children⟩)
    (hv : v ∈ visitsAt roles path n) : top.Visited roles v := by
  match n with
  | .element tag attributes children =>
    have hhead := hn tag attributes children rfl
    rw [visitsAt] at hv
    rcases List.mem_cons.mp hv with rfl | hv
    · exact hhead
    · split at hv
      · next hrole =>
        refine visited_of_mem_visitsFrom (fun j tag' attributes' children' hj => ?_) hv
        rw [Nat.zero_add]
        exact .inner hhead hrole hj
      · cases hv
  | .text _ => cases hv
  | .comment _ => cases hv

theorem visited_of_mem_visitsFrom {top : Node} {path : List Nat} {i : Nat} {row : List Node}
    {v : Visit}
    (hrow : ∀ j tag attributes children, row[j]? = some (.element tag attributes children) →
      top.Visited roles ⟨path ++ [i + j], tag, attributes, children⟩)
    (hv : v ∈ visitsFrom roles path i row) : top.Visited roles v := by
  match row with
  | [] => cases hv
  | n :: more =>
    rw [visitsFrom] at hv
    rcases List.mem_append.mp hv with hv | hv
    · refine visited_of_mem_visitsAt (fun tag attributes children hn => ?_) hv
      exact hrow 0 tag attributes children (by rw [hn]; rfl)
    · refine visited_of_mem_visitsFrom (fun j tag attributes children hj => ?_) hv
      rw [Nat.add_assoc, Nat.add_comm 1 j]
      exact hrow (j + 1) tag attributes children hj

end

/-! ## What is visited is listed -/

theorem mem_visitsFrom_of_getElem? {path : List Nat} {i j : Nat} {row : List Node} {n : Node}
    {v : Visit} (hj : row[j]? = some n) (hv : v ∈ visitsAt roles (path ++ [i + j]) n) :
    v ∈ visitsFrom roles path i row := by
  induction row generalizing i j with
  | nil => cases hj
  | cons m more ih =>
    rw [visitsFrom]
    cases j with
    | zero =>
      cases hj
      exact List.mem_append_left _ hv
    | succ j =>
      refine List.mem_append_right _ (ih hj ?_)
      rwa [Nat.add_assoc, Nat.add_comm 1 j]

theorem self_mem_visitsAt (path : List Nat) (tag : String) (attributes : List (String × String))
    (children : List Node) :
    (⟨path, tag, attributes, children⟩ : Visit)
      ∈ visitsAt roles path (.element tag attributes children) := by
  rw [visitsAt]
  exact List.mem_cons_self

mutual

/-- With a container its element children are listed. -/
theorem inner_mem_visitsAt {path : List Nat} {n : Node} {v : Visit}
    (hv : v ∈ visitsAt roles path n) (hrole : roles.role v.tag = .container) {i : Nat}
    {tag : String} {attributes : List (String × String)} {children : List Node}
    (hi : v.children[i]? = some (.element tag attributes children)) :
    (⟨v.path ++ [i], tag, attributes, children⟩ : Visit) ∈ visitsAt roles path n := by
  match n with
  | .element tag' attributes' children' =>
    rw [visitsAt] at hv ⊢
    refine List.mem_cons_of_mem _ ?_
    rcases List.mem_cons.mp hv with rfl | hv
    · rw [show roles.role tag' = .container from hrole]
      refine mem_visitsFrom_of_getElem? hi ?_
      rw [Nat.zero_add]
      exact self_mem_visitsAt _ tag attributes children
    · split at hv
      · exact inner_mem_visitsFrom hv hrole hi
      · cases hv
  | .text _ => cases hv
  | .comment _ => cases hv

theorem inner_mem_visitsFrom {path : List Nat} {start : Nat} {row : List Node} {v : Visit}
    (hv : v ∈ visitsFrom roles path start row) (hrole : roles.role v.tag = .container) {i : Nat}
    {tag : String} {attributes : List (String × String)} {children : List Node}
    (hi : v.children[i]? = some (.element tag attributes children)) :
    (⟨v.path ++ [i], tag, attributes, children⟩ : Visit) ∈ visitsFrom roles path start row := by
  match row with
  | [] => cases hv
  | n :: more =>
    rw [visitsFrom] at hv ⊢
    rcases List.mem_append.mp hv with hv | hv
    · exact List.mem_append_left _ (inner_mem_visitsAt hv hrole hi)
    · exact List.mem_append_right _ (inner_mem_visitsFrom hv hrole hi)

end

/-- **The list of visits holds what is visited**, and nothing else. -/
theorem mem_visits_iff {n : Node} {v : Visit} : v ∈ n.visits roles ↔ n.Visited roles v := by
  constructor
  · refine visited_of_mem_visitsFrom (fun j tag attributes children hj => ?_)
    rw [List.nil_append, Nat.zero_add]
    exact .child hj
  · intro h
    induction h with
    | child hi =>
      refine mem_visitsFrom_of_getElem? hi ?_
      rw [List.nil_append, Nat.zero_add]
      exact self_mem_visitsAt _ _ _ _
    | inner _ hrole hi ih => exact inner_mem_visitsFrom ih hrole hi

/-! ## The visits are in document order -/

/-- A place below the position `i` is before a place below a later one. -/
theorem append_lt_append {path rest rest' : List Nat} {i j : Nat} (h : i < j) :
    path ++ i :: rest < path ++ j :: rest' :=
  List.append_left_lt (List.cons_lt_cons_iff.mpr (Or.inl h))

/-- A place is before every place below it. -/
theorem lt_append_cons (path rest : List Nat) (i : Nat) : path < path ++ i :: rest := by
  have h : path ++ [] < path ++ i :: rest := List.append_left_lt (List.nil_lt_cons i rest)
  rwa [List.append_nil] at h

mutual

/-- What is visited at a place stands there or below. -/
theorem path_of_mem_visitsAt {path : List Nat} {n : Node} {v : Visit}
    (hv : v ∈ visitsAt roles path n) : path <+: v.path := by
  match n with
  | .element tag attributes children =>
    rw [visitsAt] at hv
    rcases List.mem_cons.mp hv with rfl | hv
    · exact List.prefix_rfl
    · split at hv
      · obtain ⟨j, rest, -, hpath⟩ := path_of_mem_visitsFrom hv
        rw [hpath]
        exact List.prefix_append _ _
      · cases hv
  | .text _ => cases hv
  | .comment _ => cases hv

/-- What is visited in a row stands below a position of the row. -/
theorem path_of_mem_visitsFrom {path : List Nat} {i : Nat} {row : List Node} {v : Visit}
    (hv : v ∈ visitsFrom roles path i row) : ∃ j rest, i ≤ j ∧ v.path = path ++ j :: rest := by
  match row with
  | [] => cases hv
  | n :: more =>
    rw [visitsFrom] at hv
    rcases List.mem_append.mp hv with hv | hv
    · obtain ⟨rest, hpath⟩ := path_of_mem_visitsAt hv
      rw [List.append_assoc] at hpath
      exact ⟨i, rest, Nat.le_refl i, hpath.symm⟩
    · obtain ⟨j, rest, hj, hpath⟩ := path_of_mem_visitsFrom hv
      exact ⟨j, rest, Nat.le_of_succ_le hj, hpath⟩

end

mutual

theorem pairwise_visitsAt (path : List Nat) (n : Node) :
    (visitsAt roles path n).Pairwise (fun a b => a.path < b.path) := by
  match n with
  | .element tag attributes children =>
    rw [visitsAt]
    split
    · refine List.pairwise_cons.mpr ⟨fun v hv => ?_, pairwise_visitsFrom path 0 children⟩
      obtain ⟨j, rest, -, hpath⟩ := path_of_mem_visitsFrom hv
      rw [hpath]
      exact lt_append_cons path rest j
    · exact List.pairwise_singleton _ _
  | .text _ => exact List.Pairwise.nil
  | .comment _ => exact List.Pairwise.nil

theorem pairwise_visitsFrom (path : List Nat) (i : Nat) (row : List Node) :
    (visitsFrom roles path i row).Pairwise (fun a b => a.path < b.path) := by
  match row with
  | [] => exact List.Pairwise.nil
  | n :: more =>
    rw [visitsFrom]
    refine List.pairwise_append.mpr
      ⟨pairwise_visitsAt _ n, pairwise_visitsFrom path (i + 1) more, fun a ha b hb => ?_⟩
    obtain ⟨rest, ha⟩ := path_of_mem_visitsAt ha
    obtain ⟨j, rest', hj, hb⟩ := path_of_mem_visitsFrom hb
    rw [← ha, hb, List.append_assoc]
    exact append_lt_append hj

end

/-- **Places increase along the list of visits.** -/
theorem pairwise_visits (n : Node) :
    (n.visits roles).Pairwise (fun a b => a.path < b.path) :=
  pairwise_visitsFrom [] 0 n.children

/-- The node that is looked into is no visit. -/
theorem path_ne_nil_of_mem_visits {n : Node} {v : Visit} (hv : v ∈ n.visits roles) :
    v.path ≠ [] := by
  obtain ⟨j, rest, -, hpath⟩ := path_of_mem_visitsFrom hv
  rw [hpath]
  exact List.cons_ne_nil j rest

end Node

end WidgetMarkup
