import Letterhead.Tree.Disk

/-
  The layout of a tree: what is left of it when the contents of its files are forgotten. Where a
  path leads, what kind of node is there, what a directory lists and what the canonical form of a
  path is are questions about the layout alone (`locate_layout`, `list_layout`, `resolve_layout`).
-/

namespace Letterhead.Tree

namespace Node

mutual

/-- A tree with all its files emptied. -/
def layout : Node → Node
  | file _ => file []
  | link target => link target
  | dir es => dir (layoutOf es)

/-- Entries with all files emptied. -/
def layoutOf : List (Text × Node) → List (Text × Node)
  | [] => []
  | (name, n) :: es => (name, layout n) :: layoutOf es

end

theorem layoutOf_eq_map (es : List (Text × Node)) :
    layoutOf es = es.map fun e => (e.1, e.2.layout) := by
  induction es with
  | nil => rfl
  | cons e es ih => rw [layoutOf, ih, List.map_cons]

theorem lookup_layoutOf (es : List (Text × Node)) (name : Text) :
    (layoutOf es).lookup name = (es.lookup name).map layout := by
  induction es with
  | nil => rfl
  | cons e es ih =>
    rw [layoutOf, List.lookup_cons, List.lookup_cons, ih]
    split <;> rfl

theorem sortedNames_layout (n : Node) : n.layout.sortedNames = n.sortedNames := by
  cases n with
  | dir es => simp [sortedNames, layout, layoutOf_eq_map, entries, Function.comp_def]
  | _ => rfl

theorem at?_layout (names : List Text) (n : Node) :
    at? names n.layout = (at? names n).map layout := by
  induction names generalizing n with
  | nil => rfl
  | cons name names ih =>
    have hchild : n.layout.child? name = (n.child? name).map layout := by
      cases n with
      | dir es => exact lookup_layoutOf es name
      | _ => rfl
    rw [at?, at?, hchild]
    cases n.child? name with
    | none => rfl
    | some m => exact ih m

mutual

theorem linkCount_layout : (n : Node) → n.layout.linkCount = n.linkCount
  | file _ | link _ => rfl
  | dir es => linkCountOf_layoutOf es

theorem linkCountOf_layoutOf : (es : List (Text × Node)) →
    linkCountOf (layoutOf es) = linkCountOf es
  | [] => rfl
  | (_, n) :: es => by
    rw [layoutOf, linkCountOf, linkCountOf, linkCount_layout n, linkCountOf_layoutOf es]

end

end Node

namespace Disk

/-- A disk with all its files emptied. -/
def layout (d : Disk) : Disk := { d with root := d.root.layout }

variable (d : Disk)

theorem node?_layout (place : List Text) :
    d.layout.node? place = (d.node? place).map Node.layout :=
  d.root.at?_layout place

/-- A path leads to the same place in the layout, if it leads anywhere. -/
theorem follow_layout (links : Nat) (place names : List Text) :
    d.layout.follow links place names =
      (d.follow links place names).map fun p => (p.1, p.2.layout) := by
  induction links, place, names using follow.induct (d := d) with
  | case1 links place n hn => simp [follow, node?_layout, hn, Except.map]
  | case2 links place hn => simp [follow, node?_layout, hn, Except.map]
  | case3 links place rest es hd ih =>
    rw [follow, follow, node?_layout, hd]
    simpa [Node.layout] using ih
  | case4 links place name rest es hd hup hn =>
    rw [follow, follow, node?_layout, hd]
    simp [Node.layout, Node.lookup_layoutOf, hup, hn, Except.map]
  | case5 place name rest es hd hup target hn =>
    rw [follow, follow, node?_layout, hd]
    simp [Node.layout, Node.lookup_layoutOf, hup, hn, Except.map]
  | case6 place name rest es hd hup target hn links t ih =>
    rw [follow, follow, node?_layout, hd]
    simpa [Node.layout, Node.lookup_layoutOf, hup, hn] using ih
  | case7 links place name rest es hd hup n hlink hn ih =>
    rw [follow, follow, node?_layout, hd]
    cases n with
    | link target => exact absurd rfl (hlink target)
    | file bytes => simpa [Node.layout, Node.lookup_layoutOf, hup, hn] using ih
    | dir es => simpa [Node.layout, Node.lookup_layoutOf, hup, hn] using ih
  | case8 links place name rest n hdir hn =>
    rw [follow, follow, node?_layout, hn]
    cases n with
    | dir es => exact absurd rfl (hdir es)
    | _ => rfl
  | case9 links place name rest hn =>
    rw [follow, follow, node?_layout, hn]
    rfl

theorem locate_layout (p : Path) :
    d.layout.locate p = (d.locate p).map fun p => (p.1, p.2.layout) := by
  unfold locate
  split
  · rfl
  · exact d.follow_layout _ _ _

theorem isFile_layout (p : Path) : d.layout.isFile p = d.isFile p := by
  rw [isFile, isFile, locate_layout]
  rcases d.locate p with e | ⟨place, n⟩
  · rfl
  · cases n <;> rfl

theorem isDir_layout (p : Path) : d.layout.isDir p = d.isDir p := by
  rw [isDir, isDir, locate_layout]
  rcases d.locate p with e | ⟨place, n⟩
  · rfl
  · cases n <;> rfl

theorem list_layout (p : Path) : d.layout.list p = d.list p := by
  rw [list, list, locate_layout]
  rcases d.locate p with e | ⟨place, n⟩
  · rfl
  · cases n with
    | dir es => exact congrArg Except.ok (Node.dir es).sortedNames_layout
    | _ => rfl

theorem node?_layout_of_link {place : List Text} {target : Text}
    (h : d.node? place = some (.link target)) : d.layout.node? place = some (.link target) := by
  rw [node?_layout, h]
  rfl

theorem resolveFrom_link {place : List Text} {name target : Text} (hup : name ≠ Path.up)
    (hn : d.node? (place ++ [name]) = some (.link target)) (depth : Nat)
    (open_ : List (List Text)) (rest : List Text) :
    d.resolveFrom depth open_ place (name :: rest) =
      if open_.contains (place ++ [name]) then (place ++ [name] ++ rest, false)
      else
        match depth with
        | 0 => (place ++ [name] ++ rest, false)
        | depth + 1 =>
          let t := Path.ofText target
          match d.resolveFrom depth ((place ++ [name]) :: open_) (if t.absolute then [] else place)
              t.parts with
          | (p, true) => d.resolveFrom (depth + 1) open_ p rest
          | (p, false) => (p ++ rest, false) := by
  rw [resolveFrom, if_neg hup]
  dsimp only
  split
  next target' hn' =>
    obtain rfl : target = target' := by simpa [hn] using hn'
    cases depth <;> rfl
  next hlink => exact absurd hn (hlink target)

theorem resolveFrom_layout (depth : Nat) (open_ : List (List Text)) (place names : List Text) :
    d.layout.resolveFrom depth open_ place names = d.resolveFrom depth open_ place names := by
  induction depth, open_, place, names using resolveFrom.induct (d := d) with
  | case1 depth open_ place => rw [resolveFrom, resolveFrom]
  | case2 depth open_ place rest ih =>
    rw [resolveFrom, resolveFrom, if_pos rfl, if_pos rfl]
    exact ih
  | case3 depth open_ place name rest hup place' target hn hopen =>
    rw [resolveFrom_link _ hup (d.node?_layout_of_link hn), resolveFrom_link d hup hn, if_pos hopen,
      if_pos hopen]
  | case4 open_ place name rest hup place' target hn hopen =>
    rw [resolveFrom_link _ hup (d.node?_layout_of_link hn), resolveFrom_link d hup hn]
  | case5 open_ place name rest hup place' target hn hopen links t p hp ih ih' =>
    rw [resolveFrom_link _ hup (d.node?_layout_of_link hn), resolveFrom_link d hup hn, if_neg hopen,
      if_neg hopen]
    simp only [dite_eq_ite] at hp ih
    dsimp only
    rw [ih, hp]
    exact ih'
  | case6 open_ place name rest hup place' target hn hopen links t p hp ih =>
    rw [resolveFrom_link _ hup (d.node?_layout_of_link hn), resolveFrom_link d hup hn, if_neg hopen,
      if_neg hopen]
    simp only [dite_eq_ite] at hp ih
    dsimp only
    rw [ih, hp]
  | case7 depth open_ place name rest hup place' hlink ih =>
    have hlink' : ∀ target, d.layout.node? place' ≠ some (.link target) := by
      intro target htarget
      rw [node?_layout] at htarget
      obtain ⟨n, hn, hlayout⟩ := Option.map_eq_some_iff.1 htarget
      cases n with
      | link target' => exact hlink target' hn
      | _ => cases hlayout
    rw [resolveFrom, resolveFrom, if_neg hup, if_neg hup]
    dsimp only
    split
    next target hn => exact absurd hn (hlink' target)
    next => exact ih

theorem resolve_layout (p : Path) : d.layout.resolve p = d.resolve p := by
  have hcount : d.layout.root.linkCount = d.root.linkCount := d.root.linkCount_layout
  have hcwd : d.layout.cwd = d.cwd := rfl
  unfold resolve
  rw [hcount, hcwd, resolveFrom_layout]
  split
  · rfl
  · split
    next => rfl
    next names _ =>
      dsimp only
      rw [follow_layout]
      rcases d.follow maxLinks [] (collapse names) with e | q
      · cases e <;> rfl
      · rfl

theorem canonical_layout (p : Path) : d.layout.canonical p = d.canonical p := by
  rw [canonical, canonical, resolve_layout]

/-- A question that the layout answers has the same answer for trees of one layout. -/
theorem eq_of_layout_eq {α : Sort _} {f : Disk → α} (hf : ∀ d : Disk, f d.layout = f d)
    {d d' : Disk} (h : d'.layout = d.layout) : f d' = f d := by
  rw [← hf d', h, hf d]

end Disk
end Letterhead.Tree
