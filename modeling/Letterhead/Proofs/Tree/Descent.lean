import Letterhead.Proofs.Tree.Listing

/-
  Ways down a tree without links. The names of entries are proper ones (`namesProper`), so a path
  that leads to a directory leads on to its entries, however the path is written
  (`locate_child_congr`). Each path that leads anywhere has a canonical form, which consists of the
  names from the root down (`resolve_of_locate`, `locate_ofNames`).
-/

namespace Letterhead

open Letterhead.Tree

namespace Path

theorem name_child (p : Path) (name : Text) : (p.child name).name = name := by
  simp [Path.name, child]

theorem suffix_child (p : Path) (name : Text) : (p.child name).suffix = suffixOf name := by
  rw [suffix, name_child]

/-- The path that goes on by names. -/
def descend (p : Path) (names : List Text) : Path := { p with parts := p.parts ++ names }

@[simp] theorem descend_nil (p : Path) : p.descend [] = p := by simp [descend]

@[simp] theorem child_descend (p : Path) (name : Text) (names : List Text) :
    (p.child name).descend names = p.descend (name :: names) := by
  simp [descend, child]

@[simp] theorem descend_child (p : Path) (names : List Text) (name : Text) :
    (p.descend names).child name = p.descend (names ++ [name]) := by
  simp [descend, child]

theorem descend_inj (p : Path) {names names' : List Text}
    (h : p.descend names = p.descend names') : names = names' := by
  simpa [descend] using h

/-- A name by which a path goes down: it does not lead up, and there is no null character in it. -/
def isProper (name : Text) : Bool := name != up && !name.contains '\x00'

theorem ne_up_of_isProper {name : Text} (h : isProper name = true) : name ≠ up := by
  rw [isProper, Bool.and_eq_true, bne_iff_ne] at h
  exact h.1

theorem no_null_of_isProper {name : Text} (h : isProper name = true) :
    name.contains '\x00' = false := by
  rw [isProper, Bool.and_eq_true, Bool.not_eq_true'] at h
  exact h.2

end Path

namespace Tree

/-! ## Proper names -/

namespace Node

mutual

/-- Whether all entries have proper names. -/
def namesProper : Node → Bool
  | file _ | link _ => true
  | dir es => es.all (fun e => Path.isProper e.1) && namesProperOf es

/-- Whether this holds of all entries. -/
def namesProperOf : List (Text × Node) → Bool
  | [] => true
  | (_, n) :: es => namesProper n && namesProperOf es

end

theorem namesProper_of_mem {name : Text} {m : Node} {es : List (Text × Node)}
    (h : (dir es).namesProper = true) (hm : (name, m) ∈ es) :
    Path.isProper name = true ∧ m.namesProper = true := by
  rw [namesProper, Bool.and_eq_true, List.all_eq_true] at h
  refine ⟨h.1 _ hm, ?_⟩
  have hall := h.2
  clear h
  induction es with
  | nil => cases hm
  | cons e es ih =>
    rw [namesProperOf, Bool.and_eq_true] at hall
    rcases List.mem_cons.1 hm with rfl | hm
    · exact hall.1
    · exact ih hm hall.2

/-- The names that lead to a node are proper. -/
theorem isProper_of_at? {place : List Text} {n m : Node} (hn : n.namesProper = true)
    (h : at? place n = some m) : ∀ name ∈ place, Path.isProper name = true := by
  induction place generalizing n with
  | nil => exact fun name hname => nomatch hname
  | cons name place ih =>
    rw [at?_cons] at h
    obtain ⟨x, hx, hm⟩ := Option.bind_eq_some_iff.1 h
    cases n with
    | dir es =>
      obtain ⟨hname, hproper⟩ := namesProper_of_mem hn (mem_of_lookup hx)
      intro name' hname'
      rcases List.mem_cons.1 hname' with rfl | hname'
      · exact hname
      · exact ih hproper hm name' hname'
    | _ => cases hx

end Node

namespace Disk

variable {d : Disk} {p q : Path} {place names : List Text} {name : Text} {n : Node}

theorem hasNull_of_locate (h : d.locate p = .ok (place, n)) : hasNull p = false := by
  unfold locate at h
  split at h
  · cases h
  next hnull => exact Bool.eq_false_iff.2 hnull

theorem isProper_of_listed (hproper : d.root.namesProper = true) (h : d.Listed p name) :
    Path.isProper name = true := by
  obtain ⟨place, es, hlocate⟩ := locate_of_isDir (isDir_of_listed h)
  have hdir : (Node.dir es).namesProper = true :=
    Node.of_at? (p := fun n => n.namesProper = true)
      (fun es name m hes hm => (Node.namesProper_of_mem hes hm).2) hproper
      (node?_of_locate hlocate)
  obtain ⟨e, he, rfl⟩ := List.mem_map.1 ((listed_iff_of_locate hlocate).1 h)
  exact (Node.namesProper_of_mem hdir he).1

theorem hasNull_child (p : Path) (name : Text) :
    hasNull (p.child name) = (hasNull p || name.contains '\x00') := by
  simp [hasNull, Path.child]

/-! ## Trees without links -/

/-- The place that a name leads to from a place, when it leads there without a link. -/
def goOn (place : List Text) (name : Text) : List Text :=
  if name = Path.up then place.dropLast else place ++ [name]

section Unlinked

variable (hlinks : d.root.linkCount = 0)

include hlinks

theorem locate_child (h : d.locate p = .ok (place, n)) (name : Text) :
    d.locate (p.child name) =
      if name.contains '\x00' then .error .nullCharacter
      else d.follow maxLinks place [name] := by
  have hnull := hasNull_of_locate h
  rw [locate, hasNull_child, hnull, Bool.false_or]
  rw [locate, hnull, if_neg Bool.false_ne_true] at h
  have hparts : (p.child name).parts = p.parts ++ [name] := rfl
  have habsolute : (p.child name).absolute = p.absolute := rfl
  rw [hparts, habsolute, follow_append hlinks _ _ _ (List.cons_ne_nil _ _), h]
  rfl

/-- Where the paths of the entries of a directory lead depends on the directory alone. -/
theorem locate_child_congr (hp : d.locate p = .ok (place, n)) (hq : d.locate q = .ok (place, n))
    (name : Text) : d.locate (p.child name) = d.locate (q.child name) := by
  rw [locate_child hlinks hp, locate_child hlinks hq]

theorem follow_of_node? (links : Nat) (hnames : ∀ name ∈ names, Path.isProper name = true)
    (h : d.node? (place ++ names) = some n) :
    d.follow links place names = .ok (place ++ names, n) := by
  induction names generalizing place with
  | nil =>
    rw [List.append_nil] at h ⊢
    rw [follow, h]
  | cons name names ih =>
    have hup : name ≠ Path.up := Path.ne_up_of_isProper (hnames name List.mem_cons_self)
    have hrest : d.follow links (place ++ [name]) names = .ok (place ++ [name] ++ names, n) :=
      ih (fun x hx => hnames x (List.mem_cons_of_mem _ hx)) (by rwa [List.append_assoc])
    rw [List.append_assoc, List.singleton_append] at hrest
    rw [node?, Node.at?_append, Option.bind_eq_some_iff] at h
    obtain ⟨m, hm, hbelow⟩ := h
    rw [Node.at?_cons] at hbelow
    obtain ⟨x, hx, -⟩ := Option.bind_eq_some_iff.1 hbelow
    have hplace : d.node? place = some m := hm
    rw [follow_cons hlinks, hplace]
    cases m with
    | dir es =>
      have hentry : es.lookup name ≠ none := by
        rw [Option.ne_none_iff_exists']
        exact ⟨x, hx⟩
      dsimp only
      rw [if_neg hup, if_neg hentry, hrest]
    | _ => cases hx

/-- The path of an entry leads to the entry. -/
theorem exists_locate_child (hproper : d.root.namesProper = true)
    (h : d.locate p = .ok (place, n)) (hname : d.Listed p name) :
    ∃ m, d.locate (p.child name) = .ok (place ++ [name], m) := by
  obtain ⟨place', es, hdir⟩ := locate_of_isDir (isDir_of_listed hname)
  obtain ⟨rfl, rfl⟩ := Prod.mk.inj (Except.ok.inj (h.symm.trans hdir))
  have hisProper := isProper_of_listed hproper hname
  obtain ⟨e, he, rfl⟩ := List.mem_map.1 ((listed_iff_of_locate h).1 hname)
  obtain ⟨m, hm⟩ : ∃ m, es.lookup e.1 = some m :=
    Option.isSome_iff_exists.1 (List.lookup_isSome_iff.2 ⟨e, he, beq_self_eq_true _⟩)
  have hnode : d.node? (place ++ [e.1]) = some m := by
    rw [node?, Node.at?_append, ← node?, node?_of_locate h, Option.bind_some, Node.at?_cons]
    exact congrArg (·.bind (Node.at? [])) hm
  refine ⟨m, ?_⟩
  rw [locate_child hlinks h, Path.no_null_of_isProper hisProper, if_neg Bool.false_ne_true]
  exact follow_of_node? hlinks maxLinks (fun x hx => List.mem_singleton.1 hx ▸ hisProper) hnode

theorem resolveFrom_unlinked (depth : Nat) (open_ : List (List Text)) (place names : List Text) :
    d.resolveFrom depth open_ place names =
      (names.foldl goOn place, true) := by
  induction names generalizing place with
  | nil => rw [resolveFrom, List.foldl_nil]
  | cons name names ih =>
    rw [resolveFrom, List.foldl_cons, goOn]
    by_cases hup : name = Path.up
    · rw [if_pos hup, if_pos hup]
      exact ih _
    · rw [if_neg hup, if_neg hup]
      dsimp only
      split
      next target hn => exact absurd hn (node?_ne_link hlinks _ target)
      next => exact ih _

theorem resolve_eq (hnull : hasNull p = false) :
    d.resolve p = .ok (p.parts.foldl goOn (if p.absolute then [] else d.cwd)) := by
  rw [resolve, hnull, if_neg Bool.false_ne_true, resolveFrom_unlinked hlinks]

theorem place_of_follow {links : Nat} {place' : List Text}
    (h : d.follow links place names = .ok (place', n)) :
    names.foldl goOn place = place' := by
  induction names generalizing place with
  | nil =>
    rw [follow] at h
    split at h
    · exact (Prod.mk.inj (Except.ok.inj h)).1
    · cases h
  | cons name names ih =>
    rw [follow_cons hlinks] at h
    rw [List.foldl_cons, goOn]
    split at h
    · split at h
      next hup =>
        rw [if_pos hup]
        exact ih h
      next hup =>
        rw [if_neg hup]
        split at h
        · cases h
        · exact ih h
    · cases h
    · cases h

/-- The canonical form of a path that leads anywhere is the place that it leads to. -/
theorem resolve_of_locate (h : d.locate p = .ok (place, n)) : d.resolve p = .ok place := by
  have hnull := hasNull_of_locate h
  rw [locate, hnull, if_neg Bool.false_ne_true] at h
  rw [resolve_eq hlinks hnull, place_of_follow hlinks h]

/-- The canonical form of a path leads where the path leads. -/
theorem locate_ofNames (hproper : d.root.namesProper = true) (h : d.node? place = some n) :
    d.locate (.ofNames place) = .ok (place, n) := by
  have hnames := Node.isProper_of_at? hproper h
  have hnull : hasNull (.ofNames place) = false :=
    List.any_eq_false.2 fun name hname =>
      Bool.eq_false_iff.1 (Path.no_null_of_isProper (hnames name hname))
  rw [locate, hnull, if_neg Bool.false_ne_true]
  have hfollow : d.follow maxLinks [] place = .ok ([] ++ place, n) :=
    follow_of_node? hlinks maxLinks hnames h
  exact hfollow

theorem read_ofNames {bytes : Bytes} (hproper : d.root.namesProper = true)
    (h : d.node? place = some (.file bytes)) : d.read (.ofNames place) = .ok bytes := by
  rw [read, locate_ofNames hlinks hproper h]

end Unlinked

end Disk
end Tree
end Letterhead
