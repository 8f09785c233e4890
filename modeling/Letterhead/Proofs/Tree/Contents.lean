import Letterhead.Proofs.Tree.Layout

/-
  The contents of a tree: the bytes of its files, by their places. To set the bytes of a file that
  is there keeps the layout and the bytes of every other file (`layout_setFile`,
  `fileAt?_setFile_of_ne`). In a tree without links a path goes straight down, so each file has
  one place below its directory and paths to different places are different (`locate_child`).
-/

namespace Letterhead.Tree

namespace Node

/-! ## Entries -/

section Entries

variable {name name' : Text} {x m : Node} {es : List (Text × Node)}

theorem lookup_cons_eq (name : Text) (e : Text × Node) (es : List (Text × Node)) :
    (e :: es).lookup name = if name = e.1 then some e.2 else es.lookup name := by
  obtain ⟨k, n⟩ := e
  rw [List.lookup_cons]
  by_cases h : name = k
  · simp [h]
  · have hk : (name == k) = false := beq_false_of_ne h
    rw [hk, if_neg h]

theorem lookup_setEntry_self (name : Text) (x : Node) (es : List (Text × Node)) :
    (setEntry name x es).lookup name = some x := by
  induction es with
  | nil => simp [setEntry]
  | cons e es ih =>
    rw [setEntry]
    split
    next h => rw [lookup_cons_eq, if_pos h.symm]
    next h => rw [lookup_cons_eq, if_neg (Ne.symm h), ih]

theorem lookup_setEntry_of_ne (h : name' ≠ name) (x : Node) (es : List (Text × Node)) :
    (setEntry name x es).lookup name' = es.lookup name' := by
  induction es with
  | nil => rw [setEntry, lookup_cons_eq, if_neg h]
  | cons e es ih =>
    rw [setEntry]
    split
    next he => rw [lookup_cons_eq, lookup_cons_eq, he]
               simp only [if_neg h]
    next he => rw [lookup_cons_eq, lookup_cons_eq, ih]

theorem layoutOf_setEntry (hm : es.lookup name = some m) (hx : x.layout = m.layout) :
    layoutOf (setEntry name x es) = layoutOf es := by
  induction es with
  | nil => cases hm
  | cons e es ih =>
    rw [lookup_cons_eq] at hm
    rw [setEntry]
    split
    next he =>
      rw [if_pos he.symm] at hm
      rw [layoutOf, layoutOf, hx, Option.some.inj hm]
    next he =>
      rw [if_neg (Ne.symm he)] at hm
      rw [layoutOf, layoutOf, ih hm]

end Entries

/-! ## Files -/

/-- The bytes of the file at a place. -/
def fileAt? (place : List Text) (n : Node) : Option Bytes :=
  match at? place n with
  | some (.file bytes) => some bytes
  | _ => none

theorem fileAt?_eq_some_iff {place : List Text} {n : Node} {bytes : Bytes} :
    fileAt? place n = some bytes ↔ at? place n = some (.file bytes) := by
  unfold fileAt?
  split <;> simp_all

theorem at?_cons (name : Text) (place : List Text) (n : Node) :
    at? (name :: place) n = (n.child? name).bind (at? place) := by
  rw [at?]
  cases n.child? name <;> rfl

theorem fileAt?_cons (name : Text) (place : List Text) (n : Node) :
    fileAt? (name :: place) n = (n.child? name).bind (fileAt? place) := by
  rw [fileAt?, at?_cons]
  cases n.child? name <;> rfl

theorem at?_append (place place' : List Text) (n : Node) :
    at? (place ++ place') n = (at? place n).bind (at? place') := by
  induction place generalizing n with
  | nil => rfl
  | cons name place ih =>
    rw [List.cons_append, at?_cons, at?_cons]
    cases n.child? name with
    | none => rfl
    | some m => exact ih m

section Put

variable {place place' : List Text} {n : Node} {old new : Bytes}

/-- Where a file is, the way down to it goes through directories. -/
theorem exists_entry_of_fileAt? {name : Text} (h : fileAt? (name :: place) n = some old) :
    ∃ es m, n = dir es ∧ es.lookup name = some m ∧ fileAt? place m = some old := by
  rw [fileAt?_eq_some_iff, at?_cons] at h
  obtain ⟨m, hm, hfile⟩ := Option.bind_eq_some_iff.1 h
  cases n with
  | dir es => exact ⟨es, m, rfl, hm, fileAt?_eq_some_iff.2 hfile⟩
  | _ => cases hm

theorem put_cons {name : Text} {es : List (Text × Node)} {m : Node}
    (hm : es.lookup name = some m) (place : List Text) (x : Node) :
    put (dir es) (name :: place) x = dir (setEntry name (put m place x) es) := by
  have hchild : (dir es).child? name = some m := hm
  rw [put, hchild]
  rfl

theorem layout_put (h : fileAt? place n = some old) :
    (put n place (.file new)).layout = n.layout := by
  induction place generalizing n with
  | nil =>
    rw [fileAt?_eq_some_iff] at h
    cases h
    rfl
  | cons name place ih =>
    obtain ⟨es, m, rfl, hm, hfile⟩ := exists_entry_of_fileAt? h
    rw [put_cons hm, layout, layout, layoutOf_setEntry hm (ih hfile)]

theorem fileAt?_put_self (place : List Text) (n : Node) (new : Bytes) :
    fileAt? place (put n place (.file new)) = some new := by
  rw [fileAt?_eq_some_iff]
  induction place generalizing n with
  | nil => rfl
  | cons name place ih =>
    rw [put, at?_cons]
    have hchild : ∀ x es, (dir (setEntry name x es)).child? name = some x :=
      lookup_setEntry_self name
    rw [hchild]
    exact ih _

theorem fileAt?_put_of_ne (h : fileAt? place n = some old) (hne : place' ≠ place) :
    fileAt? place' (put n place (.file new)) = fileAt? place' n := by
  induction place generalizing n place' with
  | nil =>
    rw [fileAt?_eq_some_iff] at h
    cases h
    cases place' with
    | nil => exact absurd rfl hne
    | cons name place' => rfl
  | cons name place ih =>
    obtain ⟨es, m, rfl, hm, hfile⟩ := exists_entry_of_fileAt? h
    rw [put_cons hm]
    cases place' with
    | nil => rfl
    | cons name' place' =>
      have hchild : ∀ x, (dir x).child? name' = x.lookup name' := fun _ => rfl
      rw [fileAt?_cons, fileAt?_cons, hchild, hchild]
      by_cases hname : name' = name
      · subst hname
        rw [lookup_setEntry_self, hm]
        exact ih hfile (by simpa using hne)
      · rw [lookup_setEntry_of_ne hname]

end Put

/-! ## Names and links -/

mutual

/-- Whether no directory has two entries of one name. -/
def namesDistinct : Node → Bool
  | file _ | link _ => true
  | dir es => decide (es.map (·.1)).Nodup && namesDistinctOf es

/-- Whether this holds of all entries. -/
def namesDistinctOf : List (Text × Node) → Bool
  | [] => true
  | (_, n) :: es => namesDistinct n && namesDistinctOf es

end

theorem mem_of_lookup {name : Text} {m : Node} {es : List (Text × Node)}
    (h : es.lookup name = some m) : (name, m) ∈ es := by
  induction es with
  | nil => cases h
  | cons e es ih =>
    rw [lookup_cons_eq] at h
    split at h
    next he => exact he ▸ Option.some.inj h ▸ List.mem_cons_self
    next he => exact List.mem_cons_of_mem _ (ih h)

theorem linkCount_eq_zero_of_mem {name : Text} {m : Node} {es : List (Text × Node)}
    (h : linkCountOf es = 0) (hm : (name, m) ∈ es) : m.linkCount = 0 := by
  induction es with
  | nil => cases hm
  | cons e es ih =>
    rw [linkCountOf] at h
    rcases List.mem_cons.1 hm with rfl | hm
    · dsimp only at h
      omega
    · exact ih (by omega) hm

theorem namesDistinct_of_mem {name : Text} {m : Node} {es : List (Text × Node)}
    (h : namesDistinctOf es = true) (hm : (name, m) ∈ es) : m.namesDistinct = true := by
  induction es with
  | nil => cases hm
  | cons e es ih =>
    rw [namesDistinctOf, Bool.and_eq_true] at h
    rcases List.mem_cons.1 hm with rfl | hm
    · exact h.1
    · exact ih h.2 hm

/-- What holds of a directory's entries whenever it holds of the directory holds all the way
down. -/
theorem of_at? {p : Node → Prop}
    (hp : ∀ es name m, p (dir es) → (name, m) ∈ es → p m) {place : List Text} {n m : Node}
    (hn : p n) (h : at? place n = some m) : p m := by
  induction place generalizing n with
  | nil => exact Option.some.inj h ▸ hn
  | cons name place ih =>
    rw [at?_cons] at h
    obtain ⟨x, hx, hm⟩ := Option.bind_eq_some_iff.1 h
    cases n with
    | dir es => exact ih (hp es name x hn (mem_of_lookup hx)) hm
    | _ => cases hx

end Node

namespace Disk

variable {d d' : Disk} {place place' names : List Text} {p : Path} {n : Node} {bytes : Bytes}

/-- The bytes of the file at a place. -/
def fileAt? (d : Disk) (place : List Text) : Option Bytes := d.root.fileAt? place

/-- Set the bytes of the file at a place. -/
def setFile (d : Disk) (place : List Text) (bytes : Bytes) : Disk :=
  { d with root := d.root.put place (.file bytes) }

theorem layout_setFile (h : d.fileAt? place ≠ none) (new : Bytes) :
    (d.setFile place new).layout = d.layout := by
  obtain ⟨old, hold⟩ := Option.ne_none_iff_exists'.1 h
  exact congrArg (Disk.mk · d.cwd) (Node.layout_put hold)

theorem fileAt?_setFile_self (d : Disk) (place : List Text) (new : Bytes) :
    (d.setFile place new).fileAt? place = some new :=
  Node.fileAt?_put_self place d.root new

theorem fileAt?_setFile_of_ne (h : d.fileAt? place ≠ none) (hne : place' ≠ place) (new : Bytes) :
    (d.setFile place new).fileAt? place' = d.fileAt? place' := by
  obtain ⟨old, hold⟩ := Option.ne_none_iff_exists'.1 h
  exact Node.fileAt?_put_of_ne hold hne

/-! ## Paths of files -/

/-- The place of the file that a path leads to. -/
def filePlace? (d : Disk) (p : Path) : Option (List Text) :=
  match d.locate p with
  | .ok (place, .file _) => some place
  | _ => none

theorem filePlace?_layout (d : Disk) (p : Path) : d.layout.filePlace? p = d.filePlace? p := by
  rw [filePlace?, filePlace?, locate_layout]
  rcases d.locate p with e | ⟨place, n⟩
  · rfl
  · cases n <;> rfl

theorem node?_of_follow {links : Nat} (h : d.follow links place names = .ok (place', n)) :
    d.node? place' = some n := by
  induction links, place, names using follow.induct (d := d) with
  | case1 links place m hm =>
    simp only [follow, hm, Except.ok.injEq, Prod.mk.injEq] at h
    rw [← h.1, ← h.2, hm]
  | case3 links place rest es hd ih =>
    rw [follow, hd] at h
    exact ih (by simpa using h)
  | case6 place name rest es hd hup target hn links t ih =>
    rw [follow, hd] at h
    exact ih (by simpa [hup, hn] using h)
  | case7 links place name rest es hd hup m hlink hm ih =>
    rw [follow, hd] at h
    cases m with
    | link target => exact absurd rfl (hlink target)
    | _ => exact ih (by simpa [hup, hm] using h)
  | case2 links place hm => simp [follow, hm] at h
  | case4 links place name rest es hd hup hm => simp [follow, hd, hup, hm] at h
  | case5 place name rest es hd hup target hm => simp [follow, hd, hup, hm] at h
  | case8 links place name rest m hdir hm =>
    cases m with
    | dir es => exact absurd rfl (hdir es)
    | _ => simp [follow, hm] at h
  | case9 links place name rest hm => simp [follow, hm] at h

theorem node?_of_locate (h : d.locate p = .ok (place, n)) : d.node? place = some n := by
  unfold locate at h
  split at h
  · cases h
  · exact node?_of_follow h

theorem locate_of_filePlace? (h : d.filePlace? p = some place) :
    ∃ bytes, d.locate p = .ok (place, .file bytes) ∧ d.fileAt? place = some bytes := by
  unfold filePlace? at h
  split at h
  next place' bytes hlocate =>
    obtain rfl := Option.some.inj h
    exact ⟨bytes, hlocate, Node.fileAt?_eq_some_iff.2 (node?_of_locate hlocate)⟩
  next => cases h

theorem isFile_eq (d : Disk) (p : Path) : d.isFile p = (d.filePlace? p).isSome := by
  unfold isFile filePlace?
  split <;> simp_all

theorem read_of_filePlace? (h : d.filePlace? p = some place) (hb : d.fileAt? place = some bytes) :
    d.read p = .ok bytes := by
  obtain ⟨bytes', hlocate, hb'⟩ := locate_of_filePlace? h
  obtain rfl : bytes' = bytes := Option.some.inj (hb'.symm.trans hb)
  rw [read, hlocate]

theorem read_layout (h : d.filePlace? p = none) : d.layout.read p = d.read p := by
  unfold filePlace? at h
  rw [read, read, locate_layout]
  rcases hlocate : d.locate p with e | ⟨place, n⟩
  · rfl
  · cases n with
    | file bytes => simp [hlocate] at h
    | _ => rfl

/-- What is read of a path depends on the layout and on the bytes of the file that it leads to. -/
theorem read_congr (hl : d'.layout = d.layout)
    (hb : ∀ place, d.filePlace? p = some place → d'.fileAt? place = d.fileAt? place) :
    d'.read p = d.read p := by
  have hplace : d'.filePlace? p = d.filePlace? p := by
    rw [← filePlace?_layout, hl, filePlace?_layout]
  cases hp : d.filePlace? p with
  | some place =>
    obtain ⟨bytes, -, hbytes⟩ := locate_of_filePlace? hp
    rw [read_of_filePlace? hp hbytes, read_of_filePlace? (hplace.trans hp)
      ((hb place hp).trans hbytes)]
  | none => rw [← read_layout hp, ← hl, read_layout (hplace.trans hp)]

theorem write_of_filePlace? (h : d.filePlace? p = some place) (new : Bytes) :
    d.write p new = .ok (d.setFile place new) := by
  obtain ⟨bytes, hlocate, -⟩ := locate_of_filePlace? h
  rw [write, hlocate]
  rfl

/-- The names that a directory lists are distinct. -/
theorem nodup_of_list (hd : d.root.namesDistinct = true) (h : d.list p = .ok names) :
    names.Nodup := by
  unfold list at h
  split at h
  next place es hlocate =>
    obtain rfl := Except.ok.inj h
    have hdir : (Node.dir es).namesDistinct = true :=
      Node.of_at? (p := fun n => n.namesDistinct = true)
        (fun es name m hes hm => by
          rw [Node.namesDistinct, Bool.and_eq_true] at hes
          exact Node.namesDistinct_of_mem hes.2 hm)
        hd (node?_of_locate hlocate)
    rw [Node.namesDistinct, Bool.and_eq_true, decide_eq_true_eq] at hdir
    exact (List.mergeSort_perm _ _).nodup_iff.2 hdir.1
  · cases h
  · cases h

/-! ## Trees without links -/

/-- Whether a place is at or below the one that a path leads to. -/
def Under (d : Disk) (p : Path) (place : List Text) : Prop :=
  ∃ top n, d.locate p = .ok (top, n) ∧ top <+: place

theorem under_of_filePlace? (h : d.filePlace? p = some place) : d.Under p place := by
  obtain ⟨bytes, hlocate, -⟩ := locate_of_filePlace? h
  exact ⟨place, _, hlocate, List.prefix_rfl⟩

section Unlinked

variable {links : Nat} (hlinks : d.root.linkCount = 0)

include hlinks

theorem node?_ne_link (place : List Text) (target : Text) : d.node? place ≠ some (.link target) := by
  intro h
  have hcount : (Node.link target).linkCount = 0 :=
    Node.of_at? (p := fun n => n.linkCount = 0)
      (fun es name m hes hm => Node.linkCount_eq_zero_of_mem hes hm) hlinks h
  cases hcount

theorem follow_cons (links : Nat) (place : List Text) (name : Text) (names : List Text) :
    d.follow links place (name :: names) =
      match d.node? place with
      | some (.dir es) =>
        if name = Path.up then d.follow links place.dropLast names
        else if es.lookup name = none then .error .missing
        else d.follow links (place ++ [name]) names
      | some _ => .error .notDirectory
      | none => .error .missing := by
  rw [follow]
  cases hd : d.node? place with
  | none => rfl
  | some n =>
    cases n with
    | file bytes => rfl
    | link target => rfl
    | dir es =>
      cases hm : es.lookup name with
      | none => simp [hm]
      | some m =>
        cases m with
        | link target =>
          refine absurd ?_ (node?_ne_link hlinks (place ++ [name]) target)
          rw [node?, Node.at?_append, ← node?, hd, Option.bind_some, Node.at?_cons]
          exact congrArg (·.bind (Node.at? [])) hm
        | _ => simp [hm]

/-- Where names lead nowhere, more names do not lead anywhere either. -/
theorem follow_append (links : Nat) (place names : List Text) {more : List Text}
    (hmore : more ≠ []) :
    d.follow links place (names ++ more) =
      (d.follow links place names).bind fun p => d.follow links p.1 more := by
  induction names generalizing place with
  | nil =>
    obtain ⟨name, more, rfl⟩ := List.exists_cons_of_ne_nil hmore
    rw [List.nil_append, follow_cons hlinks, follow]
    cases hn : d.node? place with
    | none => rfl
    | some n => simp [Except.bind, follow_cons hlinks, hn]
  | cons name names ih =>
    rw [List.cons_append, follow_cons hlinks, follow_cons hlinks]
    split
    · split
      · exact ih _
      · split
        · rfl
        · exact ih _
    · rfl
    · rfl

/-- The path of an entry leads to the entry. -/
theorem place_of_locate_child {name : Text} (hname : name ≠ Path.up)
    (h : d.locate (p.child name) = .ok (place', n)) :
    ∃ place es, d.locate p = .ok (place, .dir es) ∧ place' = place ++ [name] := by
  unfold locate at h ⊢
  split at h
  · cases h
  next hnull =>
    have hnull' : hasNull p = false := by
      simp only [hasNull, Path.child, List.any_append, Bool.or_eq_true, not_or,
        Bool.not_eq_true] at hnull
      exact hnull.1
    have hchild : (p.child name).parts = p.parts ++ [name] := rfl
    have habsolute : (p.child name).absolute = p.absolute := rfl
    rw [hchild, habsolute, follow_append hlinks _ _ _ (List.cons_ne_nil _ _)] at h
    rw [hnull', if_neg Bool.false_ne_true]
    cases hp : d.follow maxLinks (if p.absolute then [] else d.cwd) p.parts with
    | error e => simp [hp, Except.bind] at h
    | ok q =>
      obtain ⟨place, m⟩ := q
      rw [hp, Except.bind, follow_cons hlinks, node?_of_follow hp] at h
      cases m with
      | dir es =>
        dsimp only at h
        rw [if_neg hname] at h
        split at h
        · cases h
        · rw [follow] at h
          split at h
          · simp only [Except.ok.injEq, Prod.mk.injEq] at h
            exact ⟨place, es, rfl, h.1.symm⟩
          · cases h
      | _ => cases h

theorem Under.of_child {name : Text} (hname : name ≠ Path.up) (h : d.Under (p.child name) place) :
    d.Under p place := by
  obtain ⟨top, n, hlocate, hbelow⟩ := h
  obtain ⟨top', es, hparent, rfl⟩ := place_of_locate_child hlinks hname hlocate
  exact ⟨top', _, hparent, (List.prefix_append top' [name]).trans hbelow⟩

/-- A place is below one entry of a directory only. -/
theorem Under.child_inj {a b : Text} (ha : a ≠ Path.up) (hb : b ≠ Path.up)
    (hua : d.Under (p.child a) place) (hub : d.Under (p.child b) place) : a = b := by
  obtain ⟨_, _, hlocate, hbelow⟩ := hua
  obtain ⟨_, _, hlocate', hbelow'⟩ := hub
  obtain ⟨top, es, hparent, rfl⟩ := place_of_locate_child hlinks ha hlocate
  obtain ⟨top', es', hparent', rfl⟩ := place_of_locate_child hlinks hb hlocate'
  obtain rfl : top' = top := by
    rw [hparent] at hparent'
    exact (Prod.mk.inj (Except.ok.inj hparent')).1.symm
  have hsame := List.prefix_of_prefix_length_le hbelow hbelow' (by simp)
  simpa using hsame.eq_of_length (by simp)

end Unlinked

end Disk
end Letterhead.Tree
