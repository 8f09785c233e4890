import Letterhead.Proofs.Definition.Entries
import Letterhead.Proofs.Text.Split

/-
  Definition files that are read back. A definition file is written as lines that nothing comes of,
  and sections, each a marker line that names extensions and the lines of their template
  (`WrittenDefinitions`). When no other line begins like a marker line, reading the file gives back
  what was written (`ofText_written`): the extensions as they are first named, and for each of them
  the template of the last section that names it.
-/

namespace Letterhead

/-! ## Written sections -/

/-- A section as it is written: the names on its marker line, each behind the space in front of it,
the space at the end of that line, and the lines of the template. -/
structure WrittenSection where
  names : List (Text × Text)
  trailing : Text := []
  template : List Text

/-- Spaces and tabs only. -/
def IsSpace (g : Text) : Prop := ∀ c ∈ g, c = ' ' ∨ c = '\t'

/-- No spaces and no tabs, nor any other blank. -/
def IsSolid (g : Text) : Prop := ∀ c ∈ g, isBlank c = false

/-- A line that is no marker line. -/
def IsPlainLine (l : Text) : Prop := Text.Unbroken l ∧ ¬ DefinitionSection.keyword <+: l

-- All characters can be gone through too, so these name the instance that goes through a text.
instance (g : Text) : Decidable (IsSpace g) := List.decidableBAll _ g

instance (g : Text) : Decidable (IsSolid g) := List.decidableBAll _ g

instance (l : Text) : Decidable (IsPlainLine l) := inferInstanceAs (Decidable (_ ∧ _))

namespace WrittenSection

/-- The names on a marker line, with all space. -/
def namesText (s : WrittenSection) : Text :=
  (s.names.flatMap fun n => n.1 ++ n.2) ++ s.trailing

/-- The lines of a section, the marker line first. -/
def lines (s : WrittenSection) : List Text :=
  (DefinitionSection.keyword ++ s.namesText) :: s.template

/-- The extensions that a section names. -/
def extensions (s : WrittenSection) : List Text := s.names.map fun n => normalExtension n.2

/-- What a section is read as. -/
def content (s : WrittenSection) : DefinitionSection := ⟨s.extensions, s.template⟩

/-- Names have characters, none of them blank, and space between each two. -/
structure WellFormed (s : WrittenSection) : Prop where
  name_ne : ∀ n ∈ s.names, n.2 ≠ []
  name_solid : ∀ n ∈ s.names, IsSolid n.2
  gap_space : ∀ n ∈ s.names, IsSpace n.1
  gap_ne : ∀ n ∈ s.names.tail, n.1 ≠ []
  trailing_space : IsSpace s.trailing
  template_plain : ∀ l ∈ s.template, IsPlainLine l

end WrittenSection

theorem IsSpace.isBlank {g : Text} (hg : IsSpace g) : ∀ c ∈ g, isBlank c = true := by
  intro c hc
  rcases hg c hc with rfl | rfl <;> rfl

theorem IsSpace.unbroken {g : Text} (hg : IsSpace g) : Text.Unbroken g := by
  intro c hc
  rcases hg c hc with rfl | rfl <;> rfl

namespace WrittenSection

variable {s : WrittenSection} {names : List (Text × Text)} {trailing : Text}

theorem blank_head_names (hspace : ∀ n ∈ names, IsSpace n.1) (hgap : ∀ n ∈ names, n.1 ≠ [])
    (htrailing : IsSpace trailing) :
    ∀ c ∈ ((names.flatMap fun n => n.1 ++ n.2) ++ trailing).head?, isBlank c = true := by
  cases names with
  | nil => exact fun c hc => htrailing.isBlank c (List.mem_of_head? hc)
  | cons n names =>
    obtain ⟨d, g, hg⟩ := List.exists_cons_of_ne_nil (hgap n List.mem_cons_self)
    have hd : isBlank d = true :=
      (hspace n List.mem_cons_self).isBlank d (hg ▸ List.mem_cons_self)
    intro c hc
    rw [List.flatMap_cons, hg] at hc
    obtain rfl : d = c := Option.some.inj hc
    exact hd

theorem words_names (hne : ∀ n ∈ names, n.2 ≠ [])
    (hsolid : ∀ n ∈ names, IsSolid n.2) (hspace : ∀ n ∈ names, IsSpace n.1)
    (hgap : ∀ n ∈ names.tail, n.1 ≠ []) (htrailing : IsSpace trailing) :
    Text.words ((names.flatMap fun n => n.1 ++ n.2) ++ trailing) = names.map (·.2) := by
  induction names with
  | nil =>
    have hblank := Text.words_blank_append htrailing.isBlank []
    rw [List.append_nil] at hblank
    exact hblank
  | cons n names ih =>
    rw [List.forall_mem_cons] at hne hsolid hspace
    have hrest := blank_head_names hspace.2 hgap htrailing
    have htail : ∀ n ∈ names.tail, n.1 ≠ [] := fun m hm => hgap m (List.mem_of_mem_tail hm)
    rw [List.flatMap_cons, List.append_assoc, List.append_assoc,
      Text.words_blank_append hspace.1.isBlank, Text.words_append hsolid.1 hne.1 hrest,
      ih hne.2 hsolid.2 hspace.2 htail, List.map_cons]

theorem WellFormed.words_namesText (h : s.WellFormed) :
    Text.words s.namesText = s.names.map (·.2) :=
  words_names h.name_ne h.name_solid h.gap_space h.gap_ne h.trailing_space

theorem WellFormed.unbroken_namesText (h : s.WellFormed) : Text.Unbroken s.namesText := by
  refine Text.Unbroken.append (fun c hc => ?_) h.trailing_space.unbroken
  obtain ⟨n, hn, hc⟩ := List.mem_flatMap.1 hc
  rcases List.mem_append.1 hc with hc | hc
  · exact (h.gap_space n hn).unbroken c hc
  · exact isBreakChar_of_isBlank (h.name_solid n hn c hc)

theorem WellFormed.unbroken_of_mem_lines (h : s.WellFormed) {l : Text} (hl : l ∈ s.lines) :
    Text.Unbroken l := by
  have hkeyword : Text.Unbroken DefinitionSection.keyword := by decide
  rcases List.mem_cons.1 hl with rfl | hl
  · exact hkeyword.append h.unbroken_namesText
  · exact (h.template_plain l hl).1

end WrittenSection

/-! ## Reading lines -/

namespace DefinitionSection

theorem ofLines_marker (names : Text) (ls : List Text) :
    ofLines ((keyword ++ names) :: ls) =
      ([], ⟨(Text.words names).map normalExtension, (ofLines ls).1⟩ :: (ofLines ls).2) := by
  rw [ofLines, Text.after?_append]

theorem ofLines_plain {l : Text} (hl : IsPlainLine l) (ls : List Text) :
    ofLines (l :: ls) = (l :: (ofLines ls).1, (ofLines ls).2) := by
  have hafter : Text.after? keyword l = none := by
    rw [Option.eq_none_iff_forall_ne_some]
    exact fun r hr => hl.2 ⟨r, (Text.eq_of_after? hr).symm⟩
  rw [ofLines, hafter]

theorem ofLines_plain_append {ps : List Text} (hps : ∀ l ∈ ps, IsPlainLine l) (ls : List Text) :
    ofLines (ps ++ ls) = (ps ++ (ofLines ls).1, (ofLines ls).2) := by
  induction ps with
  | nil => rfl
  | cons l ps ih =>
    rw [List.forall_mem_cons] at hps
    rw [List.cons_append, ofLines_plain hps.1, ih hps.2, List.cons_append]

/-- Sections are read back, each with all lines up to the next marker line. -/
theorem ofLines_written {ss : List WrittenSection} (hss : ∀ s ∈ ss, s.WellFormed) :
    ofLines (ss.flatMap (·.lines)) = ([], ss.map (·.content)) := by
  induction ss with
  | nil => rfl
  | cons s ss ih =>
    rw [List.forall_mem_cons] at hss
    rw [List.flatMap_cons, WrittenSection.lines, List.cons_append, ofLines_marker,
      ofLines_plain_append hss.1.template_plain, ih hss.2, hss.1.words_namesText, List.append_nil,
      List.map_map, List.map_cons]
    rfl

end DefinitionSection

/-! ## Written files -/

/-- A definition file as it is written: perhaps a byte order mark, lines that nothing comes of, and
sections, all lines with the same line break behind them. -/
structure WrittenDefinitions where
  marked : Bool
  preamble : List Text
  sections : List WrittenSection
  lineBreak : LineBreak

namespace WrittenDefinitions

/-- The lines of a definition file. -/
def lines (w : WrittenDefinitions) : List Text := w.preamble ++ w.sections.flatMap (·.lines)

/-- The text of a definition file below the byte order mark. -/
def body (w : WrittenDefinitions) : Text := Text.terminated w.lineBreak w.lines

/-- The text of a definition file. -/
def text (w : WrittenDefinitions) : Text := if w.marked then '\uFEFF' :: w.body else w.body

/-- The extensions that the sections name, one after the other. -/
def extensions (w : WrittenDefinitions) : List Text := w.sections.flatMap (·.extensions)

/-- The template of the last section that names an extension. -/
def template? (w : WrittenDefinitions) (ext : Text) : Option (List Text) :=
  (w.sections.filter fun s => s.extensions.contains ext).getLast?.map (·.template)

theorem template?_eq (w : WrittenDefinitions) (ext : Text) :
    w.template? ext =
      (w.sections.filter fun s => ext ∈ s.extensions).getLast?.map (·.template) := by
  simp only [template?, List.contains_eq_mem]

/-- The file without the sections that name nothing. -/
def withoutOrphans (w : WrittenDefinitions) : WrittenDefinitions :=
  { w with sections := w.sections.filter fun s => s.names ≠ [] }

/-- Only marker lines begin like one, and the text begins with U+FEFF only as a byte order mark. -/
structure WellFormed (w : WrittenDefinitions) : Prop where
  preamble_plain : ∀ l ∈ w.preamble, IsPlainLine l
  wellFormed_of_mem : ∀ s ∈ w.sections, s.WellFormed
  unmarked : w.marked = false → w.body.head? ≠ some '\uFEFF'

variable {w : WrittenDefinitions}

theorem WellFormed.dropMark_text (h : w.WellFormed) : Text.dropMark w.text = w.body := by
  unfold text
  cases hm : w.marked with
  | true => rfl
  | false =>
    have hhead := h.unmarked hm
    rw [if_neg Bool.false_ne_true]
    unfold Text.dropMark
    split
    next s hs =>
      rw [hs] at hhead
      exact absurd rfl hhead
    next => rfl

theorem WellFormed.unbroken_of_mem_lines (h : w.WellFormed) :
    ∀ l ∈ w.lines, Text.Unbroken l := by
  intro l hl
  rcases List.mem_append.1 hl with hl | hl
  · exact (h.preamble_plain l hl).1
  · obtain ⟨s, hs, hl⟩ := List.mem_flatMap.1 hl
    exact (h.wellFormed_of_mem s hs).unbroken_of_mem_lines hl

/-- Reading gives back the sections, whatever stands above the first of them. -/
theorem WellFormed.sections_text (h : w.WellFormed) :
    (DefinitionSection.ofLines (Text.lines (Text.dropMark w.text))).2 =
      w.sections.map (·.content) := by
  rw [h.dropMark_text, body, Text.lines_terminated h.unbroken_of_mem_lines, lines,
    DefinitionSection.ofLines_plain_append h.preamble_plain,
    DefinitionSection.ofLines_written h.wellFormed_of_mem]

theorem WellFormed.extensions_ofText (h : w.WellFormed) (source : Option Path) :
    (DefinitionSet.ofText w.text source).extensions = w.extensions.eraseDups := by
  rw [DefinitionSet.extensions_ofText, h.sections_text, List.flatMap_map]
  rfl

theorem WellFormed.template?_ofText (h : w.WellFormed) (source : Option Path) (ext : Text) :
    (DefinitionSet.ofText w.text source).template? ext = w.template? ext := by
  rw [DefinitionSet.template?_ofText, h.sections_text, List.filter_map, List.getLast?_map,
    Option.map_map, template?_eq]
  rfl

theorem extensions_withoutOrphans : w.withoutOrphans.extensions = w.extensions := by
  unfold extensions withoutOrphans
  dsimp only
  induction w.sections with
  | nil => rfl
  | cons s ss ih =>
    by_cases hs : s.names = []
    · have hnone : s.extensions = [] := by rw [WrittenSection.extensions, hs, List.map_nil]
      rw [List.filter_cons_of_neg (by simpa using hs), ih, List.flatMap_cons, hnone,
        List.nil_append]
    · rw [List.filter_cons_of_pos (by simpa using hs), List.flatMap_cons, ih, List.flatMap_cons]

theorem template?_withoutOrphans (ext : Text) :
    w.withoutOrphans.template? ext = w.template? ext := by
  have hnames (s : WrittenSection) (hs : ext ∈ s.extensions) : s.names ≠ [] := by
    rintro hnil
    rw [WrittenSection.extensions, hnil] at hs
    cases hs
  rw [template?_eq, template?_eq, withoutOrphans, List.filter_filter]
  refine congrArg (fun ss => Option.map _ (List.getLast? ss)) (List.filter_congr fun s _ => ?_)
  by_cases hs : ext ∈ s.extensions <;> simp [hs, hnames]

theorem head?_terminated_cons (lb : LineBreak) (l : Text) (ls : List Text) :
    (Text.terminated lb (l :: ls)).head? = (l ++ lb.text).head? := by
  have hne : l ++ lb.text ≠ [] := List.append_ne_nil_of_right_ne_nil l lb.text_ne
  obtain ⟨c, r, hr⟩ := List.exists_cons_of_ne_nil hne
  rw [Text.terminated, List.flatMap_cons, hr]
  rfl

theorem head?_body_withoutOrphans (h : w.body.head? ≠ some '\uFEFF') :
    w.withoutOrphans.body.head? ≠ some '\uFEFF' := by
  unfold body lines at h ⊢
  have hkept : w.withoutOrphans.preamble = w.preamble := rfl
  rw [hkept]
  cases hpreamble : w.preamble with
  | cons l ls =>
    rw [hpreamble, List.cons_append, head?_terminated_cons] at h
    rwa [List.cons_append, head?_terminated_cons]
  | nil =>
    -- What begins with a marker line begins with the first letter of the keyword.
    cases w.withoutOrphans.sections with
    | nil => simp [Text.terminated]
    | cons s ss =>
      rw [List.nil_append, List.flatMap_cons, WrittenSection.lines, List.cons_append,
        head?_terminated_cons]
      exact fun heq => absurd (Option.some.inj heq) (by decide)

theorem WellFormed.withoutOrphans (h : w.WellFormed) : w.withoutOrphans.WellFormed where
  preamble_plain := h.preamble_plain
  wellFormed_of_mem := fun s hs => h.wellFormed_of_mem s (List.mem_filter.1 hs).1
  unmarked := fun hm => head?_body_withoutOrphans (h.unmarked hm)

end WrittenDefinitions

/-- A definition file is read as it was written: its extensions come in the order in which they are
first named, each with the lines of the last section that names it. Sections that name nothing can
be left out. -/
theorem DefinitionSet.ofText_written (w : WrittenDefinitions) (h : w.WellFormed)
    (source : Option Path) :
    (ofText w.text source).extensions = w.extensions.eraseDups ∧
      (∀ ext, (ofText w.text source).template? ext = w.template? ext) ∧
      (ofText w.withoutOrphans.text source).extensions = (ofText w.text source).extensions ∧
      ∀ ext, (ofText w.withoutOrphans.text source).template? ext =
        (ofText w.text source).template? ext := by
  have horphans := h.withoutOrphans
  refine ⟨h.extensions_ofText source, h.template?_ofText source, ?_, fun ext => ?_⟩
  · rw [horphans.extensions_ofText, h.extensions_ofText,
      WrittenDefinitions.extensions_withoutOrphans]
  · rw [horphans.template?_ofText, h.template?_ofText,
      WrittenDefinitions.template?_withoutOrphans]

/-- A file in which a later section takes an extension over and leaves it a blank template. -/
def overridingDefinitions : WrittenDefinitions where
  marked := true
  preamble := ["Headers".toList]
  sections := [
    ⟨[(" ".toList, ".cs".toList), ("\t ".toList, "js".toList)], " ".toList,
      ["// License: MIT".toList, []]⟩,
    ⟨[], " ".toList, ["// orphan".toList]⟩,
    ⟨[([], "cs".toList)], [], []⟩]
  lineBreak := .crlf

theorem DefinitionSet.ofText_overriding :
    overridingDefinitions.WellFormed ∧
      (ofText overridingDefinitions.text).extensions = [".cs".toList, ".js".toList] ∧
      (ofText overridingDefinitions.text).template? ".cs".toList = some [] ∧
      (ofText overridingDefinitions.text).template? ".js".toList =
        some ["// License: MIT".toList, []] := by
  have hsections : ∀ s ∈ overridingDefinitions.sections, s.WellFormed := by
    intro s hs
    simp only [overridingDefinitions, List.mem_cons, List.not_mem_nil, or_false] at hs
    rcases hs with rfl | rfl | rfl
    all_goals exact ⟨by decide, by decide, by decide, by decide, by decide, by decide⟩
  have hfile : overridingDefinitions.WellFormed := ⟨by decide, hsections, by decide⟩
  obtain ⟨hextensions, htemplate, -⟩ := ofText_written overridingDefinitions hfile none
  refine ⟨hfile, hextensions.trans ?_, (htemplate _).trans ?_, (htemplate _).trans ?_⟩
  all_goals decide

end Letterhead
