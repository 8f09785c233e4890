import Letterhead.Language.BuiltIn

/-
  Language tables: languages under distinct names, in the order in which the names were first
  registered. A file gets the language whose extension fits it best, and of languages that fit
  equally well the first.
-/

namespace Letterhead

/-- Languages of distinct names. -/
structure LanguageTable where
  languages : List Language
  names_nodup : (languages.map (·.name)).Nodup

namespace LanguageTable

/-- Set the language of a name; a new name comes last. -/
def setLanguage (l : Language) : List Language → List Language
  | [] => [l]
  | m :: ms => if m.name = l.name then l :: ms else m :: setLanguage l ms

theorem names_setLanguage (l : Language) (ls : List Language) :
    (setLanguage l ls).map (·.name) =
      if l.name ∈ ls.map (·.name) then ls.map (·.name) else ls.map (·.name) ++ [l.name] := by
  induction ls with
  | nil => simp [setLanguage]
  | cons m ms ih =>
    by_cases h : m.name = l.name
    · simp [setLanguage, h]
    · have h' : l.name ≠ m.name := fun e => h e.symm
      simp only [setLanguage, h, if_false, List.map_cons, ih, List.mem_cons, h', false_or]
      split <;> simp

/-- Register a language; one of the same name gives way to it. -/
def register (t : LanguageTable) (l : Language) : LanguageTable where
  languages := setLanguage l t.languages
  names_nodup := by
    rw [names_setLanguage]
    split
    next => exact t.names_nodup
    next h =>
      exact List.nodup_append.2 ⟨t.names_nodup, by simp, by
        intro a ha b hb hab
        simp only [List.mem_singleton] at hb
        exact h (hb ▸ hab ▸ ha)⟩

def empty : LanguageTable := ⟨[], by simp⟩

/-- Register languages one after the other. -/
def registerAll (t : LanguageTable) (ls : List Language) : LanguageTable := ls.foldl register t

/-- The table of the built-in languages. -/
def builtIn : LanguageTable := empty.registerAll Language.BuiltIn.all

/-- The language of a name. -/
def find? (t : LanguageTable) (name : Text) : Option Language :=
  t.languages.find? fun l => l.name == name

/-- The language for a file name. -/
def lookup? (t : LanguageTable) (fileName : Text) : Option Language :=
  firstLargest? (fun l => l.matchLength fileName) (t.languages.filter fun l => l.fits fileName)

end LanguageTable
end Letterhead
