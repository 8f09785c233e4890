import Letterhead.Command.Session

/-
  The commands that only show something: the languages with their comments, the configuration as a
  file that gives it again, and the version.
-/

namespace Letterhead.Command

/-- The version of the program. -/
def version : Text := "0.1.0".toList

/-- A text with spaces up to a width. -/
def padTo (width : Nat) (s : Text) : Text := s ++ List.replicate (width - s.length) ' '

/-- The marks of comments of a language. -/
def marksText (st : Comment.Style) : Text :=
  let pair := fun (between : Text) (d : Comment.Delimiters) => d.opening ++ between ++ d.closing
  Text.joinWith ", ".toList
    ((st.line.map (·.text)).toList ++ (st.block.map (pair [' '])).toList ++
      (st.region.map (pair " / ".toList)).toList)

/-- The lines about a language, whose name is padded to a width. -/
def languageText (screen : Screen) (width : Nat) (l : Language) : Text :=
  let detail := fun (s : Text) => screen.line (List.replicate width ' ' ++ "  ".toList ++ s)
  let line := screen.line (screen.bold (padTo width l.name) ++ "  ".toList ++
    Text.joinWith [' '] l.extensions ++ "  [".toList ++ marksText l.style ++ [']'])
  if screen.verbosity ≤ 0 then line
  else
    line ++ (if l.description = [] then [] else detail l.description) ++
      ((l.style.skip.map fun k => detail ("skip: ".toList ++ k.source)).getD [])

/-- List the languages. -/
def languages (s : Session) (screen : Screen) (o : Options) : Report :=
  match s.config [.ofNames s.disk.cwd] o none with
  | .error e => .ofError screen s.disk {} e
  | .ok config =>
    match languagesOf config with
    | (.error e, notices) => .ofError screen s.disk ⟨[], Log.lines screen.threshold notices⟩ e
    | (.ok table, notices) =>
      let width := (table.languages.map fun l => l.name.length).foldl max 0
      let text := table.languages.flatMap (languageText screen width)
      .success s.disk ⟨text, Log.lines screen.threshold notices⟩

/-- A text without the line feeds at its end. -/
def dropLineFeeds (s : Text) : Text := (s.reverse.dropWhile (· == '\n')).reverse

/-- Show the configuration. -/
def dumpConfig (s : Session) (screen : Screen) (o : Options) : Report :=
  match s.config [.ofNames s.disk.cwd] o (keywordOverrides? o.usesKeywords o.keywords) with
  | .error e => .ofError screen s.disk {} e
  | .ok config =>
    let sources := if screen.verbosity ≤ 0 then []
      else config.sources.flatMap fun source => screen.line ("# merged: ".toList ++ source.text)
    let start := sources ++ screen.line "# === BEGIN ===".toList
    match Toml.write config.toTable with
    | .error cause => .ofError screen s.disk ⟨start, []⟩ (.fault (.write cause))
    | .ok toml =>
      .success s.disk {
        out := start ++ screen.line (dropLineFeeds toml) ++ screen.line "# === END ===".toList }

/-- Show the version. -/
def showVersion (s : Session) (screen : Screen) : Report :=
  let text :=
    if screen.verbosity ≤ 0 then screen.line (screen.bold version)
    else
      screen.line (screen.heading "LicenseMark version:".toList) ++
        screen.line ("    ".toList ++ screen.bold version)
  .success s.disk { out := text }

end Letterhead.Command
