import Letterhead.Language.Basic

/-
  The built-in languages, and the leading text that stays above a header in some of them: the
  interpreter line of a script, the prolog of an XML document, the document type of an HTML one.
-/

namespace Letterhead

namespace Comment

def Marker.ofString (s : String) (h : s.toList ≠ [] := by decide) : Marker := ⟨s.toList, h⟩

def Delimiters.ofStrings (opening closing : String) (ho : opening.toList ≠ [] := by decide)
    (hc : closing.toList ≠ [] := by decide) : Delimiters :=
  ⟨opening.toList, closing.toList, ho, hc⟩

end Comment

namespace Language.BuiltIn

open Comment

/-- The characters of a word, whatever their case. -/
def word (w : String) : Pattern := w.toList.map fun c => .one (.ofCode false .fold c.toNat)

/-- Any number of characters of a set. -/
def run (set : CharSet) (greed : Greed) : Step := .repeated 0 none greed [.one set]

/-- The interpreter line of a script: `#!` and what follows up to a line feed. -/
def shebang : Skip where
  source := "#!.*".toList
  pattern := word "#!" ++ [run .allButLineFeed .greedy]
  reads := by decide +kernel

/-- A document type, from its name to the closing bracket. -/
def doctype : Pattern := word "<!DOCTYPE" ++ [run (.allBut '>') .greedy] ++ word ">"

/-- The prolog of an XML document: the declaration, which holds no line feed, and perhaps a
document type. -/
def xmlProlog : Skip where
  source := "<\\?xml.*?\\?>(\\s*<!DOCTYPE[^>]*>)?".toList
  pattern :=
    word "<?xml" ++ [run .allButLineFeed .lazy] ++ word "?>" ++
      [.repeated 0 (some 1) .greedy
        (Pattern.capture 1 (run (.anyOf false .exact [.named .space false false]) .greedy :: doctype))]
  reads := by decide +kernel

/-- The document type of an HTML document. -/
def htmlDoctype : Skip where
  source := "<!DOCTYPE[^>]*>".toList
  pattern := doctype
  reads := by decide +kernel

/-! ## Languages -/

/-- C# sources. -/
def csharp : Language where
  name := "csharp".toList
  extensions := [".cs".toList]
  description := "C# sources (*.cs)".toList
  style := {
    line := some (.ofString "//")
    block := some (.ofStrings "/*" "*/")
    region := some (.ofStrings "#region" "#endregion")
    has_comment := by decide }
  name_ne := by decide
  extensions_ne := by decide
  nil_notMem := by decide

/-- C sources and headers. -/
def c : Language where
  name := "c".toList
  extensions := [".c".toList, ".h".toList]
  description := "C sources and headers (*.c, *.h)".toList
  style := {
    line := some (.ofString "//")
    block := some (.ofStrings "/*" "*/")
    has_comment := by decide }
  name_ne := by decide
  extensions_ne := by decide
  nil_notMem := by decide

/-- C++ sources and headers. -/
def cpp : Language where
  name := "cpp".toList
  extensions := [".cc".toList, ".cpp".toList, ".cxx".toList,
    ".hh".toList, ".hpp".toList, ".hxx".toList, ".inl".toList]
  description := "C++ sources and headers".toList
  style := {
    line := some (.ofString "//")
    block := some (.ofStrings "/*" "*/")
    has_comment := by decide }
  name_ne := by decide
  extensions_ne := by decide
  nil_notMem := by decide

/-- The languages of the Java virtual machine. -/
def java : Language where
  name := "java".toList
  extensions := [".java".toList, ".kt".toList, ".kts".toList, ".scala".toList, ".groovy".toList]
  description := "JVM languages (*.java, *.kt, *.kts, *.scala, *.groovy)".toList
  style := {
    line := some (.ofString "//")
    block := some (.ofStrings "/*" "*/")
    has_comment := by decide }
  name_ne := by decide
  extensions_ne := by decide
  nil_notMem := by decide

/-- Go, Rust and Swift sources. -/
def go : Language where
  name := "go".toList
  extensions := [".go".toList, ".rs".toList, ".swift".toList]
  description := "Go, Rust and Swift sources".toList
  style := {
    line := some (.ofString "//")
    block := some (.ofStrings "/*" "*/")
    has_comment := by decide }
  name_ne := by decide
  extensions_ne := by decide
  nil_notMem := by decide

/-- JavaScript and TypeScript sources, which may begin with an interpreter line. -/
def javascript : Language where
  name := "javascript".toList
  extensions := [".js".toList, ".mjs".toList, ".cjs".toList,
    ".jsx".toList, ".ts".toList, ".tsx".toList]
  description := "JavaScript and TypeScript sources".toList
  style := {
    line := some (.ofString "//")
    block := some (.ofStrings "/*" "*/")
    skip := some shebang
    has_comment := by decide }
  name_ne := by decide
  extensions_ne := by decide
  nil_notMem := by decide

/-- Style sheets. -/
def css : Language where
  name := "css".toList
  extensions := [".css".toList, ".less".toList, ".scss".toList]
  description := "Style sheets (*.css, *.less, *.scss)".toList
  style := {
    block := some (.ofStrings "/*" "*/")
    has_comment := by decide }
  name_ne := by decide
  extensions_ne := by decide
  nil_notMem := by decide

/-- F# sources. -/
def fsharp : Language where
  name := "fsharp".toList
  extensions := [".fs".toList, ".fsi".toList, ".fsx".toList]
  description := "F# sources".toList
  style := {
    line := some (.ofString "//")
    block := some (.ofStrings "(*" "*)")
    has_comment := by decide }
  name_ne := by decide
  extensions_ne := by decide
  nil_notMem := by decide

/-- Visual Basic sources. -/
def vb : Language where
  name := "vb".toList
  extensions := [".vb".toList]
  description := "Visual Basic sources (*.vb)".toList
  style := {
    line := some (.ofString "'")
    region := some (.ofStrings "#Region" "#End Region")
    has_comment := by decide }
  name_ne := by decide
  extensions_ne := by decide
  nil_notMem := by decide

/-- XML documents, which may begin with a prolog. -/
def xml : Language where
  name := "xml".toList
  extensions := [".xml".toList, ".xaml".toList, ".config".toList, ".resx".toList,
    ".csproj".toList, ".vbproj".toList, ".props".toList, ".targets".toList, ".xsd".toList]
  description := "XML documents".toList
  style := {
    block := some (.ofStrings "<!--" "-->")
    skip := some xmlProlog
    has_comment := by decide }
  name_ne := by decide
  extensions_ne := by decide
  nil_notMem := by decide

/-- HTML documents, which may begin with a document type. -/
def html : Language where
  name := "html".toList
  extensions := [".html".toList, ".htm".toList, ".cshtml".toList, ".vbhtml".toList]
  description := "HTML documents".toList
  style := {
    block := some (.ofStrings "<!--" "-->")
    skip := some htmlDoctype
    has_comment := by decide }
  name_ne := by decide
  extensions_ne := by decide
  nil_notMem := by decide

/-- ASP.NET pages and controls. -/
def aspx : Language where
  name := "aspx".toList
  extensions := [".aspx".toList, ".ascx".toList, ".master".toList, ".asax".toList]
  description := "ASP.NET pages and controls".toList
  style := {
    block := some (.ofStrings "<%--" "--%>")
    has_comment := by decide }
  name_ne := by decide
  extensions_ne := by decide
  nil_notMem := by decide

/-- SQL scripts. -/
def sql : Language where
  name := "sql".toList
  extensions := [".sql".toList]
  description := "SQL scripts (*.sql)".toList
  style := {
    line := some (.ofString "--")
    block := some (.ofStrings "/*" "*/")
    has_comment := by decide }
  name_ne := by decide
  extensions_ne := by decide
  nil_notMem := by decide

/-- Python sources, which may begin with an interpreter line. -/
def python : Language where
  name := "python".toList
  extensions := [".py".toList, ".pyi".toList, ".pyw".toList]
  description := "Python sources".toList
  style := {
    line := some (.ofString "#")
    skip := some shebang
    has_comment := by decide }
  name_ne := by decide
  extensions_ne := by decide
  nil_notMem := by decide

/-- Shell scripts. -/
def shell : Language where
  name := "shell".toList
  extensions := [".sh".toList, ".bash".toList, ".zsh".toList]
  description := "Shell scripts".toList
  style := {
    line := some (.ofString "#")
    skip := some shebang
    has_comment := by decide }
  name_ne := by decide
  extensions_ne := by decide
  nil_notMem := by decide

/-- PowerShell scripts. -/
def powershell : Language where
  name := "powershell".toList
  extensions := [".ps1".toList, ".psm1".toList, ".psd1".toList]
  description := "PowerShell scripts".toList
  style := {
    line := some (.ofString "#")
    block := some (.ofStrings "<#" "#>")
    region := some (.ofStrings "#region" "#endregion")
    has_comment := by decide }
  name_ne := by decide
  extensions_ne := by decide
  nil_notMem := by decide

/-- Ruby sources, which may begin with an interpreter line. -/
def ruby : Language where
  name := "ruby".toList
  extensions := [".rb".toList]
  description := "Ruby sources (*.rb)".toList
  style := {
    line := some (.ofString "#")
    block := some (.ofStrings "=begin" "=end")
    skip := some shebang
    has_comment := by decide }
  name_ne := by decide
  extensions_ne := by decide
  nil_notMem := by decide

/-- Lua sources, which may begin with an interpreter line. -/
def lua : Language where
  name := "lua".toList
  extensions := [".lua".toList]
  description := "Lua sources (*.lua)".toList
  style := {
    line := some (.ofString "--")
    skip := some shebang
    has_comment := by decide }
  name_ne := by decide
  extensions_ne := by decide
  nil_notMem := by decide

/-- The built-in languages, in order of registration. -/
def all : List Language :=
  [csharp, c, cpp, java, go, javascript, css, fsharp, vb, xml,
    html, aspx, sql, python, shell, powershell, ruby, lua]

end Language.BuiltIn
end Letterhead
