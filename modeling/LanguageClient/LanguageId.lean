import LanguageClient.Path

/-!
# Language identifiers

The identifier a document is opened with, told from the name of its file.
-/

namespace LanguageClient.LanguageId

/-- The identifiers of files known by their whole name. -/
def byName : List (String × String) := [
  ("Dockerfile", "dockerfile"),
  ("Makefile", "makefile"), ("makefile", "makefile"), ("GNUmakefile", "makefile")]

/-- The identifiers of files known by their extension, in lower case. -/
def byExtension : List (String × String) := [
  ("rs", "rust"), ("go", "go"),
  ("py", "python"), ("pyi", "python"),
  ("ts", "typescript"), ("tsx", "typescriptreact"),
  ("js", "javascript"), ("mjs", "javascript"), ("cjs", "javascript"),
  ("jsx", "javascriptreact"),
  ("java", "java"), ("kt", "kotlin"), ("kts", "kotlin"),
  ("c", "c"), ("h", "c"),
  ("cc", "cpp"), ("cpp", "cpp"), ("cxx", "cpp"), ("hpp", "cpp"), ("hh", "cpp"), ("hxx", "cpp"),
  ("cs", "csharp"), ("rb", "ruby"), ("php", "php"), ("swift", "swift"), ("scala", "scala"),
  ("lua", "lua"), ("zig", "zig"), ("hs", "haskell"),
  ("ex", "elixir"), ("exs", "elixir"), ("erl", "erlang"), ("hrl", "erlang"),
  ("clj", "clojure"), ("cljs", "clojure"), ("cljc", "clojure"),
  ("ml", "ocaml"), ("mli", "ocaml"), ("dart", "dart"),
  ("sh", "shellscript"), ("bash", "shellscript"), ("zsh", "shellscript"),
  ("ps1", "powershell"), ("sql", "sql"),
  ("html", "html"), ("htm", "html"), ("css", "css"), ("scss", "scss"), ("less", "less"),
  ("json", "json"), ("jsonc", "jsonc"), ("yaml", "yaml"), ("yml", "yaml"), ("toml", "toml"),
  ("xml", "xml"), ("md", "markdown"), ("markdown", "markdown"), ("tex", "latex"),
  ("vue", "vue"), ("svelte", "svelte"), ("proto", "proto"), ("tf", "terraform")]

/-- The identifiers of the two files of a Go module, by extension. -/
def byGoExtension : List (String × String) := [("mod", "go.mod"), ("sum", "go.sum")]

/-- The identifier of a file without another one. -/
def fallback : String := "plaintext"

private def lookUp (table : List (String × String)) (key : String) : Option String :=
  (table.find? fun entry => entry.1 = key).map Prod.snd

def ofPath (path : Path) : String :=
  let name := (path.fileName?.bind Text.Utf8.decode?).getD ""
  let extension := ((path.extension?.bind Text.Utf8.decode?).getD "").map Char.toLower
  let goModule := path.fileStem? = some (Text.Utf8.encode "go")
  ((lookUp byName name).or <|
    (if goModule then lookUp byGoExtension extension else none).or <|
    lookUp byExtension extension).getD fallback

end LanguageClient.LanguageId
