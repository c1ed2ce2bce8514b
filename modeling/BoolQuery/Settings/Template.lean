import BoolQuery.Text.Basic

/-!
# Templates of settings files

A new settings file shows every setting with its default value, but changes nothing: its lines are
comments until someone removes the mark in front of them.
-/

namespace BoolQuery.Template

/-- The lines of a settings file in a directory. -/
def localLines : List Text := [
  "# rpn configuration",
  "#",
  "# Settings here override those in parent directories and in ~/.rpn.toml.",
  "",
  "# Stop looking for configuration in parent directories and ~/.rpn.toml.",
  "root = false",
  "",
  "[query]",
  "# Stemmer language used to normalize terms, or \"none\" to only lowercase them.",
  "# Supported: arabic, danish, dutch, english, finnish, french, german, greek,",
  "# hungarian, italian, norwegian, portuguese, romanian, russian, spanish,",
  "# swedish, tamil, turkish.",
  "stemmer = \"english\"",
  "",
  "# Report unbalanced parentheses and empty queries as errors.",
  "strict = false",
  "",
  "# Accept \"and\", \"or\" and \"not\" in any case as operators.",
  "case_insensitive_operators = false"]

/-- The lines of the global settings file. -/
def globalLines : List Text := [
  "# rpn global configuration",
  "#",
  "# Defaults for every directory. Project .rpn.toml files take precedence.",
  "",
  "[query]",
  "# Stemmer language used to normalize terms, or \"none\" to only lowercase them.",
  "stemmer = \"english\"",
  "",
  "# Report unbalanced parentheses and empty queries as errors.",
  "strict = false",
  "",
  "# Accept \"and\", \"or\" and \"not\" in any case as operators.",
  "case_insensitive_operators = false"]

/-- A line as a comment; comments and empty lines stay as they are. -/
def commentOut (line : Text) : Text :=
  if line.isEmpty || line.head? == some '#' then line else "# ".toList ++ line

/-- The text of lines that have all become comments. -/
def render (lines : List Text) : Text :=
  lines.flatMap fun line => Text.line (commentOut line)

/-- The content of a new settings file in a directory. -/
def localText : Text := render localLines

/-- The content of a new global settings file. -/
def globalText : Text := render globalLines

end BoolQuery.Template
