import Chronicle.Process

/-!
Command lines of a small shell: commands with words, redirections of the two outputs, pipelines,
lists, groups and loops over words.
-/

namespace Chronicle.Shell

/-- A piece of a word. -/
inductive Part where
  | text (cs : List Char)
  | variable (name : String)
  /-- The status of the last command. -/
  | status
  /-- The number of the shell's own process. -/
  | process
deriving DecidableEq, Repr, Inhabited

abbrev Word := List Part

/-- Where an output goes instead. -/
inductive Target where
  | output (o : Output)
  /-- Nowhere. -/
  | discard
deriving DecidableEq, Repr, Inhabited

structure Redirection where
  source : Output
  target : Target
deriving DecidableEq, Repr, Inhabited

inductive Command where
  | nothing
  /-- Assignments to variables, and a command if there are words. -/
  | simple (assignments : List (String × Word)) (words : List Word)
  | redirect (body : Command) (redirections : List Redirection)
  | sequence (first second : Command)
  | both (first second : Command)
  | either (first second : Command)
  | pipe (first second : Command)
  | negate (body : Command)
  /-- A list between parentheses: what it changes is forgotten. -/
  | subshell (body : Command)
  | loop (name : String) (items : List Word) (body : Command)
deriving Repr, Inhabited

end Chronicle.Shell
