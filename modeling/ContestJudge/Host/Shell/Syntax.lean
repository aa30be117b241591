import ContestJudge.Host.Octets

namespace ContestJudge.Host.Shell

inductive Modifier where
  /-- Another text if the variable is not set, or also if it is empty. -/
  | otherwise (orEmpty : Bool) (text : Octets)
  /-- The same, and the variable takes the other text. -/
  | assign (orEmpty : Bool) (text : Octets)
  /-- Stops with a message if the variable is not set, or also if it is empty. -/
  | demand (orEmpty : Bool) (text : Octets)
  /-- Another text if the variable is set, or only if it is not empty. -/
  | instead (orEmpty : Bool) (text : Octets)
  /-- Cuts off an ending that matches a pattern. -/
  | cutEnd (longest : Bool) (pattern : Octets)
  /-- Cuts off a beginning that matches a pattern. -/
  | cutStart (longest : Bool) (pattern : Octets)
  | length

inductive Piece where
  | text (text : Octets) (quoted : Bool)
  | variable (name : Octets) (modifier : Option Modifier) (quoted : Bool)
  | arithmetic (expression : Octets) (quoted : Bool)
  | command (script : Octets) (quoted : Bool)

abbrev Word := List Piece

inductive RedirectKind where
  | input
  | output
  | append
  /-- To the descriptor that the target names. -/
  | duplicate
  /-- From the target itself. -/
  | document
  deriving DecidableEq

structure Redirect where
  descriptor : Nat
  kind : RedirectKind
  target : Word

inductive Command where
  | simple (line : Nat) (assignments : List (Octets × Word)) (words : List Word)
    (redirects : List Redirect)
  | pipeline (parts : List Command)
  | negation (command : Command)
  | both (first second : Command)
  | either (first second : Command)
  | sequence (first second : Command)
  | background (command : Command)
  /-- Repeats a body while a condition holds, or until it does. -/
  | loop (whileTrue : Bool) (condition body : Command)
  /-- Once for each word; without words, once for each argument. -/
  | each (name : Octets) (words : Option (List Word)) (body : Command)
  | choice (condition yes no : Command)
  | select (word : Word) (cases : List (List Word × Command))
  | subshell (body : Command)
  | redirected (command : Command) (redirects : List Redirect)
  | define (name : Octets) (body : Command)
  | nothing

inductive Token where
  /-- A word, and its text if nothing in it is quoted or expanded. -/
  | word (word : Word) (plain : Option Octets)
  /-- A descriptor number right before a redirection. -/
  | descriptor (number : Nat)
  | operator (text : String)
  /-- A text that begins behind the line. -/
  | document (text : Word)
  | newline
  | unfinished (what : String)

abbrev Tokens := List (Token × Nat)

end ContestJudge.Host.Shell
