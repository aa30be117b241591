import ContestJudge.Number.Binary64

namespace ContestJudge.Host.Script

inductive Token where
  | name (text : String)
  | whole (n : Nat)
  | real (x : Binary64)
  | text (text : List Char)
  /-- A text with expressions in it. -/
  | template (text : List Char)
  | operator (text : String)
  | newline
  | indent
  | dedent

abbrev Tokens := List (Token × Nat)

structure Misprint where
  kind : String
  message : String
  line : Nat

inductive Expr where
  | none
  | bool (b : Bool)
  | whole (n : Nat)
  | real (x : Binary64)
  | text (text : List Char)
  /-- Texts and the texts of values, joined. -/
  | template (parts : List Expr)
  | name (name : String)
  | tuple (items : List Expr)
  | list (items : List Expr)
  /-- An item for each value of a source that passes the conditions. -/
  | comprehension (item target source : Expr) (conditions : List Expr)
  | call (f : Expr) (args : List Expr) (named : List (String × Expr))
  | attribute (e : Expr) (name : String)
  | index (e i : Expr)
  | slice (e : Expr) (first last step : Expr)
  | unary (operator : String) (e : Expr)
  | binary (operator : String) (left right : Expr)
  /-- Each neighbouring pair is compared. -/
  | compare (first : Expr) (others : List (String × Expr))
  | both (left right : Expr)
  | either (left right : Expr)
  | choice (condition yes no : Expr)

inductive Statement where
  | expression (e : Expr)
  | assign (targets : List Expr) (e : Expr)
  | update (target : Expr) (operator : String) (e : Expr)
  | branch (condition : Expr) (yes no : List (Nat × Statement))
  | repeatWhile (condition : Expr) (body otherwise : List (Nat × Statement))
  | repeatFor (target source : Expr) (body otherwise : List (Nat × Statement))
  | nothing
  | leave
  | again
  | giveBack (e : Expr)
  | define (name : String) (params : List (String × Option Expr)) (body : List (Nat × Statement))
  | shared (names : List String)
  /-- Modules with the names that they get. -/
  | bring (modules : List (String × String))
  | bringFrom (module : String) (names : List (String × String))
  | raise (e : Expr)
  /-- A body with something that is closed behind it. -/
  | within (e : Expr) (target : Option Expr) (body : List (Nat × Statement))
  | attempt (body : List (Nat × Statement))
    (handlers : List (Expr × Option String × List (Nat × Statement)))
    (always : List (Nat × Statement))

abbrev Block := List (Nat × Statement)

end ContestJudge.Host.Script
