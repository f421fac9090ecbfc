/-!
# Reports of failures

A failure that ends a program has a message and what caused it, nearest first.
It is reported as an outline: the message, and below it the causes, numbered if
there are several.

- `Failure.within`: the failure as the cause of another.
- `Failure.report`: the outline.
-/

namespace BearerAuth

/-- A message and what caused it, nearest first. -/
structure Failure where
  message : String
  causes : List String := []
  deriving DecidableEq, Repr

namespace Failure

/-- The message and the causes in one list. -/
def chain (f : Failure) : List String := f.message :: f.causes

/-- The failure as the cause of another one. -/
def within (message : String) (f : Failure) : Failure := ⟨message, f.chain⟩

/-- The text with each further line moved to the right by `depth`. -/
def indent (depth : Nat) (s : String) : String :=
  String.ofList <| s.toList.flatMap fun c =>
    if c = '\n' then '\n' :: List.replicate depth ' ' else [c]

/-- The number of a cause, aligned to the right. -/
def label (n : Nat) : String :=
  let digits := toString n
  String.ofList (List.replicate (5 - digits.length) ' ') ++ digits ++ ": "

/-- The causes with their numbers, one on a line. -/
def numbered (n : Nat) : List String → String
  | [] => ""
  | cause :: rest => label n ++ indent 7 cause ++ "\n" ++ numbered (n + 1) rest

/-- The outline of the failure. -/
def report (f : Failure) : String :=
  "Error: " ++ f.message ++ "\n" ++
    match f.causes with
    | [] => ""
    | [cause] => "\nCaused by:\n    " ++ indent 4 cause ++ "\n"
    | causes => "\nCaused by:\n" ++ numbered 0 causes

end Failure

end BearerAuth
