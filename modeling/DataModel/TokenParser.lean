import DataModel.Text.Affix
import DataModel.Token
import DataModel.TypeExpr

/-!
# Parsers of tokens

A parser is a function on the tokens that are left. Each repetition is bounded by the number of
those tokens, since every item takes at least one, and so is the nesting of types. A repetition or
an option whose next item does not apply ends where it stands; what follows it decides whether
that is right.
-/

namespace DataModel

/-- A parser consumes tokens from the front. -/
abbrev Parser (α : Type) := StateT (List Token) Option α

namespace Parser

/-- The next token. -/
def next : Parser Token := fun
  | [] => none
  | t :: ts => some (t, ts)

/-- A name. -/
def name : Parser String := fun
  | .name s :: ts => some (s, ts)
  | _ => none

/-- The name `s` and no other. -/
def keyword (s : String) : Parser Unit := fun
  | .name t :: ts => if t = s then some ((), ts) else none
  | _ => none

/-- The name after the word `s`. The two may be written as one word. -/
def nameAfter (s : String) : Parser String := fun
  | .name t :: ts =>
    if t = s then name ts
    else
      match (Text.withoutPrefix? s t).filter isName with
      | some rest => some (rest, ts)
      | none => none
  | _ => none

/-- The punctuator `c` and no other. -/
def punctuator (c : Char) : Parser Unit := fun
  | .punctuator d :: ts => if d = c then some ((), ts) else none
  | _ => none

/-- A string. -/
def string : Parser String := fun
  | .string s :: ts => some (s, ts)
  | _ => none

/-- What `p` reads, or nothing where `p` does not apply. -/
def maybe {α : Type} (p : Parser α) : Parser (Option α) := fun ts =>
  match p ts with
  | some (a, rest) => some (some a, rest)
  | none => some (none, ts)

/-- Nothing, where `p` does not apply. -/
def unlessApplies {α : Type} (p : Parser α) : Parser Unit := fun ts =>
  match p ts with
  | some _ => none
  | none => some ((), ts)

/-- Up to `n` items. -/
def upTo {α : Type} (p : Parser α) : Nat → Parser (List α)
  | 0 => pure []
  | n + 1 => fun ts =>
    match p ts with
    | none => some ([], ts)
    | some (a, rest) =>
      match upTo p n rest with
      | none => none
      | some (as, rest) => some (a :: as, rest)

/-- As many items as there are. -/
def many {α : Type} (p : Parser α) : Parser (List α) := fun ts =>
  upTo p ts.length ts

/-- One or more items. -/
def many1 {α : Type} (p : Parser α) : Parser (List α) := do
  let first ← p
  let rest ← many p
  return first :: rest

/-- One or more names with the separator `c` between them and possibly before the first. -/
def separatedNames (c : Char) : Parser (List String) := do
  let _ ← maybe (punctuator c)
  let first ← name
  let rest ← many (do punctuator c; name)
  return first :: rest

/-- A type whose nesting is bounded by `n`. -/
def typeUpTo : Nat → Parser TypeExpr
  | 0 => failure
  | n + 1 => do
    let inner ←
      (do let s ← name; return TypeExpr.named s) <|>
      (do punctuator '['; let t ← typeUpTo n; punctuator ']'; return TypeExpr.list t)
    match ← maybe (punctuator '!') with
    | some _ => return .nonNull inner
    | none => return inner

/-- A type. -/
def type : Parser TypeExpr := fun ts => typeUpTo ts.length ts

end Parser

end DataModel
