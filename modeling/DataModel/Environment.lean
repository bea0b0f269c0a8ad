import DataModel.Text.Alphanumeric
import DataModel.Text.Blank

/-!
# Environments

The variables that a program finds in its environment, and the file that adds to them. Each line of
such a file sets one variable; those that are set already keep their values. Reading stops at the
first line that is not understood, and what was set before stays.

A value is written plainly up to the first blank, between single quotes as it is, or between double
quotes with escapes; quotes may reach over several lines. Outside single quotes a dollar sign
stands for the value of a variable.

No value that the system keeps has a null character in it. To set such a value is not an error that
can be handled: it ends the run.
-/

namespace DataModel

/-- Variables and their values. -/
abbrev Environment := List (String × String)

namespace Environment

/-- The environment with a variable set, in the place of an earlier value. -/
def set (env : Environment) (name value : String) : Environment :=
  if env.any (·.1 == name) then
    env.map fun entry => if entry.1 == name then (name, value) else entry
  else env ++ [(name, value)]

/-- The environment with a variable set, if the system can keep the value. -/
def set? (env : Environment) (name value : String) : Option Environment :=
  if value.toList.contains '\x00' then none else some (env.set name value)

/-- The environment with a variable set, unless it is set already. -/
def setDefault? (env : Environment) (name value : String) : Option Environment :=
  if (env.lookup name).isSome then some env else env.set? name value

/-! ### Lines -/

/-- Where a line stands after some of its characters. -/
inductive LineState where
  | plain
  | blank
  | escape
  | single
  | singleEscape
  | double
  | doubleEscape
  deriving Repr, DecidableEq

/-- The state after a character outside quotes. -/
def LineState.outside (c : Char) : LineState :=
  if c = '\\' then .escape
  else if c = '"' then .double
  else if c = '\x27' then .single
  else .plain

/-- The state after one more character. -/
def LineState.next (state : LineState) (c : Char) : LineState :=
  match state with
  | .plain => if Text.isBlank c && c ≠ '\n' && c ≠ '\r' then .blank else .outside c
  | .blank => .outside c
  | .escape => .plain
  | .single => if c = '\\' then .singleEscape else if c = '\x27' then .plain else .single
  | .singleEscape => .single
  | .double => if c = '\\' then .doubleEscape else if c = '"' then .plain else .double
  | .doubleEscape => .double

/-- A line up to a comment, and the state after it. A number sign after a blank starts a comment. -/
def scanLine (state : LineState) : List Char → List Char × Option LineState
  | [] => ([], some state)
  | c :: rest =>
    if state = .blank && c = '#' then ([], none)
    else
      let (kept, after) := scanLine (state.next c) rest
      (c :: kept, after)

/-- The first line of a text with its line feed, and the text after it. -/
def takeLine : List Char → List Char × List Char
  | [] => ([], [])
  | c :: rest =>
    if c = '\n' then ([c], rest)
    else
      let (line, after) := takeLine rest
      (c :: line, after)

/-- The lines of a text, each with its line feed. -/
def physicalLines : Nat → List Char → List (List Char)
  | 0, _ => []
  | _ + 1, [] => []
  | fuel + 1, cs =>
    let (line, after) := takeLine cs
    line :: physicalLines fuel after

/-- Lines put together where quotes or escapes reach over a line feed; nothing stands for a text
that ends inside quotes, or with a blank. -/
def logicalLines (before : List Char) (state : LineState) :
    List (List Char) → List (Option (List Char))
  | [] => if state = .plain then [] else [none]
  | line :: rest =>
    if ((before ++ line).dropWhile Text.isBlank).head? = some '#' then
      logicalLines [] .plain rest
    else
      match scanLine state line with
      | (kept, none) => some (before ++ kept) :: logicalLines [] .plain rest
      | (kept, some .plain) => some (before ++ kept) :: logicalLines [] .plain rest
      | (kept, some state) => logicalLines (before ++ kept) state rest

/-! ### Values -/

/-- What a variable in a value stands for. -/
def substitute (env : Environment) (name : List Char) : List Char :=
  ((env.lookup (String.ofList name)).getD "").toList

/-- Where a value stands after some of its characters. -/
inductive ValueState where
  | running
  /-- A value is complete; only a comment may follow. -/
  | ended
  | escape
  | single
  /-- The name of a variable is being read, between braces or not. -/
  | dollar (braced : Bool) (name : List Char)
  deriving Repr, DecidableEq

/-- The character that an escape denotes. -/
def escape? (c : Char) : Option Char :=
  if c = 'n' then some '\n'
  else if ['\\', '\x27', '"', '$', ' '].contains c then some c
  else none

/-- The value written in a text, of which `text` has been read; `quoted` tells whether double quotes
are open. The character after the name of a variable without braces belongs to the value, whatever
it is. -/
def valueFrom (env : Environment) (quoted : Bool) (state : ValueState) (text : List Char) :
    List Char → Option (List Char)
  | [] =>
    match state with
    | .dollar true _ => none
    | .single => none
    | .dollar false name => if quoted then none else some (text ++ substitute env name)
    | _ => if quoted then none else some text
  | c :: rest =>
    match state with
    | .ended =>
      if c = ' ' || c = '\t' then valueFrom env quoted .ended text rest
      else if c = '#' then (if quoted then none else some text)
      else none
    | .escape =>
      match escape? c with
      | some d => valueFrom env quoted .running (text ++ [d]) rest
      | none => none
    | .single =>
      if c = '\x27' then valueFrom env quoted .running text rest
      else valueFrom env quoted .single (text ++ [c]) rest
    | .dollar braced name =>
      if Text.isAlphanumeric c then valueFrom env quoted (.dollar braced (name ++ [c])) text rest
      else if braced then
        if c = '\x7d' then valueFrom env quoted .running (text ++ substitute env name) rest
        else valueFrom env quoted (.dollar true (name ++ [c])) text rest
      else if c = '\x7b' && name.isEmpty then valueFrom env quoted (.dollar true []) text rest
      else if c = '$' then
        valueFrom env quoted (.dollar false []) (text ++ substitute env name) rest
      else valueFrom env quoted .running (text ++ substitute env name ++ [c]) rest
    | .running =>
      if c = '$' then valueFrom env quoted (.dollar false []) text rest
      else if c = '\\' then valueFrom env quoted .escape text rest
      else if c = '"' then valueFrom env (!quoted) .running text rest
      else if quoted then valueFrom env quoted .running (text ++ [c]) rest
      else if c = '\x27' then valueFrom env quoted .single text rest
      else if c = ' ' || c = '\t' then valueFrom env quoted .ended text rest
      else valueFrom env quoted .running (text ++ [c]) rest

/-! ### Settings -/

/-- Whether a character starts the name of a variable. -/
def isKeyStart (c : Char) : Bool := c.isAlpha || c = '_'

/-- Whether a character continues the name of a variable. -/
def isKeyChar (c : Char) : Bool := c.isAlphanum || c = '_' || c = '.'

/-- The name of a variable and what follows it and the blanks after it. -/
def key? (cs : List Char) : Option (List Char × List Char) :=
  if cs.head?.any isKeyStart then
    some (cs.takeWhile isKeyChar, (cs.dropWhile isKeyChar).dropWhile Text.isBlank)
  else none

/-- The name of the variable that a line sets and the text of its value. The word `export` may come
first. -/
def assignment? (cs : List Char) : Option (List Char × List Char) := do
  let (name, rest) ← key? cs
  match rest with
  | '=' :: value => return (name, value)
  | rest =>
    if name = "export".toList then
      match ← key? rest with
      | (name, '=' :: value) => return (name, value)
      | _ => none
    else none

/-- What a line sets, if anything; nothing at all where the line is not understood. -/
def setting? (env : Environment) (line : List Char) : Option (Option (String × String)) :=
  let cs := ((line.reverse.dropWhile Text.isBlank).reverse).dropWhile Text.isBlank
  if cs.isEmpty || cs.head? = some '#' then some none
  else do
    let (name, rest) ← assignment? cs
    let rest := rest.dropWhile Text.isBlank
    let value ←
      if rest.isEmpty || rest.head? = some '#' then some []
      else valueFrom env false .running [] rest
    return some (String.ofList name, String.ofList value)

/-- The environment after lines, up to the first that is not understood, if all values can be set. -/
def applyLines (env : Environment) : List (Option (List Char)) → Option Environment
  | [] => some env
  | none :: _ => some env
  | some line :: rest =>
    match env.setting? line with
    | none => some env
    | some none => env.applyLines rest
    | some (some (name, value)) => do (← env.setDefault? name value).applyLines rest

/-- The environment after a file of settings, if all of them can be set. -/
def load (env : Environment) (text : String) : Option Environment :=
  let cs := text.toList
  let cs := if cs.head? = some (Char.ofNat 0xFEFF) then cs.drop 1 else cs
  env.applyLines (logicalLines [] .plain (physicalLines cs.length cs))

end Environment

end DataModel
