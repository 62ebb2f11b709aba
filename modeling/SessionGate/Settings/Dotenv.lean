import SessionGate.Text.Blank
import SessionGate.Text.Parts

/-!
# Settings in a file

A settings file has one binding in a line: a name, an equals sign and a value, which may be quoted.
Comments begin with a hash sign. A line that is no binding is passed over.

A value may refer to other settings as `${NAME}`, with a default after `:-`. What it refers to
are the bindings before it and the environment. A name without an equals sign is bound too, but to
no value, and takes the value away that it had.
-/

namespace SessionGate.Dotenv

open Text

/-! ## Lines -/

/-- A blank inside a line. -/
def isInnerBlank (c : Char) : Bool :=
  isSpace c && c != '\n' && c != '\r'

def skipInner (cs : List Char) : List Char :=
  cs.dropWhile isInnerBlank

/-! ## Values -/

/-- What follows the mark that closes a text, and what follows the one that closes the text without
its first character. A backslash takes the next character along, which then does not close; it is a
character like any other where no mark would close otherwise. -/
def afterQuoted (mark : Char) : List Char → Option (List Char) × Option (List Char)
  | [] => (none, none)
  | c :: rest =>
    let (one, two) := afterQuoted mark rest
    (if c = mark then some rest
      else if c = '\\' then two.orElse fun _ ↦ one
      else one, one)

/-- The characters up to the closing mark, backslashes included, and the rest. -/
def spanQuoted? (mark : Char) (cs : List Char) : Option (List Char × List Char) :=
  (afterQuoted mark cs).1.map fun after ↦ (cs.take (cs.length - after.length - 1), after)

/-- The character of an escape in double quotes. -/
def escaped? : Char → Option Char
  | '\\' => some '\\'
  | '\'' => some '\''
  | '"' => some '"'
  | 'a' => some '\x07'
  | 'b' => some '\x08'
  | 'f' => some '\x0c'
  | 'n' => some '\n'
  | 'r' => some '\r'
  | 't' => some '\t'
  | 'v' => some '\x0b'
  | _ => none

/-- Single quotes escape themselves and the backslash only. -/
def escapedSingle? : Char → Option Char
  | '\\' => some '\\'
  | '\'' => some '\''
  | _ => none

def unescape (escape? : Char → Option Char) : List Char → List Char
  | [] => []
  | '\\' :: c :: rest =>
    match escape? c with
    | some d => d :: unescape escape? rest
    | none => '\\' :: unescape escape? (c :: rest)
  | c :: rest => c :: unescape escape? rest

/-- Whether a comment begins after blanks. -/
def beginsComment (cs : List Char) : Bool :=
  cs.head?.any isSpace && (cs.dropWhile isSpace).head? = some '#'

/-- A value without quotes ends where a comment begins after blanks. -/
def dropComment : List Char → List Char
  | [] => []
  | c :: rest => if beginsComment (c :: rest) then [] else c :: dropComment rest

/-- The value between two marks, of which the first stands before `cs`, and the rest. -/
def spanEscaped (mark : Char) (escape? : Char → Option Char) (cs : List Char) :
    Except (List Char) (List Char × List Char) :=
  match spanQuoted? mark cs with
  | some (body, after) => .ok (unescape escape? body, after)
  | none => .error (mark :: cs)

/-- The value after an equals sign, and the rest; a failure keeps the text from where the value
should begin. The blanks before a value without quotes are part of it until comments are gone. -/
def spanValue (cs : List Char) : Except (List Char) (List Char × List Char) :=
  match skipInner cs with
  | '\'' :: rest => spanEscaped '\'' escapedSingle? rest
  | '"' :: rest => spanEscaped '"' escaped? rest
  | _ =>
    .ok (trimChars (dropComment (cs.takeWhile (· ≠ '\n'))), cs.dropWhile (· ≠ '\n'))

/-! ## Bindings -/

/-- A name; there is none where a comment begins. -/
def spanName? : List Char → Option (Option (List Char) × List Char)
  | [] => none
  | '#' :: rest => some (none, '#' :: rest)
  | '\'' :: rest =>
    match rest.takeWhile (· ≠ '\''), rest.dropWhile (· ≠ '\'') with
    | [], _ => none
    | _, [] => none
    | name, _ :: after => some (some name, after)
  | cs =>
    let inName (c : Char) : Bool := c != '=' && c != '#' && !isSpace c
    match cs.takeWhile inName with
    | [] => none
    | name => some (some name, cs.dropWhile inName)

/-- Without the word that exports a binding. -/
def dropExport (cs : List Char) : List Char :=
  match cs with
  | 'e' :: 'x' :: 'p' :: 'o' :: 'r' :: 't' :: c :: rest =>
    if isInnerBlank c then skipInner rest else cs
  | _ => cs

/-- What follows a binding on its line, which may be a comment only. -/
def afterLine? (cs : List Char) : Option (List Char) :=
  let cs :=
    match skipInner cs with
    | '#' :: rest => rest.dropWhile (· ≠ '\n')
    | _ => cs
  match skipInner cs with
  | [] => some []
  | '\n' :: rest => some rest
  | _ => none

/-- A binding: a name, if the line is no comment, and its value, if it has one. -/
structure Binding where
  name : Option (List Char)
  value : Option (List Char)

/-- The value or, where there is none, the text from where it should be. -/
def orRest {α : Type} (cs : List Char) (x : Option α) : Except (List Char) α :=
  match x with
  | some a => .ok a
  | none => .error cs

/-- The binding that the text begins with, and the rest; a failure tells from where on the text is
not understood. -/
def binding (cs : List Char) : Except (List Char) (Binding × List Char) := do
  let start := dropExport cs
  let (name, rest) ← orRest start (spanName? start)
  match skipInner rest with
  | '=' :: more =>
    let (value, rest) ← spanValue more
    let after ← orRest rest (afterLine? rest)
    return (⟨name, some value⟩, after)
  | rest =>
    let after ← orRest rest (afterLine? rest)
    return (⟨name, none⟩, after)

/-- The bindings of a text, reading at most `fuel` lines; a name may stand without a value. -/
def bindingsFrom : Nat → List Char → List (List Char × Option (List Char))
  | 0, _ => []
  | fuel + 1, cs =>
    match cs.dropWhile isSpace with
    | [] => []
    | c :: rest =>
      match binding (c :: rest) with
      | .error unread => bindingsFrom fuel ((unread.dropWhile (· ≠ '\n')).drop 1)
      | .ok (⟨some name, value⟩, after) => (name, value) :: bindingsFrom fuel after
      | .ok (_, after) => bindingsFrom fuel after

/-! ## References -/

/-- A part of a value: text, or a reference with a default. -/
inductive Part where
  | text (c : Char)
  | reference (name default : List Char)

/-- The reference after its opening brace, and the rest. -/
def reference? (cs : List Char) : Option (Part × List Char) :=
  let name := cs.takeWhile fun c ↦ c != '\x7d' && c != ':'
  match cs.drop name.length with
  | '\x7d' :: rest => some (.reference name [], rest)
  | ':' :: '-' :: rest =>
    match rest.dropWhile (· ≠ '\x7d') with
    | _ :: after => some (.reference name (rest.takeWhile (· ≠ '\x7d')), after)
    | [] => none
  | _ => none

/-- The parts of a value, reading at most `fuel` of them. -/
def parts : Nat → List Char → List Part
  | 0, _ => []
  | _, [] => []
  | fuel + 1, '$' :: '\x7b' :: rest =>
    match reference? rest with
    | some (part, after) => part :: parts fuel after
    | none => .text '$' :: parts fuel ('\x7b' :: rest)
  | fuel + 1, c :: rest => .text c :: parts fuel rest

/-- The text a reference stands for: the default where the name is not bound, and nothing where it
is bound without a value. The later of two bindings of a name counts. -/
def referred (scope : List (String × Option String)) (name default : List Char) : List Char :=
  match scope.reverse.lookup (String.ofList name) with
  | some (some s) => s.toList
  | some none => []
  | none => default

/-- The value with its references replaced. -/
def resolve (scope : List (String × Option String)) (value : List Char) : String :=
  String.ofList ((parts value.length value).flatMap fun
    | .text c => [c]
    | .reference name default => referred scope name default)

/-- Resolves bindings one after the other. -/
def resolveAll (scope : List (String × Option String)) :
    List (List Char × Option (List Char)) → List (String × Option String)
  | [] => []
  | (name, value) :: rest =>
    let pair := (String.ofList name, value.map (resolve scope))
    pair :: resolveAll (scope ++ [pair]) rest

/-- The characters of a file without the byte order mark it may begin with. -/
def dropMark : List Char → List Char
  | '\uFEFF' :: rest => rest
  | cs => cs

/-- The settings in the text of a file, given the environment. -/
def read (environment : List (String × Option String)) (text : String) :
    List (String × Option String) :=
  let cs := normalizeLines (dropMark text.toList)
  resolveAll environment (bindingsFrom (cs.length + 1) cs)

end SessionGate.Dotenv
