/-!
# JSON documents

A text is read one character at a time: a mode says what the characters read
last have begun, and each character moves the mode on and may complete a token.
Numbers are checked but not kept, and a string whose escapes leave half a
surrogate pair on its own has no content.

A document is built from its tokens one by one.  A stack holds the arrays and
objects that are still open, so the depth of a document is not limited.
Members of an object keep their order and may repeat a name.
-/

namespace RoutedGraph

namespace Json

inductive Token where
  | openBracket
  | closeBracket
  | openBrace
  | closeBrace
  | comma
  | colon
  | null
  | bool (flag : Bool)
  | number
  | text (content : Option String)
  deriving DecidableEq

/-- What a string is made of: characters, and code units written in hexadecimal. -/
inductive Piece where
  | char (char : Char)
  | unit (code : Nat)
  deriving DecidableEq

namespace Piece

/-- Whether a code unit is the first half of a surrogate pair. -/
def isLeading (code : Nat) : Bool := 0xD800 ≤ code && code < 0xDC00

/-- Whether a code unit is the second half of a surrogate pair. -/
def isTrailing (code : Nat) : Bool := 0xDC00 ≤ code && code < 0xE000

/-- The characters of a string, unless half a surrogate pair stands alone. -/
def decode : List Piece → Option (List Char)
  | [] => some []
  | char single :: rest => (decode rest).map (single :: ·)
  | [unit code] => if isLeading code || isTrailing code then none else some [Char.ofNat code]
  | unit first :: unit second :: rest =>
      if isLeading first then
        if isTrailing second then
          (decode rest).map
            (Char.ofNat (0x10000 + (first - 0xD800) * 0x400 + (second - 0xDC00)) :: ·)
        else none
      else if isTrailing first then none
      else (decode (unit second :: rest)).map (Char.ofNat first :: ·)
  | unit code :: char single :: rest =>
      if isLeading code || isTrailing code then none
      else (decode rest).map fun chars => Char.ofNat code :: single :: chars

end Piece

/-- How far a number has been read. -/
inductive NumberStage where
  | minus
  | zero
  | whole
  | point
  | fraction
  | exponent
  | exponentSign
  | exponentDigits
  deriving DecidableEq

namespace NumberStage

def isComplete : NumberStage → Bool
  | zero | whole | fraction | exponentDigits => true
  | minus | point | exponent | exponentSign => false

/-- The stage after one more character, if the number goes on with it. -/
def next? (stage : NumberStage) (char : Char) : Option NumberStage :=
  match stage with
  | minus => if char = '0' then some zero else if char.isDigit then some whole else none
  | zero => afterWhole char
  | whole => if char.isDigit then some whole else afterWhole char
  | point => if char.isDigit then some fraction else none
  | fraction => if char.isDigit then some fraction else afterFraction char
  | exponent =>
      if char = '+' || char = '-' then some exponentSign
      else if char.isDigit then some exponentDigits else none
  | exponentSign => if char.isDigit then some exponentDigits else none
  | exponentDigits => if char.isDigit then some exponentDigits else none
where
  afterFraction (char : Char) : Option NumberStage :=
    if char = 'e' || char = 'E' then some exponent else none
  afterWhole (char : Char) : Option NumberStage :=
    if char = '.' then some point else afterFraction char

end NumberStage

/-- What the characters read last have begun. -/
inductive Mode where
  | between
  /-- A literal, its letters newest first. -/
  | word (letters : List Char)
  | number (stage : NumberStage)
  /-- A string, its pieces newest first. -/
  | text (pieces : List Piece)
  /-- A string after a backslash. -/
  | escape (pieces : List Piece)
  /-- A string within a hexadecimal escape that lacks some digits. -/
  | hex (pieces : List Piece) (missing code : Nat)

namespace Mode

def literal? (letters : List Char) : Option Token :=
  match String.ofList letters with
  | "true" => some (.bool true)
  | "false" => some (.bool false)
  | "null" => some .null
  | _ => none

/-- The token that is complete if nothing more belongs to it. -/
def close : Mode → Option (List Token)
  | between => some []
  | word letters => (literal? letters.reverse).map ([·])
  | number stage => if stage.isComplete then some [.number] else none
  | text _ => none
  | escape _ => none
  | hex _ _ _ => none

/-- Begin a token, or skip a blank. -/
def start (char : Char) : Option (List Token × Mode) :=
  if char = ' ' || char = '\t' || char = '\n' || char = '\r' then some ([], between)
  else if char = '[' then some ([.openBracket], between)
  else if char = ']' then some ([.closeBracket], between)
  else if char = '\x7b' then some ([.openBrace], between)
  else if char = '\x7d' then some ([.closeBrace], between)
  else if char = ',' then some ([.comma], between)
  else if char = ':' then some ([.colon], between)
  else if char = '"' then some ([], text [])
  else if char = '-' then some ([], number .minus)
  else if char = '0' then some ([], number .zero)
  else if char.isDigit then some ([], number .whole)
  else if char.isLower then some ([], word [char])
  else none

/-- Complete the token that was begun, and begin another. -/
def restart (mode : Mode) (char : Char) : Option (List Token × Mode) := do
  let closed ← mode.close
  let (opened, next) ← start char
  return (closed ++ opened, next)

def escaped? (char : Char) : Option Char :=
  match char with
  | '"' => some '"'
  | '\\' => some '\\'
  | '/' => some '/'
  | 'b' => some '\x08'
  | 'f' => some '\x0c'
  | 'n' => some '\n'
  | 'r' => some '\r'
  | 't' => some '\t'
  | _ => none

def hexDigit? (char : Char) : Option Nat :=
  if char.isDigit then some (char.toNat - '0'.toNat)
  else if 'a' ≤ char ∧ char ≤ 'f' then some (char.toNat - 'a'.toNat + 10)
  else if 'A' ≤ char ∧ char ≤ 'F' then some (char.toNat - 'A'.toNat + 10)
  else none

def advance (mode : Mode) (char : Char) : Option (List Token × Mode) :=
  match mode with
  | between => start char
  | word letters =>
      if char.isLower then some ([], word (char :: letters)) else mode.restart char
  | number stage =>
      match stage.next? char with
      | some next => some ([], number next)
      | none => mode.restart char
  | text pieces =>
      if char = '"' then
        some ([.text ((Piece.decode pieces.reverse).map String.ofList)], between)
      else if char = '\\' then some ([], escape pieces)
      else if char.toNat < 0x20 then none
      else some ([], text (.char char :: pieces))
  | escape pieces =>
      if char = 'u' then some ([], hex pieces 4 0)
      else (escaped? char).map fun plain => ([], text (.char plain :: pieces))
  | hex pieces missing code =>
      (hexDigit? char).map fun digit =>
        let value := code * 16 + digit
        if missing ≤ 1 then ([], text (.unit value :: pieces))
        else ([], hex pieces (missing - 1) value)

def scan (mode : Mode) : List Char → Option (List Token)
  | [] => mode.close
  | char :: rest => do
      let (opened, next) ← mode.advance char
      let tokens ← next.scan rest
      return opened ++ tokens

end Mode

/-- The tokens of a text, if it has no malformed one. -/
def Token.scan? (source : String) : Option (List Token) := Mode.between.scan source.toList

end Json

/-- A JSON document.  A string or a name without content is one that holds half a surrogate
pair. -/
inductive Json where
  | null
  | bool (flag : Bool)
  | number
  | text (content : Option String)
  | array (items : List Json)
  | object (members : List (Option String × Json))

namespace Json

/-- An array or an object that is still open, its contents newest first. -/
inductive Frame where
  | array (items : List Json)
  | object (members : List (Option String × Json))
  /-- An object with a name whose value is still to come. -/
  | member (members : List (Option String × Json)) (name : Option String)

inductive Expectation where
  | value
  /-- A value, or the end of an array just opened. -/
  | itemOrEnd
  | name
  /-- A name, or the end of an object just opened. -/
  | nameOrEnd
  | colon (name : Option String)
  /-- A comma, or the end of the innermost open array or object. -/
  | separator
  | nothing (document : Json)

structure Draft where
  frames : List Frame
  expected : Expectation

namespace Draft

/-- Before the first token. -/
def fresh : Draft := ⟨[], .value⟩

/-- Put a complete value where it belongs. -/
def place (value : Json) : List Frame → Option Draft
  | [] => some ⟨[], .nothing value⟩
  | .array items :: outer => some ⟨.array (value :: items) :: outer, .separator⟩
  | .member members name :: outer => some ⟨.object ((name, value) :: members) :: outer, .separator⟩
  | .object _ :: _ => none

def closeArray : List Frame → Option Draft
  | .array items :: outer => place (.array items.reverse) outer
  | _ => none

def closeObject : List Frame → Option Draft
  | .object members :: outer => place (.object members.reverse) outer
  | _ => none

def beginValue (frames : List Frame) : Token → Option Draft
  | .null => place .null frames
  | .bool flag => place (.bool flag) frames
  | .number => place .number frames
  | .text content => place (.text content) frames
  | .openBracket => some ⟨.array [] :: frames, .itemOrEnd⟩
  | .openBrace => some ⟨.object [] :: frames, .nameOrEnd⟩
  | _ => none

def accept (current : Draft) (token : Token) : Option Draft :=
  match current.expected, token with
  | .value, _ => beginValue current.frames token
  | .itemOrEnd, .closeBracket => closeArray current.frames
  | .itemOrEnd, _ => beginValue current.frames token
  | .name, .text name => some ⟨current.frames, .colon name⟩
  | .nameOrEnd, .text name => some ⟨current.frames, .colon name⟩
  | .nameOrEnd, .closeBrace => closeObject current.frames
  | .colon name, .colon =>
      match current.frames with
      | .object members :: outer => some ⟨.member members name :: outer, .value⟩
      | _ => none
  | .separator, .comma =>
      match current.frames with
      | .array _ :: _ => some ⟨current.frames, .value⟩
      | .object _ :: _ => some ⟨current.frames, .name⟩
      | _ => none
  | .separator, .closeBracket => closeArray current.frames
  | .separator, .closeBrace => closeObject current.frames
  | _, _ => none

def document? (current : Draft) : Option Json :=
  match current.expected with
  | .nothing document => some document
  | _ => none

end Draft

def parse? (source : String) : Option Json := do
  let tokens ← Token.scan? source
  let final ← tokens.foldlM Draft.accept Draft.fresh
  final.document?

end Json

end RoutedGraph
