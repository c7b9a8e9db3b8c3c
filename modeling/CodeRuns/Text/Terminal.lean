/-! Texts freed of terminal control: escape sequences are taken out, and of single control
characters only those of ASCII white space are left. Control strings run to their end mark
or to the next escape. White space inside of another sequence shows, and so does what comes
after it; the sequence goes on at the next control, unless a character beyond ASCII has
ended it. -/

namespace CodeRuns.Text.Terminal

inductive Mode where
  | plain
  | escape
  | escapeTail
  | parameters
  | deviceStart
  | deviceParameters
  | deviceTail
  | controlString
  | command
  deriving DecidableEq

def isControl (c : Char) : Bool := c.toNat < 0x20

def isSpacing (c : Char) : Bool := c == '\t' || c == '\n' || c == '\x0c' || c == '\r'

def isIntermediate (c : Char) : Bool := decide (0x20 ≤ c.toNat ∧ c.toNat ≤ 0x2F)

def isParameter (c : Char) : Bool := decide (0x30 ≤ c.toNat ∧ c.toNat ≤ 0x3F)

def isPrivate (c : Char) : Bool := decide (0x3C ≤ c.toNat ∧ c.toNat ≤ 0x3F)

def isFinal (c : Char) : Bool := decide (0x40 ≤ c.toNat ∧ c.toNat ≤ 0x7E)

def holdsEndMark (c : Char) : Bool := decide (0x80 ≤ c.toNat) && (String.utf8EncodeChar c).contains 0x9C

def afterEscape (c : Char) : Mode :=
  match c with
  | '[' => .parameters
  | ']' => .command
  | 'P' => .deviceStart
  | 'X' | '^' | '_' => .controlString
  | _ =>
    if isIntermediate c then .escapeTail
    else if isParameter c || isFinal c then .plain
    else .escape

def follow (m : Mode) (c : Char) : Mode :=
  match m with
  | .plain => .plain
  | .escape => afterEscape c
  | .escapeTail => if isParameter c || isFinal c then .plain else .escapeTail
  | .parameters => if isFinal c then .plain else .parameters
  | .deviceStart =>
    if isFinal c then .controlString
    else if isParameter c then .deviceParameters
    else if isIntermediate c then .deviceTail
    else .deviceStart
  | .deviceParameters =>
    if isFinal c || isPrivate c then .controlString
    else if isIntermediate c then .deviceTail
    else .deviceParameters
  | .deviceTail => if isFinal c || isParameter c then .controlString else .deviceTail
  | .controlString => if holdsEndMark c then .plain else .controlString
  | .command => if c = '\x07' then .plain else .command

def obeysControls : Mode → Bool
  | .plain | .escape | .escapeTail | .parameters => true
  | _ => false

def isEscape (c : Char) : Bool := c == '\x1b'

def cancels (c : Char) : Bool := c == '\x18' || c == '\x1a'

def isText (c : Char) : Bool := isSpacing c || (!isControl c && c != '\x7f')

structure Reader where
  mode : Mode
  showing : Bool
  deriving DecidableEq

namespace Reader

def start : Reader := ⟨.plain, true⟩

def shows (r : Reader) (c : Char) : Bool :=
  if r.showing || r.mode = .plain then isText c else isSpacing c && obeysControls r.mode

def next (r : Reader) (c : Char) : Reader :=
  if r.shows c then ⟨if c.toNat < 0x80 then r.mode else .plain, true⟩
  else if isEscape c then ⟨.escape, false⟩
  else if cancels c then ⟨.plain, false⟩
  else ⟨follow r.mode c, false⟩

end Reader

def shownFrom (r : Reader) : List Char → List Char
  | [] => []
  | c :: cs => if r.shows c then c :: shownFrom (r.next c) cs else shownFrom (r.next c) cs

def shown (s : String) : String := String.ofList (shownFrom .start s.toList)

end CodeRuns.Text.Terminal
