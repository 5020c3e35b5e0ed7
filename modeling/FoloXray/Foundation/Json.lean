import FoloXray.Foundation.Address

/-! # Reading JSON values

A value is read from the front of a byte stream by a push-down machine that takes one byte at a
time, as in `encoding/json`: the open arrays and objects are a stack, of limited depth, and the
bytes of the string or number being read are kept until it ends.  An object keeps the order and
the repetitions of its members.  Strings are unquoted as they are read.
-/

namespace FoloXray.Foundation

/-- A JSON value; a number is its literal. -/
inductive Json where
  | null
  | bool (b : Bool)
  | number (literal : Bytes)
  | string (s : Bytes)
  | array (elems : List Json)
  | object (members : List (Bytes × Json))

namespace Json

def quoteMark : UInt8 := 0x22
def comma : UInt8 := 0x2c
def minus : UInt8 := 0x2d
def plus : UInt8 := 0x2b
def zeroDigit : UInt8 := 0x30
def openBracket : UInt8 := 0x5b
def backslash : UInt8 := 0x5c
def closeBracket : UInt8 := 0x5d
def openBrace : UInt8 := 0x7b
def closeBrace : UInt8 := 0x7d

def isSpace (c : UInt8) : Bool := c == 0x20 || c == 0x09 || c == 0x0d || c == 0x0a

def isDigit (c : UInt8) : Bool := 0x30 ≤ c.toNat && c.toNat ≤ 0x39

def isExponentMark (c : UInt8) : Bool := c == 0x65 || c == 0x45

def maxNestingDepth : ℕ := 10000

/-- The code unit of a `\uXXXX` escape at the front of a string. -/
def getu4 : Bytes → Option ℕ
  | b0 :: b1 :: h0 :: h1 :: h2 :: h3 :: _ => do
    if b0 = backslash ∧ b1 = 0x75 then
      let d0 ← hexDigit h0
      let d1 ← hexDigit h1
      let d2 ← hexDigit h2
      let d3 ← hexDigit h3
      some (d0 * 4096 + d1 * 256 + d2 * 16 + d3)
    else none
  | _ => none

def decodeSurrogates (r1 r2 : ℕ) : Option ℕ :=
  if 0xd800 ≤ r1 ∧ r1 < 0xdc00 ∧ 0xdc00 ≤ r2 ∧ r2 < 0xe000 then
    some ((r1 - 0xd800) * 1024 + (r2 - 0xdc00) + 0x10000)
  else none

/-- The code point of the `\u` escape of code unit `rr` that is followed by `next`, and the number
of bytes the escape takes. -/
def unicodeEscape (rr : ℕ) (next : Bytes) : ℕ × ℕ :=
  if 0xd800 ≤ rr ∧ rr < 0xe000 then
    match (getu4 next).bind (decodeSurrogates rr) with
    | some r => (r, 12)
    | none => (runeError, 6)
  else (rr, 6)

def simpleEscape (c : UInt8) : UInt8 :=
  if c = 0x62 then 0x08
  else if c = 0x66 then 0x0c
  else if c = 0x6e then 0x0a
  else if c = 0x72 then 0x0d
  else if c = 0x74 then 0x09
  else c

/-- Replace the escapes of a scanned string, and each invalid byte by U+FFFD. -/
def unquoteLoop : (fuel : ℕ) → Bytes → Bytes
  | 0, _ => []
  | _ + 1, [] => []
  | fuel + 1, c :: rest =>
    if c = backslash then
      match getu4 (c :: rest) with
      | some rr =>
        let (r, n) := unicodeEscape rr (rest.drop 5)
        encodeRune r ++ unquoteLoop fuel ((c :: rest).drop n)
      | none =>
        match rest with
        | [] => []
        | e :: rest => simpleEscape e :: unquoteLoop fuel rest
    else if c.toNat < 0x80 then c :: unquoteLoop fuel rest
    else
      let (r, n) := decodeRune (c :: rest)
      encodeRune r ++ unquoteLoop fuel ((c :: rest).drop n)

def unquote (s : Bytes) : Bytes := unquoteLoop s.length s

/-- How far a number has been read; the names are those of the scanner's states. -/
inductive NumberState where
  | neg
  | zero
  | one
  | dot
  | dot0
  | e
  | eSign
  | e0
  deriving DecidableEq, Repr

def NumberState.complete : NumberState → Bool
  | .zero | .one | .dot0 | .e0 => true
  | .neg | .dot | .e | .eSign => false

def NumberState.next (n : NumberState) (c : UInt8) : Option NumberState :=
  match n with
  | .neg => if c = zeroDigit then some .zero else if isDigit c then some .one else none
  | .one =>
    if isDigit c then some .one
    else if c = Foundation.dot then some .dot
    else if isExponentMark c then some .e
    else none
  | .zero =>
    if c = Foundation.dot then some .dot else if isExponentMark c then some .e else none
  | .dot => if isDigit c then some .dot0 else none
  | .dot0 => if isDigit c then some .dot0 else if isExponentMark c then some .e else none
  | .e => if c = plus ∨ c = minus then some .eSign else if isDigit c then some .e0 else none
  | .eSign | .e0 => if isDigit c then some .e0 else none

inductive StringState where
  | inString
  | esc
  | escU (digits : ℕ)
  deriving DecidableEq, Repr

/-- The state after one more byte that is not the closing quote. -/
def StringState.next (s : StringState) (c : UInt8) : Option StringState :=
  match s with
  | .inString =>
    if c = backslash then some .esc else if c.toNat < 0x20 then none else some .inString
  | .esc =>
    if c = 0x75 then some (.escU 3)
    else if c ∈ [quoteMark, backslash, slash, 0x62, 0x66, 0x6e, 0x72, 0x74] then some .inString
    else none
  | .escU digits =>
    if hexDigit c = none then none
    else match digits with
      | 0 => some .inString
      | digits + 1 => some (.escU digits)

/-- What the scanner expects next.  `endKey` and `endValue` follow a member's name and a value. -/
inductive ScanState where
  | beginValue
  | beginValueOrEmpty
  | beginString
  | beginStringOrEmpty
  | endKey
  | endValue
  | inString (isKey : Bool) (s : StringState)
  | inNumber (n : NumberState)
  | inLiteral (rest : Bytes) (value : Json)

/-- An open array or object with what has been read of it, newest first; `key` is the name of the
member being read. -/
inductive Frame where
  | array (elems : List Json)
  | object (members : List (Bytes × Json)) (key : Bytes)

structure Scanner where
  state : ScanState
  stack : List Frame
  token : Bytes

def Scanner.start : Scanner := ⟨.beginValue, [], []⟩

/-- What one byte leads to.  A number ends at the first byte that is not part of it, and that byte
is left unread if the number is the whole value. -/
inductive Progress where
  | more (s : Scanner)
  | value (v : Json) (consumed : Bool)
  | syntaxError

def Scanner.complete (v : Json) (consumed : Bool) : List Frame → Progress
  | [] => .value v consumed
  | .array elems :: stack => .more ⟨.endValue, .array (v :: elems) :: stack, []⟩
  | .object members key :: stack => .more ⟨.endValue, .object ((key, v) :: members) key :: stack, []⟩

def Scanner.push (frame : Frame) (state : ScanState) (stack : List Frame) : Progress :=
  if stack.length < maxNestingDepth then .more ⟨state, frame :: stack, []⟩ else .syntaxError

def Scanner.beginValue (stack : List Frame) (c : UInt8) : Progress :=
  if isSpace c then .more ⟨.beginValue, stack, []⟩
  else if c = openBrace then push (.object [] []) .beginStringOrEmpty stack
  else if c = openBracket then push (.array []) .beginValueOrEmpty stack
  else if c = quoteMark then .more ⟨.inString false .inString, stack, []⟩
  else if c = minus then .more ⟨.inNumber .neg, stack, [c]⟩
  else if c = zeroDigit then .more ⟨.inNumber .zero, stack, [c]⟩
  else if isDigit c then .more ⟨.inNumber .one, stack, [c]⟩
  else if c = 0x74 then .more ⟨.inLiteral (goString "rue") (.bool true), stack, []⟩
  else if c = 0x66 then .more ⟨.inLiteral (goString "alse") (.bool false), stack, []⟩
  else if c = 0x6e then .more ⟨.inLiteral (goString "ull") .null, stack, []⟩
  else .syntaxError

def Scanner.beginString (stack : List Frame) (c : UInt8) : Progress :=
  if isSpace c then .more ⟨.beginString, stack, []⟩
  else if c = quoteMark then .more ⟨.inString true .inString, stack, []⟩
  else .syntaxError

def Scanner.endValue (stack : List Frame) (c : UInt8) : Progress :=
  match stack with
  | [] => .syntaxError
  | .array elems :: outer =>
    if isSpace c then .more ⟨.endValue, stack, []⟩
    else if c = comma then .more ⟨.beginValue, stack, []⟩
    else if c = closeBracket then complete (.array elems.reverse) true outer
    else .syntaxError
  | .object members _ :: outer =>
    if isSpace c then .more ⟨.endValue, stack, []⟩
    else if c = comma then .more ⟨.beginString, stack, []⟩
    else if c = closeBrace then complete (.object members.reverse) true outer
    else .syntaxError

/-- The closing quote of a member's name or of a value. -/
def Scanner.endString (isKey : Bool) (stack : List Frame) (token : Bytes) : Progress :=
  let s := unquote token.reverse
  if isKey then
    match stack with
    | .object members _ :: outer => .more ⟨.endKey, .object members s :: outer, []⟩
    | _ => .syntaxError
  else complete (.string s) true stack

/-- The end of a number at a byte that is not part of it. -/
def Scanner.endNumber (stack : List Frame) (token : Bytes) (c : UInt8) : Progress :=
  match complete (.number token.reverse) false stack with
  | .more s => endValue s.stack c
  | p => p

def Scanner.step (s : Scanner) (c : UInt8) : Progress :=
  match s.state with
  | .beginValue => beginValue s.stack c
  | .beginValueOrEmpty =>
    if isSpace c then .more s
    else if c = closeBracket then endValue s.stack c
    else beginValue s.stack c
  | .beginString => beginString s.stack c
  | .beginStringOrEmpty =>
    if isSpace c then .more s
    else if c = closeBrace then endValue s.stack c
    else beginString s.stack c
  | .endKey =>
    if isSpace c then .more s
    else if c = colon then .more ⟨.beginValue, s.stack, []⟩
    else .syntaxError
  | .endValue => endValue s.stack c
  | .inString isKey str =>
    if str = .inString ∧ c = quoteMark then endString isKey s.stack s.token
    else
      match str.next c with
      | some str => .more ⟨.inString isKey str, s.stack, c :: s.token⟩
      | none => .syntaxError
  | .inNumber num =>
    match num.next c with
    | some num => .more ⟨.inNumber num, s.stack, c :: s.token⟩
    | none => if num.complete then endNumber s.stack s.token c else .syntaxError
  | .inLiteral rest value =>
    match rest with
    | [] => .syntaxError
    | r :: rest =>
      if c ≠ r then .syntaxError
      else if rest = [] then complete value true s.stack
      else .more ⟨.inLiteral rest value, s.stack, []⟩

/-- What reading one value from a stream gives; `value` comes with the unread rest. -/
inductive ReadResult where
  | value (v : Json) (rest : Bytes)
  | eof
  | unexpectedEOF
  | syntaxError

/-- The stream ends: a number may end with it, and a stream of white space held no value. -/
def Scanner.atEnd (s : Scanner) : ReadResult :=
  match s.state, s.stack with
  | .inNumber n, [] => if n.complete then .value (.number s.token.reverse) [] else .unexpectedEOF
  | .beginValue, [] => .eof
  | _, _ => .unexpectedEOF

def Scanner.read : Scanner → Bytes → ReadResult
  | s, [] => s.atEnd
  | s, c :: rest =>
    match s.step c with
    | .more s => s.read rest
    | .value v true => .value v rest
    | .value v false => .value v (c :: rest)
    | .syntaxError => .syntaxError

def readValue (s : Bytes) : ReadResult := Scanner.start.read s

end Json

end FoloXray.Foundation
