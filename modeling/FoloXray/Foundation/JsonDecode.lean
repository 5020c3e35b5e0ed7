import FoloXray.Foundation.Json
import FoloXray.Foundation.Slice

/-! # Storing JSON values in typed variables

The rules of `encoding/json`: a value is stored into what a variable already holds, so a repeated
member of an object is merged into its first occurrence; `null` clears a pointer or a slice and
leaves anything else alone; a member's name is matched exactly or, failing that, up to letter
case.  A mismatch does not stop the decoding: the first error is kept and reported at the end.
-/

namespace FoloXray.Foundation.Json

/-- An error kept during a decoding; `field` is the path of member names to the variable. -/
inductive DecodeError where
  | unmarshalType (value : Bytes) (type : String) (field : List Bytes)
  | unknownField (key : Bytes)
  deriving DecidableEq, Repr

def DecodeError.inField (name : Bytes) : DecodeError → DecodeError
  | .unmarshalType value type field => .unmarshalType value type (name :: field)
  | e => e

/-- What a variable holds after a value was stored in it, and the first error of storing it. -/
structure Stored (τ : Type) where
  contents : τ
  error : Option DecodeError
  deriving DecidableEq, Repr

/-- How a value is stored in a variable of type `τ` that already holds something. -/
abbrev Decoder (τ : Type) := Json → τ → Stored τ

variable {τ α : Type}

def kind : Json → Bytes
  | .null => goString "null"
  | .bool _ => goString "bool"
  | .number _ => goString "number"
  | .string _ => goString "string"
  | .array _ => goString "array"
  | .object _ => goString "object"

/-- A value of the wrong kind leaves the variable alone. -/
def mismatch (type : String) (j : Json) (v : τ) : Stored τ :=
  ⟨v, some (.unmarshalType j.kind type [])⟩

def decodeString : Decoder Bytes
  | .null, v => ⟨v, none⟩
  | .string s, _ => ⟨s, none⟩
  | j, v => mismatch "string" j v

def digitsValue (s : Bytes) : Option ℕ :=
  s.foldlM (fun acc c => (decimalDigit c).map (acc * 10 + ·)) 0

def parseInt (literal : Bytes) : Option ℤ :=
  if literal.head? = some minus then
    (digitsValue literal.tail).bind fun n => if n ≤ 2 ^ 63 then some (-n) else none
  else (digitsValue literal).bind fun n => if n < 2 ^ 63 then some (n : ℤ) else none

/-- A number literal that the conversion refuses. -/
def badNumber (type : String) (literal : Bytes) (v : τ) : Stored τ :=
  ⟨v, some (.unmarshalType (goString "number " ++ literal) type [])⟩

def decodeInt : Decoder ℤ
  | .null, v => ⟨v, none⟩
  | .number literal, v =>
    match parseInt literal with
    | some n => ⟨n, none⟩
    | none => badNumber "int" literal v
  | j, v => mismatch "int" j v

def decodeUint16 : Decoder UInt16
  | .null, v => ⟨v, none⟩
  | .number literal, v =>
    match digitsValue literal with
    | some n => if n < 2 ^ 16 then ⟨UInt16.ofNat n, none⟩ else badNumber "uint16" literal v
    | none => badNumber "uint16" literal v
  | j, v => mismatch "uint16" j v

/-- A pointer is set to a new variable if it was nil. -/
def decodePointer (zero : τ) (decode : Decoder τ) : Decoder (Option τ)
  | .null, _ => ⟨none, none⟩
  | j, p =>
    let r := decode j (p.getD zero)
    ⟨some r.contents, r.error⟩

/-- Store elements into the cells of a slice from its first cell on; cells past the old length may
still hold what they held before, and new cells hold `zero`. -/
def decodeElems (zero : τ) (decode : Decoder τ) : List Json → List τ → Stored (List τ)
  | [], cells => ⟨cells, none⟩
  | j :: js, cells =>
    let first := decode j (cells.headD zero)
    let rest := decodeElems zero decode js cells.tail
    ⟨first.contents :: rest.contents, first.error <|> rest.error⟩

theorem length_le_decodeElems (zero : τ) (decode : Decoder τ) (js : List Json) (cells : List τ) :
    js.length ≤ (decodeElems zero decode js cells).contents.length := by
  induction js generalizing cells with
  | nil => exact Nat.zero_le _
  | cons j js ih => exact Nat.succ_le_succ (ih cells.tail)

def decodeSlice (type : String) (zero : τ) (decode : Decoder τ) : Decoder (Slice τ)
  | .null, _ => ⟨.empty, none⟩
  | .array [], _ => ⟨.empty, none⟩
  | .array elems, v =>
    ⟨⟨(decodeElems zero decode elems v.cells).contents, elems.length, length_le_decodeElems ..⟩,
      (decodeElems zero decode elems v.cells).error⟩
  | j, v => mismatch type j v

structure Field (τ : Type) where
  name : Bytes
  store : Decoder τ

def field (name : String) (get : τ → α) (set : τ → α → τ) (decode : Decoder α) : Field τ where
  name := goString name
  store j v :=
    let r := decode j (get v)
    ⟨set v r.contents, r.error⟩

/-- The case folding that names are compared under.  Outside ASCII it only matters which code
points fold to an ASCII letter. -/
def foldRune (r : ℕ) : ℕ :=
  if 0x61 ≤ r ∧ r ≤ 0x7a then r - 0x20
  else if r = 0x17f then 0x53
  else if r = 0x212a then 0x4b
  else r

def foldName (name : Bytes) : List ℕ := (decodeRunes name).map foldRune

def findField (fields : List (Field τ)) (key : Bytes) : Option (Field τ) :=
  fields.find? (·.name == key) <|> fields.find? (foldName ·.name == foldName key)

/-- Store one member of an object; `strict` refuses names that no field has. -/
def storeMember (strict : Bool) (fields : List (Field τ)) (v : Stored τ) (member : Bytes × Json) :
    Stored τ :=
  match findField fields member.1 with
  | some f =>
    let r := f.store member.2 v.contents
    ⟨r.contents, v.error <|> r.error.map (·.inField f.name)⟩
  | none => if strict then ⟨v.contents, v.error <|> some (.unknownField member.1)⟩ else v

def decodeStruct (type : String) (strict : Bool) (fields : List (Field τ)) : Decoder τ
  | .null, v => ⟨v, none⟩
  | .object members, v => members.foldl (storeMember strict fields) ⟨v, none⟩
  | j, v => mismatch type j v

/-- Does a number literal round to infinity in double precision? -/
def overflowsFloat (literal : Bytes) : Bool :=
  let s := if literal.head? = some minus then literal.tail else literal
  let mantissa := s.takeWhile (!isExponentMark ·)
  let exponent := s.drop (mantissa.length + 1)
  let whole := mantissa.takeWhile isDigit
  let digits := whole ++ mantissa.drop (whole.length + 1)
  let value := (digitsValue digits).getD 0
  let shift : ℤ := (mantissa.drop (whole.length + 1)).length
  let power : ℤ := ((digitsValue (exponent.filter isDigit)).getD 0 : ℕ)
  let scale : ℤ := (if exponent.head? = some minus then -power else power) - shift
  let bound := 2 ^ 1024 - 2 ^ 970
  if 0 ≤ scale then bound ≤ value * 10 ^ min scale.toNat 400
  else bound * 10 ^ min (-scale).toNat digits.length ≤ value

mutual

/-- The first error of storing the value in a variable of interface type; only numbers can fail. -/
def storeInterface : Json → Option DecodeError
  | .number literal =>
    if overflowsFloat literal then
      some (.unmarshalType (goString "number " ++ literal) "float64" [])
    else none
  | .array elems => storeElems elems
  | .object members => storeMembers members
  | .null | .bool _ | .string _ => none

def storeElems : List Json → Option DecodeError
  | [] => none
  | j :: js => storeInterface j <|> storeElems js

def storeMembers : List (Bytes × Json) → Option DecodeError
  | [] => none
  | (_, j) :: members => storeInterface j <|> storeMembers members

end

inductive StreamError where
  | eof
  | unexpectedEOF
  | syntaxError
  | decode (e : DecodeError)
  deriving DecidableEq, Repr

/-- Read the next value of a stream into a variable that holds `zero`; the unread rest of the
stream is returned with it. -/
def decodeNext (decode : Decoder τ) (zero : τ) (s : Bytes) : Except StreamError (τ × Bytes) :=
  match readValue s with
  | .value j rest =>
    match decode j zero with
    | ⟨v, none⟩ => .ok (v, rest)
    | ⟨_, some e⟩ => .error (.decode e)
  | .eof => .error .eof
  | .unexpectedEOF => .error .unexpectedEOF
  | .syntaxError => .error .syntaxError

end FoloXray.Foundation.Json
