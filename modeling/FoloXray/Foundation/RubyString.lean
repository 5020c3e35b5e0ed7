import FoloXray.Foundation.Address
import FoloXray.Foundation.Layout

/-! # Byte strings of Ruby

Slices, slice assignment, padding and the lenient reading of a decimal number, on strings of bytes.  An
index may be negative and then counts from the end.
-/

namespace FoloXray.Foundation.Ruby

/-- The position that an index stands for in a string of the given length. -/
def position (length : ℕ) (index : ℤ) : Option ℕ :=
  let i := if index < 0 then index + length else index
  if 0 ≤ i ∧ i ≤ length then some i.toNat else none

def byteslice (s : Bytes) (index : ℤ) (length : ℕ) : Option Bytes :=
  (position s.length index).map fun i => (s.drop i).take length

/-- `s[index, length] = part`; an index outside of the string is an error. -/
def assign (s : Bytes) (index : ℤ) (length : ℕ) (part : Bytes) : Option Bytes :=
  (position s.length index).map fun i => s.take i ++ part ++ s.drop (i + length)

def space : UInt8 := 0x20

def ljust (s : Bytes) (width : ℕ) : Bytes := s ++ List.replicate (width - s.length) space

def isSpace (c : UInt8) : Bool := c == space || (0x09 ≤ c.toNat && c.toNat ≤ 0x0d)

def underscore : UInt8 := 0x5f

/-- The number that the digits at the front spell, continued from `n`; single underscores may stand
between digits. -/
def digitRun : (n : ℕ) → Bytes → ℕ
  | n, [] => n
  | n, [c] => (decimalDigit c).elim n (10 * n + ·)
  | n, c :: d :: rest =>
    match decimalDigit c with
    | some v => digitRun (10 * n + v) (d :: rest)
    | none =>
      if c = underscore then
        match decimalDigit d with
        | some v => digitRun (10 * n + v) rest
        | none => n
      else n

/-- The string without the sign of a base in front of its digits. -/
def dropBase : Bytes → Bytes
  | 0x30 :: 0x64 :: rest => rest
  | 0x30 :: 0x44 :: rest => rest
  | s => s

/-- A number without its sign; it starts with a digit. -/
def unsigned (s : Bytes) : ℕ :=
  match (dropBase s).head?.bind decimalDigit with
  | some _ => digitRun 0 (dropBase s)
  | none => 0

/-- `to_i`: white space, a sign and a number, with anything behind it. -/
def toI (s : Bytes) : ℤ :=
  match s.dropWhile isSpace with
  | 0x2d :: rest => -unsigned rest
  | 0x2b :: rest => unsigned rest
  | rest => unsigned rest

section Slices

variable {s w part : Bytes} {i : ℕ}

theorem position_natCast {length : ℕ} (h : i ≤ length) : position length (i : ℤ) = some i := by
  have hnonneg : ¬ (i : ℤ) < 0 := by omega
  dsimp only [position]
  rw [if_neg hnonneg, if_pos (by omega), Int.toNat_natCast]

theorem byteslice_standsAt (h : StandsAt s i w) : byteslice s i w.length = some w := by
  have hle := h.length_le
  rw [byteslice, position_natCast (by omega), Option.map_some, h.slice_eq]

theorem assign_append (u v : Bytes) :
    assign (u ++ (w ++ v)) u.length w.length part = some (u ++ (part ++ v)) := by
  have hle : u.length ≤ (u ++ (w ++ v)).length := by simp
  rw [assign, position_natCast hle, Option.map_some, List.take_left, ← List.drop_drop, List.drop_left,
    List.drop_left, List.append_assoc]

end Slices

def decimalValue (digits : Bytes) : ℕ := digits.foldl (fun n c => 10 * n + (decimalDigit c).getD 0) 0

structure DecimalField (field : Bytes) (n : ℕ) : Prop where
  intro ::
  parts : ∃ before digits after, field = List.replicate before space ++ (digits ++
    List.replicate after space) ∧ digits ≠ [] ∧ (∀ c ∈ digits, decimalDigit c ≠ none) ∧
    decimalValue digits = n

section Numbers

variable {digits : Bytes}

theorem decimalDigit_space : decimalDigit space = none := rfl

theorem digitRun_cons {c : UInt8} {v : ℕ} (h : decimalDigit c = some v) (n : ℕ) (rest : Bytes) :
    digitRun n (c :: rest) = digitRun (10 * n + v) rest := by
  cases rest with
  | nil => simp [digitRun, h]
  | cons d rest => rw [digitRun, h]

theorem digitRun_spaces (n after : ℕ) : digitRun n (List.replicate after space) = n := by
  match after with
  | 0 => rfl
  | 1 => rfl
  | after + 2 =>
    rw [List.replicate_succ, List.replicate_succ, digitRun, decimalDigit_space]
    exact if_neg (by decide)

theorem digitRun_digits (h : ∀ c ∈ digits, decimalDigit c ≠ none) (n after : ℕ) :
    digitRun n (digits ++ List.replicate after space) =
      digits.foldl (fun n c => 10 * n + (decimalDigit c).getD 0) n := by
  induction digits generalizing n with
  | nil => exact digitRun_spaces n after
  | cons c digits ih =>
    obtain ⟨hc, h⟩ := List.forall_mem_cons.mp h
    obtain ⟨v, hv⟩ := Option.ne_none_iff_exists'.mp hc
    rw [List.cons_append, digitRun_cons hv, ih h, List.foldl_cons, hv, Option.getD_some]

theorem dropBase_eq {s : Bytes} (hlower : s.tail.head? ≠ some 0x64) (hupper : s.tail.head? ≠ some 0x44) :
    dropBase s = s := by
  unfold dropBase
  split
  · exact absurd rfl hlower
  · exact absurd rfl hupper
  · rfl

theorem decimalDigit_bounds {c : UInt8} (h : decimalDigit c ≠ none) :
    0x30 ≤ c.toNat ∧ c.toNat ≤ 0x39 := by
  unfold decimalDigit at h
  by_contra hout
  rw [if_neg hout] at h
  exact h rfl

/-- Behind a digit of a field stands another one or a space. -/
theorem head_field {c : UInt8} (h : ∀ d ∈ digits, decimalDigit d ≠ none) {after : ℕ}
    (hc : (digits ++ List.replicate after space).head? = some c) : c.toNat ≤ 0x39 := by
  have hmem := List.mem_of_head? hc
  rw [List.mem_append, List.mem_replicate] at hmem
  rcases hmem with hdigit | ⟨-, rfl⟩
  · exact (decimalDigit_bounds (h c hdigit)).2
  · decide

theorem unsigned_field (hne : digits ≠ []) (h : ∀ c ∈ digits, decimalDigit c ≠ none) (after : ℕ) :
    unsigned (digits ++ List.replicate after space) = decimalValue digits := by
  obtain ⟨c, rest, rfl⟩ := List.exists_cons_of_ne_nil hne
  obtain ⟨hc, hrest⟩ := List.forall_mem_cons.mp h
  obtain ⟨v, hv⟩ := Option.ne_none_iff_exists'.mp hc
  have hbase : dropBase (c :: rest ++ List.replicate after space) =
      c :: rest ++ List.replicate after space := by
    apply dropBase_eq
    · intro hd
      exact absurd (head_field hrest hd) (by decide)
    · intro hd
      exact absurd (head_field hrest hd) (by decide)
  rw [unsigned, hbase, List.cons_append, List.head?_cons, Option.bind_some, hv]
  exact digitRun_digits h 0 after

theorem dropWhile_spaces (before : ℕ) {c : UInt8} (hc : isSpace c = false) (rest : Bytes) :
    (List.replicate before space ++ c :: rest).dropWhile isSpace = c :: rest := by
  induction before with
  | zero => simp [hc]
  | succ before ih =>
    rw [List.replicate_succ, List.cons_append, List.dropWhile_cons_of_pos (by decide), ih]

theorem toI_decimalField {field : Bytes} {n : ℕ} (h : DecimalField field n) : toI field = n := by
  obtain ⟨before, digits, after, rfl, hne, hdigits, rfl⟩ := h.parts
  obtain ⟨c, rest, rfl⟩ := List.exists_cons_of_ne_nil hne
  have hc := decimalDigit_bounds (hdigits c List.mem_cons_self)
  have hspace : isSpace c = false := by
    have hbyte : space.toNat = 0x20 := rfl
    simp only [isSpace, ← UInt8.toNat_inj, hbyte, Bool.or_eq_false_iff, beq_eq_false_iff_ne, ne_eq,
      Bool.and_eq_false_iff, decide_eq_false_iff_not]
    omega
  have hfield := unsigned_field hne hdigits after
  rw [List.cons_append] at hfield
  unfold toI
  rw [List.cons_append, dropWhile_spaces before hspace]
  split
  · rename_i heq
    rw [(List.cons.inj heq).1] at hc
    exact absurd hc (by decide)
  · rename_i heq
    rw [(List.cons.inj heq).1] at hc
    exact absurd hc (by decide)
  · rw [hfield]

end Numbers

end FoloXray.Foundation.Ruby
