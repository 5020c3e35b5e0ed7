import FoloXray.Foundation.Stream
import FoloXray.Foundation.Codec
import FoloXray.Foundation.Transducer

/-! # The padded stream of Vision

While it pads, Vision cuts a stream into blocks.  A block has a command, the lengths of its content and
of its padding, and then both.  Blocks go on until one of them says that the padding ends, and what is
behind that block is the stream itself.  The receiver can be described by what it does with one byte.
-/

namespace FoloXray.Vision

open Foundation

def commandPaddingContinue : UInt8 := 0x00
def commandPaddingEnd : UInt8 := 0x01
def commandPaddingDirect : UInt8 := 0x02

structure Block where
  command : UInt8
  content : Bytes
  padding : Bytes
  content_lt : content.length < 65536
  padding_lt : padding.length < 65536

namespace Block

def header (b : Block) : Bytes :=
  b.command :: (twoBytes b.content.length ++ twoBytes b.padding.length)

def encode (b : Block) : Bytes := b.header ++ (b.content ++ b.padding)

end Block

def encodeBlocks (bs : List Block) : Bytes := (bs.map Block.encode).flatten

def contents (bs : List Block) : Bytes := (bs.map Block.content).flatten

theorem encodeBlocks_append (bs bs' : List Block) :
    encodeBlocks (bs ++ bs') = encodeBlocks bs ++ encodeBlocks bs' := by
  rw [encodeBlocks, List.map_append, List.flatten_append]
  rfl

theorem contents_append (bs bs' : List Block) : contents (bs ++ bs') = contents bs ++ contents bs' := by
  rw [contents, List.map_append, List.flatten_append]
  rfl

/-- The counters of the receiver: what is left of the five command bytes, of the content and of the
padding, and the command of the block. -/
structure Unpadder where
  remainingCommand : ℤ
  remainingContent : ℤ
  remainingPadding : ℤ
  currentCommand : UInt8
  deriving DecidableEq, Repr

namespace Unpadder

def isInitial (s : Unpadder) : Bool :=
  s.remainingCommand == -1 && s.remainingContent == -1 && s.remainingPadding == -1

/-- One of the five command bytes.  The low byte of a length is put behind the high byte, which the
byte before has left with zeros there. -/
def command (s : Unpadder) (data : UInt8) : Unpadder :=
  let s' :=
    if s.remainingCommand = 5 then { s with currentCommand := data }
    else if s.remainingCommand = 4 then { s with remainingContent := data.toNat * 256 }
    else if s.remainingCommand = 3 then { s with remainingContent := s.remainingContent + data.toNat }
    else if s.remainingCommand = 2 then { s with remainingPadding := data.toNat * 256 }
    else if s.remainingCommand = 1 then { s with remainingPadding := s.remainingPadding + data.toNat }
    else s
  { s' with remainingCommand := s.remainingCommand - 1 }

def blockDone (s : Unpadder) : Bool :=
  s.remainingCommand ≤ 0 && s.remainingContent ≤ 0 && s.remainingPadding ≤ 0

/-- Behind a block: the next one, or the initial state again. -/
def nextBlock (s : Unpadder) : Unpadder :=
  if s.currentCommand = commandPaddingContinue then { s with remainingCommand := 5 }
  else { s with remainingCommand := -1, remainingContent := -1, remainingPadding := -1 }

def settle (s : Unpadder) : Unpadder := if s.blockDone then s.nextBlock else s

/-- What becomes of one byte: in the initial state it is passed on as it is. -/
def absorb (s : Unpadder) (x : UInt8) : Unpadder × Bytes :=
  if s.isInitial then (s, [x])
  else if 0 < s.remainingCommand then ((s.command x).settle, [])
  else if 0 < s.remainingContent then
    ({ s with remainingContent := s.remainingContent - 1 }.settle, [x])
  else ({ s with remainingPadding := s.remainingPadding - 1 }.settle, [])

structure Ready (s : Unpadder) : Prop where
  command : s.remainingCommand = 5
  content : s.remainingContent ≤ 0
  padding : s.remainingPadding ≤ 0

variable {s : Unpadder} {b : Block}

theorem not_isInitial (h : 0 ≤ s.remainingCommand) : s.isInitial = false := by
  have hne : s.remainingCommand ≠ -1 := by omega
  simp [isInitial, hne]

theorem absorb_command (h : 0 < s.remainingCommand) (x : UInt8) :
    absorb s x = ((s.command x).settle, []) := by
  rw [absorb, not_isInitial h.le, if_neg Bool.false_ne_true, if_pos h]

theorem settle_of_command (h : 0 < s.remainingCommand) : s.settle = s := by
  rw [settle, if_neg]
  simp only [blockDone, Bool.and_eq_true, decide_eq_true_eq, not_and]
  omega

theorem transduce_header (h : s.Ready) (b : Block) :
    transduce absorb s b.header =
      (settle ⟨0, b.content.length, b.padding.length, b.command⟩, []) := by
  obtain ⟨hcommand, -, -⟩ := h
  have hc := twoBytes_value b.content_lt
  have hp := twoBytes_value b.padding_lt
  obtain ⟨command, content, padding, current⟩ := s
  subst hcommand
  simp only [Block.header, twoBytes, List.cons_append, List.nil_append, transduce_cons, transduce_nil]
  generalize UInt8.ofNat (b.content.length / 256) = c1 at hc ⊢
  generalize UInt8.ofNat (b.padding.length / 256) = p1 at hp ⊢
  generalize UInt8.ofNat b.content.length = c0 at hc ⊢
  generalize UInt8.ofNat b.padding.length = p0 at hp ⊢
  rw [← hc, ← hp]
  simp [absorb_command, Unpadder.command, settle_of_command]

theorem transduce_content (command : UInt8) (r : ℕ) (p : ℤ) (xs : Bytes) :
    transduce absorb (settle ⟨0, (xs.length + r : ℕ), p, command⟩) xs =
      (settle ⟨0, r, p, command⟩, xs) := by
  induction xs with
  | nil => simp
  | cons x xs ih =>
    have hsettle : settle ⟨0, ((x :: xs).length + r : ℕ), p, command⟩ =
        ⟨0, ((x :: xs).length + r : ℕ), p, command⟩ := by
      rw [settle, if_neg]
      simp only [blockDone, List.length_cons, Bool.and_eq_true, decide_eq_true_eq, not_and]
      omega
    have habsorb : absorb ⟨0, ((x :: xs).length + r : ℕ), p, command⟩ x =
        (settle ⟨0, (xs.length + r : ℕ), p, command⟩, [x]) := by
      have hpos : (0 : ℤ) < ((x :: xs).length + r : ℕ) := by simp only [List.length_cons]; omega
      have hless : (((x :: xs).length + r : ℕ) : ℤ) - 1 = (xs.length + r : ℕ) := by
        simp only [List.length_cons]
        omega
      rw [absorb, not_isInitial le_rfl, if_neg Bool.false_ne_true, if_neg (lt_irrefl _), if_pos hpos, hless]
    rw [hsettle, transduce_cons, habsorb, ih]
    rfl

theorem transduce_padding (command : UInt8) {c : ℤ} (hc : c ≤ 0) (r : ℕ) (xs : Bytes) :
    transduce absorb (settle ⟨0, c, (xs.length + r : ℕ), command⟩) xs =
      (settle ⟨0, c, r, command⟩, []) := by
  induction xs with
  | nil => simp
  | cons x xs ih =>
    have hsettle : settle ⟨0, c, ((x :: xs).length + r : ℕ), command⟩ =
        ⟨0, c, ((x :: xs).length + r : ℕ), command⟩ := by
      rw [settle, if_neg]
      simp only [blockDone, List.length_cons, Bool.and_eq_true, decide_eq_true_eq, not_and]
      omega
    have habsorb : absorb ⟨0, c, ((x :: xs).length + r : ℕ), command⟩ x =
        (settle ⟨0, c, (xs.length + r : ℕ), command⟩, []) := by
      have hless : (((x :: xs).length + r : ℕ) : ℤ) - 1 = (xs.length + r : ℕ) := by
        simp only [List.length_cons]
        omega
      rw [absorb, not_isInitial le_rfl, if_neg Bool.false_ne_true, if_neg (lt_irrefl _),
        if_neg (not_lt.mpr hc), hless]
    rw [hsettle, transduce_cons, habsorb, ih]
    rfl

theorem transduce_block (h : s.Ready) (b : Block) :
    transduce absorb s b.encode = (settle ⟨0, 0, 0, b.command⟩, b.content) := by
  have hcontent := transduce_content b.command 0 b.padding.length b.content
  have hpadding := transduce_padding b.command le_rfl 0 b.padding
  rw [Nat.add_zero] at hcontent hpadding
  rw [Block.encode, transduce_append, transduce_header h, transduce_append, hcontent]
  dsimp only
  rw [Nat.cast_zero, hpadding]
  simp

theorem ready_of_continue : (settle ⟨0, 0, 0, commandPaddingContinue⟩).Ready :=
  ⟨rfl, le_rfl, le_rfl⟩

/-- Blocks that go on leave the receiver before the next one. -/
theorem transduce_continues {bs : List Block} (h : s.Ready)
    (hbs : ∀ b ∈ bs, b.command = commandPaddingContinue) :
    (transduce absorb s (encodeBlocks bs)).1.Ready ∧
      (transduce absorb s (encodeBlocks bs)).2 = contents bs := by
  induction bs generalizing s with
  | nil => exact ⟨h, rfl⟩
  | cons b bs ih =>
    have hb := transduce_block h b
    rw [hbs b List.mem_cons_self] at hb
    obtain ⟨hready, hcontents⟩ := ih ready_of_continue (fun b' hb' => hbs b' (List.mem_cons_of_mem b hb'))
    rw [encodeBlocks, List.map_cons, List.flatten_cons, transduce_append, hb]
    exact ⟨hready, by rw [contents, List.map_cons, List.flatten_cons]; exact congrArg _ hcontents⟩

theorem isInitial_of_end {command : UInt8} (h : command ≠ commandPaddingContinue) :
    settle ⟨0, 0, 0, command⟩ = ⟨-1, -1, -1, command⟩ := by
  simp [settle, blockDone, nextBlock, h]

/-- In the initial state the stream is passed on as it is. -/
theorem transduce_initial (h : s.isInitial = true) (xs : Bytes) : transduce absorb s xs = (s, xs) := by
  have hstep : ∀ x, absorb s x = (s, [x]) := fun x => by rw [absorb, if_pos h]
  rw [transduce_fixed hstep, List.flatMap_singleton']

/-- A whole stream: blocks that go on, one that ends the padding, and the rest as it is. -/
theorem transduce_session {bs : List Block} {last : Block} (raw : Bytes) (h : s.Ready)
    (hbs : ∀ b ∈ bs, b.command = commandPaddingContinue) (hlast : last.command ≠ commandPaddingContinue) :
    transduce absorb s (encodeBlocks bs ++ (last.encode ++ raw)) =
      (⟨-1, -1, -1, last.command⟩, contents bs ++ (last.content ++ raw)) := by
  obtain ⟨hready, hcontents⟩ := transduce_continues h hbs
  rw [transduce_append, transduce_append, transduce_block hready, isInitial_of_end hlast,
    transduce_initial rfl, hcontents]

end Unpadder

end FoloXray.Vision
