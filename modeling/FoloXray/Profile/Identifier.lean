import FoloXray.Foundation.Digest
import FoloXray.Foundation.Encoding

/-! # User identifiers

`common/uuid`: a text of 32 to 36 bytes is read as five groups of hexadecimal digits, each behind
an optional hyphen; a shorter text is hashed.  Only the total length is checked before the groups
are cut off, so a text can run out before its last group.
-/

namespace FoloXray.Profile

open Foundation

def byteGroups : List ℕ := [8, 4, 4, 4, 12]

def hyphen : UInt8 := 0x2d

structure UUID where
  bytes : Bytes
  length_eq : bytes.length = 16
  deriving DecidableEq, Repr

def UUID.zero : UUID := ⟨List.replicate 16 0, List.length_replicate⟩

def UUID.copyAt (uuid : UUID) (offset : ℕ) (src : Bytes) : UUID where
  bytes := (List.range 16).map fun i =>
    if offset ≤ i ∧ i < offset + src.length then src.getD (i - offset) 0 else uuid.bytes.getD i 0
  length_eq := by simp

inductive UUIDError where
  | invalid (str : Bytes)
  | hex (e : HexError)
  deriving DecidableEq, Repr

def skipHyphen (text : Slice UInt8) : Outcome UUIDError (Slice UInt8) := do
  let first ← text.index 0
  if first = hyphen then text.startingAt 1 else pure text

/-- The loop over the groups: `text` is what is left of the string, and `b` is what is left of the
array. -/
def parseGroups : List ℕ → (text b : Slice UInt8) → UUID → Outcome UUIDError UUID
  | [], _, _, uuid => .ok uuid
  | byteGroup :: groups, text, b, uuid => do
    let text ← skipHyphen text
    let dst ← b.upTo (byteGroup / 2)
    let src ← text.upTo byteGroup
    let decoded ← (hexDecode dst.len src.elems).mapError .hex
    let text ← text.startingAt byteGroup
    let rest ← b.startingAt (byteGroup / 2)
    parseGroups groups text rest (uuid.copyAt (16 - b.cap) decoded)

/-- The first sixteen bytes of a digest, with the version and variant bits set. -/
def stampDigest (digest : Bytes) : Outcome UUIDError UUID := do
  let u ← (Slice.ofList digest).upTo 16
  let u6 ← u.index 6
  let u8 ← u.index 8
  pure (UUID.zero.copyAt 0
    ((u.elems.set 6 (u6 &&& (0x0f : UInt8) ||| (5 : UInt8) <<< 4)).set 8
      (u8 &&& (0xff : UInt8) >>> 2 ||| (0x02 : UInt8) <<< 6)))

def hashString (text : Bytes) : Outcome UUIDError UUID :=
  stampDigest (SHA1.sum (UUID.zero.bytes ++ text))

def parseString (alloc : Allocator) (str : Bytes) : Outcome UUIDError UUID :=
  let text := alloc.byteSlice str
  if text.len < 32 ∨ 36 < text.len then
    if text.len = 0 ∨ 30 < text.len then .error (.invalid str) else hashString text.elems
  else parseGroups byteGroups text (Slice.ofList UUID.zero.bytes) UUID.zero

def UUID.stringGroups {ε : Type} (bytes : Bytes) :
    List ℕ → (start : ℕ) → (result : Bytes) → Outcome ε Bytes
  | [], _, result => .ok result
  | byteGroup :: groups, start, result => do
    let part ← stringSlice bytes start (start + byteGroup / 2)
    stringGroups bytes groups (start + byteGroup / 2) (result ++ [hyphen] ++ hexEncodeToString part)

def UUID.string {ε : Type} (u : UUID) : Outcome ε Bytes := do
  let part ← stringSlice u.bytes 0 (8 / 2)
  UUID.stringGroups u.bytes byteGroups.tail (8 / 2) (hexEncodeToString part)

theorem UUID.exists_string (ε : Type) (u : UUID) : ∃ s, (u.string : Outcome ε Bytes) = .ok s := by
  simp [UUID.string, UUID.stringGroups, byteGroups, stringSlice, u.length_eq]

theorem stampDigest_ne_panicked {digest : Bytes} (h : digest.length = 20) :
    stampDigest digest ≠ .panicked := by
  simp [stampDigest, Slice.upTo, Slice.index, h]

theorem hashString_ne_panicked (text : Bytes) : hashString text ≠ .panicked :=
  stampDigest_ne_panicked (SHA1.length_sum _)

/-- The text without the hyphen it starts with, if any. -/
def eatHyphen (s : Bytes) : Bytes := if s.head? = some hyphen then s.tail else s

/-- What is left of a text after the given groups of hexadecimal digits. -/
def eatGroups : List ℕ → Bytes → Option Bytes
  | [], s => some s
  | n :: groups, s =>
    if n ≤ (eatHyphen s).length ∧ AllHex ((eatHyphen s).take n) then
      eatGroups groups ((eatHyphen s).drop n)
    else none

/-- The first four groups can be read, and the twelve bytes of the last one reach past the room of
the slice that holds the text. -/
def Overruns (alloc : Allocator) (s : Bytes) : Prop :=
  32 ≤ s.length ∧ s.length ≤ 36 ∧ ∃ rest ∈ eatGroups [8, 4, 4, 4] s,
    alloc.capacity s.length < s.length - (eatHyphen rest).length + 12

instance (alloc : Allocator) (s : Bytes) : Decidable (Overruns alloc s) :=
  inferInstanceAs (Decidable (_ ∧ _ ∧ _))

/-- When the loop over the groups runs out of room, in terms of the remaining text and the number of
spare cells behind it. -/
def RunsOut (spare : ℕ) : List ℕ → Bytes → Prop
  | [], _ => False
  | n :: groups, s =>
    s = [] ∨ (eatHyphen s).length + spare < n ∨
      n ≤ (eatHyphen s).length ∧ AllHex ((eatHyphen s).take n) ∧
        RunsOut spare groups ((eatHyphen s).drop n)

theorem skipHyphen_nil (spare : Bytes) : skipHyphen (.withSpare [] spare) = .panicked := rfl

theorem skipHyphen_of_ne_nil {s : Bytes} (hs : s ≠ []) (spare : Bytes) :
    skipHyphen (.withSpare s spare) = .ok (.withSpare (eatHyphen s) spare) := by
  cases s with
  | nil => exact absurd rfl hs
  | cons c s =>
    by_cases h : c = hyphen
    · simp [skipHyphen, h, eatHyphen, Slice.startingAt_withSpare]
    · simp [skipHyphen, h, eatHyphen]

/-- A group that reaches into the cleared spare room holds a byte that is no digit. -/
theorem not_allHex_of_spare {s : Bytes} {spare n : ℕ} (h : s.length < n)
    (hn : n ≤ s.length + spare) : ¬AllHex ((s ++ List.replicate spare 0).take n) := by
  intro hall
  refine hall 0 ?_ rfl
  rw [List.take_append, List.mem_append, List.take_replicate]
  exact .inr (List.mem_replicate.mpr ⟨by omega, rfl⟩)

/-- Decoding the group of `n` digits at the front of a slice with cleared spare cells. -/
theorem hexDecode_group_error {u : Bytes} {spare n : ℕ} (hn : n ≤ u.length + spare) (heven : 2 ∣ n)
    (h : ¬(n ≤ u.length ∧ AllHex (u.take n))) :
    ∃ e, hexDecode (n / 2) ((u ++ List.replicate spare 0).take n) = .error e := by
  refine exists_hexDecode_error (fun hall => h ?_) (by simp; omega)
  have hlen : n ≤ u.length := by
    by_contra hlt
    exact not_allHex_of_spare (not_le.mp hlt) hn hall
  exact ⟨hlen, by rwa [List.take_append_of_le_length hlen] at hall⟩

theorem hexDecode_group_ok {u : Bytes} {n : ℕ} (spare : ℕ) (heven : 2 ∣ n) (hlen : n ≤ u.length)
    (hall : AllHex (u.take n)) :
    ∃ decoded, hexDecode (n / 2) ((u ++ List.replicate spare 0).take n) = .ok decoded := by
  rw [List.take_append_of_le_length hlen]
  exact exists_hexDecode hall (by simp; omega)

/-- The loop over groups of even length fails a run-time check exactly if it runs out of room. -/
theorem parseGroups_eq_panicked_iff {groups : List ℕ} {text : Bytes} {spare : ℕ} {b : Slice UInt8}
    {uuid : UUID} (heven : ∀ n ∈ groups, 2 ∣ n) (hb : (groups.map (· / 2)).sum ≤ b.len) :
    parseGroups groups (.withSpare text (List.replicate spare 0)) b uuid = .panicked ↔
      RunsOut spare groups text := by
  induction groups generalizing text b uuid with
  | nil => simp [parseGroups, RunsOut]
  | cons n groups ih =>
    obtain ⟨hn, heven⟩ := List.forall_mem_cons.mp heven
    rw [List.map_cons, List.sum_cons] at hb
    have hcap : n / 2 ≤ b.cap := by have := b.len_le; simp only [Slice.cap]; omega
    by_cases ht : text = []
    · simp [ht, parseGroups, skipHyphen_nil, RunsOut]
    · simp only [parseGroups, skipHyphen_of_ne_nil ht, Outcome.ok_bind, Slice.upTo_of_le hcap,
        RunsOut, ht, false_or]
      generalize eatHyphen text = u
      by_cases hroom : u.length + spare < n
      · have hpanic : ((Slice.withSpare u (List.replicate spare 0)).upTo n :
            Outcome UUIDError _) = .panicked := Slice.upTo_eq_panicked_iff.mpr (by simpa using hroom)
        simp [hpanic, hroom]
      · have hle : n ≤ (Slice.withSpare u (List.replicate spare 0)).cap := by
          simpa using not_lt.mp hroom
        simp only [Slice.upTo_of_le hle, Outcome.ok_bind, Slice.elems, hroom, false_or]
        by_cases hgroup : n ≤ u.length ∧ AllHex (u.take n)
        · obtain ⟨decoded, hdecoded⟩ := hexDecode_group_ok spare hn hgroup.1 hgroup.2
          obtain ⟨rest, hrest, hlen⟩ :=
            Slice.startingAt_of_le (ε := UUIDError) (s := b) (n := n / 2) (by omega)
          simp only [Slice.cells_withSpare, hdecoded, Outcome.mapError, Outcome.ok_bind,
            Slice.startingAt_withSpare hgroup.1, hrest, hgroup, true_and]
          exact ih heven (by omega)
        · obtain ⟨e, he⟩ := hexDecode_group_error (not_lt.mp hroom) hn hgroup
          simp only [Slice.cells_withSpare, he, Outcome.mapError, Outcome.error_bind, reduceCtorEq,
            false_iff]
          exact fun h => hgroup ⟨h.1, h.2.1⟩

theorem length_eatHyphen (s : Bytes) :
    (eatHyphen s).length ≤ s.length ∧ s.length ≤ (eatHyphen s).length + 1 := by
  unfold eatHyphen
  split
  · simp; omega
  · simp

theorem eatGroups_eq_some {n : ℕ} {groups : List ℕ} {s rest : Bytes} :
    eatGroups (n :: groups) s = some rest ↔
      n ≤ (eatHyphen s).length ∧ AllHex ((eatHyphen s).take n) ∧
        eatGroups groups ((eatHyphen s).drop n) = some rest := by
  simp [eatGroups, and_assoc]

/-- While the text is longer than the groups and their hyphens the loop can only run out later. -/
theorem runsOut_append_iff {spare m : ℕ} {groups : List ℕ} {s : Bytes}
    (h : (groups.map (· + 1)).sum < s.length) :
    RunsOut spare (groups ++ [m]) s ↔
      ∃ rest ∈ eatGroups groups s, rest = [] ∨ (eatHyphen rest).length + spare < m := by
  induction groups generalizing s with
  | nil => simp [RunsOut, eatGroups]
  | cons n groups ih =>
    have hu := length_eatHyphen s
    rw [List.map_cons, List.sum_cons] at h
    have hs : s ≠ [] := by rintro rfl; simp at h
    simp only [List.cons_append, RunsOut, hs, false_or, Option.mem_def, eatGroups_eq_some]
    rw [ih (by rw [List.length_drop]; omega)]
    constructor
    · rintro (hlt | ⟨hn, hall, rest, hrest, hout⟩)
      · omega
      · exact ⟨rest, ⟨hn, hall, hrest⟩, hout⟩
    · rintro ⟨rest, ⟨hn, hall, hrest⟩, hout⟩
      exact .inr ⟨hn, hall, rest, hrest, hout⟩

/-- The groups take their digits and at most one hyphen each. -/
theorem length_eatGroups {groups : List ℕ} {s rest : Bytes} (h : eatGroups groups s = some rest) :
    rest.length + groups.sum ≤ s.length ∧ s.length ≤ rest.length + (groups.map (· + 1)).sum := by
  induction groups generalizing s with
  | nil => cases h; simp
  | cons n groups ih =>
    obtain ⟨hn, hall, hrest⟩ := eatGroups_eq_some.mp h
    have := ih hrest
    have := length_eatHyphen s
    simp only [List.length_drop, List.map_cons, List.sum_cons] at *
    omega

/-- Parsing an identifier fails a run-time check exactly on the texts that overrun their slice. -/
theorem parseString_eq_panicked_iff (alloc : Allocator) (str : Bytes) :
    parseString alloc str = .panicked ↔ Overruns alloc str := by
  have hl : (alloc.byteSlice str).len = str.length := rfl
  unfold parseString Overruns
  by_cases hlen : (alloc.byteSlice str).len < 32 ∨ 36 < (alloc.byteSlice str).len
  · simp only [if_pos hlen]
    constructor
    · split
      · nofun
      · exact fun h => absurd h (hashString_ne_panicked _)
    · omega
  · have hcap := alloc.le_capacity str.length
    simp only [if_neg hlen]
    rw [Allocator.byteSlice, parseGroups_eq_panicked_iff (by decide) (by decide), byteGroups,
      show [8, 4, 4, 4, 12] = [8, 4, 4, 4] ++ [12] from rfl, runsOut_append_iff (by simp; omega)]
    constructor
    · rintro ⟨rest, hrest, hout⟩
      have hr := length_eatGroups hrest
      have hu := length_eatHyphen rest
      refine ⟨by omega, by omega, rest, hrest, ?_⟩
      rcases hout with rfl | hout
      · simp at hr; omega
      · simp at hr; omega
    · rintro ⟨-, -, rest, hrest, hout⟩
      have hr := length_eatGroups hrest
      have hu := length_eatHyphen rest
      refine ⟨rest, hrest, .inr ?_⟩
      simp at hr
      omega

theorem count_eatHyphen (s : Bytes) :
    s.length + (eatHyphen s).count hyphen = (eatHyphen s).length + s.count hyphen := by
  unfold eatHyphen
  split
  · cases s with
    | nil => rfl
    | cons c s =>
      rename_i h
      rw [Option.some.inj h]
      simp
      omega
  · omega

theorem count_eatGroups {groups : List ℕ} {s rest : Bytes} (h : eatGroups groups s = some rest) :
    s.length + rest.count hyphen ≤ rest.length + groups.sum + s.count hyphen := by
  induction groups generalizing s with
  | nil => cases h; simp
  | cons n groups ih =>
    obtain ⟨hn, hall, hrest⟩ := eatGroups_eq_some.mp h
    have hdrop := ih hrest
    have hcount := count_eatHyphen s
    have hle := (List.drop_sublist n (eatHyphen s)).count_le hyphen
    simp only [List.length_drop, List.sum_cons] at *
    omega

/-- A text that is long enough for its hyphens and thirty-two digits never overruns its slice,
whatever its room. -/
theorem not_overruns_of_count {alloc : Allocator} {s : Bytes} (h : 32 + s.count hyphen ≤ s.length) :
    ¬Overruns alloc s := by
  rintro ⟨-, -, rest, hrest, hout⟩
  have hgroups := count_eatGroups hrest
  have hhyphen := count_eatHyphen rest
  have hcap := alloc.le_capacity s.length
  have hle := length_eatHyphen rest
  simp at hgroups
  omega

end FoloXray.Profile
