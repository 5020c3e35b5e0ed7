import FoloXray.Foundation.Text

/-! # Cutting strings

Searching for a separator and splitting at it, and how the operations of `Text` act on a string
that is cut at an ASCII byte: case mapping and trimming work on the two sides separately.
-/

namespace FoloXray.Foundation

def index (sep : Bytes) : Bytes → Option ℕ
  | [] => if sep = [] then some 0 else none
  | b :: rest => if sep.isPrefixOf (b :: rest) then some 0 else (index sep rest).map (· + 1)

/-- The parts between the occurrences of `sep`; `fuel` bounds the number of occurrences. -/
def splitLoop (sep : Bytes) : ℕ → Bytes → List Bytes
  | 0, s => [s]
  | fuel + 1, s =>
    match index sep s with
    | some i => s.take i :: splitLoop sep fuel (s.drop (i + sep.length))
    | none => [s]

def split (sep s : Bytes) : List Bytes := splitLoop sep s.length s

section Splitting

variable {sep p s : Bytes} {i : ℕ}

theorem index_le (h : index sep s = some i) : i + sep.length ≤ s.length := by
  induction s generalizing i with
  | nil =>
    simp only [index] at h
    split at h
    · cases h
      simp [*]
    · cases h
  | cons b rest ih =>
    simp only [index] at h
    split at h
    · rename_i hpre
      cases h
      simpa using (List.isPrefixOf_iff_prefix.mp hpre).length_le
    · rcases Option.map_eq_some_iff.mp h with ⟨j, hj, rfl⟩
      have := ih hj
      simp only [List.length_cons]
      omega

theorem index_spec (h : index sep s = some i) : sep <+: s.drop i := by
  induction s generalizing i with
  | nil =>
    simp only [index] at h
    split at h
    · simp [*]
    · cases h
  | cons b rest ih =>
    simp only [index] at h
    split at h
    · rename_i hpre
      cases h
      exact List.isPrefixOf_iff_prefix.mp hpre
    · rcases Option.map_eq_some_iff.mp h with ⟨j, hj, rfl⟩
      exact ih hj

/-- An occurrence stays the first one when the string goes on. -/
theorem index_append (h : index sep p = some i) (x : Bytes) : index sep (p ++ x) = some i := by
  induction p generalizing i with
  | nil =>
    simp only [index] at h
    split at h
    · cases h
      cases x <;> simp [index, *]
    · cases h
  | cons b rest ih =>
    simp only [index] at h
    simp only [List.cons_append, index]
    split at h
    · rename_i hpre
      have hlong : sep.isPrefixOf (b :: (rest ++ x)) = true := by
        rw [List.isPrefixOf_iff_prefix] at hpre ⊢
        exact hpre.trans (List.prefix_append (b :: rest) x)
      rw [if_pos hlong, h]
    · rename_i hpre
      rcases Option.map_eq_some_iff.mp h with ⟨j, hj, rfl⟩
      have hlen := index_le hj
      have hlong : ¬ sep.isPrefixOf (b :: (rest ++ x)) = true := by
        rw [List.isPrefixOf_iff_prefix] at hpre ⊢
        intro hx
        exact hpre (List.prefix_of_prefix_length_le hx (List.prefix_append (b :: rest) x)
          (by simp only [List.length_cons]; omega))
      rw [if_neg hlong, ih hj]
      rfl

theorem exists_index_le (h : sep <+: s.drop i) : ∃ j ≤ i, index sep s = some j := by
  induction s generalizing i with
  | nil =>
    simp only [List.drop_nil, List.prefix_nil] at h
    exact ⟨0, Nat.zero_le i, by simp [index, h]⟩
  | cons b rest ih =>
    simp only [index]
    split
    · exact ⟨0, Nat.zero_le i, rfl⟩
    · rename_i hpre
      cases i with
      | zero => exact absurd (List.isPrefixOf_iff_prefix.mpr h) hpre
      | succ i =>
        obtain ⟨j, hj, hindex⟩ := ih h
        exact ⟨j + 1, Nat.succ_le_succ hj, by simp [hindex]⟩

/-- An occurrence that the string did not have reaches past its end. -/
theorem index_append_of_none {x : Bytes} (hp : index sep p = none)
    (h : index sep (p ++ x) = some i) : p.length < i + sep.length := by
  by_contra hle
  have hspec := index_spec h
  rw [List.drop_append_of_le_length (by omega)] at hspec
  have hin : sep <+: p.drop i := List.prefix_of_prefix_length_le hspec (List.prefix_append _ _)
    (by rw [List.length_drop]; omega)
  obtain ⟨j, -, hj⟩ := exists_index_le hin
  rw [hp] at hj
  cases hj

theorem splitLoop_fuel (hsep : sep ≠ []) {fuel : ℕ} (h : s.length ≤ fuel) :
    splitLoop sep fuel s = split sep s := by
  have hpos := List.length_pos_of_ne_nil hsep
  induction fuel using Nat.strongRecOn generalizing s with
  | ind fuel ih =>
    cases hi : index sep s with
    | none => cases fuel <;> cases hs : s.length <;> simp [split, splitLoop, hs, hi]
    | some i =>
      have hlen := index_le hi
      cases hs : s.length with
      | zero => omega
      | succ n =>
        cases fuel with
        | zero => omega
        | succ fuel =>
          have hdrop : (s.drop (i + sep.length)).length ≤ n := by
            rw [List.length_drop]
            omega
          simp only [split, splitLoop, hs, hi]
          rw [ih fuel (by omega) (by omega), ← ih n (by omega) hdrop]

theorem split_none (h : index sep s = none) : split sep s = [s] := by
  unfold split
  cases s.length <;> simp [splitLoop, h]

theorem split_some (hsep : sep ≠ []) (h : index sep s = some i) :
    split sep s = s.take i :: split sep (s.drop (i + sep.length)) := by
  have hlen := index_le h
  have hpos := List.length_pos_of_ne_nil hsep
  rw [← splitLoop_fuel hsep (Nat.le_succ s.length)]
  simp only [splitLoop, h]
  rw [splitLoop_fuel hsep (by rw [List.length_drop]; omega)]

/-- When a string goes on, the parts before its last separator stay, and the last part is split
together with what follows. -/
theorem split_append (hsep : sep ≠ []) (p : Bytes) :
    ∃ parts last, split sep p = parts ++ [last] ∧ index sep last = none ∧
      ∀ x, split sep (p ++ x) = parts ++ split sep (last ++ x) := by
  have hpos := List.length_pos_of_ne_nil hsep
  induction hn : p.length using Nat.strongRecOn generalizing p with
  | ind n ih =>
    cases hi : index sep p with
    | none => exact ⟨[], p, split_none hi, hi, fun x => rfl⟩
    | some i =>
      have hlen := index_le hi
      have hshort : (p.drop (i + sep.length)).length < n := by
        rw [List.length_drop]
        omega
      rcases ih _ hshort (p.drop (i + sep.length)) rfl with ⟨parts, last, hsplit, hlast, happend⟩
      refine ⟨p.take i :: parts, last, ?_, hlast, ?_⟩
      · rw [split_some hsep hi, hsplit, List.cons_append]
      · intro x
        rw [split_some hsep (index_append hi x), List.take_append_of_le_length (by omega),
          List.drop_append_of_le_length hlen, happend x, List.cons_append]

theorem index_singleton_none {c : UInt8} (h : c ∉ s) : index [c] s = none := by
  induction s with
  | nil => rfl
  | cons b rest ih =>
    simp only [List.mem_cons, not_or] at h
    have hne : (c == b) = false := by simpa using h.1
    simp [index, List.isPrefixOf, hne, ih h.2]

theorem index_singleton {c : UInt8} (h : c ∉ s) (z : Bytes) :
    index [c] (s ++ c :: z) = some s.length := by
  induction s with
  | nil => simp [index, List.isPrefixOf]
  | cons b rest ih =>
    simp only [List.mem_cons, not_or] at h
    have hne : (c == b) = false := by simpa using h.1
    simp [index, List.isPrefixOf, hne, ih h.2]

end Splitting

section CaseMapping

theorem decodeRune_ascii {c : UInt8} (hc : c.toNat < 0x80) (z : Bytes) :
    decodeRune (c :: z) = (c.toNat, 1) := by
  simp [decodeRune, hc]

theorem decodeRune_width {w : Bytes} (hw : w ≠ []) :
    1 ≤ (decodeRune w).2 ∧ (decodeRune w).2 ≤ w.length := by
  unfold decodeRune
  split
  · exact absurd rfl hw
  · dsimp only
    repeat' split
    all_goals simp

theorem continues_ascii {c : UInt8} {lo hi : ℕ} (hc : c.toNat < 0x80) (hlo : 0x80 ≤ lo) :
    continues c lo hi = false := by
  simp only [continues, Bool.and_eq_false_iff, decide_eq_false_iff_not]
  omega

theorem secondByteBounds_le (b : ℕ) : 0x80 ≤ (secondByteBounds b).1 := by
  unfold secondByteBounds
  repeat' split
  all_goals simp

theorem decodeRune_append {c : UInt8} (hc : c.toNat < 0x80) {w : Bytes} (hw : w ≠ []) (z : Bytes) :
    decodeRune (w ++ c :: z) = decodeRune w := by
  have hbounds (b : ℕ) : continues c (secondByteBounds b).1 (secondByteBounds b).2 = false :=
    continues_ascii hc (secondByteBounds_le b)
  have htail : continues c 0x80 0xbf = false := continues_ascii hc le_rfl
  rcases w with - | ⟨b0, - | ⟨b1, - | ⟨b2, - | ⟨b3, rest⟩⟩⟩⟩
  · exact absurd rfl hw
  · cases z with
    | nil => simp [decodeRune, hbounds]
    | cons d z => cases z <;> simp [decodeRune, hbounds]
  · cases z <;> simp [decodeRune, htail]
  · simp [decodeRune, htail]
  · simp [decodeRune]

theorem decodeRunesLoop_fuel {s : Bytes} {fuel : ℕ} (h : s.length ≤ fuel) :
    decodeRunesLoop fuel s = decodeRunes s := by
  induction fuel using Nat.strongRecOn generalizing s with
  | ind fuel ih =>
    cases s with
    | nil => cases fuel <;> rfl
    | cons b rest =>
      have hwidth := decodeRune_width (List.cons_ne_nil b rest)
      have hdrop : ((b :: rest).drop (decodeRune (b :: rest)).2).length ≤ rest.length := by
        rw [List.length_drop, List.length_cons]
        omega
      cases fuel with
      | zero => simp at h
      | succ fuel =>
        simp only [List.length_cons] at h
        simp only [decodeRunes, List.length_cons, decodeRunesLoop]
        rw [ih fuel (by omega) (by omega), ih rest.length (by omega) hdrop]

theorem decodeRunes_cons (b : UInt8) (rest : Bytes) :
    decodeRunes (b :: rest) = (decodeRune (b :: rest)).1 ::
      decodeRunes ((b :: rest).drop (decodeRune (b :: rest)).2) := by
  have hwidth := decodeRune_width (List.cons_ne_nil b rest)
  have hdrop : ((b :: rest).drop (decodeRune (b :: rest)).2).length ≤ rest.length := by
    rw [List.length_drop, List.length_cons]
    omega
  rw [← decodeRunesLoop_fuel hdrop]
  rfl

theorem decodeRunes_append {c : UInt8} (hc : c.toNat < 0x80) (w z : Bytes) :
    decodeRunes (w ++ c :: z) = decodeRunes w ++ c.toNat :: decodeRunes z := by
  induction hn : w.length using Nat.strongRecOn generalizing w with
  | ind n ih =>
    cases w with
    | nil =>
      rw [List.nil_append, decodeRunes_cons, decodeRune_ascii hc]
      rfl
    | cons b rest =>
      have hne := List.cons_ne_nil b rest
      have hwidth := decodeRune_width hne
      have hshort : ((b :: rest).drop (decodeRune (b :: rest)).2).length < n := by
        rw [List.length_drop, hn]
        omega
      rw [List.cons_append, decodeRunes_cons, decodeRunes_cons, ← List.cons_append,
        decodeRune_append hc hne, List.drop_append_of_le_length hwidth.2, ih _ hshort _ rfl,
        List.cons_append]

def lowerByte (c : UInt8) : UInt8 := UInt8.ofNat (lowerRune c.toNat)

theorem lowerRune_ascii {r : ℕ} (hr : r < 0x80) : lowerRune r < 0x80 := by
  simp only [lowerRune, hr, if_true]
  split <;> omega

/-- Case mapping acts on the two sides of an ASCII byte separately. -/
theorem toLower_append {c : UInt8} (hc : c.toNat < 0x80) (w z : Bytes) :
    toLower (w ++ c :: z) = toLower w ++ lowerByte c :: toLower z := by
  simp [toLower, decodeRunes_append hc, encodeRune, lowerRune_ascii hc, lowerByte]

theorem toLower_cons {c : UInt8} (hc : c.toNat < 0x80) (z : Bytes) :
    toLower (c :: z) = lowerByte c :: toLower z := toLower_append hc [] z

theorem lowerCaseRanges_targets : ∀ row ∈ lowerCaseRanges,
    0x80 ≤ row.2.2.2 ∨ row.1 = row.2.1 ∧ (row.2.2.2 = 0x69 ∨ row.2.2.2 = 0x6b) := by
  decide +kernel

/-- Outside ASCII only two code points have an ASCII lower-case form, `i` and `k`. -/
theorem lowerRune_of_le {r : ℕ} (hr : 0x80 ≤ r) :
    0x80 ≤ lowerRune r ∨ lowerRune r = 0x69 ∨ lowerRune r = 0x6b := by
  unfold lowerRune
  rw [if_neg (by omega)]
  split
  · rename_i lo hi stride target hfind
    have hin := List.find?_some hfind
    simp only [Bool.and_eq_true, decide_eq_true_eq] at hin
    have hrow := lowerCaseRanges_targets _ (List.mem_of_find?_eq_some hfind)
    simp only at hrow
    omega
  · exact .inl hr

theorem decodeRune_of_le {b : UInt8} (hb : 0x80 ≤ b.toNat) (rest : Bytes) :
    0x80 ≤ (decodeRune (b :: rest)).1 := by
  have hthree : b.toNat = 0xe0 → (secondByteBounds b.toNat).1 = 0xa0 := fun h => by rw [h]; rfl
  have hfour : b.toNat = 0xf0 → (secondByteBounds b.toNat).1 = 0x90 := fun h => by rw [h]; rfl
  simp only [decodeRune]
  rw [if_neg (by omega)]
  split
  · simp [runeError]
  · split
    · split
      · split
        · simp only
          omega
        · simp [runeError]
      · simp [runeError]
    · split
      · split
        · split
          · rename_i hcont
            simp only [Bool.and_eq_true, continues, decide_eq_true_eq] at hcont
            simp only
            omega
          · simp [runeError]
        · simp [runeError]
      · split
        · split
          · split
            · rename_i hcont
              simp only [Bool.and_eq_true, continues, decide_eq_true_eq] at hcont
              simp only
              omega
            · simp [runeError]
          · simp [runeError]
        · simp [runeError]

theorem encodeRune_of_le {r : ℕ} (hr : 0x80 ≤ r) {c : UInt8} {t : Bytes}
    (h : encodeRune r = c :: t) : 0x80 ≤ c.toNat := by
  unfold encodeRune at h
  rw [if_neg (by omega)] at h
  split at h
  · cases h
    rw [UInt8.toNat_ofNat']
    omega
  · split at h
    · cases h
      decide
    · split at h
      · cases h
        rw [UInt8.toNat_ofNat']
        omega
      · cases h
        rw [UInt8.toNat_ofNat']
        omega

theorem encodeRune_ne_nil (r : ℕ) : encodeRune r ≠ [] := by
  unfold encodeRune
  repeat' split
  all_goals simp

@[simp] theorem toLower_eq_nil_iff {s : Bytes} : toLower s = [] ↔ s = [] := by
  constructor
  · intro h
    cases s with
    | nil => rfl
    | cons b rest =>
      rw [toLower, decodeRunes_cons, List.flatMap_cons, List.append_eq_nil_iff] at h
      exact absurd h.1 (encodeRune_ne_nil _)
  · rintro rfl
    rfl

/-- A string whose lower-case form starts with an ASCII byte other than `i` and `k` starts with an
ASCII byte. -/
theorem toLower_eq_cons {c : UInt8} {s t : Bytes} (hc : c.toNat < 0x80) (hi : c ≠ 0x69)
    (hk : c ≠ 0x6b) (h : toLower s = c :: t) :
    ∃ b rest, s = b :: rest ∧ b.toNat < 0x80 ∧ lowerByte b = c ∧ toLower rest = t := by
  cases s with
  | nil => cases h
  | cons b rest =>
    by_cases hb : b.toNat < 0x80
    · rw [toLower_cons hb] at h
      cases h
      exact ⟨b, rest, rfl, hb, rfl, rfl⟩
    · exfalso
      have hrune := decodeRune_of_le (not_lt.mp hb) rest
      rw [toLower, decodeRunes_cons, List.flatMap_cons] at h
      rcases List.exists_cons_of_ne_nil (encodeRune_ne_nil (lowerRune (decodeRune (b :: rest)).1))
        with ⟨d, u, hd⟩
      rw [hd] at h
      cases h
      rcases lowerRune_of_le hrune with hlow | hlow | hlow
      · have := encodeRune_of_le hlow hd
        omega
      · rw [hlow] at hd
        cases hd
        exact hi rfl
      · rw [hlow] at hd
        cases hd
        exact hk rfl

/-- A word of ASCII bytes other than `i` and `k` starts the lower-case form exactly when the string
starts with a spelling of the word. -/
theorem prefix_toLower_iff {word s : Bytes}
    (hword : ∀ c ∈ word, c.toNat < 0x80 ∧ c ≠ 0x69 ∧ c ≠ 0x6b) :
    word <+: toLower s ↔ ∃ spelling rest, s = spelling ++ rest ∧
      (∀ b ∈ spelling, b.toNat < 0x80) ∧ spelling.map lowerByte = word := by
  induction word generalizing s with
  | nil => exact ⟨fun _ => ⟨[], s, rfl, by simp, rfl⟩, fun _ => List.nil_prefix⟩
  | cons c word ih =>
    have hrest : ∀ d ∈ word, d.toNat < 0x80 ∧ d ≠ 0x69 ∧ d ≠ 0x6b :=
      fun d hd => hword d (List.mem_cons_of_mem c hd)
    rcases hword c List.mem_cons_self with ⟨hc, hi, hk⟩
    constructor
    · rintro ⟨t, ht⟩
      rcases toLower_eq_cons hc hi hk ht.symm with ⟨b, rest, rfl, hb, hlow, htail⟩
      rcases (ih hrest).mp ⟨t, htail.symm⟩ with ⟨spelling, rest', rfl, hascii, hmap⟩
      refine ⟨b :: spelling, rest', rfl, ?_, by simp [hlow, hmap]⟩
      intro d hd
      rcases List.mem_cons.mp hd with rfl | hd
      · exact hb
      · exact hascii d hd
    · rintro ⟨spelling, rest, rfl, hascii, hmap⟩
      cases spelling with
      | nil => cases hmap
      | cons b spelling =>
        simp only [List.map_cons, List.cons.injEq] at hmap
        rw [List.cons_append, toLower_cons (hascii b List.mem_cons_self), hmap.1]
        apply (List.prefix_cons_inj c).mpr
        exact (ih hrest).mpr ⟨spelling, rest, rfl,
          fun d hd => hascii d (List.mem_cons_of_mem b hd), hmap.2⟩

end CaseMapping

section Trimming

variable {units : List Bytes} {c : UInt8}

theorem isPrefixOf_append {unit : Bytes} (hc : c ∉ unit) (w z : Bytes) :
    unit.isPrefixOf (w ++ c :: z) = unit.isPrefixOf w := by
  induction unit generalizing w with
  | nil => cases w <;> rfl
  | cons a unit ih =>
    simp only [List.mem_cons, not_or] at hc
    cases w with
    | nil =>
      have hne : (a == c) = false := by simpa using Ne.symm hc.1
      simp [List.isPrefixOf, hne]
    | cons b w =>
      rw [List.cons_append, List.isPrefixOf_cons_cons, List.isPrefixOf_cons_cons, ih hc.2]

theorem trimLeft_fuel (hunits : ∀ u ∈ units, u ≠ []) {s : Bytes} {fuel : ℕ} (h : s.length ≤ fuel) :
    trimLeft units fuel s = trimLeft units s.length s := by
  induction fuel using Nat.strongRecOn generalizing s with
  | ind fuel ih =>
    cases hfind : units.find? (·.isPrefixOf s) with
    | none => cases fuel <;> cases hs : s.length <;> simp [trimLeft, hfind]
    | some unit =>
      have hpos := List.length_pos_of_ne_nil (hunits unit (List.mem_of_find?_eq_some hfind))
      have hle : unit.length ≤ s.length := by
        have := List.find?_some hfind
        exact (List.isPrefixOf_iff_prefix.mp this).length_le
      cases hs : s.length with
      | zero => omega
      | succ n =>
        cases fuel with
        | zero => omega
        | succ fuel =>
          simp only [trimLeft, hfind]
          rw [ih fuel (by omega) (by rw [List.length_drop]; omega),
            ih n (by omega) (by rw [List.length_drop]; omega)]

theorem trimLeft_suffix (units : List Bytes) (fuel : ℕ) (s : Bytes) :
    trimLeft units fuel s <:+ s := by
  induction fuel generalizing s with
  | zero => exact List.suffix_rfl
  | succ fuel ih =>
    simp only [trimLeft]
    split
    · exact (ih _).trans (List.drop_suffix _ s)
    · exact List.suffix_rfl

theorem trimLeft_append (hunits : ∀ u ∈ units, u ≠ [] ∧ c ∉ u) (w z : Bytes) :
    trimLeft units (w ++ c :: z).length (w ++ c :: z) = trimLeft units w.length w ++ c :: z := by
  have hne : ∀ u ∈ units, u ≠ [] := fun u hu => (hunits u hu).1
  induction hn : w.length using Nat.strongRecOn generalizing w with
  | ind n ih =>
    have hfind : units.find? (·.isPrefixOf (w ++ c :: z)) = units.find? (·.isPrefixOf w) := by
      apply List.find?_congr
      intro u hu
      exact isPrefixOf_append (hunits u hu).2 w z
    have hlen : (w ++ c :: z).length = w.length + z.length + 1 := by
      simp only [List.length_append, List.length_cons]
      omega
    cases hw : units.find? (·.isPrefixOf w) with
    | none =>
      rw [hw] at hfind
      rw [hlen]
      cases n <;> simp [trimLeft, hfind, hw]
    | some unit =>
      have hpos := List.length_pos_of_ne_nil (hne unit (List.mem_of_find?_eq_some hw))
      have hle : unit.length ≤ w.length := by
        have := List.find?_some hw
        exact (List.isPrefixOf_iff_prefix.mp this).length_le
      have hdrop : (w.drop unit.length).length < n := by
        rw [List.length_drop]
        omega
      rw [hw] at hfind
      cases n with
      | zero => omega
      | succ n =>
        rw [hlen]
        simp only [trimLeft, hfind, hw]
        have hrest : trimLeft units n (w.drop unit.length) =
            trimLeft units (w.drop unit.length).length (w.drop unit.length) :=
          trimLeft_fuel hne (by rw [List.length_drop]; omega)
        rw [List.drop_append_of_le_length hle, hrest, ← ih _ hdrop (w.drop unit.length) rfl]
        apply trimLeft_fuel hne
        simp only [List.length_append, List.length_drop, List.length_cons]
        omega

def solid (c : UInt8) : Prop := ∀ u ∈ whiteSpace, c ∉ u

instance (c : UInt8) : Decidable (solid c) := inferInstanceAs (Decidable (∀ u ∈ whiteSpace, c ∉ u))

theorem whiteSpace_ne_nil : ∀ u ∈ whiteSpace, u ≠ [] := by decide

/-- Around such a byte the front and the back are trimmed separately. -/
theorem trimSpace_append (hc : solid c) (w z : Bytes) :
    trimSpace (w ++ c :: z) = trimLeft whiteSpace w.length w ++ c ::
      (trimLeft (whiteSpace.map List.reverse) z.reverse.length z.reverse).reverse := by
  have hfront : ∀ u ∈ whiteSpace, u ≠ [] ∧ c ∉ u := fun u hu => ⟨whiteSpace_ne_nil u hu, hc u hu⟩
  have hback : ∀ u ∈ whiteSpace.map List.reverse, u ≠ [] ∧ c ∉ u := by
    intro u hu
    rcases List.mem_map.mp hu with ⟨v, hv, rfl⟩
    simpa using hfront v hv
  have hturn (y : Bytes) : (y ++ c :: z).reverse = z.reverse ++ c :: y.reverse := by simp
  simp only [trimSpace]
  rw [trimLeft_append hfront, ← List.length_reverse, hturn, trimLeft_append hback]
  simp

end Trimming

end FoloXray.Foundation
