import FoloXray.Foundation.Address

/-! # Manifests

A manifest is a text of lines, each made of a number, a name and a digest with tabs between them.  Lines can
be told apart as long as no line break inside of one looks like the start of another, and so can the parts of
a line, even if the name has tabs in it: the number ends at the first tab and the digest starts behind the
last.
-/

namespace FoloXray.Foundation.Manifest

def tab : UInt8 := 0x09
def newline : UInt8 := 0x0a

def line (number name digest : Bytes) : Bytes := number ++ tab :: (name ++ tab :: digest)

def joinLines (lines : List Bytes) : Bytes := [newline].intercalate lines ++ [newline]

def isDigit (c : UInt8) : Bool := decide (0x30 ≤ c.toNat ∧ c.toNat ≤ 0x39)

def startsLine : Bytes → Bool
  | [] => false
  | c :: s => c == tab || (isDigit c && startsLine s)

/-- A line break with a tab behind it, and nothing but digits between them. -/
def hidesLine : Bytes → Bool
  | [] => false
  | c :: s => (c == newline && startsLine s) || hidesLine s

section Separators

variable {α : Type} {t : α} {x x' z z' : List α}

/-- What stands in front of the first separator and what stands behind it. -/
theorem append_cons_inj_first (hx : t ∉ x) (hx' : t ∉ x') (h : x ++ t :: z = x' ++ t :: z') :
    x = x' ∧ z = z' := by
  induction x generalizing x' with
  | nil =>
    cases x' with
    | nil => exact ⟨rfl, (List.cons.inj h).2⟩
    | cons a x' =>
      have ha : t = a := (List.cons.inj h).1
      exact absurd (ha ▸ List.mem_cons_self) hx'
  | cons a x ih =>
    cases x' with
    | nil =>
      have ha : a = t := (List.cons.inj h).1
      exact absurd (ha ▸ List.mem_cons_self) hx
    | cons a' x' =>
      obtain ⟨rfl, htail⟩ := List.cons.inj h
      obtain ⟨rfl, hz⟩ := ih (List.not_mem_of_not_mem_cons hx) (List.not_mem_of_not_mem_cons hx') htail
      exact ⟨rfl, hz⟩

/-- What stands in front of the last separator and what stands behind it. -/
theorem append_cons_inj_last (hz : t ∉ z) (hz' : t ∉ z') (h : x ++ t :: z = x' ++ t :: z') :
    x = x' ∧ z = z' := by
  have hturn := congrArg List.reverse h
  simp only [List.reverse_append, List.reverse_cons, List.append_assoc, List.singleton_append] at hturn
  obtain ⟨hback, hfront⟩ := append_cons_inj_first (by simpa using hz) (by simpa using hz') hturn
  exact ⟨List.reverse_inj.mp hfront, List.reverse_inj.mp hback⟩

end Separators

section Lines

variable {number number' name name' digest digest' : Bytes}

theorem line_inj (hnumber : tab ∉ number) (hnumber' : tab ∉ number') (hdigest : tab ∉ digest)
    (hdigest' : tab ∉ digest') (h : line number name digest = line number' name' digest') :
    number = number' ∧ name = name' ∧ digest = digest' := by
  obtain ⟨hnum, hrest⟩ := append_cons_inj_first hnumber hnumber' h
  exact ⟨hnum, append_cons_inj_last hdigest hdigest' hrest⟩

theorem startsLine_digits {s : Bytes} (hs : ∀ c ∈ s, isDigit c = true) (rest : Bytes) :
    startsLine (s ++ tab :: rest) = true := by
  induction s with
  | nil => rfl
  | cons c s ih =>
    obtain ⟨hc, hs⟩ := List.forall_mem_cons.mp hs
    rw [List.cons_append, startsLine, hc, ih hs, Bool.and_self, Bool.or_true]

/-- The digits do not go on behind a line break or a tab. -/
theorem startsLine_newline (s rest : Bytes) : startsLine (s ++ newline :: rest) = startsLine s := by
  induction s with
  | nil => rfl
  | cons c s ih => rw [List.cons_append, startsLine, startsLine, ih]

theorem startsLine_tab (s rest : Bytes) : startsLine (s ++ tab :: rest) = startsLine (s ++ [tab]) := by
  induction s with
  | nil => rfl
  | cons c s ih => rw [List.cons_append, List.cons_append, startsLine, startsLine, ih]

theorem hidesLine_of_not_mem {s : Bytes} (hs : newline ∉ s) (rest : Bytes) :
    hidesLine (s ++ rest) = hidesLine rest := by
  induction s with
  | nil => rfl
  | cons c s ih =>
    have hc : c ≠ newline := fun heq => hs (heq ▸ List.mem_cons_self)
    rw [List.cons_append, hidesLine, beq_false_of_ne hc, ih (List.not_mem_of_not_mem_cons hs),
      Bool.false_and, Bool.false_or]

/-- A name that hides no line with the tab behind it hides none with more behind that. -/
theorem hidesLine_tab (s : Bytes) {rest : Bytes} (hrest : newline ∉ rest) :
    hidesLine (s ++ tab :: rest) = hidesLine (s ++ [tab]) := by
  induction s with
  | nil =>
    have hnone : newline ∉ tab :: rest := List.not_mem_cons_of_ne_of_not_mem (by decide) hrest
    have hhides := hidesLine_of_not_mem hnone []
    rw [List.append_nil] at hhides
    exact hhides
  | cons c s ih => rw [List.cons_append, List.cons_append, hidesLine, hidesLine, startsLine_tab, ih]

theorem hidesLine_append {s rest : Bytes} (h : startsLine rest = true) :
    hidesLine (s ++ newline :: rest) = true := by
  induction s with
  | nil => rw [List.nil_append, hidesLine, h]; rfl
  | cons c s ih => rw [List.cons_append, hidesLine, ih, Bool.or_true]

/-- A line starts like one, and no other one does inside of it. -/
structure Closed (l : Bytes) : Prop where
  starts : startsLine l = true
  hides : hidesLine l = false

theorem closed_line (hnumber : ∀ c ∈ number, isDigit c = true)
    (hname : hidesLine (name ++ [tab]) = false) (hdigest : newline ∉ digest) :
    Closed (line number name digest) where
  starts := startsLine_digits hnumber _
  hides := by
    have hnumber' : newline ∉ number ++ [tab] := by
      rw [List.mem_append, List.mem_singleton]
      rintro (hmem | hmem)
      · exact absurd (hnumber _ hmem) (by decide)
      · exact absurd hmem (by decide)
    rw [line, List.append_cons, hidesLine_of_not_mem hnumber', hidesLine_tab _ hdigest, hname]

/-- The first line of a text ends where the next one starts. -/
theorem first_line_inj {l l' rest rest' : Bytes} (hl : Closed l) (hl' : Closed l')
    (hrest : rest = [] ∨ startsLine rest = true) (hrest' : rest' = [] ∨ startsLine rest' = true)
    (h : l ++ newline :: rest = l' ++ newline :: rest') : l = l' ∧ rest = rest' := by
  -- the longer of the two would hide the line behind the shorter
  have hshort {l l' rest rest' x : Bytes} (hl' : Closed l') (hrest : rest = [] ∨ startsLine rest = true)
      (hx : l' = l ++ x) (hmore : newline :: rest = x ++ newline :: rest') : x = [] := by
    cases x with
    | nil => rfl
    | cons c x =>
      obtain ⟨rfl, hbehind⟩ := List.cons.inj (hmore.trans (List.cons_append ..))
      rw [hbehind, startsLine_newline] at hrest
      have hstarts := hrest.resolve_left (by simp)
      have hhides := hl'.hides
      rw [hx, hidesLine_append hstarts] at hhides
      cases hhides
  obtain ⟨x, hx, hmore⟩ | ⟨x, hx, hmore⟩ := List.append_eq_append_iff.mp h
  · obtain rfl := hshort hl' hrest hx hmore
    exact ⟨by rw [hx, List.append_nil], (List.cons.inj hmore).2⟩
  · obtain rfl := hshort hl hrest' hx hmore
    exact ⟨by rw [hx, List.append_nil], (List.cons.inj hmore).2.symm⟩

theorem joinLines_eq_flatMap {lines : List Bytes} (h : lines ≠ []) :
    joinLines lines = lines.flatMap (· ++ [newline]) := by
  induction lines with
  | nil => exact absurd rfl h
  | cons l lines ih =>
    cases lines with
    | nil => simp [joinLines, List.intercalate]
    | cons l' lines =>
      rw [List.flatMap_cons, ← ih (List.cons_ne_nil _ _)]
      simp [joinLines, List.intercalate]

theorem startsLine_flatMap {lines : List Bytes} (h : ∀ l ∈ lines, Closed l) :
    lines.flatMap (· ++ [newline]) = [] ∨ startsLine (lines.flatMap (· ++ [newline])) = true := by
  cases lines with
  | nil => exact .inl rfl
  | cons l lines =>
    rw [List.flatMap_cons, List.append_assoc, List.singleton_append, startsLine_newline]
    exact .inr (h l List.mem_cons_self).starts

theorem flatMap_lines_inj {lines lines' : List Bytes} (hlines : ∀ l ∈ lines, Closed l)
    (hlines' : ∀ l ∈ lines', Closed l)
    (h : lines.flatMap (· ++ [newline]) = lines'.flatMap (· ++ [newline])) : lines = lines' := by
  induction lines generalizing lines' with
  | nil =>
    cases lines' with
    | nil => rfl
    | cons l' lines' => simp at h
  | cons l lines ih =>
    cases lines' with
    | nil => simp at h
    | cons l' lines' =>
      obtain ⟨hl, htail⟩ := List.forall_mem_cons.mp hlines
      obtain ⟨hl', htail'⟩ := List.forall_mem_cons.mp hlines'
      simp only [List.flatMap_cons, List.append_assoc, List.singleton_append] at h
      obtain ⟨hfirst, hrest⟩ := first_line_inj hl hl' (startsLine_flatMap htail)
        (startsLine_flatMap htail') h
      rw [hfirst, ih htail htail' hrest]

/-- The lines of a text are known from it, and from their number if there may be none. -/
theorem joinLines_inj {lines lines' : List Bytes} (hlines : ∀ l ∈ lines, Closed l)
    (hlines' : ∀ l ∈ lines', Closed l) (hlength : lines.length = lines'.length)
    (h : joinLines lines = joinLines lines') : lines = lines' := by
  by_cases hempty : lines = []
  · subst hempty
    exact (List.length_eq_zero_iff.mp hlength.symm).symm
  · have hempty' : lines' ≠ [] := by
      rintro rfl
      exact hempty (List.length_eq_zero_iff.mp hlength)
    rw [joinLines_eq_flatMap hempty, joinLines_eq_flatMap hempty'] at h
    exact flatMap_lines_inj hlines hlines' h

end Lines

section Numbers

variable {base : ℕ}

theorem digit_bounds (hbase : 0 < base) (hten : base ≤ 10) {n : ℕ} {c : Char}
    (h : c ∈ Nat.toDigits base n) : 0x30 ≤ c.toNat ∧ c.toNat ≤ 0x39 := by
  have hdigit := Nat.isDigit_of_mem_toDigits hbase hten h
  simp only [Char.isDigit, ge_iff_le, Bool.and_eq_true, decide_eq_true_eq] at hdigit
  exact ⟨hdigit.1, hdigit.2⟩

theorem digits_bounds (hbase : 0 < base) (hten : base ≤ 10) {n : ℕ} {b : UInt8}
    (h : b ∈ digits base n) : 0x30 ≤ b.toNat ∧ b.toNat ≤ 0x39 := by
  obtain ⟨c, hc, rfl⟩ := List.mem_map.mp h
  have hbounds := digit_bounds hbase hten hc
  rw [UInt8.toNat_ofNat']
  omega

theorem toDigits_of_digits (hbase : 0 < base) (hten : base ≤ 10) (n : ℕ) :
    (digits base n).map (fun b => Char.ofNat b.toNat) = Nat.toDigits base n := by
  rw [digits, List.map_map]
  refine (List.map_congr_left fun c hc => ?_).trans (List.map_id _)
  have hbounds := digit_bounds hbase hten hc
  rw [Function.comp_apply, UInt8.toNat_ofNat', Nat.mod_eq_of_lt (by omega), Char.ofNat_toNat, id]

theorem digits_inj (hbase : 1 < base) (hten : base ≤ 10) {n n' : ℕ}
    (h : digits base n = digits base n') : n = n' := by
  have hchars : Nat.toDigits base n = Nat.toDigits base n' := by
    rw [← toDigits_of_digits (by omega) hten, h, toDigits_of_digits (by omega) hten]
  rw [← @Nat.ofDigitChars_toDigits base n hbase hten, hchars, Nat.ofDigitChars_toDigits hbase hten]

end Numbers

structure Hexdigest where
  digest : Bytes → Bytes
  hex : ∀ message, ∀ c ∈ digest message, hexDigit c ≠ none

def Hexdigest.CollisionFree (H : Hexdigest) (messages : List Bytes) : Prop :=
  ∀ m ∈ messages, ∀ m' ∈ messages, H.digest m = H.digest m' → m = m'

instance (H : Hexdigest) (messages : List Bytes) : Decidable (H.CollisionFree messages) :=
  inferInstanceAs (Decidable (∀ m ∈ messages, ∀ m' ∈ messages, H.digest m = H.digest m' → m = m'))

end FoloXray.Foundation.Manifest
