import FoloXray.Netstack.ClientHello

/-! # The declared lengths around a server name

Four lengths nest around a server name: the extensions block, the extension, the name list and the
entry.  `sniffTLS` holds an entry against the list, the block and the input, but not against the body
of its extension, so a `server_name` extension that is shorter than its list lends the bytes behind it
as a name.
-/

namespace FoloXray.Netstack
open Foundation PacketFlow

/-- The end of the name entry at a position, as its length declares it. -/
def entryEnd (data : Bytes) (entry : ℕ) : ℕ := entry + 3 + uint16At data (entry + 1)

def entryName (data : Bytes) (entry : ℕ) : Bytes :=
  (data.drop (entry + 3)).take (uint16At data (entry + 1))

def extensionEnd (data : Bytes) (ext : ℕ) : ℕ := ext + 4 + uint16At data (ext + 2)

/-- The end of the name list of the extension at a position. -/
def listEnd (data : Bytes) (ext : ℕ) : ℕ := ext + 6 + uint16At data (ext + 4)

/-- The end of the extensions block whose length stands at a position. -/
def blockEnd (data : Bytes) (block : ℕ) : ℕ := block + 2 + uint16At data block

/-- The first extension of type `server_name` from a position on. -/
inductive FirstServerName (data : Bytes) (stop : ℕ) : ℕ → ℕ → Prop
  | here {pos : ℕ} : pos + 4 ≤ stop → uint16At data pos = 0 → FirstServerName data stop pos pos
  | skip {pos ext : ℕ} : pos + 4 ≤ stop → uint16At data pos ≠ 0 →
      FirstServerName data stop (extensionEnd data pos) ext → FirstServerName data stop pos ext

/-- The entries of a name list from a position on, each behind the one before it. -/
inductive EntryFrom (data : Bytes) : ℕ → ℕ → Prop
  | first (entry : ℕ) : EntryFrom data entry entry
  | next {pos entry : ℕ} : EntryFrom data (entryEnd data pos) entry → EntryFrom data pos entry

/-- The first entry of a name list that is a host name. -/
inductive FirstHost (data : Bytes) : ℕ → ℕ → Prop
  | here {pos : ℕ} : byteAt data pos = 0 → FirstHost data pos pos
  | skip {pos entry : ℕ} : byteAt data pos ≠ 0 → FirstHost data (entryEnd data pos) entry →
      FirstHost data pos entry

/-- A host name of the first `server_name` extension in a ClientHello. -/
structure HostEntry (data : Bytes) (block ext entry : ℕ) : Prop where
  hello : helloExtensions data = some block
  extension : FirstServerName data (blockEnd data block) (block + 2) ext
  listed : EntryFrom data (ext + 6) entry
  hostName : byteAt data entry = 0

/-- The entry lies in the declared name list, in the declared block and in the input. -/
structure WithinList (data : Bytes) (block ext entry : ℕ) : Prop where
  inList : entryEnd data entry ≤ listEnd data ext
  inBlock : entryEnd data entry ≤ blockEnd data block
  inInput : entryEnd data entry ≤ data.length

/-- The name is that of a host entry which lies in the declared body of its extension, in the declared
name list and in the declared block. -/
def NameInside (data name : Bytes) : Prop :=
  ∃ block ext entry, HostEntry data block ext entry ∧ WithinList data block ext entry ∧
    entryEnd data entry ≤ extensionEnd data ext ∧ name = toLower (entryName data entry)

/-- The first host name of the first `server_name` extension, and it lies in the list, the block and the
input. -/
structure Named (data : Bytes) (block ext entry : ℕ) : Prop where
  hello : helloExtensions data = some block
  extension : FirstServerName data (blockEnd data block) (block + 2) ext
  first : FirstHost data (ext + 6) entry
  within : WithinList data block ext entry

/-- By the declared lengths, that name ends inside the body of the extension, unless it is empty. -/
def LengthsNest (data : Bytes) : Prop :=
  ∀ block ext entry, Named data block ext entry → uint16At data (entry + 1) ≠ 0 →
    entry + 3 + uint16At data (entry + 1) ≤ ext + 4 + uint16At data (ext + 2)

section Walks

variable {data : Bytes} {stop stop' pos ext ext' entry : ℕ}

theorem FirstServerName.le (h : FirstServerName data stop pos ext) : pos ≤ ext := by
  induction h with
  | here => exact le_rfl
  | skip _ _ _ ih =>
    unfold extensionEnd at ih
    omega

/-- A bound that leaves room for the header of the extension does not change the walk to it. -/
theorem FirstServerName.of_le (hle : ext + 4 ≤ stop') (h : FirstServerName data stop pos ext) :
    FirstServerName data stop' pos ext := by
  induction h with
  | here hin htype => exact .here hle htype
  | skip hin htype hrest ih =>
    have hnext := hrest.le
    unfold extensionEnd at hnext
    exact .skip (by omega) htype (ih hle)

theorem FirstServerName.unique (h : FirstServerName data stop pos ext)
    (h' : FirstServerName data stop pos ext') : ext = ext' := by
  induction h with
  | here hin htype =>
    cases h' with
    | here => rfl
    | skip _ hother => exact absurd htype hother
  | skip hin htype _ ih =>
    cases h' with
    | here _ hzero => exact absurd hzero htype
    | skip _ _ hrest => exact ih hrest

theorem EntryFrom.le (h : EntryFrom data pos entry) : pos ≤ entry := by
  induction h with
  | first => exact le_rfl
  | next _ ih =>
    unfold entryEnd at ih
    omega

theorem FirstHost.entryFrom (h : FirstHost data pos entry) :
    EntryFrom data pos entry ∧ byteAt data entry = 0 := by
  induction h with
  | here htype => exact ⟨.first _, htype⟩
  | skip _ _ ih => exact ⟨.next ih.1, ih.2⟩

/-- No host name of the list ends before the first one. -/
theorem FirstHost.entryEnd_le {other : ℕ} (h : FirstHost data pos entry)
    (hother : EntryFrom data pos other) (hzero : byteAt data other = 0) :
    entryEnd data entry ≤ entryEnd data other := by
  induction h with
  | here htype =>
    cases hother with
    | first => exact le_rfl
    | next hrest =>
      have hle := hrest.le
      unfold entryEnd at *
      omega
  | skip htype _ ih =>
    cases hother with
    | first => exact absurd hzero htype
    | next hrest => exact ih hrest

/-- The loop over the names returns the first host name, if it ends within the bound. -/
theorem sniffNames_of_first (h : FirstHost data pos entry) (hstop : entryEnd data entry ≤ stop) :
    sniffNames data stop pos = toLower (entryName data entry) := by
  induction h with
  | here htype =>
    unfold entryEnd at hstop
    rw [sniffNames, if_pos (by omega)]
    exact if_pos ⟨htype, hstop⟩
  | @skip pos entry htype hrest ih =>
    have hle := hrest.entryFrom.1.le
    unfold entryEnd at hle hstop
    rw [sniffNames, if_pos (by omega)]
    simp only
    rw [if_neg (fun hfit => htype hfit.1)]
    exact ih hstop

theorem first_of_sniffNames (h : sniffNames data stop pos ≠ []) :
    ∃ entry, FirstHost data pos entry ∧ entryEnd data entry ≤ stop := by
  fun_induction sniffNames data stop pos with
  | case1 pos hin nameType nameLen hfit => exact ⟨pos, .here hfit.1, hfit.2⟩
  | case2 pos hin nameType nameLen hfit ih =>
    rcases ih h with ⟨entry, hfirst, hend⟩
    -- a host name that does not fit ends the loop
    have hother : nameType ≠ 0 := by
      intro htype
      have hle := hfirst.entryFrom.1.le
      unfold entryEnd at hend
      exact hfit ⟨htype, by omega⟩
    exact ⟨entry, .skip hother hfirst, hend⟩
  | case3 => exact absurd rfl h

/-- The loop over the extensions looks for names in the first `server_name` extension only. -/
theorem sniffExtensions_of_first (h : FirstServerName data stop pos ext) (hstop : ext + 6 ≤ stop) :
    sniffExtensions data stop pos = sniffNames data (min (listEnd data ext) stop) (ext + 6) := by
  induction h with
  | @here pos hin htype =>
    have hend : (if pos + 4 + 2 + uint16At data (pos + 4) > stop then stop
        else pos + 4 + 2 + uint16At data (pos + 4)) = min (listEnd data pos) stop := by
      unfold listEnd
      split <;> omega
    rw [sniffExtensions, if_pos hin]
    simp only [htype]
    rw [if_pos trivial, if_pos (by omega), hend]
  | skip hin htype _ ih =>
    rw [sniffExtensions, if_pos hin]
    simp only
    rw [if_neg htype]
    exact ih hstop

theorem first_of_sniffExtensions (h : sniffExtensions data stop pos ≠ []) :
    ∃ ext, FirstServerName data stop pos ext ∧ ext + 6 ≤ stop := by
  fun_induction sniffExtensions data stop pos with
  | case1 pos hin extType hsni hlist listLen sniPos sniEnd => exact ⟨pos, .here hin hsni, hlist⟩
  | case2 => exact absurd rfl h
  | case3 pos hin extType extLen hsni ih =>
    rcases ih h with ⟨ext, hext, hroom⟩
    exact ⟨ext, .skip hin hsni hext, hroom⟩
  | case4 => exact absurd rfl h

end Walks

section Sniffed

variable {data : Bytes} {block ext entry : ℕ}

theorem sniffTLS_of_hello (h : helloExtensions data = some block) :
    sniffTLS data = sniffExtensions data (min (blockEnd data block) data.length) (block + 2) := by
  have hstop : (if block + 2 + uint16At data block > data.length then data.length
      else block + 2 + uint16At data block) = min (blockEnd data block) data.length := by
    unfold blockEnd
    split <;> omega
  rw [sniffTLS, h]
  simp only [hstop]

theorem Named.hostEntry (h : Named data block ext entry) : HostEntry data block ext entry :=
  ⟨h.hello, h.extension, h.first.entryFrom.1, h.first.entryFrom.2⟩

/-- What the lengths of the input lead to is what `sniffTLS` returns. -/
theorem Named.sniffTLS_eq (h : Named data block ext entry) :
    sniffTLS data = toLower (entryName data entry) := by
  have hle := h.first.entryFrom.1.le
  have hlist := h.within.inList
  have hstop : entryEnd data entry ≤ min (blockEnd data block) data.length :=
    le_min h.within.inBlock h.within.inInput
  have hroom : ext + 6 ≤ min (blockEnd data block) data.length := by
    refine le_trans ?_ hstop
    unfold entryEnd
    omega
  rw [sniffTLS_of_hello h.hello,
    sniffExtensions_of_first (h.extension.of_le (by omega)) hroom]
  exact sniffNames_of_first h.first (le_min hlist hstop)

theorem exists_named (h : sniffTLS data ≠ []) : ∃ block ext entry, Named data block ext entry := by
  cases hhello : helloExtensions data with
  | none =>
    rw [sniffTLS, hhello] at h
    exact absurd rfl h
  | some block =>
    rw [sniffTLS_of_hello hhello] at h
    rcases first_of_sniffExtensions h with ⟨ext, hext, hroom⟩
    rw [sniffExtensions_of_first hext hroom] at h
    rcases first_of_sniffNames h with ⟨entry, hfirst, hend⟩
    rw [le_min_iff, le_min_iff] at hend
    exact ⟨block, ext, entry, hhello, hext.of_le (by omega), hfirst,
      hend.1, hend.2.1, hend.2.2⟩

theorem Named.unique {block' ext' entry' : ℕ} (h : Named data block ext entry)
    (h' : HostEntry data block' ext' entry') : block' = block ∧ ext' = ext := by
  have hblock : block' = block := Option.some.inj (h'.hello.symm.trans h.hello)
  subst hblock
  exact ⟨rfl, h'.extension.unique h.extension⟩

/-- The name is inside the body exactly if the first host name is: no other entry can stand in for
it. -/
theorem Named.nameInside_iff (h : Named data block ext entry) :
    NameInside data (sniffTLS data) ↔ entryEnd data entry ≤ extensionEnd data ext := by
  constructor
  · rintro ⟨block', ext', other, hother, -, hbody, -⟩
    rcases h.unique hother with ⟨rfl, rfl⟩
    exact (h.first.entryEnd_le hother.listed hother.hostName).trans hbody
  · intro hbody
    exact ⟨block, ext, entry, h.hostEntry, h.within, hbody, h.sniffTLS_eq⟩

theorem entryName_eq_nil_iff (h : entryEnd data entry ≤ data.length) :
    entryName data entry = [] ↔ uint16At data (entry + 1) = 0 := by
  unfold entryEnd at h
  rw [entryName, ← List.length_eq_zero_iff, List.length_take, List.length_drop]
  omega

theorem Named.sniffTLS_ne_nil_iff (h : Named data block ext entry) :
    sniffTLS data ≠ [] ↔ uint16At data (entry + 1) ≠ 0 := by
  rw [h.sniffTLS_eq, ne_eq, toLower_eq_nil_iff, entryName_eq_nil_iff h.within.inInput]

/-- A list that ends inside its extension has no entry that goes beyond. -/
theorem lengthsNest_of_list
    (h : ∀ block ext, helloExtensions data = some block →
      FirstServerName data (blockEnd data block) (block + 2) ext →
        2 + uint16At data (ext + 4) ≤ uint16At data (ext + 2)) : LengthsNest data := by
  intro block ext entry hnamed _
  have hlist := hnamed.within.inList
  have hbody := h block ext hnamed.hello hnamed.extension
  unfold entryEnd listEnd at hlist
  omega

end Sniffed

/-- A name found in a ClientHello is that of the first host entry of the first `server_name` extension,
inside the declared name list, the declared block and the input.  It is inside the declared body of the
extension, too, exactly for the inputs whose declared lengths say so; it is enough that the list fits
into the body. -/
theorem sniffTLS_inside_body_iff (data : Bytes) :
    (sniffTLS data ≠ [] → ∃ block ext entry, Named data block ext entry ∧
      sniffTLS data = toLower (entryName data entry)) ∧
    ((sniffTLS data ≠ [] → NameInside data (sniffTLS data)) ↔ LengthsNest data) ∧
    ((∀ block ext, helloExtensions data = some block →
      FirstServerName data (blockEnd data block) (block + 2) ext →
        2 + uint16At data (ext + 4) ≤ uint16At data (ext + 2)) → LengthsNest data) := by
  refine ⟨?_, ?_, lengthsNest_of_list⟩
  · intro h
    rcases exists_named h with ⟨block, ext, entry, hnamed⟩
    exact ⟨block, ext, entry, hnamed, hnamed.sniffTLS_eq⟩
  · constructor
    · intro h block ext entry hnamed hlen
      exact hnamed.nameInside_iff.mp (h (hnamed.sniffTLS_ne_nil_iff.mpr hlen))
    · intro h hname
      rcases exists_named hname with ⟨block, ext, entry, hnamed⟩
      exact hnamed.nameInside_iff.mpr
        (h block ext entry hnamed (hnamed.sniffTLS_ne_nil_iff.mp hname))

/-- A hello with the given extensions, whose length stands at position 50. -/
def helloWith (extensions : Bytes) : Bytes :=
  [0x16, 0x03, 0x01] ++ putUint16 (47 + extensions.length) ++ [0x01] ++
    putUint24 (43 + extensions.length) ++ [0x03, 0x03] ++ List.replicate 32 0 ++
    [0x00, 0x00, 0x02, 0x13, 0x01, 0x01, 0x00] ++ vector16 extensions

/-- A list that ends with its extension. -/
theorem sniffTLS_inside_body_iff_whole :
    sniffTLS (helloWith exampleHello.serverNames.encode) ≠ [] ∧
      NameInside (helloWith exampleHello.serverNames.encode)
        (sniffTLS (helloWith exampleHello.serverNames.encode)) := by
  have hname : sniffTLS (helloWith exampleHello.serverNames.encode) ≠ [] := by decide +kernel
  have hhello : helloExtensions (helloWith exampleHello.serverNames.encode) = some 50 := by
    decide +kernel
  rcases sniffTLS_inside_body_iff (helloWith exampleHello.serverNames.encode) with
    ⟨-, hiff, hfits⟩
  refine ⟨hname, hiff.mpr (hfits ?_) hname⟩
  intro block ext hblock hext
  obtain rfl : 50 = block := Option.some.inj (hhello.symm.trans hblock)
  obtain rfl : 52 = ext := FirstServerName.unique (.here (by decide +kernel) (by decide +kernel)) hext
  decide +kernel

/-- An empty `server_name` extension in front of an extension of type 14: the type is read as the
length of a name list, and the bytes from there on as a host name. -/
def emptyServerName : Bytes :=
  helloWith ([0x00, 0x00, 0x00, 0x00, 0x00, 0x0e, 0x00, 0x00, 0x0b] ++ goString "bad.example")

theorem name_behind_empty_extension :
    sniffTLS emptyServerName = goString "bad.example" ∧
      ¬ NameInside emptyServerName (sniffTLS emptyServerName) := by
  refine ⟨by decide +kernel, ?_⟩
  rintro ⟨block, ext, entry, hentry, -, hbody, -⟩
  have hhello : helloExtensions emptyServerName = some 50 := by decide +kernel
  have hblock : block = 50 := Option.some.inj (hentry.hello.symm.trans hhello)
  subst hblock
  have hext : ext = 52 := hentry.extension.unique (.here (by decide +kernel) (by decide +kernel))
  subst hext
  have hend : extensionEnd emptyServerName 52 = 56 := by decide +kernel
  have hle := hentry.listed.le
  unfold entryEnd at hbody
  omega

end FoloXray.Netstack
