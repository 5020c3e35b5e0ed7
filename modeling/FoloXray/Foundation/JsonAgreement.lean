import FoloXray.Foundation.JsonDecode
import Mathlib.Data.List.Forall2

/-! # Two decodings of one value

A strict decoder and a lax one store the same value in variables of different types.  One follows the
other if, whenever the first reports no error, the second stores the image of what the first stored
and reports none either; the rules below take this from the fields of a structure to the structure.
A stream that holds no further value is white space, so that a whole input can be decoded either as
the next value of a stream or by `json.Unmarshal`.
-/

namespace FoloXray.Foundation.Json

variable {τ σ α β : Type}

/-- `json.Unmarshal`: the input has to be one value between white space; an error of storing the value
leaves what was stored. -/
def unmarshal (decode : Decoder τ) (data : Bytes) (v : τ) : τ × Option StreamError :=
  match readValue data with
  | .value j rest =>
    if rest.all isSpace then
      let r := decode j v
      (r.contents, r.error.map .decode)
    else (v, some .syntaxError)
  | .eof | .unexpectedEOF => (v, some .unexpectedEOF)
  | .syntaxError => (v, some .syntaxError)

def Scanner.Opened (s : Scanner) : Prop :=
  s.stack ≠ [] ∨ match s.state with
    | .inString false _ | .inNumber _ | .inLiteral _ _ => True
    | _ => False

/-- The scanner is inside a value after the byte, if it is not done. -/
def Progress.Opened : Progress → Prop
  | .more s => s.Opened
  | _ => True

theorem Progress.opened_ite {c : Prop} [Decidable c] {p q : Progress} (hp : p.Opened)
    (hq : q.Opened) : (if c then p else q).Opened := by
  split
  · exact hp
  · exact hq

namespace Scanner

open Progress

theorem opened_complete (v : Json) (consumed : Bool) (stack : List Frame) :
    (complete v consumed stack).Opened := by
  cases stack with
  | nil => trivial
  | cons frame stack => cases frame <;> exact .inl (List.cons_ne_nil _ _)

theorem opened_push (frame : Frame) (state : ScanState) (stack : List Frame) :
    (push frame state stack).Opened := by
  unfold push
  split
  · exact .inl (List.cons_ne_nil _ _)
  · trivial

theorem opened_endValue (stack : List Frame) (c : UInt8) : (endValue stack c).Opened := by
  have hne (frame : Frame) (outer : List Frame) : frame :: outer ≠ [] := List.cons_ne_nil _ _
  cases stack with
  | nil => trivial
  | cons frame outer =>
    cases frame with
    | array elems =>
      refine opened_ite (.inl (hne _ _)) ?_
      refine opened_ite (.inl (hne _ _)) ?_
      exact opened_ite (opened_complete ..) trivial
    | object members key =>
      refine opened_ite (.inl (hne _ _)) ?_
      refine opened_ite (.inl (hne _ _)) ?_
      exact opened_ite (opened_complete ..) trivial

theorem opened_beginValue {stack : List Frame} {c : UInt8} (h : stack ≠ [] ∨ isSpace c = false) :
    (beginValue stack c).Opened := by
  unfold beginValue
  by_cases hspace : isSpace c = true
  · rw [if_pos hspace]
    rcases h with h | h
    · exact .inl h
    · rw [hspace] at h
      cases h
  · rw [if_neg hspace]
    -- a container is pushed, a string, number or literal is entered, anything else is refused
    refine opened_ite (opened_push ..) ?_
    refine opened_ite (opened_push ..) ?_
    iterate 7 refine opened_ite (.inr trivial) ?_
    trivial

theorem opened_beginString {stack : List Frame} (h : stack ≠ []) (c : UInt8) :
    (beginString stack c).Opened := by
  unfold beginString
  refine opened_ite (.inl h) ?_
  exact opened_ite (.inl h) trivial

theorem opened_endString (isKey : Bool) (stack : List Frame) (token : Bytes) :
    (endString isKey stack token).Opened := by
  unfold endString
  dsimp only
  split
  · split
    · exact .inl (List.cons_ne_nil _ _)
    · trivial
  · exact opened_complete ..

theorem opened_endNumber (stack : List Frame) (token : Bytes) (c : UInt8) :
    (endNumber stack token c).Opened := by
  unfold endNumber
  split
  · exact opened_endValue ..
  · exact opened_complete ..

/-- Inside a value the scanner stays inside it until it is read or refused. -/
theorem Opened.step {s : Scanner} (h : s.Opened) (c : UInt8) : (s.step c).Opened := by
  rcases s with ⟨state, stack, token⟩
  cases state with
  | beginValue =>
    rcases h with h | h
    · exact opened_beginValue (.inl h)
    · cases h
  | beginValueOrEmpty =>
    rcases h with h | h
    · simp only [Scanner.step]
      split
      · exact .inl h
      · split
        · exact opened_endValue ..
        · exact opened_beginValue (.inl h)
    · cases h
  | beginString =>
    rcases h with h | h
    · exact opened_beginString h c
    · cases h
  | beginStringOrEmpty =>
    rcases h with h | h
    · simp only [Scanner.step]
      split
      · exact .inl h
      · split
        · exact opened_endValue ..
        · exact opened_beginString h c
    · cases h
  | endKey =>
    rcases h with h | h
    · simp only [Scanner.step]
      refine opened_ite (.inl h) ?_
      exact opened_ite (.inl h) trivial
    · cases h
  | endValue => exact opened_endValue ..
  | inString isKey str =>
    simp only [Scanner.step]
    split
    · exact opened_endString ..
    · split
      · rcases h with h | h
        · exact .inl h
        · cases isKey with
          | true => cases h
          | false => exact .inr trivial
      · trivial
  | inNumber num =>
    simp only [Scanner.step]
    split
    · exact .inr trivial
    · split
      · exact opened_endNumber ..
      · trivial
  | inLiteral rest value =>
    simp only [Scanner.step]
    split
    · trivial
    · split
      · trivial
      · split
        · exact opened_complete ..
        · exact .inr trivial

theorem Opened.atEnd {s : Scanner} (h : s.Opened) : s.atEnd ≠ .eof := by
  rcases s with ⟨state, stack, token⟩
  unfold Scanner.atEnd
  split
  · split <;> exact ReadResult.noConfusion
  · rename_i hstate hstack
    dsimp only at hstate hstack
    subst hstate hstack
    rcases h with h | h
    · exact absurd rfl h
    · cases h
  · exact ReadResult.noConfusion

/-- A stream does not end inside a value without an error. -/
theorem Opened.read {s : Scanner} (h : s.Opened) (rest : Bytes) : s.read rest ≠ .eof := by
  induction rest generalizing s with
  | nil => exact h.atEnd
  | cons c rest ih =>
    have hstep := h.step c
    unfold Scanner.read
    cases hc : s.step c with
    | more t =>
      rw [hc] at hstep
      exact ih hstep
    | value v consumed => cases consumed <;> exact ReadResult.noConfusion
    | syntaxError => exact ReadResult.noConfusion

end Scanner

theorem isSpace_of_readValue_eof {s : Bytes} (h : readValue s = .eof) : s.all isSpace = true := by
  induction s with
  | nil => rfl
  | cons c rest ih =>
    cases hc : isSpace c with
    | true =>
      have hrest : readValue rest = .eof := by
        simpa [readValue, Scanner.read, Scanner.start, Scanner.step, Scanner.beginValue, hc] using h
      simp [hc, ih hrest]
    | false =>
      exfalso
      have hopened : (Scanner.start.step c).Opened := Scanner.opened_beginValue (.inr hc)
      unfold readValue Scanner.read at h
      cases hs : Scanner.start.step c with
      | more t =>
        rw [hs] at h hopened
        exact hopened.read rest h
      | value v consumed => cases consumed <;> simp [hs] at h
      | syntaxError => simp [hs] at h

/-- The second decoder stores the image of what the first one stores without an error. -/
def Follows (F : τ → σ) (d : Decoder τ) (e : Decoder σ) : Prop :=
  ∀ j v, (d j v).error = none → e j (F v) = ⟨F (d j v).contents, none⟩

theorem Follows.refl (d : Decoder τ) : Follows id d d := by
  intro j v h
  cases hd : d j v with
  | mk contents error =>
    rw [hd] at h
    cases h
    exact hd

theorem Follows.pointer {F : τ → σ} {d : Decoder τ} {e : Decoder σ} (h : Follows F d e) {z : τ}
    {z' : σ} (hz : F z = z') :
    Follows (Option.map F) (decodePointer z d) (decodePointer z' e) := by
  intro j p hp
  have hget : (p.map F).getD z' = F (p.getD z) := by cases p <;> simp [hz]
  cases j with
  | null => rfl
  | _ =>
    simp only [decodePointer] at hp ⊢
    rw [hget, h _ _ hp]
    rfl

theorem Follows.field {F : τ → σ} {G : α → β} {d : Decoder α} {e : Decoder β} (h : Follows G d e)
    {get : τ → α} {set : τ → α → τ} {get' : σ → β} {set' : σ → β → σ}
    (hget : ∀ v, get' (F v) = G (get v)) (hset : ∀ v a, F (set v a) = set' (F v) (G a))
    (n m : String) : Follows F (field n get set d).store (field m get' set' e).store := by
  intro j v hv
  simp only [Json.field] at hv ⊢
  rw [hget, h _ _ hv, hset]

theorem follows_sameField {F : τ → σ} {d : Decoder α} {name : String} {get : τ → α}
    {set : τ → α → τ} {get' : σ → α} {set' : σ → α → σ} (hget : ∀ v, get' (F v) = get v)
    (hset : ∀ v a, F (set v a) = set' (F v) a) :
    (field name get set d).name = (field name get' set' d).name ∧
      Follows F (field name get set d).store (field name get' set' d).store :=
  ⟨rfl, (Follows.refl d).field hget hset name name⟩

/-- How the field of the strict structure is matched in the lax one: by a field that follows it, or by
none, if nothing of it is kept. -/
def Matched (F : τ → σ) (f : Field τ) : Option (Field σ) → Prop
  | some g => Follows F f.store g.store
  | none => ∀ j v, F (f.store j v).contents = F v

theorem storeMember_error {strict : Bool} {fields : List (Field τ)} {v : Stored τ}
    {member : Bytes × Json} (h : (storeMember strict fields v member).error = none) :
    v.error = none := by
  unfold storeMember at h
  cases hv : v.error with
  | none => rfl
  | some e =>
    split at h
    · simp [hv] at h
    · split at h <;> simp [hv] at h

theorem foldl_storeMember_error {strict : Bool} {fields : List (Field τ)}
    {members : List (Bytes × Json)} {v : Stored τ}
    (h : (members.foldl (storeMember strict fields) v).error = none) : v.error = none := by
  induction members generalizing v with
  | nil => exact h
  | cons member members ih => exact storeMember_error (ih h)

theorem storeMember_follows {F : τ → σ} {fs : List (Field τ)} {gs : List (Field σ)}
    (hmatched : ∀ key f, findField fs key = some f → Matched F f (findField gs key)) {v : τ}
    {member : Bytes × Json} (h : (storeMember true fs ⟨v, none⟩ member).error = none) :
    storeMember false gs ⟨F v, none⟩ member =
      ⟨F (storeMember true fs ⟨v, none⟩ member).contents, none⟩ := by
  unfold storeMember at h ⊢
  cases hf : findField fs member.1 with
  | none => simp [hf] at h
  | some f =>
    have hm := hmatched member.1 f hf
    have hstored : (f.store member.2 v).error = none := by simpa [hf] using h
    cases hg : findField gs member.1 with
    | none =>
      rw [hg] at hm
      simp [hm member.2 v]
    | some g =>
      rw [hg] at hm
      simp [hm member.2 v hstored]

/-- A lax structure follows a strict one if its fields do. -/
theorem Follows.struct {F : τ → σ} {fs : List (Field τ)} {gs : List (Field σ)}
    (hmatched : ∀ key f, findField fs key = some f → Matched F f (findField gs key))
    (t t' : String) : Follows F (decodeStruct t true fs) (decodeStruct t' false gs) := by
  intro j v h
  cases j with
  | null => rfl
  | object members =>
    simp only [decodeStruct] at h ⊢
    induction members generalizing v with
    | nil => rfl
    | cons member members ih =>
      simp only [List.foldl_cons] at h ⊢
      have hfirst := foldl_storeMember_error h
      rw [storeMember_follows hmatched hfirst]
      generalize hv : storeMember true fs ⟨v, none⟩ member = stored at h hfirst ⊢
      rcases stored with ⟨contents, error⟩
      cases hfirst
      exact ih contents h
  | bool b => cases h
  | number literal => cases h
  | string s => cases h
  | array elems => cases h

theorem find?_forall₂ {R : Field τ → Field σ → Prop} {fs : List (Field τ)} {gs : List (Field σ)}
    (h : List.Forall₂ R fs gs) {p : Field τ → Bool} {q : Field σ → Bool}
    (hpq : ∀ f g, R f g → p f = q g) : Option.Rel R (fs.find? p) (gs.find? q) := by
  induction h with
  | nil => exact .none
  | @cons f g fs gs hfg _ ih =>
    rw [List.find?_cons, List.find?_cons, hpq f g hfg]
    split
    · exact .some hfg
    · exact ih

/-- Two structures whose fields have the same names in the same order. -/
theorem findField_forall₂ {R : Field τ → Field σ → Prop} {fs : List (Field τ)}
    {gs : List (Field σ)} (h : List.Forall₂ R fs gs) (hname : ∀ f g, R f g → f.name = g.name)
    (key : Bytes) : Option.Rel R (findField fs key) (findField gs key) := by
  have hexact : Option.Rel R (fs.find? (·.name == key)) (gs.find? (·.name == key)) :=
    find?_forall₂ h fun f g hfg => by rw [hname f g hfg]
  have hfold : Option.Rel R (fs.find? (foldName ·.name == foldName key))
      (gs.find? (foldName ·.name == foldName key)) :=
    find?_forall₂ h fun f g hfg => by rw [hname f g hfg]
  unfold findField
  generalize fs.find? (·.name == key) = a at hexact
  generalize gs.find? (·.name == key) = b at hexact
  cases hexact with
  | some hfg => exact .some hfg
  | none => exact hfold

/-- The field that is found has the key for its name, up to letter case. -/
theorem foldName_of_findField {fs : List (Field τ)} {key : Bytes} {f : Field τ}
    (h : findField fs key = some f) : f ∈ fs ∧ foldName f.name = foldName key := by
  unfold findField at h
  cases hexact : fs.find? (·.name == key) with
  | some g =>
    rw [hexact] at h
    cases h
    have hname := List.find?_some hexact
    exact ⟨List.mem_of_find?_eq_some hexact, by rw [beq_iff_eq.mp hname]⟩
  | none =>
    rw [hexact] at h
    have hname := List.find?_some h
    exact ⟨List.mem_of_find?_eq_some h, beq_iff_eq.mp hname⟩

theorem findField_eq_none {fs : List (Field τ)} {key : Bytes}
    (h : ∀ f ∈ fs, foldName f.name ≠ foldName key) : findField fs key = none := by
  cases hf : findField fs key with
  | none => rfl
  | some f =>
    rcases foldName_of_findField hf with ⟨hmem, hname⟩
    exact absurd hname (h f hmem)

end FoloXray.Foundation.Json
