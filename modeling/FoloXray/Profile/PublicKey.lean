import FoloXray.Foundation.Base64
import FoloXray.Profile.Build

/-! # Decoding a public key

`decodeURLBase64` tries four decoders in turn.  Their alphabets differ in two bytes and their padding
rules exclude each other's texts, so whichever of them accepts a text returns the same bytes.
-/

namespace FoloXray.Profile
open Foundation Base64

def keyDecoders : List Base64 := [.rawURLEncoding, .urlEncoding, .rawStdEncoding, .stdEncoding]

section Alphabets

theorem lawful_of_alphabet {enc : Base64} (hlength : enc.alphabet.length = 64)
    (hnodup : enc.alphabet.Nodup)
    (hplain : (enc.alphabet.all fun c => !isNewline c && c != equalsSign) = true)
    (hpad : enc.padChar = none ∨ enc.padChar = some equalsSign) : enc.Lawful where
  length := hlength
  nodup := hnodup
  newline c hc := by
    have h := List.all_eq_true.mp hplain c hc
    simp only [Bool.and_eq_true, Bool.not_eq_true'] at h
    exact h.1
  pad c hc heq := by
    have h := List.all_eq_true.mp hplain c hc
    simp only [Bool.and_eq_true, bne_iff_ne] at h
    rcases hpad with hnone | hsome
    · rw [hnone] at heq
      cases heq
    · rw [hsome] at heq
      exact h.2 (Option.some.inj heq).symm
  padBreak c hc := by
    rcases hpad with hnone | hsome
    · rw [hnone] at hc
      cases hc
    · rw [hsome] at hc
      cases hc
      rfl

theorem lawful_keyDecoders : ∀ enc ∈ keyDecoders, enc.Lawful := by
  have hstd : (stdAlphabet.all fun c => !isNewline c && c != equalsSign) = true := by decide +kernel
  have hurl : (urlAlphabet.all fun c => !isNewline c && c != equalsSign) = true := by decide +kernel
  have hstd' : stdAlphabet.Nodup := by decide +kernel
  have hurl' : urlAlphabet.Nodup := by decide +kernel
  intro enc henc
  simp only [keyDecoders, List.mem_cons, List.not_mem_nil, or_false] at henc
  rcases henc with rfl | rfl | rfl | rfl
  · exact lawful_of_alphabet rfl hurl' hurl (.inl rfl)
  · exact lawful_of_alphabet rfl hurl' hurl (.inr rfl)
  · exact lawful_of_alphabet rfl hstd' hstd (.inl rfl)
  · exact lawful_of_alphabet rfl hstd' hstd (.inr rfl)

theorem alphabets_agree {c : UInt8} {v w : ℕ} (hv : stdAlphabet.idxOf? c = some v)
    (hw : urlAlphabet.idxOf? c = some w) : v = w := by
  have hall : (stdAlphabet.all fun c => (urlAlphabet.idxOf? c).all fun w =>
      stdAlphabet.idxOf? c == some w) = true := by decide +kernel
  have hmem : c ∈ stdAlphabet := by
    by_contra hnot
    rw [List.idxOf?_eq_none_iff.mpr hnot] at hv
    cases hv
  have hc := List.all_eq_true.mp hall c hmem
  rw [hv, hw] at hc
  simpa using hc

/-- Each of the four has one of two alphabets and pads with an equals sign or not at all. -/
theorem keyDecoders_shape {enc : Base64} (h : enc ∈ keyDecoders) :
    (enc.alphabet = stdAlphabet ∨ enc.alphabet = urlAlphabet) ∧
      (∀ c, enc.padChar = some c → c = equalsSign) ∧ enc.decodeMap equalsSign = none := by
  simp only [keyDecoders, List.mem_cons, List.not_mem_nil, or_false] at h
  rcases h with rfl | rfl | rfl | rfl
  · exact ⟨.inr rfl, nofun, by decide +kernel⟩
  · exact ⟨.inr rfl, fun c hc => (Option.some.inj hc).symm, by decide +kernel⟩
  · exact ⟨.inl rfl, nofun, by decide +kernel⟩
  · exact ⟨.inl rfl, fun c hc => (Option.some.inj hc).symm, by decide +kernel⟩

theorem compatible_keyDecoders {enc₁ enc₂ : Base64} (h₁ : enc₁ ∈ keyDecoders)
    (h₂ : enc₂ ∈ keyDecoders) : Compatible enc₁ enc₂ := by
  obtain ⟨halphabet₁, hpad₁, hequals₁⟩ := keyDecoders_shape h₁
  obtain ⟨halphabet₂, hpad₂, hequals₂⟩ := keyDecoders_shape h₂
  refine ⟨?_, ?_, ?_⟩
  · intro c v w hv hw
    unfold decodeMap at hv hw
    rcases halphabet₁ with hstd₁ | hurl₁
    · rw [hstd₁] at hv
      rcases halphabet₂ with hstd₂ | hurl₂
      · rw [hstd₂, hv] at hw
        exact Option.some.inj hw
      · rw [hurl₂] at hw
        exact alphabets_agree hv hw
    · rw [hurl₁] at hv
      rcases halphabet₂ with hstd₂ | hurl₂
      · rw [hstd₂] at hw
        exact (alphabets_agree hw hv).symm
      · rw [hurl₂, hv] at hw
        exact Option.some.inj hw
  · intro c hc
    rw [hpad₁ c hc]
    exact hequals₂
  · intro c hc
    rw [hpad₂ c hc]
    exact hequals₁

end Alphabets

/-- Any two of the decoders that accept a text return the same bytes. -/
theorem keyDecoders_agree {enc₁ enc₂ : Base64} (h₁ : enc₁ ∈ keyDecoders) (h₂ : enc₂ ∈ keyDecoders)
    {value out₁ out₂ : Bytes} (hout₁ : enc₁.decodeString value = .ok out₁)
    (hout₂ : enc₂.decodeString value = .ok out₂) : out₁ = out₂ :=
  decodeString_unique (lawful_keyDecoders enc₁ h₁) (lawful_keyDecoders enc₂ h₂)
    (compatible_keyDecoders h₁ h₂) hout₁ hout₂

/-- Whatever their order, what some of the decoders accept is what is returned. -/
theorem decodeWith_eq_ok_iff {decoders : List Base64} (h : ∀ enc ∈ decoders, enc ∈ keyDecoders)
    {value out : Bytes} (lastErr : CorruptInputError) :
    decodeWith value decoders lastErr = .ok out ↔
      ∃ enc ∈ decoders, enc.decodeString value = .ok out := by
  induction decoders generalizing lastErr with
  | nil => simp [decodeWith]
  | cons decoder decoders ih =>
    obtain ⟨hdecoder, hdecoders⟩ := List.forall_mem_cons.mp h
    rw [decodeWith, List.exists_mem_cons_iff]
    cases hfirst : decoder.decodeString value with
    | error e =>
      rw [← ih hdecoders e]
      simp
    | ok decoded =>
      simp only [Except.ok.injEq]
      constructor
      · exact .inl
      · rintro (heq | ⟨enc, henc, hout⟩)
        · exact heq
        · exact keyDecoders_agree hdecoder (hdecoders enc henc) hfirst hout

/-- The decoding of a public key is unambiguous: each of the four encodings of some bytes is decoded to
them, and what a text is decoded to depends neither on which decoder accepts it nor on their order. -/
theorem publicKey_decoding_unambiguous :
    (∀ enc ∈ keyDecoders, ∀ b, decodeURLBase64 (enc.encodeToString b) = .ok b) ∧
    (∀ value, ∀ enc₁ ∈ keyDecoders, ∀ enc₂ ∈ keyDecoders, ∀ out₁ out₂,
      enc₁.decodeString value = .ok out₁ → enc₂.decodeString value = .ok out₂ → out₁ = out₂) ∧
    ∀ value decoders, decoders.Perm keyDecoders → ∀ lastErr out,
      decodeWith value decoders lastErr = .ok out ↔ decodeURLBase64 value = .ok out := by
  refine ⟨?_, ?_, ?_⟩
  · intro enc henc b
    refine (decodeWith_eq_ok_iff (fun _ => id) 0).mpr ⟨enc, henc, ?_⟩
    exact decodeString_encodeToString (lawful_keyDecoders enc henc) b
  · intro value enc₁ h₁ enc₂ h₂ out₁ out₂ hout₁ hout₂
    exact keyDecoders_agree h₁ h₂ hout₁ hout₂
  · intro value decoders hperm lastErr out
    have hmem (enc : Base64) : enc ∈ decoders ↔ enc ∈ keyDecoders := hperm.mem_iff
    rw [decodeWith_eq_ok_iff fun enc => (hmem enc).mp]
    refine Iff.trans ?_ (decodeWith_eq_ok_iff (fun _ => id) 0).symm
    simp only [hmem]

/-- The two padded texts of one pair of bytes. -/
theorem publicKey_decoding_unambiguous_padded :
    decodeURLBase64 (goString "+/8=") = .ok [0xfb, 0xff] ∧
      decodeURLBase64 (goString "-_8=") = .ok [0xfb, 0xff] := by
  have hstd : stdEncoding.encodeToString [0xfb, 0xff] = goString "+/8=" := by decide +kernel
  have hurl : urlEncoding.encodeToString [0xfb, 0xff] = goString "-_8=" := by decide +kernel
  rw [← hstd, ← hurl]
  exact ⟨publicKey_decoding_unambiguous.1 _ (by simp [keyDecoders]) _,
    publicKey_decoding_unambiguous.1 _ (by simp [keyDecoders]) _⟩

end FoloXray.Profile
