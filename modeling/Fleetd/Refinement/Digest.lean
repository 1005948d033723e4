import Fleetd.Evidence.HashChain
import Fleetd.Refinement.Evidence

/-!
# What the digests identify

The bytes hashed for an event and for a link of the chain are read back: numbers have a
fixed width, and the one zero byte in the middle is the first one, because neither a
classification nor a digest contains any. Digests themselves are a parameter; all that is
assumed about a comparison of two observations is that the bytes hashed for them do not
collide.
-/

namespace Fleetd

open Evidence

/-! ## Strings as bytes -/

/-- The bytes of a string are those of its characters. -/
theorem utf8Bytes_eq (value : String) :
    utf8Bytes value = value.toList.flatMap String.utf8EncodeChar := by
  rw [utf8Bytes, ← String.utf8Encode_toList, List.utf8Encode]
  simp

/-- The bytes identify a string. -/
theorem utf8Bytes_injective : Function.Injective utf8Bytes := by
  intro a b h
  refine String.toByteArray_inj.mp (ByteArray.ext (Array.toList_inj.mp h))

/-- A byte that is zero encodes a multiple of its range. -/
theorem mod_eq_zero_of_ofNat {n : Nat} (h : 0 = UInt8.ofNat n) : n % 256 = 0 := by
  have hn := congrArg UInt8.toNat h
  rw [UInt8.toNat_ofNat'] at hn
  exact hn.symm

/-- Only the zero character is encoded with a zero byte. -/
theorem zero_not_mem_utf8EncodeChar {c : Char} (h : c ≠ '\x00') : 0 ∉ String.utf8EncodeChar c := by
  have hpos : 0 < c.val.toNat := by
    refine Nat.pos_of_ne_zero fun hzero => h ?_
    exact Char.ext (UInt32.toNat_inj.mp hzero)
  unfold String.utf8EncodeChar
  generalize c.val.toNat = v at hpos
  intro hmem
  dsimp only at hmem
  -- every byte of a longer encoding carries a marker in its upper bits
  split at hmem
  · have hzero := mod_eq_zero_of_ofNat (List.mem_singleton.mp hmem)
    omega
  split at hmem
  · simp only [List.mem_cons, List.not_mem_nil, or_false] at hmem
    rcases hmem with hmem | hmem <;> have hzero := mod_eq_zero_of_ofNat hmem <;> omega
  split at hmem
  · simp only [List.mem_cons, List.not_mem_nil, or_false] at hmem
    rcases hmem with hmem | hmem | hmem <;> have hzero := mod_eq_zero_of_ofNat hmem <;> omega
  · simp only [List.mem_cons, List.not_mem_nil, or_false] at hmem
    rcases hmem with hmem | hmem | hmem | hmem <;> have hzero := mod_eq_zero_of_ofNat hmem <;> omega

/-- A string without the zero character has no zero byte. -/
theorem zero_not_mem_utf8Bytes {value : String} (h : '\x00' ∉ value.toList) : 0 ∉ utf8Bytes value := by
  rw [utf8Bytes_eq, List.mem_flatMap]
  rintro ⟨c, hc, hzero⟩
  exact zero_not_mem_utf8EncodeChar (fun heq => h (heq ▸ hc)) hzero

/-! ## Numbers as bytes -/

/-- Bytes are compared by their range. -/
theorem ofNat_mod {m n : Nat} (h : UInt8.ofNat m = UInt8.ofNat n) : m % 256 = n % 256 := by
  have hmn := congrArg UInt8.toNat h
  rwa [UInt8.toNat_ofNat', UInt8.toNat_ofNat'] at hmn

/-- A value between zero and the largest signed one. -/
def FitsI64 (value : Int) : Prop := 0 ≤ value ∧ value ≤ i64Max

/-- Eight bytes identify a value. -/
theorem toBeBytes_injective {a b : Int} (ha : FitsI64 a) (hb : FitsI64 b)
    (h : toBeBytes a = toBeBytes b) : a = b := by
  obtain ⟨m, rfl⟩ := Int.eq_ofNat_of_zero_le ha.1
  obtain ⟨n, rfl⟩ := Int.eq_ofNat_of_zero_le hb.1
  have hm : m < 18446744073709551616 := by
    have := ha.2
    simp only [i64Max] at this
    omega
  have hn : n < 18446744073709551616 := by
    have := hb.2
    simp only [i64Max] at this
    omega
  have hbits : ∀ k : Nat, k < 18446744073709551616 →
      ((k : Int) % 18446744073709551616).toNat = k := fun k hk => by omega
  simp only [toBeBytes, hbits m hm, hbits n hn, List.cons.injEq, and_true] at h
  obtain ⟨h0, h1, h2, h3, h4, h5, h6, h7⟩ := h
  have h0 := ofNat_mod h0
  have h1 := ofNat_mod h1
  have h2 := ofNat_mod h2
  have h3 := ofNat_mod h3
  have h4 := ofNat_mod h4
  have h5 := ofNat_mod h5
  have h6 := ofNat_mod h6
  have h7 := ofNat_mod h7
  omega

/-! ## Events -/

/-- An event as it is hashed and folded. -/
structure ObservedEvent where
  seq : Nat
  observedAtMs : Int
  classification : String
  payload : List UInt8
  deriving DecidableEq, Repr

/-- The bytes hashed for an event. -/
def ObservedEvent.preimage (e : ObservedEvent) : List UInt8 :=
  eventPreimage e.seq e.observedAtMs e.classification e.payload

/-- The digest of an event. -/
def ObservedEvent.digest [Sha256] (e : ObservedEvent) : String :=
  eventDigest e.seq e.observedAtMs e.classification e.payload

/-- The numbers of an event fit their columns and its classification has no zero character. -/
structure ObservedEvent.WellFormed (e : ObservedEvent) : Prop where
  seq : FitsI64 e.seq
  observedAtMs : FitsI64 e.observedAtMs
  classification : '\x00' ∉ e.classification.toList

/-- The bytes hashed for an event identify it. -/
theorem ObservedEvent.preimage_injective {e e' : ObservedEvent} (he : e.WellFormed)
    (he' : e'.WellFormed) (h : e.preimage = e'.preimage) : e = e' := by
  have hlen : ∀ value : Int, (toBeBytes value).length = 8 := fun _ => rfl
  simp only [ObservedEvent.preimage, eventPreimage, List.append_assoc] at h
  obtain ⟨hseq, h⟩ := List.append_inj h (by rw [hlen, hlen])
  obtain ⟨hat, h⟩ := List.append_inj h (by rw [hlen, hlen])
  rw [← List.append_assoc, ← List.append_assoc] at h
  obtain ⟨hclass, hpayload⟩ := separator_injective (zero_not_mem_utf8Bytes he.classification)
    (zero_not_mem_utf8Bytes he'.classification) h
  cases e
  cases e'
  rw [ObservedEvent.mk.injEq]
  exact ⟨Int.ofNat_inj.mp (toBeBytes_injective he.seq he'.seq hseq),
    toBeBytes_injective he.observedAtMs he'.observedAtMs hat, utf8Bytes_injective hclass, hpayload⟩

section Chain

variable [Sha256] [LawfulSha256]

omit [LawfulSha256] in
/-- The characters of a digest. -/
theorem toList_sha256Digest (bytes : List UInt8) :
    (sha256Digest bytes).toList = "sha256:".toList ++ (Sha256.hexDigest bytes).toList := by
  rw [sha256Digest, String.toList_append]

/-- A digest has no zero character. -/
theorem zero_not_mem_sha256Digest (bytes : List UInt8) : '\x00' ∉ (sha256Digest bytes).toList := by
  rw [toList_sha256Digest, List.mem_append, not_or]
  refine ⟨by decide, fun hmem => ?_⟩
  have hdigit := LawfulSha256.digits bytes _ hmem
  revert hdigit
  decide

/-- The start of a chain is no digest. -/
theorem sha256Digest_ne_genesis (bytes : List UInt8) : sha256Digest bytes ≠ "sha256:genesis" := by
  intro h
  have hlen := congrArg (fun value : String => value.toList.length) h
  simp only [toList_sha256Digest, List.length_append, LawfulSha256.length bytes] at hlen
  revert hlen
  decide

/-- The digest of a chain so far, absent at the start. -/
def IsDigest (previous : Option String) : Prop :=
  ∀ d, previous = some d → ∃ bytes, d = sha256Digest bytes

omit [LawfulSha256] in
/-- The bytes hashed for a link are led by a digest or by the start. -/
theorem IsDigest.cases {previous : Option String} (h : IsDigest previous) :
    previous = none ∨ ∃ bytes, previous = some (sha256Digest bytes) := by
  cases previous with
  | none => exact .inl rfl
  | some d =>
    obtain ⟨bytes, rfl⟩ := h d rfl
    exact .inr ⟨bytes, rfl⟩

/-- What leads the bytes of a link has no zero byte. -/
theorem IsDigest.zero_not_mem {previous : Option String} (h : IsDigest previous) :
    0 ∉ utf8Bytes (previous.getD "sha256:genesis") := by
  refine zero_not_mem_utf8Bytes ?_
  rcases h.cases with rfl | ⟨bytes, rfl⟩
  · decide
  · exact zero_not_mem_sha256Digest bytes

/-- The bytes hashed for a link identify what is linked. -/
theorem chainPreimage_injective {previous previous' : Option String} {event event' : String}
    (hp : IsDigest previous) (hp' : IsDigest previous')
    (h : chainPreimage previous event = chainPreimage previous' event') :
    previous = previous' ∧ event = event' := by
  obtain ⟨hlead, hevent⟩ := separator_injective hp.zero_not_mem hp'.zero_not_mem h
  refine ⟨?_, utf8Bytes_injective hevent⟩
  have hlead := utf8Bytes_injective hlead
  rcases hp.cases with rfl | ⟨bytes, rfl⟩ <;> rcases hp'.cases with rfl | ⟨bytes', rfl⟩
  · rfl
  · exact absurd hlead.symm (sha256Digest_ne_genesis bytes')
  · exact absurd hlead (sha256Digest_ne_genesis bytes)
  · exact congrArg some hlead

omit [LawfulSha256] in
/-- What is linked to is a digest. -/
theorem isDigest_of_linked {es : List ObservedEvent} {p : Option String × String}
    (h : p ∈ linked chainDigest ObservedEvent.digest es) : IsDigest p.1 := by
  intro d hd
  obtain ⟨previous, event, rfl⟩ := linked_fst _ _ h hd
  exact ⟨_, rfl⟩

/-- All bytes that are hashed for a list of events. -/
def hashed (es : List ObservedEvent) : List (List UInt8) :=
  es.map ObservedEvent.preimage ++
    (linked chainDigest ObservedEvent.digest es).map fun p => chainPreimage p.1 p.2

/-- When the bytes hashed for two lists of events do not collide, their chain digests identify
them. -/
theorem eventChain_injective {es es' : List ObservedEvent}
    (hwf : ∀ e ∈ es ++ es', e.WellFormed)
    (hfree : CollisionFree Sha256.hexDigest (hashed es ++ hashed es'))
    (h : chain chainDigest ObservedEvent.digest es = chain chainDigest ObservedEvent.digest es') :
    es = es' := by
  have hdigest : ∀ a ∈ hashed es ++ hashed es', ∀ b ∈ hashed es ++ hashed es',
      sha256Digest a = sha256Digest b → a = b := by
    intro a ha b hb hab
    have hchars := congrArg String.toList hab
    rw [toList_sha256Digest, toList_sha256Digest] at hchars
    exact hfree a ha b hb (String.toList_inj.mp (List.append_cancel_left hchars))
  have hlinked : ∀ p ∈ linked chainDigest ObservedEvent.digest es ++
      linked chainDigest ObservedEvent.digest es',
      chainPreimage p.1 p.2 ∈ hashed es ++ hashed es' ∧ IsDigest p.1 := by
    intro p hp
    rcases List.mem_append.mp hp with hp | hp
    · exact ⟨List.mem_append_left _ (List.mem_append_right _ (List.mem_map_of_mem hp)),
        isDigest_of_linked hp⟩
    · exact ⟨List.mem_append_right _ (List.mem_append_right _ (List.mem_map_of_mem hp)),
        isDigest_of_linked hp⟩
  have hpreimage : ∀ e ∈ es ++ es', e.preimage ∈ hashed es ++ hashed es' := by
    intro e he
    rcases List.mem_append.mp he with he | he
    · exact List.mem_append_left _ (List.mem_append_left _ (List.mem_map_of_mem he))
    · exact List.mem_append_right _ (List.mem_append_left _ (List.mem_map_of_mem he))
  refine chain_injective (fun p hp q hq hpq => ?_) (fun e he f hf hef => ?_) h
  · obtain ⟨hp, hpd⟩ := hlinked p hp
    obtain ⟨hq, hqd⟩ := hlinked q hq
    obtain ⟨hprevious, hevent⟩ := chainPreimage_injective hpd hqd (hdigest _ hp _ hq hpq)
    exact Prod.ext hprevious hevent
  · exact ObservedEvent.preimage_injective (hwf e he) (hwf f hf)
      (hdigest _ (hpreimage e he) _ (hpreimage f hf) hef)

end Chain

end Fleetd
