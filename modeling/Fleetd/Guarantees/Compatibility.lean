import Fleetd.Evidence.Fields
import Fleetd.Guarantees.StartFrame
import Fleetd.Refinement.Digest
import Fleetd.Refinement.Statements
import Fleetd.Worker.Compatibility

/-!
# What the compatibility digest tells apart

The fields that the code itself writes into the digest can be told apart, since none of them has a
zero byte. The base digest and the kinds of messages are texts of an operator in which nothing
forbids a zero: two kinds can be spelled by one, and a kind can spell the whole header of another
seat. Two seats whose texts do not run together in this way are separated.
-/

namespace Fleetd.Worker

open Effects Evidence

variable {a b : Seat}

/-! ## The parts of the bytes -/

/-- The fields between the base digest and the kinds. -/
def Seat.headerFields (seat : Seat) : List (List UInt8) :=
  [utf8Bytes "sandbox", utf8Bytes (seat.config.sandboxProfileDigest.getD "unsandboxed"),
    utf8Bytes "permission-policy", utf8Bytes seat.config.permissionPolicy.asStr] ++
  (seat.config.mcpGrants.map utf8Bytes ++ [utf8Bytes "inbound-schema", [], [], [], [1]])

/-- The bytes between the base digest and the kinds. -/
def Seat.header (seat : Seat) : List UInt8 := prefixed 0 seat.headerFields

/-- The bytes of the kinds. -/
def Seat.kindsText (seat : Seat) : List UInt8 := seat.acceptance.sortedKinds.flatMap kindBytes

/-! ## What is promised -/

/-- Two seats with the same contract. -/
structure Agree (a b : Seat) : Prop where
  base : a.base = b.base
  mcpGrants : a.config.mcpGrants = b.config.mcpGrants
  schemaVersion : a.acceptance.schemaVersion = b.acceptance.schemaVersion
  kinds : ∀ kind, kind ∈ a.acceptance.messageKinds ↔ kind ∈ b.acceptance.messageKinds
  sandbox : a.config.sandboxProfileDigest = b.config.sandboxProfileDigest
  permissionPolicy : a.config.permissionPolicy = b.config.permissionPolicy

/-- The kinds of two seats that agree on all else are spelled alike although they differ. -/
structure SpelledAlike (a b : Seat) : Prop where
  base : a.base = b.base
  header : a.headerFields = b.headerFields
  text : a.kindsText = b.kindsText
  differ : ¬ ∀ kind, kind ∈ a.acceptance.messageKinds ↔ kind ∈ b.acceptance.messageKinds

/-- The base digest of a seat goes on with the header of another seat and a part of its kinds, and
the kinds of the other seat go on with the header of the first. -/
def Swallows (a b : Seat) : Prop :=
  ∃ part, utf8Bytes b.base = utf8Bytes a.base ++ (a.header ++ part) ∧
    a.kindsText = part ++ (b.header ++ b.kindsText)

/-- The texts of two seats do not run together. -/
structure Distinct (a b : Seat) : Prop where
  kinds : ¬ SpelledAlike a b
  right : ¬ Swallows a b
  left : ¬ Swallows b a

/-! ## Accepted seats -/

theorem validateMcpGrants_ok {seen grants : List String} (h : validateMcpGrants seen grants = .ok ()) :
    (∀ grant ∈ grants, grant = publishDurableMessageGrant) ∧ grants.Nodup ∧
      ∀ grant ∈ grants, grant ∉ seen := by
  induction grants generalizing seen with
  | nil => exact ⟨fun _ h => absurd h List.not_mem_nil, List.nodup_nil,
      fun _ h => absurd h List.not_mem_nil⟩
  | cons grant rest ih =>
    rw [validateMcpGrants] at h
    split at h
    · cases h
    split at h
    · cases h
    · rename_i hknown hnew
      obtain ⟨hall, hnodup, hfresh⟩ := ih h
      refine ⟨?_, List.nodup_cons.2 ⟨fun hmem => hfresh grant hmem List.mem_cons_self, hnodup⟩, ?_⟩
      · intro other hother
        obtain rfl | hother := List.mem_cons.1 hother
        · exact not_not.1 hknown
        · exact hall other hother
      · intro other hother
        obtain rfl | hother := List.mem_cons.1 hother
        · exact hnew
        · exact fun hseen => hfresh other hother (List.mem_cons_of_mem _ hseen)

/-- An accepted seat has the one known grant or none. -/
theorem Seat.Accepted.mcpGrants (h : a.Accepted) :
    a.config.mcpGrants = [] ∨ a.config.mcpGrants = [publishDurableMessageGrant] := by
  have hconfig := h.config
  simp only [validateConfig, except_bind_ok] at hconfig
  obtain ⟨_, -, _, -, _, -, _, hgrants, -⟩ := hconfig
  obtain ⟨hall, hnodup, -⟩ := validateMcpGrants_ok hgrants
  cases hlist : a.config.mcpGrants with
  | nil => exact .inl rfl
  | cons grant rest =>
    rw [hlist] at hall hnodup
    obtain rfl := hall grant List.mem_cons_self
    cases rest with
    | nil => exact .inr rfl
    | cons other rest =>
      obtain rfl := hall other (List.mem_cons_of_mem _ List.mem_cons_self)
      exact absurd List.mem_cons_self (List.nodup_cons.1 hnodup).1

theorem exactV1_ok {kinds : List String} {acceptance : InboundAcceptance}
    (h : InboundAcceptance.exactV1 kinds = .ok acceptance) :
    acceptance.schemaVersion = 1 ∧ acceptance.messageKinds = kinds := by
  unfold InboundAcceptance.exactV1 at h
  split at h
  · cases h
  split at h
  · cases h
  split at h
  · cases h
  · cases h
    exact ⟨rfl, rfl⟩

theorem Seat.Accepted.schemaVersion (h : a.Accepted) : a.acceptance.schemaVersion = 1 :=
  h.acceptance.elim fun _ hkinds => (exactV1_ok hkinds).1

/-- The text of a sandbox has no zero byte. -/
theorem Seat.Accepted.sandbox_plain (h : a.Accepted) :
    0 ∉ utf8Bytes (a.config.sandboxProfileDigest.getD "unsandboxed") := by
  refine zero_not_mem_utf8Bytes ?_
  cases hsandbox : a.config.sandboxProfileDigest with
  | none => decide
  | some digest =>
    obtain ⟨hex, hdigest, hhex⟩ := h.sandbox digest hsandbox
    rw [Option.getD_some, hdigest, List.mem_append]
    exact not_or.2 ⟨by decide, fun hmem => absurd (hhex _ hmem) (by decide)⟩

theorem not_isSha256 {text : String} (h : text.toList.take 7 ≠ "sha256:".toList) :
    ¬ IsSha256 text := by
  rintro ⟨hex, hdigest, -⟩
  refine h ?_
  rw [hdigest]
  exact List.take_left' rfl

/-- The sandbox of a seat is told by its text. -/
theorem Seat.Accepted.sandbox_injective (ha : a.Accepted) (hb : b.Accepted)
    (h : a.config.sandboxProfileDigest.getD "unsandboxed" =
      b.config.sandboxProfileDigest.getD "unsandboxed") :
    a.config.sandboxProfileDigest = b.config.sandboxProfileDigest := by
  have hnever : ¬ IsSha256 "unsandboxed" := not_isSha256 (by decide)
  cases hsandboxA : a.config.sandboxProfileDigest with
  | none =>
    cases hsandboxB : b.config.sandboxProfileDigest with
    | none => rfl
    | some digest =>
      rw [hsandboxA, hsandboxB] at h
      obtain rfl : "unsandboxed" = digest := h
      exact absurd (hb.sandbox _ hsandboxB) hnever
  | some digest =>
    cases hsandboxB : b.config.sandboxProfileDigest with
    | none =>
      rw [hsandboxA, hsandboxB] at h
      obtain rfl : digest = "unsandboxed" := h
      exact absurd (ha.sandbox _ hsandboxA) hnever
    | some other =>
      rw [hsandboxA, hsandboxB] at h
      exact congrArg some h

theorem asStr_plain (policy : PermissionPolicy) : 0 ∉ utf8Bytes policy.asStr := by
  refine zero_not_mem_utf8Bytes ?_
  cases policy <;> decide

theorem asStr_injective {policy other : PermissionPolicy} (h : policy.asStr = other.asStr) :
    policy = other := by
  cases policy <;> cases other <;> first | rfl | exact absurd h (by decide)

/-! ## The header -/

/-- The fields of the header have no zero byte. -/
theorem Seat.Accepted.plain_headerFields (h : a.Accepted) : PlainFields 0 a.headerFields := by
  intro field hfield
  simp only [Seat.headerFields, List.mem_append, List.mem_cons, List.mem_map, List.not_mem_nil,
    or_false] at hfield
  obtain (rfl | rfl | rfl | rfl) | ⟨grant, hgrant, rfl⟩ | rfl | rfl | rfl | rfl | rfl := hfield
  · exact zero_not_mem_utf8Bytes (by decide)
  · exact h.sandbox_plain
  · exact zero_not_mem_utf8Bytes (by decide)
  · exact asStr_plain _
  · have hknown : grant = publishDurableMessageGrant := by
      obtain hnone | hone := h.mcpGrants
      · rw [hnone] at hgrant
        cases hgrant
      · rw [hone] at hgrant
        exact List.mem_singleton.1 hgrant
    rw [hknown]
    exact zero_not_mem_utf8Bytes (by decide)
  · exact zero_not_mem_utf8Bytes (by decide)
  · exact List.not_mem_nil
  · exact List.not_mem_nil
  · exact List.not_mem_nil
  · decide

/-- No field but the first is the word that the header begins with. -/
theorem Seat.Accepted.sandbox_not_mem (h : a.Accepted) :
    utf8Bytes "sandbox" ∉ a.headerFields.tail := by
  have hne : ∀ {text : String}, text ≠ "sandbox" → utf8Bytes "sandbox" ≠ utf8Bytes text :=
    fun hne heq => hne (utf8Bytes_injective heq).symm
  have hnil : utf8Bytes "sandbox" ≠ [] := fun heq => absurd (congrArg List.length heq) (by decide)
  have hone : utf8Bytes "sandbox" ≠ [1] := fun heq => absurd (congrArg List.length heq) (by decide)
  intro hfield
  simp only [Seat.headerFields, List.cons_append, List.tail_cons, List.mem_append, List.mem_cons,
    List.mem_map, List.not_mem_nil, or_false, List.nil_append] at hfield
  obtain heq | heq | heq | ⟨grant, hgrant, heq⟩ | heq | heq | heq | heq | heq := hfield
  · refine hne (fun htext => ?_) heq
    cases hsandbox : a.config.sandboxProfileDigest with
    | none =>
      rw [hsandbox] at htext
      exact absurd htext (by decide)
    | some digest =>
      rw [hsandbox] at htext
      obtain rfl : digest = "sandbox" := htext
      exact not_isSha256 (by decide) (h.sandbox _ hsandbox)
  · exact hne (by decide) heq
  · refine hne (fun htext => ?_) heq
    cases hpolicy : a.config.permissionPolicy <;> rw [hpolicy] at htext <;>
      exact absurd htext (by decide)
  · obtain hnone | hknown := h.mcpGrants
    · rw [hnone] at hgrant
      cases hgrant
    · rw [hknown] at hgrant
      rw [List.mem_singleton.1 hgrant] at heq
      exact hne (by decide) heq.symm
  · exact hne (by decide) heq
  · exact hnil heq
  · exact hnil heq
  · exact hnil heq
  · exact hone heq

/-- The kinds of a seat begin with a zero byte. -/
theorem Seat.exists_kindsText (seat : Seat) : ∃ rest, seat.kindsText = 0 :: rest := by
  have hperm := seat.acceptance.messageKinds.perm_insertionSort (· ≤ ·)
  have hsome : seat.acceptance.sortedKinds ≠ [] := fun hnil => by
    rw [← InboundAcceptance.sortedKinds, hnil] at hperm
    exact seat.acceptance.nonempty hperm.nil_eq.symm
  rw [Seat.kindsText]
  cases hkinds : seat.acceptance.sortedKinds with
  | nil => exact absurd hkinds hsome
  | cons kind kinds => exact ⟨_, rfl⟩

/-- The bytes of a seat are those of its base digest, its header and its kinds. -/
theorem Seat.Accepted.preimage_eq (h : a.Accepted) : a.preimage =
    utf8Bytes "fleetd-worker-compatibility-v4\x00" ++
      (utf8Bytes a.base ++ (a.header ++ a.kindsText)) := by
  have hgrants : ∀ grants : List String,
      grants.flatMap grantBytes = prefixed 0 (grants.map utf8Bytes) := by
    intro grants
    rw [prefixed, List.flatMap_map]
    rfl
  have hsandbox : utf8Bytes "\x00sandbox\x00" = 0 :: (utf8Bytes "sandbox" ++ [0]) := by decide +kernel
  have hpolicy : utf8Bytes "\x00permission-policy\x00" = 0 :: (utf8Bytes "permission-policy" ++ [0]) := by
    decide +kernel
  have hschema : utf8Bytes "\x00inbound-schema\x00" ++ toBeBytes32 1 =
      prefixed 0 [utf8Bytes "inbound-schema", [], [], [], [1]] := by decide +kernel
  rw [Seat.preimage, compatibilityPreimage, h.schemaVersion, hgrants, hsandbox, hpolicy, Seat.header,
    Seat.headerFields, prefixed_append, prefixed_append, ← hschema, Seat.kindsText]
  simp [prefixed]

/-- Two seats whose header and kinds are the same bytes differ in their kinds at most. -/
theorem header_injective (ha : a.Accepted) (hb : b.Accepted)
    (h : a.header ++ a.kindsText = b.header ++ b.kindsText) :
    a.headerFields = b.headerFields ∧ a.kindsText = b.kindsText := by
  obtain ⟨restA, hrestA⟩ := a.exists_kindsText
  obtain ⟨restB, hrestB⟩ := b.exists_kindsText
  have hplainA := ha.plain_headerFields
  have hplainB := hb.plain_headerFields
  rw [Seat.headerFields] at hplainA hplainB
  have hsplit : ∀ {front back : List (List UInt8)}, PlainFields 0 (front ++ back) →
      PlainFields 0 front ∧ PlainFields 0 back := fun h =>
    ⟨fun field hmem => h field (List.mem_append_left _ hmem),
      fun field hmem => h field (List.mem_append_right _ hmem)⟩
  rw [hrestA, hrestB, Seat.header, Seat.header, Seat.headerFields, Seat.headerFields] at h
  obtain ⟨hfront, hback⟩ :=
    prefixed_append_injective (hsplit hplainA).1 (hsplit hplainB).1 rfl h
  have hword : ∀ {back : List (List UInt8)} {rest last : List UInt8},
      prefixed 0 ([utf8Bytes "inbound-schema"] ++ back) ++ 0 :: rest ≠
        prefixed 0 ([utf8Bytes publishDurableMessageGrant] ++
          [utf8Bytes "inbound-schema", [], [], [], [1]]) ++ 0 :: last := by
    intro back rest last heq
    have hschema : PlainFields 0 [utf8Bytes "inbound-schema"] := fun field hmem =>
      List.mem_singleton.1 hmem ▸ zero_not_mem_utf8Bytes (by decide)
    have hgrant : PlainFields 0 [utf8Bytes publishDurableMessageGrant] := fun field hmem =>
      List.mem_singleton.1 hmem ▸ zero_not_mem_utf8Bytes (by decide)
    have hsame := (prefixed_append_injective hschema hgrant rfl heq).1
    exact absurd (utf8Bytes_injective (List.cons.inj hsame).1) (by decide)
  have hgrants : a.config.mcpGrants = b.config.mcpGrants := by
    obtain hA | hA := ha.mcpGrants <;> obtain hB | hB := hb.mcpGrants <;> rw [hA, hB] at hback ⊢
    · exact absurd hback hword
    · exact absurd hback.symm hword
  rw [hgrants] at hback
  obtain ⟨-, hrest⟩ := prefixed_injective (hgrants ▸ (hsplit hplainA).2) (hsplit hplainB).2 rfl hback
  refine ⟨?_, ?_⟩
  · rw [Seat.headerFields, Seat.headerFields, hfront, hgrants]
  · rw [hrestA, hrestB, hrest]

/-- A header does not begin inside another one. -/
theorem header_le_of_append (ha : a.Accepted) {part : List UInt8} (hpart : part ≠ [])
    {rest : List UInt8} (h : part ++ (b.header ++ rest) = a.header ++ a.kindsText) :
    a.header.length ≤ part.length := by
  by_contra hlt
  have hplain := ha.plain_headerFields
  have hheader : b.header ++ rest = 0 :: (utf8Bytes "sandbox" ++ 0 :: (
      utf8Bytes (b.config.sandboxProfileDigest.getD "unsandboxed") ++
        (prefixed 0 b.headerFields.tail.tail ++ rest))) := by
    simp [Seat.header, Seat.headerFields, prefixed]
  rw [hheader] at h
  obtain ⟨before, field, after, hfields, hbefore, hrest⟩ :=
    exists_field_of_sep hplain h (Nat.lt_of_not_le hlt)
  obtain ⟨kinds, hkinds⟩ := a.exists_kindsText
  obtain ⟨text, htext⟩ := exists_prefixed_sep 0 after kinds
  rw [hkinds, htext] at hrest
  have hword : 0 ∉ utf8Bytes "sandbox" := zero_not_mem_utf8Bytes (by decide)
  have hfield : 0 ∉ field := hplain field (hfields ▸ List.mem_append_right _ List.mem_cons_self)
  obtain ⟨rfl, -⟩ := separator_injective hword hfield (by simpa using hrest)
  refine ha.sandbox_not_mem ?_
  rw [hfields]
  cases before with
  | nil => exact absurd hbefore hpart
  | cons first before => exact List.mem_append_right _ List.mem_cons_self

/-! ## Which seats are told apart -/

/-- Seats with one base digest, one header and one text of kinds agree, unless the kinds are only
spelled alike. -/
theorem agree_of_parts (ha : a.Accepted) (hb : b.Accepted) (hbase : a.base = b.base)
    (hheader : a.headerFields = b.headerFields) (htext : a.kindsText = b.kindsText)
    (hkinds : ¬ SpelledAlike a b) : Agree a b := by
  have hfields := hheader
  rw [Seat.headerFields, Seat.headerFields] at hfields
  obtain ⟨hfront, hback⟩ := List.append_inj hfields rfl
  simp only [List.cons.injEq, and_true, true_and] at hfront
  have hgrants := List.map_injective_iff.2 utf8Bytes_injective (List.append_cancel_right hback)
  exact {
    base := hbase
    mcpGrants := hgrants
    schemaVersion := ha.schemaVersion.trans hb.schemaVersion.symm
    kinds := by_contra fun hdiffer => hkinds ⟨hbase, hheader, htext, hdiffer⟩
    sandbox := ha.sandbox_injective hb (utf8Bytes_injective hfront.1)
    permissionPolicy := asStr_injective (utf8Bytes_injective hfront.2) }

/-- A base digest that is longer than that of a seat with the same bytes goes on with its header. -/
theorem swallows_of_append (ha : a.Accepted) {part : List UInt8} (hpart : part ≠ [])
    (hbase : utf8Bytes b.base = utf8Bytes a.base ++ part)
    (hrest : a.header ++ a.kindsText = part ++ (b.header ++ b.kindsText)) : Swallows a b := by
  have hlength := header_le_of_append ha hpart hrest.symm
  obtain ⟨more, hmore⟩ : a.header <+: part :=
    List.prefix_of_prefix_length_le ⟨_, hrest⟩ ⟨_, rfl⟩ hlength
  rw [← hmore, List.append_assoc] at hrest
  exact ⟨more, by rw [hbase, hmore], List.append_cancel_left hrest⟩

/-- The bytes of two accepted seats are the same only if their texts run together or agree. -/
theorem agree_of_preimage_eq (ha : a.Accepted) (hb : b.Accepted) (h : a.preimage = b.preimage)
    (hdistinct : Distinct a b) : Agree a b := by
  rw [ha.preimage_eq, hb.preimage_eq] at h
  obtain ⟨part, hbase, hrest⟩ | ⟨part, hbase, hrest⟩ :=
    List.append_eq_append_iff.1 (List.append_cancel_left h)
  · by_cases hpart : part = []
    · rw [hpart, List.append_nil] at hbase
      rw [hpart, List.nil_append] at hrest
      obtain ⟨hheader, htext⟩ := header_injective ha hb hrest
      exact agree_of_parts ha hb (utf8Bytes_injective hbase.symm) hheader htext hdistinct.kinds
    · exact absurd (swallows_of_append ha hpart hbase hrest) hdistinct.right
  · by_cases hpart : part = []
    · rw [hpart, List.append_nil] at hbase
      rw [hpart, List.nil_append] at hrest
      obtain ⟨hheader, htext⟩ := header_injective ha hb hrest.symm
      exact agree_of_parts ha hb (utf8Bytes_injective hbase) hheader htext hdistinct.kinds
    · exact absurd (swallows_of_append hb hpart hbase hrest) hdistinct.left

/-- A seat that swallows another has the same bytes under another base digest. -/
theorem Swallows.collides (ha : a.Accepted) (hb : b.Accepted) (h : Swallows a b) :
    a.preimage = b.preimage ∧ a.base ≠ b.base := by
  obtain ⟨part, hbase, hkinds⟩ := h
  constructor
  · rw [ha.preimage_eq, hb.preimage_eq, hbase, hkinds]
    simp only [List.append_assoc]
  · intro hsame
    have hlength := congrArg List.length hbase
    have hpos : 0 < a.header.length := Nat.succ_pos _
    rw [hsame, List.length_append, List.length_append] at hlength
    omega

/-- Texts of an operator without a zero in them. -/
structure Seat.Plain (seat : Seat) : Prop where
  base : '\x00' ∉ seat.base.toList
  kinds : ∀ kind ∈ seat.acceptance.messageKinds, '\x00' ∉ kind.toList

/-- The fields that the kinds of a seat are written in. -/
theorem Seat.Plain.kindsText_eq (h : a.Plain) : ∃ fields, PlainFields 0 fields ∧
    fields = a.acceptance.sortedKinds.flatMap (fun kind => [utf8Bytes "kind", utf8Bytes kind]) ∧
    a.kindsText = prefixed 0 fields := by
  have hword : utf8Bytes "\x00kind\x00" = 0 :: (utf8Bytes "kind" ++ [0]) := by decide +kernel
  refine ⟨_, fun field hfield => ?_, rfl, ?_⟩
  · obtain ⟨kind, hkind, hmem⟩ := List.mem_flatMap.1 hfield
    have hsorted : kind ∈ a.acceptance.messageKinds :=
      (List.perm_insertionSort _ _).subset hkind
    obtain rfl | hmem := List.mem_cons.1 hmem
    · exact zero_not_mem_utf8Bytes (by decide)
    · rw [List.mem_singleton.1 hmem]
      exact zero_not_mem_utf8Bytes (h.kinds kind hsorted)
  · rw [Seat.kindsText, prefixed, List.flatMap_assoc]
    refine congrArg (List.flatMap · _) (funext fun kind => ?_)
    rw [kindBytes, hword]
    simp

/-- The kinds are told by their fields. -/
theorem kinds_injective {kinds others : List String}
    (h : kinds.flatMap (fun kind => [utf8Bytes "kind", utf8Bytes kind]) =
      others.flatMap fun kind => [utf8Bytes "kind", utf8Bytes kind]) : kinds = others := by
  induction kinds generalizing others with
  | nil =>
    cases others with
    | nil => rfl
    | cons other others => cases h
  | cons kind kinds ih =>
    cases others with
    | nil => cases h
    | cons other others =>
      obtain ⟨-, hrest⟩ := List.cons.inj h
      obtain ⟨hkind, hrest⟩ := List.cons.inj hrest
      rw [utf8Bytes_injective hkind, ih hrest]

/-- Seats with plain texts do not run together. -/
theorem Seat.Plain.distinct (ha : a.Plain) (hb : b.Plain) : Distinct a b := by
  have hheader : ∀ seat : Seat, 0 ∈ seat.header := fun _ => List.mem_cons_self
  refine ⟨fun halike => ?_, ?_, ?_⟩
  · obtain ⟨fieldsA, hplainA, hfieldsA, htextA⟩ := ha.kindsText_eq
    obtain ⟨fieldsB, hplainB, hfieldsB, htextB⟩ := hb.kindsText_eq
    have hfields := prefixed_injective_of_plain hplainA hplainB
      (htextA.symm.trans (halike.text.trans htextB))
    rw [hfieldsA, hfieldsB] at hfields
    have hsorted := kinds_injective hfields
    refine halike.differ fun kind => ?_
    have hA := (a.acceptance.messageKinds.perm_insertionSort (· ≤ ·)).mem_iff (a := kind)
    have hB := (b.acceptance.messageKinds.perm_insertionSort (· ≤ ·)).mem_iff (a := kind)
    rw [← hA, ← hB, ← InboundAcceptance.sortedKinds, ← InboundAcceptance.sortedKinds, hsorted]
  · rintro ⟨part, hbase, -⟩
    refine zero_not_mem_utf8Bytes hb.base ?_
    rw [hbase]
    exact List.mem_append_right _ (List.mem_append_left _ (hheader a))
  · rintro ⟨part, hbase, -⟩
    refine zero_not_mem_utf8Bytes ha.base ?_
    rw [hbase]
    exact List.mem_append_right _ (List.mem_append_left _ (hheader b))

/-- Two accepted seats are separated exactly if their texts do not run together. -/
theorem separated_iff (ha : a.Accepted) (hb : b.Accepted) :
    (a.preimage = b.preimage → Agree a b) ↔ Distinct a b := by
  constructor
  · intro hsep
    refine ⟨fun halike => ?_, fun hswallows => ?_, fun hswallows => ?_⟩
    · have hsame : a.preimage = b.preimage := by
        rw [ha.preimage_eq, hb.preimage_eq, halike.base, Seat.header, Seat.header, halike.header,
          halike.text]
      exact halike.differ (hsep hsame).kinds
    · obtain ⟨hsame, hbase⟩ := hswallows.collides ha hb
      exact hbase (hsep hsame).base
    · obtain ⟨hsame, hbase⟩ := hswallows.collides hb ha
      exact hbase (hsep hsame.symm).base.symm
  · exact fun hdistinct h => agree_of_preimage_eq ha hb h hdistinct

/-! ## Kinds with a zero -/

/-- A seat that accepts two kinds. -/
def twoKindsSeat : Seat where
  config := sampleSeat
  acceptance := ⟨1, ["a", "b"], by decide, by decide, by decide⟩
  profileDigest := "sha256:profile"

/-- A seat that accepts one kind, which spells those two. -/
def oneKindSeat : Seat where
  config := sampleSeat
  acceptance := ⟨1, ["a\x00kind\x00b"], by decide, by decide, by decide⟩
  profileDigest := "sha256:profile"

theorem twoKindsSeat_accepted : twoKindsSeat.Accepted where
  config := by decide +kernel
  acceptance := ⟨["a", "b"], rfl⟩
  described := by decide +kernel
  sandbox := fun _ h => nomatch h

theorem oneKindSeat_accepted : oneKindSeat.Accepted where
  config := by decide +kernel
  acceptance := ⟨["a\x00kind\x00b"], rfl⟩
  described := by decide +kernel
  sandbox := fun _ h => nomatch h

/-- Both seats are accepted, and the digest is taken of the same bytes for both. -/
theorem twoKindsSeat_collides : twoKindsSeat.Accepted ∧ oneKindSeat.Accepted ∧
    twoKindsSeat.preimage = oneKindSeat.preimage ∧ ¬ Agree twoKindsSeat oneKindSeat := by
  refine ⟨twoKindsSeat_accepted, oneKindSeat_accepted, by decide +kernel, fun h => ?_⟩
  exact absurd ((h.kinds "a").1 (by decide)) (by decide)

/-- So the texts of the two seats run together. -/
theorem separated_iff_twoKindsSeat : ¬ Distinct twoKindsSeat oneKindSeat := by
  rw [← separated_iff twoKindsSeat_accepted oneKindSeat_accepted]
  exact fun h => twoKindsSeat_collides.2.2.2 (h twoKindsSeat_collides.2.2.1)

end Fleetd.Worker
