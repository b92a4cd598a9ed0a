import PrivateBallot.Protocol.CborItems
import PrivateBallot.Protocol.Hashing

/-!
# Framed hash inputs

Library `Protocol`. `crates/protocol/src/hashing.rs:27-116`: a frame is the prefix, the label of
the domain and the object, with a zero byte after the first two. No label has a zero byte, so a
frame determines its domain and its object, whatever bytes the object has.
-/

namespace PrivateBallot.Protocol

open PrivateBallot.Base

/-! ### Frames -/

private theorem lit_injective {a b : String} (h : Text.lit a = Text.lit b) : a = b := by
  have hchars := congrArg Text.chars h
  rw [Text.lit_eq, Text.lit_eq, Text.chars_ofChars, Text.chars_ofChars] at hchars
  exact String.toList_inj.mp hchars

private theorem zero_notMem_utf8EncodeChar {c : Char} (h : c ≠ '\x00') :
    0 ∉ String.utf8EncodeChar c := by
  have hpos : c.toNat ≠ 0 := by
    intro hzero
    apply h
    rw [← Char.ofNat_toNat c, hzero]
  have hbyte : ∀ n, 0 < n → n < 256 → (0 : UInt8) ≠ UInt8.ofNat n := by
    intro n hn hlt heq
    have hnat := congrArg UInt8.toNat heq
    rw [UInt8.toNat_ofNat', Nat.mod_eq_of_lt hlt] at hnat
    rw [← hnat] at hn
    exact absurd hn (by decide)
  have hval : c.val.toNat = c.toNat := rfl
  unfold String.utf8EncodeChar
  simp only [hval]
  split
  · simp only [List.mem_singleton]
    exact hbyte _ (by omega) (by omega)
  · split
    · simp only [List.mem_cons, List.not_mem_nil, or_false, not_or]
      exact ⟨hbyte _ (by omega) (by omega), hbyte _ (by omega) (by omega)⟩
    · split
      · simp only [List.mem_cons, List.not_mem_nil, or_false, not_or]
        exact ⟨hbyte _ (by omega) (by omega), hbyte _ (by omega) (by omega),
          hbyte _ (by omega) (by omega)⟩
      · simp only [List.mem_cons, List.not_mem_nil, or_false, not_or]
        exact ⟨hbyte _ (by omega) (by omega), hbyte _ (by omega) (by omega),
          hbyte _ (by omega) (by omega), hbyte _ (by omega) (by omega)⟩

/-- A literal without a zero character has no zero byte. -/
private theorem zero_notMem_lit {l : List Char} (h : '\x00' ∉ l) :
    0 ∉ (Text.lit (String.ofList l)).toBytes := by
  rw [Text.lit_eq, String.toList_ofList]
  show 0 ∉ l.flatMap String.utf8EncodeChar
  rw [List.mem_flatMap]
  rintro ⟨c, hc, hzero⟩
  exact zero_notMem_utf8EncodeChar (fun heq ↦ h (heq ▸ hc)) hzero

namespace HashDomain

/-- Every domain has a label of its own. -/
theorem label_injective {domain other : HashDomain} (h : domain.label = other.label) :
    domain = other := by
  cases domain <;> cases other <;> first | rfl | exact absurd (lit_injective h) (by simp)

/-- Labels have no zero byte. -/
theorem zero_notMem_label (domain : HashDomain) : 0 ∉ domain.label.toBytes := by
  cases domain <;> exact zero_notMem_lit (by decide)

end HashDomain

/-- What comes before the first separator. -/
private theorem append_separator_inj {α : Type} {separator : α} {front front' rest rest' : List α}
    (hfront : separator ∉ front) (hfront' : separator ∉ front')
    (h : front ++ separator :: rest = front' ++ separator :: rest') :
    front = front' ∧ rest = rest' := by
  induction front generalizing front' with
  | nil =>
    cases front' with
    | nil => exact ⟨rfl, (List.cons.inj h).2⟩
    | cons x front' => exact absurd ((List.cons.inj h).1 ▸ List.mem_cons_self) hfront'
  | cons x front ih =>
    cases front' with
    | nil => exact absurd ((List.cons.inj h).1 ▸ List.mem_cons_self) hfront
    | cons y front' =>
      obtain ⟨rfl, htail⟩ := List.cons.inj h
      obtain ⟨rfl, hrest⟩ := ih (fun hmem ↦ hfront (List.mem_cons_of_mem _ hmem))
        (fun hmem ↦ hfront' (List.mem_cons_of_mem _ hmem)) htail
      exact ⟨rfl, hrest⟩

/-- A frame determines its domain and its object. -/
theorem domainSeparatedInput_inj {domain other : HashDomain} {object object' : Bytes} :
    domainSeparatedInput domain object = domainSeparatedInput other object' ↔
      domain = other ∧ object = object' := by
  constructor
  · intro h
    simp only [domainSeparatedInput, List.append_assoc, List.append_cancel_left_eq,
      List.cons_append, List.nil_append, List.cons.injEq, true_and] at h
    obtain ⟨hlabel, hobject⟩ := append_separator_inj (HashDomain.zero_notMem_label domain)
      (HashDomain.zero_notMem_label other) h
    exact ⟨HashDomain.label_injective (Text.ext hlabel), hobject⟩
  · rintro ⟨rfl, rfl⟩
    rfl

/-! ### Hashing without collisions -/

namespace HashProvider

/-- No two of these inputs have one hash: what injectivity of the hash function would say about
the inputs that were hashed. -/
def CollisionFree (provider : HashProvider) (inputs : List Bytes) : Prop :=
  ∀ input ∈ inputs, ∀ other ∈ inputs, provider.hash input = provider.hash other → input = other

instance (provider : HashProvider) (inputs : List Bytes) :
    Decidable (provider.CollisionFree inputs) := by
  unfold CollisionFree
  infer_instance

/-- Fewer inputs have no more collisions. -/
theorem CollisionFree.mono {provider : HashProvider} {inputs others : List Bytes}
    (h : provider.CollisionFree inputs) (hsubset : ∀ input ∈ others, input ∈ inputs) :
    provider.CollisionFree others :=
  fun input hinput other hother ↦ h input (hsubset input hinput) other (hsubset other hother)

/-- Framed objects that are hashed to the same digest are the same, of the same domain. -/
theorem CollisionFree.inj {provider : HashProvider} {inputs : List Bytes}
    (h : provider.CollisionFree inputs) {domain other : HashDomain} {object object' : Bytes}
    (hinput : domainSeparatedInput domain object ∈ inputs)
    (hinput' : domainSeparatedInput other object' ∈ inputs)
    (hhash : hashDomainSeparated provider domain object =
      hashDomainSeparated provider other object') : domain = other ∧ object = object' :=
  domainSeparatedInput_inj.mp (h _ hinput _ hinput' hhash)

end HashProvider

/-! ### Sequences of items -/

/-- The bytes of items of the same kinds determine the items. -/
theorem CborItem.writeAll_inj {items others : List CborItem}
    (hkinds : items.map CborItem.kind = others.map CborItem.kind)
    (hlen : (writeAll items).length < 2 ^ 63) (h : writeAll items = writeAll others) :
    items = others := by
  have hitems := readAll_of_reads (reads_readEach items) (by omega)
  have hothers := readAll_of_reads (reads_readEach others) (by rw [← h]; omega)
  rw [← hkinds, ← h, hitems] at hothers
  exact Except.ok.inj hothers

end PrivateBallot.Protocol
