import DoomSat.Proofs.Receiver.Classify

/-!
# `DoomSat.Proofs.Receiver.HeaderBounds`: the exact RTP header parser

`Classify` shows that the parser reads no byte outside the datagram. This module states what
it computes. `csrcCount`, `hasExtension` and `extensionWords` are the three quantities that
the offset depends on, as numbers of the datagram. `HeaderFits` says that the header with
its extension ends inside the datagram, and `headerEnd` is where.

`payloadOffset_eq` and `unpackRtpHeader_offset` state that the parser returns `headerEnd`
exactly when `HeaderFits`. `headerParse_exact` adds the round trip of the sender's header and
the bounds of the classification.
-/

set_option autoImplicit false

namespace DoomSat.Receiver

open Support
open Downlink (packRtpHeader)

/-- `CC`: the number of contributing sources, in the low nibble of the first byte. -/
def csrcCount (buf : Datagram) : Nat := (buf.getD 0 0).toNat % 16

/-- `X`: the extension bit of the first byte. -/
def hasExtension (buf : Datagram) : Bool := (buf.getD 0 0).toNat / 16 % 2 = 1

/-- `L`: the 16-bit big-endian length of the extension, in words of 4 bytes. It stands in the
last two bytes of the extension header. -/
def extensionWords (buf : Datagram) : Nat :=
  (buf.getD (8 + 4 * csrcCount buf + 2) 0).toNat * 256
    + (buf.getD (8 + 4 * csrcCount buf + 3) 0).toNat

/-- Where the payload starts, by the header. -/
def headerEnd (buf : Datagram) : Nat :=
  if hasExtension buf then 8 + 4 * csrcCount buf + 4 + 4 * extensionWords buf
  else 8 + 4 * csrcCount buf

/-- The fixed header, the sources and the extension are inside the datagram. -/
def HeaderFits (buf : Datagram) : Prop :=
  8 ≤ buf.length ∧
    if hasExtension buf then
      8 + 4 * csrcCount buf + 4 ≤ buf.length ∧
        8 + 4 * csrcCount buf + 4 + 4 * extensionWords buf ≤ buf.length
    else 8 + 4 * csrcCount buf ≤ buf.length

instance (buf : Datagram) : Decidable (HeaderFits buf) := by
  unfold HeaderFits
  infer_instance

/-! ### The offset -/

/-- The two fields of the first byte that the offset depends on. -/
theorem unpackFields_first {buf : Datagram} {hdr : RtpHeader}
    (h : unpackFields buf = .ok hdr) :
    hdr.cc.toNat = csrcCount buf ∧ (hdr.extension ≠ 0 ↔ hasExtension buf = true) := by
  -- The fields of every first byte, by evaluation at the 256 values.
  have hbyte : ∀ b : UInt8, (b &&& 0x0F).toNat = b.toNat % 16 ∧
      ((b >>> 4) &&& 0x01 ≠ 0 ↔ decide (b.toNat / 16 % 2 = 1) = true) :=
    forall_byte (by decide +kernel)
  cases buf with
  | nil => cases h
  | cons b0 rest =>
    obtain ⟨b, hb, hrest⟩ := bind_eq_ok.mp h
    cases hb
    iterate 7
      obtain ⟨_, -, hrest⟩ := bind_eq_ok.mp hrest
    cases hrest
    exact hbyte b0

/-- The offset is the end of the header when the header fits, and -1 otherwise. -/
theorem payloadOffset_eq {buf : Datagram} {hdr : RtpHeader} (hlen : 8 ≤ buf.length)
    (h : unpackFields buf = .ok hdr) :
    payloadOffset buf buf.length hdr
      = .ok (if HeaderFits buf then some (headerEnd buf) else none) := by
  obtain ⟨hcc, hext⟩ := unpackFields_first h
  unfold payloadOffset HeaderFits headerEnd
  rw [hcc, Nat.mul_comm (csrcCount buf) 4]
  by_cases hX : hasExtension buf = true
  · rw [if_pos (hext.mpr hX)]
    simp only [hX, if_true, hlen, true_and]
    by_cases hshort : 8 + 4 * csrcCount buf + 4 > buf.length
    · rw [if_pos hshort, if_neg (by omega)]
      rfl
    · -- The guard before the two reads covers both of them.
      have h2 : 8 + 4 * csrcCount buf + 2 < buf.length := by omega
      have h3 : 8 + 4 * csrcCount buf + 3 < buf.length := by omega
      rw [if_neg hshort, byteAt_of_lt h2, ok_bind, byteAt_of_lt h3, ok_bind, toNat_word16]
      have hL : extensionWords buf = buf[8 + 4 * csrcCount buf + 2].toNat * 256
          + buf[8 + 4 * csrcCount buf + 3].toNat := by
        unfold extensionWords
        rw [List.getD_eq_getElem _ _ h2, List.getD_eq_getElem _ _ h3]
      have hsum : 8 + 4 * csrcCount buf + (4 + extensionWords buf * 4)
          = 8 + 4 * csrcCount buf + 4 + 4 * extensionWords buf := by omega
      have hguard : 8 + 4 * csrcCount buf + 4 ≤ buf.length := by omega
      rw [← hL, hsum]
      simp only [hguard, true_and]
      rfl
  · rw [if_neg (fun hne => hX (hext.mp hne))]
    simp only [hX, hlen, true_and]
    rfl

/-- `unpackRtpHeader` reads no byte outside the datagram, and it returns the end of the header
exactly when the header fits. -/
theorem unpackRtpHeader_offset (buf : Datagram) :
    ∃ r, unpackRtpHeader buf buf.length = .ok r ∧
      r.map Prod.fst = if HeaderFits buf then some (headerEnd buf) else none := by
  by_cases hlen : buf.length < 8
  · refine ⟨none, if_pos hlen, ?_⟩
    rw [if_neg (fun hfits => Nat.not_lt.mpr hfits.1 hlen)]
    rfl
  · have hge : 8 ≤ buf.length := Nat.not_lt.mp hlen
    obtain ⟨hdr, hhdr⟩ := unpackFields_ok hge
    have hoff := payloadOffset_eq hge hhdr
    refine ⟨(if HeaderFits buf then some (headerEnd buf) else none).map fun off => (off, hdr),
      ?_, ?_⟩
    · show (if buf.length < 8 then _ else _) = _
      rw [if_neg hlen, hhdr, ok_bind, hoff, ok_bind]
      rfl
    · split <;> rfl

/-! ### The parser as a whole -/

/-- The parser on every datagram. It reads inside the datagram and returns an offset exactly
when the header fits, and the offset is the end of the header. On a datagram of the sender it
returns offset 8 and the fields that were packed, with the marker bit of the marker byte. The
classification of the payload reads inside the datagram too. -/
theorem headerParse_exact :
    (∀ buf : Datagram, ∃ r, unpackRtpHeader buf buf.length = .ok r ∧
      r.map Prod.fst = if HeaderFits buf then some (headerEnd buf) else none) ∧
    (∀ (seq : UInt16) (timestamp : UInt32) (marker : UInt8) (payload : List UInt8),
      ∃ hdr, unpackRtpHeader (packRtpHeader seq timestamp marker ++ payload)
          (packRtpHeader seq timestamp marker ++ payload).length = .ok (some (8, hdr)) ∧
        hdr.version = 2 ∧ hdr.payloadType = 96 ∧ hdr.seq = seq ∧ hdr.timestamp = timestamp ∧
        hdr.marker = marker &&& 1 ∧ ((marker = 0 ∨ marker = 1) → hdr.marker = marker)) ∧
    ∀ buf : Datagram, ∃ p, classify buf = .ok p := by
  refine ⟨unpackRtpHeader_offset, fun seq timestamp marker payload => ?_, classify_ok⟩
  refine ⟨senderHeader seq timestamp marker, unpackRtpHeader_pack seq timestamp marker payload,
    rfl, rfl, rfl, rfl, rfl, ?_⟩
  rintro (rfl | rfl) <;> rfl

end DoomSat.Receiver
