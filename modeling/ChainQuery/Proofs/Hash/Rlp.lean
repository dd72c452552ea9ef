import ChainQuery.Hash.Rlp
import ChainQuery.Proofs.Bytes

/-! # Records that determine their contents

The forms of byte strings and lists in length-prefixed records, one for each range of lengths
(`Rlp.IsString`, `Rlp.Framed`), and the fewest bytes of a number (`Bytes.IsMinimal`). The length of
a record fixes the length of what it holds, so that a record holds one thing only
(`Rlp.IsString.inj`, `Rlp.Framed.inj`).
-/

namespace ChainQuery

namespace Bytes

/-- The bytes of a number without a zero in front. -/
structure IsMinimal (n : Nat) (bytes : Bytes) : Prop where
  value : toNat bytes = n
  lead : bytes.head? ≠ some 0

theorem minimal_zero : minimal 0 = [] := by
  rw [minimal, if_pos rfl]

theorem minimal_of_ne_zero {n : Nat} (positive : n ≠ 0) :
    minimal n = minimal (n / 256) ++ [UInt8.ofNat n] := by
  rw [minimal, if_neg positive]

theorem minimal_ne_nil {n : Nat} (positive : n ≠ 0) : minimal n ≠ [] := by
  rw [minimal_of_ne_zero positive]
  exact List.append_ne_nil_of_right_ne_nil _ (List.cons_ne_nil _ _)

/-- A number is written in its fewest bytes: they give it back, and no zero byte leads them. The
induction takes the last byte off. -/
theorem isMinimal_minimal (n : Nat) : IsMinimal n (minimal n) := by
  induction n using Nat.strongRecOn with
  | ind n ih =>
      by_cases zero : n = 0
      · rw [zero, minimal_zero]
        exact ⟨rfl, nofun⟩
      · obtain ⟨value, lead⟩ := ih (n / 256) (by omega)
        have last : (UInt8.ofNat n).toNat = n % 256 := UInt8.toNat_ofNat'
        rw [minimal_of_ne_zero zero]
        constructor
        · rw [toNat_append_singleton, value, last]
          omega
        · by_cases small : n / 256 = 0
          · rw [small, minimal_zero]
            intro same
            have byte := congrArg UInt8.toNat (Option.some.inj same)
            rw [last] at byte
            change n % 256 = 0 at byte
            omega
          · obtain ⟨first, rest, front⟩ := List.exists_cons_of_ne_nil (minimal_ne_nil small)
            rw [front] at lead ⊢
            exact lead

/-- There is one way to write a number in the fewest bytes, so a counter is known from its bytes. -/
theorem IsMinimal.eq_minimal {n : Nat} {bytes : Bytes} (shortest : IsMinimal n bytes) :
    bytes = minimal n := by
  obtain ⟨value, lead⟩ := shortest
  induction bytes using List.reverseRecOn generalizing n with
  | nil =>
      rw [← value]
      exact minimal_zero.symm
  | append_singleton front last ih =>
      rw [toNat_append_singleton] at value
      have small := last.toNat_lt
      have quotient : toNat front = n / 256 := by omega
      have rest : UInt8.ofNat n = last := by
        rw [← UInt8.toNat_inj, UInt8.toNat_ofNat']
        change n % 256 = last.toNat
        omega
      have frontLead : front.head? ≠ some 0 := by
        cases front with
        | nil => exact nofun
        | cons first others => exact lead
      have positive : n ≠ 0 := by
        rintro rfl
        have empty := ih quotient frontLead
        rw [Nat.zero_div, minimal_zero] at empty
        rw [empty, ← rest] at lead
        exact lead rfl
      rw [minimal_of_ne_zero positive, rest, ← ih quotient frontLead]

/-- A greater number takes at least as many bytes, so the lengths of frames grow with what they
hold. -/
theorem length_minimal_mono {m n : Nat} (le : m ≤ n) : (minimal m).length ≤ (minimal n).length := by
  induction n using Nat.strongRecOn generalizing m with
  | ind n ih =>
      by_cases zero : m = 0
      · rw [zero, minimal_zero]
        exact Nat.zero_le _
      · have shorter := ih (n / 256) (by omega) (Nat.div_le_div_right le)
        rw [minimal_of_ne_zero zero, minimal_of_ne_zero (by omega : n ≠ 0), List.length_append,
          List.length_append]
        exact Nat.add_le_add_right shorter 1

end Bytes

open Bytes

namespace Rlp

/-- A payload behind its length: up to 55 bytes the length stands in the first byte, and otherwise
the first byte counts the bytes of the length, which follow it. -/
inductive Framed (offset : Nat) (payload : Bytes) : Bytes → Prop
  | short : payload.length ≤ 55 →
      Framed offset payload (UInt8.ofNat (offset + payload.length) :: payload)
  | long {size : Bytes} : 55 < payload.length → IsMinimal payload.length size →
      Framed offset payload (UInt8.ofNat (offset + 55 + size.length) :: (size ++ payload))

/-- The form of a byte string: a single byte below 128 stands for itself, and any other string is
framed. -/
inductive IsString : Bytes → Bytes → Prop
  | byte {byte : UInt8} : byte.toNat < 0x80 → IsString [byte] [byte]
  | framed {bytes whole : Bytes} : (∀ byte : UInt8, bytes = [byte] → 0x80 ≤ byte.toNat) →
      Framed 0x80 bytes whole → IsString bytes whole

/-- The form of a list whose items stand in it one after the other. -/
def IsList (items : List Bytes) (whole : Bytes) : Prop :=
  Framed 0xC0 items.flatten whole

variable {offset : Nat} {payload other whole : Bytes}

/-- The header that stands in front of a payload frames it, in the short form or in the long one. -/
theorem framed_header (offset : Nat) (payload : Bytes) :
    Framed offset payload (header offset payload.length ++ payload) := by
  unfold header
  by_cases small : payload.length ≤ 55
  · rw [if_pos small]
    exact .short small
  · rw [if_neg small]
    exact .long (Nat.lt_of_not_le small) (isMinimal_minimal _)

/-- There is one frame to each payload: its header and the payload behind it. The length of the
payload decides which of the two forms it has. -/
theorem framed_iff :
    Framed offset payload whole ↔ whole = header offset payload.length ++ payload := by
  constructor
  · intro framed
    cases framed with
    | short small =>
        rw [header, if_pos small]
        rfl
    | long large size =>
        rw [header, if_neg (Nat.not_le.mpr large), ← size.eq_minimal]
        rfl
  · rintro rfl
    exact framed_header offset payload

theorem string_byte {byte : UInt8} (small : byte.toNat < 0x80) : string [byte] = [byte] :=
  if_pos small

/-- A string that is not one small byte is framed like a payload at the offset for strings. -/
theorem string_framed {bytes : Bytes}
    (large : ∀ byte : UInt8, bytes = [byte] → 0x80 ≤ byte.toNat) :
    string bytes = header 0x80 bytes.length ++ bytes := by
  unfold string
  split
  · next byte => exact if_neg (Nat.not_lt.mpr (large byte rfl))
  · rfl

/-- The form of a byte string is the one that is written: one small byte stands for itself, and
anything else is framed. -/
theorem isString_iff {bytes : Bytes} : IsString bytes whole ↔ whole = string bytes := by
  constructor
  · intro form
    cases form with
    | byte small => exact (string_byte small).symm
    | framed large framed => exact (framed_iff.mp framed).trans (string_framed large).symm
  · rintro rfl
    by_cases single : ∃ byte : UInt8, bytes = [byte] ∧ byte.toNat < 0x80
    · obtain ⟨byte, rfl, small⟩ := single
      rw [string_byte small]
      exact .byte small
    · have large (byte : UInt8) (is : bytes = [byte]) : 0x80 ≤ byte.toNat :=
        Nat.le_of_not_lt fun small => single ⟨byte, is, small⟩
      rw [string_framed large]
      exact .framed large (framed_header 0x80 bytes)

/-- The form of a list is the one that is written. -/
theorem isList_iff {items : List Bytes} : IsList items whole ↔ whole = list items :=
  framed_iff

/-- The length of a frame around a number of bytes. -/
def framedLength (length : Nat) : Nat :=
  1 + (if length ≤ 55 then 0 else (minimal length).length) + length

/-- The length of what is framed depends on the length of the payload alone. -/
theorem Framed.length_eq (framed : Framed offset payload whole) :
    whole.length = framedLength payload.length := by
  unfold framedLength
  cases framed with
  | short small =>
      rw [if_pos small, List.length_cons]
      omega
  | long large size =>
      rw [if_neg (Nat.not_le.mpr large), List.length_cons, List.length_append, size.eq_minimal]
      omega

/-- More bytes make a longer frame, since neither the payload nor the length of its length gets
shorter. -/
theorem framedLength_lt {m n : Nat} (less : m < n) : framedLength m < framedLength n := by
  have bytes := length_minimal_mono (Nat.le_of_lt less)
  unfold framedLength
  split
  · split
    · omega
    · omega
  · next large =>
      rw [if_neg (by omega : ¬ n ≤ 55)]
      omega

/-- Frames of one length have payloads of one length, so that no payload can end before another
does. -/
theorem framedLength_inj {m n : Nat} (same : framedLength m = framedLength n) : m = n := by
  rcases Nat.lt_trichotomy m n with less | equal | greater
  · exact absurd same (Nat.ne_of_lt (framedLength_lt less))
  · exact equal
  · exact absurd same (Nat.ne_of_gt (framedLength_lt greater))

/-- A payload stands at the end of its frame. -/
theorem Framed.exists_front (framed : Framed offset payload whole) :
    ∃ front, whole = front ++ payload := by
  cases framed with
  | short => exact ⟨[_], rfl⟩
  | @long size _ _ => exact ⟨_ :: size, rfl⟩

/-- A frame holds one payload. -/
theorem Framed.inj (first : Framed offset payload whole) (second : Framed offset other whole) :
    payload = other := by
  have lengths := framedLength_inj (first.length_eq.symm.trans second.length_eq)
  obtain ⟨front, split⟩ := first.exists_front
  obtain ⟨otherFront, otherSplit⟩ := second.exists_front
  exact (List.append_inj' (split.symm.trans otherSplit) lengths).2

/-- A frame of one byte is empty, and the byte is no byte that stands for itself. -/
theorem Framed.le_byte {byte : UInt8} (framed : Framed 0x80 payload [byte]) :
    0x80 ≤ byte.toNat := by
  have empty : payload.length = 0 := framedLength_inj framed.length_eq.symm
  generalize single : [byte] = whole at framed
  cases framed with
  | short =>
      rw [List.cons_eq_cons.mp single |>.1, empty]
      exact Nat.le_refl 0x80
  | long large => exact absurd empty (Nat.ne_of_gt (Nat.lt_of_le_of_lt (Nat.zero_le 55) large))

/-- A form holds one byte string. Only a single byte needs a case of its own, as it may stand
without a frame. -/
theorem IsString.inj {first second : Bytes} (one : IsString first whole)
    (another : IsString second whole) : first = second := by
  cases one with
  | byte small =>
      cases another with
      | byte => rfl
      | framed _ framed => exact absurd framed.le_byte (Nat.not_le.mpr small)
  | framed _ framed =>
      cases another with
      | byte small => exact absurd framed.le_byte (Nat.not_le.mpr small)
      | framed _ other => exact framed.inj other

end Rlp

end ChainQuery
