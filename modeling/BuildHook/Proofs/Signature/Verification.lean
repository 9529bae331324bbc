import BuildHook.Proofs.Text.Hex
import BuildHook.Signature
import Mathlib.Data.List.Basic

/-!
# Which signatures are accepted

A header value is the signature of a body if it is the label and then the keyed digest of the body,
spelled in digits of either case. Everything else is refused, in whatever way it differs.

## Main results

`verify_acceptance` says exactly which header values are accepted, and lists what spoils one.
-/

namespace BuildHook.Signature

open Hex (IsDigit Spells lowered)

/-- The bytes of a text in which one bit of one byte is changed. -/
def flipped (bytes : Bytes) (place : Nat) (bit : Nat) : Bytes :=
  bytes.modify place (· ^^^ 1 <<< UInt8.ofNat bit)

/-- Ways in which a header value fails to be the signature of a body. -/
inductive Spoiled (secret body : Bytes) : Bytes → Prop
  | changed {place bit : Nat} {digits : Bytes} (inside : place < 32) (small : bit < 8)
      (spelled : Spells digits (flipped (Hmac.digest secret body) place bit)) :
      Spoiled secret body (Utf8.encode "sha256=" ++ digits)
  | misfit {digits : Bytes} (length : digits.length ≠ 64) :
      Spoiled secret body (Utf8.encode "sha256=" ++ digits)
  | odd {digits : Bytes} (length : digits.length % 2 = 1) :
      Spoiled secret body (Utf8.encode "sha256=" ++ digits)
  | foreign {digits : Bytes} {b : UInt8} (mem : b ∈ digits) (other : ¬ IsDigit b) :
      Spoiled secret body (Utf8.encode "sha256=" ++ digits)
  | unlabelled {header : Bytes} (missing : ¬ Utf8.encode "sha256=" <+: header) :
      Spoiled secret body header
  | surrounded {before header after : Bytes} (accepted : verify secret body header = true)
      (around : before ≠ [] ∨ after ≠ []) : Spoiled secret body (before ++ header ++ after)

variable {secret body header digits : Bytes}

/-- The reader finds the digits of a digest behind the label. -/
theorem verify_iff :
    verify secret body header = true
      ↔ ∃ digits, header = Utf8.encode "sha256=" ++ digits
        ∧ Spells digits (Hmac.digest secret body) := by
  simp only [verify, claimed?, label, beq_iff_eq, Option.bind_eq_bind, Option.bind_eq_some_iff,
    List.isPrefixOf?_eq_some_iff_append_eq, Hex.decode?_eq_some_iff, eq_comm (a := header)]

theorem verify_label_iff :
    verify secret body (Utf8.encode "sha256=" ++ digits) = true
      ↔ Spells digits (Hmac.digest secret body) := by
  rw [verify_iff]
  constructor
  · rintro ⟨digits', same, spelled⟩
    rwa [List.append_cancel_left same]
  · exact fun spelled => ⟨digits, rfl, spelled⟩

theorem encode_sign (secret body : Bytes) :
    Utf8.encode (sign secret body)
      = Utf8.encode "sha256=" ++ Utf8.encode (Hex.encode (Hmac.digest secret body)) := by
  simp only [sign, label, Utf8.encode_eq, String.toList_append, Utf8.encodeChars_append]

theorem verify_sign (secret body : Bytes) :
    verify secret body (Utf8.encode (sign secret body)) = true := by
  rw [encode_sign, verify_label_iff]
  exact Hex.spells_encode _

/-- The digits of a signature are those of thirty-two bytes. -/
theorem length_of_spells (spelled : Spells digits (Hmac.digest secret body)) :
    digits.length = 64 := by
  rw [spelled.length_eq, Hmac.digest_length]

theorem length_of_verify (accepted : verify secret body header = true) : header.length = 71 := by
  obtain ⟨digits, rfl, spelled⟩ := verify_iff.mp accepted
  rw [List.length_append, length_of_spells spelled]
  rfl

theorem flipped_ne {bytes : Bytes} {place bit : Nat} (inside : place < bytes.length)
    (small : bit < 8) : flipped bytes place bit ≠ bytes := by
  intro same
  have mask : ∀ bit < 8, (1 <<< UInt8.ofNat bit : UInt8) ≠ 0 := by decide
  have here := congrArg (·[place]?) same
  simp only [flipped, List.getElem?_modify_eq, List.getElem?_eq_getElem inside, Option.map_eq_map,
    Option.map_some, Option.some.injEq] at here
  exact mask bit small ((UInt8.xor_right_inj bytes[place]).mp (here.trans UInt8.xor_zero.symm))

/-- A spoiled signature is refused. -/
theorem Spoiled.refused (spoiled : Spoiled secret body header) :
    verify secret body header = false := by
  rw [← Bool.not_eq_true]
  intro accepted
  cases spoiled with
  | changed inside small spelled =>
    have same := spelled.unique (verify_label_iff.mp accepted)
    exact flipped_ne (by rwa [Hmac.digest_length]) small same
  | misfit length => exact length (length_of_spells (verify_label_iff.mp accepted))
  | odd length =>
    have even := length_of_spells (verify_label_iff.mp accepted)
    omega
  | foreign mem other => exact other ((verify_label_iff.mp accepted).isDigit _ mem)
  | unlabelled missing =>
    obtain ⟨digits, rfl, -⟩ := verify_iff.mp accepted
    exact missing (List.prefix_append _ _)
  | @surrounded before inner after accepted' around =>
    have whole := length_of_verify accepted
    have part := length_of_verify accepted'
    simp only [List.length_append] at whole
    rcases around with front | back
    · exact front (List.length_eq_zero_iff.mp (by omega))
    · exact back (List.length_eq_zero_iff.mp (by omega))

/-- A header value is accepted exactly if it is the label and then sixty-four hexadecimal digits, in
any mixture of cases, that spell the keyed digest of the body. So what is signed is accepted, all
accepted values are the same in lower case, and a spoiled one is refused. -/
theorem verify_acceptance (secret body : Bytes) :
    (∀ header, verify secret body header = true
      ↔ ∃ digits, header = Utf8.encode "sha256=" ++ digits ∧ digits.length = 64
        ∧ (∀ b ∈ digits, IsDigit b) ∧ Spells digits (Hmac.digest secret body))
    ∧ verify secret body (Utf8.encode (sign secret body)) = true
    ∧ (∀ digits, verify secret body (Utf8.encode "sha256=" ++ digits) = true →
      Utf8.encode "sha256=" ++ digits.map lowered = Utf8.encode (sign secret body))
    ∧ ∀ header, Spoiled secret body header → verify secret body header = false := by
  refine ⟨fun header => ?_, verify_sign secret body, fun digits accepted => ?_,
    fun header spoiled => spoiled.refused⟩
  · rw [verify_iff]
    constructor
    · rintro ⟨digits, same, spelled⟩
      exact ⟨digits, same, length_of_spells spelled, spelled.isDigit, spelled⟩
    · rintro ⟨digits, same, -, -, spelled⟩
      exact ⟨digits, same, spelled⟩
  · rw [encode_sign, (verify_label_iff.mp accepted).lowered]

end BuildHook.Signature
