import BuildHook.Proofs.Text.Utf8

/-!
# Reading encoded texts

The bytes of a text are read back as that text: the bytes of a character are its own front part,
whatever stands behind them.

## Main results

`front_encodeChar` is the step, `decode?_encodeChars` the whole text.
-/

namespace BuildHook.Utf8

/-- The bytes of a sequence of characters. -/
def encodeChars (cs : List Char) : Bytes := cs.flatMap encodeChar

@[simp] theorem encodeChars_nil : encodeChars [] = [] := rfl

theorem encodeChars_cons (c : Char) (cs : List Char) :
    encodeChars (c :: cs) = encodeChar c ++ encodeChars cs := rfl

@[simp] theorem encodeChars_append (cs ds : List Char) :
    encodeChars (cs ++ ds) = encodeChars cs ++ encodeChars ds := List.flatMap_append

theorem encode_eq (s : String) : encode s = encodeChars s.toList := rfl

/-- A leading byte, with a byte behind it that does not make an overlong form, a surrogate or a code
beyond the last one. -/
def Announces (lead next : UInt8) (payload more : Nat) : Prop :=
  ∃ l ∈ lead? lead, l.payload = payload ∧ l.more = more ∧ (l.low ≤ next && next ≤ l.high) = true

instance (lead next : UInt8) (payload more : Nat) : Decidable (Announces lead next payload more) :=
  inferInstanceAs (Decidable (∃ l ∈ lead? lead, _))

theorem announces_two : ∀ p < 32, 2 ≤ p → ∀ q < 64,
    Announces (UInt8.ofNat (p + 192)) (UInt8.ofNat (q + 128)) p 0 := by
  decide +kernel

theorem announces_three : ∀ p < 16, ∀ q < 64, (p = 0 → 32 ≤ q) → (p = 13 → q < 32) →
    Announces (UInt8.ofNat (p + 224)) (UInt8.ofNat (q + 128)) p 1 := by
  decide +kernel

theorem announces_four : ∀ p < 5, ∀ q < 64, (p = 0 → 16 ≤ q) → (p = 4 → q < 16) →
    Announces (UInt8.ofNat (p + 240)) (UInt8.ofNat (q + 128)) p 2 := by
  decide +kernel

theorem extend_ofNat (value : Nat) {q : Nat} (small : q < 64) :
    extend value (UInt8.ofNat (q + 128)) = value * 64 + q := by
  rw [extend, UInt8.toNat_ofNat']
  omega

theorem continuations_ofNat (n value : Nat) {q : Nat} (small : q < 64) (bs : Bytes) :
    continuations (n + 1) value (UInt8.ofNat (q + 128) :: bs)
      = continuations n (value * 64 + q) bs := by
  have continued : isContinuation (UInt8.ofNat (q + 128)) = true := by
    simp only [isContinuation, Bool.and_eq_true, decide_eq_true_iff, UInt8.le_iff_toNat_le,
      UInt8.toNat_ofNat']
    constructor
    · show 128 ≤ _
      omega
    · show _ ≤ 191
      omega
  rw [continuations, if_pos continued, extend_ofNat value small]

/-- A leading byte and the one behind it begin a longer character. -/
theorem front_of_announces {b : UInt8} {payload more q : Nat} (small : q < 64)
    (announces : Announces b (UInt8.ofNat (q + 128)) payload more) (bs : Bytes) :
    front b (UInt8.ofNat (q + 128) :: bs) = continuations more (payload * 64 + q) bs := by
  obtain ⟨l, found, rfl, rfl, range⟩ := announces
  have long : ¬ b < 0x80 := by
    intro ascii
    have low : b < 0xC2 := UInt8.lt_of_lt_of_le ascii (by decide)
    rw [lead?, if_pos low] at found
    cases found
  rw [front, if_neg long, found]
  simp only [range, if_true, extend_ofNat _ small]

/-- The code of a character is no surrogate and not beyond the last one. -/
theorem toNat_valid (c : Char) : c.toNat < 0xD800 ∨ 0xDFFF < c.toNat ∧ c.toNat < 0x110000 :=
  c.valid

/-- Outside of ASCII every byte of a character is at least 128. -/
theorem le_of_mem_encodeChar {c : Char} (high : 128 ≤ c.toNat) {b : UInt8}
    (mem : b ∈ encodeChar c) : 128 ≤ b.toNat := by
  have code : c.val.toNat = c.toNat := rfl
  simp only [encodeChar, String.utf8EncodeChar] at mem
  repeat' split at mem
  all_goals simp only [List.mem_cons, List.not_mem_nil, or_false] at mem
  · omega
  all_goals
    rcases mem with rfl | rfl | rfl | rfl <;> rw [UInt8.toNat_ofNat'] <;> omega

/-- The bytes of a character are read as this character. -/
theorem front_encodeChar (c : Char) (rest : Bytes) :
    ∃ b bs, encodeChar c ++ rest = b :: bs ∧ front b bs = .scalar c rest := by
  have valid := toNat_valid c
  have back : Char.ofNat c.toNat = c := Char.ofNat_toNat c
  simp only [encodeChar, String.utf8EncodeChar]
  rw [show c.val.toNat = c.toNat from rfl]
  generalize c.toNat = n at valid back
  subst back
  split
  · refine ⟨_, _, List.singleton_append, ?_⟩
    have code : (UInt8.ofNat n).toNat = n := by
      rw [UInt8.toNat_ofNat']
      omega
    rw [front_of_lt (UInt8.lt_iff_toNat_lt.mpr (by rw [code]; show n < 128; omega)), code]
  split
  · refine ⟨_, _, List.cons_append, ?_⟩
    have two := announces_two (n / 64 % 32) (by omega) (by omega) (n % 64) (by omega)
    rw [List.singleton_append, front_of_announces (by omega) two, continuations,
      show n / 64 % 32 * 64 + n % 64 = n by omega]
  split
  · refine ⟨_, _, List.cons_append, ?_⟩
    have three := announces_three (n / 4096 % 16) (by omega) (n / 64 % 64) (by omega) (by omega)
      (by omega)
    rw [List.cons_append, List.singleton_append, front_of_announces (by omega) three,
      continuations_ofNat 0 _ (by omega), continuations,
      show (n / 4096 % 16 * 64 + n / 64 % 64) * 64 + n % 64 = n by omega]
  · refine ⟨_, _, List.cons_append, ?_⟩
    have four := announces_four (n / 262144 % 8) (by omega) (n / 4096 % 64) (by omega) (by omega)
      (by omega)
    rw [List.cons_append, List.cons_append, List.singleton_append,
      front_of_announces (by omega) four, continuations_ofNat 1 _ (by omega),
      continuations_ofNat 0 _ (by omega), continuations,
      show ((n / 262144 % 8 * 64 + n / 4096 % 64) * 64 + n / 64 % 64) * 64 + n % 64 = n by omega]

theorem encodeChar_ne_nil (c : Char) : encodeChar c ≠ [] := by
  obtain ⟨b, bs, split, -⟩ := front_encodeChar c []
  rw [List.append_nil] at split
  rw [split]
  exact List.cons_ne_nil b bs

/-- There are at least as many bytes as characters. -/
theorem length_le_encodeChars (cs : List Char) : cs.length ≤ (encodeChars cs).length := by
  induction cs with
  | nil => exact Nat.le_refl 0
  | cons c cs ih =>
    have := List.length_pos_iff.mpr (encodeChar_ne_nil c)
    rw [encodeChars_cons, List.length_append, List.length_cons]
    omega

theorem decodeOnto?_cons (read : List Char) (b : UInt8) (bs : Bytes) :
    decodeOnto? read (b :: bs) = match front b bs with
      | .scalar c rest => decodeOnto? (c :: read) rest
      | .refused _ => none := by
  rw [decodeOnto?]
  split <;> simp_all

theorem decodeOnto?_encodeChars (read cs : List Char) :
    decodeOnto? read (encodeChars cs) = some (read.reverse ++ cs) := by
  induction cs generalizing read with
  | nil => rw [encodeChars_nil, decodeOnto?, List.append_nil]
  | cons c cs ih =>
    obtain ⟨b, bs, split, front⟩ := front_encodeChar c (encodeChars cs)
    rw [encodeChars_cons, split, decodeOnto?_cons, front]
    simp only [ih, List.reverse_cons, List.append_assoc, List.singleton_append]

/-- The bytes of a text are read as this text. -/
theorem decode?_encodeChars (cs : List Char) :
    decode? (encodeChars cs) = some (String.ofList cs) := by
  rw [decode?, decodeOnto?_encodeChars]
  rfl

theorem refusedFrom?_cons (passed : Nat) (b : UInt8) (bs : Bytes) :
    refusedFrom? passed (b :: bs) = match front b bs with
      | .scalar c rest => refusedFrom? (passed + c.utf8Size) rest
      | .refused _ => some passed := by
  rw [refusedFrom?]
  split <;> simp_all

/-- No part of the bytes of a text is refused. -/
theorem refusedAt?_encodeChars (cs : List Char) : refusedAt? (encodeChars cs) = none := by
  rw [refusedAt?]
  generalize 0 = passed
  induction cs generalizing passed with
  | nil => rw [encodeChars_nil, refusedFrom?]
  | cons c cs ih =>
    obtain ⟨b, bs, split, front⟩ := front_encodeChar c (encodeChars cs)
    rw [encodeChars_cons, split, refusedFrom?_cons, front]
    exact ih _

/-! ## The order of texts -/

/-- The bytes of a smaller character are smaller, whatever stands behind them. -/
theorem encodeChar_append_lt {c d : Char} (lt : c < d) (bytes bytes' : Bytes) :
    encodeChar c ++ bytes < encodeChar d ++ bytes' := by
  have valid := toNat_valid c
  have valid' := toNat_valid d
  have less : c.toNat < d.toNat := lt
  have two (k : Nat) : k / 4096 = k / 64 / 64 := by omega
  have three (k : Nat) : k / 262144 = k / 64 / 64 / 64 := by omega
  simp only [encodeChar, String.utf8EncodeChar]
  rw [show c.val.toNat = c.toNat from rfl, show d.val.toNat = d.toNat from rfl]
  generalize c.toNat = m at *
  generalize d.toNat = n at *
  simp only [two, three]
  -- the leading bytes differ unless both characters have the same number of bytes
  repeat' split
  all_goals
    simp only [List.cons_append, List.nil_append, List.cons_lt_cons_iff, UInt8.lt_iff_toNat_lt,
      ← UInt8.toNat_inj, UInt8.toNat_ofNat']
    omega

theorem encodeChars_lt {cs ds : List Char} (lt : cs < ds) : encodeChars cs < encodeChars ds := by
  induction cs generalizing ds with
  | nil =>
    cases ds with
    | nil => exact absurd lt (List.lt_irrefl [])
    | cons d ds =>
      obtain ⟨b, bs, split⟩ := List.exists_cons_of_ne_nil (encodeChar_ne_nil d)
      rw [encodeChars_cons, split]
      exact List.nil_lt_cons b _
  | cons c cs ih =>
    cases ds with
    | nil => exact absurd lt (List.not_lt_nil _)
    | cons d ds =>
      rw [encodeChars_cons, encodeChars_cons]
      rcases List.cons_lt_cons_iff.mp lt with first | ⟨rfl, later⟩
      · exact encodeChar_append_lt first _ _
      · exact List.append_left_lt (ih later)

/-- Texts and their bytes are in the same order. -/
theorem encode_lt {s t : String} (lt : s < t) : encode s < encode t :=
  encodeChars_lt (String.lt_iff.mp lt)

end BuildHook.Utf8
