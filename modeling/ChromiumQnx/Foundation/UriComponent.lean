import ChromiumQnx.Foundation.PercentCoding

/-!
# Decoding a URI component

`decodeURIComponent` is the function of ECMAScript, for a text of ASCII characters.  Where a percent
sign stands, it reads the triplets of one UTF-8 sequence, whose length follows from the first byte,
and fails unless their bytes are the encoding of a character; any other character stands for itself.

Applied to bytes of which each is encoded as a triplet, it succeeds exactly when they are UTF-8, and
then gives the text they encode.
-/

namespace UriComponent

open PercentCoding

/-! ## The function -/

/-- The bytes of a text in UTF-8. -/
def utf8 (text : List Char) : List UInt8 := text.flatMap String.utf8EncodeChar

/-- The length of a UTF-8 sequence, from the leading ones of its first byte. -/
def sequenceLength (b : UInt8) : Option ℕ :=
  if b &&& 0x80 = 0 then some 1
  else if b &&& 0xe0 = 0xc0 then some 2
  else if b &&& 0xf0 = 0xe0 then some 3
  else if b &&& 0xf8 = 0xf0 then some 4
  else none

/-- The byte of the triplet that a text begins with, and what follows it. -/
def takeTriplet : List UInt8 → Option (UInt8 × List UInt8)
  | p :: a :: b :: rest => (tripletValue p a b).map fun v => (v, rest)
  | _ => none

/-- The bytes of a number of triplets, and what follows them. -/
def takeOctets : ℕ → List UInt8 → Option (List UInt8 × List UInt8)
  | 0, text => some ([], text)
  | n + 1, text =>
    (takeTriplet text).bind fun (v, rest) =>
      (takeOctets n rest).map fun (octets, rest) => (v :: octets, rest)

/-- The character whose encoding the bytes are. -/
def decodeOctets (octets : List UInt8) : Option Char :=
  (octets.toByteArray.utf8DecodeChar? 0).filter fun c => String.utf8EncodeChar c = octets

/-- The character that a text with a percent sign in front begins with, and what follows it. -/
def takeChar (text : List UInt8) : Option (Char × List UInt8) :=
  (takeTriplet text).bind fun (b, _) =>
    (sequenceLength b).bind fun n =>
      (takeOctets n text).bind fun (octets, rest) =>
        (decodeOctets octets).map fun c => (c, rest)

/-- The loop of `decodeURIComponent`, for a number of characters at most. -/
def decodeLoop : ℕ → List UInt8 → Option (List Char)
  | _, [] => some []
  | 0, _ :: _ => none
  | rounds + 1, c :: rest =>
    if c = 37 then
      (takeChar (c :: rest)).bind fun (char, rest) => (decodeLoop rounds rest).map (char :: ·)
    else (decodeLoop rounds rest).map (Char.ofNat c.toNat :: ·)

/-- `decodeURIComponent`. -/
def decodeURIComponent (text : List UInt8) : Option (List Char) := decodeLoop text.length text

/-! ## UTF-8 -/

/-- The first byte of an encoding tells its length. -/
lemma sequenceLength_utf8EncodeChar (c : Char) :
    ∃ b rest, String.utf8EncodeChar c = b :: rest ∧ sequenceLength b = some (rest.length + 1) := by
  have hone : ∀ b : UInt8, b.toNat < 128 → sequenceLength b = some 1 :=
    forall_byte (by decide +kernel)
  have htwo : ∀ b : UInt8, sequenceLength (b &&& 0x1f ||| 0xc0) = some 2 :=
    forall_byte (by decide +kernel)
  have hthree : ∀ b : UInt8, sequenceLength (b &&& 0x0f ||| 0xe0) = some 3 :=
    forall_byte (by decide +kernel)
  have hfour : ∀ b : UInt8, sequenceLength (b &&& 0x07 ||| 0xf0) = some 4 :=
    forall_byte (by decide +kernel)
  rcases Char.utf8Size_eq c with h | h | h | h
  · have hle : c.val ≤ 127 := Char.utf8Size_eq_one_iff.mp h
    refine ⟨_, _, String.utf8EncodeChar_eq_singleton h, hone _ ?_⟩
    rw [UInt32.le_iff_toNat_le] at hle
    rw [UInt32.toNat_toUInt8]
    exact Nat.lt_of_le_of_lt (Nat.mod_le _ _) (Nat.lt_succ_of_le hle)
  · exact ⟨_, _, String.utf8EncodeChar_eq_cons_cons h, htwo _⟩
  · exact ⟨_, _, String.utf8EncodeChar_eq_cons_cons_cons h, hthree _⟩
  · exact ⟨_, _, String.utf8EncodeChar_eq_cons_cons_cons_cons h, hfour _⟩

lemma decodeOctets_eq_some_iff {octets : List UInt8} {c : Char} :
    decodeOctets octets = some c ↔ String.utf8EncodeChar c = octets := by
  unfold decodeOctets
  rw [Option.filter_eq_some_iff, decide_eq_true_eq]
  constructor
  · exact And.right
  · rintro rfl
    refine ⟨?_, rfl⟩
    have h := ByteArray.utf8DecodeChar?_utf8EncodeChar_append (b := ByteArray.empty) (c := c)
    rwa [ByteArray.append_empty] at h

/-! ## Encoded bytes -/

lemma takeTriplet_percentEncode (b : UInt8) (bytes : List UInt8) :
    takeTriplet (percentEncode (b :: bytes)) = some (b, percentEncode bytes) := by
  rw [percentEncode_cons, takeTriplet, tripletValue_triplet]
  rfl

lemma takeOctets_percentEncode {n : ℕ} {bytes : List UInt8} :
    takeOctets n (percentEncode bytes) =
      if n ≤ bytes.length then some (bytes.take n, percentEncode (bytes.drop n)) else none := by
  induction n generalizing bytes with
  | zero => rfl
  | succ n ih =>
    cases bytes with
    | nil => rfl
    | cons b bytes =>
      rw [takeOctets, takeTriplet_percentEncode, Option.bind_some]
      dsimp only
      rw [ih]
      have hle : n + 1 ≤ (b :: bytes).length ↔ n ≤ bytes.length := Nat.succ_le_succ_iff
      by_cases h : n ≤ bytes.length
      · rw [if_pos h, if_pos (hle.mpr h)]
        rfl
      · rw [if_neg h, if_neg (mt hle.mp h)]
        rfl

/-- A character is read off encoded bytes exactly when its encoding stands in front. -/
lemma takeChar_percentEncode_iff {b : UInt8} {bytes : List UInt8} {c : Char} {rest : List UInt8} :
    takeChar (percentEncode (b :: bytes)) = some (c, rest) ↔
      ∃ left, b :: bytes = String.utf8EncodeChar c ++ left ∧ rest = percentEncode left := by
  unfold takeChar
  rw [takeTriplet_percentEncode, Option.bind_some]
  dsimp only
  constructor
  · intro h
    obtain ⟨n, -, h⟩ := Option.bind_eq_some_iff.mp h
    obtain ⟨⟨octets, left⟩, htake, h⟩ := Option.bind_eq_some_iff.mp h
    obtain ⟨c', hdecode, heq⟩ := Option.map_eq_some_iff.mp h
    cases heq
    rw [takeOctets_percentEncode] at htake
    obtain ⟨-, htake⟩ := Option.ite_none_right_eq_some.mp htake
    cases htake
    refine ⟨(b :: bytes).drop n, ?_, rfl⟩
    rw [decodeOctets_eq_some_iff.mp hdecode, List.take_append_drop]
  · rintro ⟨left, hbytes, rfl⟩
    obtain ⟨b', tail, hencode, hlength⟩ := sequenceLength_utf8EncodeChar c
    have hb : b = b' := by
      rw [hencode, List.cons_append] at hbytes
      exact (List.cons.inj hbytes).1
    have hlen : (String.utf8EncodeChar c).length = tail.length + 1 := by
      rw [hencode, List.length_cons]
    have hle : tail.length + 1 ≤ (b :: bytes).length := by
      rw [hbytes, List.length_append]
      omega
    rw [hb, hlength, Option.bind_some, ← hb, takeOctets_percentEncode, if_pos hle, Option.bind_some]
    dsimp only
    rw [hbytes, List.take_left' hlen, List.drop_left' hlen, decodeOctets_eq_some_iff.mpr rfl]
    rfl

/-- No character is encoded in no bytes. -/
lemma decodeLoop_nil_iff {rounds : ℕ} {text : List Char} :
    decodeLoop rounds (percentEncode []) = some text ↔ utf8 text = [] := by
  have hnil : decodeLoop rounds (percentEncode []) = some [] := by cases rounds <;> rfl
  rw [hnil]
  cases text with
  | nil => exact iff_of_true rfl rfl
  | cons c text =>
    refine iff_of_false nofun fun h => ?_
    have hempty := (List.append_eq_nil_iff.mp h).1
    have hpos := Char.utf8Size_pos c
    rw [← String.length_utf8EncodeChar, hempty] at hpos
    exact absurd hpos (Nat.lt_irrefl 0)

/-- The loop reads off one character after the other. -/
lemma decodeLoop_percentEncode_iff {rounds : ℕ} {bytes : List UInt8} {text : List Char}
    (hrounds : (percentEncode bytes).length ≤ rounds) :
    decodeLoop rounds (percentEncode bytes) = some text ↔ utf8 text = bytes := by
  have hcons : ∀ c text, utf8 (c :: text) = String.utf8EncodeChar c ++ utf8 text := fun _ _ => rfl
  induction rounds generalizing bytes text with
  | zero =>
    rw [length_percentEncode] at hrounds
    obtain rfl : bytes = [] := List.eq_nil_of_length_eq_zero (by omega)
    exact decodeLoop_nil_iff
  | succ rounds ih =>
    cases bytes with
    | nil => exact decodeLoop_nil_iff
    | cons b bytes =>
      have hleft : ∀ c left, b :: bytes = String.utf8EncodeChar c ++ left →
          (percentEncode left).length ≤ rounds := by
        intro c left h
        have hlen := congrArg List.length h
        have hpos := Char.utf8Size_pos c
        rw [List.length_append, String.length_utf8EncodeChar] at hlen
        rw [length_percentEncode] at hrounds ⊢
        omega
      have hloop : decodeLoop (rounds + 1) (percentEncode (b :: bytes)) =
          (takeChar (percentEncode (b :: bytes))).bind fun (char, rest) =>
            (decodeLoop rounds rest).map (char :: ·) := by
        rw [percentEncode_cons, decodeLoop, if_pos rfl]
      rw [hloop]
      constructor
      · intro h
        obtain ⟨⟨c, rest⟩, htake, h⟩ := Option.bind_eq_some_iff.mp h
        obtain ⟨tail, htail, rfl⟩ := Option.map_eq_some_iff.mp h
        obtain ⟨left, hbytes, rfl⟩ := takeChar_percentEncode_iff.mp htake
        rw [hcons, (ih (hleft c left hbytes)).mp htail, hbytes]
      · intro h
        cases text with
        | nil => cases h
        | cons c tail =>
          have hbytes : b :: bytes = String.utf8EncodeChar c ++ utf8 tail := h.symm
          rw [takeChar_percentEncode_iff.mpr ⟨utf8 tail, hbytes, rfl⟩, Option.bind_some]
          dsimp only
          rw [(ih (hleft c _ hbytes)).mpr rfl]
          rfl

/-- **Decoding encoded bytes.**  It gives a text exactly when the bytes are the text in UTF-8. -/
theorem decodeURIComponent_percentEncode_iff {bytes : List UInt8} {text : List Char} :
    decodeURIComponent (percentEncode bytes) = some text ↔ utf8 text = bytes :=
  decodeLoop_percentEncode_iff (Nat.le_refl _)

end UriComponent
