import ChromiumQnx.Foundation.PercentCoding
import ChromiumQnx.Foundation.StringSearch

/-!
# Data URLs

A program that shows `data:` URLs leaves their decoding to a URL parser and to a decoder, which are
taken together here as a `Parser`.  `Parser.ReadsDataUrls` is what the standard says of them:
control characters and spaces at both ends of the text, tabs, line breaks and the fragment do not
belong to the URL; up to the first comma stands the media type, and behind it the data,
percent-encoded, and in base64 if the media type says so; a URL without a comma and malformed base64
have no data.  Which media types say so is the parser's own affair.

`Parser.ReadsDataUrls.parse_getD_eq_raw_iff` tells when the text behind the first comma is the data,
and `Parser.ReadsDataUrls.parse_getD_eq_nil_iff` when there is no data.  `standardParser` is a
parser that does what the standard says.
-/

namespace DataUrl

open PercentCoding StringSearch

/-! ## Base64 -/

def isAsciiWhitespace (c : UInt8) : Bool := c = 9 || c = 10 || c = 12 || c = 13 || c = 32

/-- The value of a character of the base64 alphabet. -/
def base64Value (c : UInt8) : Option ℕ :=
  if 65 ≤ c ∧ c ≤ 90 then some (c.toNat - 65)
  else if 97 ≤ c ∧ c ≤ 122 then some (c.toNat - 71)
  else if 48 ≤ c ∧ c ≤ 57 then some (c.toNat + 4)
  else if c = 43 then some 62
  else if c = 47 then some 63
  else none

/-- The bytes of groups of four values, the last of which may be short. -/
def base64Bytes : List ℕ → List UInt8
  | a :: b :: c :: d :: rest =>
    (4 * a + b / 16).toUInt8 :: (16 * (b % 16) + c / 4).toUInt8 :: (64 * (c % 4) + d).toUInt8 ::
      base64Bytes rest
  | [a, b, c] => [(4 * a + b / 16).toUInt8, (16 * (b % 16) + c / 4).toUInt8]
  | [a, b] => [(4 * a + b / 16).toUInt8]
  | _ => []

/-- A text without an equals sign at its end. -/
def dropEquals (text : List UInt8) : List UInt8 :=
  if text.getLast? = some 61 then text.dropLast else text

/-- Padding is one or two equals signs at the end of a text of full groups. -/
def dropPadding (text : List UInt8) : List UInt8 :=
  if text.length % 4 = 0 then dropEquals (dropEquals text) else text

/-- The digits of a base64 text: white space and padding do not matter. -/
def base64Digits (text : List UInt8) : List UInt8 :=
  dropPadding (text.filter fun c => !isAsciiWhitespace c)

/-- The digits are of the alphabet, and none is left over. -/
structure WellFormedBase64 (text : List UInt8) : Prop where
  length_mod : (base64Digits text).length % 4 ≠ 1
  isSome_value : ∀ c ∈ base64Digits text, (base64Value c).isSome

/-- Forgiving base64 decoding. -/
def forgivingBase64 (text : List UInt8) : Option (List UInt8) :=
  if (base64Digits text).length % 4 = 1 then none
  else ((base64Digits text).mapM base64Value).map base64Bytes

/-- Four digits are three bytes. -/
lemma length_base64Bytes (values : List ℕ) :
    (base64Bytes values).length = values.length * 3 / 4 := by
  fun_induction base64Bytes values with
  | case1 a b c d rest ih =>
    simp only [List.length_cons, ih]
    omega
  | case2 a b c => simp
  | case3 a b => simp
  | case4 values hgroup hthree htwo =>
    match values with
    | [] => simp
    | [a] => simp
    | [a, b] => exact absurd rfl (htwo a b)
    | [a, b, c] => exact absurd rfl (hthree a b c)
    | a :: b :: c :: d :: rest => exact absurd rfl (hgroup a b c d rest)

lemma length_of_mapM_eq_some {text : List UInt8} {values : List ℕ}
    (h : text.mapM base64Value = some values) : values.length = text.length := by
  induction text generalizing values with
  | nil =>
    cases h
    rfl
  | cons c text ih =>
    rw [List.mapM_cons] at h
    obtain ⟨v, -, h⟩ := Option.bind_eq_some_iff.mp h
    obtain ⟨rest, hrest, h⟩ := Option.bind_eq_some_iff.mp h
    cases h
    rw [List.length_cons, List.length_cons, ih hrest]

lemma isSome_mapM_iff {text : List UInt8} :
    (text.mapM base64Value).isSome ↔ ∀ c ∈ text, (base64Value c).isSome := by
  induction text with
  | nil => simp
  | cons c text ih =>
    rw [List.mapM_cons, List.forall_mem_cons, ← ih]
    cases base64Value c with
    | none => simp
    | some v => cases text.mapM base64Value <;> simp

lemma isSome_forgivingBase64_iff {text : List UInt8} :
    (forgivingBase64 text).isSome ↔ WellFormedBase64 text := by
  unfold forgivingBase64
  split
  · rename_i hmod
    exact iff_of_false nofun fun h => h.length_mod hmod
  · rename_i hmod
    rw [Option.isSome_map, isSome_mapM_iff]
    exact ⟨fun h => ⟨hmod, h⟩, fun h => h.isSome_value⟩

lemma length_forgivingBase64 {text data : List UInt8} (h : forgivingBase64 text = some data) :
    data.length = (base64Digits text).length * 3 / 4 := by
  unfold forgivingBase64 at h
  split at h
  · cases h
  · obtain ⟨values, hvalues, rfl⟩ := Option.map_eq_some_iff.mp h
    rw [length_base64Bytes, length_of_mapM_eq_some hvalues]

lemma length_dropPadding_le (text : List UInt8) : (dropPadding text).length ≤ text.length := by
  have hequals : ∀ t : List UInt8, (dropEquals t).length ≤ t.length := by
    intro t
    unfold dropEquals
    split
    · exact (List.dropLast_prefix t).length_le
    · exact Nat.le_refl _
  unfold dropPadding
  split
  · exact Nat.le_trans (hequals _) (hequals _)
  · exact Nat.le_refl _

lemma length_base64Digits_le (text : List UInt8) : (base64Digits text).length ≤ text.length :=
  Nat.le_trans (length_dropPadding_le _) (List.length_filter_le _ _)

/-! ## The parts of a URL -/

def isC0ControlOrSpace (c : UInt8) : Bool := decide (c ≤ 32)

def isTabOrNewline (c : UInt8) : Bool := c = 9 || c = 10 || c = 13

def toLowerAscii (c : UInt8) : UInt8 := if 65 ≤ c ∧ c ≤ 90 then c + 32 else c

/-- `data:`. -/
def dataScheme : List UInt8 := [100, 97, 116, 97, 58]

/-- What the URL parser takes of a text. -/
def strip (text : List UInt8) : List UInt8 :=
  ((text.dropWhile isC0ControlOrSpace).rdropWhile isC0ControlOrSpace).filter
    fun c => !isTabOrNewline c

/-- The text is a URL with the scheme `data`. -/
def isDataUrl (text : List UInt8) : Bool := ((strip text).take 5).map toLowerAscii = dataScheme

/-- The URL behind its scheme, without its fragment. -/
def content (text : List UInt8) : List UInt8 := ((strip text).drop 5).takeWhile (· ≠ 35)

lemma mem_of_mem_content {text : List UInt8} {c : UInt8} (h : c ∈ content text) : c ∈ text := by
  have hstrip := List.mem_of_mem_drop ((List.takeWhile_prefix _).subset h)
  exact (List.dropWhile_suffix _).subset
    ((List.rdropWhile_prefix _ _).subset (List.mem_filter.mp hstrip).1)

/-! ## Parsers -/

/-- A parser of data URLs. -/
structure Parser where
  /-- Whether a text is a URL with the scheme `data`. -/
  isDataUrl : List UInt8 → Bool
  /-- Whether a media type says that the data is in base64. -/
  isBase64 : List UInt8 → Bool
  /-- The data of a base64 text, unless it is malformed. -/
  decodeBase64 : List UInt8 → Option (List UInt8)
  /-- The data of a URL, unless it has none. -/
  parse : List UInt8 → Option (List UInt8)

/-- **What the standard says of a parser.** -/
structure Parser.ReadsDataUrls (p : Parser) : Prop where
  parse_no_comma {text : List UInt8} : p.isDataUrl text = true → 44 ∉ content text →
    p.parse text = none
  parse_plain {text m encoded : List UInt8} : p.isDataUrl text = true →
    content text = m ++ 44 :: encoded → 44 ∉ m → p.isBase64 m = false →
      p.parse text = some (percentDecode encoded)
  parse_base64 {text m encoded : List UInt8} : p.isDataUrl text = true →
    content text = m ++ 44 :: encoded → 44 ∉ m → p.isBase64 m = true →
      p.parse text = p.decodeBase64 (percentDecode encoded)
  isSome_decodeBase64 {text : List UInt8} : (p.decodeBase64 text).isSome ↔ WellFormedBase64 text
  length_decodeBase64 {text data : List UInt8} : p.decodeBase64 text = some data →
    data.length = (base64Digits text).length * 3 / 4

/-- A URL without data: it has no comma in front of its fragment, or nothing stands behind the
comma, or base64 that is malformed or has no digits. -/
def Parser.HasNoData (p : Parser) (text : List UInt8) : Prop :=
  ∀ m encoded, content text = m ++ 44 :: encoded → 44 ∉ m →
    if p.isBase64 m then
      ¬ WellFormedBase64 (percentDecode encoded) ∨ base64Digits (percentDecode encoded) = []
    else encoded = []

/-- The media type ends in a semicolon, spaces and `base64`, in any case. -/
def isBase64 (mediaType : List UInt8) : Bool :=
  let reversed := (mediaType.reverse.dropWhile (· = 32)).map toLowerAscii
  reversed.take 6 = [52, 54, 101, 115, 97, 98] &&
    ((reversed.drop 6).dropWhile (· = 32)).head? = some 59

/-- The data of a URL, from its media type and the text behind the comma. -/
def decodeBody (mediaType encoded : List UInt8) : Option (List UInt8) :=
  if isBase64 mediaType then forgivingBase64 (percentDecode encoded)
  else some (percentDecode encoded)

/-- The data of a URL, unless it has no comma or its base64 is malformed. -/
def decode (text : List UInt8) : Option (List UInt8) :=
  match (content text).dropWhile (· ≠ 44) with
  | [] => none
  | _ :: encoded => decodeBody ((content text).takeWhile (· ≠ 44)) encoded

/-- A parser that does what the standard says. -/
def standardParser : Parser where
  isDataUrl := isDataUrl
  isBase64 := isBase64
  decodeBase64 := forgivingBase64
  parse := decode

lemma decode_of_content {text m encoded : List UInt8} (h : content text = m ++ 44 :: encoded)
    (hm : 44 ∉ m) : decode text = decodeBody m encoded := by
  unfold decode
  rw [h, dropWhile_ne_append_cons hm, takeWhile_ne_append_cons, takeWhile_ne_eq_self hm]

lemma standardParser_readsDataUrls : standardParser.ReadsDataUrls where
  parse_no_comma {text} _ h := by
    change decode text = none
    rw [decode, dropWhile_ne_eq_nil h]
  parse_plain _ h hm hbase64 :=
    (decode_of_content h hm).trans (if_neg (Bool.not_eq_true _ ▸ hbase64))
  parse_base64 _ h hm hbase64 := (decode_of_content h hm).trans (if_pos hbase64)
  isSome_decodeBase64 := isSome_forgivingBase64_iff
  length_decodeBase64 := length_forgivingBase64

/-! ## The text behind the comma -/

/-- What is left of the text behind the comma, before it is decoded. -/
def encodedBody (raw : List UInt8) : List UInt8 :=
  ((raw.rdropWhile isC0ControlOrSpace).filter fun c => !isTabOrNewline c).takeWhile (· ≠ 35)

/-- A text that encodes itself: no fragment, nothing that the URL parser removes, no triplet. -/
structure IsPlain (raw : List UInt8) : Prop where
  no_fragment : 35 ∉ raw
  no_newline : ∀ c ∈ raw, isTabOrNewline c = false
  no_space_at_end : ∀ h : raw ≠ [], isC0ControlOrSpace (raw.getLast h) = false
  no_triplet : hasTriplet raw = false

/-- A URL with its scheme in front, stripped. -/
lemma strip_data (m r : List UInt8) :
    strip (dataScheme ++ m ++ 44 :: r) =
      dataScheme ++ m.filter (fun c => !isTabOrNewline c) ++
        44 :: (r.rdropWhile isC0ControlOrSpace).filter fun c => !isTabOrNewline c := by
  have hdrop : (dataScheme ++ m ++ 44 :: r).dropWhile isC0ControlOrSpace =
      dataScheme ++ m ++ 44 :: r := rfl
  unfold strip
  rw [hdrop, rdropWhile_append_cons (by decide), List.filter_append, List.filter_append,
    List.filter_cons_of_pos (by decide)]
  rfl

/-- What the URL parser keeps of a URL with its scheme in front. -/
lemma content_data (m r : List UInt8) :
    content (dataScheme ++ m ++ 44 :: r) =
      (m.filter (fun c => !isTabOrNewline c) ++
        44 :: (r.rdropWhile isC0ControlOrSpace).filter fun c => !isTabOrNewline c).takeWhile
          (· ≠ 35) := by
  unfold content
  rw [strip_data, List.append_assoc]
  rfl

/-- The media type and the text behind the comma, unless the fragment begins before. -/
lemma content_data_of_notMem {m : List UInt8} (hm : 35 ∉ m) (r : List UInt8) :
    content (dataScheme ++ m ++ 44 :: r) =
      m.filter (fun c => !isTabOrNewline c) ++ 44 :: encodedBody r := by
  have hkeep : ∀ c ∈ m.filter (fun c => !isTabOrNewline c), decide (c ≠ 35) = true := by
    intro c hc
    exact decide_eq_true fun h => hm (h ▸ (List.mem_filter.mp hc).1)
  rw [content_data, List.takeWhile_append_of_pos hkeep, List.takeWhile_cons_of_pos (by decide)]
  rfl

/-- A fragment that begins before the first comma leaves no comma. -/
lemma notMem_content_data {m : List UInt8} (hm : 44 ∉ m) (hfragment : 35 ∈ m) (r : List UInt8) :
    44 ∉ content (dataScheme ++ m ++ 44 :: r) := by
  have hmem : 35 ∈ m.filter fun c => !isTabOrNewline c :=
    List.mem_filter.mpr ⟨hfragment, by decide⟩
  have hstop : ((m.filter fun c => !isTabOrNewline c).takeWhile (· ≠ 35)).length ≠
      (m.filter fun c => !isTabOrNewline c).length := by
    intro h
    have hself := (List.takeWhile_prefix _).eq_of_length h
    exact absurd (List.takeWhile_eq_self_iff.mp hself 35 hmem) (by decide)
  rw [content_data, List.takeWhile_append, if_neg hstop]
  exact fun h => hm (List.mem_filter.mp ((List.takeWhile_prefix _).subset h)).1

/-- A text is its own data, not in base64, exactly when it encodes itself. -/
lemma percentDecode_encodedBody_eq_iff {raw : List UInt8} :
    percentDecode (encodedBody raw) = raw ↔ IsPlain raw := by
  have hstrip := List.rdropWhile_prefix isC0ControlOrSpace (l := raw)
  constructor
  · intro h
    -- every step may only shorten the text, so none of them does
    have hdecode := (length_percentDecode (encodedBody raw)).1
    have htake : (encodedBody raw).length ≤
        ((raw.rdropWhile isC0ControlOrSpace).filter fun c => !isTabOrNewline c).length :=
      (List.takeWhile_prefix _).length_le
    have hfilter : ((raw.rdropWhile isC0ControlOrSpace).filter
        fun c => !isTabOrNewline c).length ≤ (raw.rdropWhile isC0ControlOrSpace).length :=
      List.length_filter_le _ _
    have hdrop := hstrip.length_le
    have hlen := congrArg List.length h
    have hraw : raw.rdropWhile isC0ControlOrSpace = raw := hstrip.eq_of_length (by omega)
    have hnewline : raw.filter (fun c => !isTabOrNewline c) = raw := by
      rw [hraw] at hfilter htake
      exact List.filter_sublist.eq_of_length (by omega)
    have hbody : encodedBody raw = raw.takeWhile (· ≠ 35) := by
      rw [encodedBody, hraw, hnewline]
    have hwhole : raw.length ≤ (raw.takeWhile (· ≠ 35)).length := by
      rw [← hbody]
      omega
    have hfragment : raw.takeWhile (· ≠ 35) = raw :=
      (List.takeWhile_prefix _).eq_of_length_le hwhole
    rw [hbody, hfragment] at hlen
    refine ⟨fun hmem => ?_, fun c hc => ?_, fun hne => ?_, length_percentDecode_eq_iff.mp hlen⟩
    · exact absurd (List.takeWhile_eq_self_iff.mp hfragment 35 hmem) (by decide)
    · exact Bool.not_eq_eq_eq_not.mp (List.filter_eq_self.mp hnewline c hc)
    · exact Bool.not_eq_true _ ▸ List.rdropWhile_eq_self_iff.mp hraw hne
  · intro h
    have hraw : raw.rdropWhile isC0ControlOrSpace = raw :=
      List.rdropWhile_eq_self_iff.mpr fun hne => by rw [h.no_space_at_end hne]; exact nofun
    have hnewline : raw.filter (fun c => !isTabOrNewline c) = raw :=
      List.filter_eq_self.mpr fun c hc => by rw [h.no_newline c hc]; rfl
    rw [encodedBody, hraw, hnewline, takeWhile_ne_eq_self h.no_fragment,
      percentDecode_of_not_hasTriplet h.no_triplet]

lemma length_encodedBody_le (raw : List UInt8) : (encodedBody raw).length ≤ raw.length :=
  Nat.le_trans (List.takeWhile_prefix _).length_le
    (Nat.le_trans (List.length_filter_le _ _) (List.rdropWhile_prefix _ (l := raw)).length_le)

/-! ## What a parser makes of a URL -/

namespace Parser.ReadsDataUrls

variable {p : Parser}

/-- Base64 data is shorter than its text, or empty. -/
lemma length_getD_decodeBase64 (hp : p.ReadsDataUrls) (text : List UInt8) :
    (p.decodeBase64 text).getD [] = [] ∨
      ((p.decodeBase64 text).getD []).length < text.length := by
  cases hdecode : p.decodeBase64 text with
  | none => exact Or.inl rfl
  | some data =>
    have hlength := hp.length_decodeBase64 hdecode
    have hle := length_base64Digits_le text
    rw [Option.getD_some]
    cases data with
    | nil => exact Or.inl rfl
    | cons c data =>
      rw [List.length_cons] at hlength ⊢
      right
      omega

/-- **When the text behind the comma is the data.**  For a URL with its scheme in front, and no
comma in the media type. -/
theorem parse_getD_eq_raw_iff (hp : p.ReadsDataUrls) {m raw : List UInt8} (hm : 44 ∉ m)
    (hdata : p.isDataUrl (dataScheme ++ m ++ 44 :: raw) = true) :
    (p.parse (dataScheme ++ m ++ 44 :: raw)).getD [] = raw ↔
      raw = [] ∨ 35 ∉ m ∧ p.isBase64 (m.filter fun c => !isTabOrNewline c) = false ∧
        IsPlain raw := by
  by_cases hfragment : 35 ∈ m
  · rw [hp.parse_no_comma hdata (notMem_content_data hm hfragment raw), Option.getD_none]
    constructor
    · intro h
      exact Or.inl h.symm
    · rintro (rfl | ⟨hnot, -⟩)
      · rfl
      · exact absurd hfragment hnot
  · have hcontent := content_data_of_notMem hfragment raw
    have hmf : 44 ∉ m.filter fun c => !isTabOrNewline c := fun h => hm (List.mem_filter.mp h).1
    cases hbase64 : p.isBase64 (m.filter fun c => !isTabOrNewline c) with
    | true =>
      -- base64 data is shorter than the text
      rw [hp.parse_base64 hdata hcontent hmf hbase64]
      have hshort := hp.length_getD_decodeBase64 (percentDecode (encodedBody raw))
      have hdecode := (length_percentDecode (encodedBody raw)).1
      have hbody := length_encodedBody_le raw
      constructor
      · intro h
        rcases hshort with hnil | hlt
        · exact Or.inl (h.symm.trans hnil)
        · rw [h] at hlt
          omega
      · rintro (rfl | ⟨-, h, -⟩)
        · rcases hshort with hnil | hlt
          · exact hnil
          · exact absurd hlt (Nat.not_lt_zero _)
        · cases h
    | false =>
      rw [hp.parse_plain hdata hcontent hmf hbase64, Option.getD_some,
        percentDecode_encodedBody_eq_iff]
      constructor
      · intro h
        exact Or.inr ⟨hfragment, rfl, h⟩
      · rintro (rfl | ⟨-, -, h⟩)
        · exact ⟨List.not_mem_nil, fun c hc => absurd hc List.not_mem_nil,
            fun hne => absurd rfl hne, rfl⟩
        · exact h

/-- Base64 without data. -/
lemma getD_decodeBase64_eq_nil_iff (hp : p.ReadsDataUrls) {text : List UInt8} :
    (p.decodeBase64 text).getD [] = [] ↔ ¬ WellFormedBase64 text ∨ base64Digits text = [] := by
  cases hdecode : p.decodeBase64 text with
  | none =>
    refine iff_of_true rfl (Or.inl fun h => ?_)
    rw [← hp.isSome_decodeBase64, hdecode] at h
    cases h
  | some data =>
    have hwell : WellFormedBase64 text := hp.isSome_decodeBase64.mp (Option.isSome_of_mem hdecode)
    have hlength := hp.length_decodeBase64 hdecode
    have hmod := hwell.length_mod
    rw [Option.getD_some, or_iff_right (not_not.mpr hwell), ← List.length_eq_zero_iff,
      ← List.length_eq_zero_iff]
    omega

lemma percentDecode_eq_nil_iff {text : List UInt8} : percentDecode text = [] ↔ text = [] := by
  unfold percentDecode
  split
  · split <;> simp
  · exact Iff.rfl

/-- **When a URL has no data.** -/
theorem parse_getD_eq_nil_iff (hp : p.ReadsDataUrls) {text : List UInt8}
    (hdata : p.isDataUrl text = true) : (p.parse text).getD [] = [] ↔ p.HasNoData text := by
  by_cases hcomma : 44 ∈ content text
  · obtain ⟨m, encoded, hcontent, hm⟩ := List.eq_append_cons_of_mem hcomma
    have hdecode : (p.parse text).getD [] = [] ↔
        if p.isBase64 m then
          ¬ WellFormedBase64 (percentDecode encoded) ∨ base64Digits (percentDecode encoded) = []
        else encoded = [] := by
      split
      · rename_i hbase64
        rw [hp.parse_base64 hdata hcontent hm hbase64, hp.getD_decodeBase64_eq_nil_iff]
      · rename_i hbase64
        rw [hp.parse_plain hdata hcontent hm (Bool.not_eq_true _ ▸ hbase64), Option.getD_some,
          percentDecode_eq_nil_iff]
    rw [hdecode]
    constructor
    · intro h m' encoded' hcontent' hm'
      -- the first comma is where it is
      have hsplit := hcontent.symm.trans hcontent'
      have hrest := congrArg (List.dropWhile (· ≠ 44)) hsplit
      have hfront := congrArg (List.takeWhile (· ≠ 44)) hsplit
      rw [dropWhile_ne_append_cons hm, dropWhile_ne_append_cons hm'] at hrest
      rw [takeWhile_ne_append_cons, takeWhile_ne_append_cons, takeWhile_ne_eq_self hm,
        takeWhile_ne_eq_self hm'] at hfront
      cases hrest
      rwa [← hfront]
    · exact fun h => h m encoded hcontent hm
  · rw [hp.parse_no_comma hdata hcomma]
    refine iff_of_true rfl fun m encoded hcontent _ => ?_
    exact absurd (hcontent ▸ List.mem_append_right _ List.mem_cons_self) hcomma

end Parser.ReadsDataUrls

end DataUrl
